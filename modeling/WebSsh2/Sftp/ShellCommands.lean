import WebSsh2.Sftp.FileService

namespace WebSsh2.Sftp

open WebSsh2.Library WebSsh2.State

def quote : UInt16 := 39

variable (path : JsString)

def escapeShellPath : JsString :=
  quote :: path.flatMap (fun unit => if unit = quote then js "'\\''" else [unit]) ++ [quote]

def buildListCommand (showHidden : Bool) : JsString :=
  let flags := if showHidden then js "-laA" else js "-la"
  js "ls " ++ flags ++ js " " ++ escapeShellPath path

def buildStatCommand : JsString :=
  js "ls -lad " ++ escapeShellPath path

def buildHomeCommand : JsString :=
  js "echo ~"

def catCommand : JsString :=
  js "cat " ++ escapeShellPath path

-- `catCommand` of `startUpload`
def catIntoCommand : JsString :=
  js "cat > " ++ escapeShellPath path

def resolveHomePath (stdout : JsString) : JsString :=
  trim stdout

structure LsEntry where
  name : JsString
  path : JsString
  type : SftpFileType
  size : Number
  permissions : JsString
  permissionsOctal : Nat
  owner : JsString
  group : JsString
  isHidden : Bool

def getFileTypeFromChar : Option UInt16 → SftpFileType
  | some 100 => .directory
  | some 108 => .symlink
  | some 45 => .file
  | _ => .other

def permissionBits : List Nat :=
  [0o400, 0o200, 0o100, 0o040, 0o020, 0o010, 0o004, 0o002, 0o001]

def parsePermissionString (permString : JsString) : Nat :=
  (permissionBits.zipIdx).foldl
    (fun octal (bit, index) => if permString[index + 1]? ≠ some 45 then octal ||| bit else octal) 0

-- What is left of the line behind its first `fields` columns, blanks skipped.
def dropFields : Nat → List JsString → JsString → Option JsString
  | 0, _, line =>
    let name := line.dropWhile (· = 32)
    if name = [] then none else some name
  | _ + 1, [], _ => none
  | fields + 1, part :: parts, line =>
    dropFields fields parts ((line.dropWhile (· = 32)).drop part.length)

-- The double next to a whole number, the even one of two that are equally far.
def roundToDouble (value : Nat) : Nat :=
  if value < 2 ^ 53 then
    value
  else
    let unit := 2 ^ (value.log2 - 52)
    let quotient := value / unit
    if 2 * (value % unit) < unit ∨ (2 * (value % unit) = unit ∧ quotient % 2 = 0) then
      quotient * unit
    else
      (quotient + 1) * unit

-- `Number.parseInt` gives a double.
def toDouble : Number → Number
  | .finite value =>
    let magnitude := roundToDouble value.num.natAbs
    if 2 ^ 1024 ≤ magnitude then .infinity (value < 0)
    else .ofInt (if value < 0 then -magnitude else magnitude)
  | value => value

def parseLsLine (line basePath : JsString) : Option LsEntry :=
  match splitWhiteSpace line with
  | parts@(permString :: _ :: owner :: group :: sizeStr :: _ :: _ :: _ :: _ :: _) =>
    if permString.length < 10 then
      none
    else
      (dropFields 8 parts line).map fun rest =>
        let name := ((Text.cut (js " -> ") rest).map Prod.fst).getD rest
        let size := toDouble (parseInt sizeStr)
        { name
          path := if basePath = js "/" ∨ basePath = js "." then
            js "/" ++ name else basePath ++ js "/" ++ name
          type := getFileTypeFromChar permString.head?
          size := if size = .nan then .finite 0 else size
          permissions := (permString.drop 1).take 9
          permissionsOctal := parsePermissionString permString
          owner, group
          isHidden := (js ".").isPrefixOf name }
  | _ => none

-- One round of the loop over the lines: the entry that it adds, if it adds one.
def parseListingLine (basePath line : JsString) : Option LsEntry :=
  let trimmed := trim line
  if trimmed = [] ∨ (js "total ").isPrefixOf trimmed then
    none
  else
    (parseLsLine trimmed basePath).filter fun entry =>
      entry.name ≠ js "." ∧ entry.name ≠ js ".."

def parseDirectoryListing (stdout basePath : JsString) : List LsEntry :=
  (stdout.splitOn 10).filterMap (parseListingLine basePath)

-- The first line that reads as an entry; its name and path are those asked for.
def parseStatEntry (stdout path : JsString) : Option LsEntry :=
  (stdout.splitOn 10).findSome? fun line =>
    let trimmed := trim line
    if trimmed = [] ∨ (js "total ").isPrefixOf trimmed then
      none
    else
      (parseLsLine trimmed (PathPosix.dirname path)).map fun entry =>
        { entry with path, name := PathPosix.basename path }

-- A quoted quote and any other unit start differently, so no two paths share a quoting.
theorem escapeShellPath_injective : Function.Injective escapeShellPath := by
  have hbody : ∀ first second : JsString,
      first.flatMap (fun unit => if unit = quote then js "'\\''" else [unit]) =
        second.flatMap (fun unit => if unit = quote then js "'\\''" else [unit]) →
      first = second := by
    have hquoted : js "'\\''" = quote :: [92, 39, 39] := by decide
    intro first
    induction first with
    | nil =>
      intro second h
      cases second with
      | nil => rfl
      | cons head rest =>
        by_cases hhead : head = quote <;> simp [hquoted, hhead] at h
    | cons head rest ih =>
      intro second h
      cases second with
      | nil => by_cases hhead : head = quote <;> simp [hquoted, hhead] at h
      | cons other later =>
        by_cases hhead : head = quote <;> by_cases hother : other = quote
        · simp only [List.flatMap_cons, hhead, hother, if_true] at h
          rw [hhead, hother, ih later (List.append_cancel_left h)]
        · simp only [List.flatMap_cons, hhead, if_true, if_neg hother, hquoted,
            List.cons_append] at h
          exact absurd (List.cons.inj h).1.symm hother
        · simp only [List.flatMap_cons, hother, if_true, if_neg hhead, hquoted,
            List.cons_append] at h
          exact absurd (List.cons.inj h).1 hhead
        · simp only [List.flatMap_cons, if_neg hhead, if_neg hother, List.cons_append,
            List.nil_append] at h
          obtain ⟨heq, htail⟩ := List.cons.inj h
          rw [heq, ih later htail]
  intro first second h
  simp only [escapeShellPath, List.cons_append] at h
  exact hbody first second (List.append_cancel_right (List.cons.inj h).2)

theorem catCommand_injective : Function.Injective catCommand :=
  fun _ _ h => escapeShellPath_injective (List.append_cancel_left h)

end WebSsh2.Sftp

import WebSsh2.Values
import WebSsh2.Library.PosixPath

namespace WebSsh2.Sftp

open WebSsh2.Library

namespace PathPosix

def alphabet : PosixPath.Alphabet UInt16 where
  slash := 47
  dot := 46
  dot_ne_slash := by decide

variable (path : JsString)

def normalize : JsString :=
  PosixPath.normalize alphabet path

def basename : JsString :=
  (((PosixPath.components alphabet path).filter (· ≠ [])).getLast?).getD []

-- The text in front of the slashes before the last component.
def dirname : JsString :=
  let rooted := path.head? = some alphabet.slash
  let before := (((path.drop 1).reverse.dropWhile (· = alphabet.slash)).dropWhile
    (· ≠ alphabet.slash)).length
  if before = 0 then
    if rooted then [alphabet.slash] else alphabet.here
  else if rooted ∧ before = 1 then
    [alphabet.slash, alphabet.slash]
  else
    path.take before

-- From the last dot on, unless nothing stands before that dot.
def extname : JsString :=
  let name := basename path
  let suffix := (name.reverse.takeWhile (· ≠ alphabet.dot)).reverse
  let stem := name.take (name.length - suffix.length - 1)
  if alphabet.dot ∉ name ∨ stem = [] ∨ name = alphabet.up then
    []
  else
    alphabet.dot :: suffix

end PathPosix

inductive PathValidationCode where
  | pathTraversal | pathTooLong | pathForbidden | extensionBlocked | invalidPath
deriving DecidableEq

structure PathValidationError where
  code : PathValidationCode
  message : JsString
  path : JsString
deriving DecidableEq

structure PathValidationOptions where
  allowedPaths : Option (List JsString)
  blockedExtensions : List JsString
  checkExtension : Option Bool

def maxPathLength : Nat := 4096

-- `~` itself, and paths below it.
def isTildePath (path : JsString) : Bool :=
  path = js "~" || (js "~/").isPrefixOf path

def normalizePath (inputPath : JsString) : JsString :=
  if inputPath = [] ∨ inputPath = js "." then
    js "."
  else if inputPath = js "~" ∨ inputPath = js "~/" then
    js "~"
  else if (js "~/").isPrefixOf inputPath then
    let normalizedRest := PathPosix.normalize (inputPath.drop 2)
    if normalizedRest = js "." then js "~" else js "~/" ++ normalizedRest
  else
    PathPosix.normalize inputPath

def checkPathTraversal (normalizedPath originalPath : JsString) :
    Except PathValidationError Unit :=
  if (js "..").isPrefixOf normalizedPath then
    .error ⟨.pathTraversal, js "Path traversal attempt detected", originalPath⟩
  else if 0 ∈ normalizedPath then
    .error ⟨.invalidPath, js "Invalid characters in path", originalPath⟩
  else
    .ok ()

def isWithin (normalizedPath allowedPath : JsString) : Bool :=
  let normalizedAllowed := normalizePath allowedPath
  normalizedPath = normalizedAllowed || (normalizedAllowed ++ js "/").isPrefixOf normalizedPath

def checkAllowedPaths (normalizedPath : JsString) :
    Option (List JsString) → Except PathValidationError Unit
  | none => .ok ()
  | some allowedPaths =>
    if allowedPaths = [] then
      .ok ()
    else if isTildePath normalizedPath ∧ allowedPaths.any isTildePath then
      .ok ()
    else if allowedPaths.any (isWithin normalizedPath) then
      .ok ()
    else
      .error ⟨.pathForbidden, js "Path not in allowed directories", normalizedPath⟩

section Validation

variable (toLowerCase : JsString → JsString)

def checkBlockedExtension (normalizedPath : JsString) (blockedExtensions : List JsString) :
    Except PathValidationError Unit :=
  if blockedExtensions = [] then
    .ok ()
  else
    let ext := toLowerCase (PathPosix.extname (PathPosix.basename normalizedPath))
    if ext = [] then
      .ok ()
    else
      let normalizedBlocked := blockedExtensions.map fun e =>
        let lower := toLowerCase e
        if (js ".").isPrefixOf lower then lower else js "." ++ lower
      if ext ∈ normalizedBlocked then
        .error ⟨.extensionBlocked, js "File extension " ++ ext ++ js " is not allowed",
          normalizedPath⟩
      else
        .ok ()

def validatePath (requestedPath : JsString) (options : PathValidationOptions) :
    Except PathValidationError JsString :=
  if 0 ∈ requestedPath then
    .error ⟨.invalidPath, js "Path contains null bytes", requestedPath⟩
  else if maxPathLength < requestedPath.length then
    .error ⟨.pathTooLong, js "Path exceeds maximum length of 4096 characters", requestedPath⟩
  else
    let normalized := normalizePath requestedPath
    match checkPathTraversal normalized requestedPath with
    | .error error => .error error
    | .ok () =>
      match checkAllowedPaths normalized options.allowedPaths with
      | .error error => .error error
      | .ok () =>
        if options.checkExtension = some true then
          match checkBlockedExtension toLowerCase normalized options.blockedExtensions with
          | .error error => .error error
          | .ok () => .ok normalized
        else
          .ok normalized

def accepts (requestedPath : JsString) (options : PathValidationOptions) : Bool :=
  (validatePath toLowerCase requestedPath options).isOk

end Validation

variable {path : JsString}

theorem isTildePath_iff :
    isTildePath path = true ↔ path = js "~" ∨ ∃ rest, path = js "~/" ++ rest := by
  simp only [isTildePath, Bool.or_eq_true, decide_eq_true_eq, List.isPrefixOf_iff_prefix]
  exact or_congr Iff.rfl ⟨fun ⟨rest, h⟩ => ⟨rest, h.symm⟩, fun ⟨rest, h⟩ => ⟨rest, h.symm⟩⟩

-- A path of the home directory keeps its `~` in front of the normal form of
-- the rest; any other path is normalised as a whole.
theorem normalizePath_cases (path : JsString) :
    (isTildePath path = true ∧ (normalizePath path = js "~" ∨
      ∃ rest, path = js "~/" ++ rest ∧ normalizePath path = js "~/" ++ PathPosix.normalize rest)) ∨
    (isTildePath path = false ∧ normalizePath path = PathPosix.normalize path) := by
  unfold normalizePath
  split
  · rename_i hdot
    right
    rcases hdot with rfl | rfl <;> decide
  split
  · rename_i htilde
    left
    refine ⟨?_, .inl rfl⟩
    rcases htilde with rfl | rfl <;> decide
  split
  · rename_i hpre
    obtain ⟨rest, rfl⟩ := List.isPrefixOf_iff_prefix.mp hpre
    left
    refine ⟨isTildePath_iff.mpr (.inr ⟨rest, rfl⟩), ?_⟩
    have hdrop : (js "~/" ++ rest).drop 2 = rest := rfl
    simp only [hdrop]
    split
    · exact .inl rfl
    · exact .inr ⟨rest, rfl, rfl⟩
  · rename_i htilde hpre
    right
    refine ⟨?_, rfl⟩
    simp only [not_or] at htilde
    simp [isTildePath, htilde.1, hpre]

theorem normalizePath_ne_nil (path : JsString) : normalizePath path ≠ [] := by
  rcases normalizePath_cases path with ⟨_, heq | ⟨rest, _, heq⟩⟩ | ⟨_, heq⟩ <;> rw [heq]
  · decide
  · exact List.append_ne_nil_of_left_ne_nil (by decide) _
  · exact PosixPath.normalize_ne_nil path

theorem nul_notMem_normalizePath (h : 0 ∉ path) : 0 ∉ normalizePath path := by
  have hposix : ∀ rest : JsString, 0 ∉ rest → 0 ∉ PathPosix.normalize rest := by
    intro rest hrest hmem
    rcases PosixPath.mem_normalize hmem with hmem | heq | heq
    · exact hrest hmem
    · exact absurd heq (by decide)
    · exact absurd heq (by decide)
  rcases normalizePath_cases path with ⟨_, heq | ⟨rest, rfl, heq⟩⟩ | ⟨_, heq⟩ <;> rw [heq]
  · decide
  · rw [List.mem_append, not_or] at h ⊢
    exact ⟨h.1, hposix rest h.2⟩
  · exact hposix path h

theorem validatePath_ok {toLowerCase : JsString → JsString} {path normalized : JsString}
    {options : PathValidationOptions}
    (h : validatePath toLowerCase path options = .ok normalized) :
    normalized = normalizePath path := by
  unfold validatePath at h
  split at h
  · cases h
  split at h
  · cases h
  dsimp only at h
  split at h
  · cases h
  split at h
  · cases h
  split at h
  · split at h
    · cases h
    · exact (Except.ok.inj h).symm
  · exact (Except.ok.inj h).symm

-- What the checks ask of the normal form when extensions are not checked.
theorem accepts_iff (toLowerCase : JsString → JsString) {options : PathValidationOptions}
    {allowedPaths : List JsString} (hnul : 0 ∉ path) (hlength : path.length ≤ maxPathLength)
    (hallowed : options.allowedPaths = some allowedPaths) (hne : allowedPaths ≠ [])
    (hextension : options.checkExtension ≠ some true) :
    accepts toLowerCase path options = true ↔
      ¬ js ".." <+: normalizePath path ∧
        (isTildePath (normalizePath path) = true ∧ allowedPaths.any isTildePath = true ∨
          ∃ entry ∈ allowedPaths, isWithin (normalizePath path) entry = true) := by
  have hnormal := nul_notMem_normalizePath hnul
  simp only [accepts, validatePath, if_neg hnul, if_neg (Nat.not_lt.mpr hlength), hallowed,
    checkPathTraversal, checkAllowedPaths, if_neg hne, if_neg hextension, if_neg hnormal]
  by_cases hup : (js "..").isPrefixOf (normalizePath path) = true
  · rw [if_pos hup]
    simp [Except.isOk, Except.toBool, List.isPrefixOf_iff_prefix.mp hup]
  · have hpre : ¬ js ".." <+: normalizePath path :=
      fun h => hup (List.isPrefixOf_iff_prefix.mpr h)
    rw [if_neg hup]
    rw [← List.any_eq_true]
    by_cases hhome : isTildePath (normalizePath path) = true ∧ allowedPaths.any isTildePath = true
    · simp only [if_pos hhome]
      exact ⟨fun _ => ⟨hpre, .inl hhome⟩, fun _ => rfl⟩
    · by_cases hwithin : allowedPaths.any (isWithin (normalizePath path)) = true
      · simp only [if_neg hhome, if_pos hwithin]
        exact ⟨fun _ => ⟨hpre, .inr hwithin⟩, fun _ => rfl⟩
      · simp only [if_neg hhome, if_neg hwithin]
        refine ⟨fun h => absurd h Bool.false_ne_true, fun h => ?_⟩
        exact (h.2.elim hhome hwithin).elim

end WebSsh2.Sftp

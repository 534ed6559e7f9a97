import Mathlib.Data.List.DropRight
import WebSsh2.Decimal
import WebSsh2.Sftp.ShellCommands

namespace WebSsh2.Sftp

open WebSsh2.Library

-- The text without the white space behind it.
def trimEnd (text : JsString) : JsString :=
  text.rdropWhile isWhiteSpace

def HasInk (text : JsString) : Prop :=
  ∃ unit ∈ text, isWhiteSpace unit = false

instance (text : JsString) : Decidable (HasInk text) :=
  inferInstanceAs (Decidable (∃ unit ∈ text, _))

-- A text without white space, as the columns of a listing have it.
structure Column where
  text : JsString
  hne : text ≠ []
  hink : ∀ unit ∈ text, isWhiteSpace unit = false

def blanks (count : Nat) : JsString :=
  List.replicate (count + 1) 32

-- Columns, each with one or more blanks behind it, and the rest of the line.
def spread (columns : List (Column × Nat)) (rest : JsString) : JsString :=
  columns.foldr (fun (column, count) later => column.text ++ (blanks count ++ later)) rest

theorem spread_cons (column : Column) (count : Nat) (columns : List (Column × Nat))
    (rest : JsString) : spread ((column, count) :: columns) rest =
      column.text ++ (blanks count ++ spread columns rest) := rfl

theorem spread_append (columns : List (Column × Nat)) (first second : JsString) :
    spread columns (first ++ second) = spread columns first ++ second := by
  induction columns with
  | nil => rfl
  | cons column columns ih =>
    obtain ⟨column, count⟩ := column
    rw [spread_cons, spread_cons, ih, List.append_assoc, List.append_assoc]

section WhiteSpace

theorem mem_blanks {count : Nat} {unit : UInt16} (h : unit ∈ blanks count) : unit = 32 :=
  (List.mem_replicate.mp h).2

theorem Column.dropWhile_append {p : UInt16 → Bool} (column : Column)
    (hp : ∀ unit, p unit = true → isWhiteSpace unit = true) (rest : JsString) :
    (column.text ++ rest).dropWhile p = column.text ++ rest := by
  obtain ⟨head, tail, htext⟩ := List.exists_cons_of_ne_nil column.hne
  have hhead : isWhiteSpace head = false :=
    column.hink head (by rw [htext]; exact List.mem_cons_self)
  rw [htext, List.cons_append, List.dropWhile_cons_of_neg]
  exact fun h => Bool.noConfusion (hhead.symm.trans (hp head h))

variable {text : JsString}

theorem blank_iff : ¬HasInk text ↔ ∀ unit ∈ text, isWhiteSpace unit = true := by
  simp [HasInk]

theorem trimEnd_append_of_ink (hink : HasInk text) (before : JsString) :
    trimEnd (before ++ text) = before ++ trimEnd text := by
  obtain ⟨unit, hmem, hunit⟩ := hink
  have hsome : text.reverse.dropWhile isWhiteSpace ≠ [] := by
    intro hnil
    have hall := List.dropWhile_eq_nil_iff.mp hnil unit (List.mem_reverse.mpr hmem)
    exact Bool.noConfusion (hunit.symm.trans hall)
  unfold trimEnd List.rdropWhile
  rw [List.reverse_append, List.dropWhile_append, if_neg (by simpa using hsome),
    List.reverse_append, List.reverse_reverse]

theorem trimEnd_append_of_blank (hblank : ¬HasInk text) (before : JsString) :
    trimEnd (before ++ text) = trimEnd before := by
  unfold trimEnd List.rdropWhile
  rw [List.reverse_append, List.dropWhile_append_of_pos]
  intro unit hmem
  exact blank_iff.mp hblank unit (List.mem_reverse.mp hmem)

-- What is left behind the trimming ends in something visible.
theorem hasInk_trimEnd (hink : HasInk text) : HasInk (trimEnd text) := by
  have hne : trimEnd text ≠ [] := by
    intro hnil
    obtain ⟨unit, hmem, hunit⟩ := hink
    exact Bool.noConfusion (hunit.symm.trans (List.rdropWhile_eq_nil_iff.mp hnil unit hmem))
  have hlast := List.rdropWhile_last_not isWhiteSpace text hne
  exact ⟨_, List.getLast_mem hne, Bool.eq_false_iff.mpr hlast⟩

theorem dropWhile_ne_nil {p : UInt16 → Bool} (hink : HasInk text)
    (hp : ∀ unit, p unit = true → isWhiteSpace unit = true) : text.dropWhile p ≠ [] := by
  intro hnil
  obtain ⟨unit, hmem, hunit⟩ := hink
  exact Bool.noConfusion (hunit.symm.trans (hp unit (List.dropWhile_eq_nil_iff.mp hnil unit hmem)))

theorem isWhiteSpace_of_blank (unit : UInt16) (h : decide (unit = 32) = true) :
    isWhiteSpace unit = true := by
  rw [of_decide_eq_true h]
  decide

end WhiteSpace

section Splitting

theorem go_text (current text rest : JsString) (hink : ∀ unit ∈ text, isWhiteSpace unit = false) :
    splitWhiteSpace.go current false (text ++ rest) =
      splitWhiteSpace.go (text.reverse ++ current) false rest := by
  induction text generalizing current with
  | nil => rfl
  | cons unit text ih =>
    rw [List.cons_append, splitWhiteSpace.go, if_neg (by simp [hink unit List.mem_cons_self]),
      ih _ fun other hother => hink other (List.mem_cons_of_mem _ hother), List.reverse_cons,
      List.append_assoc]
    rfl

theorem go_gap (rest : JsString) :
    splitWhiteSpace.go [] true rest = splitWhiteSpace (rest.dropWhile isWhiteSpace) := by
  induction rest with
  | nil => rfl
  | cons unit rest ih =>
    by_cases hunit : isWhiteSpace unit = true
    · rw [splitWhiteSpace.go, if_pos hunit, if_pos rfl, List.dropWhile_cons_of_pos hunit, ih]
    · rw [splitWhiteSpace.go, if_neg hunit, List.dropWhile_cons_of_neg hunit, splitWhiteSpace,
        splitWhiteSpace.go, if_neg hunit]

theorem splitWhiteSpace_column (column : Column) (count : Nat) (rest : JsString) :
    splitWhiteSpace (column.text ++ (blanks count ++ rest)) =
      column.text :: splitWhiteSpace (rest.dropWhile isWhiteSpace) := by
  have hblank : isWhiteSpace 32 = true := by decide
  rw [splitWhiteSpace, go_text _ _ _ column.hink, List.append_nil, blanks, List.replicate_succ,
    List.cons_append, splitWhiteSpace.go, if_pos hblank, if_neg (by decide), List.reverse_reverse,
    go_gap, List.dropWhile_append_of_pos]
  intro unit hmem
  rw [(List.mem_replicate.mp hmem).2]
  exact hblank

theorem splitWhiteSpace_text (column : Column) : splitWhiteSpace column.text = [column.text] := by
  have htext := go_text [] column.text [] column.hink
  rw [List.append_nil, List.append_nil] at htext
  rw [splitWhiteSpace, htext, splitWhiteSpace.go, List.reverse_reverse]

theorem splitWhiteSpace_spread (columns : List (Column × Nat)) (rest : JsString) :
    splitWhiteSpace ((spread columns rest).dropWhile isWhiteSpace) =
      columns.map (fun column => column.1.text) ++
        splitWhiteSpace (rest.dropWhile isWhiteSpace) := by
  induction columns with
  | nil => rfl
  | cons column columns ih =>
    obtain ⟨column, count⟩ := column
    rw [spread_cons, column.dropWhile_append (fun _ h => h), splitWhiteSpace_column, ih]
    rfl

theorem dropFields_succ (fields : Nat) (part : JsString) (parts : List JsString)
    (line : JsString) : dropFields (fields + 1) (part :: parts) line =
      dropFields fields parts ((line.dropWhile (· = 32)).drop part.length) := rfl

theorem dropFields_spread (columns : List (Column × Nat)) (more : List JsString) (count : Nat)
    (rest : JsString) :
    dropFields columns.length (columns.map (fun column => column.1.text) ++ more)
        (List.replicate count 32 ++ spread columns rest) = dropFields 0 more rest := by
  induction columns generalizing count with
  | nil =>
    have hblanks : (List.replicate count 32 ++ rest).dropWhile (· = (32 : UInt16)) =
        rest.dropWhile (· = 32) := by
      apply List.dropWhile_append_of_pos
      intro unit hmem
      exact decide_eq_true (List.mem_replicate.mp hmem).2
    show dropFields 0 more (List.replicate count 32 ++ rest) = dropFields 0 more rest
    simp only [dropFields, hblanks]
  | cons column columns ih =>
    obtain ⟨column, gap⟩ := column
    have hblanks : (List.replicate count 32 ++ (column.text ++ (blanks gap ++
        spread columns rest))).dropWhile (· = (32 : UInt16)) =
        column.text ++ (blanks gap ++ spread columns rest) := by
      rw [List.dropWhile_append_of_pos, column.dropWhile_append isWhiteSpace_of_blank]
      intro unit hmem
      exact decide_eq_true (List.mem_replicate.mp hmem).2
    rw [List.length_cons, List.map_cons, List.cons_append, dropFields_succ, spread_cons, hblanks,
      List.drop_left]
    exact ih (gap + 1)

end Splitting

-- Read, write and execute for one class of users, and the bit that is shown with the last.
structure Triad where
  read : Bool
  write : Bool
  exec : Bool
  special : Bool

structure LsMode where
  owner : Triad
  group : Triad
  other : Triad

def Triad.letters (lower upper : UInt16) (triad : Triad) : JsString :=
  [if triad.read then 114 else 45, if triad.write then 119 else 45,
    if triad.special then (if triad.exec then lower else upper)
    else if triad.exec then 120 else 45]

def LsMode.letters (mode : LsMode) : JsString :=
  mode.owner.letters 115 83 ++ mode.group.letters 115 83 ++ mode.other.letters 116 84

def Triad.bits (triad : Triad) : List Bool :=
  [triad.read, triad.write, triad.exec]

-- The nine permission bits as a number.
def LsMode.octal (mode : LsMode) : Nat :=
  (mode.owner.bits ++ mode.group.bits ++ mode.other.bits).foldl
    (fun value bit => 2 * value + bit.toNat) 0

inductive LsKind where
  | directory
  | file
  | symlink (target : JsString) (htarget : target ≠ [] ∧ 10 ∉ target)
  | other (char : UInt16) (hchar : char ∈ js "bcps")

namespace LsKind

def char : LsKind → UInt16
  | .directory => 100
  | .file => 45
  | .symlink _ _ => 108
  | .other char _ => char

def type : LsKind → SftpFileType
  | .directory => .directory
  | .file => .file
  | .symlink _ _ => .symlink
  | .other _ _ => .other

-- What stands behind the name.
def suffix : LsKind → JsString
  | .symlink target _ => js " -> " ++ target
  | _ => []

end LsKind

-- The columns of an entry before its name, and how many more blanks than one are behind each.
structure LsColumns where
  mode : LsMode
  links : Nat
  owner : Column
  group : Column
  size : Nat
  month : Column
  day : Column
  time : Column
  padding : Nat → Nat

structure LsFile extends LsColumns where
  kind : LsKind
  name : JsString
  hname : name ≠ [] ∧ 47 ∉ name ∧ 10 ∉ name

structure Listing where
  total : Nat
  self : LsColumns
  parent : LsColumns
  entries : List LsFile

section Columns

theorem Triad.letters_ink {lower upper : UInt16} (hlower : isWhiteSpace lower = false)
    (hupper : isWhiteSpace upper = false) (triad : Triad) :
    ∀ unit ∈ triad.letters lower upper, isWhiteSpace unit = false := by
  obtain ⟨read, write, exec, special⟩ := triad
  have hdash : isWhiteSpace 45 = false := by decide
  have hread : isWhiteSpace 114 = false := by decide
  have hwrite : isWhiteSpace 119 = false := by decide
  have hexec : isWhiteSpace 120 = false := by decide
  intro unit hmem
  simp only [Triad.letters, List.mem_cons, List.not_mem_nil, or_false] at hmem
  rcases hmem with rfl | rfl | rfl
  · cases read <;> assumption
  · cases write <;> assumption
  · cases special <;> cases exec <;> assumption

def modeColumn (kind : LsKind) (mode : LsMode) : Column where
  text := kind.char :: mode.letters
  hne := List.cons_ne_nil _ _
  hink := by
    intro unit hmem
    rw [List.mem_cons, LsMode.letters, List.mem_append, List.mem_append] at hmem
    rcases hmem with rfl | (hmem | hmem) | hmem
    · cases kind with
      | directory => exact (by decide : isWhiteSpace 100 = false)
      | file => exact (by decide : isWhiteSpace 45 = false)
      | symlink => exact (by decide : isWhiteSpace 108 = false)
      | other char hchar =>
        exact (show ∀ unit ∈ js "bcps", isWhiteSpace unit = false by decide) char hchar
    · exact Triad.letters_ink (by decide) (by decide) _ unit hmem
    · exact Triad.letters_ink (by decide) (by decide) _ unit hmem
    · exact Triad.letters_ink (by decide) (by decide) _ unit hmem

def decimalColumn (value : Nat) : Column where
  text := decimal value
  hne := decimal_ne_nil value
  hink := fun _ hmem => isWhiteSpace_of_isDigit (isDigit_of_mem_decimal hmem)

end Columns

def LsColumns.columns (columns : LsColumns) (kind : LsKind) : List (Column × Nat) :=
  [(modeColumn kind columns.mode, columns.padding 0),
    (decimalColumn columns.links, columns.padding 1), (columns.owner, columns.padding 2),
    (columns.group, columns.padding 3), (decimalColumn columns.size, columns.padding 4),
    (columns.month, columns.padding 5), (columns.day, columns.padding 6),
    (columns.time, columns.padding 7)]

def LsColumns.line (columns : LsColumns) (kind : LsKind) (name : JsString) : JsString :=
  spread (columns.columns kind) (name ++ kind.suffix)

def LsFile.line (file : LsFile) : JsString :=
  file.toLsColumns.line file.kind file.name

def Listing.lines (listing : Listing) : List JsString :=
  [js "total " ++ decimal listing.total, listing.self.line .directory (js "."),
    listing.parent.line .directory (js "..")] ++ listing.entries.map LsFile.line

-- The output of `ls -la`.
def Listing.render (listing : Listing) : JsString :=
  listing.lines.flatMap fun line => line ++ [10]

-- What an entry has to say of a file of the directory `basePath`.
structure Shows (basePath : JsString) (file : LsFile) (entry : LsEntry) : Prop where
  name : entry.name = file.name
  path : entry.path = (if basePath = js "/" ∨ basePath = js "." then js "/" ++ file.name
    else basePath ++ js "/" ++ file.name)
  type : entry.type = file.kind.type
  size : entry.size = .ofInt file.size
  permissionsOctal : entry.permissionsOctal = file.mode.octal

def Triad.Plain (triad : Triad) : Prop :=
  triad.special = true → triad.exec = true

-- The number is a double.
def IsDouble (value : Nat) : Prop :=
  roundToDouble value = value ∧ value < 2 ^ 1024

-- The name can be told from what is around it: it does not start with a blank, and it is not
-- cut short by an arrow or by the end of the line.
def LsKind.Delimits (name : JsString) : LsKind → Prop
  | .symlink target _ => HasInk target ∧ ¬js " -> " <:+: name ++ js " ->"
  | _ => trimEnd name = name ∧ ¬js " -> " <:+: name

structure LsFile.Faithful (file : LsFile) : Prop where
  start : file.name.head? ≠ some 32
  delimited : file.kind.Delimits file.name
  proper : file.name ≠ js "." ∧ file.name ≠ js ".."
  modes : file.mode.owner.Plain ∧ file.mode.group.Plain ∧ file.mode.other.Plain
  size : IsDouble file.size

end WebSsh2.Sftp

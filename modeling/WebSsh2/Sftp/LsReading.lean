import WebSsh2.Library.Pieces
import WebSsh2.Sftp.LsColumns

namespace WebSsh2.Sftp

open WebSsh2.Library

section Modes

theorem Triad.shown_letters {lower upper : UInt16} (hlower : lower ≠ 45) (hupper : upper ≠ 45)
    (triad : Triad) :
    (triad.letters lower upper).map (fun letter => decide (letter ≠ 45)) =
      [triad.read, triad.write, triad.exec || triad.special] := by
  obtain ⟨read, write, exec, special⟩ := triad
  cases read <;> cases write <;> cases exec <;> cases special <;>
    simp [Triad.letters, hlower, hupper]

-- The bits that the parser takes for set.
def LsMode.shown (mode : LsMode) : List Bool :=
  [mode.owner.read, mode.owner.write, mode.owner.exec || mode.owner.special,
    mode.group.read, mode.group.write, mode.group.exec || mode.group.special,
    mode.other.read, mode.other.write, mode.other.exec || mode.other.special]

def octalOf (bits : List Bool) : Nat :=
  bits.foldl (fun value bit => 2 * value + bit.toNat) 0

theorem parsePermissionString_nine (type a b c d e f g h i : UInt16) :
    parsePermissionString [type, a, b, c, d, e, f, g, h, i] =
      octalOf ([a, b, c, d, e, f, g, h, i].map fun letter => decide (letter ≠ 45)) := by
  have hbits : ∀ a b c d e f g h i : Bool,
      (permissionBits.zip [a, b, c, d, e, f, g, h, i]).foldl
        (fun octal (bit, set) => if set then octal ||| bit else octal) 0 =
      octalOf [a, b, c, d, e, f, g, h, i] := by
    decide +kernel
  have hshown := hbits (a ≠ 45) (b ≠ 45) (c ≠ 45) (d ≠ 45) (e ≠ 45) (f ≠ 45) (g ≠ 45) (h ≠ 45)
    (i ≠ 45)
  simpa [parsePermissionString, permissionBits] using hshown

theorem parsePermissionString_letters (type : UInt16) (mode : LsMode) :
    parsePermissionString (type :: mode.letters) = octalOf mode.shown := by
  have hletters : mode.letters.map (fun letter => decide (letter ≠ 45)) = mode.shown := by
    rw [LsMode.letters, List.map_append, List.map_append,
      Triad.shown_letters (by decide) (by decide), Triad.shown_letters (by decide) (by decide),
      Triad.shown_letters (by decide) (by decide)]
    rfl
  rw [← hletters]
  exact parsePermissionString_nine type _ _ _ _ _ _ _ _ _

end Modes

section Sizes

end Sizes

section Names

variable (rest : JsString)

-- The name in what stands behind the columns of a line.
def nameOf : JsString :=
  ((Text.cut (js " -> ") rest).map Prod.fst).getD rest

def startOf (tail : JsString) : JsString :=
  (trimEnd tail).dropWhile (· = 32)

variable {name : JsString}

end Names

section Lines

variable (columns : LsColumns) (kind : LsKind) (basePath : JsString)

-- The entry for a line, with whatever name was read.
def LsColumns.entry (name : JsString) : LsEntry where
  name
  path := if basePath = js "/" ∨ basePath = js "." then
    js "/" ++ name else basePath ++ js "/" ++ name
  type := kind.type
  size := toDouble (.ofInt columns.size)
  permissions := columns.mode.letters
  permissionsOctal := octalOf columns.mode.shown
  owner := columns.owner.text
  group := columns.group.text
  isHidden := (js ".").isPrefixOf name

theorem getFileTypeFromChar_char : getFileTypeFromChar (some kind.char) = kind.type := by
  cases kind with
  | directory | file | symlink => rfl
  | other char hchar =>
    exact (show ∀ char ∈ js "bcps", getFileTypeFromChar (some char) = .other by decide)
      char hchar

theorem toDouble_ne_nan (value : Nat) : toDouble (.ofInt value) ≠ .nan := by
  unfold toDouble Number.ofInt
  dsimp only
  split <;> exact Number.noConfusion

theorem size_column (size : Nat) :
    (if toDouble (parseInt (decimal size)) = .nan then .finite 0
      else toDouble (parseInt (decimal size))) = toDouble (.ofInt size) := by
  rw [parseInt_decimal, if_neg (toDouble_ne_nan size)]

theorem splitWhiteSpace_ne_nil (text : JsString) :
    ∃ first rest, splitWhiteSpace text = first :: rest := by
  have hgo : ∀ current inGap, ∃ first rest,
      splitWhiteSpace.go current inGap text = first :: rest := by
    induction text with
    | nil => exact fun current inGap => ⟨_, [], rfl⟩
    | cons unit text ih =>
      intro current inGap
      rw [splitWhiteSpace.go]
      by_cases hunit : isWhiteSpace unit = true
      · rw [if_pos hunit]
        cases inGap with
        | true => exact ih [] true
        | false => exact ⟨_, _, rfl⟩
      · rw [if_neg hunit]
        exact ih (unit :: current) false
  exact hgo [] false

theorem dropWhile_columns (rest : JsString) :
    (spread (columns.columns kind) rest).dropWhile isWhiteSpace =
      spread (columns.columns kind) rest :=
  (modeColumn kind columns.mode).dropWhile_append (fun _ h => h) _

theorem parseLsLine_line {rest : JsString} (hink : HasInk rest) :
    parseLsLine (spread (columns.columns kind) rest) basePath =
      some (columns.entry kind basePath (nameOf (rest.dropWhile (· = 32)))) := by
  obtain ⟨first, more, hmore⟩ := splitWhiteSpace_ne_nil (rest.dropWhile isWhiteSpace)
  have hparts : splitWhiteSpace (spread (columns.columns kind) rest) =
      (columns.columns kind).map (fun column => column.1.text) ++ first :: more := by
    rw [← hmore, ← splitWhiteSpace_spread, dropWhile_columns]
  have hfields : dropFields 8 ((columns.columns kind).map (fun column => column.1.text) ++
      first :: more) (spread (columns.columns kind) rest) = some (rest.dropWhile (· = 32)) := by
    have hspread := dropFields_spread (columns.columns kind) (first :: more) 0 rest
    rw [show (columns.columns kind).length = 8 from rfl] at hspread
    refine hspread.trans ?_
    rw [dropFields, if_neg (dropWhile_ne_nil hink isWhiteSpace_of_blank)]
  have hlength : ¬(modeColumn kind columns.mode).text.length < 10 := Nat.lt_irrefl 10
  have hsize := size_column columns.size
  have hoctal := parsePermissionString_letters kind.char columns.mode
  have htype := getFileTypeFromChar_char kind
  unfold parseLsLine
  rw [hparts]
  refine (if_neg hlength).trans ((congrArg (Option.map _) hfields).trans ?_)
  unfold LsColumns.entry
  rw [← hsize, ← hoctal, ← htype]
  rfl

-- Where nothing is visible behind the columns, the last one ends the line.
def LsColumns.short : JsString :=
  spread ((columns.columns kind).dropLast) columns.time.text

theorem trimEnd_column (column : Column) : trimEnd column.text = column.text := by
  refine List.rdropWhile_eq_self_iff.mpr fun hne hlast => ?_
  exact Bool.noConfusion ((column.hink _ (List.getLast_mem hne)).symm.trans hlast)

theorem trim_line (tail : JsString) :
    trim (spread (columns.columns kind) tail) =
      if HasInk tail then spread (columns.columns kind) (trimEnd tail)
      else columns.short kind := by
  show trimEnd ((spread (columns.columns kind) tail).dropWhile isWhiteSpace) = _
  rw [dropWhile_columns]
  by_cases hink : HasInk tail
  · have hfirst := spread_append (columns.columns kind) [] tail
    have htrimmed := spread_append (columns.columns kind) [] (trimEnd tail)
    rw [List.nil_append] at hfirst htrimmed
    rw [if_pos hink, hfirst, htrimmed, trimEnd_append_of_ink hink]
  · have hcolumn : HasInk columns.time.text := by
      obtain ⟨unit, rest, htext⟩ := List.exists_cons_of_ne_nil columns.time.hne
      have hmem : unit ∈ columns.time.text := by rw [htext]; exact List.mem_cons_self
      exact ⟨unit, hmem, columns.time.hink unit hmem⟩
    have hblank : ¬HasInk (blanks (columns.padding 7) ++ tail) := by
      rw [blank_iff]
      intro unit hmem
      rcases List.mem_append.mp hmem with hmem | hmem
      · rw [mem_blanks hmem]
        decide
      · exact blank_iff.mp hink unit hmem
    have hsplit : spread (columns.columns kind) tail =
        spread ((columns.columns kind).dropLast) [] ++
          (columns.time.text ++ (blanks (columns.padding 7) ++ tail)) := by
      rw [← spread_append]
      rfl
    have hshort : columns.short kind =
        spread ((columns.columns kind).dropLast) [] ++ columns.time.text := by
      rw [← spread_append]
      rfl
    rw [if_neg hink, hsplit, hshort, ← List.append_assoc, trimEnd_append_of_blank hblank,
      trimEnd_append_of_ink hcolumn, trimEnd_column]

theorem parseLsLine_short : parseLsLine (columns.short kind) basePath = none := by
  have hparts : splitWhiteSpace (columns.short kind) =
      ((columns.columns kind).dropLast).map (fun column => column.1.text) ++
        [columns.time.text] := by
    have hspread := splitWhiteSpace_spread ((columns.columns kind).dropLast) columns.time.text
    have htime : columns.time.text.dropWhile isWhiteSpace = columns.time.text := by
      have hdrop := columns.time.dropWhile_append (fun _ h => h) []
      rwa [List.append_nil] at hdrop
    rw [htime, splitWhiteSpace_text] at hspread
    rw [← hspread]
    exact congrArg splitWhiteSpace
      ((modeColumn kind columns.mode).dropWhile_append (fun _ h => h) _).symm
  unfold parseLsLine
  rw [hparts]
  rfl

-- No line of an entry is empty or the line of the total.
theorem line_proceeds {text : JsString}
    (h : ∃ rest, text = (modeColumn kind columns.mode).text ++ rest) :
    ¬(text = [] ∨ (js "total ").isPrefixOf text = true) := by
  obtain ⟨rest, rfl⟩ := h
  have hchar : kind.char ≠ 116 := by
    cases kind with
    | directory => exact (by decide : (100 : UInt16) ≠ 116)
    | file => exact (by decide : (45 : UInt16) ≠ 116)
    | symlink => exact (by decide : (108 : UInt16) ≠ 116)
    | other char hchar =>
      exact (show ∀ char ∈ js "bcps", char ≠ 116 by decide) char hchar
  rintro (hempty | htotal)
  · cases hempty
  · obtain ⟨later, hlater⟩ := List.isPrefixOf_iff_prefix.mp htotal
    exact hchar (List.cons.inj hlater).1.symm

theorem parseListingLine_line (tail : JsString) :
    parseListingLine basePath (spread (columns.columns kind) tail) =
      if HasInk tail then
        (some (columns.entry kind basePath (nameOf (startOf tail)))).filter fun entry =>
          entry.name ≠ js "." ∧ entry.name ≠ js ".."
      else
        none := by
  unfold parseListingLine
  dsimp only
  rw [trim_line]
  by_cases hink : HasInk tail
  · have hproceeds :=
      @line_proceeds columns kind (spread (columns.columns kind) (trimEnd tail)) ⟨_, rfl⟩
    rw [if_pos hink, if_pos hink, if_neg hproceeds,
      parseLsLine_line columns kind basePath (hasInk_trimEnd hink)]
    rfl
  · have hproceeds := @line_proceeds columns kind (columns.short kind) ⟨_, rfl⟩
    rw [if_neg hink, if_neg hink, if_neg hproceeds, parseLsLine_short]
    rfl

end Lines

section Files

end Files

end WebSsh2.Sftp

namespace WebSsh2.Sftp

open WebSsh2.Library WebSsh2.Library.Pieces

section Lines

theorem newline_notMem_column (column : Column) : 10 ∉ column.text :=
  fun hmem => absurd (column.hink 10 hmem) (by decide)

theorem newline_notMem_spread (columns : List (Column × Nat)) {rest : JsString} (h : 10 ∉ rest) :
    10 ∉ spread columns rest := by
  induction columns with
  | nil => exact h
  | cons column columns ih =>
    obtain ⟨column, count⟩ := column
    rw [spread_cons, List.mem_append, List.mem_append, not_or, not_or]
    exact ⟨newline_notMem_column column, fun hmem => absurd (mem_blanks hmem) (by decide), ih⟩

theorem newline_notMem_line (columns : LsColumns) (kind : LsKind) {name : JsString}
    (hname : 10 ∉ name) : 10 ∉ columns.line kind name := by
  apply newline_notMem_spread
  rw [List.mem_append, not_or]
  refine ⟨hname, ?_⟩
  cases kind with
  | directory | file | other => exact List.not_mem_nil
  | symlink target htarget =>
    show 10 ∉ js " -> " ++ target
    rw [List.mem_append, not_or]
    exact ⟨by decide, htarget.2⟩

theorem newline_notMem_total (total : Nat) : 10 ∉ js "total " ++ decimal total := by
  rw [List.mem_append, not_or]
  exact ⟨by decide, newline_notMem_column (decimalColumn total)⟩

end Lines

section Skipped

variable (basePath : JsString)

theorem parseListingLine_total (total : Nat) :
    parseListingLine basePath (js "total " ++ decimal total) = none := by
  have hink : HasInk (decimal total) := by
    obtain ⟨unit, rest, htext⟩ := List.exists_cons_of_ne_nil (decimal_ne_nil total)
    have hmem : unit ∈ decimal total := by rw [htext]; exact List.mem_cons_self
    exact ⟨unit, hmem, (decimalColumn total).hink unit hmem⟩
  have hstart : (js "total " ++ decimal total).dropWhile isWhiteSpace =
      js "total " ++ decimal total := rfl
  have htrim : trim (js "total " ++ decimal total) = js "total " ++ decimal total := by
    show trimEnd ((js "total " ++ decimal total).dropWhile isWhiteSpace) = _
    rw [hstart, trimEnd_append_of_ink hink]
    exact congrArg (js "total " ++ ·) (trimEnd_column (decimalColumn total))
  unfold parseListingLine
  dsimp only
  rw [htrim, if_pos (.inr (List.isPrefixOf_iff_prefix.mpr (List.prefix_append _ _)))]

-- The lines of the directory itself and of its parent are no entries.
theorem parseListingLine_dots (columns : LsColumns) {name : JsString}
    (hname : name = js "." ∨ name = js "..") :
    parseListingLine basePath (columns.line .directory name) = none := by
  have hline := parseListingLine_line columns .directory basePath (name ++ [])
  have hread : HasInk (name ++ []) ∧ nameOf (startOf (name ++ [])) = name := by
    rcases hname with rfl | rfl <;> decide
  refine hline.trans ?_
  rw [if_pos hread.1, hread.2, Option.filter_eq_none_iff]
  intro entry hentry
  obtain rfl := Option.some.inj hentry
  rcases hname with rfl | rfl
  · simp [LsColumns.entry]
  · simp [LsColumns.entry]

-- A line that is none of an entry: the total, or one of the two directories.
inductive Header : JsString → Prop where
  | total (total : Nat) : Header (js "total " ++ decimal total)
  | directory (columns : LsColumns) {name : JsString} (hname : name = js "." ∨ name = js "..") :
      Header (columns.line .directory name)

theorem Header.skipped {line : JsString} (h : Header line) :
    10 ∉ line ∧ parseListingLine basePath line = none := by
  cases h with
  | total total => exact ⟨newline_notMem_total total, parseListingLine_total basePath total⟩
  | directory columns hname =>
    refine ⟨newline_notMem_line _ _ ?_, parseListingLine_dots basePath _ hname⟩
    rcases hname with rfl | rfl <;> decide

end Skipped

end WebSsh2.Sftp

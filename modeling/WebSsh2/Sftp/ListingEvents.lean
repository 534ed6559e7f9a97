import WebSsh2.Library.Utf8Events
import WebSsh2.Sftp.LsReading

namespace WebSsh2.Sftp

open WebSsh2.Library WebSsh2.Library.Utf8

-- The layout gives the name back.
def LsFile.NameShown (file : LsFile) : Prop :=
  file.name.head? ≠ some 32 ∧ file.kind.Delimits file.name ∧
    file.name ≠ js "." ∧ file.name ≠ js ".."

-- The bytes of the line of a file: its columns, its name, and what stands behind it.
structure PrintedFile where
  file : LsFile
  columns : Bytes
  name : Bytes
  rest : Bytes
  hcolumns : decode columns = spread (file.toLsColumns.columns file.kind) []
  hname : decode name = file.name
  hrest : decode rest = file.kind.suffix ++ [10]

def PrintedFile.bytes (printed : PrintedFile) : Bytes :=
  printed.columns ++ (printed.name ++ printed.rest)

section Columns

theorem isDigit_ascii {unit : UInt16} (h : isDigit unit = true) : unit.toNat < 0x80 := by
  simp only [isDigit, Bool.and_eq_true, decide_eq_true_eq, UInt16.le_iff_toNat_le] at h
  have : (57 : UInt16).toNat = 57 := rfl
  omega

theorem ascii_decimal (value : Nat) : Ascii (decimal value) :=
  fun _ hmem => isDigit_ascii (isDigit_of_mem_decimal hmem)

theorem ascii_blanks (count : Nat) : Ascii (blanks count) := by
  intro unit hmem
  rw [mem_blanks hmem]
  decide

theorem ascii_letters {lower upper : UInt16} (hlower : lower.toNat < 0x80)
    (hupper : upper.toNat < 0x80) (triad : Triad) : Ascii (triad.letters lower upper) := by
  obtain ⟨read, write, exec, special⟩ := triad
  intro unit hmem
  simp only [Triad.letters, List.mem_cons, List.not_mem_nil, or_false] at hmem
  rcases hmem with rfl | rfl | rfl
  · split <;> decide
  · split <;> decide
  · split
    · split <;> assumption
    · split <;> decide

theorem ascii_mode (kind : LsKind) (mode : LsMode) : Ascii (modeColumn kind mode).text := by
  have hchar : kind.char.toNat < 0x80 := by
    cases kind with
    | directory => exact (by decide : (100 : UInt16).toNat < 0x80)
    | file => exact (by decide : (45 : UInt16).toNat < 0x80)
    | symlink => exact (by decide : (108 : UInt16).toNat < 0x80)
    | other char hchar =>
      exact (show ∀ char ∈ js "bcps", char.toNat < 0x80 by decide) char hchar
  have hletters : Ascii mode.letters :=
    ascii_append (ascii_append (ascii_letters (by decide) (by decide) _)
      (ascii_letters (by decide) (by decide) _)) (ascii_letters (by decide) (by decide) _)
  intro unit hmem
  rcases List.mem_cons.mp hmem with rfl | hmem
  · exact hchar
  · exact hletters unit hmem

-- A replacement is no white space, so a blurred column is a column.
theorem blurred_column {column : Column} {seen : JsString} (h : Blurred column.text seen) :
    ∃ other : Column, other.text = seen := by
  refine ⟨⟨seen, h.ne_nil column.hne, fun unit hmem => ?_⟩, rfl⟩
  rcases h.mem hmem with hmem | rfl
  · exact column.hink unit hmem
  · decide

theorem blurred_spread_cons {column : Column} {count : Nat} {columns : List (Column × Nat)}
    {rest seen : JsString} (h : Blurred (spread ((column, count) :: columns) rest) seen) :
    ∃ other : Column, ∃ later, Blurred column.text other.text ∧
      Blurred (spread columns rest) later ∧ seen = other.text ++ (blanks count ++ later) := by
  rw [spread_cons] at h
  obtain ⟨front, back, hfront, hback, rfl⟩ := (blurred_append_iff _ _ _).mp h
  obtain ⟨gap, later, hgap, hlater, rfl⟩ := (blurred_append_iff _ _ _).mp hback
  obtain ⟨other, rfl⟩ := blurred_column hfront
  obtain rfl := (blurred_ascii_iff (ascii_blanks count)).mp hgap
  exact ⟨other, later, hfront, hlater, rfl⟩

-- The columns are there in what is read of a line, the mode and the numbers as they are.
theorem blurred_columns (columns : LsColumns) (kind : LsKind) {rest seen : JsString}
    (h : Blurred (spread (columns.columns kind) rest) seen) :
    ∃ other : LsColumns, ∃ later,
      seen = spread (other.columns kind) later ∧ Blurred rest later := by
  obtain ⟨mode, _, hmode, h₁, rfl⟩ := blurred_spread_cons h
  obtain ⟨links, _, hlinks, h₂, rfl⟩ := blurred_spread_cons h₁
  obtain ⟨owner, _, -, h₃, rfl⟩ := blurred_spread_cons h₂
  obtain ⟨group, _, -, h₄, rfl⟩ := blurred_spread_cons h₃
  obtain ⟨size, _, hsize, h₅, rfl⟩ := blurred_spread_cons h₄
  obtain ⟨month, _, -, h₆, rfl⟩ := blurred_spread_cons h₅
  obtain ⟨day, _, -, h₇, rfl⟩ := blurred_spread_cons h₆
  obtain ⟨time, later, -, h₈, rfl⟩ := blurred_spread_cons h₇
  rw [(blurred_ascii_iff (ascii_mode kind columns.mode)).mp hmode,
    (blurred_ascii_iff (ascii_decimal columns.links)).mp hlinks,
    (blurred_ascii_iff (ascii_decimal columns.size)).mp hsize]
  exact ⟨{ columns with owner, group, month, day, time }, later, rfl, h₈⟩

theorem Header.blurred {line seen : JsString} (h : Header line) (hseen : Blurred line seen) :
    Header seen := by
  cases h with
  | total total =>
    have hascii : Ascii (js "total " ++ decimal total) :=
      ascii_append (by decide) (ascii_decimal total)
    rw [(blurred_ascii_iff hascii).mp hseen]
    exact .total total
  | @directory columns name hname =>
    obtain ⟨other, later, rfl, hlater⟩ := blurred_columns columns .directory hseen
    have hascii : Ascii (name ++ LsKind.directory.suffix) := by
      rcases hname with rfl | rfl <;> decide
    rw [(blurred_ascii_iff hascii).mp hlater]
    exact .directory other hname

end Columns

section Names

variable {name seen : JsString}

theorem head_blurred (h : Blurred name seen) {unit : UInt16} (hunit : unit.toNat < 0x80) :
    seen.head? = some unit ↔ name.head? = some unit := by
  have hascii : Ascii [unit] := by simpa [Ascii]
  constructor
  · intro hhead
    obtain ⟨tail, rfl⟩ := List.head?_eq_some_iff.mp hhead
    obtain ⟨rest, rfl, -⟩ := Blurred.ascii_prefix hascii h
    rfl
  · intro hhead
    obtain ⟨tail, rfl⟩ := List.head?_eq_some_iff.mp hhead
    obtain ⟨later, rfl, -⟩ := Blurred.ascii_append hascii h
    rfl

theorem trimEnd_blurred (h : Blurred name seen) (htrim : trimEnd name = name) :
    trimEnd seen = seen := by
  refine List.rdropWhile_eq_self_iff.mpr fun hne => ?_
  have hname : name ≠ [] := by
    rintro rfl
    exact hne h
  rcases h.getLast hname with hlast | hlast
  · rw [hlast]
    exact List.rdropWhile_eq_self_iff.mp htrim hname
  · rw [hlast]
    decide

theorem HasInk.blurred (hink : HasInk name) (h : Blurred name seen) : HasInk seen := by
  obtain ⟨unit, hmem, hunit⟩ := hink
  rcases h.mem_or_replacement hmem with hmem | hmem
  · exact ⟨unit, hmem, hunit⟩
  · exact ⟨replacement, hmem, by decide⟩

theorem not_arrow_blurred (h : Blurred name seen) (hnone : ¬js " -> " <:+: name) :
    ¬js " -> " <:+: seen :=
  fun harrow => hnone (h.ascii_infix (by decide : Ascii (js " -> "))
    (by decide) harrow)

-- What is behind the name is read as the end of a line of the same kind.
theorem blurred_suffix {kind : LsKind} (h : Blurred (kind.suffix ++ [10]) seen) :
    ∃ other : LsKind, seen = other.suffix ++ [10] ∧ other.char = kind.char ∧
      ∀ name shown, Blurred name shown → kind.Delimits name → other.Delimits shown := by
  obtain ⟨front, newline, hfront, hnewline, rfl⟩ := (blurred_append_iff _ _ _).mp h
  obtain rfl := (blurred_ascii_iff (by decide : Ascii [10])).mp hnewline
  cases kind with
  | symlink target htarget =>
    obtain ⟨arrow, shown, harrow, hshown, rfl⟩ := (blurred_append_iff _ _ _).mp hfront
    obtain rfl := (blurred_ascii_iff
      (by decide : Ascii (js " -> "))).mp harrow
    refine ⟨.symlink shown ⟨hshown.ne_nil htarget.1, fun hmem => ?_⟩, rfl, rfl, ?_⟩
    · rcases hshown.mem hmem with hmem | hreplaced
      · exact htarget.2 hmem
      · exact absurd hreplaced (by decide)
    · rintro name seen hseen ⟨hink, hnone⟩
      exact ⟨hink.blurred hshown, not_arrow_blurred (hseen.append (blurred_refl _)) hnone⟩
  | directory =>
    obtain rfl : front = [] := hfront
    exact ⟨.directory, rfl, rfl, fun name seen hseen h =>
      ⟨trimEnd_blurred hseen h.1, not_arrow_blurred hseen h.2⟩⟩
  | file =>
    obtain rfl : front = [] := hfront
    exact ⟨.file, rfl, rfl, fun name seen hseen h =>
      ⟨trimEnd_blurred hseen h.1, not_arrow_blurred hseen h.2⟩⟩
  | other char hchar =>
    obtain rfl : front = [] := hfront
    exact ⟨.other char hchar, rfl, rfl, fun name seen hseen h =>
      ⟨trimEnd_blurred hseen h.1, not_arrow_blurred hseen h.2⟩⟩

theorem spread_columns_congr (columns : LsColumns) {kind other : LsKind}
    (h : other.char = kind.char) (rest : JsString) :
    spread (columns.columns other) rest = spread (columns.columns kind) rest := by
  have hmode : (modeColumn other columns.mode).text = (modeColumn kind columns.mode).text := by
    exact congrArg (· :: columns.mode.letters) h
  show (modeColumn other columns.mode).text ++ _ = (modeColumn kind columns.mode).text ++ _
  rw [hmode]

-- What is read of the line of a file is the line of a file whose name is blurred.
theorem blurred_line {file : LsFile} {columns rest : JsString}
    (hcolumns : Blurred (spread (file.toLsColumns.columns file.kind) []) columns)
    (hname : Blurred file.name seen) (hrest : Blurred (file.kind.suffix ++ [10]) rest) :
    ∃ other : LsFile, other.line ++ [10] = columns ++ (seen ++ rest) ∧ other.name = seen ∧
      (file.NameShown → other.NameShown) := by
  obtain ⟨other, later, rfl, hlater⟩ := blurred_columns file.toLsColumns file.kind hcolumns
  obtain rfl : later = [] := hlater
  obtain ⟨kind, rfl, hchar, hdelimits⟩ := blurred_suffix hrest
  have hproper : seen ≠ [] ∧ 47 ∉ seen ∧ 10 ∉ seen := by
    refine ⟨hname.ne_nil file.hname.1, fun hmem => ?_, fun hmem => ?_⟩
    · rcases hname.mem hmem with hmem | hreplaced
      · exact file.hname.2.1 hmem
      · exact absurd hreplaced (by decide)
    · rcases hname.mem hmem with hmem | hreplaced
      · exact file.hname.2.2 hmem
      · exact absurd hreplaced (by decide)
  refine ⟨{ toLsColumns := other, kind, name := seen, hname := hproper }, ?_, rfl, ?_⟩
  · show spread (other.columns kind) (seen ++ kind.suffix) ++ [10] = _
    rw [spread_columns_congr other hchar, ← spread_append, ← spread_append, List.nil_append,
      List.append_assoc]
  · rintro ⟨hstart, hdelimited, hdot, hdots⟩
    refine ⟨fun h => hstart ((head_blurred hname (by decide)).mp h),
      hdelimits _ _ hname hdelimited, ?_, ?_⟩
    · rintro rfl
      exact hdot (hname.eq_of_ascii (by decide : Ascii (js ".")))
    · rintro rfl
      exact hdots (hname.eq_of_ascii (by decide : Ascii (js "..")))

end Names

section Events

theorem spread_ends (columns : LsColumns) (kind : LsKind) :
    ∃ text, spread (columns.columns kind) [] = text ++ [32] := by
  refine ⟨spread ((columns.columns kind).dropLast)
    (columns.time.text ++ List.replicate (columns.padding 7) 32), ?_⟩
  rw [← spread_append, List.append_assoc, ← List.replicate_succ']
  show _ = spread _ (columns.time.text ++ blanks (columns.padding 7))
  rw [← List.append_nil (blanks (columns.padding 7))]
  rfl

theorem suffix_starts (kind : LsKind) :
    ∃ first text, kind.suffix ++ [10] = first :: text ∧ first ≠ replacement := by
  cases kind with
  | symlink target htarget =>
    exact ⟨32, _, rfl, (by decide : (32 : UInt16) ≠ replacement)⟩
  | directory | file | other => exact ⟨10, [], rfl, (by decide : (10 : UInt16) ≠ replacement)⟩

-- Around a name stands ASCII, so the events of a line can be cut there.
theorem PrintedFile.seen (printed : PrintedFile) {events : List Bytes} {later : Bytes}
    (h : events.flatten = printed.bytes ++ later) :
    let fromName := dropBytes printed.columns.length events
    let fromRest := dropBytes printed.name.length fromName
    ∃ file : LsFile, Blurred printed.file.name file.name ∧
      (printed.file.NameShown → file.NameShown) ∧
      events.flatMap decode = (file.line ++ [10]) ++
        (dropBytes printed.rest.length fromRest).flatMap decode ∧
      (dropBytes printed.rest.length fromRest).flatten = later ∧
      (Unsplit (takeBytes printed.name.length fromName) ↔ file.name = printed.file.name) := by
  obtain ⟨columnsText, hends⟩ := spread_ends printed.file.toLsColumns printed.file.kind
  obtain ⟨first, text, hstarts, hfirst⟩ := suffix_starts printed.file.kind
  have hcolumns : after printed.columns = none :=
    after_eq_none (printed.hcolumns.trans hends) (by decide)
  have hrest : after printed.rest = none := after_eq_none printed.hrest (by decide)
  have hbehind : decode (printed.rest ++ later) = first :: (text ++ decode later) := by
    rw [← (decode_append_iff _ _).mpr (by rw [hrest]; exact not_splits_none later), printed.hrest,
      hstarts]
    rfl
  rw [PrintedFile.bytes, List.append_assoc, List.append_assoc] at h
  obtain ⟨hevents, htakeColumns, hdropColumns⟩ :=
    flatMap_decode_cut h (by rw [hcolumns]; exact not_splits_none _)
  obtain ⟨hfromName, htakeName, hdropName⟩ :=
    flatMap_decode_cut hdropColumns (not_splits_of_head hbehind hfirst _)
  obtain ⟨hfromRest, htakeRest, hdropRest⟩ :=
    flatMap_decode_cut hdropName (by rw [hrest]; exact not_splits_none _)
  have hseenColumns := blurred_flatMap_decode (takeBytes printed.columns.length events)
  have hseenName := blurred_flatMap_decode
    (takeBytes printed.name.length (dropBytes printed.columns.length events))
  have hseenRest := blurred_flatMap_decode (takeBytes printed.rest.length
    (dropBytes printed.name.length (dropBytes printed.columns.length events)))
  rw [htakeColumns, printed.hcolumns] at hseenColumns
  rw [htakeRest, printed.hrest] at hseenRest
  have hwhole := flatMap_decode_eq_iff
    (takeBytes printed.name.length (dropBytes printed.columns.length events))
  rw [htakeName, printed.hname] at hseenName hwhole
  obtain ⟨file, hline, hname, hshown⟩ := blurred_line hseenColumns hseenName hseenRest
  refine ⟨file, hname ▸ hseenName, hshown, ?_, hdropRest, ?_⟩
  · rw [hevents, hfromName, hfromRest, hline, List.append_assoc, List.append_assoc]
  · rw [hname]
    exact hwhole.symm

end Events

end WebSsh2.Sftp

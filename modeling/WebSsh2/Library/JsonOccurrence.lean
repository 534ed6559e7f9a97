import WebSsh2.Library.JsonText

namespace WebSsh2.Library.Json

open WebSsh2.Library.Text

-- Punctuation, the letters of `null`, `true` and `false`, and numbers.
def isOutsideUnit (unit : UInt16) : Bool :=
  unit ∈ ([34, 44, 58, 91, 93, 97, 101, 102, 108, 110, 114, 115, 116, 117, 123, 125] :
    List UInt16) || isNumberUnit unit

abbrev OutsideText := { units : List UInt16 // ∀ unit ∈ units, isOutsideUnit unit = true }

-- A JSON text alternates between its frame and the strings in it.
inductive Piece where
  | outside (units : OutsideText)
  | inside (text : List UInt16)

def Piece.text? : Piece → Option (List UInt16)
  | .outside _ => none
  | .inside text => some text

def Piece.write (quote : List UInt16 → List UInt16) : Piece → List UInt16
  | .outside units => units
  | .inside text => quoted quote text

def writePieces (quote : List UInt16 → List UInt16) (pieces : List Piece) : List UInt16 :=
  pieces.flatMap (Piece.write quote)

def insides (pieces : List Piece) : List (List UInt16) :=
  pieces.filterMap Piece.text?

section Pieces

variable {ν : Type} (format : NumberFormat ν)

mutual

def pieces : Json ν → List Piece
  | .null => [.outside ⟨[110, 117, 108, 108], by decide⟩]
  | .bool true => [.outside ⟨[116, 114, 117, 101], by decide⟩]
  | .bool false => [.outside ⟨[102, 97, 108, 115, 101], by decide⟩]
  | .number value => [.outside ⟨format.toText value, fun unit h => by
    rw [isOutsideUnit, format.units value unit h, Bool.or_true]⟩]
  | .string text => [.inside text]
  | .array items =>
    .outside ⟨[91], by decide⟩ :: (piecesOfItems items).tail ++ [.outside ⟨[93], by decide⟩]
  | .object fields =>
    .outside ⟨[123], by decide⟩ :: (piecesOfFields fields).tail ++ [.outside ⟨[125], by decide⟩]

def piecesOfItems : List (Json ν) → List Piece
  | [] => []
  | item :: rest => .outside ⟨[44], by decide⟩ :: pieces item ++ piecesOfItems rest

def piecesOfFields : List (List UInt16 × Json ν) → List Piece
  | [] => []
  | (key, value) :: rest =>
    .outside ⟨[44], by decide⟩ :: .inside key :: .outside ⟨[58], by decide⟩ :: pieces value ++
      piecesOfFields rest

end

variable {format} {quote : List UInt16 → List UInt16}

@[simp] theorem writePieces_append (first second : List Piece) :
    writePieces quote (first ++ second) = writePieces quote first ++ writePieces quote second :=
  List.flatMap_append

@[simp] theorem writePieces_cons (piece : Piece) (rest : List Piece) :
    writePieces quote (piece :: rest) = piece.write quote ++ writePieces quote rest :=
  List.flatMap_cons

@[simp] theorem writePieces_nil : writePieces quote [] = [] := rfl

@[simp] theorem insides_append (first second : List Piece) :
    insides (first ++ second) = insides first ++ insides second :=
  List.filterMap_append

@[simp] theorem insides_outside (units : OutsideText) (rest : List Piece) :
    insides (.outside units :: rest) = insides rest := rfl

@[simp] theorem insides_inside (text : List UInt16) (rest : List Piece) :
    insides (.inside text :: rest) = text :: insides rest := rfl

@[simp] theorem insides_nil : insides [] = [] := rfl

-- The pieces spell the text, and the strings among them are those of the value.
def Spells (quote : List UInt16 → List UInt16) (pieces : List Piece) (text : List UInt16)
    (texts : List (List UInt16)) : Prop :=
  writePieces quote pieces = text ∧ insides pieces = texts

theorem Spells.append {first second : List Piece} {text text' : List UInt16}
    {texts texts' : List (List UInt16)} (h : Spells quote first text texts)
    (h' : Spells quote second text' texts') :
    Spells quote (first ++ second) (text ++ text') (texts ++ texts') :=
  ⟨by rw [writePieces_append, h.1, h'.1], by rw [insides_append, h.2, h'.2]⟩

theorem Spells.frame {opening closing : OutsideText} {inner : List Piece} {text : List UInt16}
    {texts : List (List UInt16)} (h : Spells quote inner text texts) :
    Spells quote (.outside opening :: inner ++ [.outside closing])
      (opening.val ++ text ++ closing.val) texts := by
  constructor
  · simp [h.1, Piece.write]
  · simp [h.2]

mutual

theorem spells_pieces : ∀ value : Json ν,
    Spells quote (pieces format value) (render format quote value) value.texts
  | .null => by simp [Spells, pieces, render, texts, Piece.write]
  | .bool true => by simp [Spells, pieces, render, texts, Piece.write]
  | .bool false => by simp [Spells, pieces, render, texts, Piece.write]
  | .number value => by simp [Spells, pieces, render, texts, Piece.write]
  | .string text => by simp [Spells, pieces, render, texts, Piece.write]
  | .array items => by
    rw [pieces, render, texts]
    exact (spells_piecesOfItems items).2.frame
  | .object fields => by
    rw [pieces, render, texts]
    exact (spells_piecesOfFields fields).2.frame

theorem spells_piecesOfItems : ∀ items : List (Json ν),
    Spells quote (piecesOfItems format items) (renderItems format quote items)
      (textsOfItems items) ∧
    Spells quote (piecesOfItems format items).tail (renderItems format quote items).tail
      (textsOfItems items)
  | [] => ⟨⟨rfl, rfl⟩, rfl, rfl⟩
  | item :: rest => by
    have h := (spells_pieces item).append (spells_piecesOfItems rest).1
    rw [piecesOfItems, renderItems, textsOfItems]
    refine ⟨⟨?_, h.2⟩, h⟩
    rw [List.cons_append, writePieces_cons, h.1]
    rfl

theorem spells_piecesOfFields : ∀ fields : List (List UInt16 × Json ν),
    Spells quote (piecesOfFields format fields) (renderFields format quote fields)
      (textsOfFields fields) ∧
    Spells quote (piecesOfFields format fields).tail (renderFields format quote fields).tail
      (textsOfFields fields)
  | [] => ⟨⟨rfl, rfl⟩, rfl, rfl⟩
  | (key, value) :: rest => by
    have h := (spells_pieces value).append (spells_piecesOfFields rest).1
    rw [piecesOfFields, renderFields, textsOfFields]
    have htail : Spells quote (.inside key :: .outside ⟨[58], by decide⟩ ::
        pieces format value ++ piecesOfFields format rest)
        (quoted quote key ++ 58 :: render format quote value ++ renderFields format quote rest)
        (key :: value.texts ++ textsOfFields rest) := by
      constructor
      · rw [List.cons_append, List.cons_append, writePieces_cons, writePieces_cons, h.1]
        simp [Piece.write]
      · rw [List.cons_append, List.cons_append, insides_inside, insides_outside, h.2]
        rfl
    refine ⟨⟨?_, htail.2⟩, htail⟩
    rw [List.cons_append, writePieces_cons]
    exact congrArg (44 :: ·) htail.1

end

-- What rewrites unit by unit, and leaves the frame alone, rewrites the strings.
theorem flatMap_render {f : UInt16 → List UInt16}
    (h : ∀ unit, isOutsideUnit unit = true → f unit = [unit]) (value : Json ν) :
    (render format quote value).flatMap f =
      render format (fun text => (quote text).flatMap f) value := by
  have houtside : ∀ units : List UInt16, (∀ unit ∈ units, isOutsideUnit unit = true) →
      units.flatMap f = units := by
    intro units hunits
    induction units with
    | nil => rfl
    | cons unit rest ih =>
      rw [List.flatMap_cons, h unit (hunits unit List.mem_cons_self),
        ih fun other hother => hunits other (List.mem_cons_of_mem _ hother)]
      rfl
  rw [← (spells_pieces value).1, ← (spells_pieces value).1, writePieces, writePieces,
    List.flatMap_assoc]
  congr 1
  funext piece
  cases piece with
  | outside units => exact houtside units units.property
  | inside text =>
    simp only [Piece.write, quoted, List.flatMap_append, List.flatMap_cons, List.flatMap_nil,
      h 34 (by decide)]
    simp

-- A pattern with a unit of its own that no frame has, and without quotation
-- marks, can only stand inside of one string.
structure InsideStrings (pattern : List UInt16) : Prop where
  quotation : 34 ∉ pattern
  marker : ∃ unit ∈ pattern, isOutsideUnit unit = false

theorem InsideStrings.not_infix {pattern units : List UInt16} (h : InsideStrings pattern)
    (hunits : ∀ unit ∈ units, isOutsideUnit unit = true) : ¬ pattern <:+: units := by
  intro hin
  obtain ⟨unit, hmem, hfalse⟩ := h.marker
  rw [hunits unit (hin.subset hmem)] at hfalse
  cases hfalse

theorem infix_writePieces_iff {pattern : List UInt16} (h : InsideStrings pattern)
    (pieces : List Piece) (units : OutsideText) :
    pattern <:+: units.val ++ writePieces quote pieces ↔
      ∃ text ∈ insides pieces, pattern <:+: quote text := by
  induction pieces generalizing units with
  | nil => simpa using h.not_infix units.property
  | cons piece rest ih =>
    cases piece with
    | outside more =>
      have hboth : ∀ unit ∈ units.val ++ more.val, isOutsideUnit unit = true := by
        intro unit hunit
        rcases List.mem_append.mp hunit with hmem | hmem
        · exact units.property unit hmem
        · exact more.property unit hmem
      have hrest := ih ⟨units.val ++ more.val, hboth⟩
      rw [List.append_assoc] at hrest
      exact hrest
    | inside text =>
      have hrest := ih ⟨[], by simp⟩
      rw [List.nil_append] at hrest
      rw [writePieces_cons, Piece.write, quoted, List.cons_append, List.cons_append,
        List.append_assoc, List.singleton_append, insides_inside,
        infix_append_cons_iff h.quotation, infix_append_cons_iff h.quotation, hrest]
      simp [h.not_infix units.property]

theorem infix_render_iff {pattern : List UInt16} (h : InsideStrings pattern) (value : Json ν) :
    pattern <:+: render format quote value ↔ ∃ text ∈ value.texts, pattern <:+: quote text := by
  obtain ⟨hwrite, htexts⟩ := @spells_pieces ν format quote value
  have hin := @infix_writePieces_iff quote pattern h (pieces format value) ⟨[], by simp⟩
  rwa [List.nil_append, hwrite, htexts] at hin

theorem render_head {value : Json ν} (h : value ≠ .null) :
    (render format quote value).head? ≠ some 110 := by
  cases value with
  | null => exact absurd rfl h
  | bool value => cases value <;> rw [render] <;> decide
  | number value =>
    rw [render]
    intro hhead
    have hunit := format.units value 110 (List.mem_of_mem_head? hhead)
    exact absurd hunit (by decide)
  | string text => rw [render, quoted, List.cons_append, List.head?_cons]; decide
  | array | object => rw [render, List.cons_append, List.head?_cons]; decide

end Pieces

section Escapes

-- What may stand behind the backslash of an escape.
def isEscapeLetter (unit : UInt16) : Bool :=
  unit ∈ ([34, 92, 98, 102, 110, 114, 116, 117] : List UInt16) || (hexValue unit).isSome

-- A pattern that no escape touches, and that starts in no escape.
structure Unescaped (pattern : List UInt16) : Prop where
  ne_nil : pattern ≠ []
  plain : ∀ unit ∈ pattern, escapeUnit unit = [unit]
  start : ∀ unit ∈ pattern.head?, isEscapeLetter unit = false

variable {pattern : List UInt16}

theorem Unescaped.backslash (h : Unescaped pattern) : 92 ∉ pattern :=
  fun hmem => absurd (h.plain 92 hmem) (by decide)

-- A backslash and letters.
def IsEscape (code : List UInt16) : Prop :=
  ∃ letters, code = 92 :: letters ∧ ∀ letter ∈ letters, isEscapeLetter letter = true

theorem infix_letters_iff {pattern letters : List UInt16} (h : Unescaped pattern)
    (hletters : ∀ letter ∈ letters, isEscapeLetter letter = true) (rest : List UInt16) :
    pattern <:+: letters ++ rest ↔ pattern <:+: rest := by
  induction letters with
  | nil => rfl
  | cons letter letters ih =>
    have hhead : pattern.head? ≠ some letter := by
      intro heq
      have hfalse := h.start letter heq
      rw [hletters letter List.mem_cons_self] at hfalse
      cases hfalse
    rw [List.cons_append, infix_cons_iff_of_head h.ne_nil hhead]
    exact ih fun other hother => hletters other (List.mem_cons_of_mem _ hother)

theorem infix_escape_iff {pattern code : List UInt16} {unit : UInt16} (h : Unescaped pattern)
    (hcode : code = [unit] ∨ unit ∉ pattern ∧ IsEscape code) (first second : List UInt16) :
    pattern <:+: first ++ (code ++ second) ↔ pattern <:+: first ++ unit :: second := by
  rcases hcode with rfl | ⟨hmem, letters, rfl, hletters⟩
  · rfl
  · rw [List.cons_append, infix_append_cons_iff h.backslash, infix_append_cons_iff hmem,
      infix_letters_iff h hletters]

theorem isEscapeLetter_hexDigit {digit : UInt16} (h : digit < 16) :
    isEscapeLetter (hexDigit digit) = true := by
  rw [isEscapeLetter, hexValue_hexDigit h]
  exact Bool.or_true _

theorem isEscape_unicodeEscape (unit : UInt16) : IsEscape (unicodeEscape unit) := by
  refine ⟨_, rfl, fun letter hletter => ?_⟩
  simp only [List.mem_cons, List.not_mem_nil, or_false] at hletter
  rcases hletter with rfl | rfl | rfl | rfl | rfl
  · decide
  · exact isEscapeLetter_hexDigit (unit_div_lt unit)
  · exact isEscapeLetter_hexDigit (unit_mod_lt _)
  · exact isEscapeLetter_hexDigit (unit_mod_lt _)
  · exact isEscapeLetter_hexDigit (unit_mod_lt _)

theorem escapeUnit_cases (unit : UInt16) :
    escapeUnit unit = [unit] ∨ IsEscape (escapeUnit unit) := by
  rw [escapeUnit]
  split
  · rename_i letter hletter
    right
    refine ⟨[letter], rfl, fun other hother => ?_⟩
    obtain rfl := List.mem_singleton.mp hother
    obtain ⟨before, after, heq, _⟩ := List.lookup_eq_some_iff.mp hletter
    have hmem : (unit, other) ∈ escapeLetters := by
      rw [heq]
      exact List.mem_append_right before List.mem_cons_self
    have hall : ∀ pair ∈ escapeLetters, isEscapeLetter pair.2 = true := by decide
    exact hall _ hmem
  · split
    · exact .inr (isEscape_unicodeEscape unit)
    · exact .inl rfl

theorem infix_escapeString_iff (h : Unescaped pattern) (text : List UInt16) :
    pattern <:+: escapeString text ↔ pattern <:+: text := by
  have hunit : ∀ unit first second, pattern <:+: first ++ (escapeUnit unit ++ second) ↔
      pattern <:+: first ++ unit :: second := by
    intro unit
    refine infix_escape_iff h ?_
    by_cases hmem : unit ∈ pattern
    · exact .inl (h.plain unit hmem)
    · exact (escapeUnit_cases unit).imp_right fun hescape => ⟨hmem, hescape⟩
  have hall : ∀ first, pattern <:+: first ++ escapeString text ↔ pattern <:+: first ++ text := by
    fun_induction escapeString text with
    | case1 => exact fun first => Iff.rfl
    | case2 unit => simpa using fun first => hunit unit first []
    | case3 unit next rest hpair ih =>
      intro first
      have hrest := ih (first ++ [unit, next])
      rwa [List.append_assoc, List.append_assoc] at hrest
    | case4 unit next rest hpair ih =>
      intro first
      have hrest := ih (first ++ [unit])
      rw [List.append_assoc, List.append_assoc] at hrest
      rw [hunit]
      exact hrest
  exact hall []

theorem infix_flatMap_iff (h : Unescaped pattern) {f : UInt16 → List UInt16}
    (hf : ∀ unit, f unit = [unit] ∨ unit ∉ pattern ∧ IsEscape (f unit)) (text : List UInt16) :
    pattern <:+: text.flatMap f ↔ pattern <:+: text := by
  have hall : ∀ first, pattern <:+: first ++ text.flatMap f ↔ pattern <:+: first ++ text := by
    induction text with
    | nil => exact fun first => Iff.rfl
    | cons unit rest ih =>
      intro first
      have hrest := ih (first ++ [unit])
      rw [List.append_assoc, List.append_assoc] at hrest
      rw [List.flatMap_cons, infix_escape_iff h (hf unit)]
      exact hrest
  exact hall []

end Escapes

end WebSsh2.Library.Json

import WebSsh2.Library.Json
import WebSsh2.Library.Text
import Mathlib.Data.Nat.Digits.Defs

namespace WebSsh2.Library.Json

open WebSsh2.Library.Text

-- Digits, the sign, the point and the exponent.
def isNumberUnit (unit : UInt16) : Bool :=
  (48 ≤ unit && unit ≤ 57) || unit ∈ ([43, 45, 46, 69, 101] : List UInt16)

-- How numbers are written, and what reads them back.
structure NumberFormat (ν : Type) where
  toText : ν → List UInt16
  ofText : List UInt16 → Option ν
  ofText_toText : ∀ value, ofText (toText value) = some value
  toText_ne_nil : ∀ value, toText value ≠ []
  units : ∀ value, ∀ unit ∈ toText value, isNumberUnit unit = true

section Integers

variable (value : Nat)

def digitsText : List UInt16 :=
  if value = 0 then [48] else ((Nat.digits 10 value).map fun digit => 48 + digit.toUInt16).reverse

def ofDigitsText (text : List UInt16) : Option Nat :=
  if text ≠ [] ∧ ∀ unit ∈ text, 48 ≤ unit ∧ unit ≤ 57 then
    some (Nat.ofDigits 10 (text.reverse.map fun unit => unit.toNat - 48))
  else
    none

theorem digit_unit {digit : Nat} (h : digit < 10) :
    (48 : UInt16) ≤ 48 + digit.toUInt16 ∧ 48 + digit.toUInt16 ≤ (57 : UInt16) ∧
      (48 + digit.toUInt16).toNat - 48 = digit := by
  have hall : ∀ n : Fin 10, (48 : UInt16) ≤ 48 + n.val.toUInt16 ∧
      48 + n.val.toUInt16 ≤ (57 : UInt16) ∧ (48 + n.val.toUInt16).toNat - 48 = n.val := by decide
  exact hall ⟨digit, h⟩

theorem digitsText_ne_nil : digitsText value ≠ [] := by
  unfold digitsText
  split
  · simp
  · simpa [Nat.digits_ne_nil_iff_ne_zero] using ‹¬ value = 0›

theorem digitsText_units : ∀ unit ∈ digitsText value, 48 ≤ unit ∧ unit ≤ 57 := by
  unfold digitsText
  split
  · decide
  · intro unit hunit
    obtain ⟨digit, hdigit, rfl⟩ := List.mem_map.mp (List.mem_reverse.mp hunit)
    have h := digit_unit (Nat.digits_lt_base (by decide) hdigit)
    exact ⟨h.1, h.2.1⟩

theorem ofDigitsText_digitsText : ofDigitsText (digitsText value) = some value := by
  rw [ofDigitsText, if_pos ⟨digitsText_ne_nil value, digitsText_units value⟩]
  unfold digitsText
  split
  · rename_i hzero
    rw [hzero]
    rfl
  · have hmap : (Nat.digits 10 value).map
        ((fun unit : UInt16 => unit.toNat - 48) ∘ fun digit => 48 + digit.toUInt16) =
          Nat.digits 10 value :=
      (List.map_congr_left fun digit hdigit =>
        (digit_unit (Nat.digits_lt_base (by decide) hdigit)).2.2).trans (List.map_id' _)
    rw [List.reverse_reverse, List.map_map, hmap, Nat.ofDigits_digits]

theorem isNumberUnit_digitsText : ∀ unit ∈ digitsText value, isNumberUnit unit = true := by
  intro unit hunit
  have h := digitsText_units value unit hunit
  simp [isNumberUnit, h.1, h.2]

def integerText (value : Int) : List UInt16 :=
  (if value < 0 then [45] else []) ++ digitsText value.natAbs

def ofIntegerText (text : List UInt16) : Option Int :=
  if text.head? = some 45 then
    (ofDigitsText text.tail).map fun value : Nat => -(value : Int)
  else
    (ofDigitsText text).map fun value : Nat => (value : Int)

theorem ofIntegerText_integerText (value : Int) :
    ofIntegerText (integerText value) = some value := by
  unfold ofIntegerText integerText
  by_cases hneg : value < 0
  · have hvalue : -(value.natAbs : Int) = value := by omega
    rw [if_pos hneg, List.singleton_append, List.head?_cons, if_pos rfl, List.tail_cons,
      ofDigitsText_digitsText, Option.map_some, hvalue]
  · have hvalue : (value.natAbs : Int) = value := by omega
    have hhead : (digitsText value.natAbs).head? ≠ some 45 := by
      intro h
      have hunit := digitsText_units _ 45 (List.mem_of_mem_head? h)
      exact absurd hunit (by decide)
    rw [if_neg hneg, List.nil_append, if_neg hhead, ofDigitsText_digitsText, Option.map_some,
      hvalue]

-- Integers in decimal.
def integers : NumberFormat Int where
  toText := integerText
  ofText := ofIntegerText
  ofText_toText := ofIntegerText_integerText
  toText_ne_nil value := List.append_ne_nil_of_right_ne_nil _ (digitsText_ne_nil _)
  units value unit hunit := by
    rcases List.mem_append.mp hunit with hsign | hdigit
    · split at hsign
      · rw [List.mem_singleton.mp hsign]
        decide
      · exact absurd hsign List.not_mem_nil
    · exact isNumberUnit_digitsText _ unit hdigit

end Integers

section Quoting

def hexDigit (digit : UInt16) : UInt16 :=
  if digit < 10 then 48 + digit else 87 + digit

variable (unit : UInt16)

def hexValue : Option UInt16 :=
  if 48 ≤ unit ∧ unit ≤ 57 then some (unit - 48)
  else if 97 ≤ unit ∧ unit ≤ 102 then some (unit - 87)
  else if 65 ≤ unit ∧ unit ≤ 70 then some (unit - 55)
  else none

-- `\u` and four hexadecimal digits.
def unicodeEscape : List UInt16 :=
  [92, 117, hexDigit (unit / 4096), hexDigit (unit / 256 % 16), hexDigit (unit / 16 % 16),
    hexDigit (unit % 16)]

def isHighSurrogate : Bool :=
  0xd800 ≤ unit && unit < 0xdc00

def isLowSurrogate : Bool :=
  0xdc00 ≤ unit && unit < 0xe000

-- The letter behind the backslash, for the units that have one.
def escapeLetters : List (UInt16 × UInt16) :=
  [(8, 98), (9, 116), (10, 110), (12, 102), (13, 114), (34, 34), (92, 92)]

def escapeUnit : List UInt16 :=
  match escapeLetters.lookup unit with
  | some letter => [92, letter]
  | none =>
    if unit < 32 || isHighSurrogate unit || isLowSurrogate unit then unicodeEscape unit
    else [unit]

-- The text between the quotation marks. A pair of surrogates stays as it is.
def escapeString : List UInt16 → List UInt16
  | [] => []
  | [unit] => escapeUnit unit
  | unit :: next :: rest =>
    if isHighSurrogate unit && isLowSurrogate next then
      unit :: next :: escapeString rest
    else
      escapeUnit unit ++ escapeString (next :: rest)

def unescapeLetter (letter : UInt16) : Option UInt16 :=
  ([(34, 34), (92, 92), (47, 47), (98, 8), (102, 12), (110, 10), (114, 13), (116, 9)] :
    List (UInt16 × UInt16)).lookup letter

-- Reads up to the closing quotation mark, and gives the text behind it.
def readString : List UInt16 → Option (List UInt16 × List UInt16)
  | [] => none
  | 34 :: rest => some ([], rest)
  | 92 :: 117 :: a :: b :: c :: d :: rest =>
    match hexValue a, hexValue b, hexValue c, hexValue d with
    | some a, some b, some c, some d =>
      (readString rest).map (Prod.map ((4096 * a + 256 * b + 16 * c + d) :: ·) id)
    | _, _, _, _ => none
  | 92 :: letter :: rest =>
    match unescapeLetter letter with
    | some unit => (readString rest).map (Prod.map (unit :: ·) id)
    | none => none
  | unit :: rest =>
    if unit < 32 || unit = 92 then none
    else (readString rest).map (Prod.map (unit :: ·) id)
termination_by structural text => text

end Quoting

section Writing

variable {ν : Type} (format : NumberFormat ν) (quote : List UInt16 → List UInt16)

def quoted (text : List UInt16) : List UInt16 :=
  34 :: quote text ++ [34]

mutual

def render : Json ν → List UInt16
  | .null => [110, 117, 108, 108]
  | .bool true => [116, 114, 117, 101]
  | .bool false => [102, 97, 108, 115, 101]
  | .number value => format.toText value
  | .string text => quoted quote text
  | .array items => 91 :: (renderItems items).tail ++ [93]
  | .object fields => 123 :: (renderFields fields).tail ++ [125]

-- Each item stands behind a comma, the first one too.
def renderItems : List (Json ν) → List UInt16
  | [] => []
  | item :: rest => 44 :: render item ++ renderItems rest

def renderFields : List (List UInt16 × Json ν) → List UInt16
  | [] => []
  | (key, value) :: rest =>
    44 :: quoted quote key ++ 58 :: render value ++ renderFields rest

end

-- `JSON.stringify`
def stringify (value : Json ν) : List UInt16 :=
  render format escapeString value

end Writing

section Reading

variable {ν : Type} (format : NumberFormat ν)

def isSpace (unit : UInt16) : Bool :=
  unit ∈ ([9, 10, 13, 32] : List UInt16)

-- A later field of the same name takes the place of an earlier one.
def setField (key : List UInt16) (value : Json ν) :
    List (List UInt16 × Json ν) → List (List UInt16 × Json ν)
  | [] => [(key, value)]
  | (name, other) :: rest =>
    if name = key then (key, value) :: rest else (name, other) :: setField key value rest

def ofFields (fields : List (List UInt16 × Json ν)) : Json ν :=
  .object (fields.foldl (fun object (key, value) => setField key value object) [])

mutual

def readValue : Nat → List UInt16 → Option (Json ν × List UInt16)
  | 0, _ => none
  | fuel + 1, text =>
    match text.dropWhile isSpace with
    | [] => none
    | unit :: rest =>
      if unit = 34 then
        (readString rest).map (Prod.map .string id)
      else if unit = 91 then
        if (rest.dropWhile isSpace).head? = some 93 then
          some (.array [], (rest.dropWhile isSpace).tail)
        else
          (readItems fuel rest).map (Prod.map .array id)
      else if unit = 123 then
        if (rest.dropWhile isSpace).head? = some 125 then
          some (.object [], (rest.dropWhile isSpace).tail)
        else
          (readFields fuel rest).map (Prod.map ofFields id)
      else if ([110, 117, 108, 108] : List UInt16).isPrefixOf (unit :: rest) then
        some (.null, rest.drop 3)
      else if ([116, 114, 117, 101] : List UInt16).isPrefixOf (unit :: rest) then
        some (.bool true, rest.drop 3)
      else if ([102, 97, 108, 115, 101] : List UInt16).isPrefixOf (unit :: rest) then
        some (.bool false, rest.drop 4)
      else
        (format.ofText ((unit :: rest).takeWhile isNumberUnit)).map fun value =>
          (.number value, (unit :: rest).dropWhile isNumberUnit)

-- The items up to the closing bracket.
def readItems : Nat → List UInt16 → Option (List (Json ν) × List UInt16)
  | 0, _ => none
  | fuel + 1, text =>
    match readValue fuel text with
    | none => none
    | some (item, rest) =>
      match rest.dropWhile isSpace with
      | [] => none
      | unit :: rest =>
        if unit = 93 then some ([item], rest)
        else if unit = 44 then (readItems fuel rest).map (Prod.map (item :: ·) id)
        else none

def readFields : Nat → List UInt16 → Option (List (List UInt16 × Json ν) × List UInt16)
  | 0, _ => none
  | fuel + 1, text =>
    match text.dropWhile isSpace with
    | [] => none
    | unit :: rest =>
      if unit ≠ 34 then
        none
      else
        match readString rest with
        | none => none
        | some (key, rest) =>
          match rest.dropWhile isSpace with
          | [] => none
          | unit :: rest =>
            if unit ≠ 58 then
              none
            else
              match readValue fuel rest with
              | none => none
              | some (value, rest) =>
                match rest.dropWhile isSpace with
                | [] => none
                | unit :: rest =>
                  if unit = 125 then some ([(key, value)], rest)
                  else if unit = 44 then
                    (readFields fuel rest).map (Prod.map ((key, value) :: ·) id)
                  else none

end

-- `JSON.parse`
def parse (text : List UInt16) : Option (Json ν) :=
  match readValue format (2 * text.length + 2) text with
  | some (value, rest) => if rest.dropWhile isSpace = [] then some value else none
  | none => none

end Reading

section Strings

theorem hexValue_hexDigit {digit : UInt16} (h : digit < 16) :
    hexValue (hexDigit digit) = some digit := by
  have hall : ∀ n : Fin 16, hexValue (hexDigit (.ofNat n)) = some (.ofNat n) := by decide
  have hdigit := hall ⟨digit.toNat, UInt16.lt_iff_toNat_lt.mp h⟩
  rwa [UInt16.ofNat_toNat] at hdigit

variable (unit : UInt16)

theorem digits_unit :
    4096 * (unit / 4096) + 256 * (unit / 256 % 16) + 16 * (unit / 16 % 16) + unit % 16 =
      unit := by
  have h := unit.toNat_lt
  apply UInt16.toNat_inj.mp
  simp
  omega

variable (rest : List UInt16)

theorem readString_quote : readString (34 :: rest) = some ([], rest) := by
  simp [readString]

theorem readString_plain {unit : UInt16} (hquote : unit ≠ 34) (hslash : unit ≠ 92)
    (hcontrol : ¬ unit < 32) (rest : List UInt16) :
    readString (unit :: rest) = (readString rest).map (Prod.map (unit :: ·) id) := by
  simp [readString, hslash, hcontrol]

theorem unit_mod_lt : unit % 16 < 16 := by
  rw [UInt16.lt_iff_toNat_lt, UInt16.toNat_mod]
  exact Nat.mod_lt _ (by decide)

theorem unit_div_lt : unit / 4096 < 16 := by
  have h := unit.toNat_lt
  rw [UInt16.lt_iff_toNat_lt, UInt16.toNat_div]
  show unit.toNat / 4096 < 16
  omega

theorem readString_unicodeEscape :
    readString (unicodeEscape unit ++ rest) =
      (readString rest).map (Prod.map (unit :: ·) id) := by
  rw [unicodeEscape]
  simp [readString, hexValue_hexDigit, unit_mod_lt, unit_div_lt, digits_unit]

theorem readString_escapeUnit :
    readString (escapeUnit unit ++ rest) = (readString rest).map (Prod.map (unit :: ·) id) := by
  rw [escapeUnit]
  split
  · rename_i letter hletter
    have hmem : (unit, letter) ∈ escapeLetters := by
      obtain ⟨before, after, heq, _⟩ := List.lookup_eq_some_iff.mp hletter
      rw [heq]
      exact List.mem_append_right before List.mem_cons_self
    simp only [escapeLetters, List.mem_cons, Prod.mk.injEq, List.not_mem_nil, or_false] at hmem
    rcases hmem with ⟨rfl, rfl⟩ | ⟨rfl, rfl⟩ | ⟨rfl, rfl⟩ | ⟨rfl, rfl⟩ | ⟨rfl, rfl⟩ | ⟨rfl, rfl⟩ |
      ⟨rfl, rfl⟩ <;> rfl
  · rename_i hnone
    split
    · exact readString_unicodeEscape unit rest
    · rename_i hplain
      have hquote : unit ≠ 34 := fun h => by rw [h] at hnone; cases hnone
      have hslash : unit ≠ 92 := fun h => by rw [h] at hnone; cases hnone
      simp only [Bool.or_eq_true, not_or, decide_eq_true_eq] at hplain
      exact readString_plain hquote hslash hplain.1.1 rest

theorem surrogates_le {unit next : UInt16}
    (h : (isHighSurrogate unit && isLowSurrogate next) = true) :
    0xd800 ≤ unit ∧ 0xd800 ≤ next := by
  simp only [Bool.and_eq_true, isHighSurrogate, isLowSurrogate, decide_eq_true_eq] at h
  exact ⟨h.1.1, UInt16.le_trans (by decide) h.2.1⟩

theorem readString_surrogate {unit : UInt16} (h : 0xd800 ≤ unit) (rest : List UInt16) :
    readString (unit :: rest) = (readString rest).map (Prod.map (unit :: ·) id) := by
  rw [UInt16.le_iff_toNat_le] at h
  have hquote : unit ≠ 34 := fun heq => by subst heq; exact absurd h (by decide)
  have hslash : unit ≠ 92 := fun heq => by subst heq; exact absurd h (by decide)
  have hcontrol : ¬ unit < 32 := fun hlt => by
    rw [UInt16.lt_iff_toNat_lt] at hlt
    exact absurd (Nat.lt_of_le_of_lt h hlt) (by decide)
  exact readString_plain hquote hslash hcontrol rest

end Strings

section RoundTrip

variable {ν : Type} {format : NumberFormat ν} {quote : List UInt16 → List UInt16}

variable {fields : List (List UInt16 × Json ν)}

theorem setField_of_notMem {key : List UInt16} (value : Json ν) (h : key ∉ fields.map Prod.fst) :
    setField key value fields = fields ++ [(key, value)] := by
  induction fields with
  | nil => rfl
  | cons field rest ih =>
    obtain ⟨name, other⟩ := field
    rw [List.map_cons, List.mem_cons, not_or] at h
    rw [setField, if_neg (Ne.symm h.1), ih h.2, List.cons_append]

theorem ofFields_of_nodup (h : (fields.map Prod.fst).Nodup) : ofFields fields = .object fields := by
  have hfold : ∀ earlier : List (List UInt16 × Json ν),
      ((earlier ++ fields).map Prod.fst).Nodup →
      fields.foldl (fun object (field : List UInt16 × Json ν) =>
        setField field.1 field.2 object) earlier = earlier ++ fields := by
    clear h
    induction fields with
    | nil => exact fun earlier _ => (List.append_nil earlier).symm
    | cons field rest ih =>
      intro earlier h
      have hfresh : field.1 ∉ earlier.map Prod.fst := by
        rw [List.map_append, List.nodup_append] at h
        intro hmem
        exact h.2.2 _ hmem _ List.mem_cons_self rfl
      rw [List.foldl_cons, setField_of_notMem _ hfresh, ih, List.append_assoc]
      · rfl
      · rwa [List.append_assoc]
  rw [ofFields]
  exact congrArg Json.object (hfold [] h)

-- What is read back from a quoted text is the text.
def Reads (quote : List UInt16 → List UInt16) : Prop :=
  ∀ text rest, readString (quote text ++ 34 :: rest) = some (text, rest)

theorem render_cons (format : NumberFormat ν) (quote : List UInt16 → List UInt16)
    (value : Json ν) :
    ∃ unit rest, render format quote value = unit :: rest ∧ isSpace unit = false ∧ unit ≠ 93 := by
  cases value with
  | null => exact ⟨_, _, by rw [render], by decide, by decide⟩
  | bool value => cases value <;> exact ⟨_, _, by rw [render], by decide, by decide⟩
  | number value =>
    obtain ⟨unit, rest, htext⟩ := List.exists_cons_of_ne_nil (format.toText_ne_nil value)
    have hunit := format.units value unit (by rw [htext]; exact List.mem_cons_self)
    refine ⟨unit, rest, by rw [render, htext], ?_, ?_⟩
    · by_contra hspace
      rw [Bool.not_eq_false, isSpace, decide_eq_true_eq] at hspace
      simp only [List.mem_cons, List.not_mem_nil, or_false] at hspace
      rcases hspace with rfl | rfl | rfl | rfl <;> exact absurd hunit (by decide)
    · rintro rfl
      exact absurd hunit (by decide)
  | string text => exact ⟨_, _, by rw [render, quoted, List.cons_append], by decide, by decide⟩
  | array | object => exact ⟨_, _, by rw [render, List.cons_append], by decide, by decide⟩

theorem dropWhile_render (value : Json ν) (rest : List UInt16) :
    (render format quote value ++ rest).dropWhile isSpace = render format quote value ++ rest := by
  obtain ⟨unit, tail, heq, hspace, _⟩ := render_cons format quote value
  rw [heq, List.cons_append, List.dropWhile_cons_of_neg (by rw [hspace]; exact Bool.false_ne_true)]

-- A number is read up to what cannot belong to it.
def EndsNumber (rest : List UInt16) : Prop :=
  ∀ unit ∈ rest.head?, isNumberUnit unit = false

theorem endsNumber_cons {unit : UInt16} (h : isNumberUnit unit = false) (rest : List UInt16) :
    EndsNumber (unit :: rest) := by
  intro other hother
  obtain rfl := Option.some.inj hother
  exact h

theorem endsNumber_items (items : List (Json ν)) (rest : List UInt16) :
    EndsNumber (renderItems format quote items ++ 93 :: rest) := by
  cases items <;> rw [renderItems] <;> exact endsNumber_cons (by decide) _

theorem endsNumber_fields (fields : List (List UInt16 × Json ν)) (rest : List UInt16) :
    EndsNumber (renderFields format quote fields ++ 125 :: rest) := by
  cases fields with
  | nil | cons => rw [renderFields]; exact endsNumber_cons (by decide) _

theorem readValue_number (value : ν) (fuel : Nat) {rest : List UInt16} (hrest : EndsNumber rest) :
    readValue format (fuel + 1) (format.toText value ++ rest) = some (.number value, rest) := by
  have hdrop := @dropWhile_render ν format id (.number value) rest
  rw [render] at hdrop
  have htake : (format.toText value ++ rest).takeWhile isNumberUnit = format.toText value ∧
      (format.toText value ++ rest).dropWhile isNumberUnit = rest := by
    rw [List.takeWhile_append_of_pos (format.units value),
      List.dropWhile_append_of_pos (format.units value)]
    cases rest with
    | nil => simp
    | cons unit rest =>
      have hunit := hrest unit rfl
      simp [hunit]
  obtain ⟨unit, tail, htext⟩ := List.exists_cons_of_ne_nil (format.toText_ne_nil value)
  have hunit := format.units value unit (by rw [htext]; exact List.mem_cons_self)
  have hne : ∀ other : UInt16, isNumberUnit other = false → unit ≠ other := by
    rintro other hother rfl
    rw [hother] at hunit
    cases hunit
  rw [readValue, hdrop]
  rw [htext, List.cons_append] at htake ⊢
  simp only [if_neg (hne 34 (by decide)), if_neg (hne 91 (by decide)),
    if_neg (hne 123 (by decide)), List.isPrefixOf,
    beq_eq_false_iff_ne.mpr (hne 110 (by decide)).symm,
    beq_eq_false_iff_ne.mpr (hne 116 (by decide)).symm,
    beq_eq_false_iff_ne.mpr (hne 102 (by decide)).symm, Bool.false_and, Bool.false_eq_true,
    if_false, htake.1, htake.2]
  rw [← htext, format.ofText_toText]
  rfl

theorem readValue_object {key : List UInt16} {value : Json ν} {fuel : Nat} {rest : List UInt16}
    (hread : readFields format fuel ((renderFields format quote ((key, value) :: fields)).tail ++ 125 :: rest) = some ((key, value) :: fields, rest)) :
    readValue format (fuel + 1) (render format quote (.object ((key, value) :: fields)) ++ rest) =
      some (ofFields ((key, value) :: fields), rest) := by
  rw [readValue, dropWhile_render, render, List.append_assoc, List.cons_append]
  have hopen : (((renderFields format quote ((key, value) :: fields)).tail ++
      125 :: rest).dropWhile isSpace).head? ≠ some 125 := by
    rw [renderFields, quoted]
    simp [isSpace]
  simp only [if_neg (by decide : (123 : UInt16) ≠ 34), if_neg (by decide : (123 : UInt16) ≠ 91),
    if_true, List.singleton_append, if_neg hopen, hread]
  rfl

mutual

theorem readValue_render (hquote : Reads quote) : ∀ (value : Json ν) (fuel : Nat)
    (rest : List UInt16), value.distinct = true →
    2 * (render format quote value).length ≤ fuel → EndsNumber rest →
    readValue format fuel (render format quote value ++ rest) = some (value, rest)
  | value, 0, rest, _, hfuel, _ => by
    obtain ⟨unit, tail, heq, _⟩ := render_cons format quote value
    rw [heq, List.length_cons] at hfuel
    omega
  | .null, fuel + 1, rest, _, _, _ => by simp [render, readValue, isSpace]
  | .bool true, fuel + 1, rest, _, _, _ => by simp [render, readValue, isSpace]
  | .bool false, fuel + 1, rest, _, _, _ => by simp [render, readValue, isSpace]
  | .number value, fuel + 1, rest, _, _, hrest => by
    rw [render]
    exact readValue_number value fuel hrest
  | .string text, fuel + 1, rest, _, _, _ => by
    rw [readValue, dropWhile_render, render, quoted, List.append_assoc, List.cons_append]
    simp only [if_pos, List.singleton_append, hquote text rest]
    rfl
  | .array [], fuel + 1, rest, _, _, _ => by simp [render, renderItems, readValue, isSpace]
  | .array (item :: items), fuel + 1, rest, hdistinct, hfuel, _ => by
    have hread := readItems_render hquote (item :: items) fuel rest (List.cons_ne_nil _ _)
      (by rwa [distinct] at hdistinct)
      (by
        rw [render] at hfuel
        simp only [List.length_cons, List.length_append, List.length_tail] at hfuel ⊢
        omega)
    rw [readValue, dropWhile_render, render, List.append_assoc, List.cons_append]
    have hopen : (((renderItems format quote (item :: items)).tail ++ 93 :: rest).dropWhile
        isSpace).head? ≠ some 93 := by
      rw [renderItems, List.cons_append, List.tail_cons, List.append_assoc, dropWhile_render]
      obtain ⟨unit, tail, heq, _, hclose⟩ := render_cons format quote item
      rw [heq, List.cons_append, List.head?_cons]
      exact fun h => hclose (Option.some.inj h)
    simp only [if_neg (by decide : (91 : UInt16) ≠ 34), if_true, List.singleton_append,
      if_neg hopen, hread]
    rfl
  | .object [], fuel + 1, rest, _, _, _ => by
    simp [render, renderFields, readValue, isSpace]
  | .object ((key, value) :: fields), fuel + 1, rest, hdistinct, hfuel, _ => by
    rw [distinct, Bool.and_eq_true, decide_eq_true_eq] at hdistinct
    have hread := readFields_render hquote ((key, value) :: fields) fuel rest
      (List.cons_ne_nil _ _) hdistinct.2
      (by
        rw [render] at hfuel
        simp only [List.length_cons, List.length_append, List.length_tail] at hfuel ⊢
        omega)
    rw [readValue_object hread, ofFields_of_nodup hdistinct.1]

theorem readItems_render (hquote : Reads quote) : ∀ (items : List (Json ν)) (fuel : Nat)
    (rest : List UInt16), items ≠ [] → distinctItems items = true →
    2 * (renderItems format quote items).length ≤ fuel + 1 →
    readItems format fuel ((renderItems format quote items).tail ++ 93 :: rest) =
      some (items, rest)
  | [], _, _, hne, _, _ => absurd rfl hne
  | item :: items, 0, rest, _, _, hfuel => by
    obtain ⟨unit, tail, heq, _⟩ := render_cons format quote item
    rw [renderItems, heq] at hfuel
    simp only [List.length_cons, List.cons_append] at hfuel
    omega
  | item :: items, fuel + 1, rest, _, hdistinct, hfuel => by
    rw [distinctItems, Bool.and_eq_true] at hdistinct
    rw [renderItems] at hfuel ⊢
    simp only [List.length_cons, List.length_append] at hfuel
    have hitem := readValue_render hquote item fuel
      (renderItems format quote items ++ 93 :: rest) hdistinct.1 (by omega)
      (endsNumber_items items rest)
    rw [List.cons_append, List.tail_cons, List.append_assoc, readItems, hitem]
    cases items with
    | nil => simp [renderItems, isSpace]
    | cons next items =>
      have hread := readItems_render hquote (next :: items) fuel rest (List.cons_ne_nil _ _)
        hdistinct.2 (by omega)
      rw [renderItems, List.cons_append, List.tail_cons, List.append_assoc] at hread
      simp [renderItems, isSpace, hread]

theorem readFields_render (hquote : Reads quote) : ∀ (fields : List (List UInt16 × Json ν))
    (fuel : Nat) (rest : List UInt16), fields ≠ [] → distinctFields fields = true →
    2 * (renderFields format quote fields).length ≤ fuel + 1 →
    readFields format fuel ((renderFields format quote fields).tail ++ 125 :: rest) =
      some (fields, rest)
  | [], _, _, hne, _, _ => absurd rfl hne
  | (key, value) :: fields, 0, rest, _, _, hfuel => by
    rw [renderFields, quoted] at hfuel
    simp only [List.length_cons, List.length_append, List.cons_append] at hfuel
    omega
  | (key, value) :: fields, fuel + 1, rest, _, hdistinct, hfuel => by
    rw [distinctFields, Bool.and_eq_true] at hdistinct
    rw [renderFields] at hfuel ⊢
    simp only [List.length_cons, List.length_append] at hfuel
    have hvalue := readValue_render hquote value fuel
      (renderFields format quote fields ++ 125 :: rest) hdistinct.1 (by omega)
      (endsNumber_fields fields rest)
    have hkey := hquote key (58 :: (render format quote value ++
      (renderFields format quote fields ++ 125 :: rest)))
    rw [quoted, readFields]
    simp only [List.cons_append, List.tail_cons, List.append_assoc, List.nil_append,
      List.dropWhile_cons_of_neg (by decide : ¬ isSpace 34 = true), ne_eq, not_true,
      if_false, hkey, List.dropWhile_cons_of_neg (by decide : ¬ isSpace 58 = true), hvalue]
    cases fields with
    | nil => simp [renderFields, isSpace]
    | cons field fields =>
      have hread := readFields_render hquote (field :: fields) fuel rest
        (List.cons_ne_nil _ _) hdistinct.2 (by omega)
      rw [renderFields, List.cons_append] at hread
      simp only [List.cons_append, List.tail_cons, List.append_assoc] at hread
      simp [renderFields, isSpace, hread]

end

theorem endsNumber_nil : EndsNumber [] := fun _ h => by cases h

theorem parse_render (hquote : Reads quote) {value : Json ν} (h : value.distinct = true) :
    parse format (render format quote value) = some value := by
  have hread := @readValue_render ν format quote hquote value
    (2 * (render format quote value).length + 2) [] h (by omega) endsNumber_nil
  rw [List.append_nil] at hread
  rw [parse, hread]
  rfl

theorem parse_object (hquote : Reads quote) (h : distinctFields fields = true) :
    parse format (render format quote (.object fields)) = some (ofFields fields) := by
  cases fields with
  | nil => exact parse_render hquote rfl
  | cons field fields =>
    obtain ⟨key, value⟩ := field
    have hfields := @readFields_render ν format quote hquote ((key, value) :: fields)
      (2 * (render format quote (.object ((key, value) :: fields))).length + 1) []
      (List.cons_ne_nil _ _) h
      (by rw [render]; simp only [List.length_cons, List.length_append, List.length_tail]; omega)
    have hread := readValue_object hfields
    rw [List.append_nil] at hread
    rw [parse, hread]
    rfl

theorem distinctFields_append (first second : List (List UInt16 × Json ν)) :
    distinctFields (first ++ second) = (distinctFields first && distinctFields second) := by
  induction first with
  | nil => rfl
  | cons field rest ih =>
    rw [List.cons_append, distinctFields, ih, distinctFields, Bool.and_assoc]

theorem renderFields_append (first second : List (List UInt16 × Json ν)) :
    renderFields format quote (first ++ second) =
      renderFields format quote first ++ renderFields format quote second := by
  induction first with
  | nil => rfl
  | cons field rest ih =>
    rw [List.cons_append, renderFields, ih, renderFields]
    simp only [List.append_assoc, List.cons_append]

-- A field written behind the others of an object is set in it.
theorem ofFields_append_field (key : List UInt16) (value : Json ν) (h : (fields.map Prod.fst).Nodup) :
    ofFields (fields ++ [(key, value)]) = .object (setField key value fields) := by
  have hfields := ofFields_of_nodup h
  rw [ofFields, Json.object.injEq] at hfields
  rw [ofFields, List.foldl_append, hfields]
  rfl

end RoundTrip

end WebSsh2.Library.Json

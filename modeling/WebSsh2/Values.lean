import WebSsh2.Library.Json
import WebSsh2.Library.Text
import Mathlib.Algebra.Order.Ring.Cast
import Mathlib.Algebra.Order.Ring.Rat

namespace WebSsh2

open WebSsh2.Library

-- A string of the source is a sequence of UTF-16 code units.
abbrev JsString := List UInt16

abbrev Bytes := List UInt8

def utf16 (c : Char) : JsString :=
  if c.toNat < 0x10000 then
    [c.toNat.toUInt16]
  else
    [(0xd800 + (c.toNat - 0x10000) / 0x400).toUInt16,
      (0xdc00 + (c.toNat - 0x10000) % 0x400).toUInt16]

def js (text : String) : JsString :=
  text.toList.flatMap utf16

-- Finite numbers are exact, and the two zeros are one value.
inductive Number where
  | nan
  | infinity (negative : Bool)
  | finite (value : ℚ)
deriving DecidableEq

namespace Number

def ofInt (value : Int) : Number :=
  .finite value

-- The comparison `<` of the source: false as soon as one side is not a number.
def lt : Number → Number → Bool
  | .finite left, .finite right => decide (left < right)
  | .infinity negative, .finite _ => negative
  | .finite _, .infinity negative => !negative
  | .infinity left, .infinity right => left && !right
  | _, _ => false

def le : Number → Number → Bool
  | .nan, _ => false
  | _, .nan => false
  | left, right => !right.lt left

def add : Number → Number → Number
  | .nan, _ => .nan
  | _, .nan => .nan
  | .finite left, .finite right => .finite (left + right)
  | .infinity left, .infinity right => if left = right then .infinity left else .nan
  | .infinity negative, .finite _ => .infinity negative
  | .finite _, .infinity negative => .infinity negative

def neg : Number → Number
  | .nan => .nan
  | .infinity negative => .infinity !negative
  | .finite value => .finite (-value)

def sub (left right : Number) : Number :=
  left.add right.neg

-- The zero that is divided by counts as the positive one.
def div : Number → Number → Number
  | .finite left, .finite right =>
    if right ≠ 0 then .finite (left / right)
    else if left = 0 then .nan
    else .infinity (left < 0)
  | .finite _, .infinity _ => .finite 0
  | .infinity negative, .finite right => .infinity (negative != decide (right < 0))
  | _, _ => .nan

-- `Math.max`
def max : Number → Number → Number
  | .nan, _ => .nan
  | _, .nan => .nan
  | left, right => if left.lt right then right else left

variable (left right : Int)

@[simp] theorem ofInt_add : (ofInt left).add (ofInt right) = ofInt (left + right) := by
  simp [ofInt, add]

@[simp] theorem ofInt_sub : (ofInt left).sub (ofInt right) = ofInt (left - right) := by
  simp [ofInt, sub, neg, add, sub_eq_add_neg]

@[simp] theorem ofInt_lt : (ofInt left).lt (ofInt right) = decide (left < right) := by
  simp [ofInt, lt]

@[simp] theorem ofInt_le : (ofInt left).le (ofInt right) = decide (left ≤ right) := by
  show (!(ofInt right).lt (ofInt left)) = _
  rw [ofInt_lt, ← decide_not]
  exact decide_eq_decide.mpr Int.not_lt

theorem ofNat_lt (left right : Nat) :
    (ofInt left).lt (ofInt right) = decide (left < right) := by
  rw [ofInt_lt]
  exact decide_eq_decide.mpr Int.ofNat_lt

@[simp] theorem ofInt_inj : ofInt left = ofInt right ↔ left = right := by
  simp [ofInt]

end Number

abbrev JsonValue := Json Number

-- What a message handler can be given: `undefined`, or a JSON value.
abbrev JsValue := Option JsonValue

-- What the language does with numbers and letters, where it is not computed here.
structure Runtime where
  toLowerCase : JsString → JsString
  numberToString : Number → JsString
  stringToNumber : JsString → Number

def isWhiteSpace (unit : UInt16) : Bool :=
  unit ∈ ([9, 10, 11, 12, 13, 32, 0xa0, 0x1680, 0x2028, 0x2029, 0x202f, 0x205f, 0x3000,
    0xfeff] : List UInt16) || (0x2000 ≤ unit && unit ≤ 0x200a)

def trim (text : JsString) : JsString :=
  ((text.dropWhile isWhiteSpace).reverse.dropWhile isWhiteSpace).reverse

variable {text : JsString}

theorem dropWhile_isWhiteSpace_of_head (h : ∀ unit ∈ text.head?, isWhiteSpace unit = false) :
    text.dropWhile isWhiteSpace = text := by
  cases text with
  | nil => rfl
  | cons head rest =>
    rw [List.dropWhile_cons, h head rfl]
    rfl

-- A text that is trimmed already begins and ends with ink.
theorem ends_of_trim_eq (h : trim text = text) :
    (∀ unit ∈ text.head?, isWhiteSpace unit = false) ∧
      ∀ unit ∈ text.reverse.head?, isWhiteSpace unit = false := by
  have hfront := (List.dropWhile_suffix (l := text) isWhiteSpace).length_le
  have hback := (List.dropWhile_suffix (l := (text.dropWhile isWhiteSpace).reverse)
    isWhiteSpace).length_le
  have hlength := congrArg List.length h
  unfold trim at hlength
  rw [List.length_reverse] at hlength hback
  have hkept : text.dropWhile isWhiteSpace = text :=
    (List.dropWhile_suffix isWhiteSpace).eq_of_length (by omega)
  have hkeptBack : text.reverse.dropWhile isWhiteSpace = text.reverse := by
    rw [hkept] at hlength
    exact (List.dropWhile_suffix isWhiteSpace).eq_of_length (by rw [List.length_reverse]; omega)
  have hhead : ∀ units : JsString, units.dropWhile isWhiteSpace = units →
      ∀ unit ∈ units.head?, isWhiteSpace unit = false := by
    intro units hunits unit hunit
    cases units with
    | nil => cases hunit
    | cons head rest =>
      obtain rfl : head = unit := Option.some.inj hunit
      rw [Bool.eq_false_iff]
      intro hblank
      rw [List.dropWhile_cons, if_pos hblank] at hunits
      have hshort := (List.dropWhile_suffix (l := rest) isWhiteSpace).length_le
      rw [hunits, List.length_cons] at hshort
      omega
  exact ⟨hhead text hkept, hhead text.reverse hkeptBack⟩

theorem trim_blank (h : ∀ unit ∈ text, isWhiteSpace unit = true) : trim text = [] := by
  have hall : text.dropWhile isWhiteSpace = [] := by
    rw [← List.append_nil text, List.dropWhile_append_of_pos h]
    rfl
  unfold trim
  rw [hall]
  rfl

-- Blanks around a trimmed text are all that trimming takes away.
theorem trim_surrounded {before text after : JsString}
    (hbefore : ∀ unit ∈ before, isWhiteSpace unit = true)
    (hafter : ∀ unit ∈ after, isWhiteSpace unit = true) (htext : trim text = text) :
    trim (before ++ text ++ after) = text := by
  obtain ⟨hhead, hlast⟩ := ends_of_trim_eq htext
  cases text with
  | nil =>
    apply trim_blank
    intro unit hunit
    rw [List.append_nil] at hunit
    exact (List.mem_append.mp hunit).elim (hbefore unit) (hafter unit)
  | cons head rest =>
    have hfront : (before ++ head :: rest ++ after).dropWhile isWhiteSpace =
        head :: rest ++ after := by
      rw [List.append_assoc, List.dropWhile_append_of_pos hbefore]
      exact dropWhile_isWhiteSpace_of_head hhead
    have hback : (head :: rest ++ after).reverse.dropWhile isWhiteSpace =
        (head :: rest).reverse := by
      rw [List.reverse_append, List.dropWhile_append_of_pos
        fun unit hunit => hafter unit (List.mem_reverse.mp hunit)]
      exact dropWhile_isWhiteSpace_of_head hlast
    unfold trim
    rw [hfront, hback, List.reverse_reverse]

theorem trim_of_ends (hhead : ∀ unit ∈ text.head?, isWhiteSpace unit = false)
    (hlast : ∀ unit ∈ text.reverse.head?, isWhiteSpace unit = false) : trim text = text := by
  unfold trim
  rw [dropWhile_isWhiteSpace_of_head hhead, dropWhile_isWhiteSpace_of_head hlast,
    List.reverse_reverse]

theorem trim_of_ink (h : ∀ unit ∈ text, isWhiteSpace unit = false) : trim text = text := by
  apply trim_of_ends
  · intro unit hunit
    exact h unit (List.mem_of_head? hunit)
  · intro unit hunit
    exact h unit (List.mem_reverse.mp (List.mem_of_head? hunit))

-- `text.split(/\s+/)`
def splitWhiteSpace (text : JsString) : List JsString :=
  go [] false text
where
  go (current : JsString) (inGap : Bool) : JsString → List JsString
    | [] => [current.reverse]
    | unit :: rest =>
      if isWhiteSpace unit then
        if inGap then go [] true rest else current.reverse :: go [] true rest
      else
        go (unit :: current) false rest

def isDigit (unit : UInt16) : Bool :=
  48 ≤ unit && unit ≤ 57

def digitsValue (digits : JsString) : Nat :=
  digits.foldl (fun value digit => 10 * value + (digit.toNat - 48)) 0

-- `Number.parseInt(text, 10)`
def parseInt (text : JsString) : Number :=
  let unsigned (negative : Bool) (rest : JsString) : Number :=
    let digits := rest.takeWhile isDigit
    if digits = [] then
      .nan
    else
      .ofInt (if negative then -(digitsValue digits : Int) else digitsValue digits)
  match text.dropWhile isWhiteSpace with
  | 45 :: rest => unsigned true rest
  | 43 :: rest => unsigned false rest
  | rest => unsigned false rest

-- `first ?? second`
def nullish : JsValue → JsValue → JsValue
  | none, second => second
  | some .null, second => second
  | first, _ => first

def present : JsValue → Bool
  | none | some .null => false
  | _ => true

theorem nullish_of_present {first : JsValue} (h : present first = true) (second : JsValue) :
    nullish first second = first := by
  unfold nullish
  split
  · cases h
  · cases h
  · rfl

theorem present_nullish {second : JsValue} (first : JsValue) (h : present second = true) :
    present (nullish first second) = true := by
  cases first with
  | none => exact h
  | some value =>
    cases value with
    | null => exact h
    | bool _ | number _ | string _ | array _ | object _ => rfl

def includes (pattern text : JsString) : Bool :=
  (Text.cut pattern text).isSome

section Coercions

variable (runtime : Runtime)

mutual

-- `String(value)`. Data has no methods, so an object with a field `toString`
-- throws here, and so does an array around one.
def toText : JsonValue → Option JsString
  | .null => some (js "null")
  | .bool value => some (js (if value then "true" else "false"))
  | .number value => some (runtime.numberToString value)
  | .string text => some text
  | .array items => (itemTexts items).map [44].intercalate
  | .object fields =>
    if (Json.lookup (js "toString") fields).isSome then none else some (js "[object Object]")

def itemTexts : List JsonValue → Option (List JsString)
  | [] => some []
  | item :: rest =>
    match (if item = .null then some [] else toText item), itemTexts rest with
    | some text, some texts => some (text :: texts)
    | _, _ => none

end

-- `Number(value)`, or nothing where the conversion throws.
def toNumber : JsValue → Option Number
  | none => some .nan
  | some .null => some (.ofInt 0)
  | some (.bool value) => some (.ofInt (if value then 1 else 0))
  | some (.number value) => some value
  | some (.string text) => some (runtime.stringToNumber text)
  | some value => (toText runtime value).map runtime.stringToNumber

end Coercions

-- The runtime on ASCII letters and on integers, for runs on concrete inputs.
def asciiRuntime : Runtime where
  toLowerCase text := text.map fun unit => if 65 ≤ unit && unit ≤ 90 then unit + 32 else unit
  numberToString
    | .nan => js "NaN"
    | .infinity negative => js (if negative then "-Infinity" else "Infinity")
    | .finite value => (if value < 0 then js "-" else []) ++
        (Nat.toDigits 10 value.num.natAbs).flatMap utf16
  stringToNumber text :=
    let digits := trim text
    if digits.all isDigit then .ofInt (digitsValue digits) else .nan

end WebSsh2

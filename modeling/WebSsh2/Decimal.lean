import WebSsh2.Values
import Mathlib.Data.List.TakeWhile

namespace WebSsh2

variable (value : Nat)

-- The decimal digits of a number.
def decimal : JsString :=
  (Nat.toDigits 10 value).flatMap utf16

theorem digit_toNat {c : Char} (h : c.isDigit = true) : 48 ≤ c.toNat ∧ c.toNat ≤ 57 := by
  simp only [Char.isDigit, Bool.and_eq_true, decide_eq_true_eq] at h
  exact ⟨UInt32.le_iff_toNat_le.mp h.1, UInt32.le_iff_toNat_le.mp h.2⟩

theorem utf16_digit {c : Char} (h : c.isDigit = true) : utf16 c = [c.toNat.toUInt16] := by
  have hrange := digit_toNat h
  unfold utf16
  rw [if_pos (by omega)]

theorem digit_toUInt16 {c : Char} (h : c.isDigit = true) :
    (c.toNat.toUInt16).toNat = c.toNat := by
  have hrange := digit_toNat h
  rw [Nat.toUInt16_eq, UInt16.toNat_ofNat']
  omega

theorem digitsValue_flatMap_utf16 {digits : List Char} (h : ∀ c ∈ digits, c.isDigit = true) :
    digitsValue (digits.flatMap utf16) = Nat.ofDigitChars 10 digits 0 := by
  unfold digitsValue Nat.ofDigitChars
  generalize 0 = start
  induction digits generalizing start with
  | nil => rfl
  | cons c rest ih =>
    have hc := h c List.mem_cons_self
    rw [List.flatMap_cons, utf16_digit hc, List.singleton_append, List.foldl_cons,
      List.foldl_cons, digit_toUInt16 hc, ih fun d hd => h d (List.mem_cons_of_mem _ hd)]
    rfl

variable {unit : UInt16}

theorem isDigit_of_mem_decimal {value : Nat} (h : unit ∈ decimal value) : isDigit unit = true := by
  obtain ⟨c, hc, hunit⟩ := List.mem_flatMap.mp h
  have hdigit := Nat.isDigit_of_mem_toDigits (by decide) (by decide) hc
  rw [utf16_digit hdigit, List.mem_singleton] at hunit
  have hrange := digit_toNat hdigit
  have hnat := digit_toUInt16 hdigit
  rw [← hunit] at hnat
  simp only [isDigit, Bool.and_eq_true, decide_eq_true_eq, UInt16.le_iff_toNat_le, hnat]
  exact ⟨hrange.1, hrange.2⟩

theorem decimal_ne_nil : decimal value ≠ [] := by
  intro h
  obtain ⟨c, hc⟩ := List.exists_mem_of_ne_nil _ (@Nat.toDigits_ne_nil value 10)
  have hempty := List.flatMap_eq_nil_iff.mp h c hc
  rw [utf16_digit (Nat.isDigit_of_mem_toDigits (by decide) (by decide) hc)] at hempty
  cases hempty

theorem digitsValue_decimal : digitsValue (decimal value) = value := by
  unfold decimal
  rw [digitsValue_flatMap_utf16 fun c hc =>
    Nat.isDigit_of_mem_toDigits (by decide) (by decide) hc]
  exact Nat.ofDigitChars_ten_toDigits

-- The printable units of ASCII are no white space.
theorem isWhiteSpace_of_printable (h : 33 ≤ unit.toNat ∧ unit.toNat ≤ 126) :
    isWhiteSpace unit = false := by
  rw [Bool.eq_false_iff]
  intro hspace
  simp only [isWhiteSpace, List.mem_cons, List.not_mem_nil, or_false, Bool.or_eq_true,
    Bool.and_eq_true, decide_eq_true_eq, UInt16.le_iff_toNat_le, ← UInt16.toNat_inj] at hspace
  simp at hspace
  omega

theorem isDigit_iff : isDigit unit = true ↔ 48 ≤ unit.toNat ∧ unit.toNat ≤ 57 := by
  simp only [isDigit, Bool.and_eq_true, decide_eq_true_eq, UInt16.le_iff_toNat_le]
  exact Iff.rfl

theorem isWhiteSpace_of_isDigit (h : isDigit unit = true) : isWhiteSpace unit = false := by
  have hrange := isDigit_iff.mp h
  exact isWhiteSpace_of_printable (by omega)

-- Digits are read as their number.
theorem parseInt_digits {digits : JsString} (hne : digits ≠ [])
    (hdigits : ∀ unit ∈ digits, isDigit unit = true) :
    parseInt digits = .ofInt (digitsValue digits) := by
  obtain ⟨first, rest, hsplit⟩ := List.exists_cons_of_ne_nil hne
  have hfirst : isDigit first = true := by
    apply hdigits
    rw [hsplit]
    exact List.mem_cons_self
  have hspace : digits.dropWhile isWhiteSpace = digits := by
    rw [hsplit, List.dropWhile_cons, isWhiteSpace_of_isDigit hfirst]
    rfl
  have hall : digits.takeWhile isDigit = digits := List.takeWhile_eq_self_iff.mpr hdigits
  unfold parseInt
  dsimp only
  rw [hspace]
  split
  · cases hdigits 45 List.mem_cons_self
  · cases hdigits 43 List.mem_cons_self
  · rw [hall, if_neg hne]
    rfl

theorem parseInt_cases (text : JsString) :
    parseInt text = .nan ∨ ∃ value : Int, parseInt text = .ofInt value := by
  unfold parseInt
  dsimp only
  split <;> split
  all_goals first
    | exact .inl rfl
    | exact .inr ⟨_, rfl⟩

theorem parseInt_decimal : parseInt (decimal value) = .ofInt value := by
  rw [parseInt_digits (decimal_ne_nil value) fun unit hunit => isDigit_of_mem_decimal hunit,
    digitsValue_decimal]

end WebSsh2

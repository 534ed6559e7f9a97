import Mathlib.Data.List.Basic
import Mathlib.Tactic.IntervalCases

namespace WebSsh2.Library.Base64

-- Six bits each, the last ones filled up with zeros.
def sextets : List UInt8 → List Nat
  | [] => []
  | [a] => [a.toNat / 4, a.toNat % 4 * 16]
  | [a, b] => [a.toNat / 4, a.toNat % 4 * 16 + b.toNat / 16, b.toNat % 16 * 4]
  | a :: b :: c :: rest =>
    (a.toNat / 4) :: (a.toNat % 4 * 16 + b.toNat / 16) ::
      (b.toNat % 16 * 4 + c.toNat / 64) :: (c.toNat % 64) :: sextets rest

-- What is left over at the end makes no octet.
def octets : List Nat → List UInt8
  | v0 :: v1 :: v2 :: v3 :: rest =>
    UInt8.ofNat (v0 * 4 + v1 / 16) :: UInt8.ofNat (v1 % 16 * 16 + v2 / 4) ::
      UInt8.ofNat (v2 % 4 * 64 + v3) :: octets rest
  | [v0, v1, v2] => [UInt8.ofNat (v0 * 4 + v1 / 16), UInt8.ofNat (v1 % 16 * 16 + v2 / 4)]
  | [v0, v1] => [UInt8.ofNat (v0 * 4 + v1 / 16)]
  | _ => []

def digit (value : Nat) : UInt16 :=
  if value < 26 then (65 + value).toUInt16
  else if value < 52 then (71 + value).toUInt16
  else if value < 62 then (value - 4).toUInt16
  else if value = 62 then 43
  else 47

-- The value of a digit, in either alphabet.
def digitValue (unit : UInt16) : Option Nat :=
  if 65 ≤ unit ∧ unit ≤ 90 then some (unit.toNat - 65)
  else if 97 ≤ unit ∧ unit ≤ 122 then some (unit.toNat - 71)
  else if 48 ≤ unit ∧ unit ≤ 57 then some (unit.toNat + 4)
  else if unit = 43 ∨ unit = 45 then some 62
  else if unit = 47 ∨ unit = 95 then some 63
  else none

def padding : UInt16 := 61

variable (bytes : List UInt8)

def encode : List UInt16 :=
  (sextets bytes).map digit ++ List.replicate ((3 - bytes.length % 3) % 3) padding

-- The text counts up to the padding, and what is no digit is passed over.
def decode (text : List UInt16) : List UInt8 :=
  octets ((text.takeWhile (· ≠ padding)).filterMap digitValue)

theorem digitValue_digit {value : Nat} (h : value < 64) :
    digitValue (digit value) = some value ∧ digit value ≠ padding := by
  interval_cases value <;> decide

theorem sextets_lt : ∀ value ∈ sextets bytes, value < 64 := by
  induction bytes using sextets.induct with
  | case1 => exact nofun
  | case2 a =>
    have ha := a.toNat_lt
    simp only [sextets, List.forall_mem_cons, List.not_mem_nil, false_implies, implies_true,
      and_true]
    omega
  | case3 a b =>
    have ha := a.toNat_lt
    have hb := b.toNat_lt
    simp only [sextets, List.forall_mem_cons, List.not_mem_nil, false_implies, implies_true,
      and_true]
    omega
  | case4 a b c rest ih =>
    have ha := a.toNat_lt
    have hb := b.toNat_lt
    have hc := c.toNat_lt
    simp only [sextets, List.forall_mem_cons]
    exact ⟨by omega, by omega, by omega, by omega, ih⟩

theorem ofNat_toNat {value : Nat} (octet : UInt8) (h : value = octet.toNat) :
    UInt8.ofNat value = octet := by
  rw [h]
  exact UInt8.ofNat_toNat

theorem octets_sextets : octets (sextets bytes) = bytes := by
  induction bytes using sextets.induct with
  | case1 => rfl
  | case2 a =>
    have ha := a.toNat_lt
    simp only [sextets, octets]
    rw [ofNat_toNat a (by omega)]
  | case3 a b =>
    have ha := a.toNat_lt
    have hb := b.toNat_lt
    simp only [sextets, octets]
    rw [ofNat_toNat a (by omega), ofNat_toNat b (by omega)]
  | case4 a b c rest ih =>
    have ha := a.toNat_lt
    have hb := b.toNat_lt
    have hc := c.toNat_lt
    simp only [sextets, octets]
    rw [ofNat_toNat a (by omega), ofNat_toNat b (by omega), ofNat_toNat c (by omega), ih]

theorem takeWhile_digits {values : List Nat} (h : ∀ value ∈ values, value < 64) (count : Nat) :
    (values.map digit ++ List.replicate count padding).takeWhile (· ≠ padding) =
      values.map digit := by
  rw [List.takeWhile_append_of_pos]
  · cases count with
    | zero => simp
    | succ count => simp [List.replicate_succ]
  · intro unit hmem
    obtain ⟨value, hvalue, rfl⟩ := List.mem_map.mp hmem
    simpa using (digitValue_digit (h value hvalue)).2

theorem filterMap_digits {values : List Nat} (h : ∀ value ∈ values, value < 64) :
    (values.map digit).filterMap digitValue = values := by
  induction values with
  | nil => rfl
  | cons value rest ih =>
    rw [List.map_cons, List.filterMap_cons_some (digitValue_digit (h value List.mem_cons_self)).1,
      ih fun other hmem => h other (List.mem_cons_of_mem _ hmem)]

theorem decode_encode : decode (encode bytes) = bytes := by
  have hlt := sextets_lt bytes
  unfold decode encode
  rw [takeWhile_digits hlt, filterMap_digits hlt, octets_sextets]

-- Four digits for every three octets begun.
theorem length_encode : (encode bytes).length = 4 * ((bytes.length + 2) / 3) := by
  unfold encode
  rw [List.length_append, List.length_map, List.length_replicate]
  induction bytes using sextets.induct with
  | case1 => rfl
  | case2 a => simp [sextets]
  | case3 a b => simp [sextets]
  | case4 a b c rest ih =>
    simp only [sextets, List.length_cons]
    omega

end WebSsh2.Library.Base64

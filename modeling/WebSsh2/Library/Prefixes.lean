import Mathlib.Data.Nat.Digits.Lemmas

namespace WebSsh2.Library.Prefixes

-- The first `count` bits of two numbers of `width` bits are the same.
def SamePrefix (width count first second : Nat) : Prop :=
  first / 2 ^ (width - count) = second / 2 ^ (width - count)

instance (width count first second : Nat) : Decidable (SamePrefix width count first second) :=
  inferInstanceAs (Decidable (_ = _))

-- The number that digits of `width` bits make up, the highest first.
def value (width : Nat) (digits : List Nat) : Nat :=
  Nat.ofDigits (2 ^ width) digits.reverse

-- Digit by digit; a digit that the second number does not have counts as zero.
def SamePrefixes (width : Nat) : Nat → List Nat → List Nat → Prop
  | _, [], _ => True
  | count, digit :: rest, others =>
    SamePrefix width (min width count) digit (others.headD 0) ∧
      SamePrefixes width (count - width) rest others.tail

instance SamePrefixes.decidable (width : Nat) :
    ∀ count firsts seconds, Decidable (SamePrefixes width count firsts seconds)
  | _, [], _ => inferInstanceAs (Decidable True)
  | count, digit :: rest, others =>
    have := SamePrefixes.decidable width (count - width) rest others.tail
    inferInstanceAs (Decidable (SamePrefix width (min width count) digit (others.headD 0) ∧
      SamePrefixes width (count - width) rest others.tail))

section Numbers

variable {width count : Nat}

-- All bits are all there is.
theorem samePrefix_full {first second : Nat} (h : width ≤ count) :
    SamePrefix width count first second ↔ first = second := by
  unfold SamePrefix
  rw [Nat.sub_eq_zero_of_le h, pow_zero, Nat.div_one, Nat.div_one]

theorem samePrefix_zero {first second : Nat} (hfirst : first < 2 ^ width)
    (hsecond : second < 2 ^ width) : SamePrefix width 0 first second := by
  unfold SamePrefix
  rw [Nat.sub_zero, Nat.div_eq_of_lt hfirst, Nat.div_eq_of_lt hsecond]

-- No bits are the same whatever the digits are.
theorem samePrefixes_zero {firsts seconds : List Nat}
    (hfirsts : ∀ digit ∈ firsts, digit < 2 ^ width)
    (hseconds : ∀ digit ∈ seconds, digit < 2 ^ width) : SamePrefixes width 0 firsts seconds := by
  induction firsts generalizing seconds with
  | nil => trivial
  | cons digit rest ih =>
    have hhead : seconds.headD 0 < 2 ^ width := by
      cases seconds with
      | nil => exact Nat.two_pow_pos width
      | cons second seconds => exact hseconds second List.mem_cons_self
    refine ⟨?_, ?_⟩
    · rw [min_eq_right (Nat.zero_le width)]
      exact samePrefix_zero (hfirsts digit List.mem_cons_self) hhead
    · rw [Nat.zero_sub]
      exact ih (fun other hother => hfirsts other (List.mem_cons_of_mem _ hother))
        fun other hother => hseconds other (List.mem_of_mem_tail hother)

theorem value_nil (width : Nat) : value width [] = 0 := rfl

theorem value_cons (width digit : Nat) (rest : List Nat) :
    value width (digit :: rest) = digit * 2 ^ (width * rest.length) + value width rest := by
  unfold value
  rw [Nat.ofDigits_reverse_cons, ← pow_mul]
  ring

theorem value_replicate_zero_append (width count : Nat) (digits : List Nat) :
    value width (List.replicate count 0 ++ digits) = value width digits := by
  induction count with
  | zero => rfl
  | succ count ih => rw [List.replicate_succ, List.cons_append, value_cons, ih, zero_mul, zero_add]

theorem value_lt (hwidth : width ≠ 0) {digits : List Nat}
    (h : ∀ digit ∈ digits, digit < 2 ^ width) :
    value width digits < 2 ^ (width * digits.length) := by
  have hlt := Nat.ofDigits_lt_base_pow_length (Nat.one_lt_two_pow hwidth)
    fun digit hdigit => h digit (List.mem_reverse.mp hdigit)
  rwa [List.length_reverse, ← pow_mul] at hlt

-- A quotient takes a number below a power apart.
theorem mul_add_div_eq_iff {power first second low other : Nat} (hlow : low < power)
    (hother : other < power) :
    first * power + low = second * power + other ↔ first = second ∧ low = other := by
  have hpositive : 0 < power := by omega
  constructor
  · intro h
    have hdiv := congrArg (· / power) h
    have hmod := congrArg (· % power) h
    simp only [mul_comm _ power, Nat.mul_add_div hpositive, Nat.div_eq_of_lt hlow,
      Nat.div_eq_of_lt hother, Nat.add_zero, Nat.mul_add_mod, Nat.mod_eq_of_lt hlow,
      Nat.mod_eq_of_lt hother] at hdiv hmod
    exact ⟨hdiv, hmod⟩
  · rintro ⟨rfl, rfl⟩
    rfl

-- The prefix of a digit in front of a number: it ends in the digit, or goes on
-- in the number.
theorem samePrefix_append (width later count : Nat) {first second low other : Nat}
    (hlow : low < 2 ^ later) (hother : other < 2 ^ later) :
    SamePrefix (width + later) count (first * 2 ^ later + low) (second * 2 ^ later + other) ↔
      SamePrefix width (min width count) first second ∧
        SamePrefix later (count - width) low other := by
  have hhead : ∀ digit rest : Nat, rest < 2 ^ later →
      (digit * 2 ^ later + rest) / 2 ^ later = digit := by
    intro digit rest hrest
    rw [mul_comm, Nat.mul_add_div (Nat.two_pow_pos later), Nat.div_eq_of_lt hrest, Nat.add_zero]
  by_cases hcount : count ≤ width
  · have hzero : count - width = 0 := by omega
    rw [hzero, and_iff_left (samePrefix_zero hlow hother), min_eq_right hcount]
    unfold SamePrefix
    have hshift : width + later - count = later + (width - count) := by omega
    rw [hshift, pow_add, ← Nat.div_div_eq_div_mul, ← Nat.div_div_eq_div_mul, hhead _ _ hlow,
      hhead _ _ hother]
  · rw [min_eq_left (by omega), samePrefix_full (Nat.le_refl width)]
    unfold SamePrefix
    have hshift : width + later - count = later - (count - width) := by omega
    rw [hshift]
    generalize hkept : later - (count - width) = kept
    obtain ⟨head, rfl⟩ : ∃ head, later = kept + head := ⟨later - kept, by omega⟩
    have hsplit : ∀ digit rest : Nat,
        (digit * 2 ^ (kept + head) + rest) / 2 ^ kept = digit * 2 ^ head + rest / 2 ^ kept := by
      intro digit rest
      have hproduct : digit * 2 ^ (kept + head) = 2 ^ kept * (digit * 2 ^ head) := by
        rw [pow_add]
        ring
      rw [hproduct, Nat.mul_add_div (Nat.two_pow_pos kept)]
    rw [pow_add] at hlow hother
    rw [hsplit, hsplit]
    exact mul_add_div_eq_iff (Nat.div_lt_of_lt_mul hlow) (Nat.div_lt_of_lt_mul hother)

-- The prefix of a number is read digit by digit.
theorem samePrefix_value_iff (hwidth : width ≠ 0) {firsts seconds : List Nat}
    (hlength : firsts.length = seconds.length) (hfirsts : ∀ digit ∈ firsts, digit < 2 ^ width)
    (hseconds : ∀ digit ∈ seconds, digit < 2 ^ width) :
    SamePrefix (width * firsts.length) count (value width firsts) (value width seconds) ↔
      SamePrefixes width count firsts seconds := by
  induction firsts generalizing count seconds with
  | nil =>
    obtain rfl := List.length_eq_zero_iff.mp hlength.symm
    exact iff_of_true rfl trivial
  | cons digit rest ih =>
    obtain ⟨other, others, rfl⟩ := List.exists_cons_of_length_eq_add_one hlength.symm
    have hlengths : rest.length = others.length := by simpa using hlength
    have hrest : ∀ digit ∈ rest, digit < 2 ^ width :=
      fun digit h => hfirsts digit (List.mem_cons_of_mem _ h)
    have hothers : ∀ digit ∈ others, digit < 2 ^ width :=
      fun digit h => hseconds digit (List.mem_cons_of_mem _ h)
    have hlow := value_lt hwidth hrest
    have hhigh := value_lt hwidth hothers
    have hwidths : width * (digit :: rest).length = width + width * rest.length := by
      rw [List.length_cons]
      ring
    rw [hwidths, value_cons, value_cons, ← hlengths]
    rw [← hlengths] at hhigh
    rw [samePrefix_append width (width * rest.length) count hlow hhigh]
    exact and_congr_right fun _ => ih hlengths hrest hothers

theorem value_inj (hwidth : width ≠ 0) {firsts seconds : List Nat}
    (hlength : firsts.length = seconds.length) (hfirsts : ∀ digit ∈ firsts, digit < 2 ^ width)
    (hseconds : ∀ digit ∈ seconds, digit < 2 ^ width) :
    value width firsts = value width seconds ↔ firsts = seconds := by
  refine ⟨fun h => ?_, fun h => by rw [h]⟩
  apply List.reverse_injective
  exact Nat.ofDigits_inj_of_len_eq (Nat.one_lt_two_pow hwidth) (by simpa using hlength)
    (fun digit hdigit => hfirsts digit (List.mem_reverse.mp hdigit))
    (fun digit hdigit => hseconds digit (List.mem_reverse.mp hdigit)) h

end Numbers

-- A number of `count` digits of `width` bits, the highest first.
structure Word (width count : Nat) where
  digits : List Nat
  length : digits.length = count
  bounded : ∀ digit ∈ digits, digit < 2 ^ width
deriving DecidableEq

namespace Word

variable {width count : Nat}

def ofDigits (digits : List Nat) : Option (Word width count) :=
  if h : digits.length = count ∧ ∀ digit ∈ digits, digit < 2 ^ width then
    some ⟨digits, h.1, h.2⟩
  else
    none

def value (word : Word width count) : Nat :=
  Prefixes.value width word.digits

theorem ofDigits_eq_some_iff {digits : List Nat} {word : Word width count} :
    ofDigits digits = some word ↔ word.digits = digits := by
  unfold ofDigits
  split
  · rename_i h
    rw [Option.some.injEq]
    refine ⟨fun hword => by rw [← hword], fun hword => ?_⟩
    subst hword
    rfl
  · rename_i h
    refine iff_of_false (fun hword => by cases hword) fun hword => h ?_
    rw [← hword]
    exact ⟨word.length, word.bounded⟩

theorem ext_digits {first second : Word width count} (h : first.digits = second.digits) :
    first = second := by
  have hfirst := ofDigits_eq_some_iff.mpr (rfl : first.digits = first.digits)
  rw [h, ofDigits_eq_some_iff.mpr rfl] at hfirst
  exact (Option.some.inj hfirst).symm

theorem value_lt (hwidth : width ≠ 0) (word : Word width count) :
    word.value < 2 ^ (width * count) := by
  have h := Prefixes.value_lt hwidth word.bounded
  rwa [word.length] at h

theorem value_inj (hwidth : width ≠ 0) {first second : Word width count} :
    first.value = second.value ↔ first = second := by
  unfold value
  rw [Prefixes.value_inj hwidth (first.length.trans second.length.symm) first.bounded
    second.bounded]
  exact ⟨ext_digits, fun h => by rw [h]⟩

theorem samePrefix_iff (hwidth : width ≠ 0) (bits : Nat) (first second : Word width count) :
    SamePrefix (width * count) bits first.value second.value ↔
      SamePrefixes width bits first.digits second.digits := by
  have h := @samePrefix_value_iff width bits hwidth first.digits second.digits
    (first.length.trans second.length.symm) first.bounded second.bounded
  rwa [first.length] at h

end Word

section Masks

variable {width : Nat} {mask : BitVec width} {low high : Nat}

-- Two words agree under a mask of the bits from `low` to `high` exactly when these
-- bits are the same number.
theorem and_eq_and_iff (hhigh : high ≤ width)
    (hmask : ∀ i, i < width → mask.getLsbD i = decide (low ≤ i ∧ i < high))
    (first second : BitVec width) :
    first &&& mask = second &&& mask ↔
      first.toNat % 2 ^ high / 2 ^ low = second.toNat % 2 ^ high / 2 ^ low := by
  constructor
  · intro h
    apply Nat.eq_of_testBit_eq
    intro i
    have hbit := congrArg (BitVec.getLsbD · (i + low)) h
    simp only [BitVec.getLsbD_and] at hbit
    simp only [Nat.testBit_div_two_pow, Nat.testBit_mod_two_pow, BitVec.testBit_toNat]
    by_cases hi : i + low < high
    · rw [hmask _ (by omega)] at hbit
      simpa [hi] using hbit
    · simp [hi]
  · intro h
    apply BitVec.eq_of_getLsbD_eq
    intro i hi
    rw [BitVec.getLsbD_and, BitVec.getLsbD_and, hmask i hi]
    by_cases hrange : low ≤ i ∧ i < high
    · have hbit := congrArg (Nat.testBit · (i - low)) h
      simp only [Nat.testBit_div_two_pow, Nat.testBit_mod_two_pow, BitVec.testBit_toNat] at hbit
      rw [Nat.sub_add_cancel hrange.1] at hbit
      simpa [hrange] using hbit
    · simp [hrange]

end Masks

end WebSsh2.Library.Prefixes

import Mathlib.Algebra.Order.Ring.Nat
import Mathlib.Tactic.Linarith
import WebSsh2.Library.Transducer

namespace WebSsh2.Library.Utf8

open Transducer

section Machine

-- A sequence that has begun: what its bytes give so far, how many are missing, and
-- between which bounds the next one lies.
structure Begun where
  code : Nat
  needed : Nat
  lower : Nat
  upper : Nat
  needed_pos : 0 < needed
  lower_ge : 0x80 ≤ lower
  upper_le : upper ≤ 0xBF
  bound : (code + 1) * 64 ^ needed ≤ 0x140000

-- The character that stands for what is not a sequence.
def replacement : UInt16 := 0xFFFD

def units (code : Nat) : List UInt16 :=
  if code < 0x10000 then
    [code.toUInt16]
  else
    [(0xD800 + (code - 0x10000) / 0x400).toUInt16, (0xDC00 + (code - 0x10000) % 0x400).toUInt16]

def lead (byte : UInt8) : Option Begun :=
  if h : 0xC2 ≤ byte.toNat ∧ byte.toNat ≤ 0xDF then
    some {
      code := byte.toNat - 0xC0
      needed := 1
      lower := 0x80
      upper := 0xBF
      needed_pos := by decide
      lower_ge := le_rfl
      upper_le := le_rfl
      bound := by omega }
  else if h : 0xE0 ≤ byte.toNat ∧ byte.toNat ≤ 0xEF then
    some {
      code := byte.toNat - 0xE0
      needed := 2
      lower := if byte.toNat = 0xE0 then 0xA0 else 0x80
      upper := if byte.toNat = 0xED then 0x9F else 0xBF
      needed_pos := by decide
      lower_ge := by split <;> decide
      upper_le := by split <;> decide
      bound := by omega }
  else if h : 0xF0 ≤ byte.toNat ∧ byte.toNat ≤ 0xF4 then
    some {
      code := byte.toNat - 0xF0
      needed := 3
      lower := if byte.toNat = 0xF0 then 0x90 else 0x80
      upper := if byte.toNat = 0xF4 then 0x8F else 0xBF
      needed_pos := by decide
      lower_ge := by split <;> decide
      upper_le := by split <;> decide
      bound := by omega }
  else
    none

namespace Begun

def Continues (begun : Begun) (byte : UInt8) : Prop :=
  begun.lower ≤ byte.toNat ∧ byte.toNat ≤ begun.upper

instance (begun : Begun) (byte : UInt8) : Decidable (begun.Continues byte) :=
  inferInstanceAs (Decidable (_ ∧ _))

def extended (begun : Begun) (byte : UInt8) : Nat :=
  begun.code * 64 + (byte.toNat - 0x80)

theorem extended_bound {begun : Begun} {byte : UInt8} (h : begun.Continues byte) :
    (begun.extended byte + 1) * 64 ^ (begun.needed - 1) ≤ 0x140000 := by
  have hbyte : byte.toNat - 0x80 + 1 ≤ 64 := by
    have := h.2.trans begun.upper_le
    omega
  have hcode : begun.extended byte + 1 ≤ (begun.code + 1) * 64 :=
    calc begun.code * 64 + (byte.toNat - 0x80) + 1
        = begun.code * 64 + (byte.toNat - 0x80 + 1) := Nat.add_assoc _ _ _
      _ ≤ begun.code * 64 + 64 := Nat.add_le_add_left hbyte _
      _ = (begun.code + 1) * 64 := (Nat.succ_mul _ _).symm
  obtain ⟨rest, hrest⟩ : ∃ rest, begun.needed = rest + 1 :=
    ⟨begun.needed - 1, by have := begun.needed_pos; omega⟩
  have hbound := begun.bound
  rw [hrest, pow_succ'] at hbound
  rw [hrest, Nat.add_sub_cancel]
  calc (begun.extended byte + 1) * 64 ^ rest
      ≤ (begun.code + 1) * 64 * 64 ^ rest := Nat.mul_le_mul_right _ hcode
    _ = (begun.code + 1) * (64 * 64 ^ rest) := Nat.mul_assoc _ _ _
    _ ≤ 0x140000 := hbound

def next (begun : Begun) (byte : UInt8) (h : begun.Continues byte) (hmore : 1 < begun.needed) :
    Begun where
  code := begun.extended byte
  needed := begun.needed - 1
  lower := 0x80
  upper := 0xBF
  needed_pos := by omega
  lower_ge := le_rfl
  upper_le := le_rfl
  bound := extended_bound h

end Begun

-- A byte between sequences.
def start (byte : UInt8) : Option Begun × List UInt16 :=
  if byte.toNat < 0x80 then
    (none, [byte.toUInt16])
  else
    match lead byte with
    | some begun => (some begun, [])
    | none => (none, [replacement])

-- A byte that cannot continue a sequence ends it, and is read as the first of another.
def step : Option Begun → UInt8 → Option Begun × List UInt16
  | none, byte => start byte
  | some begun, byte =>
    if h : begun.Continues byte then
      if hmore : 1 < begun.needed then
        (some (begun.next byte h hmore), [])
      else
        (none, units (begun.extended byte))
    else
      ((start byte).1, replacement :: (start byte).2)

def flush : Option Begun → List UInt16
  | none => []
  | some _ => [replacement]

def decodeFrom (state : Option Begun) (bytes : List UInt8) : List UInt16 :=
  (feed step state bytes).2 ++ flush (feed step state bytes).1

variable (bytes : List UInt8)

def decode : List UInt16 :=
  decodeFrom none bytes

-- The state after the bytes of a stream, and the characters that are complete by then.
def after : Option Begun :=
  (feed step none bytes).1

def complete : List UInt16 :=
  (feed step none bytes).2

end Machine

section Laws

@[simp] theorem decodeFrom_nil (state : Option Begun) : decodeFrom state [] = flush state := rfl

theorem decodeFrom_cons (state : Option Begun) (byte : UInt8) (rest : List UInt8) :
    decodeFrom state (byte :: rest) =
      (step state byte).2 ++ decodeFrom (step state byte).1 rest := by
  simp only [decodeFrom, feed_cons, List.append_assoc]

theorem decode_eq (bytes : List UInt8) : decode bytes = complete bytes ++ flush (after bytes) :=
  rfl

variable (first second : List UInt8)

theorem decode_append :
    decode (first ++ second) = complete first ++ decodeFrom (after first) second := by
  simp only [decode, decodeFrom, complete, after, feed_append, List.append_assoc]

theorem after_append : after (first ++ second) = (feed step (after first) second).1 := by
  simp only [after, feed_append]

theorem units_cases {code : Nat} (h : code < 0x140000) :
    (∃ unit, units code = [unit]) ∨
      ∃ high low, units code = [high, low] ∧ high ≠ replacement := by
  unfold units
  split
  · exact .inl ⟨_, rfl⟩
  · refine .inr ⟨_, _, rfl, fun heq => ?_⟩
    have hvalue := congrArg UInt16.toNat heq
    have hsmall : (code - 0x10000) / 0x400 < 0x4C0 := by omega
    simp only [replacement, Nat.toUInt16_eq, UInt16.toNat_ofNat'] at hvalue
    have : (0xFFFD : UInt16).toNat = 0xFFFD := rfl
    omega

variable {begun : Begun} {byte : UInt8}

theorem start_of_continues (h : begun.Continues byte) : start byte = (none, [replacement]) := by
  have hlow := begun.lower_ge.trans h.1
  have hhigh := h.2.trans begun.upper_le
  have hlead : lead byte = none := by
    unfold lead
    rw [dif_neg (by omega), dif_neg (by omega), dif_neg (by omega)]
  rw [start, if_neg (by omega), hlead]

-- What a byte that continues the sequence does: it completes it, or leaves it longer.
theorem decodeFrom_continues (h : begun.Continues byte) (rest : List UInt8) :
    (∃ code, code < 0x140000 ∧ begun.needed = 1 ∧ code = begun.extended byte ∧
      decodeFrom (some begun) (byte :: rest) = units code ++ decode rest) ∨
    ∃ hmore : 1 < begun.needed, decodeFrom (some begun) (byte :: rest) =
      decodeFrom (some (begun.next byte h hmore)) rest := by
  rw [decodeFrom_cons]
  by_cases hmore : 1 < begun.needed
  · refine .inr ⟨hmore, ?_⟩
    simp only [step, dif_pos h, dif_pos hmore, List.nil_append]
  · refine .inl ⟨_, ?_, ?_, rfl, ?_⟩
    · have hbound := Begun.extended_bound h
      have hpow : 0 < 64 ^ (begun.needed - 1) := Nat.pow_pos (by decide)
      nlinarith
    · have := begun.needed_pos
      omega
    · simp only [step, dif_pos h, dif_neg hmore]
      rfl

theorem decodeFrom_not_continues (h : ¬begun.Continues byte) (rest : List UInt8) :
    decodeFrom (some begun) (byte :: rest) = replacement :: decode (byte :: rest) := by
  rw [decodeFrom_cons, decode, decodeFrom_cons]
  simp only [step, dif_neg h]
  rfl

theorem decode_continues (h : begun.Continues byte) (rest : List UInt8) :
    decode (byte :: rest) = replacement :: decode rest := by
  rw [decode, decodeFrom_cons, step, start_of_continues h]
  rfl

-- A sequence that is cut gives at least as many characters as before.
theorem length_decodeFrom_le (begun : Begun) (bytes : List UInt8) :
    (decodeFrom (some begun) bytes).length ≤ (decode bytes).length + 1 := by
  induction bytes generalizing begun with
  | nil => simp [decode, flush]
  | cons byte rest ih =>
    by_cases h : begun.Continues byte
    · rw [decode_continues h, List.length_cons]
      obtain ⟨code, hcode, -, -, hdecode⟩ | ⟨hmore, hdecode⟩ := decodeFrom_continues h rest
      · rw [hdecode, List.length_append]
        obtain ⟨unit, hunits⟩ | ⟨high, low, hunits, -⟩ := units_cases hcode
        · rw [hunits, List.length_singleton]
          omega
        · rw [hunits, List.length_cons, List.length_singleton]
          omega
      · rw [hdecode]
        have := ih (begun.next byte h hmore)
        omega
    · rw [decodeFrom_not_continues h, List.length_cons]

theorem length_decode_append_le :
    (decode (first ++ second)).length ≤ (decode first).length + (decode second).length := by
  rw [decode_append, decode_eq first, List.length_append, List.length_append]
  cases after first with
  | none => simp [decode, flush]
  | some begun =>
    have := length_decodeFrom_le begun second
    simp only [flush, List.length_singleton]
    omega

theorem units_ne_nil (code : Nat) : units code ≠ [] := by
  unfold units
  split
  · simp
  · simp

theorem decodeFrom_some_ne_nil (begun : Begun) (bytes : List UInt8) :
    decodeFrom (some begun) bytes ≠ [] := by
  induction bytes generalizing begun with
  | nil => simp [flush]
  | cons byte rest ih =>
    by_cases h : begun.Continues byte
    · obtain ⟨code, -, -, -, hdecode⟩ | ⟨hmore, hdecode⟩ := decodeFrom_continues h rest
      · rw [hdecode]
        exact List.append_ne_nil_of_left_ne_nil (units_ne_nil code) _
      · rw [hdecode]
        exact ih _
    · rw [decodeFrom_not_continues h]
      exact List.cons_ne_nil _ _

-- Bytes always give some text.
theorem decode_eq_nil_iff (bytes : List UInt8) : decode bytes = [] ↔ bytes = [] := by
  cases bytes with
  | nil => simp [decode, flush]
  | cons byte rest =>
    refine iff_of_false (fun h => ?_) (List.cons_ne_nil _ _)
    rw [decode, decodeFrom_cons, List.append_eq_nil_iff] at h
    obtain ⟨hout, hrest⟩ := h
    rw [step, start] at hout hrest
    by_cases hascii : byte.toNat < 0x80
    · rw [if_pos hascii] at hout
      cases hout
    · rw [if_neg hascii] at hout hrest
      cases hlead : lead byte with
      | none =>
        rw [hlead] at hout
        cases hout
      | some begun =>
        rw [hlead] at hrest
        exact decodeFrom_some_ne_nil begun rest hrest

end Laws

section Splits

-- The bytes go on with the sequence in which the state stands.
def Splits (state : Option Begun) (bytes : List UInt8) : Prop :=
  ∃ begun byte rest, state = some begun ∧ bytes = byte :: rest ∧ begun.Continues byte

theorem not_splits_none (bytes : List UInt8) : ¬Splits none bytes := by
  rintro ⟨begun, byte, rest, hstate, -, -⟩
  cases hstate

-- A text that is as long as what the bytes give on their own follows the interrupted
-- sequence only where the bytes do not go on with it.
theorem decodeFrom_eq_iff (state : Option Begun) {bytes : List UInt8} {text : List UInt16}
    (hlength : (decode bytes).length ≤ text.length) :
    flush state ++ text = decodeFrom state bytes ↔ ¬Splits state bytes ∧ text = decode bytes := by
  cases state with
  | none =>
    rw [and_iff_right (not_splits_none bytes)]
    exact Iff.rfl
  | some begun =>
    cases bytes with
    | nil =>
      have hnot : ¬Splits (some begun) [] := by
        rintro ⟨_, byte, rest, -, hbytes, -⟩
        cases hbytes
      simp [hnot, flush, decode]
    | cons byte rest =>
      by_cases h : begun.Continues byte
      · have hsplits : Splits (some begun) (byte :: rest) := ⟨begun, byte, rest, rfl, rfl, h⟩
        refine ⟨fun heq => ?_, fun hnot => absurd hsplits hnot.1⟩
        exfalso
        rw [decode_continues h, List.length_cons] at hlength
        have heq' : replacement :: text = decodeFrom (some begun) (byte :: rest) := heq
        have hlong := congrArg List.length heq'
        rw [List.length_cons] at hlong
        obtain ⟨code, hcode, -, -, hdecode⟩ | ⟨hmore, hdecode⟩ := decodeFrom_continues h rest
        · obtain ⟨unit, hunits⟩ | ⟨high, low, hunits, hhigh⟩ := units_cases hcode
          · rw [hdecode, hunits, List.length_append, List.length_singleton] at hlong
            omega
          · rw [hdecode, hunits, List.cons_append, List.cons.injEq] at heq'
            exact hhigh heq'.1.symm
        · have := length_decodeFrom_le (begun.next byte h hmore) rest
          rw [hdecode] at hlong
          omega
      · have hnot : ¬Splits (some begun) (byte :: rest) := by
          rintro ⟨other, first, _, hstate, hbytes, hcontinues⟩
          cases hstate
          cases hbytes
          exact h hcontinues
        rw [decodeFrom_not_continues h, and_iff_right hnot]
        simp [flush]

variable (chunks : List (List UInt8))

-- No event boundary falls into a sequence that the next bytes go on with.
def Unsplit : Prop :=
  ∀ first second, chunks = first ++ second → ¬Splits (after first.flatten) second.flatten

theorem after_append_of_not_splits {first second : List UInt8} (hsecond : second ≠ [])
    (h : ¬Splits (after first) second) : after (first ++ second) = after second := by
  obtain ⟨byte, rest, rfl⟩ := List.exists_cons_of_ne_nil hsecond
  have hstep : (step (after first) byte).1 = (step none byte).1 := by
    cases hstate : after first with
    | none => rfl
    | some begun =>
      have hnot : ¬begun.Continues byte := fun hcontinues =>
        h ⟨begun, byte, rest, hstate, rfl, hcontinues⟩
      simp only [step, dif_neg hnot]
  rw [after_append]
  show (feed step (step (after first) byte).1 rest).1 = (feed step (step none byte).1 rest).1
  rw [hstep]

theorem unsplit_cons_iff (chunk : List UInt8) (rest : List (List UInt8)) :
    Unsplit (chunk :: rest) ↔ ¬Splits (after chunk) rest.flatten ∧ Unsplit rest := by
  have hkept : ∀ first second : List (List UInt8), rest = first ++ second →
      ¬Splits (after chunk) rest.flatten →
        (Splits (after (chunk ++ first.flatten)) second.flatten ↔
          Splits (after first.flatten) second.flatten) := by
    intro first second hrest hnot
    by_cases hempty : first.flatten = []
    · rw [hrest, List.flatten_append, hempty, List.nil_append] at hnot
      rw [hempty, List.append_nil]
      exact iff_of_false hnot (not_splits_none _)
    · have hfirst : ¬Splits (after chunk) first.flatten := by
        rintro ⟨begun, byte, tail, hstate, hbytes, hcontinues⟩
        refine hnot ⟨begun, byte, tail ++ second.flatten, hstate, ?_, hcontinues⟩
        rw [hrest, List.flatten_append, hbytes, List.cons_append]
      rw [after_append_of_not_splits hempty hfirst]
  constructor
  · intro h
    have hhead : ¬Splits (after chunk) rest.flatten := by
      have := h [chunk] rest rfl
      rwa [List.flatten_singleton] at this
    refine ⟨hhead, fun first second hrest => ?_⟩
    rw [← hkept first second hrest hhead]
    have := h (chunk :: first) second (by rw [hrest, List.cons_append])
    rwa [List.flatten_cons] at this
  · rintro ⟨hhead, hrest⟩ first second hchunks
    cases first with
    | nil => exact not_splits_none _
    | cons head first =>
      obtain ⟨rfl, hsplit⟩ := List.cons.inj hchunks
      rw [List.flatten_cons, hkept first second hsplit hhead]
      exact hrest first second hsplit

theorem length_decode_flatten_le :
    (decode chunks.flatten).length ≤ (chunks.flatMap decode).length := by
  induction chunks with
  | nil => simp [decode, flush]
  | cons chunk rest ih =>
    rw [List.flatten_cons, List.flatMap_cons, List.length_append]
    have := length_decode_append_le chunk rest.flatten
    omega

-- Pieces that are decoded one by one give the text of the whole exactly where no
-- sequence is split between them.
theorem flatMap_decode_eq_iff : chunks.flatMap decode = decode chunks.flatten ↔ Unsplit chunks := by
  induction chunks with
  | nil =>
    refine iff_of_true rfl fun first second h => ?_
    obtain ⟨rfl, rfl⟩ := List.nil_eq_append_iff.mp h
    exact not_splits_none _
  | cons chunk rest ih =>
    rw [List.flatMap_cons, List.flatten_cons, decode_append, decode_eq chunk,
      List.append_assoc, List.append_cancel_left_eq,
      decodeFrom_eq_iff _ (length_decode_flatten_le rest), unsplit_cons_iff, ih]

end Splits

section Cuts

-- The bytes complete the sequence, to another character than the replacement.
def Completes : List UInt8 → Begun → Prop
  | [], _ => False
  | byte :: rest, begun =>
    ∃ h : begun.Continues byte,
      (begun.needed = 1 ∧ units (begun.extended byte) ≠ [replacement]) ∨
        ∃ hmore : 1 < begun.needed, Completes rest (begun.next byte h hmore)

theorem replacement_prefix_iff (begun : Begun) (bytes : List UInt8) :
    [replacement] <+: decodeFrom (some begun) bytes ↔ ¬Completes bytes begun := by
  induction bytes generalizing begun with
  | nil => simp [flush, Completes]
  | cons byte rest ih =>
    by_cases h : begun.Continues byte
    · obtain ⟨code, hcode, hneeded, hextended, hdecode⟩ | ⟨hmore, hdecode⟩ :=
        decodeFrom_continues h rest
      · have hcompletes : Completes (byte :: rest) begun ↔
            units (begun.extended byte) ≠ [replacement] := by
          constructor
          · rintro ⟨-, ⟨-, hunits⟩ | ⟨hmore, -⟩⟩
            · exact hunits
            · omega
          · intro hunits
            exact ⟨h, .inl ⟨hneeded, hunits⟩⟩
        rw [hdecode, hcompletes, not_not, ← hextended]
        obtain ⟨unit, hunits⟩ | ⟨high, low, hunits, hhigh⟩ := units_cases hcode
        · rw [hunits]
          simp [List.cons_prefix_cons, eq_comm]
        · rw [hunits]
          simp [List.cons_prefix_cons, Ne.symm hhigh]
      · have hcompletes : Completes (byte :: rest) begun ↔
            Completes rest (begun.next byte h hmore) := by
          constructor
          · rintro ⟨_, ⟨hneeded, -⟩ | ⟨_, hnext⟩⟩
            · omega
            · exact hnext
          · intro hnext
            exact ⟨h, .inr ⟨hmore, hnext⟩⟩
        rw [hdecode, hcompletes]
        exact ih _
    · have hnot : ¬Completes (byte :: rest) begun := by
        rintro ⟨hcontinues, -⟩
        exact h hcontinues
      rw [decodeFrom_not_continues h]
      simp [hnot]

-- The bytes after a cut complete the character in which it falls.
def CutsCharacter (first second : List UInt8) : Prop :=
  ∃ begun, after first = some begun ∧ Completes second begun

theorem decode_prefix_iff (first second : List UInt8) :
    decode first <+: decode (first ++ second) ↔ ¬CutsCharacter first second := by
  rw [decode_append, decode_eq, List.prefix_append_right_inj]
  cases hstate : after first with
  | none =>
    refine iff_of_true List.nil_prefix ?_
    rintro ⟨begun, hafter, -⟩
    rw [hstate] at hafter
    cases hafter
  | some begun =>
    rw [flush, replacement_prefix_iff]
    refine not_congr ⟨fun h => ⟨begun, hstate, h⟩, ?_⟩
    rintro ⟨other, hafter, h⟩
    rw [hstate] at hafter
    cases hafter
    exact h

end Cuts

end WebSsh2.Library.Utf8

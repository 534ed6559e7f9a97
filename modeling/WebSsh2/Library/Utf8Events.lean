import Mathlib.Data.List.Count
import Mathlib.Data.List.Forall2
import Mathlib.Data.List.Infix
import WebSsh2.Library.Utf8

namespace WebSsh2.Library.Utf8

open Transducer

section Blurred

-- What is read of a unit when its character may have been split: itself, or replacements.
def Piece (unit : UInt16) (piece : List UInt16) : Prop :=
  piece = [unit] ∨ 0x80 ≤ unit.toNat ∧ ∃ count, piece = List.replicate (count + 1) replacement

-- A text of which some characters beyond ASCII were read as replacements.
def Blurred : List UInt16 → List UInt16 → Prop
  | [], seen => seen = []
  | unit :: text, seen =>
    ∃ piece later, Piece unit piece ∧ Blurred text later ∧ seen = piece ++ later

def Ascii (text : List UInt16) : Prop :=
  ∀ unit ∈ text, unit.toNat < 0x80

instance (text : List UInt16) : Decidable (Ascii text) :=
  inferInstanceAs (Decidable (∀ unit ∈ text, _))

variable {text seen : List UInt16}

theorem ascii_append {first second : List UInt16} (hfirst : Ascii first) (hsecond : Ascii second) :
    Ascii (first ++ second) :=
  List.forall_mem_append.mpr ⟨hfirst, hsecond⟩

theorem replacement_large : 0x80 ≤ replacement.toNat := by decide

variable {unit : UInt16}

theorem ne_replacement_of_ascii (h : unit.toNat < 0x80) : unit ≠ replacement := by
  rintro rfl
  exact absurd replacement_large (Nat.not_le.mpr h)

theorem blurred_refl (text : List UInt16) : Blurred text text := by
  induction text with
  | nil => rfl
  | cons unit text ih => exact ⟨[unit], text, .inl rfl, ih, rfl⟩

theorem Piece.mem {piece : List UInt16} (h : Piece unit piece) :
    piece ≠ [] ∧ ∀ other ∈ piece, other = unit ∨ other = replacement := by
  obtain rfl | ⟨-, count, rfl⟩ := h
  · simp
  · exact ⟨by simp, fun other hmem => .inr (List.mem_replicate.mp hmem).2⟩

theorem blurred_append_iff (first second seen : List UInt16) :
    Blurred (first ++ second) seen ↔
      ∃ front back, Blurred first front ∧ Blurred second back ∧ seen = front ++ back := by
  induction first generalizing seen with
  | nil =>
    constructor
    · exact fun h => ⟨[], seen, rfl, h, rfl⟩
    · rintro ⟨front, back, rfl, h, rfl⟩
      exact h
  | cons unit first ih =>
    constructor
    · rintro ⟨piece, later, hpiece, hlater, rfl⟩
      obtain ⟨front, back, hfront, hback, rfl⟩ := (ih later).mp hlater
      exact ⟨piece ++ front, back, ⟨piece, front, hpiece, hfront, rfl⟩, hback,
        (List.append_assoc _ _ _).symm⟩
    · rintro ⟨front, back, ⟨piece, later, hpiece, hlater, rfl⟩, hback, rfl⟩
      exact ⟨piece, later ++ back, hpiece, (ih _).mpr ⟨later, back, hlater, hback, rfl⟩,
        List.append_assoc _ _ _⟩

theorem Blurred.append {first second front back : List UInt16} (hfirst : Blurred first front)
    (hsecond : Blurred second back) : Blurred (first ++ second) (front ++ back) :=
  (blurred_append_iff _ _ _).mpr ⟨front, back, hfirst, hsecond, rfl⟩

theorem Blurred.mem (h : Blurred text seen) (hmem : unit ∈ seen) :
    unit ∈ text ∨ unit = replacement := by
  induction text generalizing seen with
  | nil =>
    obtain rfl : seen = [] := h
    cases hmem
  | cons first text ih =>
    obtain ⟨piece, later, hpiece, hlater, rfl⟩ := h
    rcases List.mem_append.mp hmem with hmem | hmem
    · rcases hpiece.mem.2 unit hmem with rfl | hreplaced
      · exact .inl List.mem_cons_self
      · exact .inr hreplaced
    · exact (ih hlater hmem).imp_left (List.mem_cons_of_mem _)

theorem Blurred.mem_or_replacement (h : Blurred text seen) (hmem : unit ∈ text) :
    unit ∈ seen ∨ replacement ∈ seen := by
  obtain ⟨before, later, rfl⟩ := List.append_of_mem hmem
  obtain ⟨front, back, -, ⟨piece, rest, hpiece, -, rfl⟩, rfl⟩ := (blurred_append_iff _ _ _).mp h
  obtain ⟨first, tail, rfl⟩ := List.exists_cons_of_ne_nil hpiece.mem.1
  rcases hpiece.mem.2 first List.mem_cons_self with rfl | rfl
  · simp
  · simp

theorem Blurred.ne_nil (h : Blurred text seen) (hne : text ≠ []) : seen ≠ [] := by
  obtain ⟨unit, text, rfl⟩ := List.exists_cons_of_ne_nil hne
  obtain ⟨piece, later, hpiece, -, rfl⟩ := h
  exact List.append_ne_nil_of_left_ne_nil hpiece.mem.1 later

-- The last unit is the old one, or a replacement.
theorem Blurred.getLast (h : Blurred text seen) (hne : text ≠ []) :
    seen.getLast (h.ne_nil hne) = text.getLast hne ∨
      seen.getLast (h.ne_nil hne) = replacement := by
  have hsplit : Blurred (text.dropLast ++ [text.getLast hne]) seen := by
    rwa [List.dropLast_append_getLast]
  obtain ⟨front, back, -, ⟨piece, rest, hpiece, hrest, rfl⟩, rfl⟩ :=
    (blurred_append_iff _ _ _).mp hsplit
  obtain rfl : rest = [] := hrest
  have hlast : (front ++ (piece ++ [])).getLast (h.ne_nil hne) = piece.getLast hpiece.mem.1 := by
    rw [List.getLast_append_of_ne_nil _ (by simpa using hpiece.mem.1)]
    simp
  rw [hlast]
  exact hpiece.mem.2 _ (List.getLast_mem _)

-- ASCII is read as it is, and stands where it stood.
theorem Blurred.ascii_prefix {front seen : List UInt16} (hfront : Ascii front)
    (h : Blurred text (front ++ seen)) : ∃ rest, text = front ++ rest ∧ Blurred rest seen := by
  induction front generalizing text with
  | nil => exact ⟨text, rfl, h⟩
  | cons unit front ih =>
    have hunit := hfront unit List.mem_cons_self
    cases text with
    | nil => cases h
    | cons first text =>
      obtain ⟨piece, later, hpiece | ⟨-, count, hpiece⟩, hlater, heq⟩ := h
      · rw [hpiece, List.cons_append, List.singleton_append] at heq
        obtain ⟨rfl, rfl⟩ := List.cons.inj heq
        obtain ⟨rest, rfl, hrest⟩ :=
          ih (fun other hmem => hfront other (List.mem_cons_of_mem _ hmem)) hlater
        exact ⟨rest, rfl, hrest⟩
      · rw [hpiece, List.replicate_succ, List.cons_append, List.cons_append] at heq
        exact absurd (List.cons.inj heq).1 (ne_replacement_of_ascii hunit)

theorem Blurred.eq_of_ascii (hseen : Ascii seen) (h : Blurred text seen) : text = seen := by
  rw [← List.append_nil seen] at h
  obtain ⟨rest, rfl, hrest⟩ := h.ascii_prefix hseen
  cases rest with
  | nil => exact List.append_nil seen
  | cons unit rest => exact absurd rfl (Blurred.ne_nil hrest (List.cons_ne_nil unit rest))

theorem blurred_ascii_iff (h : Ascii text) : Blurred text seen ↔ seen = text := by
  constructor
  · intro hblurred
    induction text generalizing seen with
    | nil => exact hblurred
    | cons unit text ih =>
      obtain ⟨piece, later, hpiece | ⟨hlarge, -⟩, hlater, rfl⟩ := hblurred
      · rw [hpiece, ih (fun other hmem => h other (List.mem_cons_of_mem _ hmem)) hlater]
        rfl
      · exact absurd (h unit List.mem_cons_self) (Nat.not_lt.mpr hlarge)
  · rintro rfl
    exact blurred_refl _

theorem Blurred.ascii_append {front rest : List UInt16} (hfront : Ascii front)
    (h : Blurred (front ++ rest) seen) : ∃ later, seen = front ++ later ∧ Blurred rest later := by
  obtain ⟨first, later, hfirst, hlater, rfl⟩ := (blurred_append_iff _ _ _).mp h
  rw [(blurred_ascii_iff hfront).mp hfirst]
  exact ⟨later, rfl, hlater⟩

theorem Blurred.ascii_infix {inner : List UInt16} (hinner : Ascii inner) (hne : inner ≠ [])
    (h : Blurred text seen) (hwithin : inner <:+: seen) : inner <:+: text := by
  obtain ⟨front, back, rfl⟩ := hwithin
  rw [List.append_assoc] at h
  induction text generalizing front with
  | nil =>
    have hnil : front ++ (inner ++ back) = [] := h
    simp [hne] at hnil
  | cons unit text ih =>
    cases front with
    | nil =>
      obtain ⟨rest, hrest, -⟩ := h.ascii_prefix hinner
      exact ⟨[], rest, by rw [hrest]; rfl⟩
    | cons first front =>
      obtain ⟨piece, later, hpiece, hlater, heq⟩ := h
      rcases List.append_eq_append_iff.mp heq with ⟨gap, hgap, hrest⟩ | ⟨gap, hgap, hrest⟩
      · cases gap with
        | nil => exact (ih [] (by rwa [List.nil_append, hrest])).trans (List.suffix_cons _ _).isInfix
        | cons other gap =>
          -- the pattern would start inside of the replacements
          obtain ⟨head, tail, rfl⟩ := List.exists_cons_of_ne_nil hne
          obtain ⟨rfl, -⟩ := List.cons.inj hrest
          have hhead := hinner head List.mem_cons_self
          obtain hpiece | ⟨-, count, hpiece⟩ := hpiece
          · rw [hpiece] at hgap
            simp at hgap
          · have hmem : head ∈ List.replicate (count + 1) replacement := by
              rw [← hpiece, hgap]
              simp
            exact absurd (List.mem_replicate.mp hmem).2 (ne_replacement_of_ascii hhead)
      · exact (ih gap (hrest ▸ hlater)).trans (List.suffix_cons _ _).isInfix

end Blurred

section Decoding

-- What a sequence that was begun by a leading byte comes to is beyond ASCII.
def Begun.Large (begun : Begun) : Prop :=
  0x80 ≤ (begun.code * 64 + (begun.lower - 0x80)) * 64 ^ (begun.needed - 1)

variable {begun : Begun}

theorem lead_large {byte : UInt8} (h : lead byte = some begun) : begun.Large := by
  unfold lead at h
  unfold Begun.Large
  split at h
  · obtain rfl := Option.some.inj h
    dsimp only
    omega
  · split at h
    · obtain rfl := Option.some.inj h
      dsimp only
      by_cases hfirst : byte.toNat = 0xE0
      · rw [if_pos hfirst]
        omega
      · rw [if_neg hfirst]
        omega
    · split at h
      · obtain rfl := Option.some.inj h
        dsimp only
        by_cases hfirst : byte.toNat = 0xF0
        · rw [if_pos hfirst]
          omega
        · rw [if_neg hfirst]
          omega
      · cases h

theorem Begun.extended_large {byte : UInt8} (hlarge : begun.Large) (h : begun.Continues byte) :
    0x80 ≤ begun.extended byte * 64 ^ (begun.needed - 1) := by
  refine hlarge.trans (Nat.mul_le_mul_right _ ?_)
  have := h.1
  unfold Begun.extended
  omega

theorem Begun.Large.next {byte : UInt8} (hlarge : begun.Large) (h : begun.Continues byte)
    (hmore : 1 < begun.needed) : (begun.next byte h hmore).Large := by
  obtain ⟨rest, hrest⟩ : ∃ rest, begun.needed = rest + 2 := ⟨begun.needed - 2, by omega⟩
  have hbound := begun.extended_large hlarge h
  rw [hrest, show rest + 2 - 1 = rest + 1 from rfl, pow_succ'] at hbound
  unfold Begun.Large Begun.next
  dsimp only
  rw [hrest, Nat.sub_self, Nat.add_zero, show rest + 2 - 1 - 1 = rest from rfl, Nat.mul_assoc]
  exact hbound

theorem after_large {bytes : List UInt8} (h : after bytes = some begun) : begun.Large := by
  have hfeed : ∀ (state : Option Begun), (∀ begun, state = some begun → begun.Large) →
      ∀ begun, (feed step state bytes).1 = some begun → begun.Large := by
    clear h
    induction bytes with
    | nil => exact fun state hstate => hstate
    | cons byte bytes ih =>
      intro state hstate
      refine ih (step state byte).1 fun begun hbegun => ?_
      have hstart : (start byte).1 = some begun → begun.Large := by
        unfold start
        split
        · exact fun h => absurd h (Option.some_ne_none begun).symm
        · split
          · rename_i hlead
            exact fun h => lead_large (hlead.trans h)
          · exact fun h => absurd h (Option.some_ne_none begun).symm
      cases state with
      | none => exact hstart hbegun
      | some before =>
        by_cases hcontinues : before.Continues byte
        · by_cases hmore : 1 < before.needed
          · simp only [step, dif_pos hcontinues, dif_pos hmore] at hbegun
            obtain rfl := Option.some.inj hbegun
            exact (hstate before rfl).next hcontinues hmore
          · simp only [step, dif_pos hcontinues, dif_neg hmore] at hbegun
            cases hbegun
        · simp only [step, dif_neg hcontinues] at hbegun
          exact hstart hbegun
  exact hfeed none (fun begun h => absurd h (Option.some_ne_none begun).symm) begun h

theorem units_large {code : Nat} (hlarge : 0x80 ≤ code) (hbound : code < 0x140000) :
    ∀ unit ∈ units code, 0x80 ≤ unit.toNat := by
  unfold units
  split
  · rename_i hsmall
    simp [UInt16.toNat_ofNat', Nat.mod_eq_of_lt hsmall, hlarge]
  · simp only [Nat.toUInt16_eq, List.mem_cons, List.not_mem_nil, or_false, forall_eq_or_imp,
      forall_eq, UInt16.toNat_ofNat']
    omega

-- A character that is lost leaves as many replacements as there are pieces of it.
theorem blurred_replicate {text : List UInt16} (hne : text ≠ [])
    (hlarge : ∀ unit ∈ text, 0x80 ≤ unit.toNat) {count : Nat} (hcount : text.length ≤ count) :
    Blurred text (List.replicate count replacement) := by
  induction text generalizing count with
  | nil => exact absurd rfl hne
  | cons unit text ih =>
    have hunit := hlarge unit List.mem_cons_self
    rw [List.length_cons] at hcount
    obtain ⟨count, rfl⟩ : ∃ rest, count = rest + 1 := ⟨count - 1, by omega⟩
    cases text with
    | nil =>
      exact ⟨_, [], .inr ⟨hunit, count, rfl⟩, rfl, (List.append_nil _).symm⟩
    | cons other text =>
      refine ⟨[replacement], List.replicate count replacement, .inr ⟨hunit, 0, rfl⟩, ?_, rfl⟩
      exact ih (List.cons_ne_nil _ _)
        (fun unit hmem => hlarge unit (List.mem_cons_of_mem _ hmem)) (by omega)

theorem Blurred.more {text seen : List UInt16} (h : Blurred text (replacement :: seen))
    (count : Nat) : Blurred text (List.replicate (count + 1) replacement ++ seen) := by
  cases text with
  | nil => cases h
  | cons unit text =>
    obtain ⟨piece, later, hpiece, hlater, heq⟩ := h
    obtain ⟨first, tail, rfl⟩ := List.exists_cons_of_ne_nil hpiece.mem.1
    obtain ⟨rfl, rfl⟩ := List.cons.inj heq
    have hmore : ∃ longer, List.replicate (count + 1) replacement ++ tail =
        List.replicate (longer + 1) replacement ∧ 0x80 ≤ unit.toNat := by
      obtain hone | ⟨hunit, length, hlength⟩ := hpiece
      · obtain ⟨rfl, rfl⟩ := List.cons.inj hone
        exact ⟨count, List.append_nil _, replacement_large⟩
      · rw [List.replicate_succ] at hlength
        obtain ⟨-, rfl⟩ := List.cons.inj hlength
        exact ⟨count + length, by rw [List.replicate_append_replicate]; congr 1; omega, hunit⟩
    obtain ⟨longer, hlonger, hunit⟩ := hmore
    refine ⟨_, later, .inr ⟨hunit, longer, rfl⟩, hlater, ?_⟩
    rw [← hlonger, List.append_assoc]
    rfl

-- The bytes after an interruption, read on their own, and read on from where it fell.
theorem blurred_decodeFrom (hlarge : begun.Large) {bytes : List UInt8} {seen : List UInt16}
    (h : Blurred (decode bytes) seen) :
    Blurred (decodeFrom (some begun) bytes) (replacement :: seen) := by
  induction bytes generalizing begun seen with
  | nil =>
    obtain rfl : seen = [] := h
    exact blurred_refl _
  | cons byte rest ih =>
    by_cases hcontinues : begun.Continues byte
    · rw [decode_continues hcontinues] at h
      obtain ⟨piece, later, hpiece, hlater, rfl⟩ := h
      have hreplaced : ∃ count, piece = List.replicate (count + 1) replacement := by
        obtain rfl | ⟨-, hcount⟩ := hpiece
        · exact ⟨0, rfl⟩
        · exact hcount
      obtain ⟨count, rfl⟩ := hreplaced
      show Blurred _ (List.replicate (count + 1 + 1) replacement ++ later)
      obtain ⟨code, hcode, hneeded, hextended, hdecode⟩ | ⟨hmore, hdecode⟩ :=
        decodeFrom_continues hcontinues rest
      · rw [hdecode]
        refine Blurred.append (blurred_replicate (units_ne_nil _) (units_large ?_ hcode) ?_) hlater
        · have hbound := begun.extended_large hlarge hcontinues
          rwa [hneeded, Nat.sub_self, pow_zero, Nat.mul_one, ← hextended] at hbound
        · obtain ⟨unit, hunits⟩ | ⟨high, low, hunits, -⟩ := units_cases hcode <;> simp [hunits]
      · rw [hdecode]
        exact (ih (hlarge.next hcontinues hmore) hlater).more (count + 1)
    · rw [decodeFrom_not_continues hcontinues]
      exact ⟨[replacement], seen, .inl rfl, h, rfl⟩

-- Events that are decoded one by one blur the text of their bytes.
theorem blurred_flatMap_decode (events : List (List UInt8)) :
    Blurred (decode events.flatten) (events.flatMap decode) := by
  induction events with
  | nil => rfl
  | cons event events ih =>
    rw [List.flatten_cons, List.flatMap_cons, decode_append, decode_eq event, List.append_assoc]
    refine (blurred_refl _).append ?_
    cases hstate : after event with
    | none => exact ih
    | some begun => exact blurred_decodeFrom (after_large hstate) ih

end Decoding

section Parts

-- The events as far as they carry the first bytes, and the rest of them.
def takeBytes : Nat → List (List UInt8) → List (List UInt8)
  | _, [] => []
  | count, event :: events => event.take count :: takeBytes (count - event.length) events

def dropBytes : Nat → List (List UInt8) → List (List UInt8)
  | _, [] => []
  | count, event :: events => event.drop count :: dropBytes (count - event.length) events

theorem flatten_takeBytes (count : Nat) (events : List (List UInt8)) :
    (takeBytes count events).flatten = events.flatten.take count := by
  induction events generalizing count with
  | nil => simp [takeBytes]
  | cons event events ih => rw [takeBytes, List.flatten_cons, List.flatten_cons, ih, List.take_append]

theorem flatten_dropBytes (count : Nat) (events : List (List UInt8)) :
    (dropBytes count events).flatten = events.flatten.drop count := by
  induction events generalizing count with
  | nil => simp [dropBytes]
  | cons event events ih => rw [dropBytes, List.flatten_cons, List.flatten_cons, ih, List.drop_append]

theorem decode_append_iff (first second : List UInt8) :
    decode first ++ decode second = decode (first ++ second) ↔ ¬Splits (after first) second := by
  rw [decode_append, decode_eq first, List.append_assoc, List.append_cancel_left_eq,
    decodeFrom_eq_iff _ (Nat.le_refl _), and_iff_left rfl]

-- What a text was begun with is forgotten once a new sequence has begun.
theorem feed_eq_or_none (state : Option Begun) (bytes : List UInt8) :
    (feed step state bytes).1 = after bytes ∨ after bytes = none := by
  induction bytes generalizing state with
  | nil => exact .inr rfl
  | cons byte bytes ih =>
    cases state with
    | none => exact .inl rfl
    | some begun =>
      by_cases hcontinues : begun.Continues byte
      · have hafter : after (byte :: bytes) = after bytes := by
          show (feed step (start byte).1 bytes).1 = _
          rw [start_of_continues hcontinues]
          rfl
        rw [hafter]
        exact ih _
      · have hstep : (step (some begun) byte).1 = (step none byte).1 := by
          simp only [step, dif_neg hcontinues]
        refine .inl ?_
        show (feed step (step (some begun) byte).1 bytes).1 = _
        rw [hstep]
        rfl

theorem not_splits_of_append {first second rest : List UInt8}
    (h : ¬Splits (after (first ++ second)) rest) : ¬Splits (after second) rest := by
  rintro ⟨begun, byte, later, hstate, hbytes, hcontinues⟩
  rcases feed_eq_or_none (after first) second with heq | hnone
  · exact h ⟨begun, byte, later, by rw [after_append, heq, hstate], hbytes, hcontinues⟩
  · rw [hnone] at hstate
    cases hstate

-- The text of the events is that of its two parts, where no character is split between them.
theorem flatMap_decode_parts (count : Nat) {events : List (List UInt8)}
    (h : ¬Splits (after (events.flatten.take count)) (events.flatten.drop count)) :
    events.flatMap decode =
      (takeBytes count events).flatMap decode ++ (dropBytes count events).flatMap decode := by
  induction events generalizing count with
  | nil => rfl
  | cons event events ih =>
    rw [List.flatten_cons, List.take_append, List.drop_append] at h
    rw [takeBytes, dropBytes, List.flatMap_cons, List.flatMap_cons, List.flatMap_cons]
    by_cases hlong : event.length ≤ count
    · rw [List.drop_eq_nil_of_le hlong, List.nil_append] at h
      rw [List.take_of_length_le hlong, List.drop_eq_nil_of_le hlong, List.append_assoc,
        ih _ (not_splits_of_append h)]
      rfl
    · have hzero : count - event.length = 0 := by omega
      rw [hzero, List.take_zero, List.append_nil, List.drop_zero] at h
      have htake : ∀ events : List (List UInt8), (takeBytes 0 events).flatMap decode = [] ∧
          dropBytes 0 events = events := by
        intro events
        induction events with
        | nil => exact ⟨rfl, rfl⟩
        | cons event events ih =>
          rw [takeBytes, dropBytes, Nat.zero_sub, List.flatMap_cons, ih.1, ih.2]
          exact ⟨rfl, rfl⟩
      have hsplit : ¬Splits (after (event.take count)) (event.drop count) := by
        rintro ⟨begun, byte, later, hstate, hbytes, hcontinues⟩
        exact h ⟨begun, byte, later ++ events.flatten, hstate, by rw [hbytes]; rfl, hcontinues⟩
      rw [hzero, (htake events).1, (htake events).2, List.append_nil, ← List.append_assoc,
        (decode_append_iff _ _).mpr hsplit, List.take_append_drop]

theorem flatMap_decode_cut {events : List (List UInt8)} {first second : List UInt8}
    (h : events.flatten = first ++ second) (hsplits : ¬Splits (after first) second) :
    events.flatMap decode = (takeBytes first.length events).flatMap decode ++
        (dropBytes first.length events).flatMap decode ∧
      (takeBytes first.length events).flatten = first ∧
      (dropBytes first.length events).flatten = second := by
  have htake := flatten_takeBytes first.length events
  have hdrop := flatten_dropBytes first.length events
  rw [h, List.take_left] at htake
  rw [h, List.drop_left] at hdrop
  refine ⟨flatMap_decode_parts _ ?_, htake, hdrop⟩
  rwa [h, List.take_left, List.drop_left]

-- A text that ends in no replacement leaves no sequence open.
theorem after_eq_none {bytes : List UInt8} {text : List UInt16} {last : UInt16}
    (h : decode bytes = text ++ [last]) (hlast : last ≠ replacement) : after bytes = none := by
  cases hstate : after bytes with
  | none => rfl
  | some begun =>
    rw [decode_eq, hstate] at h
    exact absurd (List.append_inj' h rfl).2 fun heq => hlast (List.cons.inj heq).1.symm

-- Bytes that start a text with no replacement go on with no sequence.
theorem not_splits_of_head {bytes : List UInt8} {text : List UInt16} {first : UInt16}
    (h : decode bytes = first :: text) (hfirst : first ≠ replacement) (state : Option Begun) :
    ¬Splits state bytes := by
  rintro ⟨begun, byte, rest, -, rfl, hcontinues⟩
  rw [decode_continues hcontinues] at h
  exact hfirst (List.cons.inj h).1.symm

end Parts

end WebSsh2.Library.Utf8

import WebSsh2.Ssh.HostnameResolver

namespace WebSsh2.Ssh

open WebSsh2.Library WebSsh2.Library.Prefixes

-- The digits of a prefix length.
structure PrefixDigits (most : Nat) (digits : JsString) : Prop where
  nonempty : digits ≠ []
  digit : ∀ unit ∈ digits, isDigit unit = true
  bounded : digitsValue digits ≤ most

section Numbers

theorem parseBounded_digits (most : Nat) {digits : JsString} (hne : digits ≠ [])
    (hdigits : ∀ unit ∈ digits, isDigit unit = true) :
    parseBounded most digits =
      if digitsValue digits ≤ most then some (digitsValue digits) else none := by
  unfold parseBounded
  rw [parseInt_digits hne hdigits]
  unfold Number.ofInt
  dsimp only
  generalize digitsValue digits = number
  by_cases hmost : number ≤ most
  · have hnegative : ¬ ((number : Int) : ℚ) < 0 := by
      rw [Int.cast_natCast]
      exact not_lt.mpr (Nat.cast_nonneg number)
    have hbound : ¬ (most : ℚ) < ((number : Int) : ℚ) := by
      rw [Int.cast_natCast, Nat.cast_lt]
      omega
    rw [if_pos hmost, if_neg (not_or.mpr ⟨hnegative, hbound⟩), Rat.num_intCast, Int.toNat_natCast]
  · have hbound : (most : ℚ) < ((number : Int) : ℚ) := by
      rw [Int.cast_natCast, Nat.cast_lt]
      omega
    rw [if_neg hmost, if_pos (.inr hbound)]

theorem parseBounded_octet {text : JsString} {octet : Nat} (h : readOctet text = some octet) :
    parseBounded ipv4OctetMax text = some octet := by
  obtain ⟨hne, hdigits, hvalue⟩ := readOctet_digits h
  have hle : octet ≤ ipv4OctetMax := readOctet_le h
  rw [parseBounded_digits _ hne hdigits, hvalue, if_pos hle]

theorem shiftLeft_natCast (number : Nat) {count : Nat} (hcount : count < 32) :
    shiftLeft number count = BitVec.ofNat 32 (number * 2 ^ count) := by
  apply BitVec.eq_of_toNat_eq
  unfold shiftLeft
  rw [Nat.mod_eq_of_lt hcount, BitVec.ofInt_natCast, BitVec.toNat_shiftLeft, BitVec.toNat_ofNat,
    BitVec.toNat_ofNat, Nat.shiftLeft_eq, Nat.mod_mul_mod]

end Numbers

section Ipv4

variable (text : JsString)

-- The word that the code computes for a text.
def ipWord : BitVec 32 :=
  BitVec.ofInt 32 (ipToInt text)

-- The octet at the front of a piece, if it is one.
def octetTaken (piece : JsString) : Option Nat :=
  match parseInt piece with
  | .finite number => if 0 ≤ number ∧ number ≤ 255 then some number.num.toNat else none
  | _ => none

-- A piece that is no octet takes away what the pieces before it add up to.
def octetAdded (weight before : Nat) : Option Nat → Nat
  | some octet => before + octet * weight
  | none => 0

-- A text with three points as an IPv4 address, whatever it is.
def ipv4Taken : Nat :=
  match (text.splitOn 46).map octetTaken with
  | [first, second, third, fourth] =>
    octetAdded 1 (octetAdded (2 ^ 8) (octetAdded (2 ^ 16) (octetAdded (2 ^ 24) 0 first) second)
      third) fourth
  | _ => 0

theorem parseBounded_eq_octetTaken (piece : JsString) :
    parseBounded ipv4OctetMax piece = octetTaken piece := by
  unfold parseBounded octetTaken ipv4OctetMax
  cases parseInt piece with
  | nan => rfl
  | infinity _ => rfl
  | finite number =>
    have hbounds : (number < 0 ∨ ((255 : Nat) : ℚ) < number) ↔ ¬(0 ≤ number ∧ number ≤ 255) := by
      rw [not_and_or, not_le, not_le]
      exact Iff.rfl
    simp only [hbounds, ite_not]

theorem octetTaken_le {piece : JsString} {octet : Nat} (h : octetTaken piece = some octet) :
    octet ≤ 255 := by
  unfold octetTaken at h
  rcases parseInt_cases piece with hnan | ⟨value, hvalue⟩
  · rw [hnan] at h
    cases h
  · rw [hvalue] at h
    dsimp only [Number.ofInt] at h
    split at h
    · rename_i hbounds
      obtain rfl := Option.some.inj h
      have hle : value ≤ 255 := by exact_mod_cast hbounds.2
      rw [Rat.num_intCast]
      omega
    · cases h

-- The sum of the code, a signed word, is the sum of the octets.
theorem ofInt_octetAdded {sum : Int} {before count : Nat}
    (h : BitVec.ofInt 32 sum = BitVec.ofNat 32 before) (hcount : count < 32) (piece : JsString) :
    BitVec.ofInt 32 (match parseBounded ipv4OctetMax piece with
      | none => 0
      | some num => sum + (shiftLeft num count).toInt) =
        BitVec.ofNat 32 (octetAdded (2 ^ count) before (octetTaken piece)) := by
  rw [parseBounded_eq_octetTaken]
  cases octetTaken piece with
  | none => rfl
  | some octet =>
    dsimp only [octetAdded]
    rw [BitVec.ofInt_add, h, BitVec.ofInt_toInt, shiftLeft_natCast octet hcount,
      ← BitVec.ofNat_add]

theorem ipv4Taken_lt : ipv4Taken text < 2 ^ 32 := by
  unfold ipv4Taken
  split
  case h_2 => exact Nat.two_pow_pos 32
  case h_1 first second third fourth hpieces =>
    have hle : ∀ octet ∈ [first, second, third, fourth], octet.getD 0 ≤ 255 := by
      rw [← hpieces]
      intro octet hoctet
      obtain ⟨piece, _, rfl⟩ := List.mem_map.mp hoctet
      cases htaken : octetTaken piece with
      | none => exact Nat.zero_le _
      | some octet => exact octetTaken_le htaken
    simp only [List.forall_mem_cons] at hle
    obtain ⟨hfirst, hsecond, hthird, hfourth, _⟩ := hle
    cases first <;> cases second <;> cases third <;> cases fourth <;>
      simp only [octetAdded, Option.getD_some] at hfirst hsecond hthird hfourth ⊢ <;> omega

theorem toNat_ipWord : (ipWord text).toNat = ipv4Taken text := by
  have hlt := ipv4Taken_lt text
  suffices hword : ipWord text = BitVec.ofNat 32 (ipv4Taken text) by
    rw [hword, BitVec.toNat_ofNat, Nat.mod_eq_of_lt hlt]
  unfold ipWord ipToInt ipv4Taken
  generalize text.splitOn 46 = pieces
  by_cases hlength : pieces.length = 4
  · obtain ⟨a, b, c, d, rfl⟩ := List.length_eq_four.mp hlength
    have hfirst := ofInt_octetAdded (show BitVec.ofInt 32 0 = BitVec.ofNat 32 0 from rfl)
      (show 24 < 32 by decide) a
    have hsecond := ofInt_octetAdded hfirst (show 16 < 32 by decide) b
    have hthird := ofInt_octetAdded hsecond (show 8 < 32 by decide) c
    exact ofInt_octetAdded hthird (show 0 < 32 by decide) d
  · dsimp only
    rw [if_pos (show pieces.length ≠ ipv4OctetCount from hlength)]
    split
    · rename_i hpieces
      have hfour := congrArg List.length hpieces
      rw [List.length_map] at hfour
      exact absurd hfour hlength
    · rfl

theorem ipv4Taken_readIpv4 {text : JsString} {address : Ipv4} (h : readIpv4 text = some address) :
    ipv4Taken text = address.value := by
  have htaken : ∀ {piece octet}, readOctet piece = some octet → octetTaken piece = some octet :=
    fun hread => (parseBounded_eq_octetTaken _).symm.trans (parseBounded_octet hread)
  have hpieces := readIpv4_eq_some_iff.mp h
  have hlength := length_octets h
  unfold ipv4Taken Word.value
  generalize text.splitOn 46 = pieces at hpieces hlength
  generalize address.digits = octets at hpieces
  obtain ⟨a, b, c, d, rfl⟩ := List.length_eq_four.mp hlength
  obtain ⟨first, octets, rfl, hfirst, hpieces⟩ := readAll_cons hpieces
  obtain ⟨second, octets, rfl, hsecond, hpieces⟩ := readAll_cons hpieces
  obtain ⟨third, octets, rfl, hthird, hpieces⟩ := readAll_cons hpieces
  obtain ⟨fourth, octets, rfl, hfourth, hpieces⟩ := readAll_cons hpieces
  cases hpieces
  simp only [List.map_cons, List.map_nil, htaken hfirst, htaken hsecond, htaken hthird,
    htaken hfourth, octetAdded, value_cons, value_nil, List.length_cons, List.length_nil]
  omega

theorem splitOn_cidr {base digits : JsString} (hbase : 47 ∉ base)
    (hdigits : ∀ unit ∈ digits, isDigit unit = true) :
    (base ++ 47 :: digits).splitOn 47 = [base, digits] := by
  have hslash : 47 ∉ digits := fun hmem => absurd (hdigits 47 hmem) (by decide)
  rw [List.splitOn_append_cons_self_of_not_mem hbase, List.splitOn_eq_singleton hslash]

-- A shift by 32 is none, so that the mask of the prefix length zero has all bits.
theorem getLsbD_maskBits (mask i : Nat) (hi : i < 32) :
    (shiftLeft ipv4FullMask (32 - mask)).getLsbD i =
      decide ((32 - mask) % 32 ≤ i ∧ i < 32) := by
  have hones : BitVec.ofInt 32 ipv4FullMask = BitVec.allOnes 32 := by decide
  unfold shiftLeft
  rw [hones, BitVec.getLsbD_shiftLeft, BitVec.getLsbD_allOnes]
  by_cases hlow : (32 - mask) % 32 ≤ i
  · have hless : i - (32 - mask) % 32 < 32 := by omega
    simp [hi, hlow, Nat.not_lt.mpr hlow, hless]
  · simp [hlow, Nat.not_le.mp hlow]

def ipv4BitsCompared (mask : Nat) : Nat :=
  if mask = 0 then 32 else mask

theorem isIpv4InCidr_iff {ip base digits : JsString} (hbase : 47 ∉ base) (hne : digits ≠ [])
    (hdigits : ∀ unit ∈ digits, isDigit unit = true) :
    isIpv4InCidr ip (base ++ 47 :: digits) = true ↔
      digitsValue digits ≤ ipv4MaxMaskBits ∧
        SamePrefix 32 (ipv4BitsCompared (digitsValue digits)) (ipv4Taken ip)
          (ipv4Taken base) := by
  rw [← toNat_ipWord, ← toNat_ipWord]
  unfold isIpv4InCidr
  rw [splitOn_cidr hbase hdigits]
  dsimp only
  rw [parseBounded_digits _ hne hdigits]
  by_cases hmost : digitsValue digits ≤ ipv4MaxMaskBits
  · rw [if_pos hmost, and_iff_right hmost]
    dsimp only
    rw [decide_eq_true_iff]
    have hmask := and_eq_and_iff (Nat.le_refl 32) (getLsbD_maskBits (digitsValue digits))
      (ipWord ip) (ipWord base)
    rw [Nat.mod_eq_of_lt (ipWord ip).isLt, Nat.mod_eq_of_lt (ipWord base).isLt] at hmask
    refine hmask.trans ?_
    have hmost' : digitsValue digits ≤ 32 := hmost
    have hlow : (32 - digitsValue digits) % 32 = 32 - ipv4BitsCompared (digitsValue digits) := by
      unfold ipv4BitsCompared
      split <;> omega
    rw [hlow]
    exact Iff.rfl
  · rw [if_neg hmost]
    exact iff_of_false (fun h => by cases h) fun h => hmost h.1

-- An octet of a wildcard entry, or a star.
def octetCovers (entry : JsString) (octet : Nat) : Prop :=
  entry = [42] ∨ readOctet entry = some octet

instance (entry : JsString) (octet : Nat) : Decidable (octetCovers entry octet) :=
  inferInstanceAs (Decidable (_ ∨ _))

theorem all_octets_iff {entries pieces : List JsString} {octets : List Nat}
    (hentries : ∀ entry ∈ entries, entry = [42] ∨ ∃ octet, readOctet entry = some octet)
    (hlength : entries.length = pieces.length) (hpieces : readAll readOctet pieces = some octets) :
    ((entries.zip pieces).all fun (entry, piece) => decide (entry = [42] ∨ entry = piece)) = true ↔
      ∀ pair ∈ entries.zip octets, octetCovers pair.1 pair.2 := by
  induction entries generalizing pieces octets with
  | nil => simp
  | cons entry rest ih =>
    obtain ⟨piece, pieces, rfl⟩ := List.exists_cons_of_length_eq_add_one hlength.symm
    obtain ⟨octet, octets, rfl, hoctet, hoctets⟩ := readAll_cons hpieces
    have hlengths : rest.length = pieces.length := by simpa using hlength
    have hrest := ih (fun other hother => hentries other (List.mem_cons_of_mem _ hother))
      hlengths hoctets
    have hhead : (entry = [42] ∨ entry = piece) ↔ octetCovers entry octet := by
      refine or_congr_right ⟨fun h => by rw [h, hoctet], fun h => ?_⟩
      exact readOctet_inj entry piece octet h hoctet
    rw [List.zip_cons_cons, List.zip_cons_cons, List.all_cons, Bool.and_eq_true, hrest,
      List.forall_mem_cons, decide_eq_true_iff, hhead]

-- The octets that are no star have to be those of the address.
theorem matchesIpv4Wildcard_iff {ip subnet : JsString} {address : Ipv4}
    (hip : readIpv4 ip = some address) (hlength : (subnet.splitOn 46).length = 4)
    (hentries : ∀ entry ∈ subnet.splitOn 46,
      entry = [42] ∨ ∃ octet, readOctet entry = some octet)
    (hstar : [42] ∈ subnet.splitOn 46) :
    matchesIpv4Wildcard ip subnet = true ↔
      ∀ pair ∈ (subnet.splitOn 46).zip address.digits, octetCovers pair.1 pair.2 := by
  have hmem : 42 ∈ subnet :=
    (Text.mem_splitOn 46 subnet [42] hstar).2 42 List.mem_cons_self
  unfold matchesIpv4Wildcard
  rw [if_neg (not_not.mpr hmem)]
  dsimp only
  rw [if_neg (not_or.mpr ⟨not_not.mpr (length_octets hip), not_not.mpr hlength⟩)]
  exact all_octets_iff hentries (hlength.trans (length_octets hip).symm)
    (readIpv4_eq_some_iff.mp hip)

end Ipv4

end WebSsh2.Ssh

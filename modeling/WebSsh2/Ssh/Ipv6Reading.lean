import WebSsh2.Ssh.Ipv4Reading

namespace WebSsh2.Ssh

open WebSsh2.Library WebSsh2.Library.Prefixes

section Segments

-- The sixteen bits that the code looks at.
def readSegment (segment : JsString) : Nat :=
  (toInt32 (parseHexInt segment)).toNat % 2 ^ 16

def groupsAsRead (runtime : Runtime) (text : JsString) : List Nat :=
  ((normalizeIpv6Address (runtime.toLowerCase text)).splitOn 58).map readSegment

theorem readSegment_lt (segments : List JsString) :
    ∀ group ∈ segments.map readSegment, group < 2 ^ 16 := by
  intro group hgroup
  obtain ⟨segment, _, rfl⟩ := List.mem_map.mp hgroup
  exact Nat.mod_lt _ (Nat.two_pow_pos 16)

theorem getLsbD_bitMask (bits : Nat) (hbits : bits ≤ 16) (i : Nat) (hi : i < 32) :
    (shiftLeft ipv6SegmentMaxValue (16 - bits) &&&
        BitVec.ofInt 32 ipv6SegmentMaxValue).getLsbD i =
      decide (16 - bits ≤ i ∧ i < 16) := by
  revert i
  revert bits
  decide

theorem segmentMatches_iff {first second : JsString} {bits : Nat} (hbits : bits ≤ 16) :
    segmentMatches first second bits = true ↔
      SamePrefix 16 bits (readSegment first) (readSegment second) := by
  unfold segmentMatches
  dsimp only
  rw [decide_eq_true_iff]
  exact and_eq_and_iff (by decide) (getLsbD_bitMask bits hbits) _ _

-- The loop compares the bits that are left.
theorem ipv6MatchesMask_go_iff (mask : Nat) (ipSegments subnetSegments : List JsString)
    (bitsChecked : Nat) :
    ipv6MatchesMask.go mask bitsChecked ipSegments subnetSegments = true ↔
      SamePrefixes 16 (mask - bitsChecked) (ipSegments.map readSegment)
        (subnetSegments.map readSegment) := by
  induction ipSegments generalizing subnetSegments bitsChecked with
  | nil => exact iff_of_true rfl trivial
  | cons ipSegment ipSegments ih =>
    unfold ipv6MatchesMask.go
    by_cases hchecked : mask ≤ bitsChecked
    · rw [if_pos hchecked, Nat.sub_eq_zero_of_le hchecked]
      exact iff_of_true rfl (samePrefixes_zero (readSegment_lt _) (readSegment_lt _))
    · have hbits : ipv6SegmentBits = 16 := rfl
      have hhead : (subnetSegments.map readSegment).headD 0 =
          readSegment (subnetSegments.headD [48]) := by
        cases subnetSegments with
        | nil => decide +kernel
        | cons _ _ => rfl
      have hmatches := @segmentMatches_iff ipSegment (subnetSegments.headD [48])
        (min 16 (mask - bitsChecked)) (Nat.min_le_left _ _)
      have hrest := ih subnetSegments.tail (bitsChecked + 16)
      rw [Nat.sub_add_eq] at hrest
      rw [if_neg hchecked, hbits, List.map_cons, SamePrefixes, hhead, ← List.map_tail, ← hrest,
        ← hmatches]
      by_cases hsegment : segmentMatches ipSegment (subnetSegments.headD [48])
          (min 16 (mask - bitsChecked)) = true
      · rw [and_iff_right hsegment]
        rw [if_pos hsegment]
      · refine iff_of_false (fun h => ?_) fun h => hsegment h.1
        rw [if_neg hsegment] at h
        cases h

theorem isIpv6InCidr_iff (runtime : Runtime) {ip base digits : JsString} (hbase : 47 ∉ base)
    (hne : digits ≠ []) (hdigits : ∀ unit ∈ digits, isDigit unit = true)
    (hmost : digitsValue digits ≤ 128) :
    isIpv6InCidr runtime ip (base ++ 47 :: digits) = true ↔
      SamePrefixes 16 (digitsValue digits) (groupsAsRead runtime ip)
        (groupsAsRead runtime base) := by
  have hparsed : parseIpv6Cidr (base ++ 47 :: digits) = some ⟨base, digitsValue digits⟩ := by
    have hmost' : digitsValue digits ≤ ipv6MaxMaskBits := hmost
    unfold parseIpv6Cidr
    rw [splitOn_cidr hbase hdigits]
    dsimp only
    rw [parseBounded_digits _ hne hdigits, if_pos hmost']
    rfl
  unfold isIpv6InCidr ipv6MatchesMask
  rw [hparsed]
  dsimp only
  rw [ipv6MatchesMask_go_iff, Nat.sub_zero]
  exact Iff.rfl

end Segments

section Groups

theorem isWhiteSpace_of_isHexDigit {unit : UInt16} (h : isHexDigit unit = true) :
    isWhiteSpace unit = false := by
  have hrange := isHexDigit_iff.mp h
  exact isWhiteSpace_of_printable (by omega)

theorem hexDigitValue_lt (unit : UInt16) : hexDigitValue unit < 16 := by
  have hsub : ∀ low : UInt16, low.toNat ≤ unit.toNat → unit.toNat < low.toNat + 16 →
      (unit - low).toNat < 16 := by
    intro low hlow hhigh
    rw [UInt16.toNat_sub_of_le _ _ (UInt16.le_iff_toNat_le.mpr hlow)]
    omega
  unfold hexDigitValue Json.hexValue
  simp only [UInt16.le_iff_toNat_le, UInt16.reduceToNat]
  split
  · exact hsub 48 (by simp; omega) (by simp; omega)
  · split
    · exact hsub 87 (by simp; omega) (by simp; omega)
    · split
      · exact hsub 55 (by simp; omega) (by simp; omega)
      · decide

theorem toDouble_ofInt {number : Nat} (h : number < 2 ^ 53) :
    Sftp.toDouble (.ofInt number) = .ofInt number := by
  have hmagnitude : ((number : Int) : ℚ).num.natAbs = number := by simp
  have hsign : ¬ ((number : Int) : ℚ) < 0 := by simp
  have hround : Sftp.roundToDouble number = number := if_pos h
  have hpowers : ∀ most : Nat, 53 ≤ most → ¬ 2 ^ most ≤ number := fun most hmost hle =>
    absurd (hle.trans_lt h) (Nat.not_lt.mpr (Nat.pow_le_pow_right (by decide) hmost))
  unfold Number.ofInt Sftp.toDouble
  dsimp only
  rw [hmagnitude, hround, if_neg (hpowers 1024 (by decide)), if_neg hsign]
  rfl

-- What ends the digits of a piece: its end, a point or the mark of a zone.
def EndsDigits (rest : JsString) : Prop :=
  ∀ unit ∈ rest.head?, unit = 37 ∨ unit = 46

variable {digits rest : JsString}

-- Digits without a sign, a blank or a mark of the base are read as they are.
theorem parseHexInt_front (hne : digits ≠ []) (hdigits : ∀ unit ∈ digits, isHexDigit unit = true)
    (hrest : EndsDigits rest) :
    parseHexInt (digits ++ rest) = Sftp.toDouble (.ofInt (hexDigitsValue digits)) := by
  obtain ⟨first, more, rfl⟩ := List.exists_cons_of_ne_nil hne
  have hnothing : rest.takeWhile isHexDigit = [] := by
    cases rest with
    | nil => rfl
    | cons unit rest =>
      have hunit : isHexDigit unit = false := by
        rcases hrest unit rfl with rfl | rfl <;> decide
      rw [List.takeWhile_cons, hunit]
      rfl
  have hall : (first :: more ++ rest).takeWhile isHexDigit = first :: more := by
    rw [List.takeWhile_append_of_pos hdigits, hnothing, List.append_nil]
  have hfirst := hdigits first List.mem_cons_self
  have hspace : (first :: more ++ rest).dropWhile isWhiteSpace = first :: more ++ rest := by
    rw [List.cons_append, List.dropWhile_cons, isWhiteSpace_of_isHexDigit hfirst]
    rfl
  -- behind a zero stands a digit or what ends the digits, and no mark of the base
  have hmark : ∀ mark others, first :: more ++ rest = 48 :: mark :: others →
      isHexDigit mark = true ∨ mark = 37 ∨ mark = 46 := by
    intro mark others heq
    cases more with
    | nil =>
      obtain ⟨-, rfl⟩ := List.cons.inj heq
      exact .inr (hrest mark rfl)
    | cons next more =>
      obtain ⟨-, heq⟩ := List.cons.inj heq
      obtain ⟨rfl, -⟩ := List.cons.inj heq
      exact .inl (hdigits next (by simp))
  have hsign : ∀ sign others, first :: more ++ rest = sign :: others →
      isHexDigit sign = true := by
    intro sign others heq
    obtain ⟨rfl, -⟩ := List.cons.inj heq
    exact hfirst
  generalize first :: more ++ rest = whole at hall hspace hmark hsign ⊢
  unfold parseHexInt
  dsimp only
  rw [hspace]
  split
  · cases hsign 45 _ rfl
  · cases hsign 43 _ rfl
  · split
    · rcases hmark 120 _ rfl with h | h | h <;> cases h
    · rcases hmark 88 _ rfl with h | h | h <;> cases h
    · rw [hall, if_neg hne]
      rfl

theorem parseHexInt_of_end {rest : JsString} (hrest : EndsDigits rest) :
    parseHexInt rest = .nan := by
  cases rest with
  | nil => rfl
  | cons unit rest => rcases hrest unit rfl with rfl | rfl <;> rfl

theorem readSegment_front (hdigits : ∀ unit ∈ digits, isHexDigit unit = true)
    (hlength : digits.length ≤ 4) (hrest : EndsDigits rest) :
    readSegment (digits ++ rest) = hexDigitsValue digits := by
  by_cases hne : digits = []
  · rw [hne, List.nil_append, readSegment, parseHexInt_of_end hrest]
    rfl
  · have hless : hexDigitsValue digits < 2 ^ 16 := by
      have hvalue := @value_lt 4 (by decide) (digits.map hexDigitValue) (by
        intro digit hdigit
        obtain ⟨unit, _, rfl⟩ := List.mem_map.mp hdigit
        exact hexDigitValue_lt unit)
      rw [List.length_map] at hvalue
      exact hvalue.trans_le (Nat.pow_le_pow_right (by decide) (by omega))
    unfold readSegment
    rw [parseHexInt_front hne hdigits hrest, toDouble_ofInt (by omega)]
    generalize hexDigitsValue digits = number at hless
    unfold toInt32 Number.ofInt
    dsimp only
    rw [Rat.num_intCast, Rat.den_intCast, Nat.cast_one, Int.tdiv_one, BitVec.ofInt_natCast,
      BitVec.toNat_ofNat]
    omega

-- The zeros in front of a piece change nothing.
theorem readSegment_padSegment (hdigits : ∀ unit ∈ digits, isHexDigit unit = true)
    (hlength : digits.length ≤ 4) (hrest : EndsDigits rest) :
    readSegment (padSegment (digits ++ rest)) = hexDigitsValue digits := by
  have hpadded : ∀ unit ∈ List.replicate (4 - (digits ++ rest).length) 48 ++ digits,
      isHexDigit unit = true := by
    intro unit hunit
    rcases List.mem_append.mp hunit with hzero | hunit
    · rw [List.eq_of_mem_replicate hzero]
      decide
    · exact hdigits unit hunit
  unfold padSegment ipv6SegmentHexDigits
  rw [← List.append_assoc, readSegment_front hpadded (by simp; omega) hrest]
  unfold hexDigitsValue
  rw [List.map_append, List.map_replicate]
  exact value_replicate_zero_append 4 _ _

end Groups

section LowerCase

variable (unit : UInt16)

def lowerUnit : UInt16 :=
  if 65 ≤ unit && unit ≤ 90 then unit + 32 else unit

-- What `toLowerCase` does with ASCII.
def LowersAscii (runtime : Runtime) : Prop :=
  ∀ text : JsString, (∀ unit ∈ text, unit < 128) → runtime.toLowerCase text = text.map lowerUnit

theorem lowersAscii_asciiRuntime : LowersAscii asciiRuntime := fun _ _ => rfl

theorem lowerUnit_cases :
    lowerUnit unit = unit ∨
      lowerUnit unit ≠ 58 ∧ unit ≠ 58 ∧ Json.hexValue (lowerUnit unit) = Json.hexValue unit := by
  have hall : ∀ n : Fin 91, 65 ≤ n.val → lowerUnit (.ofNat n) ≠ 58 ∧ UInt16.ofNat n ≠ 58 ∧
      Json.hexValue (lowerUnit (.ofNat n)) = Json.hexValue (.ofNat n) := by
    decide
  by_cases hupper : (65 ≤ unit && unit ≤ 90) = true
  · rw [Bool.and_eq_true, decide_eq_true_iff, decide_eq_true_iff, UInt16.le_iff_toNat_le,
      UInt16.le_iff_toNat_le] at hupper
    have hless : unit.toNat < 91 := Nat.lt_succ_of_le hupper.2
    have hunit := hall ⟨unit.toNat, hless⟩ hupper.1
    rw [UInt16.ofNat_toNat] at hunit
    exact .inr hunit
  · left
    unfold lowerUnit
    rw [if_neg hupper]

theorem lowerUnit_eq_colon_iff : lowerUnit unit = 58 ↔ unit = 58 := by
  rcases lowerUnit_cases unit with hsame | ⟨hlower, hupper, _⟩
  · rw [hsame]
  · exact iff_of_false hlower hupper

theorem hexValue_lowerUnit : Json.hexValue (lowerUnit unit) = Json.hexValue unit := by
  rcases lowerUnit_cases unit with hsame | ⟨_, _, hvalue⟩
  · rw [hsame]
  · exact hvalue

theorem hexDigitsValue_lower (text : JsString) :
    hexDigitsValue (text.map lowerUnit) = hexDigitsValue text := by
  unfold hexDigitsValue
  rw [List.map_map]
  refine congrArg (value 4) (List.map_congr_left fun unit _ => ?_)
  simp only [Function.comp_apply, hexDigitValue, hexValue_lowerUnit]

theorem readSegment_lower {digits rest : JsString}
    (hdigits : ∀ unit ∈ digits, isHexDigit unit = true) (hlength : digits.length ≤ 4)
    (hrest : EndsDigits rest) :
    readSegment (padSegment ((digits ++ rest).map lowerUnit)) = hexDigitsValue digits := by
  have hends : EndsDigits (rest.map lowerUnit) := by
    cases rest with
    | nil => exact fun unit hunit => by cases hunit
    | cons unit rest =>
      intro lower hlower
      obtain rfl := Option.some.inj hlower
      rcases hrest unit rfl with rfl | rfl <;> decide
  rw [List.map_append, readSegment_padSegment _ (by simpa using hlength) hends,
    hexDigitsValue_lower]
  simpa [isHexDigit, hexValue_lowerUnit] using hdigits

end LowerCase

section Taken

variable (piece : JsString)

-- A piece that a colon has cut off a zone, as the language reads it.
def zoneNumber : Nat :=
  (toInt32 (parseHexInt (List.replicate (4 - piece.length) 48 ++ piece.map lowerUnit))).toNat %
    2 ^ 16

-- A piece without its zone counts as its group, and a quad as the digits of its first
-- octet, taken for hexadecimal ones.
def pieceNumber : Nat :=
  let front := piece.takeWhile (· ≠ 37)
  match readGroup front, readIpv4 front with
  | some group, _ => group
  | none, some _ => hexDigitsValue (front.takeWhile (· ≠ 46))
  | none, none => if front = [] then 0 else zoneNumber piece

def pieceNumbers (text : JsString) : List Nat :=
  ((text.splitOn 58).filter (· ≠ [])).map pieceNumber

-- The numbers that are taken for the groups of an address: one for each piece between
-- colons, in a zone too, and zeros where `::` stands for the first time.
def groupsTaken (text : JsString) : List Nat :=
  match Text.cut [58, 58] text with
  | none => (text.splitOn 58).map pieceNumber
  | some (before, after) =>
    let left := pieceNumbers before
    let right := pieceNumbers (match Text.cut [58, 58] after with
      | some (middle, _) => middle
      | none => after)
    left ++ List.replicate (8 - left.length - right.length) 0 ++ right

theorem endsDigits_dropWhile (mark : UInt16) (hmark : mark = 37 ∨ mark = 46) (text rest : JsString)
    (hrest : EndsDigits rest) : EndsDigits (text.dropWhile (· ≠ mark) ++ rest) := by
  cases hzone : text.dropWhile (· ≠ mark) with
  | nil => exact hrest
  | cons unit more =>
    intro head hhead
    obtain rfl := Option.some.inj hhead
    have hne : text.dropWhile (· ≠ mark) ≠ [] := by
      rw [hzone]
      exact List.cons_ne_nil _ _
    have hnot := List.head_dropWhile_not (· ≠ mark) hne
    simp only [hzone, List.head_cons, decide_eq_false_iff_not, not_not] at hnot
    rwa [hnot]

-- The first octet of a quad has up to three digits, and a point behind them.
theorem octet_of_readIpv4 {text : JsString} {address : Ipv4} (h : readIpv4 text = some address) :
    (∀ unit ∈ text.takeWhile (· ≠ 46), isHexDigit unit = true) ∧
      (text.takeWhile (· ≠ 46)).length ≤ 4 := by
  obtain ⟨first, rest, rfl, hfirst⟩ := List.eq_append_cons_of_mem (dot_mem_of_readIpv4 h)
  have hnone : ∀ unit ∈ first, unit ≠ 46 := fun unit hunit hdot => hfirst (by rwa [← hdot])
  have htake : (first ++ 46 :: rest).takeWhile (· ≠ 46) = first := by
    rw [List.takeWhile_append_of_pos fun unit hunit => decide_eq_true (hnone unit hunit)]
    simp
  have hpieces := readIpv4_eq_some_iff.mp h
  rw [List.splitOn_append_cons_self_of_not_mem hfirst] at hpieces
  obtain ⟨octet, _, _, hoctet, _⟩ := readAll_cons hpieces
  rw [htake]
  refine ⟨fun unit hunit => ?_, ?_⟩
  · exact isHexDigit_iff.mpr (.inl (isDigit_iff.mp ((readOctet_digits hoctet).2.1 unit hunit)))
  · rcases readOctet_cases hoctet with ⟨_, rfl, _⟩ | ⟨_, _, rfl, _⟩ | ⟨_, _, _, rfl, _⟩ <;> simp

theorem readSegment_eq_pieceNumber :
    readSegment (padSegment (piece.map lowerUnit)) = pieceNumber piece := by
  have hzone := endsDigits_dropWhile 37 (.inl rfl) piece [] (fun _ h => by cases h)
  rw [List.append_nil] at hzone
  have hpiece : piece.takeWhile (· ≠ 37) ++ piece.dropWhile (· ≠ 37) = piece :=
    List.takeWhile_append_dropWhile
  unfold pieceNumber
  dsimp only
  cases hgroup : readGroup (piece.takeWhile (· ≠ 37)) with
  | some group =>
    obtain ⟨⟨_, hlength, hdigits⟩, rfl⟩ := readGroup_eq_some_iff.mp hgroup
    conv_lhs => rw [← hpiece]
    exact readSegment_lower hdigits hlength hzone
  | none =>
    cases hquad : readIpv4 (piece.takeWhile (· ≠ 37)) with
    | some address =>
      obtain ⟨hdigits, hlength⟩ := octet_of_readIpv4 hquad
      conv_lhs => rw [← hpiece, ← List.takeWhile_append_dropWhile
        (p := (· ≠ 46)) (l := piece.takeWhile (· ≠ 37)), List.append_assoc]
      exact readSegment_lower hdigits hlength (endsDigits_dropWhile 46 (.inr rfl) _ _ hzone)
    | none =>
      dsimp only
      split
      · rename_i hnothing
        conv_lhs => rw [← hpiece, hnothing]
        exact readSegment_lower (fun _ h => by cases h) (Nat.zero_le 4) hzone
      · unfold zoneNumber readSegment padSegment ipv6SegmentHexDigits
        rw [List.length_map]

end Taken

section Expansion

-- The groups of a text whose pieces are all hexadecimal groups.
inductive PlainGroups (text : JsString) : List Nat → Prop where
  | full (groups : List Nat) (hcut : Text.cut [58, 58] text = none)
      (hgroups : readAll readGroup (text.splitOn 58) = some groups) : PlainGroups text groups
  | short (before after : JsString) (left right : List Nat)
      (hcut : Text.cut [58, 58] text = some (before, after))
      (hleft : readAll readGroup (colonPieces before) = some left)
      (hright : readAll readGroup (colonPieces after) = some right)
      (hlength : left.length + right.length ≤ 7) :
      PlainGroups text (left ++ List.replicate (8 - left.length - right.length) 0 ++ right)

variable {groups : List Nat} {pieces : List JsString}

-- Without a point there is no quad among the pieces.
theorem readAll_of_readGroups (hdots : ∀ piece ∈ pieces, 46 ∉ piece)
    (h : readGroups pieces = some groups) : readAll readGroup pieces = some groups := by
  induction pieces generalizing groups with
  | nil => exact h
  | cons piece rest ih =>
    cases rest with
    | nil =>
      cases hgroup : readGroup piece with
      | some group =>
        rw [readGroups, hgroup] at h
        rw [readAll, hgroup]
        exact h
      | none =>
        rw [readGroups, hgroup] at h
        obtain ⟨quad, hquad, _⟩ := Option.map_eq_some_iff.mp h
        exact absurd (dot_mem_of_readIpv4 hquad) (hdots piece List.mem_cons_self)
    | cons next rest =>
      rw [readGroups] at h
      · cases hgroups : readGroups (next :: rest) with
        | none =>
          rw [hgroups] at h
          cases hgroup : readGroup piece with
          | none =>
            rw [hgroup] at h
            cases h
          | some group =>
            rw [hgroup] at h
            cases h
        | some groups =>
          rw [hgroups] at h
          rw [readAll, ih (fun other hother => hdots other (List.mem_cons_of_mem _ hother))
            hgroups]
          exact h
      · exact fun heq => by cases heq

variable {text : JsString}

theorem plainGroups_of_readIpv6Groups (hdot : 46 ∉ text) (h : readIpv6Groups text = some groups) :
    PlainGroups text groups := by
  rcases readIpv6Groups_cases h with ⟨hcut, hgroups⟩ |
    ⟨before, after, left, right, hcut, hleft, hright, hlength, rfl⟩
  · refine .full groups hcut (readAll_of_readGroups (fun piece hpiece hmem => hdot ?_) hgroups)
    exact (Text.mem_splitOn 58 text piece hpiece).2 46 hmem
  · refine .short before after left right hcut hleft
      (readAll_of_readGroups (fun piece hpiece hmem => hdot ?_) hright) hlength
    rw [Text.cut_eq_some hcut]
    apply List.mem_append_right
    unfold colonPieces at hpiece
    split at hpiece
    · cases hpiece
    · exact (Text.mem_splitOn 58 after piece hpiece).2 46 hmem

theorem pieceNumber_group {piece : JsString} {group : Nat} (h : readGroup piece = some group) :
    pieceNumber piece = group := by
  have hdigits := (readGroup_eq_some_iff.mp h).1.2.2
  have hfront : piece.takeWhile (· ≠ 37) = piece := by
    refine List.takeWhile_eq_self_iff.mpr fun unit hunit => decide_eq_true ?_
    rintro rfl
    cases hdigits 37 hunit
  unfold pieceNumber
  dsimp only
  rw [hfront, h]

theorem map_pieceNumber_of_readAll (h : readAll readGroup pieces = some groups) :
    pieces.map pieceNumber = groups := by
  induction pieces generalizing groups with
  | nil =>
    cases h
    rfl
  | cons piece rest ih =>
    obtain ⟨group, groups, rfl, hgroup, hgroups⟩ := readAll_cons h
    rw [List.map_cons, pieceNumber_group hgroup, ih hgroups]

theorem nonempty_of_readAll (h : readAll readGroup pieces = some groups) :
    ∀ piece ∈ pieces, piece ≠ [] := by
  intro piece hpiece
  obtain ⟨group, hgroup⟩ := exists_read_of_readAll h piece hpiece
  exact (readGroup_eq_some_iff.mp hgroup).1.1

-- The pieces that are not empty are those between colons.
theorem filter_splitOn (h : ∀ piece ∈ colonPieces text, piece ≠ []) :
    (text.splitOn 58).filter (· ≠ []) = colonPieces text := by
  unfold colonPieces at h ⊢
  by_cases hempty : text = []
  · rw [if_pos hempty, hempty]
    rfl
  · rw [if_neg hempty] at h ⊢
    exact List.filter_eq_self.mpr fun piece hpiece => decide_eq_true (h piece hpiece)

-- Two colons in a row have an empty piece between them.
theorem cut_of_colonPieces (h : ∀ piece ∈ colonPieces text, piece ≠ []) :
    Text.cut [58, 58] text = none := by
  cases hcut : Text.cut [58, 58] text with
  | none => rfl
  | some sides =>
    obtain ⟨before, after⟩ := sides
    have htext : text = before ++ 58 :: 58 :: after := by
      rw [Text.cut_eq_some hcut]
      simp
    have hne : text ≠ [] := by
      rw [htext]
      simp
    unfold colonPieces at h
    rw [if_neg hne, htext, List.splitOn_append_cons_self] at h
    have hnil : ([] : JsString) ∈ (58 :: after).splitOn 58 := by
      rw [List.splitOn_cons_eq_if_modifyHead]
      exact List.mem_cons_self
    exact absurd rfl (h [] (List.mem_append_right _ hnil))

theorem groupsTaken_of_plainGroups (h : PlainGroups text groups) : groupsTaken text = groups := by
  unfold groupsTaken
  cases h with
  | full _ hcut hgroups =>
    rw [hcut]
    exact map_pieceNumber_of_readAll hgroups
  | short before after left right hcut hleft hright hlength =>
    have hafter := cut_of_colonPieces (nonempty_of_readAll hright)
    rw [hcut]
    dsimp only
    rw [hafter]
    unfold pieceNumbers
    dsimp only
    rw [filter_splitOn (nonempty_of_readAll hleft), filter_splitOn (nonempty_of_readAll hright),
      map_pieceNumber_of_readAll hleft, map_pieceNumber_of_readAll hright]

theorem filter_splitOn_lower (text : JsString) :
    ((text.map lowerUnit).splitOn 58).filter (· ≠ []) =
      ((text.splitOn 58).filter (· ≠ [])).map (List.map lowerUnit) := by
  rw [Text.splitOn_map lowerUnit_eq_colon_iff, List.filter_map]
  simp only [Function.comp_def, ne_eq, List.map_eq_nil_iff]

-- The segments of the code, lower case and padded, have the numbers of the pieces.
theorem map_readSegment_expandedSegments (text : JsString) :
    (expandedSegments (text.map lowerUnit)).map (fun segment => readSegment (padSegment segment)) =
      groupsTaken text := by
  have hcolons : ∀ mark ∈ ([58, 58] : JsString), ∀ unit, lowerUnit unit = mark ↔ unit = mark := by
    intro mark hmark
    have hcolon : mark = 58 := by simpa using hmark
    rw [hcolon]
    exact lowerUnit_eq_colon_iff
  have hnumbers : ∀ pieces : List JsString, (pieces.map (List.map lowerUnit)).map
      (fun segment => readSegment (padSegment segment)) = pieces.map pieceNumber := by
    intro pieces
    rw [List.map_map]
    exact List.map_congr_left fun piece _ => readSegment_eq_pieceNumber piece
  have hzero : readSegment (padSegment [48]) = 0 := by decide +kernel
  unfold expandedSegments doubleColonParts groupsTaken
  rw [Text.cut_map hcolons]
  cases Text.cut [58, 58] text with
  | none =>
    dsimp only [Option.map_none]
    rw [Text.splitOn_map lowerUnit_eq_colon_iff]
    exact hnumbers _
  | some sides =>
    obtain ⟨before, after⟩ := sides
    have hsides : ∀ middle : JsString,
        (((before.map lowerUnit).splitOn 58).filter (· ≠ []) ++
          List.replicate (ipv6SegmentCount -
            (((before.map lowerUnit).splitOn 58).filter (· ≠ [])).length -
            (((middle.map lowerUnit).splitOn 58).filter (· ≠ [])).length) [48] ++
          ((middle.map lowerUnit).splitOn 58).filter (· ≠ [])).map
            (fun segment => readSegment (padSegment segment)) =
        pieceNumbers before ++ List.replicate (8 - (pieceNumbers before).length -
          (pieceNumbers middle).length) 0 ++ pieceNumbers middle := by
      intro middle
      rw [filter_splitOn_lower, filter_splitOn_lower, List.map_append, List.map_append,
        List.map_replicate, hnumbers, hnumbers, hzero, List.length_map, List.length_map]
      unfold pieceNumbers
      rw [List.length_map, List.length_map]
      rfl
    dsimp only [Option.map_some, Prod.map]
    rw [Text.cut_map hcolons]
    cases Text.cut [58, 58] after with
    | none => exact hsides after
    | some parts => exact hsides parts.1

theorem colon_not_mem_expandedSegments (text : JsString) :
    ∀ segment ∈ expandedSegments text, 58 ∉ segment := by
  have hpieces : ∀ part : JsString, ∀ piece ∈ (part.splitOn 58).filter (· ≠ []), 58 ∉ piece := by
    intro part piece hpiece
    exact (Text.mem_splitOn 58 part piece (List.mem_filter.mp hpiece).1).1
  unfold expandedSegments
  cases doubleColonParts text with
  | none => exact fun segment hsegment => (Text.mem_splitOn 58 text segment hsegment).1
  | some parts =>
    intro segment hsegment
    rcases List.mem_append.mp hsegment with hsegment | hright
    · rcases List.mem_append.mp hsegment with hleft | hmiddle
      · exact hpieces parts.1 segment hleft
      · rw [List.eq_of_mem_replicate hmiddle]
        decide
    · exact hpieces parts.2 segment hright

theorem expandedSegments_ne_nil (text : JsString) : expandedSegments text ≠ [] := by
  unfold expandedSegments
  cases doubleColonParts text with
  | none => exact List.splitOn_ne_nil 58 text
  | some parts =>
    intro hempty
    have hlength := congrArg List.length hempty
    simp only [List.length_append, List.length_replicate, List.length_nil, ipv6SegmentCount]
      at hlength
    omega

-- The segments are joined by colons and split at them again.
theorem splitOn_normalizeIpv6Address (addr : JsString) :
    (normalizeIpv6Address addr).splitOn 58 = (expandedSegments addr).map padSegment := by
  unfold normalizeIpv6Address
  apply List.splitOn_intercalate
  · intro padded hpadded
    obtain ⟨segment, hsegment, rfl⟩ := List.mem_map.mp hpadded
    intro hmem
    rcases List.mem_append.mp hmem with hzero | hmem
    · cases List.eq_of_mem_replicate hzero
    · exact colon_not_mem_expandedSegments addr segment hsegment hmem
  · rw [ne_eq, List.map_eq_nil_iff]
    exact expandedSegments_ne_nil addr

end Expansion

-- A dotted quad or a zone.
def Embeds (text : JsString) : Prop :=
  46 ∈ text ∨ 37 ∈ text

instance (text : JsString) : Decidable (Embeds text) :=
  inferInstanceAs (Decidable (_ ∨ _))

-- The code compares these numbers.
theorem groupsAsRead_eq {runtime : Runtime} (hruntime : LowersAscii runtime) {text : JsString}
    {address : Ipv6} (h : readIpv6 text = some address) :
    groupsAsRead runtime text = groupsTaken text := by
  have hascii : ∀ unit ∈ text, unit < 128 := by
    intro unit hunit
    rw [UInt16.lt_iff_toNat_lt]
    rcases units_of_readIpv6 h unit hunit with hzone | rfl
    · have hrange := isZoneUnit_iff.mp hzone
      have hmost : (128 : UInt16).toNat = 128 := rfl
      omega
    · decide
  unfold groupsAsRead
  rw [hruntime text hascii, splitOn_normalizeIpv6Address, List.map_map]
  exact map_readSegment_expandedSegments text

-- An address of hexadecimal groups alone is taken for what it is.
theorem groupsTaken_of_plain {text : JsString} {address : Ipv6} (h : readIpv6 text = some address)
    (hplain : ¬ Embeds text) : groupsTaken text = address.digits := by
  obtain ⟨hdot, hzone⟩ := not_or.mp hplain
  have hgroups : readIpv6Groups text = some address.digits := by
    rcases readIpv6_cases h with ⟨_, hgroups⟩ | ⟨front, zone, rfl, _⟩
    · exact hgroups
    · exact absurd (List.mem_append_right front List.mem_cons_self) hzone
  exact groupsTaken_of_plainGroups (plainGroups_of_readIpv6Groups hdot hgroups)

end WebSsh2.Ssh

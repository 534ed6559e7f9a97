import WebSsh2.Decimal
import WebSsh2.Library.JsonText
import WebSsh2.Library.Prefixes

namespace WebSsh2.Ssh

open WebSsh2.Library WebSsh2.Library.Prefixes

abbrev Ipv4 := Word 8 4

abbrev Ipv6 := Word 16 8

inductive Address where
  | v4 (value : Ipv4)
  | v6 (value : Ipv6)
deriving DecidableEq

def readAll (read : JsString → Option Nat) : List JsString → Option (List Nat)
  | [] => some []
  | piece :: rest =>
    match read piece, readAll read rest with
    | some number, some numbers => some (number :: numbers)
    | _, _ => none

-- `\d|[1-9]\d|1\d\d|2[0-4]\d|25[0-5]`
def readOctet : JsString → Option Nat
  | [unit] => if isDigit unit then some (digitsValue [unit]) else none
  | [tens, unit] =>
    if isDigit tens ∧ isDigit unit ∧ tens ≠ 48 then some (digitsValue [tens, unit]) else none
  | [hundreds, tens, unit] =>
    if isDigit hundreds ∧ isDigit tens ∧ isDigit unit ∧ hundreds ≠ 48 ∧
        digitsValue [hundreds, tens, unit] ≤ 255 then
      some (digitsValue [hundreds, tens, unit])
    else
      none
  | _ => none

def readIpv4 (text : JsString) : Option Ipv4 :=
  (readAll readOctet (text.splitOn 46)).bind Word.ofDigits

def isHexDigit (unit : UInt16) : Bool :=
  (Json.hexValue unit).isSome

def hexDigitValue (unit : UInt16) : Nat :=
  ((Json.hexValue unit).getD 0).toNat

def hexDigitsValue (digits : JsString) : Nat :=
  value 4 (digits.map hexDigitValue)

-- `[0-9a-fA-F]{1,4}`
def readGroup (text : JsString) : Option Nat :=
  if text ≠ [] ∧ text.length ≤ 4 ∧ ∀ unit ∈ text, isHexDigit unit = true then
    some (hexDigitsValue text)
  else
    none

-- The last piece may be a dotted quad, which makes up two groups.
def readGroups : List JsString → Option (List Nat)
  | [] => some []
  | [last] =>
    match readGroup last with
    | some group => some [group]
    | none => (readIpv4 last).map fun quad =>
      [value 8 (quad.digits.take 2), value 8 (quad.digits.drop 2)]
  | piece :: rest =>
    match readGroup piece, readGroups rest with
    | some group, some groups => some (group :: groups)
    | _, _ => none

-- The pieces between colons, where an empty text has none.
def colonPieces (text : JsString) : List JsString :=
  if text = [] then [] else text.splitOn 58

-- The groups of an address without a zone; `::` stands for one group of zeros at least.
def readIpv6Groups (text : JsString) : Option (List Nat) :=
  match Text.cut [58, 58] text with
  | none => readGroups (text.splitOn 58)
  | some (before, after) =>
    match readAll readGroup (colonPieces before), readGroups (colonPieces after) with
    | some left, some right =>
      if left.length + right.length ≤ 7 then
        some (left ++ List.replicate (8 - left.length - right.length) 0 ++ right)
      else
        none
    | _, _ => none

-- `[0-9a-zA-Z-.:]`
def isZoneUnit (unit : UInt16) : Bool :=
  isDigit unit || (97 ≤ unit && unit ≤ 122) || (65 ≤ unit && unit ≤ 90) ||
    unit ∈ ([45, 46, 58] : List UInt16)

def readIpv6 (text : JsString) : Option Ipv6 :=
  match text.dropWhile (· ≠ 37) with
  | [] => (readIpv6Groups text).bind Word.ofDigits
  | _ :: zone =>
    if zone ≠ [] ∧ ∀ unit ∈ zone, isZoneUnit unit = true then
      (readIpv6Groups (text.takeWhile (· ≠ 37))).bind Word.ofDigits
    else
      none

-- The address that a text is, which `net.isIP` accepts exactly where it is one.
def readAddress (text : JsString) : Option Address :=
  match readIpv4 text with
  | some address => some (.v4 address)
  | none => (readIpv6 text).map .v6

def isIP (text : JsString) : Nat :=
  match readAddress text with
  | some (.v4 _) => 4
  | some (.v6 _) => 6
  | none => 0

section Pieces

variable {read : JsString → Option Nat} {numbers : List Nat}

theorem readAll_cons {piece : JsString} {rest : List JsString}
    (h : readAll read (piece :: rest) = some numbers) :
    ∃ number others, numbers = number :: others ∧ read piece = some number ∧
      readAll read rest = some others := by
  unfold readAll at h
  cases hread : read piece with
  | none =>
    rw [hread] at h
    cases h
  | some number =>
    cases hrest : readAll read rest with
    | none =>
      rw [hread, hrest] at h
      cases h
    | some others =>
      rw [hread, hrest] at h
      exact ⟨number, others, (Option.some.inj h).symm, rfl, rfl⟩

theorem length_readAll {pieces : List JsString} (h : readAll read pieces = some numbers) :
    numbers.length = pieces.length := by
  induction pieces generalizing numbers with
  | nil =>
    cases h
    rfl
  | cons piece rest ih =>
    obtain ⟨number, others, rfl, _, hothers⟩ := readAll_cons h
    rw [List.length_cons, List.length_cons, ih hothers]

theorem exists_read_of_readAll {pieces : List JsString} (h : readAll read pieces = some numbers) :
    ∀ piece ∈ pieces, ∃ number, read piece = some number := by
  induction pieces generalizing numbers with
  | nil => exact fun piece hpiece => (List.not_mem_nil hpiece).elim
  | cons piece rest ih =>
    obtain ⟨number, others, _, hnumber, hothers⟩ := readAll_cons h
    intro other hother
    rcases List.mem_cons.mp hother with rfl | hother
    · exact ⟨number, hnumber⟩
    · exact ih hothers other hother

-- A reading without two spellings of one number gives the pieces back.
theorem readAll_inj
    (hread : ∀ first second number, read first = some number → read second = some number → first = second)
    {firsts seconds : List JsString} (hfirsts : readAll read firsts = some numbers)
    (hseconds : readAll read seconds = some numbers) : firsts = seconds := by
  induction firsts generalizing seconds numbers with
  | nil =>
    have hlength := length_readAll hseconds
    cases hfirsts
    exact (List.length_eq_zero_iff.mp hlength.symm).symm
  | cons piece rest ih =>
    obtain ⟨number, others, rfl, hnumber, hothers⟩ := readAll_cons hfirsts
    have hlength := length_readAll hseconds
    obtain ⟨second, later, rfl⟩ := List.exists_cons_of_length_eq_add_one hlength.symm
    obtain ⟨number', others', heq, hnumber', hothers'⟩ := readAll_cons hseconds
    obtain ⟨rfl, rfl⟩ := List.cons.inj heq
    rw [hread _ _ _ hnumber hnumber', ih hothers hothers']

-- The units of a text are those of its pieces and the separator.
theorem forall_of_splitOn {P : UInt16 → Prop} {separator : UInt16} {text : JsString}
    (hseparator : P separator) (h : ∀ piece ∈ text.splitOn separator, ∀ unit ∈ piece, P unit) :
    ∀ unit ∈ text, P unit := by
  intro unit hunit
  have htext : [separator].intercalate (text.splitOn separator) = text :=
    List.intercalate_splitOn separator
  rw [← htext] at hunit
  rcases Text.mem_intercalate hunit with hmem | ⟨piece, hpiece, hmem⟩
  · rw [List.mem_singleton.mp hmem]
    exact hseparator
  · exact h piece hpiece unit hmem

end Pieces

section Octets

theorem digitsValue_one (unit : UInt16) : digitsValue [unit] = unit.toNat - 48 := by
  simp [digitsValue]

theorem digitsValue_two (tens unit : UInt16) :
    digitsValue [tens, unit] = 10 * (tens.toNat - 48) + (unit.toNat - 48) := by
  simp [digitsValue]

theorem digitsValue_three (hundreds tens unit : UInt16) :
    digitsValue [hundreds, tens, unit] =
      10 * (10 * (hundreds.toNat - 48) + (tens.toNat - 48)) + (unit.toNat - 48) := by
  simp [digitsValue]

-- The three forms of an octet.
theorem readOctet_cases {text : JsString} {octet : Nat} (h : readOctet text = some octet) :
    (∃ unit : UInt16, text = [unit] ∧ (48 ≤ unit.toNat ∧ unit.toNat ≤ 57) ∧
        octet = unit.toNat - 48) ∨
      (∃ tens unit : UInt16, text = [tens, unit] ∧ (49 ≤ tens.toNat ∧ tens.toNat ≤ 57) ∧
        (48 ≤ unit.toNat ∧ unit.toNat ≤ 57) ∧
        octet = 10 * (tens.toNat - 48) + (unit.toNat - 48)) ∨
      ∃ hundreds tens unit : UInt16, text = [hundreds, tens, unit] ∧
        (49 ≤ hundreds.toNat ∧ hundreds.toNat ≤ 57) ∧ (48 ≤ tens.toNat ∧ tens.toNat ≤ 57) ∧
        (48 ≤ unit.toNat ∧ unit.toNat ≤ 57) ∧
        octet = 10 * (10 * (hundreds.toNat - 48) + (tens.toNat - 48)) + (unit.toNat - 48) ∧
        octet ≤ 255 := by
  have hfirst : ∀ unit : UInt16, isDigit unit = true → unit ≠ 48 →
      49 ≤ unit.toNat ∧ unit.toNat ≤ 57 := by
    intro unit hdigit hzero
    have hrange := isDigit_iff.mp hdigit
    have hne : unit.toNat ≠ 48 := fun heq => hzero (UInt16.toNat_inj.mp heq)
    omega
  rcases text with _ | ⟨first, _ | ⟨second, _ | ⟨third, _ | ⟨fourth, rest⟩⟩⟩⟩
  · cases h
  · rw [readOctet] at h
    split at h
    · rename_i hdigit
      cases h
      exact .inl ⟨first, rfl, isDigit_iff.mp hdigit, digitsValue_one first⟩
    · cases h
  · rw [readOctet] at h
    split at h
    · rename_i hdigits
      obtain ⟨htens, hunit, hzero⟩ := hdigits
      cases h
      exact .inr (.inl ⟨first, second, rfl, hfirst first htens hzero, isDigit_iff.mp hunit,
        digitsValue_two first second⟩)
    · cases h
  · rw [readOctet] at h
    split at h
    · rename_i hdigits
      obtain ⟨hhundreds, htens, hunit, hzero, hvalue⟩ := hdigits
      cases h
      exact .inr (.inr ⟨first, second, third, rfl, hfirst first hhundreds hzero,
        isDigit_iff.mp htens, isDigit_iff.mp hunit, digitsValue_three first second third, hvalue⟩)
    · cases h
  · cases h

theorem readOctet_inj (first second : JsString) (octet : Nat)
    (hfirst : readOctet first = some octet) (hsecond : readOctet second = some octet) :
    first = second := by
  rcases readOctet_cases hfirst with ⟨a, rfl, ha, hoctet⟩ | ⟨a, b, rfl, ha, hb, hoctet⟩ |
      ⟨a, b, c, rfl, ha, hb, hc, hoctet, _⟩ <;>
    rcases readOctet_cases hsecond with ⟨a', rfl, ha', hoctet'⟩ | ⟨a', b', rfl, ha', hb', hoctet'⟩ |
      ⟨a', b', c', rfl, ha', hb', hc', hoctet', _⟩ <;>
    simp only [List.cons.injEq, and_true, ← UInt16.toNat_inj, reduceCtorEq, and_false] <;>
    omega

theorem readOctet_le {text : JsString} {octet : Nat} (h : readOctet text = some octet) :
    octet ≤ 255 := by
  rcases readOctet_cases h with ⟨a, _, ha, hoctet⟩ | ⟨a, b, _, ha, hb, hoctet⟩ |
    ⟨_, _, _, _, _, _, _, _, hoctet⟩ <;> omega

-- An octet is a text of digits, read as their number.
theorem readOctet_digits {text : JsString} {octet : Nat} (h : readOctet text = some octet) :
    text ≠ [] ∧ (∀ unit ∈ text, isDigit unit = true) ∧ digitsValue text = octet := by
  rcases readOctet_cases h with ⟨a, rfl, ha, hoctet⟩ | ⟨a, b, rfl, ha, hb, hoctet⟩ |
    ⟨a, b, c, rfl, ha, hb, hc, hoctet, _⟩
  · rw [digitsValue_one]
    simp only [List.mem_singleton, forall_eq, isDigit_iff]
    exact ⟨by simp, ha, hoctet.symm⟩
  · rw [digitsValue_two]
    simp only [List.mem_cons, List.not_mem_nil, or_false, forall_eq_or_imp, forall_eq, isDigit_iff]
    exact ⟨by simp, ⟨⟨by omega, ha.2⟩, hb⟩, hoctet.symm⟩
  · rw [digitsValue_three]
    simp only [List.mem_cons, List.not_mem_nil, or_false, forall_eq_or_imp, forall_eq, isDigit_iff]
    exact ⟨by simp, ⟨⟨by omega, ha.2⟩, hb, hc⟩, hoctet.symm⟩

end Octets

section Ipv4

variable {text : JsString} {address : Ipv4}

theorem readIpv4_eq_some_iff :
    readIpv4 text = some address ↔ readAll readOctet (text.splitOn 46) = some address.digits := by
  unfold readIpv4
  rw [Option.bind_eq_some_iff]
  constructor
  · rintro ⟨octets, hoctets, hword⟩
    rw [Word.ofDigits_eq_some_iff.mp hword]
    exact hoctets
  · exact fun h => ⟨_, h, Word.ofDigits_eq_some_iff.mpr rfl⟩

theorem length_octets (h : readIpv4 text = some address) : (text.splitOn 46).length = 4 := by
  rw [← length_readAll (readIpv4_eq_some_iff.mp h), address.length]

-- An IPv4 address has one spelling.
theorem readIpv4_inj {first second : JsString} (hfirst : readIpv4 first = some address)
    (hsecond : readIpv4 second = some address) : first = second := by
  have hpieces := readAll_inj readOctet_inj (readIpv4_eq_some_iff.mp hfirst)
    (readIpv4_eq_some_iff.mp hsecond)
  have htext : [46].intercalate (first.splitOn 46) = first := List.intercalate_splitOn 46
  rw [← htext, hpieces, List.intercalate_splitOn]

theorem units_of_readIpv4 (h : readIpv4 text = some address) :
    ∀ unit ∈ text, isDigit unit = true ∨ unit = 46 := by
  refine @forall_of_splitOn (fun unit => isDigit unit = true ∨ unit = 46) 46 text (.inr rfl) ?_
  intro piece hpiece unit hunit
  obtain ⟨octet, hoctet⟩ := exists_read_of_readAll (readIpv4_eq_some_iff.mp h) piece hpiece
  exact .inl ((readOctet_digits hoctet).2.1 unit hunit)

theorem dot_mem_of_readIpv4 (h : readIpv4 text = some address) : 46 ∈ text := by
  by_contra hdot
  have hlength := length_octets h
  rw [List.splitOn_eq_singleton hdot] at hlength
  cases hlength

end Ipv4

section Ipv6

variable {unit : UInt16}

theorem isHexDigit_iff :
    isHexDigit unit = true ↔ (48 ≤ unit.toNat ∧ unit.toNat ≤ 57) ∨
      (97 ≤ unit.toNat ∧ unit.toNat ≤ 102) ∨ (65 ≤ unit.toNat ∧ unit.toNat ≤ 70) := by
  unfold isHexDigit Json.hexValue
  simp only [UInt16.le_iff_toNat_le]
  split
  · rename_i h
    exact iff_of_true rfl (.inl h)
  · split
    · rename_i h
      exact iff_of_true rfl (.inr (.inl h))
    · split
      · rename_i h
        exact iff_of_true rfl (.inr (.inr h))
      · rename_i hdigit hlower hupper
        refine iff_of_false (fun h => by cases h) fun h => ?_
        rcases h with h | h | h
        · exact hdigit h
        · exact hlower h
        · exact hupper h

theorem isZoneUnit_iff :
    isZoneUnit unit = true ↔ (48 ≤ unit.toNat ∧ unit.toNat ≤ 57) ∨
      (97 ≤ unit.toNat ∧ unit.toNat ≤ 122) ∨ (65 ≤ unit.toNat ∧ unit.toNat ≤ 90) ∨
      unit.toNat = 45 ∨ unit.toNat = 46 ∨ unit.toNat = 58 := by
  simp only [isZoneUnit, Bool.or_eq_true, Bool.and_eq_true, decide_eq_true_eq, isDigit_iff,
    UInt16.le_iff_toNat_le, List.mem_cons, List.not_mem_nil, or_false, ← UInt16.toNat_inj,
    or_assoc]
  exact Iff.rfl

theorem isZoneUnit_of_isHexDigit (h : isHexDigit unit = true) : isZoneUnit unit = true := by
  rw [isHexDigit_iff] at h
  rw [isZoneUnit_iff]
  omega

theorem isZoneUnit_of_octets (h : isDigit unit = true ∨ unit = 46) : isZoneUnit unit = true := by
  rw [isZoneUnit_iff]
  rcases h with h | rfl
  · exact .inl (isDigit_iff.mp h)
  · decide

theorem readGroup_eq_some_iff {text : JsString} {group : Nat} :
    readGroup text = some group ↔ (text ≠ [] ∧ text.length ≤ 4 ∧
      ∀ unit ∈ text, isHexDigit unit = true) ∧ hexDigitsValue text = group := by
  unfold readGroup
  split
  · rename_i h
    rw [and_iff_right h, Option.some.injEq]
  · rename_i h
    exact iff_of_false (fun hgroup => by cases hgroup) fun hgroup => h hgroup.1

variable {groups : List Nat}

-- Every piece is a group, or a quad at the end.
theorem piece_of_readGroups {pieces : List JsString} (h : readGroups pieces = some groups) :
    ∀ piece ∈ pieces, (∃ group, readGroup piece = some group) ∨
      ∃ quad, readIpv4 piece = some quad := by
  induction pieces generalizing groups with
  | nil => exact fun piece hpiece => (List.not_mem_nil hpiece).elim
  | cons piece rest ih =>
    intro other hother
    cases rest with
    | nil =>
      rw [List.mem_singleton.mp hother]
      cases hgroup : readGroup piece with
      | some group => exact .inl ⟨group, rfl⟩
      | none =>
        rw [readGroups, hgroup] at h
        obtain ⟨quad, hquad, _⟩ := Option.map_eq_some_iff.mp h
        exact .inr ⟨quad, hquad⟩
    | cons next rest =>
      rw [readGroups] at h
      · cases hgroup : readGroup piece with
        | none =>
          rw [hgroup] at h
          cases h
        | some group =>
          cases hgroups : readGroups (next :: rest) with
          | none =>
            rw [hgroup, hgroups] at h
            cases h
          | some groups =>
            rcases List.mem_cons.mp hother with rfl | hother
            · exact .inl ⟨group, hgroup⟩
            · exact ih hgroups other hother
      · exact fun heq => by cases heq

theorem isZoneUnit_of_piece {piece : JsString}
    (h : (∃ group, readGroup piece = some group) ∨ ∃ quad, readIpv4 piece = some quad) :
    ∀ unit ∈ piece, isZoneUnit unit = true := by
  intro unit hunit
  rcases h with ⟨group, hgroup⟩ | ⟨quad, hquad⟩
  · exact isZoneUnit_of_isHexDigit ((readGroup_eq_some_iff.mp hgroup).1.2.2 unit hunit)
  · exact isZoneUnit_of_octets (units_of_readIpv4 hquad unit hunit)

theorem isZoneUnit_of_splitOn {text : JsString}
    (h : ∀ piece ∈ text.splitOn 58, ∀ unit ∈ piece, isZoneUnit unit = true) :
    ∀ unit ∈ text, isZoneUnit unit = true :=
  @forall_of_splitOn (fun unit => isZoneUnit unit = true) 58 text (by decide) h

theorem isZoneUnit_of_colonPieces {text : JsString}
    (h : ∀ piece ∈ colonPieces text, ∀ unit ∈ piece, isZoneUnit unit = true) :
    ∀ unit ∈ text, isZoneUnit unit = true := by
  unfold colonPieces at h
  split at h
  · rename_i hempty
    rw [hempty]
    exact fun unit hunit => (List.not_mem_nil hunit).elim
  · exact isZoneUnit_of_splitOn h

-- The groups of an address with `::`, and those of one without.
theorem readIpv6Groups_cases {text : JsString} (h : readIpv6Groups text = some groups) :
    (Text.cut [58, 58] text = none ∧ readGroups (text.splitOn 58) = some groups) ∨
      ∃ before after left right, Text.cut [58, 58] text = some (before, after) ∧
        readAll readGroup (colonPieces before) = some left ∧
        readGroups (colonPieces after) = some right ∧ left.length + right.length ≤ 7 ∧
        groups = left ++ List.replicate (8 - left.length - right.length) 0 ++ right := by
  unfold readIpv6Groups at h
  cases hcut : Text.cut [58, 58] text with
  | none =>
    rw [hcut] at h
    exact .inl ⟨rfl, h⟩
  | some sides =>
    obtain ⟨before, after⟩ := sides
    rw [hcut] at h
    dsimp only at h
    cases hleft : readAll readGroup (colonPieces before) with
    | none =>
      rw [hleft] at h
      cases h
    | some left =>
      cases hright : readGroups (colonPieces after) with
      | none =>
        rw [hleft, hright] at h
        cases h
      | some right =>
        rw [hleft, hright] at h
        dsimp only at h
        split at h
        · rename_i hlength
          exact .inr ⟨before, after, left, right, rfl, hleft, hright, hlength,
            (Option.some.inj h).symm⟩
        · cases h

theorem isZoneUnit_of_readIpv6Groups {text : JsString} (h : readIpv6Groups text = some groups) :
    ∀ unit ∈ text, isZoneUnit unit = true := by
  rcases readIpv6Groups_cases h with ⟨_, hgroups⟩ |
    ⟨before, after, left, right, hcut, hleft, hright, _, _⟩
  · exact isZoneUnit_of_splitOn fun piece hpiece =>
      isZoneUnit_of_piece (piece_of_readGroups hgroups piece hpiece)
  · have hbefore := isZoneUnit_of_colonPieces fun piece hpiece =>
      isZoneUnit_of_piece (.inl (exists_read_of_readAll hleft piece hpiece))
    have hafter := isZoneUnit_of_colonPieces fun piece hpiece =>
      isZoneUnit_of_piece (piece_of_readGroups hright piece hpiece)
    rw [Text.cut_eq_some hcut]
    intro unit hunit
    rcases List.mem_append.mp hunit with hunit | hunit
    · rcases List.mem_append.mp hunit with hunit | hunit
      · exact hbefore unit hunit
      · have hcolon : unit = 58 := by simpa using hunit
        rw [hcolon]
        decide
    · exact hafter unit hunit

theorem length_readGroups_le {pieces : List JsString} (h : readGroups pieces = some groups) :
    groups.length ≤ pieces.length + 1 := by
  induction pieces generalizing groups with
  | nil =>
    cases h
    exact Nat.zero_le _
  | cons piece rest ih =>
    cases rest with
    | nil =>
      rw [readGroups] at h
      split at h
      · cases h
        simp
      · obtain ⟨quad, _, rfl⟩ := Option.map_eq_some_iff.mp h
        simp
    | cons next rest =>
      rw [readGroups] at h
      · split at h
        · rename_i group groups _ hgroups
          cases h
          have hlength := ih hgroups
          simp only [List.length_cons] at hlength ⊢
          omega
        · cases h
      · exact fun heq => by cases heq

-- Eight groups do not fit between no colons.
theorem colon_mem_of_readIpv6Groups {text : JsString} (h : readIpv6Groups text = some groups)
    (hlength : groups.length = 8) : 58 ∈ text := by
  rcases readIpv6Groups_cases h with ⟨_, hgroups⟩ | ⟨before, after, _, _, hcut, _⟩
  · by_contra hcolon
    rw [List.splitOn_eq_singleton hcolon] at hgroups
    have hless := length_readGroups_le hgroups
    rw [List.length_singleton] at hless
    omega
  · rw [Text.cut_eq_some hcut]
    simp

-- The address is the text up to its zone.
theorem readIpv6_cases {text : JsString} {address : Ipv6} (h : readIpv6 text = some address) :
    (37 ∉ text ∧ readIpv6Groups text = some address.digits) ∨
      ∃ front zone, text = front ++ 37 :: zone ∧ zone ≠ [] ∧
        (∀ unit ∈ zone, isZoneUnit unit = true) ∧ readIpv6Groups front = some address.digits := by
  have hgroups : ∀ front : JsString, (readIpv6Groups front).bind Word.ofDigits = some address →
      readIpv6Groups front = some address.digits := by
    intro front hfront
    obtain ⟨groups, hgroups, hword⟩ := Option.bind_eq_some_iff.mp hfront
    rw [Word.ofDigits_eq_some_iff.mp hword]
    exact hgroups
  have hsplit : text.takeWhile (· ≠ 37) ++ text.dropWhile (· ≠ 37) = text :=
    List.takeWhile_append_dropWhile
  unfold readIpv6 at h
  cases hdrop : text.dropWhile (· ≠ 37) with
  | nil =>
    rw [hdrop] at h
    refine .inl ⟨fun hmem => ?_, hgroups text h⟩
    have hall := List.dropWhile_eq_nil_iff.mp hdrop 37 hmem
    simp at hall
  | cons percent zone =>
    rw [hdrop] at h
    dsimp only at h
    split at h
    · rename_i hzone
      have hpercent : percent = 37 := by
        have hhead := List.head?_dropWhile_not (fun unit : UInt16 => decide (unit ≠ 37)) text
        rw [hdrop] at hhead
        simpa using hhead
      rw [hdrop, hpercent] at hsplit
      exact .inr ⟨_, zone, hsplit.symm, hzone.1, hzone.2, hgroups _ h⟩
    · cases h

theorem units_of_readIpv6 {text : JsString} {address : Ipv6} (h : readIpv6 text = some address) :
    ∀ unit ∈ text, isZoneUnit unit = true ∨ unit = 37 := by
  rcases readIpv6_cases h with ⟨_, hgroups⟩ | ⟨front, zone, rfl, _, hzone, hgroups⟩
  · exact fun unit hunit => .inl (isZoneUnit_of_readIpv6Groups hgroups unit hunit)
  · intro unit hunit
    rcases List.mem_append.mp hunit with hunit | hunit
    · exact .inl (isZoneUnit_of_readIpv6Groups hgroups unit hunit)
    · rcases List.mem_cons.mp hunit with hunit | hunit
      · exact .inr hunit
      · exact .inl (hzone unit hunit)

theorem colon_mem_of_readIpv6 {text : JsString} {address : Ipv6}
    (h : readIpv6 text = some address) : 58 ∈ text := by
  rcases readIpv6_cases h with ⟨_, hgroups⟩ | ⟨front, zone, rfl, _, _, hgroups⟩
  · exact colon_mem_of_readIpv6Groups hgroups address.length
  · exact List.mem_append_left _ (colon_mem_of_readIpv6Groups hgroups address.length)

end Ipv6

section Addresses

variable {text : JsString}

theorem readAddress_v4_iff {address : Ipv4} :
    readAddress text = some (.v4 address) ↔ readIpv4 text = some address := by
  unfold readAddress
  cases readIpv4 text with
  | some other => simp
  | none => simp

theorem readAddress_v6 {address : Ipv6} (h : readAddress text = some (.v6 address)) :
    readIpv6 text = some address := by
  unfold readAddress at h
  cases hv4 : readIpv4 text with
  | some other =>
    rw [hv4] at h
    cases h
  | none =>
    rw [hv4] at h
    simpa using h

-- No address has the units that separate a prefix length or stand for any octet.
theorem not_mem_of_readAddress {address : Address} (h : readAddress text = some address) :
    47 ∉ text ∧ 42 ∉ text := by
  have hunits : ∀ unit ∈ text, isZoneUnit unit = true ∨ unit = 37 := by
    cases address with
    | v4 address =>
      intro unit hunit
      exact .inl (isZoneUnit_of_octets (units_of_readIpv4 (readAddress_v4_iff.mp h) unit hunit))
    | v6 address => exact units_of_readIpv6 (readAddress_v6 h)
  refine ⟨fun hmem => ?_, fun hmem => ?_⟩
  · exact absurd (hunits 47 hmem) (by decide)
  · exact absurd (hunits 42 hmem) (by decide)

theorem colon_not_mem_of_readIpv4 {address : Ipv4} (h : readIpv4 text = some address) :
    58 ∉ text := by
  intro hmem
  exact absurd (units_of_readIpv4 h 58 hmem) (by decide)

end Addresses

end WebSsh2.Ssh

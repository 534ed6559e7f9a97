import WebSsh2.Ssh.Ipv6Reading

namespace WebSsh2.Ssh

open WebSsh2.Library WebSsh2.Library.Prefixes

def Address.family : Address → Nat
  | .v4 _ => 4
  | .v6 _ => 6

def Address.width : Address → Nat
  | .v4 _ => 32
  | .v6 _ => 128

-- Addresses of one family whose first bits agree.
def Address.SamePrefix (bits : Nat) : Address → Address → Prop
  | .v4 first, .v4 second => Prefixes.SamePrefix 32 bits first.value second.value
  | .v6 first, .v6 second => Prefixes.SamePrefix 128 bits first.value second.value
  | .v4 _, .v6 _ => False
  | .v6 _, .v4 _ => False

-- The well-formed entries of `allowedSubnets`: an address, a base with a prefix
-- length, and four octets or stars.
inductive SubnetEntry where
  | exact (text : JsString) (address : Address) (hread : readAddress text = some address)
  | cidr (base : JsString) (address : Address) (digits : JsString)
      (hread : readAddress base = some address) (hdigits : PrefixDigits address.width digits)
  | wildcard (text : JsString) (hlength : (text.splitOn 46).length = 4)
      (hoctets : ∀ octet ∈ text.splitOn 46, octet = [42] ∨ ∃ value, readOctet octet = some value)
      (hstar : [42] ∈ text.splitOn 46)

namespace SubnetEntry

def text : SubnetEntry → JsString
  | .exact text _ _ => text
  | .cidr base _ digits _ _ => base ++ 47 :: digits
  | .wildcard text _ _ _ => text

-- What an entry is there for.
def Covers (address : Address) : SubnetEntry → Prop
  | .exact _ other _ => address = other
  | .cidr _ base digits _ _ => address.SamePrefix (digitsValue digits) base
  | .wildcard text _ _ _ => ∃ value, address = .v4 value ∧
      ∀ pair ∈ (text.splitOn 46).zip value.digits, octetCovers pair.1 pair.2

section Reading

variable (ip : JsString)

-- What is taken for the groups of the two texts agrees in the first bits.
def SameAsTaken (bits : Nat) (base : JsString) : Prop :=
  SamePrefixes 16 bits (groupsTaken ip) (groupsTaken base)

-- The address is covered and not let in: another spelling of an IPv6 address, `/0` of
-- IPv4, and a quad or a zone that is misread.
def Missed (address : Address) : SubnetEntry → Prop
  | .exact text other _ => address.family = 6 ∧ address = other ∧ text ≠ ip
  | .cidr base other digits _ _ =>
    (address.family = 4 ∧ other.family = 4 ∧ digitsValue digits = 0 ∧ address ≠ other) ∨
      (address.family = 6 ∧ (Embeds ip ∨ Embeds base) ∧
        address.SamePrefix (digitsValue digits) other ∧
        ¬ SameAsTaken ip (digitsValue digits) base)
  | .wildcard _ _ _ _ => False

-- The address is let in and not covered: an IPv6 base with a point that is taken for one
-- of IPv4, and a quad or a zone that is misread.
def Overreaches (address : Address) : SubnetEntry → Prop
  | .exact _ _ _ => False
  | .cidr base other digits _ _ =>
    (address.family = 4 ∧ other.family = 6 ∧ 46 ∈ base ∧ digitsValue digits ≤ 32 ∧
        Prefixes.SamePrefix 32 (ipv4BitsCompared (digitsValue digits)) (ipv4Taken ip)
          (ipv4Taken base)) ∨
      (address.family = 6 ∧ other.family = 6 ∧ (Embeds ip ∨ Embeds base) ∧
        SameAsTaken ip (digitsValue digits) base ∧
        ¬ address.SamePrefix (digitsValue digits) other)
  | .wildcard _ _ _ _ => False

def Admits (address : Address) (entry : SubnetEntry) : Prop :=
  (entry.Covers address ∧ ¬ Missed ip address entry) ∨
    Overreaches ip address entry

-- Where an entry misses the address another one lets it in, and where an entry
-- overreaches another one covers it.
def MadeGood (address : Address) (entries : List SubnetEntry) : Prop :=
  (∀ entry ∈ entries, Missed ip address entry →
      ∃ other ∈ entries, Admits ip address other) ∧
    ∀ entry ∈ entries, Overreaches ip address entry →
      ∃ other ∈ entries, other.Covers address

end Reading

end SubnetEntry

section Entries

variable {runtime : Runtime} {ip : JsString} {address : Address}

variable {other : Address} {text : JsString}

theorem matchesSubnet_exact (hread : readAddress text = some other) :
    matchesSubnet runtime ip text = true ↔ text = ip := by
  obtain ⟨hslash, hstar⟩ := not_mem_of_readAddress hread
  simp [matchesSubnet, matchesExactIp, matchesCidrSubnet, matchesIpv4Wildcard, hslash, hstar]

variable {base digits : JsString}

theorem matchesSubnet_cidr (hip : readAddress ip = some address)
    (hread : readAddress base = some other) (hdigits : PrefixDigits other.width digits) :
    matchesSubnet runtime ip (base ++ 47 :: digits) =
      matchesCidrSubnet runtime ip (base ++ 47 :: digits) (decide (isIP ip = 4))
        (decide (isIP ip = 6)) := by
  have hother : base ++ 47 :: digits ≠ ip := by
    rintro rfl
    exact (not_mem_of_readAddress hip).1 (List.mem_append_right _ List.mem_cons_self)
  have hstar : 42 ∉ base ++ 47 :: digits := by
    intro hmem
    rcases List.mem_append.mp hmem with hmem | hmem
    · exact (not_mem_of_readAddress hread).2 hmem
    · rcases List.mem_cons.mp hmem with heq | hmem
      · cases heq
      · exact absurd (hdigits.digit 42 hmem) (by decide)
  simp [matchesSubnet, matchesExactIp, matchesIpv4Wildcard, hother, hstar]

theorem mem_cidr_iff {mark : UInt16} (hmark : isDigit mark = false) (hslash : mark ≠ 47)
    (hdigits : ∀ unit ∈ digits, isDigit unit = true) :
    mark ∈ base ++ 47 :: digits ↔ mark ∈ base := by
  rw [List.mem_append, List.mem_cons]
  refine or_iff_left fun h => ?_
  rcases h with h | h
  · exact hslash h
  · rw [hdigits mark h] at hmark
    cases hmark

theorem matchesSubnet_wildcard (hip : readAddress ip = some address)
    (hoctets : ∀ octet ∈ text.splitOn 46, octet = [42] ∨ ∃ value, readOctet octet = some value)
    (hstar : [42] ∈ text.splitOn 46) :
    matchesSubnet runtime ip text = (decide (isIP ip = 4) && matchesIpv4Wildcard ip text) := by
  have hmem : 42 ∈ text := (Text.mem_splitOn 46 text [42] hstar).2 42 List.mem_cons_self
  have hother : text ≠ ip := by
    rintro rfl
    exact (not_mem_of_readAddress hip).2 hmem
  have hslash : 47 ∉ text := by
    intro hslash
    have hunits := @forall_of_splitOn (fun unit => unit ≠ 47) 46 text (by decide) (by
      intro octet hoctet unit hunit
      rcases hoctets octet hoctet with rfl | ⟨value, hvalue⟩
      · rw [List.mem_singleton.mp hunit]
        decide
      · rintro rfl
        exact absurd ((readOctet_digits hvalue).2.1 47 hunit) (by decide))
    exact hunits 47 hslash rfl
  simp [matchesSubnet, matchesExactIp, matchesCidrSubnet, hother, hslash]

theorem isIP_eq (h : readAddress ip = some address) : isIP ip = address.family := by
  unfold isIP
  rw [h]
  cases address <;> rfl

-- An IPv4 address goes to the comparison of IPv4 where the entry has a point.
theorem matchesSubnet_v4_iff (hip : readAddress ip = some address) (hfamily : address.family = 4)
    (hread : readAddress base = some other) (hdigits : PrefixDigits other.width digits) :
    matchesSubnet runtime ip (base ++ 47 :: digits) = true ↔
      46 ∈ base ∧ digitsValue digits ≤ 32 ∧
        Prefixes.SamePrefix 32 (ipv4BitsCompared (digitsValue digits)) (ipv4Taken ip)
          (ipv4Taken base) := by
  have hslash : 47 ∈ base ++ 47 :: digits := List.mem_append_right _ List.mem_cons_self
  have hcidr := @isIpv4InCidr_iff ip base digits (not_mem_of_readAddress hread).1 hdigits.nonempty
    hdigits.digit
  rw [matchesSubnet_cidr hip hread hdigits, isIP_eq hip, hfamily]
  unfold matchesCidrSubnet
  rw [if_neg (not_not.mpr hslash)]
  simp only [decide_true, Bool.true_and, decide_eq_true_iff,
    mem_cidr_iff (by decide : isDigit 46 = false) (by decide) hdigits.digit]
  by_cases hdot : 46 ∈ base
  · rw [if_pos hdot, and_iff_right hdot]
    exact hcidr
  · simp [hdot]

theorem matchesSubnet_v6_iff (hip : readAddress ip = some address) (hfamily : address.family = 6)
    (hread : readAddress base = some other) (hdigits : PrefixDigits other.width digits) :
    matchesSubnet runtime ip (base ++ 47 :: digits) = true ↔
      58 ∈ base ∧ isIpv6InCidr runtime ip (base ++ 47 :: digits) = true := by
  have hslash : 47 ∈ base ++ 47 :: digits := List.mem_append_right _ List.mem_cons_self
  rw [matchesSubnet_cidr hip hread hdigits, isIP_eq hip, hfamily]
  unfold matchesCidrSubnet
  rw [if_neg (not_not.mpr hslash)]
  simp only [decide_true, Bool.true_and, decide_eq_true_iff,
    mem_cidr_iff (by decide : isDigit 58 = false) (by decide) hdigits.digit]
  by_cases hcolon : 58 ∈ base <;> simp [hcolon]

-- The groups of two plain texts are compared as they are.
theorem sameAsTaken_iff_of_plain {base : JsString} {value other : Ipv6}
    (hip : readIpv6 ip = some value) (hbase : readIpv6 base = some other)
    (hplain : ¬ (Embeds ip ∨ Embeds base)) (bits : Nat) :
    SubnetEntry.SameAsTaken ip bits base ↔
      Prefixes.SamePrefix 128 bits value.value other.value := by
  obtain ⟨hplainIp, hplainBase⟩ := not_or.mp hplain
  unfold SubnetEntry.SameAsTaken
  rw [groupsTaken_of_plain hip hplainIp, groupsTaken_of_plain hbase hplainBase]
  exact (Word.samePrefix_iff (by decide) bits value other).symm

open SubnetEntry

theorem matchesSubnet_exact_iff (hip : readAddress ip = some address)
    (hread : readAddress text = some other) :
    matchesSubnet runtime ip text = true ↔ Admits ip address (.exact text other hread) := by
  rw [matchesSubnet_exact hread]
  simp only [Admits, Overreaches, Missed, Covers, or_false]
  constructor
  · rintro rfl
    rw [hip] at hread
    exact ⟨Option.some.inj hread, fun h => h.2.2 rfl⟩
  · rintro ⟨rfl, hnot⟩
    cases address with
    | v4 value => exact readIpv4_inj (readAddress_v4_iff.mp hread) (readAddress_v4_iff.mp hip)
    | v6 value =>
      by_contra hne
      exact hnot ⟨rfl, rfl, hne⟩

theorem matchesSubnet_wildcard_iff (hip : readAddress ip = some address)
    (hlength : (text.splitOn 46).length = 4)
    (hoctets : ∀ octet ∈ text.splitOn 46, octet = [42] ∨ ∃ value, readOctet octet = some value)
    (hstar : [42] ∈ text.splitOn 46) :
    matchesSubnet runtime ip text = true ↔
      Admits ip address (.wildcard text hlength hoctets hstar) := by
  rw [matchesSubnet_wildcard hip hoctets hstar, isIP_eq hip]
  simp only [Admits, Overreaches, Missed, Covers, or_false, not_false_eq_true, and_true]
  cases address with
  | v4 value =>
    have hwildcard := matchesIpv4Wildcard_iff (readAddress_v4_iff.mp hip) hlength hoctets hstar
    simp only [Address.family, decide_true, Bool.true_and, hwildcard, Address.v4.injEq,
      exists_eq_left']
  | v6 value => simp [Address.family]

theorem samePrefix_bitsCompared_iff (first second : Ipv4) (bits : Nat) :
    Prefixes.SamePrefix 32 (ipv4BitsCompared bits) first.value second.value ↔
      Prefixes.SamePrefix 32 bits first.value second.value ∧ ¬ (bits = 0 ∧ first ≠ second) := by
  unfold ipv4BitsCompared
  by_cases hbits : bits = 0
  · have hzero : Prefixes.SamePrefix 32 0 first.value second.value :=
      samePrefix_zero (first.value_lt (by decide)) (second.value_lt (by decide))
    rw [if_pos hbits, samePrefix_full (Nat.le_refl 32), Word.value_inj (by decide), hbits,
      and_iff_right hzero, eq_self, true_and, not_not]
  · rw [if_neg hbits, and_iff_left fun h => hbits h.1]

theorem matchesSubnet_cidr_iff (hruntime : LowersAscii runtime)
    (hip : readAddress ip = some address) (hread : readAddress base = some other)
    (hdigits : PrefixDigits other.width digits) :
    matchesSubnet runtime ip (base ++ 47 :: digits) = true ↔
      Admits ip address (.cidr base other digits hread hdigits) := by
  cases address with
  | v4 value =>
    rw [matchesSubnet_v4_iff hip rfl hread hdigits]
    cases other with
    | v4 net =>
      have hnet := readAddress_v4_iff.mp hread
      have hbits : digitsValue digits ≤ 32 := hdigits.bounded
      rw [and_iff_right (dot_mem_of_readIpv4 hnet), and_iff_right hbits,
        ipv4Taken_readIpv4 (readAddress_v4_iff.mp hip), ipv4Taken_readIpv4 hnet,
        samePrefix_bitsCompared_iff]
      simp [Admits, Overreaches, Missed, Covers, Address.family, Address.SamePrefix]
    | v6 net =>
      simp [Admits, Overreaches, Missed, Covers, Address.family, Address.SamePrefix]
  | v6 value =>
    rw [matchesSubnet_v6_iff hip rfl hread hdigits]
    cases other with
    | v4 net =>
      simp [Admits, Overreaches, Missed, Covers, Address.family, Address.SamePrefix,
        colon_not_mem_of_readIpv4 (readAddress_v4_iff.mp hread)]
    | v6 net =>
      have hnet := readAddress_v6 hread
      have hread' : isIpv6InCidr runtime ip (base ++ 47 :: digits) = true ↔
          SameAsTaken ip (digitsValue digits) base := by
        unfold SameAsTaken
        rw [← groupsAsRead_eq hruntime (readAddress_v6 hip), ← groupsAsRead_eq hruntime hnet]
        exact isIpv6InCidr_iff runtime (not_mem_of_readAddress hread).1 hdigits.nonempty
          hdigits.digit hdigits.bounded
      rw [and_iff_right (colon_mem_of_readIpv6 hnet), hread']
      simp only [Admits, Overreaches, Missed, Covers, Address.family, Address.SamePrefix]
      by_cases hplain : Embeds ip ∨ Embeds base
      · by_cases hsame : Prefixes.SamePrefix 128 (digitsValue digits) value.value net.value
        · simp [hplain, hsame]
        · simp [hplain, hsame]
      · rw [sameAsTaken_iff_of_plain (readAddress_v6 hip) hnet hplain]
        simp [hplain]

theorem matchesSubnet_iff (hruntime : LowersAscii runtime) (hip : readAddress ip = some address)
    (entry : SubnetEntry) :
    matchesSubnet runtime ip entry.text = true ↔ Admits ip address entry := by
  cases entry with
  | exact text other hread => exact matchesSubnet_exact_iff hip hread
  | cidr base other digits hread hdigits => exact matchesSubnet_cidr_iff hruntime hip hread hdigits
  | wildcard text hlength hoctets hstar =>
    exact matchesSubnet_wildcard_iff hip hlength hoctets hstar

theorem covers_of_missed {entry : SubnetEntry} (h : Missed ip address entry) :
    entry.Covers address := by
  cases entry with
  | exact text other hread => exact h.2.1
  | wildcard text hlength hoctets hstar => exact h.elim
  | cidr base other digits hread hdigits =>
    rcases h with ⟨hfamily, hother, hbits, _⟩ | ⟨_, _, hsame, _⟩
    · cases address with
      | v6 value => cases hfamily
      | v4 value =>
        cases other with
        | v6 net => cases hother
        | v4 net =>
          have hleads :
              Prefixes.SamePrefix 32 (digitsValue digits) value.value net.value := by
            rw [hbits]
            exact samePrefix_zero (value.value_lt (by decide)) (net.value_lt (by decide))
          exact hleads
    · exact hsame

theorem isIpInSubnets_iff_admits (hruntime : LowersAscii runtime)
    (hip : readAddress ip = some address) {entries : List SubnetEntry} (hentries : entries ≠ []) :
    isIpInSubnets runtime ip (entries.map (·.text)) = true ↔
      ∃ entry ∈ entries, Admits ip address entry := by
  have hlength : ¬ (entries.map (·.text)).length = 0 := by
    rwa [List.length_map, List.length_eq_zero_iff]
  unfold isIpInSubnets
  rw [if_neg hlength, List.any_map, List.any_eq_true]
  simp only [Function.comp_apply, matchesSubnet_iff hruntime hip]

end Entries

open SubnetEntry

-- Matching is covering exactly where what one entry gets wrong another one makes good.
theorem isIpInSubnets_iff_covers_iff (runtime : Runtime) (hruntime : LowersAscii runtime)
    (ip : JsString) (address : Address) (hip : readAddress ip = some address)
    (entries : List SubnetEntry) (hentries : entries ≠ []) :
    (isIpInSubnets runtime ip (entries.map (·.text)) = true ↔
        ∃ entry ∈ entries, entry.Covers address) ↔
      MadeGood ip address entries := by
  rw [isIpInSubnets_iff_admits hruntime hip hentries]
  constructor
  · intro h
    refine ⟨fun entry hentry hmissed => ?_, fun entry hentry hoverreaches => ?_⟩
    · exact h.mpr ⟨entry, hentry, covers_of_missed hmissed⟩
    · exact h.mp ⟨entry, hentry, .inr hoverreaches⟩
  · rintro ⟨hmissed, hoverreaches⟩
    constructor
    · rintro ⟨entry, hentry, ⟨hcovers, _⟩ | hover⟩
      · exact ⟨entry, hentry, hcovers⟩
      · exact hoverreaches entry hentry hover
    · rintro ⟨entry, hentry, hcovers⟩
      by_cases hmiss : Missed ip address entry
      · exact hmissed entry hentry hmiss
      · exact ⟨entry, hentry, .inl ⟨hcovers, hmiss⟩⟩

def ten (second third fourth : Nat) (h : ∀ octet ∈ [10, second, third, fourth], octet < 2 ^ 8) :
    Address :=
  .v4 ⟨[10, second, third, fourth], rfl, h⟩

def netEight : SubnetEntry :=
  .cidr (js "10.0.0.0") (ten 0 0 0 (by decide)) (js "8") (by decide)
    ⟨by decide, by decide, by decide⟩

theorem host_in_net_eight :
    isIpInSubnets asciiRuntime (js "10.1.2.3") [js "10.0.0.0/8"] = true ↔
      ∃ entry ∈ [netEight], entry.Covers (ten 1 2 3 (by decide)) := by
  have htext : [js "10.0.0.0/8"] = [netEight].map (·.text) := by decide
  rw [htext]
  refine (isIpInSubnets_iff_covers_iff asciiRuntime lowersAscii_asciiRuntime (js "10.1.2.3")
    (ten 1 2 3 (by decide)) (by decide) [netEight] (by simp)).mpr ⟨?_, ?_⟩
  · intro entry hentry hmissed
    obtain rfl := List.mem_singleton.mp hentry
    rcases hmissed with ⟨_, _, hbits, _⟩ | ⟨hfamily, _⟩
    · have height : digitsValue (js "8") = 8 := by decide
      rw [height] at hbits
      cases hbits
    · cases hfamily
  · intro entry hentry hover
    obtain rfl := List.mem_singleton.mp hentry
    rcases hover with ⟨_, hfamily, _⟩ | ⟨hfamily, _⟩ <;> cases hfamily

def netZero : SubnetEntry :=
  .cidr (js "10.0.0.0") (ten 0 0 0 (by decide)) (js "0") (by decide)
    ⟨by decide, by decide, by decide⟩

-- A prefix of no bits covers every IPv4 address, and lets one in.
theorem zero_prefix_covers_one :
    ¬ ∀ (runtime : Runtime), LowersAscii runtime → ∀ (ip : JsString) (address : Address),
      readAddress ip = some address → ∀ entries : List SubnetEntry, entries ≠ [] →
        (isIpInSubnets runtime ip (entries.map (·.text)) = true ↔
          ∃ entry ∈ entries, entry.Covers address) := by
  intro h
  have hiff := h asciiRuntime lowersAscii_asciiRuntime (js "10.1.2.3") (ten 1 2 3 (by decide))
    (by decide) [netZero] (by simp)
  have hout : isIpInSubnets asciiRuntime (js "10.1.2.3") ([netZero].map (·.text)) = false := by
    decide
  have hcovers : Prefixes.SamePrefix 32 0 (value 8 [10, 1, 2, 3]) (value 8 [10, 0, 0, 0]) := by
    decide
  rw [hiff.mpr ⟨netZero, List.mem_singleton.mpr rfl, hcovers⟩] at hout
  cases hout

-- Another spelling of an entry, and a quad that is read as one group.
example : isIpInSubnets asciiRuntime (js "::1") [js "0:0:0:0:0:0:0:1"] = false := by
  decide

example : isIpInSubnets asciiRuntime (js "::ffff:10.0.0.1") [js "::ffff:0:0/96"] = false := by
  decide +kernel

end WebSsh2.Ssh

namespace WebSsh2.Ssh

open WebSsh2.Library

inductive ConnectService where
  | ssh
  | telnet

section Services

variable (runtime : Runtime) (lookup : Lookup)

namespace SSHServiceImpl

def validateConnectionAgainstSubnets (allowedSubnets : Option (List JsString)) (host : JsString) :
    Except JsString Unit :=
  match allowedSubnets with
  | none | some [] => .ok ()
  | some allowedSubnets =>
    match validateConnectionWithDns runtime lookup host (some allowedSubnets) with
    | .ok true => .ok ()
    | .ok false => .error (js "Connection to host " ++ host ++ js " is not permitted")
    | .error message => .error message

end SSHServiceImpl

namespace TelnetServiceImpl

def validateSubnets (allowedSubnets : Option (List JsString)) (host : JsString) :
    Except JsString Unit :=
  match allowedSubnets with
  | none | some [] => .ok ()
  | some allowedSubnets =>
    match validateConnectionWithDns runtime lookup host (some allowedSubnets) with
    | .ok true => .ok ()
    | .ok false =>
      .error (js "Telnet connection to host " ++ host ++
        js " is not permitted by subnet policy")
    | .error message => .error (js "Host validation failed: " ++ message)

end TelnetServiceImpl

def ConnectService.validate (allowedSubnets : Option (List JsString)) (host : JsString) :
    ConnectService → Except JsString Unit
  | .ssh => SSHServiceImpl.validateConnectionAgainstSubnets runtime lookup allowedSubnets host
  | .telnet => TelnetServiceImpl.validateSubnets runtime lookup allowedSubnets host

-- `connect` gives the name of the host to the system, which resolves it again. What is
-- opened here is the connection to that address.
def ConnectService.connect (service : ConnectService) (allowedSubnets : Option (List JsString))
    (host resolved : JsString) : Except JsString JsString :=
  match service.validate runtime lookup allowedSubnets host with
  | .error message => .error message
  | .ok () => .ok resolved

end Services

-- The addresses that the check sees, which a connection may use.
def hostAddresses (lookup : Lookup) (host : JsString) : List JsString :=
  match resolveHostname lookup host with
  | .ok resolved => resolved.addresses
  | .error _ => []

-- Some addresses of the host are inside and some are not.
def Mixed (runtime : Runtime) (subnets addresses : List JsString) : Prop :=
  (∃ address ∈ addresses, isIpInSubnets runtime address subnets = true) ∧
    ∃ address ∈ addresses, isIpInSubnets runtime address subnets = false

section Policy

variable {runtime : Runtime} {lookup : Lookup} {host : JsString} {subnets : List JsString}

theorem validateConnectionWithDns_iff (hsubnets : subnets ≠ []) :
    validateConnectionWithDns runtime lookup host (some subnets) = .ok true ↔
      ∃ address ∈ hostAddresses lookup host, isIpInSubnets runtime address subnets = true := by
  obtain ⟨subnet, rest, rfl⟩ := List.exists_cons_of_ne_nil hsubnets
  unfold validateConnectionWithDns hostAddresses
  cases resolveHostname lookup host with
  | error message => simp
  | ok resolved =>
    dsimp only
    rw [Except.ok.injEq, List.any_eq_true]

theorem validate_iff (hsubnets : subnets ≠ []) (service : ConnectService) :
    service.validate runtime lookup (some subnets) host = .ok () ↔
      validateConnectionWithDns runtime lookup host (some subnets) = .ok true := by
  obtain ⟨subnet, rest, rfl⟩ := List.exists_cons_of_ne_nil hsubnets
  cases service with
  | ssh =>
    unfold ConnectService.validate SSHServiceImpl.validateConnectionAgainstSubnets
    dsimp only
    split <;> simp_all
  | telnet =>
    unfold ConnectService.validate TelnetServiceImpl.validateSubnets
    dsimp only
    split <;> simp_all

theorem connect_iff (hsubnets : subnets ≠ []) (service : ConnectService) (resolved : JsString) :
    service.connect runtime lookup (some subnets) host resolved = .ok resolved ↔
      validateConnectionWithDns runtime lookup host (some subnets) = .ok true := by
  rw [← validate_iff hsubnets service]
  unfold ConnectService.connect
  cases service.validate runtime lookup (some subnets) host with
  | error message => simp
  | ok _ => simp

end Policy

-- A host is permitted exactly when one of its addresses is inside, and then a connection
-- stays inside the policy exactly when the addresses are not mixed.
theorem permitted_iff_some_address_inside (runtime : Runtime) (lookup : Lookup) (host : JsString)
    (subnets : List JsString) (hsubnets : subnets ≠ []) :
    (validateConnectionWithDns runtime lookup host (some subnets) = .ok true ↔
        ∃ address ∈ hostAddresses lookup host, isIpInSubnets runtime address subnets = true) ∧
      ∀ service : ConnectService,
        (∀ resolved ∈ hostAddresses lookup host,
          service.connect runtime lookup (some subnets) host resolved = .ok resolved →
            isIpInSubnets runtime resolved subnets = true) ↔
          ¬ Mixed runtime subnets (hostAddresses lookup host) := by
  have hpermits := @validateConnectionWithDns_iff runtime lookup host subnets hsubnets
  refine ⟨hpermits, fun service => ?_⟩
  simp only [connect_iff hsubnets service, hpermits]
  constructor
  · rintro hinside ⟨hsome, outside, houtside, hout⟩
    rw [hinside outside houtside hsome] at hout
    cases hout
  · intro hmixed resolved hresolved hsome
    by_contra hout
    rw [Bool.not_eq_true] at hout
    exact hmixed ⟨hsome, resolved, hresolved, hout⟩

def answer (addresses : List JsString) : Lookup := fun _ =>
  .ok (.many (addresses.map fun address => .record (some (.string address))))

theorem one_inside_permitted :
    (validateConnectionWithDns asciiRuntime (answer [js "10.1.2.3", js "10.9.9.9"]) (js "example.com")
          (some [js "10.0.0.0/8"]) = .ok true ↔
        ∃ address ∈ hostAddresses (answer [js "10.1.2.3", js "10.9.9.9"]) (js "example.com"),
          isIpInSubnets asciiRuntime address [js "10.0.0.0/8"] = true) ∧
      ∀ service : ConnectService,
        (∀ resolved ∈ hostAddresses (answer [js "10.1.2.3", js "10.9.9.9"]) (js "example.com"),
          service.connect asciiRuntime (answer [js "10.1.2.3", js "10.9.9.9"]) (some [js "10.0.0.0/8"])
              (js "example.com") resolved = .ok resolved →
            isIpInSubnets asciiRuntime resolved [js "10.0.0.0/8"] = true) ↔
          ¬ Mixed asciiRuntime [js "10.0.0.0/8"]
            (hostAddresses (answer [js "10.1.2.3", js "10.9.9.9"]) (js "example.com")) :=
  permitted_iff_some_address_inside asciiRuntime (answer [js "10.1.2.3", js "10.9.9.9"]) (js "example.com")
    [js "10.0.0.0/8"] (by simp)

-- One address inside permits a host with another one outside.
theorem mixed_answer_permitted :
    ¬ ∀ (runtime : Runtime) (lookup : Lookup) (host : JsString) (subnets : List JsString),
      subnets ≠ [] → validateConnectionWithDns runtime lookup host (some subnets) = .ok true →
        ∀ address ∈ hostAddresses lookup host, isIpInSubnets runtime address subnets = true := by
  intro h
  have hinside := h asciiRuntime (answer [js "10.1.2.3", js "8.8.8.8"]) (js "example.com")
    [js "10.0.0.0/8"] (by simp) (by decide) (js "8.8.8.8") (by decide)
  revert hinside
  decide

end WebSsh2.Ssh

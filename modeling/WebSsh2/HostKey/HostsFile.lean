import WebSsh2.HostKey.KnownHosts
import WebSsh2.Ssh.IpAddress

namespace WebSsh2.HostKey

open WebSsh2.Library WebSsh2.Ssh

structure HostsFileEntry where
  host : JsString
  port : Number
deriving DecidableEq

section Source

-- `slice` around `lastIndexOf(':')`, where the colon is not the first unit.
def atLastColon (line : JsString) : Option (JsString × JsString) :=
  match Text.cutLast 58 line with
  | some (host, suffix) => if host ≠ [] then some (host, suffix) else none
  | none => none

def readHostLine (line : JsString) : HostsFileEntry :=
  match atLastColon line with
  | some (host, suffix) =>
    let port := parseInt suffix
    if port ≠ .nan then { host := host, port := port }
    else { host := line, port := .ofInt defaultPort }
  | none => { host := line, port := .ofInt defaultPort }

def parseHostsFile (content : JsString) : List HostsFileEntry :=
  (content.splitOn 10).filterMap fun rawLine =>
    let line := trim rawLine
    if line = [] || line.head? = some 35 then none else some (readHostLine line)

-- What `handleRemove` makes of its argument: the entry to delete, or a message.
def readRemoveTarget (target : JsString) : Except JsString HostsFileEntry :=
  match atLastColon target with
  | none => .error (js "Invalid format. Use: --remove host:port\n")
  | some (host, suffix) =>
    let port := parseInt suffix
    if port = .nan then .error (js "Invalid port number.\n")
    else .ok { host := host, port := port }

end Source

section Rule

-- A suffix that is a port: digits throughout, and in range.
def portOf (suffix : JsString) : Option Nat :=
  if suffix ≠ [] ∧ (∀ unit ∈ suffix, isDigit unit = true) ∧ 1 ≤ digitsValue suffix ∧
      digitsValue suffix ≤ 65535 then
    some (digitsValue suffix)
  else
    none

-- The host and the port that a text names; an address with colons names no port.
def namedPort (text : JsString) : Option (JsString × Nat) :=
  if (readIpv6 text).isSome then
    none
  else
    match atLastColon text with
    | some (host, suffix) => (portOf suffix).map fun port => (host, port)
    | none => none

def ruledEntry (line : JsString) : HostsFileEntry :=
  match namedPort line with
  | some (host, port) => { host := host, port := .ofInt port }
  | none => { host := line, port := .ofInt defaultPort }

def ruledTarget (target : JsString) : Option HostsFileEntry :=
  (namedPort target).map fun (host, port) => { host := host, port := .ofInt port }

-- The lines that are no comment and not blank, without the blanks around them.
def hostLines (content : JsString) : List JsString :=
  ((content.splitOn 10).map trim).filter fun line => line ≠ [] ∧ line.head? ≠ some 35

-- A digit is what the number begins with, after blanks and a sign.
def startsNumber (suffix : JsString) : Bool :=
  match suffix.dropWhile isWhiteSpace with
  | 45 :: digit :: _ => isDigit digit
  | 43 :: digit :: _ => isDigit digit
  | digit :: _ => isDigit digit
  | [] => false

-- The suffix is read as a number, and it is no port.
def Misread (text : JsString) : Prop :=
  ∃ host suffix, atLastColon text = some (host, suffix) ∧ startsNumber suffix = true ∧
    (portOf suffix = none ∨ (readIpv6 text).isSome = true)

end Rule

section Writing

def IsBlankLine (text : JsString) : Prop :=
  10 ∉ text ∧ ∀ unit ∈ text, isWhiteSpace unit = true

-- An entry of the list that is written: a name or a dotted address, with a port or
-- without one, or an address with colons.
inductive WrittenHost where
  | named (host : JsString) (port : Option Nat) (nonempty : host ≠ []) (trimmed : trim host = host)
      (colonless : 58 ∉ host) (oneLine : 10 ∉ host) (uncommented : host.head? ≠ some 35)
      (inRange : ∀ number ∈ port, 1 ≤ number ∧ number ≤ 65535)
  | literal (host : JsString) (isAddress : (readIpv6 host).isSome = true)

def WrittenHost.text : WrittenHost → JsString
  | .named host none _ _ _ _ _ _ => host
  | .named host (some port) _ _ _ _ _ _ => host ++ 58 :: decimal port
  | .literal host _ => host

def WrittenHost.entry : WrittenHost → HostsFileEntry
  | .named host none _ _ _ _ _ _ => { host := host, port := .ofInt defaultPort }
  | .named host (some port) _ _ _ _ _ _ => { host := host, port := .ofInt port }
  | .literal host _ => { host := host, port := .ofInt defaultPort }

inductive FileLine where
  | blank (text : JsString) (h : IsBlankLine text)
  | comment (before text : JsString) (hbefore : IsBlankLine before) (htext : 10 ∉ text)
  | host (before : JsString) (written : WrittenHost) (after : JsString)
      (hbefore : IsBlankLine before) (hafter : IsBlankLine after)

def FileLine.text : FileLine → JsString
  | .blank text _ => text
  | .comment before text _ _ => before ++ 35 :: text
  | .host before written after _ _ => before ++ written.text ++ after

def writeHostsFile (lines : List FileLine) : JsString :=
  [10].intercalate (lines.map FileLine.text)

def writtenHosts (lines : List FileLine) : List WrittenHost :=
  lines.filterMap fun
    | .host _ written _ _ _ => some written
    | _ => none

end Writing

theorem parseHostsFile_eq (content : JsString) :
    parseHostsFile content = (hostLines content).map readHostLine := by
  unfold parseHostsFile hostLines
  induction content.splitOn 10 with
  | nil => rfl
  | cons rawLine rest ih =>
    by_cases hempty : trim rawLine = []
    · rw [List.filterMap_cons_none (by simp [hempty]), ih]
      simp [hempty]
    · by_cases hcomment : (trim rawLine).head? = some 35
      · rw [List.filterMap_cons_none (by simp [hcomment]), ih]
        simp [hcomment]
      · rw [List.filterMap_cons_some (by simp [hempty, hcomment]; rfl), ih]
        simp [hempty, hcomment]

section Reading

theorem parseInt_ne_nan_iff (suffix : JsString) :
    parseInt suffix ≠ .nan ↔ startsNumber suffix = true := by
  have hdigits : ∀ (negative : Bool) (rest : JsString),
      (if rest.takeWhile isDigit = [] then Number.nan
        else .ofInt (if negative then -(digitsValue (rest.takeWhile isDigit) : Int)
          else digitsValue (rest.takeWhile isDigit))) ≠ .nan ↔
        ∃ digit tail, rest = digit :: tail ∧ isDigit digit = true := by
    intro negative rest
    cases rest with
    | nil => simp
    | cons digit tail =>
      cases hdigit : isDigit digit with
      | false => simp [hdigit]
      | true => simp [hdigit, Number.ofInt]
  unfold parseInt startsNumber
  dsimp only
  split
  · rename_i rest heq
    rw [hdigits, heq]
    cases rest with
    | nil => simp; decide
    | cons digit tail => simp
  · rename_i rest heq
    rw [hdigits, heq]
    cases rest with
    | nil => simp; decide
    | cons digit tail => simp
  · rename_i hminus hplus
    rw [hdigits]
    split
    · rename_i heq
      exact absurd heq (hminus _)
    · rename_i heq
      exact absurd heq (hplus _)
    · rename_i heq
      simp [heq]
    · rename_i heq
      simp [heq]

theorem atLastColon_eq_some {text host suffix : JsString}
    (h : atLastColon text = some (host, suffix)) :
    text = host ++ 58 :: suffix ∧ host ≠ [] ∧ 58 ∉ suffix := by
  unfold atLastColon at h
  cases hcut : Text.cutLast 58 text with
  | none =>
    rw [hcut] at h
    cases h
  | some sides =>
    rw [hcut] at h
    dsimp only at h
    split at h
    · rename_i hne
      obtain ⟨rfl, rfl⟩ := Prod.mk.inj (Option.some.inj h)
      obtain ⟨hsplit, hlast⟩ := Text.cutLast_eq_some hcut
      exact ⟨hsplit, hne, hlast⟩
    · cases h

theorem host_ne_of_atLastColon {text host suffix : JsString}
    (h : atLastColon text = some (host, suffix)) : host ≠ text := by
  intro heq
  have hlength := congrArg List.length (atLastColon_eq_some h).1
  rw [← heq, List.length_append, List.length_cons] at hlength
  omega

theorem portOf_eq_some {suffix : JsString} {port : Nat} (h : portOf suffix = some port) :
    parseInt suffix = .ofInt port ∧ startsNumber suffix = true := by
  unfold portOf at h
  split at h
  · rename_i hport
    obtain rfl := Option.some.inj h
    have hread := parseInt_digits hport.1 hport.2.1
    refine ⟨hread, (parseInt_ne_nan_iff suffix).mp ?_⟩
    rw [hread]
    exact fun heq => by cases heq
  · cases h

variable (line : JsString)

-- A file line is read as an argument of the command is, with the whole line as the
-- host where that fails.
theorem readHostLine_eq :
    readHostLine line =
      (readRemoveTarget line).toOption.getD { host := line, port := .ofInt defaultPort } := by
  unfold readHostLine readRemoveTarget
  cases atLastColon line with
  | none => rfl
  | some sides =>
    by_cases hport : parseInt sides.2 = .nan
    · simp [hport, Except.toOption]
    · simp [hport, Except.toOption]

theorem ruledEntry_eq :
    ruledEntry line = (ruledTarget line).getD { host := line, port := .ofInt defaultPort } := by
  unfold ruledEntry ruledTarget
  cases namedPort line <;> rfl

theorem host_ne_of_readRemoveTarget {target : JsString} {entry : HostsFileEntry}
    (h : (readRemoveTarget target).toOption = some entry) : entry.host ≠ target := by
  unfold readRemoveTarget at h
  cases hsplit : atLastColon target with
  | none =>
    rw [hsplit] at h
    cases h
  | some sides =>
    rw [hsplit] at h
    dsimp only at h
    split at h
    · cases h
    · obtain rfl := Option.some.inj h
      exact host_ne_of_atLastColon hsplit

theorem host_ne_of_ruledTarget {target : JsString} {entry : HostsFileEntry}
    (h : ruledTarget target = some entry) : entry.host ≠ target := by
  obtain ⟨⟨host, port⟩, hnamed, rfl⟩ := Option.map_eq_some_iff.mp h
  unfold namedPort at hnamed
  split at hnamed
  · cases hnamed
  · cases hsplit : atLastColon target with
    | none =>
      rw [hsplit] at hnamed
      cases hnamed
    | some sides =>
      rw [hsplit] at hnamed
      obtain ⟨_, _, heq⟩ := Option.map_eq_some_iff.mp hnamed
      obtain ⟨rfl, rfl⟩ := Prod.mk.inj heq
      exact host_ne_of_atLastColon hsplit

-- The command reads its argument by the rule unless the suffix is misread.
theorem readRemoveTarget_iff (target : JsString) :
    (readRemoveTarget target).toOption = ruledTarget target ↔ ¬Misread target := by
  unfold readRemoveTarget ruledTarget namedPort Misread
  cases hsplit : atLastColon target with
  | none =>
    simp [Except.toOption]
  | some sides =>
    obtain ⟨host, suffix⟩ := sides
    simp only [Option.some.injEq, Prod.mk.injEq]
    by_cases hnan : parseInt suffix = .nan
    · have hstarts : startsNumber suffix = false := by
        rw [← Bool.not_eq_true, ← parseInt_ne_nan_iff]
        exact fun h => h hnan
      have hport : portOf suffix = none := by
        rw [Option.eq_none_iff_forall_ne_some]
        intro port hport
        rw [(portOf_eq_some hport).2] at hstarts
        cases hstarts
      simp [hnan, hport, Except.toOption, hstarts]
    · have hstarts : startsNumber suffix = true := (parseInt_ne_nan_iff suffix).mp hnan
      cases haddress : (readIpv6 target).isSome with
      | true => simp [hnan, Except.toOption, hstarts]
      | false =>
        cases hport : portOf suffix with
        | none => simp [hnan, hport, Except.toOption, hstarts]
        | some port => simp [hport, (portOf_eq_some hport).1, Except.toOption, Number.ofInt]

theorem readHostLine_iff : readHostLine line = ruledEntry line ↔ ¬Misread line := by
  rw [← readRemoveTarget_iff, readHostLine_eq, ruledEntry_eq]
  constructor
  · intro h
    cases hread : (readRemoveTarget line).toOption with
    | none =>
      cases hruled : ruledTarget line with
      | none => rfl
      | some entry =>
        rw [hread, hruled] at h
        exact absurd (congrArg HostsFileEntry.host h).symm (host_ne_of_ruledTarget hruled)
    | some entry =>
      cases hruled : ruledTarget line with
      | none =>
        rw [hread, hruled] at h
        exact absurd (congrArg HostsFileEntry.host h) (host_ne_of_readRemoveTarget hread)
      | some other =>
        rw [hread, hruled] at h
        exact congrArg some h
  · intro h
    rw [h]

end Reading

section RoundTrip

-- An address with colons has two of them at least.
theorem two_le_count_of_readIpv6 {text : JsString} (h : (readIpv6 text).isSome = true) :
    2 ≤ text.count 58 := by
  have hgroups : ∀ (front : JsString) (groups : List Nat), readIpv6Groups front = some groups →
      groups.length = 8 → 2 ≤ front.count 58 := by
    intro front groups hread hlength
    rcases readIpv6Groups_cases hread with ⟨_, hpieces⟩ | ⟨before, after, _, _, hcut, _⟩
    · have hless := length_readGroups_le hpieces
      have hcount := Text.length_splitOn 58 front
      omega
    · rw [Text.cut_eq_some hcut]
      simp [List.count_append]
      omega
  obtain ⟨address, haddress⟩ := Option.isSome_iff_exists.mp h
  rcases readIpv6_cases haddress with ⟨_, hread⟩ | ⟨front, zone, rfl, _, _, hread⟩
  · exact hgroups text _ hread address.length
  · rw [List.count_append]
    have hfront := hgroups front _ hread address.length
    omega

theorem portOf_decimal {port : Nat} (h : 1 ≤ port ∧ port ≤ 65535) :
    portOf (decimal port) = some port := by
  have hvalue := digitsValue_decimal port
  unfold portOf
  rw [hvalue, if_pos ⟨decimal_ne_nil port, fun _ hunit => isDigit_of_mem_decimal hunit, h⟩]

theorem colon_notMem_decimal (port : Nat) : 58 ∉ decimal port := by
  intro hmem
  exact absurd (isDigit_of_mem_decimal hmem) (by decide)

theorem namedPort_colonless {host : JsString} (h : 58 ∉ host) : namedPort host = none := by
  have hsplit : atLastColon host = none := by
    unfold atLastColon
    rw [Text.cutLast_eq_none_iff.mpr h]
  unfold namedPort
  rw [hsplit, ite_self]

theorem namedPort_ported {host : JsString} {port : Nat} (hne : host ≠ []) (hcolon : 58 ∉ host)
    (hrange : 1 ≤ port ∧ port ≤ 65535) :
    namedPort (host ++ 58 :: decimal port) = some (host, port) := by
  have hsplit : atLastColon (host ++ 58 :: decimal port) = some (host, decimal port) := by
    unfold atLastColon
    rw [Text.cutLast_append host (colon_notMem_decimal port)]
    exact if_pos hne
  have haddress : ¬(readIpv6 (host ++ 58 :: decimal port)).isSome = true := by
    intro h
    have hcount := two_le_count_of_readIpv6 h
    rw [List.count_append, List.count_cons_self, List.count_eq_zero.mpr hcolon,
      List.count_eq_zero.mpr (colon_notMem_decimal port)] at hcount
    omega
  unfold namedPort
  rw [if_neg haddress, hsplit]
  dsimp only
  rw [portOf_decimal hrange]
  rfl

-- The rule reads an entry back as it was written.
theorem ruledEntry_text (written : WrittenHost) : ruledEntry written.text = written.entry := by
  unfold ruledEntry
  cases written with
  | literal host isAddress =>
    have hnamed : namedPort host = none := by
      unfold namedPort
      rw [if_pos isAddress]
    rw [WrittenHost.text, hnamed]
    rfl
  | named host port nonempty trimmed colonless oneLine uncommented inRange =>
    cases port with
    | none =>
      rw [WrittenHost.text, namedPort_colonless colonless]
      rfl
    | some port =>
      rw [WrittenHost.text, namedPort_ported nonempty colonless (inRange port rfl)]
      rfl

-- Nothing of an entry is lost between the line breaks and the blanks.
theorem trim_text (written : WrittenHost) :
    trim written.text = written.text ∧ written.text ≠ [] ∧ 10 ∉ written.text ∧
      written.text.head? ≠ some 35 := by
  cases written with
  | literal host isAddress =>
    obtain ⟨address, haddress⟩ := Option.isSome_iff_exists.mp isAddress
    have hunits := units_of_readIpv6 haddress
    have hnot : ∀ unit : UInt16, isZoneUnit unit = false → unit ≠ 37 → unit ∉ host := by
      intro unit hzone hpercent hmem
      rcases hunits unit hmem with h | h
      · rw [hzone] at h
        cases h
      · exact hpercent h
    show trim host = host ∧ host ≠ [] ∧ 10 ∉ host ∧ host.head? ≠ some 35
    refine ⟨trim_of_ink fun unit hmem => ?_, ?_, hnot 10 (by decide) (by decide), ?_⟩
    · rcases hunits unit hmem with h | rfl
      · rw [isZoneUnit_iff] at h
        exact isWhiteSpace_of_printable (by omega)
      · decide
    · rintro rfl
      exact absurd (colon_mem_of_readIpv6 haddress) List.not_mem_nil
    · intro hhead
      exact hnot 35 (by decide) (by decide) (List.mem_of_head? hhead)
  | named host port nonempty trimmed colonless oneLine uncommented inRange =>
    cases port with
    | none => exact ⟨trimmed, nonempty, oneLine, uncommented⟩
    | some port =>
      obtain ⟨first, rest, rfl⟩ := List.exists_cons_of_ne_nil nonempty
      have hdigit : ∀ unit ∈ decimal port, isWhiteSpace unit = false := fun unit hunit =>
        isWhiteSpace_of_isDigit (isDigit_of_mem_decimal hunit)
      show trim (first :: rest ++ 58 :: decimal port) = first :: rest ++ 58 :: decimal port ∧
        first :: rest ++ 58 :: decimal port ≠ [] ∧ 10 ∉ first :: rest ++ 58 :: decimal port ∧
          (first :: rest ++ 58 :: decimal port).head? ≠ some 35
      refine ⟨trim_of_ends ?_ ?_, by simp, ?_, uncommented⟩
      · exact (ends_of_trim_eq trimmed).1
      · -- the last unit is one of the digits
        intro unit hunit
        obtain ⟨last, others, hlast⟩ :=
          List.exists_cons_of_ne_nil (List.reverse_ne_nil_iff.mpr (decimal_ne_nil port))
        rw [List.reverse_append, List.reverse_cons, hlast] at hunit
        obtain rfl : last = unit := by simpa using hunit
        exact hdigit last (List.mem_reverse.mp (by rw [hlast]; exact List.mem_cons_self))
      · have hport : 10 ∉ decimal port := by
          intro hmem
          exact absurd (isDigit_of_mem_decimal hmem) (by decide)
        simp only [List.mem_append, List.mem_cons, hport, or_false, not_or]
        exact ⟨by simpa using oneLine, by decide⟩

-- A comment keeps its sign in front when the blanks around it go.
theorem head_trim_comment {before text : JsString}
    (hbefore : ∀ unit ∈ before, isWhiteSpace unit = true) :
    (trim (before ++ 35 :: text)).head? = some 35 := by
  have hsign : ([35] : JsString).dropWhile isWhiteSpace = [35] := rfl
  have hfront : (before ++ 35 :: text).dropWhile isWhiteSpace = 35 :: text := by
    rw [List.dropWhile_append_of_pos hbefore]
    rfl
  have hback : ∃ others, (35 :: text).reverse.dropWhile isWhiteSpace = others ++ [35] := by
    rw [List.reverse_cons, List.dropWhile_append]
    split
    · exact ⟨[], hsign⟩
    · exact ⟨_, rfl⟩
  obtain ⟨others, hothers⟩ := hback
  unfold trim
  rw [hfront, hothers, List.reverse_append]
  rfl

theorem newline_notMem_text (line : FileLine) : 10 ∉ line.text := by
  cases line with
  | blank text h => exact h.1
  | comment before text hbefore htext =>
    simp only [FileLine.text, List.mem_append, List.mem_cons, hbefore.1, htext, or_false,
      false_or]
    decide
  | host before written after hbefore hafter =>
    simp [FileLine.text, hbefore.1, hafter.1, (trim_text written).2.2.1]

theorem hostLines_writeHostsFile (lines : List FileLine) :
    hostLines (writeHostsFile lines) = (writtenHosts lines).map WrittenHost.text := by
  have hlines : ((lines.map FileLine.text).map trim).filter
      (fun line => line ≠ [] ∧ line.head? ≠ some 35) =
        (writtenHosts lines).map WrittenHost.text := by
    unfold writtenHosts
    induction lines with
    | nil => rfl
    | cons line rest ih =>
      rw [List.map_cons, List.map_cons]
      cases line with
      | blank text h =>
        have htrim : trim (FileLine.blank text h).text = [] := trim_blank h.2
        rw [htrim, List.filter_cons_of_neg (by simp), ih]
        rfl
      | comment before text hbefore htext =>
        have hhead : (trim (FileLine.comment before text hbefore htext).text).head? =
            some 35 := head_trim_comment hbefore.2
        rw [List.filter_cons_of_neg (by simp [hhead]), ih]
        rfl
      | host before written after hbefore hafter =>
        obtain ⟨htrim, hne, _, hhead⟩ := trim_text written
        have hwhole : trim (FileLine.host before written after hbefore hafter).text =
            written.text := trim_surrounded hbefore.2 hafter.2 htrim
        rw [hwhole, List.filter_cons_of_pos (by simp [hne, hhead]), ih]
        rfl
  unfold hostLines writeHostsFile
  cases lines with
  | nil => rfl
  | cons line rest =>
    rw [List.splitOn_intercalate]
    · exact hlines
    · intro text htext
      obtain ⟨other, _, rfl⟩ := List.mem_map.mp htext
      exact newline_notMem_text other
    · simp

end RoundTrip

-- A list that is written comes back, a file is read by the rule, and so is the argument
-- of the command, each of them exactly where no suffix is misread.
theorem hostsFile_iff (lines : List FileLine) (content target : JsString) :
    (parseHostsFile (writeHostsFile lines) = (writtenHosts lines).map WrittenHost.entry ↔
        ∀ written ∈ writtenHosts lines, ¬Misread written.text) ∧
      (parseHostsFile content = (hostLines content).map ruledEntry ↔
        ∀ line ∈ hostLines content, ¬Misread line) ∧
      ((readRemoveTarget target).toOption = ruledTarget target ↔ ¬Misread target) := by
  refine ⟨?_, ?_, readRemoveTarget_iff target⟩
  · rw [parseHostsFile_eq, hostLines_writeHostsFile, List.map_map, List.map_inj_left]
    simp only [Function.comp_apply, ← ruledEntry_text, readHostLine_iff]
  · rw [parseHostsFile_eq, List.map_inj_left]
    simp only [readHostLine_iff]

-- The loopback address is taken apart, and a suffix that only begins with digits is
-- taken as a port.
theorem hostsFile_not_read :
    parseHostsFile (writeHostsFile [.host [] (.literal (js "::1") (by decide)) []
        (by unfold IsBlankLine; decide) (by unfold IsBlankLine; decide)]) ≠
      [{ host := js "::1", port := .ofInt defaultPort }] ∧
      parseHostsFile (js "example.com:22abc") ≠
        [{ host := js "example.com:22abc", port := .ofInt defaultPort }] ∧
      (readRemoveTarget (js "example.com:22abc")).toOption ≠
        ruledTarget (js "example.com:22abc") := by
  refine ⟨by decide, by decide, by decide⟩

end WebSsh2.HostKey

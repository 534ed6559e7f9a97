import WebSsh2.Library.Utf8
import WebSsh2.Ssh.ConnectionHandlers
import WebSsh2.Telnet.Authenticator

namespace WebSsh2.Ssh.Exec

open Library Telnet

section Capture

-- What is kept of one of the two streams.
structure Captured where
  text : JsString := []
  truncated : Bool := false

-- One data event; `data.toString()` reads the event's bytes on their own.
def appendData (marker : JsString) (maxOutputBytes : Nat) (captured : Captured) (data : Bytes) :
    Captured :=
  let dataStr := Utf8.decode data
  if maxOutputBytes < captured.text.length + dataStr.length then
    if captured.truncated then captured
    else { text := captured.text ++ marker, truncated := true }
  else
    { captured with text := captured.text ++ dataStr }

def stdoutMarker : JsString := js "\n[OUTPUT TRUNCATED: Exceeded maximum output size]\n"

def stderrMarker : JsString := js "\n[STDERR TRUNCATED: Exceeded maximum output size]\n"

inductive ExecEvent where
  | stdout (data : Bytes)
  | stderr (data : Bytes)

structure ExecStreams where
  stdout : Captured := {}
  stderr : Captured := {}

variable (maxOutputBytes : Nat)

def onData (streams : ExecStreams) : ExecEvent → ExecStreams
  | .stdout data =>
    { streams with stdout := appendData stdoutMarker maxOutputBytes streams.stdout data }
  | .stderr data =>
    { streams with stderr := appendData stderrMarker maxOutputBytes streams.stderr data }

structure ExecResult where
  stdout : JsString
  stderr : JsString
  code : Option Int

variable (events : List ExecEvent)

-- The data events up to the close of the stream, and the code that the close brings.
def monitorStream (code : Option Int) : ExecResult :=
  let streams := events.foldl (onData maxOutputBytes) {}
  { stdout := streams.stdout.text, stderr := streams.stderr.text, code }

-- How `client.exec` goes on: it throws, calls back with an error, or gives a stream.
inductive ExecStart where
  | thrown (message : Option JsString)
  | failed (message : JsString)
  | stream (events : List ExecEvent) (code : Option Int)

def executeSshCommand (maxExecOutputBytes : Nat) (connection : Option SshStatus)
    (start : ExecStart) : Except JsString ExecResult :=
  match connection with
  | none => .error (js "Connection not found")
  | some status =>
    if status ≠ .connected then
      .error (js "Connection not ready")
    else
      match start with
      | .thrown message => .error (message.getD (js "Exec failed"))
      | .failed message => .error message
      | .stream events code => .ok (monitorStream maxExecOutputBytes events code)

def captureStdout (data : List Bytes) : Captured :=
  data.foldl (appendData stdoutMarker maxOutputBytes) {}

-- The bytes of the stdout events, in their order.
def stdoutData : List Bytes :=
  events.filterMap fun event =>
    match event with
    | .stdout data => some data
    | .stderr _ => none

theorem stdout_foldl_onData (streams : ExecStreams) :
    (events.foldl (onData maxOutputBytes) streams).stdout =
      (stdoutData events).foldl (appendData stdoutMarker maxOutputBytes) streams.stdout := by
  induction events generalizing streams with
  | nil => rfl
  | cons event rest ih =>
    cases event with
    | stdout data => exact ih _
    | stderr data => exact ih _

-- What is on stderr has no part in it.
theorem monitorStream_stdout (code : Option Int) :
    (monitorStream maxOutputBytes events code).stdout =
      (captureStdout maxOutputBytes (stdoutData events)).text :=
  congrArg Captured.text (stdout_foldl_onData maxOutputBytes events {})

end Capture

section Fitting

-- The events up to the first one whose text no longer fits, and those from it on.
def splitFitting (limit : Nat) : Nat → List Bytes → List Bytes × List Bytes
  | _, [] => ([], [])
  | total, data :: rest =>
    if total + (Utf8.decode data).length ≤ limit then
      let later := splitFitting limit (total + (Utf8.decode data).length) rest
      (data :: later.1, later.2)
    else
      ([], data :: rest)

theorem splitFitting_append (limit total : Nat) (data : List Bytes) :
    (splitFitting limit total data).1 ++ (splitFitting limit total data).2 = data := by
  induction data generalizing total with
  | nil => rfl
  | cons first rest ih =>
    unfold splitFitting
    split
    · rw [List.cons_append, ih]
    · rfl

variable (marker : JsString) (limit : Nat)

theorem foldl_splitFitting (data : List Bytes) (text : JsString) :
    (splitFitting limit text.length data).1.foldl (appendData marker limit)
        { text, truncated := false } =
      { text := text ++ (splitFitting limit text.length data).1.flatMap Utf8.decode
        truncated := false } := by
  induction data generalizing text with
  | nil => simp [splitFitting]
  | cons first rest ih =>
    unfold splitFitting
    split
    · rename_i hfits
      have hnext := ih (text ++ Utf8.decode first)
      rw [List.length_append] at hnext
      simp only [List.foldl_cons, appendData]
      rw [if_neg (Nat.not_lt.mpr hfits), hnext, List.flatMap_cons, List.append_assoc]
    · simp

theorem splitFitting_snd {data : List Bytes} {total : Nat} {first : Bytes} {rest : List Bytes}
    (h : (splitFitting limit total data).2 = first :: rest) :
    limit < total + ((splitFitting limit total data).1.flatMap Utf8.decode).length +
      (Utf8.decode first).length := by
  induction data generalizing total with
  | nil => simp [splitFitting] at h
  | cons head tail ih =>
    by_cases hfits : total + (Utf8.decode head).length ≤ limit
    · simp only [splitFitting, if_pos hfits] at h ⊢
      have := ih h
      rw [List.flatMap_cons, List.length_append]
      omega
    · simp only [splitFitting, if_neg hfits] at h ⊢
      obtain ⟨rfl, rfl⟩ := List.cons.inj h
      simp only [List.flatMap_nil, List.length_nil]
      omega

-- Once it has truncated, it stays so; what still fits comes after the marker.
theorem foldl_truncated (data : List Bytes) (text : JsString) :
    ∃ late, data.foldl (appendData marker limit) { text, truncated := true } =
        { text := text ++ late, truncated := true } ∧
      (late = [] ↔ ∀ chunk ∈ data, chunk ≠ [] →
        limit < text.length + (Utf8.decode chunk).length) := by
  induction data generalizing text with
  | nil => exact ⟨[], by simp, by simp⟩
  | cons first rest ih =>
    rw [List.foldl_cons, appendData]
    dsimp only
    by_cases hfits : limit < text.length + (Utf8.decode first).length
    · obtain ⟨late, hlate, hempty⟩ := ih text
      rw [if_pos hfits, if_pos rfl]
      refine ⟨late, hlate, hempty.trans ?_⟩
      rw [List.forall_mem_cons]
      exact (and_iff_right fun _ => hfits).symm
    · obtain ⟨late, hlate, hempty⟩ := ih (text ++ Utf8.decode first)
      rw [if_neg hfits]
      refine ⟨Utf8.decode first ++ late, by rw [hlate, List.append_assoc], ?_⟩
      rw [List.append_eq_nil_iff, List.forall_mem_cons, Utf8.decode_eq_nil_iff, hempty]
      constructor
      · rintro ⟨rfl, hrest⟩
        refine ⟨fun h => absurd rfl h, ?_⟩
        simpa [Utf8.decode, Utf8.flush] using hrest
      · rintro ⟨hfirst, hrest⟩
        by_cases hnil : first = []
        · subst hnil
          refine ⟨rfl, ?_⟩
          simpa [Utf8.decode, Utf8.flush] using hrest
        · exact absurd (hfirst hnil) hfits

end Fitting

section Returned

-- `Buffer.byteLength`
def byteLength (text : JsString) : Nat :=
  (bufferFrom text).length

-- The returned text is that of the whole output, or that of the output before the
-- truncation with the marker after it and nothing more; it has no more bytes than the
-- limit allows, the marker apart.
structure Faithful (limit : Nat) (data : List Bytes) (stdout : JsString) : Prop where
  bounded : byteLength stdout ≤ limit + byteLength stdoutMarker
  whole : (captureStdout limit data).truncated = false → stdout = Utf8.decode data.flatten
  cut : ∀ before chunk after, data = before ++ chunk :: after →
    (captureStdout limit before).truncated = false →
    (captureStdout limit (before ++ [chunk])).truncated = true →
      Utf8.decode before.flatten <+: Utf8.decode data.flatten ∧
        stdout = Utf8.decode before.flatten ++ stdoutMarker

-- No event boundary splits a character before the truncation, nor does the truncation
-- itself; no later event is short enough to fit again; and the text that is kept has
-- few enough bytes.
structure Intact (limit : Nat) (data : List Bytes) : Prop where
  unsplit : Utf8.Unsplit (splitFitting limit 0 data).1
  whole : (splitFitting limit 0 data).2 = [] →
    byteLength (Utf8.decode data.flatten) ≤ limit + byteLength stdoutMarker
  cut : ∀ chunk later, (splitFitting limit 0 data).2 = chunk :: later →
    let before := (splitFitting limit 0 data).1.flatten
    let text := Utf8.decode before ++ stdoutMarker
    byteLength text ≤ limit + byteLength stdoutMarker ∧
      ¬Utf8.CutsCharacter before (splitFitting limit 0 data).2.flatten ∧
      ∀ other ∈ later, other ≠ [] → limit < text.length + (Utf8.decode other).length

variable {limit : Nat} {data : List Bytes}

theorem captureStdout_append (first second : List Bytes) :
    captureStdout limit (first ++ second) =
      second.foldl (appendData stdoutMarker limit) (captureStdout limit first) :=
  List.foldl_append

theorem truncated_append {first : List Bytes}
    (h : (captureStdout limit first).truncated = true) (second : List Bytes) :
    (captureStdout limit (first ++ second)).truncated = true := by
  obtain ⟨late, hlate, -⟩ :=
    foldl_truncated stdoutMarker limit second (captureStdout limit first).text
  have hstate : captureStdout limit first =
      { text := (captureStdout limit first).text, truncated := true } := by
    rw [← h]
  rw [captureStdout_append, hstate, hlate]

theorem captureStdout_fitting (limit : Nat) (data : List Bytes) :
    captureStdout limit (splitFitting limit 0 data).1 =
      { text := (splitFitting limit 0 data).1.flatMap Utf8.decode, truncated := false } :=
  foldl_splitFitting stdoutMarker limit data []

variable {chunk : Bytes} {later : List Bytes}

theorem captureStdout_first_late (h : (splitFitting limit 0 data).2 = chunk :: later) :
    captureStdout limit ((splitFitting limit 0 data).1 ++ [chunk]) =
      { text := (splitFitting limit 0 data).1.flatMap Utf8.decode ++ stdoutMarker
        truncated := true } := by
  have hlong := splitFitting_snd limit h
  rw [Nat.zero_add] at hlong
  rw [captureStdout_append, captureStdout_fitting, List.foldl_cons, List.foldl_nil, appendData]
  dsimp only
  rw [if_pos hlong, if_neg (by decide)]

-- It truncates at one event only: the first that does not fit.
theorem truncation_unique {before after rest : List Bytes} {chunk first : Bytes}
    (hdata : data = before ++ chunk :: after)
    (hbefore : (captureStdout limit before).truncated = false)
    (hchunk : (captureStdout limit (before ++ [chunk])).truncated = true)
    (hfirst : (splitFitting limit 0 data).2 = first :: rest) :
    before = (splitFitting limit 0 data).1 := by
  have hall := splitFitting_append limit 0 data
  rw [hfirst] at hall
  have hnot : ∀ kept : List Bytes, (captureStdout limit kept).truncated = false →
      ∀ start : List Bytes, (captureStdout limit start).truncated = true → ¬start <+: kept := by
    rintro kept hkept start hstart ⟨more, rfl⟩
    rw [truncated_append hstart more] at hkept
    cases hkept
  have hfitting : (captureStdout limit (splitFitting limit 0 data).1).truncated = false := by
    rw [captureStdout_fitting]
  have hlate : (captureStdout limit ((splitFitting limit 0 data).1 ++ [first])).truncated =
      true := by
    rw [captureStdout_first_late hfirst]
  have hone : before ++ [chunk] <+: data := ⟨after, by rw [hdata, List.append_assoc]; rfl⟩
  have htwo : (splitFitting limit 0 data).1 ++ [first] <+: data :=
    ⟨rest, by rw [List.append_assoc]; exact hall⟩
  have hshort : before <+: data := ⟨chunk :: after, hdata.symm⟩
  have hfits : (splitFitting limit 0 data).1 <+: data := ⟨first :: rest, hall⟩
  have hle : before.length ≤ (splitFitting limit 0 data).1.length := by
    by_contra hlt
    refine hnot before hbefore _ hlate (List.prefix_of_prefix_length_le htwo hshort ?_)
    rw [List.length_append, List.length_singleton]
    omega
  have hge : (splitFitting limit 0 data).1.length ≤ before.length := by
    by_contra hlt
    refine hnot _ hfitting _ hchunk (List.prefix_of_prefix_length_le hone hfits ?_)
    rw [List.length_append, List.length_singleton]
    omega
  exact (List.prefix_of_prefix_length_le hshort hfits hle).eq_of_length (by omega)

theorem faithful_iff_of_whole (h : (splitFitting limit 0 data).2 = []) :
    Faithful limit data (captureStdout limit data).text ↔ Intact limit data := by
  have hall := splitFitting_append limit 0 data
  rw [h, List.append_nil] at hall
  have hcapture := captureStdout_fitting limit data
  rw [hall] at hcapture
  rw [hcapture]
  constructor
  · intro hfaithful
    have htext := hfaithful.whole (by rw [hcapture])
    refine ⟨?_, fun _ => ?_, fun chunk later hlater => ?_⟩
    · rw [hall]
      exact (Utf8.flatMap_decode_eq_iff data).mp htext
    · have hbounded := hfaithful.bounded
      rwa [htext] at hbounded
    · rw [h] at hlater
      cases hlater
  · intro hintact
    have hunsplit := hintact.unsplit
    rw [hall] at hunsplit
    have htext := (Utf8.flatMap_decode_eq_iff data).mpr hunsplit
    refine ⟨?_, fun _ => htext, fun before chunk after hdata _ hchunk => ?_⟩
    · have hbytes := hintact.whole h
      rwa [htext]
    · have htrue := truncated_append hchunk after
      rw [List.append_assoc, List.singleton_append, ← hdata, hcapture] at htrue
      cases htrue

-- The event at which it truncates is the first that does not fit.
theorem cut_of_late (h : (splitFitting limit 0 data).2 = chunk :: later) :
    data = (splitFitting limit 0 data).1 ++ chunk :: later ∧
      (captureStdout limit (splitFitting limit 0 data).1).truncated = false ∧
      (captureStdout limit ((splitFitting limit 0 data).1 ++ [chunk])).truncated = true := by
  refine ⟨?_, ?_, ?_⟩
  · rw [← h, splitFitting_append]
  · rw [captureStdout_fitting]
  · rw [captureStdout_first_late h]

theorem faithful_iff_of_cut (h : (splitFitting limit 0 data).2 = chunk :: later) :
    Faithful limit data (captureStdout limit data).text ↔ Intact limit data := by
  obtain ⟨hdata, hbefore, hchunk⟩ := cut_of_late h
  obtain ⟨late, hlate, hempty⟩ := foldl_truncated stdoutMarker limit later
    ((splitFitting limit 0 data).1.flatMap Utf8.decode ++ stdoutMarker)
  have hcapture : captureStdout limit data =
      { text := (splitFitting limit 0 data).1.flatMap Utf8.decode ++ stdoutMarker ++ late
        truncated := true } := by
    conv_lhs => rw [hdata]
    rw [← List.singleton_append, ← List.append_assoc, captureStdout_append,
      captureStdout_first_late h, hlate]
  have hflat : data.flatten = (splitFitting limit 0 data).1.flatten ++
      (splitFitting limit 0 data).2.flatten := by
    rw [← List.flatten_append, splitFitting_append]
  have hpieces := Utf8.length_decode_flatten_le (splitFitting limit 0 data).1
  rw [hcapture]
  constructor
  · intro hfaithful
    obtain ⟨hpre, htext⟩ := hfaithful.cut _ chunk later hdata hbefore hchunk
    have hlength := congrArg List.length htext
    simp only [List.length_append] at hlength
    have hnone : late = [] := List.length_eq_zero_iff.mp (by omega)
    rw [hnone, List.append_nil, List.append_cancel_right_eq] at htext
    have hbounded := hfaithful.bounded
    rw [hnone, List.append_nil, htext] at hbounded
    refine ⟨(Utf8.flatMap_decode_eq_iff _).mp htext, fun hnil => ?_, ?_⟩
    · rw [h] at hnil
      cases hnil
    · intro other rest hsame
      rw [h] at hsame
      obtain ⟨rfl, rfl⟩ := List.cons.inj hsame
      refine ⟨hbounded, ?_, ?_⟩
      · rw [← Utf8.decode_prefix_iff, ← hflat]
        exact hpre
      · rw [← htext]
        exact hempty.mp hnone
  · intro hintact
    have htext := (Utf8.flatMap_decode_eq_iff _).mpr hintact.unsplit
    obtain ⟨hbytes, hcuts, hfits⟩ := hintact.cut chunk later h
    rw [← htext] at hfits
    have hnone := hempty.mpr hfits
    rw [hnone, List.append_nil, htext]
    refine ⟨hbytes, fun hfalse => ?_, ?_⟩
    · rw [hcapture] at hfalse
      cases hfalse
    · intro before other after hsplit hfirst hsecond
      obtain rfl := truncation_unique hsplit hfirst hsecond h
      refine ⟨?_, rfl⟩
      rw [hflat, Utf8.decode_prefix_iff]
      exact hcuts

theorem faithful_iff (limit : Nat) (data : List Bytes) :
    Faithful limit data (captureStdout limit data).text ↔ Intact limit data := by
  cases hlater : (splitFitting limit 0 data).2 with
  | nil => exact faithful_iff_of_whole hlater
  | cons chunk later => exact faithful_iff_of_cut hlater

-- The place in the text at which it is cut off, if it is.
def cutAt (limit : Nat) (data : List Bytes) : Option Nat :=
  if (splitFitting limit 0 data).2 = [] then none
  else some (Utf8.decode (splitFitting limit 0 data).1.flatten).length

-- Two splits of one output are cut off at the same place or not at all; or only one of
-- them is, and what it leaves out spells the marker.
def SameCut (limit : Nat) (first second : List Bytes) : Prop :=
  match cutAt limit first, cutAt limit second with
  | none, none => True
  | some place, some other => place = other
  | none, some place | some place, none =>
    (Utf8.decode first.flatten).drop place = stdoutMarker

-- A faithful text, by the place at which it is cut off.
def keptText (whole : JsString) : Option Nat → JsString
  | none => whole
  | some place => whole.take place ++ stdoutMarker

theorem text_of_faithful (h : Faithful limit data (captureStdout limit data).text) :
    (captureStdout limit data).text = keptText (Utf8.decode data.flatten) (cutAt limit data) ∧
      ∀ place ∈ cutAt limit data, place ≤ (Utf8.decode data.flatten).length := by
  unfold cutAt
  cases hlater : (splitFitting limit 0 data).2 with
  | nil =>
    have hall := splitFitting_append limit 0 data
    rw [hlater, List.append_nil] at hall
    have hcapture := captureStdout_fitting limit data
    rw [hall] at hcapture
    exact ⟨h.whole (by rw [hcapture]), by simp⟩
  | cons chunk later =>
    obtain ⟨hdata, hbefore, hchunk⟩ := cut_of_late hlater
    obtain ⟨hpre, htext⟩ := h.cut _ chunk later hdata hbefore hchunk
    refine ⟨?_, by simpa using hpre.length_le⟩
    rw [if_neg (List.cons_ne_nil _ _), htext, keptText, ← List.prefix_iff_eq_take.mp hpre]

theorem sameText_iff {first second : List Bytes} (h : first.flatten = second.flatten)
    (hfirst : Faithful limit first (captureStdout limit first).text)
    (hsecond : Faithful limit second (captureStdout limit second).text) :
    (captureStdout limit first).text = (captureStdout limit second).text ↔
      SameCut limit first second := by
  obtain ⟨htext, hplace⟩ := text_of_faithful hfirst
  obtain ⟨hother, hwithin⟩ := text_of_faithful hsecond
  rw [← h] at hother hwithin
  rw [htext, hother]
  unfold SameCut
  generalize Utf8.decode first.flatten = whole at hplace hwithin ⊢
  have hrest : ∀ place, whole = whole.take place ++ stdoutMarker ↔
      whole.drop place = stdoutMarker := by
    intro place
    conv_lhs => lhs; rw [← List.take_append_drop place whole]
    exact List.append_cancel_left_eq _ _ _ |>.to_iff
  cases hcut : cutAt limit first with
  | none =>
    cases hlast : cutAt limit second with
    | none => exact iff_of_true rfl trivial
    | some place => exact hrest place
  | some place =>
    cases hlast : cutAt limit second with
    | none => exact eq_comm.trans (hrest place)
    | some other =>
      have hle := hplace place hcut
      have hle' := hwithin other hlast
      simp only [keptText, List.append_cancel_right_eq]
      constructor
      · intro htake
        have hlength := congrArg List.length htake
        simp only [List.length_take] at hlength
        omega
      · exact congrArg (whole.take ·)

-- What is returned as stdout is faithful, and the same for two splits of the same bytes,
-- exactly where the events leave it intact and cut it off at the same place.
theorem executeSshCommand_stdout_iff (limit : Nat) {first second : List ExecEvent}
    (code other : Option Int)
    (h : (stdoutData first).flatten = (stdoutData second).flatten) :
    ∃ one two, executeSshCommand limit (some .connected) (.stream first code) = .ok one ∧
      executeSshCommand limit (some .connected) (.stream second other) = .ok two ∧
      ((Faithful limit (stdoutData first) one.stdout ∧
          Faithful limit (stdoutData second) two.stdout ∧ one.stdout = two.stdout) ↔
        Intact limit (stdoutData first) ∧ Intact limit (stdoutData second) ∧
          SameCut limit (stdoutData first) (stdoutData second)) := by
  refine ⟨monitorStream limit first code, monitorStream limit second other, rfl, rfl, ?_⟩
  rw [monitorStream_stdout, monitorStream_stdout, ← faithful_iff, ← faithful_iff]
  constructor
  · rintro ⟨hfirst, hsecond, hsame⟩
    exact ⟨hfirst, hsecond, (sameText_iff h hfirst hsecond).mp hsame⟩
  · rintro ⟨hfirst, hsecond, hsame⟩
    exact ⟨hfirst, hsecond, (sameText_iff h hfirst hsecond).mpr hsame⟩

theorem intact_of_cut {fitting later : List Bytes}
    (hsplit : splitFitting limit 0 data = (fitting, chunk :: later))
    (hunsplit : fitting.flatMap Utf8.decode = Utf8.decode fitting.flatten)
    (hbytes : byteLength (Utf8.decode fitting.flatten ++ stdoutMarker) ≤ limit + byteLength stdoutMarker)
    (hpre : Utf8.decode fitting.flatten <+: Utf8.decode (fitting.flatten ++ (chunk :: later).flatten))
    (hlate : ∀ other ∈ later, other ≠ [] → limit < (Utf8.decode fitting.flatten ++ stdoutMarker).length + (Utf8.decode other).length) :
    Intact limit data where
  unsplit := by
    rw [hsplit]
    exact (Utf8.flatMap_decode_eq_iff fitting).mp hunsplit
  whole hnil := by
    rw [hsplit] at hnil
    cases hnil
  cut := by
    rw [hsplit]
    intro other rest heq
    obtain ⟨rfl, rfl⟩ := List.cons.inj heq
    exact ⟨hbytes, (Utf8.decode_prefix_iff _ _).mp hpre, hlate⟩

-- A letter of two bytes and four more, cut off after the second letter in either split.
theorem executeSshCommand_stdout_resplit :
    let first := [ExecEvent.stdout [0xC3, 0xA9], .stdout [0x62], .stdout [0x63, 0x64, 0x65]]
    let second := [ExecEvent.stdout [0xC3, 0xA9, 0x62], .stdout [0x63, 0x64], .stdout [0x65]]
    (monitorStream 3 first none).stdout = (monitorStream 3 second none).stdout := by
  intro first second
  obtain ⟨one, two, hone, htwo, hiff⟩ :=
    @executeSshCommand_stdout_iff 3 first second none none rfl
  cases hone
  cases htwo
  refine (hiff.mpr ⟨?_, ?_, rfl⟩).2.2
  · exact intact_of_cut rfl rfl (by decide) (by decide) (by simp)
  · exact intact_of_cut rfl rfl (by decide) (by decide) (by decide)

-- Two bytes of one letter that come in two events.
def splitLetter : List ExecEvent :=
  [.stdout [0xC3], .stdout [0xA9]]

theorem executeSshCommand_stdout_not_split :
    ¬∀ (limit : Nat) (events : List ExecEvent) (code : Option Int) (result : ExecResult),
      executeSshCommand limit (some .connected) (.stream events code) = .ok result →
        Faithful limit (stdoutData events) result.stdout := by
  intro hall
  have hfaithful := hall 1000 splitLetter (some 0) (monitorStream 1000 splitLetter (some 0)) rfl
  have htext : [0xFFFD, 0xFFFD] = Utf8.decode [0xC3, 0xA9] := hfaithful.whole rfl
  have hlength := congrArg List.length htext
  have hletter : (Utf8.decode [0xC3, 0xA9]).length = 1 := rfl
  rw [hletter] at hlength
  cases hlength

end Returned

end WebSsh2.Ssh.Exec

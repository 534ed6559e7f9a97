import WebSsh2.Sftp.OperationReplies

namespace WebSsh2.Sftp.Operations

open WebSsh2.Library WebSsh2.State Upload

section Results

-- The calls of a run, and what it told the client.
def Entry.isCall : Entry → Bool
  | .shared _ _ | .file _ _ => true
  | _ => false

def calls (entries : List Entry) : List Entry :=
  entries.filter Entry.isCall

theorem Entry.Preparatory.isCall {entry : Entry} (h : entry.Preparatory) : entry.isCall = true := by
  cases entry with
  | shared call answer | file call answer => rfl
  | message message | reply reply => exact h.elim

theorem Entry.On.isCall {checked : JsString} {entry : Entry} (h : entry.On checked) :
    entry.isCall = true := by
  cases entry with
  | shared call answer | file call answer => rfl
  | message message | reply reply => exact h.elim

-- A preparatory call changes nothing.
theorem Entry.Preparatory.change {entry : Entry} (h : entry.Preparatory) :
    entry.change = none ∧ entry.confirmed = none := by
  cases entry with
  | shared call answer => exact ⟨rfl, rfl⟩
  | file call answer | message message | reply reply => exact h.elim

theorem changes_preparatory {entries : List Entry} (h : ∀ entry ∈ entries, entry.Preparatory) :
    changes entries = [] ∧ confirmed entries = [] :=
  ⟨List.filterMap_eq_nil_iff.mpr fun entry hentry => (h entry hentry).change.1,
    List.filterMap_eq_nil_iff.mpr fun entry hentry => (h entry hentry).change.2⟩

variable {α : Type} {expand : JsString → JsString → JsString} {admitted : JsString → Prop}
  {kind : FileKind} {Fits : JsString → α → Prop} {entries : List Entry}
  {result : Except SftpServiceError α}

theorem Performs.isCall (h : Performs expand admitted kind Fits entries result) :
    ∀ entry ∈ entries, entry.isCall = true := by
  cases h with
  | refused error => nofun
  | unprepared error hadmitted hprep => exact fun entry hentry => (hprep entry hentry).isCall
  | performed hadmitted hprep hresolved hacts =>
    rw [List.forall_mem_append]
    exact ⟨fun entry hentry => (hprep entry hentry).isCall,
      fun entry hentry => (hacts.on entry hentry).isCall⟩

-- One path is behind all the calls, and behind a success.
theorem Performs.fits (h : Performs expand admitted kind Fits entries result) :
    ∃ checked, (∀ entry ∈ entries, entry.Preparatory ∨ entry.On checked) ∧
      ∀ value, result = .ok value → Fits checked value := by
  cases h with
  | refused error => exact ⟨[], nofun, nofun⟩
  | unprepared error hadmitted hprep =>
    exact ⟨[], fun entry hentry => .inl (hprep entry hentry), nofun⟩
  | @performed prep rest checked _ hadmitted hprep hresolved hacts =>
    refine ⟨checked, ?_, hacts.fits⟩
    rw [List.forall_mem_append]
    exact ⟨fun entry hentry => .inl (hprep entry hentry),
      fun entry hentry => .inr (hacts.on entry hentry)⟩

variable (name : BackendName) (runtime : Runtime) (config : SftpConfig) (uploads : UploadConfig)
  (now : Time) (maxFileSize : Nat) (transferId : TransferId) (connectionId : Option ConnectionId)
  (sessionId : Option SessionId) (state : name.backend.State) (message : FileMessage)

theorem backend_handled :
    (handle runtime maxFileSize
      ⟨some (fileOperations runtime config uploads now name), connectionId, sessionId⟩ transferId
      state message).Ensures fun events _ =>
        Handled name.backend.expand (message.path runtime maxFileSize)
          (fun requested => Admitted runtime config requested message.kind.checksExtension)
          message.kind transferId (trail events) := by
  apply handle_handled
  intro sftp hsftp
  obtain rfl := Option.some.inj hsftp
  exact fileOperations_lawful runtime config uploads now name

-- Answers that let any run go on.
def noAnswers {σ : Type} (state : σ) : (request : AnyRequest σ) → AnyAnswer request
  | .inl (.emit _) => ()
  | .inl (.await _ call) => (state,
      match call with
      | .sftpChannel _ | .realpath _ | .stat _ | .readdir _ => Reply.timedOut
      | .openFile _ | .execStream _ => Except.error []
      | .executeCommand _ => CommandReply.timedOut)
  | .inr (.emit _) => ()
  | .inr (.await _ call) => (state,
      match call with
      | .stat _ | .mkdir _ _ | .unlink _ | .rmdir _ => Reply.timedOut
      | .create _ _ | .execInto _ => Opened.timedOut)

-- The checks have one answer, and a path that passes them has a resolution.
theorem Admitted.unique {runtime : Runtime} {config : SftpConfig} {path : JsString}
    {checkExtension : Bool} {first second : JsString}
    (hfirst : Admitted runtime config path checkExtension first)
    (hsecond : Admitted runtime config path checkExtension second) : first = second :=
  Except.ok.inj (hfirst.2.symm.trans hsecond.2)

theorem exists_resolved (expand : JsString → JsString → JsString) (normalized : JsString) :
    ∃ checked, Resolved expand normalized checked := by
  by_cases htilde : isTildePath normalized = true
  · exact ⟨_, by rw [Resolved, if_pos htilde]; exact ⟨js "/", rfl, rfl⟩⟩
  · exact ⟨normalized, by rw [Resolved, if_neg htilde]⟩

theorem AbsoluteHome.left {first second : List Entry} (h : AbsoluteHome (first ++ second)) :
    AbsoluteHome first :=
  fun path home hmem => h path home (List.mem_append_left _ hmem)

theorem Performs.confined {runtime : Runtime} {config : SftpConfig} {path : JsString}
    {checkExtension : Bool}
    (h : Performs expand (Admitted runtime config path checkExtension) kind Fits entries result) :
    entries = [] ∨ ∃ normalized checked, Admitted runtime config path checkExtension normalized ∧
      (AbsoluteHome entries → Resolved expand normalized checked) ∧
      ∀ entry ∈ entries, entry.Preparatory ∨ entry.On checked := by
  cases h with
  | refused error => exact .inl rfl
  | unprepared error hadmitted hprep =>
    obtain ⟨normalized, hadmitted⟩ := hadmitted
    obtain ⟨checked, hresolved⟩ := exists_resolved expand normalized
    exact .inr ⟨normalized, checked, hadmitted, fun _ => hresolved,
      fun entry hentry => .inl (hprep entry hentry)⟩
  | @performed prep rest checked _ hadmitted hprep hresolved hacts =>
    obtain ⟨normalized, hadmitted⟩ := hadmitted
    refine .inr ⟨normalized, checked, hadmitted, fun habsolute => ?_, ?_⟩
    · obtain ⟨other, hother, hpath⟩ := hresolved habsolute.left
      rwa [hadmitted.unique hother]
    · rw [List.forall_mem_append]
      exact ⟨fun entry hentry => .inl (hprep entry hentry),
        fun entry hentry => .inr (hacts.on entry hentry)⟩

-- No call leaves the server for a path that the checks refuse, and every call that names a
-- path names the resolution of the one that they accepted.
theorem handle_confined :
    (handle runtime maxFileSize
      ⟨some (fileOperations runtime config uploads now name), connectionId, sessionId⟩ transferId
      state message).Ensures fun events _ =>
        calls (trail events) = [] ∨ ∃ requested normalized checked,
          message.path runtime maxFileSize = .ok requested ∧
          Admitted runtime config requested message.kind.checksExtension normalized ∧
          (AbsoluteHome (trail events) → Resolved name.backend.expand normalized checked) ∧
          ∀ entry ∈ calls (trail events), entry.Preparatory ∨ entry.On checked := by
  refine (backend_handled name runtime config uploads now maxFileSize transferId connectionId
    sessionId state message).mono fun events _ h => ?_
  generalize trail events = entries at h
  cases h with
  | refused operation error hoperation => exact .inl rfl
  | @performed _ _ made _ requested reply hpath hperforms hreply hok =>
    have hcalls : calls (made ++ [.reply reply]) = made := by
      rw [calls, List.filter_append, List.filter_eq_self.mpr hperforms.isCall]
      exact List.append_nil made
    rw [hcalls]
    rcases hperforms.confined with hnone | ⟨normalized, checked, hadmitted, hresolved, hon⟩
    · exact .inl hnone
    · exact .inr ⟨requested, normalized, checked, hpath, hadmitted,
        fun habsolute => hresolved habsolute.left, hon⟩

-- A server that answers the calls for the home directory and for its listing.
def homeAnswers : (request : AnyRequest SftpService) → AnyAnswer request
  | .inl request => answering request
  | request => noAnswers connectedService request

def listHome : FileTask SftpService SftpService :=
  handle asciiRuntime 0
    ⟨some (fileOperations asciiRuntime openConfig ⟨1, 1, Nat.one_pos, Nat.one_pos⟩ 0 .sftp),
      some (js "c1"), some (js "s1")⟩
    (js "t1") connectedService (.list (some (.object [(js "path", .string (js "~/docs"))])))

def homeEntries : List Entry :=
  trail (listHome.play homeAnswers).1

theorem homeEntries_eq : homeEntries = [
    .shared (.sftpChannel (js "c1")) (Reply.ok () : Reply Unit),
    .shared (.realpath (js ".")) (Reply.ok (js "/home/alice") : Reply JsString),
    .shared (.readdir (js "/home/alice/docs")) (Reply.ok [] : Reply (List FileEntry)),
    .reply (.directory { path := js "/home/alice/docs", entries := [] })] := by rfl

theorem handle_confined_home :
    AbsoluteHome homeEntries ∧ ∃ normalized,
      Admitted asciiRuntime openConfig (js "~/docs") false normalized ∧
      Resolved BackendName.sftp.backend.expand normalized (js "/home/alice/docs") := by
  have hhome : AbsoluteHome homeEntries := by
    rw [homeEntries_eq]
    intro path home hmem
    simp only [List.mem_cons, List.not_mem_nil, or_false] at hmem
    rcases hmem with h | h | h | h <;> cases h
    rfl
  have hrun := (Prog.ensures_iff_runs _ _).mp (handle_confined .sftp asciiRuntime openConfig _ 0 0
    (js "t1") (some (js "c1")) (some (js "s1")) connectedService _) _ _
    (Prog.runs_play homeAnswers listHome)
  change calls homeEntries = [] ∨ _ at hrun
  rcases hrun with hnone | ⟨requested, normalized, checked, hpath, hadmitted, hresolved, hon⟩
  · rw [homeEntries_eq] at hnone
    cases hnone
  · change ∀ entry ∈ calls homeEntries, _ at hon
    rw [homeEntries_eq] at hon
    cases hpath
    rcases hon _ (.tail _ (.tail _ (.head _))) with hprep | rfl
    · exact hprep.elim
    · exact ⟨hhome, normalized, hadmitted, hresolved hhome⟩

-- What is removed was looked at before, and is removed as what it was seen to be.
def Seen (entries : List Entry) : Prop :=
  ∀ earlier call answer later, entries = earlier ++ .file call answer :: later → ∀ path,
    (call = .unlink path → ∃ attrs, .file (.stat path) (Reply.ok attrs : Reply Attributes) ∈
      earlier ∧ getFileType attrs.mode ≠ .directory) ∧
    (call = .rmdir path → ∃ attrs, .file (.stat path) (Reply.ok attrs : Reply Attributes) ∈
      earlier ∧ getFileType attrs.mode = .directory)

-- An item of a joined list stands in the first part or behind it.
theorem append_eq_append_cons {β : Type} {first second earlier later : List β} {item : β}
    (h : first ++ second = earlier ++ item :: later) :
    item ∈ first ∨ ∃ inner, earlier = first ++ inner ∧ second = inner ++ item :: later := by
  rcases List.append_eq_append_iff.mp h with ⟨inner, hearlier, hsecond⟩ | ⟨inner, hfirst, hlater⟩
  · exact .inr ⟨inner, hearlier, hsecond⟩
  · cases inner with
    | nil =>
      rw [List.append_nil] at hfirst
      exact .inr ⟨[], by rw [hfirst, List.append_nil], hlater.symm⟩
    | cons head tail =>
      obtain ⟨rfl, -⟩ := List.cons.inj hlater
      rw [hfirst]
      exact .inl (List.mem_append_right _ List.mem_cons_self)

theorem Acts.removes {checked : JsString} (h : Acts kind Fits checked entries result) :
    Seen entries := by
  intro earlier call answer later hentries path
  have hon : (Entry.file call answer).On checked := by
    refine h.on _ ?_
    rw [hentries]
    exact List.mem_append_right _ List.mem_cons_self
  obtain ⟨hunlink, hrmdir⟩ := h.seen earlier call answer later hentries
  constructor
  · rintro rfl
    obtain rfl : path = checked := hon
    exact hunlink rfl
  · rintro rfl
    obtain rfl : path = checked := hon
    exact hrmdir rfl

-- What stands in front of the calls at the path, and the reply behind them, remove nothing.
theorem Seen.append {first second : List Entry} (h : Seen second)
    (hfirst : ∀ entry ∈ first, ∀ call answer, entry ≠ .file call answer) :
    Seen (first ++ second) := by
  intro earlier call answer later hentries path
  rcases append_eq_append_cons hentries with hmem | ⟨inner, rfl, hsecond⟩
  · exact absurd rfl (hfirst _ hmem call answer)
  · obtain ⟨hunlink, hrmdir⟩ := h inner call answer later hsecond path
    refine ⟨fun hcall => ?_, fun hcall => ?_⟩
    · obtain ⟨attrs, hmem, htype⟩ := hunlink hcall
      exact ⟨attrs, List.mem_append_right _ hmem, htype⟩
    · obtain ⟨attrs, hmem, htype⟩ := hrmdir hcall
      exact ⟨attrs, List.mem_append_right _ hmem, htype⟩

theorem Seen.concat_reply (h : Seen entries) (reply : SftpReply) :
    Seen (entries ++ [.reply reply]) := by
  intro earlier call answer later hentries path
  rcases List.append_eq_append_iff.mp hentries with ⟨inner, hearlier, hlast⟩ | ⟨inner, hfirst, hlater⟩
  · cases inner with
    | nil => cases hlast
    | cons head tail => cases tail <;> cases hlast
  · cases inner with
    | nil => cases hlater
    | cons head tail =>
      obtain ⟨rfl, -⟩ := List.cons.inj hlater
      exact h earlier call answer tail hfirst path

theorem seen_nil : Seen [] := by
  intro earlier call answer later hentries
  simp at hentries

theorem Performs.seen (h : Performs expand admitted kind Fits entries result) : Seen entries := by
  have hcalls : ∀ {made : List Entry}, (∀ entry ∈ made, entry.Preparatory) →
      ∀ entry ∈ made, ∀ call answer, entry ≠ .file call answer := by
    rintro made hprep entry hentry call answer rfl
    exact hprep _ hentry
  cases h with
  | refused error => exact seen_nil
  | unprepared error hadmitted hprep =>
    rw [← List.append_nil entries]
    exact seen_nil.append (hcalls hprep)
  | performed hadmitted hprep hresolved hacts => exact hacts.removes.append (hcalls hprep)

theorem Performs.changes (h : Performs expand admitted kind Fits entries result) :
    (changes entries).length ≤ 1 ∧ (kind.changing = false → changes entries = []) ∧
      (kind.changing = true → ((∃ value, result = .ok value) ↔ confirmed entries ≠ [])) := by
  cases h with
  | refused error => exact ⟨Nat.zero_le _, fun _ => rfl, fun _ => ⟨nofun, fun h => absurd rfl h⟩⟩
  | unprepared error hadmitted hprep =>
    obtain ⟨hchanges, hconfirmed⟩ := changes_preparatory hprep
    rw [hchanges, hconfirmed]
    exact ⟨Nat.zero_le _, fun _ => rfl, fun _ => ⟨nofun, fun h => absurd rfl h⟩⟩
  | @performed prep rest checked _ hadmitted hprep hresolved hacts =>
    obtain ⟨hchanges, hconfirmed⟩ := changes_preparatory hprep
    rw [changes_append, confirmed_append, hchanges, hconfirmed, List.nil_append, List.nil_append]
    refine ⟨hacts.once, fun hkind => ?_, hacts.truthful⟩
    refine List.eq_nil_iff_forall_not_mem.mpr fun call hcall => ?_
    have hallowed := hacts.allowed call hcall
    cases kind with
    | list | stat => exact hallowed
    | mkdir | delete | upload => cases hkind

-- A message changes at most one thing, nothing where it only asks to look, and success is
-- reported exactly where the remote side confirmed the change. What is removed was looked at
-- before, and is removed as the file or the directory that it was seen to be.
theorem handle_changes :
    (handle runtime maxFileSize
      ⟨some (fileOperations runtime config uploads now name), connectionId, sessionId⟩ transferId
      state message).Ensures fun events _ =>
        (changes (trail events)).length ≤ 1 ∧
        (message.kind.changing = false → changes (trail events) = []) ∧
        (message.kind.changing = true →
          ((∃ reply, .reply reply ∈ trail events ∧ reply.isError = false) ↔
            confirmed (trail events) ≠ [])) ∧
        Seen (trail events) := by
  refine (backend_handled name runtime config uploads now maxFileSize transferId connectionId
    sessionId state message).mono fun events _ h => ?_
  generalize trail events = entries at h
  cases h with
  | refused operation error hoperation =>
    refine ⟨Nat.zero_le _, fun _ => rfl, fun _ => ⟨?_, fun h => absurd rfl h⟩, ?_⟩
    · rintro ⟨reply, hmem, hsuccess⟩
      obtain rfl : reply = .error operation error := by simpa using hmem
      cases hsuccess
    · exact seen_nil.concat_reply _
  | @performed _ _ made _ requested reply hpath hperforms hreply hok =>
    obtain ⟨honce, hreading, htruth⟩ := hperforms.changes
    have hchanges : changes (made ++ [.reply reply]) = changes made := by
      rw [changes_append]
      exact List.append_nil _
    have hconfirmed : confirmed (made ++ [.reply reply]) = confirmed made := by
      rw [confirmed_append]
      exact List.append_nil _
    rw [hchanges, hconfirmed]
    refine ⟨honce, hreading, fun hkind => ?_, hperforms.seen.concat_reply reply⟩
    rw [← htruth hkind, ← hok]
    constructor
    · rintro ⟨other, hmem, hsuccess⟩
      rcases List.mem_append.mp hmem with hmade | hlast
      · cases hperforms.isCall _ hmade
      · obtain rfl : other = reply := by simpa using hlast
        exact hsuccess
    · exact fun h => ⟨reply, List.mem_append_right _ List.mem_cons_self, h⟩

end Results

end WebSsh2.Sftp.Operations

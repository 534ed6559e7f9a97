import WebSsh2.Sftp.Operations

namespace WebSsh2.Sftp.Operations

open WebSsh2.Library WebSsh2.State Upload

-- What a request asks for.
inductive FileKind where
  | list | stat | mkdir | delete | upload
deriving DecidableEq

-- What a run does, seen from outside: a call that was answered, or something for the client.
inductive Entry where
  | shared (call : RemoteCall) (answer : call.Answer)
  | file (call : FileCall) (answer : call.Answer)
  | message (message : SftpMessage)
  | reply (reply : SftpReply)

abbrev AnyEvents (σ : Type) := List (Event (AnyRequest σ) AnyAnswer)

section Trails

variable {σ : Type}

def entry : Event (AnyRequest σ) AnyAnswer → Entry
  | ⟨.inl (.await _ call), answer⟩ => .shared call (answer : σ × call.Answer).2
  | ⟨.inl (.emit message), _⟩ => .message message
  | ⟨.inr (.await _ call), answer⟩ => .file call (answer : σ × call.Answer).2
  | ⟨.inr (.emit reply), _⟩ => .reply reply

def trail (events : AnyEvents σ) : List Entry :=
  events.map entry

@[simp] theorem trail_nil : trail ([] : AnyEvents σ) = [] := rfl

@[simp] theorem trail_append (first second : AnyEvents σ) :
    trail (first ++ second) = trail first ++ trail second :=
  List.map_append

end Trails

-- A call that finds the session or the home directory; it names no path of the request.
def Entry.Preparatory : Entry → Prop
  | .shared (.sftpChannel _) _ => True
  | .shared (.realpath path) _ => path = js "."
  | .shared (.executeCommand command) _ => command = buildHomeCommand
  | _ => False

-- A call about one path, in one of the ways of the two backends.
def Entry.On (checked : JsString) : Entry → Prop
  | .shared (.readdir path) _ => path = checked
  | .shared (.executeCommand command) _ =>
    command = buildStatCommand checked ∨ ∃ showHidden, command = buildListCommand checked showHidden
  | .file (.stat path) _ | .file (.mkdir path _) _ | .file (.unlink path) _
  | .file (.rmdir path) _ | .file (.create path _) _ => path = checked
  | .file (.execInto command) _ => command = catIntoCommand checked
  | _ => False

def FileCall.changes : FileCall → Bool
  | .stat _ => false
  | _ => true

def granted {β : Type} : Reply β → Bool
  | .ok _ => true
  | _ => false

def Opened.granted : Opened → Bool
  | .open => true
  | _ => false

-- The remote side says that the change was made.
def FileCall.confirms : (call : FileCall) → call.Answer → Bool
  | .stat _, _ => false
  | .mkdir _ _, answer | .unlink _, answer | .rmdir _, answer => granted (answer : Reply Unit)
  | .create _ _, answer | .execInto _, answer => (answer : Opened).granted

def Entry.change : Entry → Option FileCall
  | .file call _ => if call.changes then some call else none
  | _ => none

def Entry.confirmed : Entry → Option FileCall
  | .file call answer => if call.confirms answer then some call else none
  | _ => none

-- The changes that were asked for, and those of them that were confirmed.
def changes (entries : List Entry) : List FileCall :=
  entries.filterMap Entry.change

def confirmed (entries : List Entry) : List FileCall :=
  entries.filterMap Entry.confirmed

@[simp] theorem changes_append (first second : List Entry) :
    changes (first ++ second) = changes first ++ changes second :=
  List.filterMap_append

@[simp] theorem confirmed_append (first second : List Entry) :
    confirmed (first ++ second) = confirmed first ++ confirmed second :=
  List.filterMap_append

-- The change that a request of each kind may ask for.
def FileKind.Allows (checked : JsString) : FileKind → FileCall → Prop
  | .mkdir, .mkdir path _ => path = checked
  | .delete, .unlink path | .delete, .rmdir path => path = checked
  | .upload, .create path _ => path = checked
  | .upload, .execInto command => command = catIntoCommand checked
  | _, _ => False

def FileKind.changing : FileKind → Bool
  | .list | .stat => false
  | _ => true

-- What is removed, and how, depends on what the path was seen to be just before.
def TypeSeen (checked : JsString) (entries : List Entry) : Prop :=
  ∀ earlier call answer later, entries = earlier ++ .file call answer :: later →
    (call = .unlink checked → ∃ attrs, .file (.stat checked) (Reply.ok attrs : Reply Attributes) ∈
      earlier ∧ getFileType attrs.mode ≠ .directory) ∧
    (call = .rmdir checked → ∃ attrs, .file (.stat checked) (Reply.ok attrs : Reply Attributes) ∈
      earlier ∧ getFileType attrs.mode = .directory)

-- What an operation does once the path is resolved.
structure Acts {α : Type} (kind : FileKind) (Fits : JsString → α → Prop) (checked : JsString)
    (entries : List Entry) (result : Except SftpServiceError α) : Prop where
  on : ∀ entry ∈ entries, entry.On checked
  fits : ∀ value, result = .ok value → Fits checked value
  allowed : ∀ call ∈ changes entries, kind.Allows checked call
  once : (changes entries).length ≤ 1
  truthful : kind.changing = true → ((∃ value, result = .ok value) ↔ confirmed entries ≠ [])
  seen : TypeSeen checked entries

-- An SFTP server answers `realpath` with an absolute path.
def AbsoluteHome (entries : List Entry) : Prop :=
  ∀ path home, .shared (.realpath path) (Reply.ok home : Reply JsString) ∈ entries →
    home.head? = some 47

-- The request passes the checks that come before any call.
def Admitted (runtime : Runtime) (config : SftpConfig) (path : JsString) (checkExtension : Bool)
    (normalized : JsString) : Prop :=
  config.enabled = true ∧ validatePath runtime.toLowerCase path
    (getPathValidationOptions config checkExtension) = .ok normalized

-- What the setup of an operation leaves.
structure SetsUp (expand : JsString → JsString → JsString) (admitted : JsString → Prop)
    (entries : List Entry) (result : Except SftpServiceError JsString) : Prop where
  preparatory : ∀ entry ∈ entries, entry.Preparatory
  refused : (∃ normalized, admitted normalized) ∨ (entries = [] ∧ ∃ error, result = .error error)
  resolved : ∀ checked, result = .ok checked → AbsoluteHome entries →
    ∃ normalized, admitted normalized ∧ Resolved expand normalized checked

-- What a whole operation does: nothing where the path is refused, else the setup, and then
-- what its kind does at the resolved path.
inductive Performs {α : Type} (expand : JsString → JsString → JsString)
    (admitted : JsString → Prop) (kind : FileKind) (Fits : JsString → α → Prop) :
    List Entry → Except SftpServiceError α → Prop where
  | refused (error : SftpServiceError) : Performs expand admitted kind Fits [] (.error error)
  | unprepared {entries : List Entry} (error : SftpServiceError)
      (hadmitted : ∃ normalized, admitted normalized)
      (hprep : ∀ entry ∈ entries, entry.Preparatory) :
      Performs expand admitted kind Fits entries (.error error)
  | performed {prep rest : List Entry} {checked : JsString} {result : Except SftpServiceError α}
      (hadmitted : ∃ normalized, admitted normalized)
      (hprep : ∀ entry ∈ prep, entry.Preparatory)
      (hresolved : AbsoluteHome prep →
        ∃ normalized, admitted normalized ∧ Resolved expand normalized checked)
      (hacts : Acts kind Fits checked rest result) :
      Performs expand admitted kind Fits (prep ++ rest) result

section Setup

variable {α : Type} {expand : JsString → JsString → JsString} {admitted : JsString → Prop}
  {kind : FileKind} {Fits : JsString → α → Prop} {entries rest : List Entry}

theorem SetsUp.performs_error {error : SftpServiceError} (other : SftpServiceError)
    (h : SetsUp expand admitted entries (.error error)) :
    Performs expand admitted kind Fits entries (.error other) := by
  rcases h.refused with hadmitted | ⟨rfl, -⟩
  · exact .unprepared other hadmitted h.preparatory
  · exact .refused other

theorem SetsUp.performs_ok {checked : JsString} {result : Except SftpServiceError α}
    (h : SetsUp expand admitted entries (.ok checked)) (hacts : Acts kind Fits checked rest result) :
    Performs expand admitted kind Fits (entries ++ rest) result := by
  rcases h.refused with hadmitted | ⟨-, error, herror⟩
  · exact .performed hadmitted h.preparatory (h.resolved checked rfl) hacts
  · cases herror

theorem validateOperationPreconditions_ok_iff {runtime : Runtime} {config : SftpConfig}
    {path : JsString} {checkExtension : Bool} {transferId : Option TransferId}
    {normalized : JsString} :
    validateOperationPreconditions runtime config path checkExtension transferId =
        .ok normalized ↔ Admitted runtime config path checkExtension normalized := by
  unfold validateOperationPreconditions Admitted
  cases henabled : config.enabled with
  | false => simp
  | true =>
    cases validatePath runtime.toLowerCase path
      (getPathValidationOptions config checkExtension) <;> simp

theorem absoluteRealpath_of_absoluteHome {σ : Type} {events : Events σ}
    (h : AbsoluteHome (trail (events.map Prog.liftEvent))) : AbsoluteRealpath events := by
  intro state path answer hmem home hhome
  refine h path home ?_
  have hentry := List.mem_map_of_mem (f := fun event => entry (Prog.liftEvent event)) hmem
  obtain ⟨after, reply⟩ := answer
  obtain rfl : reply = Reply.ok home := hhome
  rw [trail, List.map_map]
  exact hentry

end Setup

-- What the setup of a backend asks for, and when it asks for nothing.
def Prepares {σ : Type} (runtime : Runtime) (config : SftpConfig)
    (request : DownloadStartRequest) (checkExtension : Bool) (events : Events σ)
    (result : Except SftpServiceError JsString) : Prop :=
  (∀ entry ∈ trail (events.map Prog.liftEvent), entry.Preparatory) ∧
    ((∃ normalized, Admitted runtime config request.remotePath checkExtension normalized) ∨
      (events = [] ∧ ∃ error, result = .error error))

-- The facts about the setup of a backend, said of the lifted program with its own errors.
theorem SetsUp.of_prepares {σ : Type} {expand : JsString → JsString → JsString} {runtime : Runtime} {config : SftpConfig}
    {options : OperationSetupOptions} {checkExtension : Bool} {transferId : TransferId}
    {events : Events σ} {result : Except SftpServiceError JsString}
    (relabel : SftpServiceError → SftpServiceError)
    (hprep : Prepares runtime config (options.request transferId) checkExtension events result)
    (hresolved : ∀ checked, result = .ok checked → AbsoluteRealpath events →
      ∃ normalized, validateOperationPreconditions runtime config options.path checkExtension
        (some transferId) = .ok normalized ∧ Resolved expand normalized checked) :
    SetsUp expand (Admitted runtime config options.path checkExtension)
      (trail (events.map Prog.liftEvent)) (result.mapError relabel) := by
  refine ⟨hprep.1, ?_, fun checked hchecked habsolute => ?_⟩
  · rcases hprep.2 with hadmitted | ⟨rfl, error, rfl⟩
    · exact .inl hadmitted
    · exact .inr ⟨rfl, relabel error, rfl⟩
  · cases result with
    | error error => cases hchecked
    | ok path =>
      obtain ⟨normalized, hvalid, hpath⟩ :=
        hresolved path rfl (absoluteRealpath_of_absoluteHome habsolute)
      obtain rfl : path = checked := Except.ok.inj hchecked
      exact ⟨normalized, validateOperationPreconditions_ok_iff.mp hvalid, hpath⟩

namespace SftpService

theorem ensureSession_prepares (service : SftpService) (connectionId : ConnectionId)
    (sessionId : SessionId) :
    (WebSsh2.Sftp.SftpService.ensureSession service connectionId sessionId).Ensures
      fun events _ => ∀ entry ∈ trail (events.map Prog.liftEvent), entry.Preparatory := by
  unfold WebSsh2.Sftp.SftpService.ensureSession SftpSessionManager.openSession
  split
  · intro entry hentry
    cases hentry
  · split
    · intro entry hentry
      cases hentry
    · rintro ⟨after, reply⟩
      have honly : ∀ entry ∈ trail (([⟨.await service (.sftpChannel connectionId),
          (after, reply)⟩] : Events SftpService).map Prog.liftEvent), entry.Preparatory := by
        intro entry hentry
        obtain rfl := List.mem_singleton.mp hentry
        trivial
      cases (reply : Reply Unit) <;> exact honly

variable (runtime : Runtime)

theorem resolveTildePath_prepares (service : SftpService) (path : JsString) :
    (WebSsh2.Sftp.SftpService.resolveTildePath runtime service path).Ensures
      fun events _ => ∀ entry ∈ trail (events.map Prog.liftEvent), entry.Preparatory := by
  unfold WebSsh2.Sftp.SftpService.resolveTildePath SftpSessionManager.expandTildePath
  by_cases htilde : isTildePath path = true
  · simp only [if_pos htilde]
    rintro ⟨after, reply⟩ entry hentry
    obtain rfl := List.mem_singleton.mp hentry
    rfl
  · simp only [if_neg htilde]
    intro entry hentry
    cases hentry

theorem setupOperation_prepares (config : SftpConfig) (service : SftpService)
    (request : DownloadStartRequest) (checkExtension : Bool) :
    (WebSsh2.Sftp.SftpService.setupOperation runtime config service request
      checkExtension).Ensures fun events outcome =>
        Prepares runtime config request checkExtension events outcome.2 := by
  unfold WebSsh2.Sftp.SftpService.setupOperation
  split
  · rename_i error _
    exact ⟨by simp, .inr ⟨rfl, error, rfl⟩⟩
  · rename_i normalized hvalid
    have hadmitted : ∃ normalized,
        Admitted runtime config request.remotePath checkExtension normalized :=
      ⟨normalized, validateOperationPreconditions_ok_iff.mp hvalid⟩
    refine (ensureSession_prepares service request.connectionId request.sessionId).bind ?_
    rintro first ⟨middle, sessionResult⟩ hfirst
    cases sessionResult with
    | error error =>
      refine ⟨?_, .inl hadmitted⟩
      rw [List.append_nil]
      exact hfirst
    | ok session =>
      refine (resolveTildePath_prepares runtime middle normalized).bind ?_
      rintro second ⟨after, resolved⟩ hsecond
      refine ⟨?_, .inl hadmitted⟩
      rw [List.append_nil, List.map_append, trail_append, List.forall_mem_append]
      exact ⟨hfirst, hsecond⟩

theorem setupOperation_sets (config : SftpConfig) (service : SftpService)
    (options : OperationSetupOptions) (checkExtension : Bool) (transferId : Option TransferId) :
    (setupOperation runtime config service options checkExtension transferId).Ensures
      fun events outcome => SetsUp expandHome (Admitted runtime config options.path checkExtension)
        (trail events) outcome.2 := by
  have hspec := (setupOperation_prepares runtime config service
    (options.request (transferId.getD [])) checkExtension).and
    (WebSsh2.Sftp.SftpService.setupOperation_spec runtime config service
      (options.request (transferId.getD [])) checkExtension)
  have hlift : (Prog.lift (WebSsh2.Sftp.SftpService.setupOperation runtime config service
      (options.request (transferId.getD [])) checkExtension)).Ensures fun events outcome =>
      SetsUp expandHome (Admitted runtime config options.path checkExtension)
        (trail (events : AnyEvents SftpService))
        (outcome.2.mapError fun error => { error with transferId }) :=
    hspec.lift fun events outcome h => SetsUp.of_prepares _ h.1 h.2.2
  refine hlift.bind ?_
  rintro first ⟨after, setup⟩ h
  rw [← List.append_nil first] at h
  exact h

end SftpService

namespace ShellFileService

variable (runtime : Runtime)

theorem executeCommand_trail (service : ShellFileService) (command : JsString) :
    (WebSsh2.Sftp.ShellFileService.executeCommand runtime service command).Ensures
      fun events _ => ∃ answer : CommandReply,
        trail (events.map Prog.liftEvent) = [.shared (.executeCommand command) answer] := by
  rintro ⟨after, reply⟩
  cases reply with
  | closed stdout stderr code =>
    by_cases hcode : code = some 0
    · subst hcode
      exact ⟨_, rfl⟩
    · show Prog.Ensures (if code ≠ some 0 then _ else _) _
      rw [if_pos hcode]
      exact ⟨_, rfl⟩
  | execError message | streamError message | timedOut => exact ⟨_, rfl⟩

theorem resolveTildePath_prepares (service : ShellFileService) (connectionId : ConnectionId)
    (path : JsString) :
    (WebSsh2.Sftp.ShellFileService.resolveTildePath runtime service connectionId path).Ensures
      fun events _ => ∀ entry ∈ trail (events.map Prog.liftEvent), entry.Preparatory := by
  have hnone : ∀ entry ∈ trail (([] : Events ShellFileService).map Prog.liftEvent),
      entry.Preparatory := by
    intro entry hentry
    cases hentry
  unfold WebSsh2.Sftp.ShellFileService.resolveTildePath
  by_cases htilde : isTildePath path = true
  · rw [if_pos htilde]
    split
    · exact hnone
    · split
      · exact hnone
      · refine (executeCommand_trail runtime service buildHomeCommand).bind ?_
        rintro first ⟨after, result⟩ ⟨answer, hfirst⟩
        have honly : ∀ entry ∈ trail ((first ++ []).map Prog.liftEvent), entry.Preparatory := by
          rw [List.append_nil, hfirst]
          intro entry hentry
          obtain rfl := List.mem_singleton.mp hentry
          rfl
        cases result with
        | error error => exact honly
        | ok stdout =>
          dsimp only
          split <;> exact honly
  · rw [if_neg htilde]
    exact hnone

theorem setupOperation_prepares (config : SftpConfig) (service : ShellFileService)
    (request : DownloadStartRequest) (checkExtension : Bool) :
    (WebSsh2.Sftp.ShellFileService.setupOperation runtime config service request
      checkExtension).Ensures fun events outcome =>
        Prepares runtime config request checkExtension events outcome.2 := by
  unfold WebSsh2.Sftp.ShellFileService.setupOperation
  split
  · rename_i error _
    exact ⟨by simp, .inr ⟨rfl, error, rfl⟩⟩
  · rename_i normalized hvalid
    have hadmitted : ∃ normalized,
        Admitted runtime config request.remotePath checkExtension normalized :=
      ⟨normalized, validateOperationPreconditions_ok_iff.mp hvalid⟩
    split
    · exact ⟨by simp, .inl hadmitted⟩
    · refine (resolveTildePath_prepares runtime _ request.connectionId normalized).bind ?_
      rintro first ⟨after, resolved⟩ hfirst
      refine ⟨?_, .inl hadmitted⟩
      rw [List.append_nil]
      exact hfirst

theorem setupOperation_sets (config : SftpConfig) (service : ShellFileService)
    (options : OperationSetupOptions) (checkExtension : Bool) (transferId : Option TransferId) :
    (setupOperation runtime config service options checkExtension transferId).Ensures
      fun events outcome => SetsUp expandShellHome
        (Admitted runtime config options.path checkExtension) (trail events) outcome.2 := by
  have hspec := (setupOperation_prepares runtime config service
    (options.request (transferId.getD [])) checkExtension).and
    (WebSsh2.Sftp.ShellFileService.setupOperation_spec runtime config service
      (options.request (transferId.getD [])) checkExtension)
  have hlift : (Prog.lift (WebSsh2.Sftp.ShellFileService.setupOperation runtime config service
      (options.request (transferId.getD [])) checkExtension)).Ensures fun events outcome =>
      SetsUp expandShellHome (Admitted runtime config options.path checkExtension)
        (trail (events : AnyEvents ShellFileService))
        (outcome.2.mapError fun error => { error with transferId }) :=
    hspec.lift fun events outcome h => SetsUp.of_prepares _ h.1 fun checked hchecked _ => h.2.2 checked hchecked
  refine hlift.bind ?_
  rintro first ⟨after, setup⟩ h
  rw [← List.append_nil first] at h
  exact h

end ShellFileService

section Acts

variable {α : Type} {kind : FileKind} {Fits : JsString → α → Prop} {checked : JsString}
  {result : Except SftpServiceError α}

theorem mem_changes {entries : List Entry} {call : FileCall} {answer : call.Answer}
    (h : .file call answer ∈ entries) (hchange : call.changes = true) : call ∈ changes entries :=
  List.mem_filterMap.mpr ⟨_, h, if_pos hchange⟩

-- Where nothing is removed there is nothing to be seen.
theorem typeSeen_of_changes {entries : List Entry}
    (h : ∀ call ∈ changes entries, call ≠ .unlink checked ∧ call ≠ .rmdir checked) :
    TypeSeen checked entries := by
  intro earlier call answer later hentries
  have hmem : .file call answer ∈ entries := by
    rw [hentries]
    exact List.mem_append_right _ List.mem_cons_self
  constructor
  · rintro rfl
    exact absurd rfl (h _ (mem_changes hmem rfl)).1
  · rintro rfl
    exact absurd rfl (h _ (mem_changes hmem rfl)).2

theorem typeSeen_of_reading {entries : List Entry} (h : changes entries = []) :
    TypeSeen checked entries := by
  refine typeSeen_of_changes fun call hcall => ?_
  rw [h] at hcall
  cases hcall

-- The removal that follows what was seen.
theorem typeSeen_removal (attrs : Attributes) (call : FileCall) (answer : call.Answer)
    (hunlink : call = .unlink checked → getFileType attrs.mode ≠ .directory)
    (hrmdir : call = .rmdir checked → getFileType attrs.mode = .directory) :
    TypeSeen checked
      [.file (.stat checked) (Reply.ok attrs : Reply Attributes), .file call answer] := by
  intro earlier other reply later hentries
  rcases earlier with - | ⟨head, - | ⟨next, tail⟩⟩
  · obtain ⟨hcall, -⟩ := List.cons.inj hentries
    injection hcall with hcall
    subst hcall
    exact ⟨nofun, nofun⟩
  · obtain ⟨rfl, htail⟩ := List.cons.inj hentries
    injection (List.cons.inj htail).1 with hcall
    subst hcall
    exact ⟨fun h => ⟨attrs, List.mem_cons_self, hunlink h⟩,
      fun h => ⟨attrs, List.mem_cons_self, hrmdir h⟩⟩
  · simp at hentries

-- A call that only reads.
theorem acts_shared {call : RemoteCall} {answer : call.Answer} (hkind : kind.changing = false)
    (hon : (Entry.shared call answer).On checked)
    (hfits : ∀ value, result = .ok value → Fits checked value) :
    Acts kind Fits checked [.shared call answer] result where
  on := by
    intro entry hentry
    obtain rfl := List.mem_singleton.mp hentry
    exact hon
  fits := hfits
  allowed := nofun
  once := Nat.zero_le _
  truthful := fun h => absurd (hkind.symm.trans h) (by decide)
  seen := typeSeen_of_reading rfl

theorem acts_stat {answer : Reply Attributes} (hkind : kind.changing = false)
    (hfits : ∀ value, result = .ok value → Fits checked value) :
    Acts kind Fits checked [.file (.stat checked) answer] result where
  on := by
    intro entry hentry
    obtain rfl := List.mem_singleton.mp hentry
    rfl
  fits := hfits
  allowed := nofun
  once := Nat.zero_le _
  truthful := fun h => absurd (hkind.symm.trans h) (by decide)
  seen := typeSeen_of_reading rfl

-- Calls that only read, and then no change after all.
theorem acts_refused {entries : List Entry} {error : SftpServiceError}
    (hon : ∀ entry ∈ entries, entry.On checked) (hchanges : changes entries = [])
    (hconfirmed : confirmed entries = []) :
    Acts kind Fits checked entries (.error error) where
  on := hon
  fits := nofun
  allowed := by
    rw [hchanges]
    nofun
  once := by
    rw [hchanges]
    exact Nat.zero_le _
  truthful := by
    intro _
    constructor
    · rintro ⟨value, hvalue⟩
      cases hvalue
    · exact fun h => absurd hconfirmed h
  seen := typeSeen_of_reading hchanges

-- One change, after calls that only read.
theorem acts_change {earlier : List Entry} {call : FileCall} {answer : call.Answer}
    (hon : ∀ entry ∈ earlier, entry.On checked) (hchanges : changes earlier = [])
    (hconfirmed : confirmed earlier = []) (hcall : (Entry.file call answer).On checked)
    (hchange : call.changes = true) (hallowed : kind.Allows checked call)
    (hfits : ∀ value, result = .ok value → Fits checked value)
    (htruth : (∃ value, result = .ok value) ↔ call.confirms answer = true)
    (hseen : TypeSeen checked (earlier ++ [.file call answer])) :
    Acts kind Fits checked (earlier ++ [.file call answer]) result := by
  have hone : changes (earlier ++ [.file call answer]) = [call] := by
    rw [changes_append, hchanges]
    simp [changes, Entry.change, hchange]
  refine ⟨?_, hfits, ?_, ?_, fun _ => htruth.trans ?_, hseen⟩
  · rw [List.forall_mem_append]
    refine ⟨hon, fun entry hentry => ?_⟩
    obtain rfl := List.mem_singleton.mp hentry
    exact hcall
  · rw [hone]
    intro other hother
    obtain rfl := List.mem_singleton.mp hother
    exact hallowed
  · rw [hone]
    exact Nat.le_refl 1
  · rw [confirmed_append, hconfirmed]
    by_cases hconfirms : call.confirms answer = true <;>
      simp [confirmed, Entry.confirmed, hconfirms]

end Acts

end WebSsh2.Sftp.Operations

import WebSsh2.Sftp.Download

namespace WebSsh2.Sftp

open WebSsh2.Library WebSsh2.State

-- How a backend examines and opens a path on the remote side.
structure Backend where
  State : Type
  service : Runtime → SftpConfig → Time → FileService State
  examine : JsString → RemoteCall
  openCall : JsString → RemoteCall
  expand : JsString → JsString → JsString

def sftpBackend : Backend where
  State := SftpService
  service := SftpService.fileService
  examine := .stat
  openCall := .openFile
  expand := expandHome

def shellBackend : Backend where
  State := ShellFileService
  service := ShellFileService.fileService
  examine := fun path => .executeCommand (buildStatCommand path)
  openCall := fun path => .execStream (catCommand path)
  expand := expandShellHome

inductive BackendName where
  | sftp | shell

def BackendName.backend : BackendName → Backend
  | .sftp => sftpBackend
  | .shell => shellBackend

abbrev Events (σ : Type) := List (Event (Request σ) Request.Answer)

section Calls

variable {σ : Type}

def remoteCall : Request σ → Option RemoteCall
  | .await _ call => some call
  | .emit _ => none

def emittedMessage : Request σ → Option SftpMessage
  | .await _ _ => none
  | .emit message => some message

def isExamine : RemoteCall → Bool
  | .stat _ => true
  | .executeCommand command => command ≠ buildHomeCommand
  | _ => false

def isOpen : RemoteCall → Bool
  | .openFile _ | .execStream _ => true
  | _ => false

variable (events : Events σ)

def emitted : List SftpMessage :=
  (Prog.requests events).filterMap emittedMessage

def examined : List RemoteCall :=
  ((Prog.requests events).filterMap remoteCall).filter isExamine

def opened (events : Events σ) : List RemoteCall :=
  ((Prog.requests events).filterMap remoteCall).filter isOpen

def Accepted : Prop :=
  ∃ response, .downloadReady response ∈ emitted events

-- An SFTP server answers `realpath` with an absolute path.
def AbsoluteRealpath : Prop :=
  ∀ state path answer, (⟨.await state (.realpath path), answer⟩ :
    Event (Request σ) Request.Answer) ∈ events →
    ∀ home, (answer : σ × Reply JsString).2 = .ok home → home.head? = some 47

variable (first second : Events σ)

@[simp] theorem emitted_append : emitted (first ++ second) = emitted first ++ emitted second := by
  simp [emitted]

@[simp] theorem examined_append :
    examined (first ++ second) = examined first ++ examined second := by
  simp [examined]

@[simp] theorem opened_append : opened (first ++ second) = opened first ++ opened second := by
  simp [opened]

theorem AbsoluteRealpath.left {first second : Events σ} (h : AbsoluteRealpath (first ++ second)) :
    AbsoluteRealpath first :=
  fun state path answer hmem => h state path answer (List.mem_append_left _ hmem)

theorem AbsoluteRealpath.right {first second : Events σ} (h : AbsoluteRealpath (first ++ second)) :
    AbsoluteRealpath second :=
  fun state path answer hmem => h state path answer (List.mem_append_right _ hmem)

end Calls

-- The path behind the tilde expansion of the normal form.
def Resolved (expand : JsString → JsString → JsString) (normalized checked : JsString) : Prop :=
  if isTildePath normalized = true then
    ∃ home : JsString, home.head? = some 47 ∧ checked = expand home normalized
  else
    checked = normalized

-- A stretch of a run that examined and opened these calls, and told the client nothing.
structure Touches {σ : Type} (events : Events σ) (examines opens : List RemoteCall) : Prop where
  emitted : emitted events = []
  examined : examined events = examines
  opened : opened events = opens

theorem Touches.append {σ : Type} {first second : Events σ}
    {examines opens examines' opens' : List RemoteCall} (h₁ : Touches first examines opens)
    (h₂ : Touches second examines' opens') :
    Touches (first ++ second) (examines ++ examines') (opens ++ opens') :=
  ⟨by simp [h₁.emitted, h₂.emitted], by simp [h₁.examined, h₂.examined],
    by simp [h₁.opened, h₂.opened]⟩

theorem touches_nil {σ : Type} : Touches ([] : Events σ) [] [] := ⟨rfl, rfl, rfl⟩

variable (backend : Backend) (runtime : Runtime) (config : SftpConfig)

-- What a run of `startDownload` has checked once it is ready.
def StartsChecked (request : DownloadStartRequest) (events : Events backend.State)
    (result : Except SftpServiceError SftpDownloadReadyResponse) : Prop :=
  emitted events = [] ∧ opened events = [] ∧
    ∀ response, result = .ok response → AbsoluteRealpath events →
      ∃ normalized checked, validateOperationPreconditions runtime config request.remotePath true
          (some request.transferId) = .ok normalized ∧
        Resolved backend.expand normalized checked ∧ examined events = [backend.examine checked]

variable (remotePath : JsString)

-- Streaming opens the path it is given, if the session is still there.
def OpensGiven (events : Events backend.State) : Prop :=
  examined events = [] ∧ ∀ call ∈ opened events, call = backend.openCall remotePath

namespace SftpService

theorem ensureSession_touches (service : SftpService) (connectionId : ConnectionId)
    (sessionId : SessionId) :
    (ensureSession service connectionId sessionId).Ensures fun events _ =>
      Touches events [] [] := by
  unfold ensureSession SftpSessionManager.openSession
  split
  · exact touches_nil
  · split
    · exact touches_nil
    · rintro ⟨after, reply⟩
      cases (reply : Reply Unit) <;> exact ⟨rfl, rfl, rfl⟩

variable (runtime : Runtime)

theorem resolveTildePath_spec (service : SftpService) (path : JsString) :
    (resolveTildePath runtime service path).Ensures fun events outcome =>
      Touches events [] [] ∧ ∀ checked, outcome.2 = .ok checked → AbsoluteRealpath events →
        Resolved expandHome path checked := by
  unfold resolveTildePath SftpSessionManager.expandTildePath
  by_cases htilde : isTildePath path = true
  · simp only [if_pos htilde]
    rintro ⟨after, reply⟩
    refine ⟨⟨rfl, rfl, rfl⟩, fun checked hchecked habsolute => ?_⟩
    cases reply with
    | ok home =>
      rw [Resolved, if_pos htilde]
      refine ⟨home, habsolute _ _ _ List.mem_cons_self home rfl, ?_⟩
      exact (Except.ok.inj hchecked).symm
    | error message => cases hchecked
    | timedOut => cases hchecked
    | threw message => cases hchecked
  · simp only [if_neg htilde]
    refine ⟨touches_nil, fun checked hchecked _ => ?_⟩
    rw [Resolved, if_neg htilde]
    exact (Except.ok.inj hchecked).symm

theorem setupOperation_spec (config : SftpConfig) (service : SftpService)
    (request : DownloadStartRequest) (checkExtension : Bool) :
    (setupOperation runtime config service request checkExtension).Ensures fun events outcome =>
      Touches events [] [] ∧ ∀ checked, outcome.2 = .ok checked → AbsoluteRealpath events →
        ∃ normalized, validateOperationPreconditions runtime config request.remotePath
          checkExtension (some request.transferId) = .ok normalized ∧
          Resolved expandHome normalized checked := by
  unfold setupOperation
  split
  · exact ⟨touches_nil, fun checked h => by cases h⟩
  · rename_i normalized hvalid
    refine (ensureSession_touches service request.connectionId request.sessionId).bind ?_
    rintro first ⟨middle, sessionResult⟩ hfirst
    cases sessionResult with
    | error error => exact ⟨hfirst.append touches_nil, fun checked h => by cases h⟩
    | ok session =>
      refine (resolveTildePath_spec runtime middle normalized).bind ?_
      rintro second ⟨after, resolved⟩ ⟨hsecond, hresolved⟩
      refine ⟨hfirst.append (hsecond.append touches_nil), fun checked hchecked habsolute => ?_⟩
      cases resolved with
      | error error => cases hchecked
      | ok path =>
        exact ⟨normalized, hvalid, hresolved checked hchecked habsolute.right.left⟩

theorem stat_touches (service : SftpService) (path : JsString) :
    (SftpSessionManager.stat runtime service path).Ensures fun events _ =>
      Touches events [.stat path] [] :=
  fun _ => ⟨rfl, rfl, rfl⟩

theorem startDownload_spec (config : SftpConfig) (now : Time) (service : SftpService)
    (request : DownloadStartRequest) :
    (startDownload runtime config now service request).Ensures fun events outcome =>
      StartsChecked sftpBackend runtime config request events outcome.2 := by
  unfold startDownload
  refine (setupOperation_spec runtime config service request true).bind ?_
  rintro first ⟨middle, setup⟩ ⟨hfirst, hsetup⟩
  cases setup with
  | error error =>
    have hall := hfirst.append touches_nil
    exact ⟨hall.emitted, hall.opened, fun response h => by cases h⟩
  | ok checked =>
    refine (stat_touches runtime middle checked).bind ?_
    rintro second ⟨after, statResult⟩ hsecond
    have hall := hfirst.append (hsecond.append touches_nil)
    cases statResult with
    | error error => exact ⟨hall.emitted, hall.opened, fun response h => by cases h⟩
    | ok fileInfo =>
      dsimp only
      split
      · exact ⟨hall.emitted, hall.opened, fun response h => by cases h⟩
      · refine ⟨hall.emitted, hall.opened, fun response _ habsolute => ?_⟩
        obtain ⟨normalized, hvalid, hresolved⟩ := hsetup checked rfl habsolute.left
        exact ⟨normalized, checked, hvalid, hresolved, hall.examined⟩

theorem streamDownloadChunks_spec (service : SftpService) (connectionId : ConnectionId)
    (transferId : TransferId) (remotePath : JsString) :
    (streamDownloadChunks service connectionId transferId remotePath).Ensures fun events _ =>
      OpensGiven sftpBackend remotePath events := by
  unfold streamDownloadChunks
  split
  · exact ⟨rfl, fun call h => by cases h⟩
  · rintro ⟨after, reply⟩
    have hopens : ∀ call ∈ opened [(⟨.await service (.openFile remotePath), (after, reply)⟩ :
        Event (Request SftpService) Request.Answer)], call = .openFile remotePath :=
      fun call hcall => List.mem_singleton.mp hcall
    cases (reply : Except JsString Unit) <;> exact ⟨rfl, hopens⟩

end SftpService

namespace ShellFileService

variable (runtime : Runtime) (service : ShellFileService)

theorem executeCommand_touches (command : JsString) :
    (executeCommand runtime service command).Ensures fun events _ =>
      Touches events ([.executeCommand command].filter isExamine) [] := by
  rintro ⟨after, reply⟩
  cases reply with
  | closed stdout stderr code =>
    by_cases hcode : code = some 0
    · subst hcode
      exact ⟨rfl, rfl, rfl⟩
    · show Prog.Ensures (if code ≠ some 0 then _ else _) _
      rw [if_pos hcode]
      exact ⟨rfl, rfl, rfl⟩
  | execError message => exact ⟨rfl, rfl, rfl⟩
  | streamError message => exact ⟨rfl, rfl, rfl⟩
  | timedOut => exact ⟨rfl, rfl, rfl⟩

theorem resolveTildePath_spec (connectionId : ConnectionId) (path : JsString) :
    (resolveTildePath runtime service connectionId path).Ensures fun events outcome =>
      Touches events [] [] ∧ ∀ checked, outcome.2 = .ok checked →
        Resolved expandShellHome path checked := by
  unfold resolveTildePath
  by_cases htilde : isTildePath path = true
  · rw [if_pos htilde]
    split
    · exact ⟨touches_nil, fun checked h => by cases h⟩
    · rename_i session hsession
      split
      · rename_i homeDir hhome
        refine ⟨touches_nil, fun checked hchecked => ?_⟩
        rw [Resolved, if_pos htilde]
        exact ⟨homeDir, homeDir.property, (Except.ok.inj hchecked).symm⟩
      · refine (executeCommand_touches runtime service buildHomeCommand).bind ?_
        rintro first ⟨after, result⟩ hfirst
        have hall : Touches (first ++ []) [] [] := hfirst.append touches_nil
        cases result with
        | error error => exact ⟨hall, fun checked h => by cases h⟩
        | ok stdout =>
          dsimp only
          split
          · rename_i habsolute
            refine ⟨hall, fun checked hchecked => ?_⟩
            rw [Resolved, if_pos htilde]
            exact ⟨resolveHomePath stdout, habsolute, (Except.ok.inj hchecked).symm⟩
          · exact ⟨hall, fun checked h => by cases h⟩
  · rw [if_neg htilde]
    refine ⟨touches_nil, fun checked hchecked => ?_⟩
    rw [Resolved, if_neg htilde]
    exact (Except.ok.inj hchecked).symm

theorem setupOperation_spec (config : SftpConfig) (service : ShellFileService)
    (request : DownloadStartRequest) (checkExtension : Bool) :
    (setupOperation runtime config service request checkExtension).Ensures fun events outcome =>
      Touches events [] [] ∧ ∀ checked, outcome.2 = .ok checked →
        ∃ normalized, validateOperationPreconditions runtime config request.remotePath
          checkExtension (some request.transferId) = .ok normalized ∧
          Resolved expandShellHome normalized checked := by
  unfold setupOperation
  split
  · exact ⟨touches_nil, fun checked h => by cases h⟩
  · rename_i normalized hvalid
    split
    · exact ⟨touches_nil, fun checked h => by cases h⟩
    · refine (resolveTildePath_spec runtime _ request.connectionId normalized).bind ?_
      rintro first ⟨after, resolved⟩ ⟨hfirst, hresolved⟩
      refine ⟨hfirst.append touches_nil, fun checked hchecked => ?_⟩
      cases resolved with
      | error error => cases hchecked
      | ok path => exact ⟨normalized, hvalid, hresolved checked hchecked⟩

theorem buildStatCommand_ne_home (path : JsString) :
    buildStatCommand path ≠ buildHomeCommand := by
  intro h
  have hhead := congrArg List.head? h
  simp [buildStatCommand, buildHomeCommand, js, utf16] at hhead

theorem startDownload_spec (config : SftpConfig) (now : Time) (service : ShellFileService)
    (request : DownloadStartRequest) :
    (startDownload runtime config now service request).Ensures fun events outcome =>
      StartsChecked shellBackend runtime config request events outcome.2 := by
  unfold startDownload
  refine (setupOperation_spec runtime config service request true).bind ?_
  rintro first ⟨middle, setup⟩ ⟨hfirst, hsetup⟩
  cases setup with
  | error error =>
    have hall := hfirst.append touches_nil
    exact ⟨hall.emitted, hall.opened, fun response h => by cases h⟩
  | ok checked =>
    refine (executeCommand_touches runtime middle (buildStatCommand checked)).bind ?_
    rintro second ⟨after, statResult⟩ hsecond
    have hall := hfirst.append (hsecond.append touches_nil)
    cases statResult with
    | error error => exact ⟨hall.emitted, hall.opened, fun response h => by cases h⟩
    | ok stdout =>
      dsimp only
      split
      · exact ⟨hall.emitted, hall.opened, fun response h => by cases h⟩
      · split
        · exact ⟨hall.emitted, hall.opened, fun response h => by cases h⟩
        · refine ⟨hall.emitted, hall.opened, fun response _ _ => ?_⟩
          obtain ⟨normalized, hvalid, hresolved⟩ := hsetup checked rfl
          refine ⟨normalized, checked, hvalid, hresolved, ?_⟩
          refine hall.examined.trans ?_
          simp [isExamine, buildStatCommand_ne_home, shellBackend]

theorem streamDownloadChunks_spec (connectionId : ConnectionId) (transferId : TransferId)
    (remotePath : JsString) :
    (streamDownloadChunks service connectionId transferId remotePath).Ensures fun events _ =>
      OpensGiven shellBackend remotePath events := by
  unfold streamDownloadChunks
  split
  · exact ⟨rfl, fun call h => by cases h⟩
  · split
    · exact ⟨rfl, fun call h => by cases h⟩
    · rintro ⟨after, reply⟩
      have hopens : ∀ call ∈ opened [(⟨.await service (.execStream (catCommand remotePath)),
          (after, reply)⟩ : Event (Request ShellFileService) Request.Answer)],
          call = .execStream (catCommand remotePath) :=
        fun call hcall => List.mem_singleton.mp hcall
      cases (reply : Except JsString Unit) <;> exact ⟨rfl, hopens⟩

end ShellFileService

variable (name : BackendName)

theorem startDownload_spec (runtime : Runtime) (config : SftpConfig) (now : Time)
    (state : name.backend.State) (request : DownloadStartRequest) :
    ((name.backend.service runtime config now).startDownload state request).Ensures
      fun events outcome => StartsChecked name.backend runtime config request events outcome.2 := by
  cases name with
  | sftp => exact SftpService.startDownload_spec runtime config now state request
  | shell => exact ShellFileService.startDownload_spec runtime config now state request

theorem streamDownloadChunks_spec (runtime : Runtime) (config : SftpConfig) (now : Time)
    (state : name.backend.State) (connectionId : ConnectionId) (transferId : TransferId)
    (remotePath : JsString) :
    ((name.backend.service runtime config now).streamDownloadChunks state connectionId transferId
      remotePath).Ensures fun events _ => OpensGiven name.backend remotePath events := by
  cases name with
  | sftp => exact SftpService.streamDownloadChunks_spec state connectionId transferId remotePath
  | shell =>
    exact ShellFileService.streamDownloadChunks_spec state connectionId transferId remotePath

theorem openCall_injective : Function.Injective name.backend.openCall := by
  cases name with
  | sftp => exact fun first second h => RemoteCall.openFile.inj h
  | shell => exact fun first second h => catCommand_injective (RemoteCall.execStream.inj h)

-- An accepted run examined the resolved path and opened, if anything, the path
-- as the client wrote it.
def OpensWritten (data : JsValue) (transferId : TransferId) (events : Events backend.State) :
    Prop :=
  ∃ remotePath normalized checked,
    validateSftpDownloadStartRequest runtime data = .ok remotePath ∧
    validateOperationPreconditions runtime config remotePath true (some transferId) =
      .ok normalized ∧
    Resolved backend.expand normalized checked ∧
    examined events = [backend.examine checked] ∧
    ∀ call ∈ opened events, call = backend.openCall remotePath

theorem handleDownloadStart_spec (runtime : Runtime) (config : SftpConfig) (now : Time)
    (connectionId : Option ConnectionId) (sessionId : Option SessionId) (state : name.backend.State)
    (data : JsValue) (transferId : TransferId) :
    (handleDownloadStart runtime
      ⟨some (name.backend.service runtime config now), connectionId, sessionId⟩ state data
      transferId).Ensures fun events _ =>
        Accepted events → AbsoluteRealpath events →
          OpensWritten name.backend runtime config data transferId events := by
  have hrefused : ∀ (operation : JsString) (error : SftpServiceError) (earlier : Events _),
      emitted earlier = [] →
      ¬ Accepted (earlier ++ [(⟨.emit (.error operation error), ()⟩ :
        Event (Request name.backend.State) Request.Answer)]) := by
    rintro operation error earlier hearlier ⟨response, hmem⟩
    rw [emitted_append, hearlier] at hmem
    simp [emitted, Prog.requests, emittedMessage] at hmem
  unfold handleDownloadStart
  split
  · rename_i heq
    cases heq
  rename_i sftp heq
  obtain rfl := Option.some.inj heq
  split
  · exact fun _ haccepted => absurd haccepted (hrefused _ _ [] rfl)
  split
  · exact fun _ haccepted => absurd haccepted (hrefused _ _ [] rfl)
  rename_i remotePath hdata
  split
  · exact fun _ haccepted => absurd haccepted (hrefused _ _ [] rfl)
  refine (startDownload_spec name runtime config now state _).bind ?_
  rintro first ⟨middle, result⟩ ⟨hemitted, hopened, hchecked⟩
  cases result with
  | error error =>
    exact fun _ haccepted => absurd haccepted (hrefused _ _ first hemitted)
  | ok response =>
    rintro ⟨⟩
    refine (streamDownloadChunks_spec name runtime config now middle _ transferId
      remotePath).bind ?_
    rintro second ⟨after, streamed⟩ ⟨hexamined, hopens⟩
    have hall : ∀ last : Events name.backend.State, examined last = [] → opened last = [] →
        AbsoluteRealpath (first ++ ([⟨.emit (.downloadReady response), ()⟩] ++
          (second ++ last))) →
        OpensWritten name.backend runtime config data transferId
          (first ++ ([⟨.emit (.downloadReady response), ()⟩] ++ (second ++ last))) := by
      intro last hlast hlast' habsolute
      obtain ⟨normalized, checked, hvalid, hresolved, hfirst⟩ :=
        hchecked response rfl habsolute.left
      refine ⟨remotePath, normalized, checked, hdata, hvalid, hresolved, ?_, ?_⟩
      · rw [examined_append, examined_append, examined_append, hfirst, hexamined, hlast]
        rfl
      · rw [opened_append, opened_append, opened_append, hopened, hlast', List.append_nil]
        exact hopens
    cases streamed with
    | error error =>
      exact fun _ _ => hall [⟨.emit (.error (js "download") error), ()⟩] rfl rfl
    | ok value => exact fun _ => hall [] rfl rfl

-- The path opened for streaming is the one that was validated, resolved and examined.
def OpensChecked (transferId : TransferId) (events : Events backend.State) : Prop :=
  ∃ normalized checked,
    validateOperationPreconditions runtime config remotePath true (some transferId) =
      .ok normalized ∧
    Resolved backend.expand normalized checked ∧
    examined events = [backend.examine checked] ∧
    ∀ call ∈ opened events, call = backend.openCall checked

-- The client wrote the path in its normal form, and not below `~`.
def WrittenResolved : Prop :=
  normalizePath remotePath = remotePath ∧ isTildePath remotePath = false

instance (remotePath : JsString) : Decidable (WrittenResolved remotePath) :=
  inferInstanceAs (Decidable (_ ∧ _))

theorem validateOperationPreconditions_ok {runtime : Runtime} {config : SftpConfig}
    {path normalized : JsString} {checkExtension : Bool} {transferId : Option TransferId}
    (h : validateOperationPreconditions runtime config path checkExtension transferId =
      .ok normalized) : normalized = normalizePath path := by
  unfold validateOperationPreconditions at h
  split at h
  · cases h
  split at h
  · cases h
  · rename_i value hvalid
    obtain rfl := Except.ok.inj h
    exact (validatePath_ok hvalid)

theorem expand_absolute {homeDir path : JsString} (hhome : homeDir.head? = some 47)
    (htilde : isTildePath path = true) : (name.backend.expand homeDir path).head? = some 47 := by
  obtain ⟨rest, rfl⟩ : ∃ rest, homeDir = 47 :: rest := by
    cases homeDir with
    | nil => cases hhome
    | cons head rest => exact ⟨rest, by rw [← Option.some.inj hhome]⟩
  rcases isTildePath_iff.mp htilde with rfl | ⟨below, rfl⟩
  · cases name <;> rfl
  · have hne : js "~/" ++ below ≠ js "~" := by simp [js, utf16]
    have hpre : (js "~/").isPrefixOf (js "~/" ++ below) = true :=
      List.isPrefixOf_iff_prefix.mpr (List.prefix_append _ _)
    cases name with
    | sftp =>
      show (expandHome (47 :: rest) (js "~/" ++ below)).head? = some 47
      rw [expandHome, if_neg hne, if_pos hpre]
      split <;> rfl
    | shell =>
      show (expandShellHome (47 :: rest) (js "~/" ++ below)).head? = some 47
      rw [expandShellHome, if_neg hne, if_pos hpre]
      rfl

theorem not_tilde_of_absolute {path : JsString} (h : path.head? = some 47) :
    isTildePath (normalizePath path) = false := by
  have hhead : ∀ text : JsString, text.head? = some 47 → isTildePath text = false := by
    intro text htext
    cases text with
    | nil => cases htext
    | cons head rest =>
      obtain rfl := Option.some.inj htext
      simp [isTildePath, js, utf16, List.isPrefixOf]
  rcases normalizePath_cases path with ⟨htilde, _⟩ | ⟨_, heq⟩
  · rw [hhead path h] at htilde
    cases htilde
  · rw [heq]
    have habsolute : PosixPath.isAbsolute PathPosix.alphabet path = true := decide_eq_true h
    exact hhead _ (of_decide_eq_true (PosixPath.isAbsolute_normalize habsolute))

-- The resolved path is the written one exactly when there was nothing to resolve.
theorem resolved_written_iff {remotePath checked : JsString}
    (h : Resolved name.backend.expand (normalizePath remotePath) checked) :
    checked = remotePath ↔ WrittenResolved remotePath := by
  by_cases htilde : isTildePath (normalizePath remotePath) = true
  · rw [Resolved, if_pos htilde] at h
    obtain ⟨homeDir, hhome, rfl⟩ := h
    have habsolute := expand_absolute name hhome htilde
    constructor
    · intro heq
      rw [heq] at habsolute
      rw [not_tilde_of_absolute habsolute] at htilde
      cases htilde
    · rintro ⟨hnormal, hplain⟩
      rw [hnormal, hplain] at htilde
      cases htilde
  · rw [Resolved, if_neg htilde] at h
    subst h
    constructor
    · intro heq
      rw [heq] at htilde
      exact ⟨heq, Bool.eq_false_iff.mpr htilde⟩
    · exact fun hwritten => hwritten.1

section Session

-- A server that answers every call on a file.
def answering : (request : Request SftpService) → request.Answer
  | .emit _ => ()
  | .await state (.sftpChannel _) => (state, .ok ())
  | .await state (.realpath _) => (state, .ok (js "/home/alice"))
  | .await state (.stat _) => (state, .ok ⟨0o100644, .ofInt 3⟩)
  | .await state (.readdir _) => (state, .ok [])
  | .await state (.openFile _) => (state, .ok ())
  | .await state (.executeCommand _) => (state, .timedOut)
  | .await state (.execStream _) => (state, .error [])

theorem absoluteRealpath_play {α : Type} (task : Task SftpService α) :
    AbsoluteRealpath (task.play answering).1 := by
  induction task with
  | done result => exact fun state path answer hmem => absurd hmem List.not_mem_nil
  | ask request next ih =>
    intro state path answer hmem home hhome
    rcases List.mem_cons.mp hmem with heq | hlater
    · cases heq
      cases hhome
      rfl
    · exact ih (answering request) state path answer hlater home hhome

def openConfig : SftpConfig where
  enabled := true
  allowedPaths := none
  blockedExtensions := []
  maxFileSize := .ofInt 1000
  maxConcurrentTransfers := .ofInt 2
  transferRateLimitBytesPerSec := .ofInt 0

def connectedService : SftpService where
  sessions := .empty
  transferManager := ⟨.empty, .ofInt 2, .ofInt 0⟩
  clients := [js "c1"]

def requestDownload (remotePath : JsString) : Task SftpService SftpService :=
  handleDownloadStart asciiRuntime
    ⟨some (SftpService.fileService asciiRuntime openConfig 0), some (js "c1"), some (js "s1")⟩
    connectedService (some (.object [(js "remotePath", .string remotePath)])) (js "t1")

def download (remotePath : JsString) : Events SftpService :=
  ((requestDownload remotePath).play answering).1

end Session

theorem download_opens_checked_iff (name : BackendName) (runtime : Runtime) (config : SftpConfig)
    (now : Time) (connectionId : Option ConnectionId) (sessionId : Option SessionId)
    (state after : name.backend.State) (data : JsValue) (transferId : TransferId)
    (remotePath : JsString) (events : Events name.backend.State)
    (hrun : Prog.Runs (handleDownloadStart runtime
      ⟨some (name.backend.service runtime config now), connectionId, sessionId⟩ state data
      transferId) events after)
    (hdata : validateSftpDownloadStartRequest runtime data = .ok remotePath)
    (hrealpath : AbsoluteRealpath events) (haccepted : Accepted events)
    (hopened : opened events ≠ []) :
    OpensChecked name.backend runtime config remotePath transferId events ↔
      WrittenResolved remotePath := by
  obtain ⟨written, normalized, checked, hwritten, hvalid, hresolved, hexamined, hopens⟩ :=
    (Prog.ensures_iff_runs _ _).mp (handleDownloadStart_spec name runtime config now connectionId
      sessionId state data transferId) events after hrun haccepted hrealpath
  rw [hdata] at hwritten
  obtain rfl := Except.ok.inj hwritten
  constructor
  · rintro ⟨normalized', checked', hvalid', hresolved', _, hopens'⟩
    obtain ⟨call, hcall⟩ := List.exists_mem_of_ne_nil _ hopened
    have heq : checked' = remotePath :=
      openCall_injective name ((hopens' call hcall).symm.trans (hopens call hcall))
    rw [validateOperationPreconditions_ok hvalid'] at hresolved'
    exact (resolved_written_iff name hresolved').mp heq
  · intro hnormal
    refine ⟨normalized, checked, hvalid, hresolved, hexamined, ?_⟩
    rw [validateOperationPreconditions_ok hvalid] at hresolved
    rwa [(resolved_written_iff name hresolved).mpr hnormal]

theorem plain_download_opens_checked :
    OpensChecked sftpBackend asciiRuntime openConfig (js "/data/report") (js "t1")
      (download (js "/data/report")) :=
  (download_opens_checked_iff .sftp asciiRuntime openConfig 0 (some (js "c1")) (some (js "s1"))
    connectedService _ _ (js "t1") (js "/data/report") (download (js "/data/report"))
    (Prog.runs_play answering (requestDownload (js "/data/report"))) (by rfl)
    (absoluteRealpath_play _) ⟨_, List.mem_of_mem_head? rfl⟩ (by decide)).mpr (by decide)

-- The home directory is resolved for the check, and not for the read.
theorem home_download_opens_written :
    ∃ after, Prog.Runs (requestDownload (js "~/report")) (download (js "~/report")) after ∧
      AbsoluteRealpath (download (js "~/report")) ∧ Accepted (download (js "~/report")) ∧
      examined (download (js "~/report")) = [.stat (js "/home/alice/report")] ∧
      opened (download (js "~/report")) = [.openFile (js "~/report")] ∧
      ¬ OpensChecked sftpBackend asciiRuntime openConfig (js "~/report") (js "t1")
        (download (js "~/report")) := by
  have hexamined : examined (download (js "~/report")) = [.stat (js "/home/alice/report")] := by
    decide
  have hopened : opened (download (js "~/report")) = [.openFile (js "~/report")] := by decide
  refine ⟨_, Prog.runs_play answering (requestDownload (js "~/report")), absoluteRealpath_play _,
    ⟨_, List.mem_of_mem_head? rfl⟩, hexamined, hopened, ?_⟩
  rintro ⟨normalized, checked, _, _, hchecked, hopens⟩
  have hstat : js "/home/alice/report" = checked :=
    RemoteCall.stat.inj (List.singleton_inj.mp (hexamined.symm.trans hchecked))
  have hmem : .openFile (js "~/report") ∈ opened (download (js "~/report")) := by
    rw [hopened]
    exact List.mem_singleton_self _
  have hopen : js "~/report" = checked := RemoteCall.openFile.inj (hopens _ hmem)
  exact absurd (hopen.trans hstat.symm) (by decide)

end WebSsh2.Sftp

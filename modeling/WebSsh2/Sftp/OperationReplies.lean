import WebSsh2.Sftp.OperationSteps

namespace WebSsh2.Sftp.Operations

open WebSsh2.Library WebSsh2.State Upload

-- The success of an operation tells the path that it was done at.
def AtPath {α : Type} (path : α → JsString) (checked : JsString) (value : α) : Prop :=
  path value = checked

def Done (checked : JsString) (response : SftpOperationResponse) : Prop :=
  response.success = true ∧ response.path = checked

def ForTransfer (transferId : TransferId) (_checked : JsString) (response : UploadReadyResponse) :
    Prop :=
  response.transferId = transferId

section Settled

variable {β : Type}

theorem settle_isOk_iff {runtime : Runtime} {timeoutMessage failureMessage : JsString}
    {path : Option JsString} {reply : Reply β} :
    (∃ value, SftpSessionManager.settle runtime timeoutMessage failureMessage path reply =
      .ok value) ↔ ∃ value, reply = .ok value := by
  cases reply <;> simp [WebSsh2.Sftp.SftpSessionManager.settle]

theorem granted_iff (reply : Reply β) : (∃ value, reply = .ok value) ↔ granted reply = true := by
  cases reply <;> simp [granted]

theorem exists_ok_map_iff {ε ε' α : Type} {result : Except ε β} {relabel : ε → ε'} {f : β → α} :
    (∃ value, (result.mapError relabel).map f = .ok value) ↔ ∃ value, result = .ok value := by
  cases result <;> simp [Except.map, Except.mapError]

theorem ok_map {ε ε' α : Type} {result : Except ε β} {relabel : ε → ε'} {f : β → α} {value : α}
    (h : (result.mapError relabel).map f = .ok value) : ∃ inner, value = f inner := by
  cases result with
  | error error => cases h
  | ok inner => exact ⟨inner, (Except.ok.inj h).symm⟩

end Settled

-- Whatever the answers, the run of an operation does what its kind may do.
def Follows {σ α : Type} (expand : JsString → JsString → JsString) (admitted : JsString → Prop)
    (kind : FileKind) (Fits : JsString → α → Prop)
    (task : FileTask σ (σ × Except SftpServiceError α)) : Prop :=
  task.Ensures fun events outcome =>
    Performs expand admitted kind Fits (trail events) outcome.2

-- An operation ends with the error of its setup, or goes on at the path that was checked.
theorem SetsUp.performs_bind {σ α : Type} {expand : JsString → JsString → JsString}
    {admitted : JsString → Prop} {kind : FileKind} {Fits : JsString → α → Prop}
    {setup : FileTask σ (σ × Except SftpServiceError JsString)}
    {next : σ × Except SftpServiceError JsString → FileTask σ (σ × Except SftpServiceError α)}
    (hsetup : setup.Ensures fun events outcome =>
      SetsUp expand admitted (trail events) outcome.2)
    (herror : ∀ state error, ∃ other, next (state, .error error) = .done (state, .error other))
    (hnext : ∀ state checked, (next (state, .ok checked)).Ensures fun events outcome =>
      Acts kind Fits checked (trail events) outcome.2) :
    Follows expand admitted kind Fits (setup.bind next) := by
  refine hsetup.bind ?_
  rintro first ⟨state, result⟩ h
  cases result with
  | error error =>
    obtain ⟨other, hother⟩ := herror state error
    rw [hother, Prog.ensures_done, List.append_nil]
    exact h.performs_error other
  | ok checked =>
    refine (hnext state checked).mono fun second outcome hacts => ?_
    rw [trail_append]
    exact h.performs_ok hacts

section Changing

variable {kind : FileKind} {checked : JsString} {earlier : List Entry} {call : FileCall}
  {answer : call.Answer}

theorem typeSeen_of_allowed (hkind : kind ≠ .delete) (hchanges : changes earlier = [])
    (hallowed : kind.Allows checked call) :
    TypeSeen checked (earlier ++ [.file call answer]) := by
  refine typeSeen_of_changes fun other hother => ?_
  rw [changes_append, hchanges] at hother
  obtain ⟨entry, hentry, hchange⟩ := List.mem_filterMap.mp hother
  obtain rfl := List.mem_singleton.mp hentry
  change (if call.changes then some call else none) = some other at hchange
  split at hchange
  · obtain rfl := Option.some.inj hchange
    constructor
    · rintro rfl
      cases kind with
      | delete => exact hkind rfl
      | list | stat | mkdir | upload => exact hallowed
    · rintro rfl
      cases kind with
      | delete => exact hkind rfl
      | list | stat | mkdir | upload => exact hallowed
  · cases hchange

-- A change of which the reply says no more than whether it was made.
theorem acts_done {runtime : Runtime} {timeoutMessage failureMessage : JsString}
    {path : Option JsString} {reply : Reply Unit}
    {relabel : SftpSessionError → SftpServiceError}
    (hon : ∀ entry ∈ earlier, entry.On checked) (hchanges : changes earlier = [])
    (hconfirmed : confirmed earlier = []) (hcall : (Entry.file call answer).On checked)
    (hchange : call.changes = true) (hallowed : kind.Allows checked call)
    (hconfirms : call.confirms answer = granted reply)
    (hseen : TypeSeen checked (earlier ++ [.file call answer])) :
    Acts kind Done checked (earlier ++ [.file call answer])
      (((SftpSessionManager.settle runtime timeoutMessage failureMessage path reply).mapError
        relabel).map fun _ => { success := true, path := checked }) := by
  refine acts_change hon hchanges hconfirmed hcall hchange hallowed (fun value hvalue => ?_) ?_
    hseen
  · obtain ⟨inner, rfl⟩ := ok_map hvalue
    exact ⟨rfl, rfl⟩
  · rw [hconfirms]
    exact exists_ok_map_iff.trans (settle_isOk_iff.trans (granted_iff reply))

end Changing

-- What an upload does once it is known whether the file is there.
def Opens {σ : Type} (transferId : TransferId) (checked : JsString)
    (task : FileTask σ (σ × Except SftpServiceError UploadReadyResponse)) : Prop :=
  ∀ earlier, (∀ entry ∈ earlier, entry.On checked) → changes earlier = [] →
    confirmed earlier = [] → task.Ensures fun events outcome =>
      Acts .upload (ForTransfer transferId) checked (earlier ++ trail events) outcome.2

theorem opens_error {σ : Type} (transferId : TransferId) (checked : JsString) (state : σ)
    (error : SftpServiceError) :
    Opens transferId checked (.done (state, .error error) :
      FileTask σ (σ × Except SftpServiceError UploadReadyResponse)) := by
  intro earlier hon hchanges hconfirmed
  rw [Prog.ensures_done, trail_nil, List.append_nil]
  exact acts_refused hon hchanges hconfirmed

theorem Opens.acts {σ : Type} {transferId : TransferId} {checked : JsString}
    {task : FileTask σ (σ × Except SftpServiceError UploadReadyResponse)}
    (h : Opens transferId checked task) :
    task.Ensures fun events outcome =>
      Acts .upload (ForTransfer transferId) checked (trail events) outcome.2 :=
  h [] (List.forall_mem_nil _) rfl rfl

-- The file is opened by one call, of either backend.
theorem opens_of_call {σ : Type} {transferId : TransferId} {checked : JsString} {state : σ}
    {call : FileCall}
    {next : σ × call.Answer → FileTask σ (σ × Except SftpServiceError UploadReadyResponse)}
    (hcall : ∀ answer, (Entry.file call answer).On checked) (hchange : call.changes = true)
    (hallowed : FileKind.upload.Allows checked call)
    (hnext : ∀ after answer, ∃ final result, next (after, answer) = .done (final, result) ∧
      (∀ value, result = .ok value → value.transferId = transferId) ∧
      ((∃ value, result = .ok value) ↔ call.confirms answer = true)) :
    Opens transferId checked ((FileTask.await state call).bind next) := by
  intro earlier hon hchanges hconfirmed
  rintro ⟨after, answer⟩
  obtain ⟨final, result, hdone, hfits, htruth⟩ := hnext after answer
  show (next (after, answer)).Ensures _
  rw [hdone]
  exact acts_change hon hchanges hconfirmed (hcall answer) hchange hallowed hfits htruth
    (typeSeen_of_allowed (show FileKind.upload ≠ .delete by decide) hchanges hallowed)

namespace SftpService

variable (runtime : Runtime) (config : SftpConfig) (uploads : UploadConfig) (now : Time)

variable (service : SftpService) (options : OperationSetupOptions)

theorem listDirectory_performs (showHidden : Bool) :
    Follows expandHome (Admitted runtime config options.path false) .list
      (AtPath SftpDirectoryResponse.path)
      (listDirectory runtime config service options showHidden) := by
  refine SetsUp.performs_bind (setupOperation_sets runtime config service options false none)
    (fun _ error => ⟨error, rfl⟩) fun middle checked => ?_
  rintro ⟨after, reply⟩
  refine acts_shared rfl rfl fun value hvalue => ?_
  obtain ⟨entries, rfl⟩ := ok_map hvalue
  rfl

theorem stat_performs :
    Follows expandHome (Admitted runtime config options.path false) .stat
      (AtPath SftpStatResponse.path) (stat runtime config service options) := by
  refine SetsUp.performs_bind (setupOperation_sets runtime config service options false none)
    (fun _ error => ⟨error, rfl⟩) fun middle checked => ?_
  rintro ⟨after, reply⟩
  refine acts_stat rfl fun value hvalue => ?_
  obtain ⟨inner, rfl⟩ := ok_map hvalue
  rfl

theorem mkdir_performs (mode : Option Number) :
    Follows expandHome (Admitted runtime config options.path false) .mkdir Done
      (mkdir runtime config service options mode) := by
  refine SetsUp.performs_bind (setupOperation_sets runtime config service options false none)
    (fun _ error => ⟨error, rfl⟩) fun middle checked => ?_
  rintro ⟨after, reply⟩
  exact acts_done (List.forall_mem_nil _) rfl rfl rfl rfl rfl rfl
    (typeSeen_of_allowed (show FileKind.mkdir ≠ .delete by decide) rfl rfl)

theorem delete_performs (recursive : Bool) :
    Follows expandHome (Admitted runtime config options.path false) .delete Done
      (delete runtime config service options recursive) := by
  refine SetsUp.performs_bind (setupOperation_sets runtime config service options false none)
    (fun _ error => ⟨error, rfl⟩) fun middle checked => ?_
  rintro ⟨seen, reply⟩
  have hstat : ∀ entry ∈ [Entry.file (.stat checked) reply], entry.On checked := by
    intro entry hentry
    obtain rfl := List.mem_singleton.mp hentry
    rfl
  cases (reply : Reply Attributes) with
  | error message | timedOut | threw message => exact acts_refused hstat rfl rfl
  | ok attrs =>
    show Prog.Ensures (if getFileType attrs.mode = .directory then _ else _) _
    by_cases hdirectory : getFileType attrs.mode = .directory
    · rw [if_pos hdirectory]
      rintro ⟨after, removal⟩
      exact acts_done hstat rfl rfl rfl rfl rfl rfl
        (typeSeen_removal attrs _ _ nofun fun _ => hdirectory)
    · rw [if_neg hdirectory]
      rintro ⟨after, removal⟩
      exact acts_done hstat rfl rfl rfl rfl rfl rfl
        (typeSeen_removal attrs _ _ (fun _ => hdirectory) nofun)

theorem beginUpload_opens (transferId : TransferId) (request : UploadStartRequest)
    (checked : JsString) (existing : Bool) :
    Opens transferId checked (beginUpload runtime config uploads now service options transferId
      request checked existing) := by
  unfold beginUpload
  split
  · exact opens_error transferId checked service _
  · split
    · exact opens_error transferId checked service _
    · refine opens_of_call (fun _ => rfl) rfl rfl fun after answer => ?_
      cases (answer : Opened) with
      | «open» => exact ⟨_, .ok _, rfl, fun _ h => by rw [← Except.ok.inj h]; rfl, fun _ => rfl,
          fun _ => ⟨_, rfl⟩⟩
      | failed message | timedOut => exact ⟨_, _, rfl, nofun, nofun, nofun⟩

theorem startUpload_performs (transferId : TransferId) (request : UploadStartRequest) :
    Follows expandHome (Admitted runtime config options.path true) .upload (ForTransfer transferId)
      (startUpload runtime config uploads now service options transferId request) := by
  unfold startUpload
  split
  · exact .refused _
  · refine SetsUp.performs_bind
      (setupOperation_sets runtime config service options true (some transferId))
      (fun _ error => ⟨_, rfl⟩) fun middle checked => ?_
    dsimp only
    split
    · exact (beginUpload_opens runtime config uploads now middle options transferId request checked
        false).acts
    · rintro ⟨after, reply⟩
      refine beginUpload_opens runtime config uploads now after options transferId request checked
        _ [.file (.stat checked) reply] (fun entry hentry => ?_) rfl rfl
      obtain rfl := List.mem_singleton.mp hentry
      rfl

end SftpService

namespace ShellFileService

variable (runtime : Runtime) (config : SftpConfig) (uploads : UploadConfig) (now : Time)

variable (service : ShellFileService)

theorem executeCommand_on (command checked : JsString)
    (hcommand : command = buildStatCommand checked ∨ ∃ showHidden, command = buildListCommand checked showHidden) :
    (Prog.lift (WebSsh2.Sftp.ShellFileService.executeCommand runtime service command)).Ensures
      fun (events : AnyEvents ShellFileService) _ => ∃ answer : CommandReply,
        trail events = [.shared (.executeCommand command) answer] ∧
          (Entry.shared (.executeCommand command) answer).On checked := by
  refine (executeCommand_trail runtime service command).lift fun events _ htrail => ?_
  obtain ⟨answer, htrail⟩ := htrail
  exact ⟨answer, htrail, hcommand⟩

variable (options : OperationSetupOptions)

theorem listDirectory_performs (showHidden : Bool) :
    Follows expandShellHome (Admitted runtime config options.path false) .list
      (AtPath SftpDirectoryResponse.path)
      (listDirectory runtime config service options showHidden) := by
  refine SetsUp.performs_bind (setupOperation_sets runtime config service options false none)
    (fun _ error => ⟨error, rfl⟩) fun middle checked => ?_
  refine (executeCommand_on runtime middle _ checked (.inr ⟨showHidden, rfl⟩)).bind ?_
  rintro second ⟨after, result⟩ ⟨answer, htrail, hon⟩
  show Acts .list _ checked (trail (second ++ [])) _
  rw [List.append_nil, htrail]
  refine acts_shared rfl hon fun value hvalue => ?_
  cases result with
  | error error => cases hvalue
  | ok stdout =>
    obtain rfl := Except.ok.inj hvalue
    rfl

theorem stat_performs :
    Follows expandShellHome (Admitted runtime config options.path false) .stat
      (AtPath SftpStatResponse.path) (stat runtime config service options) := by
  refine SetsUp.performs_bind (setupOperation_sets runtime config service options false none)
    (fun _ error => ⟨error, rfl⟩) fun middle checked => ?_
  refine (executeCommand_on runtime middle _ checked (.inl rfl)).bind ?_
  rintro second ⟨after, result⟩ ⟨answer, htrail, hon⟩
  have hacts : ∀ result : Except SftpServiceError SftpStatResponse,
      (∀ value, result = .ok value → value.path = checked) →
      Acts FileKind.stat (AtPath SftpStatResponse.path) checked (trail (second ++ []))
        result := by
    intro result hpath
    rw [List.append_nil, htrail]
    exact acts_shared rfl hon hpath
  cases result with
  | error error => exact hacts _ nofun
  | ok stdout =>
    dsimp only
    split
    · exact hacts _ nofun
    · exact hacts _ fun value hvalue => by cases hvalue; rfl

theorem mkdir_performs (mode : Option Number) :
    Follows expandShellHome (Admitted runtime config options.path false) .mkdir Done
      (mkdir service options mode) :=
  .refused _

theorem delete_performs (recursive : Bool) :
    Follows expandShellHome (Admitted runtime config options.path false) .delete Done
      (delete service options recursive) :=
  .refused _

theorem beginUpload_opens (transferId : TransferId) (request : UploadStartRequest)
    (checked : JsString) (existing : Bool) :
    Opens transferId checked (beginUpload runtime config uploads now service options transferId
      request checked existing) := by
  unfold beginUpload
  split
  · exact opens_error transferId checked service _
  · split
    · exact opens_error transferId checked service _
    · refine opens_of_call (fun _ => rfl) rfl rfl fun after answer => ?_
      cases (answer : Opened) with
      | «open» => exact ⟨_, .ok _, rfl, fun _ h => by rw [← Except.ok.inj h]; rfl, fun _ => rfl,
          fun _ => ⟨_, rfl⟩⟩
      | failed message | timedOut => exact ⟨_, _, rfl, nofun, nofun, nofun⟩

theorem startUpload_performs (transferId : TransferId) (request : UploadStartRequest) :
    Follows expandShellHome (Admitted runtime config options.path true) .upload
      (ForTransfer transferId)
      (startUpload runtime config uploads now service options transferId request) := by
  unfold startUpload
  split
  · exact .refused _
  · refine SetsUp.performs_bind
      (setupOperation_sets runtime config service options true (some transferId))
      (fun _ error => ⟨_, rfl⟩) fun middle checked => ?_
    dsimp only
    split
    · exact (beginUpload_opens runtime config uploads now middle options transferId request checked
        false).acts
    · refine (executeCommand_on runtime middle _ checked (.inl rfl)).bind ?_
      rintro second ⟨after, result⟩ ⟨answer, htrail, hon⟩
      refine (beginUpload_opens runtime config uploads now after options transferId request checked
        _ (trail second) (fun entry hentry => ?_) ?_ ?_).mono fun events outcome hacts => ?_
      · rw [htrail] at hentry
        obtain rfl := List.mem_singleton.mp hentry
        exact hon
      · rw [htrail]
        rfl
      · rw [htrail]
        rfl
      · rw [trail_append]
        exact hacts

end ShellFileService

-- Every operation of a backend does what its kind may do.
structure FileOperations.Lawful {σ : Type} (runtime : Runtime) (config : SftpConfig)
    (expand : JsString → JsString → JsString) (sftp : FileOperations σ) : Prop where
  listDirectory : ∀ state options showHidden,
    Follows expand (Admitted runtime config options.path false) .list
      (AtPath SftpDirectoryResponse.path) (sftp.listDirectory state options showHidden)
  stat : ∀ state options, Follows expand (Admitted runtime config options.path false) .stat
    (AtPath SftpStatResponse.path) (sftp.stat state options)
  mkdir : ∀ state options mode, Follows expand (Admitted runtime config options.path false) .mkdir
    Done (sftp.mkdir state options mode)
  delete : ∀ state options recursive, Follows expand (Admitted runtime config options.path false)
    .delete Done (sftp.delete state options recursive)
  startUpload : ∀ state options transferId request,
    Follows expand (Admitted runtime config options.path true) .upload (ForTransfer transferId)
      (sftp.startUpload state options transferId request)

def fileOperations (runtime : Runtime) (config : SftpConfig) (uploads : UploadConfig)
    (now : Time) : (name : BackendName) → FileOperations name.backend.State
  | .sftp => SftpService.fileOperations runtime config uploads now
  | .shell => ShellFileService.fileOperations runtime config uploads now

theorem fileOperations_lawful (runtime : Runtime) (config : SftpConfig) (uploads : UploadConfig)
    (now : Time) (name : BackendName) :
    (fileOperations runtime config uploads now name).Lawful runtime config
      name.backend.expand := by
  cases name with
  | sftp =>
    exact ⟨SftpService.listDirectory_performs runtime config,
      SftpService.stat_performs runtime config, SftpService.mkdir_performs runtime config,
      SftpService.delete_performs runtime config,
      SftpService.startUpload_performs runtime config uploads now⟩
  | shell =>
    exact ⟨ShellFileService.listDirectory_performs runtime config,
      ShellFileService.stat_performs runtime config,
      ShellFileService.mkdir_performs runtime config,
      ShellFileService.delete_performs runtime config,
      ShellFileService.startUpload_performs runtime config uploads now⟩

-- A message on the socket that asks for something to be done with files.
inductive FileMessage where
  | list (data : JsValue)
  | stat (data : JsValue)
  | mkdir (data : JsValue)
  | delete (data : JsValue)
  | uploadStart (data : JsValue)

section Messages

variable {σ : Type} (runtime : Runtime) (maxFileSize : Nat)

def handle (context : FileContext σ) (transferId : TransferId) (state : σ) :
    FileMessage → FileTask σ σ
  | .list data => handleList runtime context state data
  | .stat data => handleStat runtime context state data
  | .mkdir data => handleMkdir runtime context state data
  | .delete data => handleDelete runtime context state data
  | .uploadStart data => handleUploadStart runtime context maxFileSize transferId state data

def FileMessage.kind : FileMessage → FileKind
  | .list _ => .list
  | .stat _ => .stat
  | .mkdir _ => .mkdir
  | .delete _ => .delete
  | .uploadStart _ => .upload

-- The path that a message names, where it passes its validation.
def FileMessage.path : FileMessage → Except JsString JsString
  | .list data => (validateSftpListRequest runtime data).map SftpListRequest.path
  | .stat data => (validateSftpStatRequest runtime data).map id
  | .mkdir data => (validateSftpMkdirRequest runtime data).map SftpMkdirRequest.path
  | .delete data => (validateSftpDeleteRequest runtime data).map SftpDeleteRequest.path
  | .uploadStart data => (validateSftpUploadStartRequest runtime data maxFileSize).map
      UploadStartRequest.remotePath

end Messages

def FileKind.operation : FileKind → JsString
  | .list => js "list"
  | .stat => js "stat"
  | .mkdir => js "mkdir"
  | .delete => js "delete"
  | .upload => js "upload"

-- Only files that are written to have their extension looked at.
def FileKind.checksExtension (kind : FileKind) : Bool :=
  kind = .upload

-- What a reply may be, for a request of a kind at a path.
def SftpReply.Answers (kind : FileKind) (transferId : TransferId) (checked : JsString) :
    SftpReply → Prop
  | .directory response => kind = .list ∧ response.path = checked
  | .statResult response => kind = .stat ∧ response.path = checked
  | .operationResult response =>
    (kind = .mkdir ∨ kind = .delete) ∧ response.success = true ∧ response.path = checked
  | .uploadReady response => kind = .upload ∧ response.transferId = transferId
  | .error operation _ => operation = kind.operation

def SftpReply.isError : SftpReply → Bool
  | .error _ _ => true
  | _ => false

-- What comes of a message: an error without any call, or the calls of the operation and then
-- its one reply.
inductive Handled (expand : JsString → JsString → JsString) (path : Except JsString JsString)
    (admitted : JsString → JsString → Prop) (kind : FileKind) (transferId : TransferId) :
    List Entry → Prop where
  | refused (operation : JsString) (error : SftpServiceError)
      (hoperation : operation = kind.operation ∨ operation = js "list") :
      Handled expand path admitted kind transferId [.reply (.error operation error)]
  | performed {α : Type} {Fits : JsString → α → Prop} {calls : List Entry}
      {result : Except SftpServiceError α} {requested : JsString} {reply : SftpReply}
      (hpath : path = .ok requested)
      (hperforms : Performs expand (admitted requested) kind Fits calls result)
      (hreply : ∀ checked, (∀ value, result = .ok value → Fits checked value) →
        reply.Answers kind transferId checked)
      (hok : reply.isError = false ↔ ∃ value, result = .ok value) :
      Handled expand path admitted kind transferId (calls ++ [.reply reply])

section Handling

variable {σ : Type} {runtime : Runtime} {config : SftpConfig} {context : FileContext σ}
  {expand : JsString → JsString → JsString} {transferId : TransferId} {maxFileSize : Nat}

theorem Handled.of_performs {α : Type} {kind : FileKind} {Fits : JsString → α → Prop}
    {path : Except JsString JsString} {admitted : JsString → JsString → Prop}
    {first : AnyEvents σ} {result : Except SftpServiceError α} {requested : JsString}
    {reply : SftpReply} (hpath : path = .ok requested)
    (hperforms : Performs expand (admitted requested) kind Fits (trail first) result)
    (hreply : ∀ checked, (∀ value, result = .ok value → Fits checked value) →
      reply.Answers kind transferId checked)
    (hok : reply.isError = false ↔ ∃ value, result = .ok value) :
    Handled expand path admitted kind transferId
      (trail (first ++ [⟨.inr (.emit reply), ()⟩])) := by
  rw [trail_append]
  exact .performed hpath hperforms hreply hok

theorem handleRequest_handled {ρ α : Type} (kind : FileKind) {Fits : JsString → α → Prop}
    {validation : Except JsString ρ} {path : ρ → JsString}
    {perform : FileOperations σ → σ → OperationSetupOptions → ρ →
      FileTask σ (σ × Except SftpServiceError α)} {response : α → SftpReply}
    (hperform : ∀ sftp, context.sftp = some sftp → ∀ state options request,
      Follows expand (Admitted runtime config options.path kind.checksExtension) kind Fits
        (perform sftp state options request))
    (hresponse : ∀ checked value, Fits checked value →
      (response value).Answers kind transferId checked)
    (hsuccess : ∀ value, (response value).isError = false) (state : σ) :
    (handleRequest context kind.operation validation path perform response state).Ensures
      fun events _ => Handled expand (validation.map path)
        (fun requested => Admitted runtime config requested kind.checksExtension) kind transferId
        (trail events) := by
  unfold handleRequest
  split
  · exact fun _ => .refused _ _ (.inr rfl)
  · rename_i sftp hsftp
    split
    · exact fun _ => .refused _ _ (.inr rfl)
    · split
      · exact fun _ => .refused _ _ (.inl rfl)
      · rename_i request
        split
        · rename_i connectionId sessionId _ _
          refine Prog.Ensures.bind (hperform sftp hsftp state _ request) ?_
          rintro first ⟨after, result⟩ hfirst
          cases result with
          | error error =>
            rintro ⟨⟩
            exact .of_performs rfl hfirst (fun _ _ => rfl) ⟨nofun, nofun⟩
          | ok value =>
            rintro ⟨⟩
            refine .of_performs rfl hfirst (fun checked hfits => ?_) ?_
            · exact hresponse checked value (hfits value rfl)
            · exact ⟨fun _ => ⟨value, rfl⟩, fun _ => hsuccess value⟩
        · exact fun _ => .refused _ _ (.inl rfl)

theorem handle_handled
    (hlawful : ∀ sftp, context.sftp = some sftp → sftp.Lawful runtime config expand) (state : σ)
    (message : FileMessage) :
    (handle runtime maxFileSize context transferId state message).Ensures fun events _ =>
      Handled expand (message.path runtime maxFileSize)
        (fun requested => Admitted runtime config requested message.kind.checksExtension)
        message.kind transferId (trail events) := by
  cases message with
  | list data =>
    refine handleRequest_handled .list (fun sftp hsftp state options (request : SftpListRequest) =>
      (hlawful sftp hsftp).listDirectory state options (request.showHidden.getD false)) ?_ ?_ state
    · exact fun checked value h => ⟨rfl, h⟩
    · exact fun value => rfl
  | stat data =>
    refine handleRequest_handled .stat (fun sftp hsftp state options _ =>
      (hlawful sftp hsftp).stat state options) ?_ ?_ state
    · exact fun checked value h => ⟨rfl, h⟩
    · exact fun value => rfl
  | mkdir data =>
    refine handleRequest_handled .mkdir (fun sftp hsftp state options (request : SftpMkdirRequest) =>
      (hlawful sftp hsftp).mkdir state options request.mode) ?_ ?_ state
    · exact fun checked value h => ⟨.inl rfl, h⟩
    · exact fun value => rfl
  | delete data =>
    refine handleRequest_handled .delete (fun sftp hsftp state options (request : SftpDeleteRequest) =>
      (hlawful sftp hsftp).delete state options (request.recursive.getD false)) ?_ ?_ state
    · exact fun checked value h => ⟨.inr rfl, h⟩
    · exact fun value => rfl
  | uploadStart data =>
    refine handleRequest_handled .upload (fun sftp hsftp state options request =>
      (hlawful sftp hsftp).startUpload state options transferId request) ?_ ?_ state
    · exact fun checked value h => ⟨rfl, h⟩
    · exact fun value => rfl

end Handling

end WebSsh2.Sftp.Operations

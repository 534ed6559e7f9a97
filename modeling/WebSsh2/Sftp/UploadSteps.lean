import WebSsh2.Sftp.ConcurrentTransfers
import WebSsh2.Sftp.UploadService

namespace WebSsh2.Sftp.UploadService

open WebSsh2.Library WebSsh2.State WebSsh2.Sftp.Upload

-- Entries that tell nothing about the course of an upload.
def Action.isReply : Action → Bool
  | .emit _ (.complete _) => false
  | .emit _ _ => true
  | .closed _ => true
  | _ => false

def Replies (actions : List Action) : Prop :=
  ∀ action ∈ actions, Action.isReply action = true

theorem replies_nil : Replies [] := by
  intro action hmem
  cases hmem

theorem replies_singleton {action : Action} (h : action.isReply = true) : Replies [action] := by
  intro other hmem
  rw [List.mem_singleton.mp hmem]
  exact h

theorem replies_append {first second : List Action} (hfirst : Replies first)
    (hsecond : Replies second) : Replies (first ++ second) := by
  intro action hmem
  rcases List.mem_append.mp hmem with hold | hnew
  · exact hfirst action hold
  · exact hsecond action hnew

-- A transfer as it is when it is started.
structure Fresh (sessionId : SessionId) (direction : TransferDirection)
    (transfer : ManagedTransfer) : Prop where
  sessionId : transfer.sessionId = sessionId
  direction : transfer.direction = direction
  bytesTransferred : transfer.bytesTransferred = .ofInt 0
  nextChunkIndex : transfer.nextChunkIndex = 0

def chunkOf (request : UploadChunkRequest) (transfer : ManagedTransfer) : Chunk where
  chunkIndex := request.chunkIndex
  offset := (transfer.bytesTransferred.add (.ofInt (uploadedData request).length)).sub
    (.ofInt (uploadedData request).length)
  data := uploadedData request
  isLast := request.isLast

def sharesBytes (transferId : TransferId) (bytesTransferred : Number) (writing : Writing) :
    Writing :=
  if writing.transferId = transferId then { writing with bytesTransferred } else writing

section Steps

variable (runtime : Runtime) (settings : Settings) (generateTransferId : Nat → TransferId)

-- What the client sent is a chunk of one of its uploads, and the next one of it.
structure Accepts (state : State) (client : Client) (data : JsValue) (request : UploadChunkRequest)
    (handle : UploadHandle) (transfer : ManagedTransfer) : Prop where
  valid : validateSftpUploadChunkRequest runtime data = .ok request
  configured : settings.configured = true
  ids : ∃ connectionId, getConnectionAndSessionIds client =
    some (connectionId, transfer.sessionId)
  tracked : state.transferManager.transfers.get request.transferId = some transfer
  active : transfer.status = .active
  next : request.chunkIndex = .ofInt transfer.nextChunkIndex
  handle : state.uploadHandles.get request.transferId = some handle

-- What a step can do, with the guards it does it under.
inductive Change (state : State) : Event → State → Prop where
  | replied (event : Event) (generated : Nat) (replies : List Action)
      (hgenerated : state.generated ≤ generated) (hreplies : Replies replies) :
      Change state event { state with generated, log := state.log ++ replies }
  | started (client : Client) (data : JsValue) (setup : Except SftpServiceError JsString)
      (fileExists : Bool) (now : Time) (sessionId : SessionId) (transfer : ManagedTransfer)
      (opening : Opening) (size : Nat) (hsession : client.sessionId = some sessionId)
      (hnew : state.transferManager.transfers.get (generateTransferId state.generated) = none)
      (hfresh : Fresh sessionId .upload transfer) (hpending : transfer.status = .pending)
      (htotal : transfer.totalBytes = .ofInt size) (hsize : size ≤ settings.uploads.maxFileSize)
      (hopening : opening.transferId = generateTransferId state.generated ∧
        opening.sessionId = sessionId) :
      Change state (.uploadStart client data setup fileExists now) { state with
        generated := state.generated + 1
        transferManager :=
          state.transferManager.store (generateTransferId state.generated) transfer
        opening := state.opening ++ [opening]
        log := state.log ++ [.started (generateTransferId state.generated) (.ofInt size)] }
  | opened (sessionId : SessionId) (transferId : TransferId) (now : Time) (opening : Opening)
      (replies : List Action)
      (hfind : state.opening.find? (isOpening sessionId transferId) = some opening)
      (hreplies : Replies replies) :
      Change state (.openReturned sessionId transferId (.ok ()) now) { state with
        opening := state.opening.eraseP (isOpening sessionId transferId)
        files := state.files + 1
        uploadHandles := state.uploadHandles.set transferId ⟨state.files, sessionId⟩
        transferManager := (state.transferManager.activateTransfer transferId now).1
        log := state.log ++ replies }
  | openFailed (sessionId : SessionId) (transferId : TransferId) (message : JsString) (now : Time)
      (opening : Opening) (replies : List Action)
      (hfind : state.opening.find? (isOpening sessionId transferId) = some opening)
      (hreplies : Replies replies) :
      Change state (.openReturned sessionId transferId (.error message) now) { state with
        opening := state.opening.eraseP (isOpening sessionId transferId)
        transferManager := state.transferManager.cancelTransfer transferId
        log := state.log ++ replies }
  | openTimedOut (sessionId : SessionId) (transferId : TransferId) (opening : Opening)
      (replies : List Action)
      (hfind : state.opening.find? (isOpening sessionId transferId) = some opening)
      (hreplies : Replies replies) :
      Change state (.openTimedOut sessionId transferId) { state with
        opening := state.opening.map fun (other : Opening) =>
          if isOpening sessionId transferId other then { other with waiting := false } else other
        transferManager := state.transferManager.cancelTransfer transferId
        log := state.log ++ replies }
  | accepted (client : Client) (data : JsValue) (now : Time) (request : UploadChunkRequest)
      (handle : UploadHandle) (transfer : ManagedTransfer) (writing : Writing)
      (haccepts : Accepts runtime settings state client data request handle transfer)
      (hwriting : writing.transferId = request.transferId ∧ writing.handle = handle ∧
        writing.chunk = chunkOf request transfer) :
      Change state (.uploadChunk client data now) { state with
        transferManager := state.transferManager.store request.transferId
          (TransferManager.updated transfer (uploadedData request).length now)
        writing := state.writing.map (sharesBytes request.transferId
          (transfer.bytesTransferred.add (.ofInt (uploadedData request).length))) ++ [writing]
        log := state.log ++ [.write request.transferId handle (chunkOf request transfer)] }
  | writeFailed (sessionId : SessionId) (transferId : TransferId) (chunkIndex : Number)
      (message : JsString) (now : Time) (writing : Writing) (replies : List Action)
      (hfind : state.writing.find? (isWriting sessionId transferId chunkIndex) = some writing)
      (hreplies : Replies replies) :
      Change state (.writeReturned sessionId transferId chunkIndex (.error message) now)
        { state with
          writing := state.writing.eraseP (isWriting sessionId transferId chunkIndex)
          uploadHandles := state.uploadHandles.delete transferId
          log := state.log ++ .failed transferId writing.handle writing.chunk :: replies }
  | written (sessionId : SessionId) (transferId : TransferId) (chunkIndex : Number) (now : Time)
      (writing : Writing) (replies : List Action)
      (hfind : state.writing.find? (isWriting sessionId transferId chunkIndex) = some writing)
      (hreplies : Replies replies)
      (hgone : writing.chunk.isLast = true → writing.waiting = true →
        state.transferManager.transfers.get transferId = none) :
      Change state (.writeReturned sessionId transferId chunkIndex (.ok ()) now) { state with
        writing := state.writing.eraseP (isWriting sessionId transferId chunkIndex)
        uploadHandles :=
          if writing.chunk.isLast then state.uploadHandles.delete transferId
          else state.uploadHandles
        log := state.log ++ .written transferId writing.handle writing.chunk :: replies }
  | completed (sessionId : SessionId) (transferId : TransferId) (chunkIndex : Number) (now : Time)
      (writing : Writing) (transfer : ManagedTransfer) (replies : List Action)
      (response : SftpCompleteResponse)
      (hfind : state.writing.find? (isWriting sessionId transferId chunkIndex) = some writing)
      (hlast : writing.chunk.isLast = true) (hwaiting : writing.waiting = true)
      (hget : state.transferManager.transfers.get transferId = some transfer)
      (hreplies : Replies replies) (hresponse : response.transferId = transferId) :
      Change state (.writeReturned sessionId transferId chunkIndex (.ok ()) now) { state with
        writing := state.writing.eraseP (isWriting sessionId transferId chunkIndex)
        uploadHandles := state.uploadHandles.delete transferId
        transferManager := state.transferManager.cancelTransfer transferId
        log := state.log ++ (.written transferId writing.handle writing.chunk :: replies ++
          [.emit writing.socket (.complete response)]) }
  | writeTimedOut (sessionId : SessionId) (transferId : TransferId) (chunkIndex : Number)
      (replies : List Action) (hreplies : Replies replies) :
      Change state (.writeTimedOut sessionId transferId chunkIndex) { state with
        writing := state.writing.map fun (other : Writing) =>
          if isWriting sessionId transferId chunkIndex other then { other with waiting := false }
          else other
        log := state.log ++ replies }
  | uploadCancelled (client : Client) (data : JsValue) (transferId : TransferId)
      (transfer : ManagedTransfer) (replies : List Action)
      (hget : state.transferManager.transfers.get transferId = some transfer)
      (hsession : client.sessionId = some transfer.sessionId) (hreplies : Replies replies) :
      Change state (.uploadCancel client data) { state with
        uploadHandles := state.uploadHandles.delete transferId
        transferManager := state.transferManager.cancelTransfer transferId
        log := state.log ++ replies }
  | downloadStarted (client : Client) (resolvedPath : JsString) (fileInfo : FileInfo) (now : Time)
      (sessionId : SessionId) (transfer : ManagedTransfer) (controllers : List (Nat × TransferId))
      (replies : List Action) (hsession : client.sessionId = some sessionId)
      (hnew : state.transferManager.transfers.get (generateTransferId state.generated) = none)
      (hfresh : Fresh sessionId .download transfer) (hreplies : Replies replies) :
      Change state (.downloadStart client resolvedPath fileInfo now) { state with
        generated := state.generated + 1
        transferManager :=
          state.transferManager.store (generateTransferId state.generated) transfer
        downloadStreams :=
          state.downloadStreams.set (generateTransferId state.generated) sessionId
        downloadControllers := controllers
        log := state.log ++ replies }
  | downloadProgressed (transferId : TransferId) (chunkIndex : Number) (bytesRead : Nat)
      (now : Time) (transfer : ManagedTransfer)
      (hstream : (state.downloadStreams.get transferId).isSome = true)
      (hget : state.transferManager.transfers.get transferId = some transfer) :
      Change state (.downloadProgress transferId chunkIndex bytesRead now) { state with
        transferManager :=
          state.transferManager.store transferId (TransferManager.updated transfer bytesRead now) }
  | downloadEnded (transferId : TransferId) (now : Time) (controllers : List (Nat × TransferId))
      (hstream : (state.downloadStreams.get transferId).isSome = true) :
      Change state (.downloadEnded transferId now) { state with
        transferManager := state.transferManager.cancelTransfer transferId
        downloadStreams := state.downloadStreams.delete transferId
        downloadControllers := controllers }
  | downloadCancelled (client : Client) (data : JsValue) (transferId : TransferId)
      (transfer : ManagedTransfer) (controllers : List (Nat × TransferId))
      (hvalid : validateSftpDownloadCancelRequest data = .ok transferId)
      (hconfigured : settings.configured = true)
      (hget : state.transferManager.transfers.get transferId = some transfer)
      (hids : ∃ connectionId, getConnectionAndSessionIds client =
        some (connectionId, transfer.sessionId)) :
      Change state (.downloadCancel client data) { state with
        transferManager := state.transferManager.cancelTransfer transferId
        downloadStreams := state.downloadStreams.delete transferId
        downloadControllers := controllers }
  | disconnected (client : Client) (sessionId : SessionId)
      (hconfigured : settings.configured = true)
      (hids : ∃ connectionId, getConnectionAndSessionIds client = some (connectionId, sessionId)) :
      Change state (.disconnect client) { state with
        transferManager := state.transferManager.cancelSessionTransfers sessionId }

end Steps

section Handlers

variable {runtime : Runtime} {settings : Settings} {generateTransferId : Nat → TransferId}
  {state : State}

theorem change_same (event : Event) :
    Change runtime settings generateTransferId state event state := by
  have hreplied := @Change.replied runtime settings generateTransferId state event state.generated
    [] (Nat.le_refl _) replies_nil
  rwa [List.append_nil] at hreplied

theorem change_emitError (event : Event) (socket : Nat) (operation : JsString)
    (error : SftpServiceError) :
    Change runtime settings generateTransferId state event
      (emitError state socket operation error) :=
  .replied event state.generated _ (Nat.le_refl _) (replies_singleton rfl)

theorem closeUpload_eq (transferId : TransferId) :
    ∃ replies, Replies replies ∧ closeUpload state transferId = { state with
      uploadHandles := state.uploadHandles.delete transferId, log := state.log ++ replies } := by
  unfold closeUpload
  cases hget : state.uploadHandles.get transferId with
  | none =>
    refine ⟨[], replies_nil, ?_⟩
    rw [OrderedMap.delete_of_get_none hget, List.append_nil]
  | some handle => exact ⟨[.closed handle], replies_singleton rfl, rfl⟩

theorem finishUpload_eq (writing : Writing) :
    ∃ replies, Replies replies ∧ finishUpload settings state writing = { state with
      uploadHandles := state.uploadHandles.delete writing.transferId
      log := state.log ++ replies } := by
  unfold finishUpload
  cases settings.backend with
  | sftp => exact closeUpload_eq writing.transferId
  | shell => exact ⟨[.closed writing.handle], replies_singleton rfl, rfl⟩

theorem getIds_session {client : Client} {ids : ConnectionId × SessionId}
    (h : getConnectionAndSessionIds client = some ids) : client.sessionId = some ids.2 := by
  unfold getConnectionAndSessionIds at h
  split at h
  · rename_i hsession
    cases h
    exact hsession
  · cases h

variable {transferId : TransferId} {sessionId : SessionId} {manager : TransferManager}

theorem verifyOwnership_ok {transfer : ManagedTransfer}
    (h : manager.verifyOwnership transferId sessionId = .ok transfer) :
    manager.transfers.get transferId = some transfer ∧ transfer.sessionId = sessionId := by
  unfold TransferManager.verifyOwnership at h
  split at h
  · rename_i found hget
    split at h
    · cases h
    · rename_i howner
      cases h
      exact ⟨hget, not_not.mp howner⟩
  · cases h

theorem startTransfer_ok {manager started : TransferManager} {params : StartTransferParams}
    {now : Time} (h : manager.startTransfer runtime params now = .ok started) :
    manager.transfers.get params.transferId = none ∧
      ∃ transfer, started = manager.store params.transferId transfer ∧
        Fresh params.sessionId params.direction transfer ∧ transfer.status = .pending ∧
        transfer.totalBytes = params.totalBytes := by
  unfold TransferManager.startTransfer at h
  dsimp only at h
  split at h
  · cases h
  · split at h
    · cases h
    · rename_i hnew
      cases h
      exact ⟨by simpa using hnew, _, rfl, ⟨rfl, rfl, rfl, rfl⟩, rfl, rfl⟩

variable (client : Client) (data : JsValue)

theorem change_uploadStart (setup : Except SftpServiceError JsString) (fileExists : Bool)
    (now : Time) :
    Change runtime settings generateTransferId state
      (.uploadStart client data setup fileExists now)
      (handleUploadStart runtime settings generateTransferId state client data setup fileExists
        now) := by
  unfold handleUploadStart
  split
  · exact change_emitError _ _ _ _
  split
  · exact change_emitError _ _ _ _
  rename_i request hvalid
  split
  · exact change_emitError _ _ _ _
  rename_i connectionId sessionId hids
  have hreply : ∀ socket operation error, Change runtime settings generateTransferId state
      (.uploadStart client data setup fileExists now)
      (emitError { state with generated := state.generated + 1 } socket operation error) :=
    fun _ _ _ => .replied _ _ _ (Nat.le_succ _) (replies_singleton rfl)
  unfold startUpload
  split
  · exact hreply _ _ _
  split
  · exact hreply _ _ _
  split
  · exact hreply _ _ _
  split
  · exact hreply _ _ _
  · rename_i manager hstart
    obtain ⟨size, hsize, hle⟩ := validateSftpUploadStartRequest_fileSize runtime hvalid
    unfold startUploadTransfer at hstart
    dsimp only at hstart
    cases hresult : state.transferManager.startTransfer runtime {
        transferId := generateTransferId state.generated
        sessionId
        direction := .upload
        remotePath := _
        fileName := request.fileName
        totalBytes := request.fileSize
        rateLimitBytesPerSec := some settings.config.transferRateLimitBytesPerSec } now with
    | error error =>
      rw [hresult] at hstart
      cases hstart
    | ok started =>
      rw [hresult] at hstart
      cases hstart
      obtain ⟨hnew, transfer, hstore, hfresh, hpending, htotal⟩ := startTransfer_ok hresult
      rw [hstore, hsize]
      refine .started client data _ fileExists now sessionId transfer _ size
        (getIds_session hids) hnew hfresh hpending (htotal.trans hsize) hle ?_
      exact ⟨rfl, rfl⟩

theorem isOpening_find {opening : Opening}
    (h : state.opening.find? (isOpening sessionId transferId) = some opening) :
    opening.sessionId = sessionId ∧ opening.transferId = transferId := by
  simpa [isOpening] using List.find?_some h

theorem isWriting_find {chunkIndex : Number} {writing : Writing}
    (h : state.writing.find? (isWriting sessionId transferId chunkIndex) = some writing) :
    writing.handle.sessionId = sessionId ∧ writing.transferId = transferId ∧
      writing.chunk.chunkIndex = chunkIndex := by
  simpa [isWriting, and_assoc] using List.find?_some h

theorem change_openReturned {opening : Opening}
    (hfind : state.opening.find? (isOpening sessionId transferId) = some opening)
    (result : Except JsString Unit) (now : Time) :
    Change runtime settings generateTransferId state
      (.openReturned sessionId transferId result now)
      (openReturned settings
        { state with opening := state.opening.eraseP (isOpening sessionId transferId) } opening
        result now) := by
  obtain ⟨rfl, rfl⟩ := isOpening_find hfind
  unfold openReturned
  cases result with
  | error message =>
    dsimp only
    split
    · exact .openFailed _ _ message now opening _ hfind (replies_singleton rfl)
    · have hfailed := @Change.openFailed runtime settings generateTransferId state
        opening.sessionId opening.transferId message now opening [] hfind replies_nil
      rwa [List.append_nil] at hfailed
  | ok value =>
    dsimp only
    split
    · exact .opened _ _ now opening _ hfind (replies_singleton rfl)
    · have hopened := @Change.opened runtime settings generateTransferId state
        opening.sessionId opening.transferId now opening [] hfind replies_nil
      rwa [List.append_nil] at hopened

-- A chunk is refused with an error, or can be accepted.
theorem handleUploadChunk_cases (client : Client) (data : JsValue) (now : Time) :
    (∃ error, handleUploadChunk runtime settings state client data now =
        emitError state client.socket (js "upload") error) ∨
      ∃ request handle transfer,
        Accepts runtime settings state client data request handle transfer := by
  unfold handleUploadChunk
  split
  · exact .inl ⟨_, rfl⟩
  rename_i request hvalid
  split
  · exact .inl ⟨_, rfl⟩
  rename_i hconfigured
  split
  · exact .inl ⟨_, rfl⟩
  rename_i connectionId sessionId hids
  split
  · exact .inl ⟨_, rfl⟩
  rename_i transfer howned
  obtain ⟨hget, hsession⟩ := verifyOwnership_ok howned
  unfold processUploadChunk
  dsimp only
  cases hhandle : state.uploadHandles.get request.transferId with
  | none => exact .inl ⟨_, rfl⟩
  | some handle =>
    unfold TransferManager.updateProgress
    rw [hget]
    dsimp only
    by_cases hactive : transfer.status = .active
    · rw [if_neg (not_not_intro hactive)]
      by_cases hnext : request.chunkIndex = .ofInt transfer.nextChunkIndex
      · refine .inr ⟨request, handle, transfer, hvalid, by simpa using hconfigured,
          ⟨connectionId, ?_⟩, hget, hactive, hnext, hhandle⟩
        rw [hsession]
        exact hids
      · rw [if_pos hnext]
        exact .inl ⟨_, rfl⟩
    · rw [if_pos hactive]
      exact .inl ⟨_, rfl⟩

-- A chunk that can be accepted is accepted.
theorem step_of_accepts {client : Client} {data : JsValue} {request : UploadChunkRequest}
    {handle : UploadHandle} {transfer : ManagedTransfer}
    (h : Accepts runtime settings state client data request handle transfer) (now : Time) :
    step runtime settings generateTransferId state (.uploadChunk client data now) = { state with
      transferManager := state.transferManager.store request.transferId
        (TransferManager.updated transfer (uploadedData request).length now)
      writing := state.writing.map (sharesBytes request.transferId
        (transfer.bytesTransferred.add (.ofInt (uploadedData request).length))) ++ [{
          transferId := request.transferId
          handle
          chunk := chunkOf request transfer
          socket := client.socket
          bytesTransferred :=
            transfer.bytesTransferred.add (.ofInt (uploadedData request).length)
          waiting := true }]
      log := state.log ++ [.write request.transferId handle (chunkOf request transfer)] } := by
  obtain ⟨connectionId, hids⟩ := h.ids
  have howned : state.transferManager.verifyOwnership request.transferId transfer.sessionId =
      .ok transfer := by
    unfold TransferManager.verifyOwnership
    rw [h.tracked]
    exact if_neg (not_not_intro rfl)
  unfold step
  dsimp only
  unfold handleUploadChunk
  rw [h.valid]
  dsimp only
  rw [if_neg (by simp [h.configured]), hids]
  dsimp only
  rw [howned]
  unfold processUploadChunk
  dsimp only
  rw [h.handle]
  unfold TransferManager.updateProgress
  rw [h.tracked]
  dsimp only
  rw [if_neg (not_not_intro h.active), if_neg (not_not_intro h.next)]
  rfl

theorem change_uploadChunk (now : Time) :
    Change runtime settings generateTransferId state (.uploadChunk client data now)
      (handleUploadChunk runtime settings state client data now) := by
  rcases @handleUploadChunk_cases runtime settings state client data now with
    ⟨error, hrefused⟩ | ⟨request, handle, transfer, haccepts⟩
  · rw [hrefused]
    exact change_emitError _ _ _ _
  · have hstep := @step_of_accepts runtime settings generateTransferId state client data request
      handle transfer haccepts now
    unfold step at hstep
    dsimp only at hstep
    rw [hstep]
    exact .accepted client data now request handle transfer _ haccepts ⟨rfl, rfl, rfl⟩

theorem completeTransfer_none (h : manager.transfers.get transferId = none) (now : Time) :
    ∃ error, manager.completeTransfer transferId now = (manager, .error error) := by
  unfold TransferManager.completeTransfer
  rw [h]
  exact ⟨_, rfl⟩

theorem completeTransfer_some {transfer : ManagedTransfer}
    (h : manager.transfers.get transferId = some transfer) (now : Time) :
    ∃ stats, manager.completeTransfer transferId now =
      (manager.cancelTransfer transferId, .ok stats) := by
  unfold TransferManager.completeTransfer
  rw [h]
  exact ⟨_, rfl⟩

theorem closeUpload_of_get_none (h : state.uploadHandles.get transferId = none) :
    closeUpload state transferId = state := by
  unfold closeUpload
  rw [h]

-- The write of a last chunk completes a transfer that is tracked, where the handler waits.
theorem writeReturned_completes {writing : Writing} {transfer : ManagedTransfer}
    (hlast : writing.chunk.isLast = true) (hwaiting : writing.waiting = true)
    (hget : state.transferManager.transfers.get writing.transferId = some transfer) (now : Time) :
    ∃ replies response, Replies replies ∧ response.transferId = writing.transferId ∧
      writeReturned settings state writing (.ok ()) now = { state with
        uploadHandles := state.uploadHandles.delete writing.transferId
        transferManager := state.transferManager.cancelTransfer writing.transferId
        log := state.log ++ (.written writing.transferId writing.handle writing.chunk :: replies ++
          [.emit writing.socket (.complete response)]) } := by
  obtain ⟨replies, hreplies, hfinish⟩ := @finishUpload_eq settings
    (record state (.written writing.transferId writing.handle writing.chunk)) writing
  obtain ⟨stats, hsome⟩ := completeTransfer_some hget now
  refine ⟨replies ++ [.emit writing.socket (.uploadAck {
    transferId := writing.transferId
    chunkIndex := writing.chunk.chunkIndex
    bytesReceived := writing.bytesTransferred })],
    buildCompleteResponse writing.transferId .upload stats,
    replies_append hreplies (replies_singleton rfl), rfl, ?_⟩
  unfold writeReturned
  dsimp only
  rw [if_pos hlast, if_pos hwaiting, if_pos hlast, hfinish]
  unfold completeUpload
  dsimp only [record]
  rw [hsome]
  dsimp only
  rw [closeUpload_of_get_none (by simp)]
  simp [List.append_assoc]

theorem change_writeReturned {chunkIndex : Number} {writing : Writing}
    (hfind : state.writing.find? (isWriting sessionId transferId chunkIndex) = some writing)
    (result : Except JsString Unit) (now : Time) :
    Change runtime settings generateTransferId state
      (.writeReturned sessionId transferId chunkIndex result now)
      (writeReturned settings
        { state with writing := state.writing.eraseP (isWriting sessionId transferId chunkIndex) }
        writing result now) := by
  obtain ⟨-, rfl, -⟩ := isWriting_find hfind
  cases result with
  | error message =>
    unfold writeReturned
    dsimp only [cleanupUpload]
    obtain ⟨replies, hreplies, hclose⟩ := @closeUpload_eq (record { state with
      writing := state.writing.eraseP (isWriting sessionId writing.transferId chunkIndex) }
      (.failed writing.transferId writing.handle writing.chunk)) writing.transferId
    rw [hclose]
    dsimp only [record]
    split
    · have hfailed := @Change.writeFailed runtime settings generateTransferId state sessionId
        writing.transferId chunkIndex message now writing (replies ++ [.emit writing.socket
          (.error (js "upload") {
            code := .chunkError, message, transferId := some writing.transferId })]) hfind
        (replies_append hreplies (replies_singleton rfl))
      simpa [emitError, record, List.append_assoc] using hfailed
    · have hfailed := @Change.writeFailed runtime settings generateTransferId state sessionId
        writing.transferId chunkIndex message now writing replies hfind hreplies
      simpa [List.append_assoc] using hfailed
  | ok value =>
    by_cases hcompletes : writing.chunk.isLast = true ∧ writing.waiting = true ∧
        ∃ transfer, state.transferManager.transfers.get writing.transferId = some transfer
    · obtain ⟨hlast, hwaiting, transfer, hget⟩ := hcompletes
      obtain ⟨replies, response, hreplies, hresponse, heq⟩ := @writeReturned_completes settings
        { state with
          writing := state.writing.eraseP (isWriting sessionId writing.transferId chunkIndex) }
        writing transfer hlast hwaiting hget now
      rw [heq]
      exact .completed sessionId writing.transferId chunkIndex now writing transfer replies
        response hfind hlast hwaiting hget hreplies hresponse
    unfold writeReturned
    dsimp only
    by_cases hlast : writing.chunk.isLast = true
    · rw [if_pos hlast, if_pos hlast]
      obtain ⟨replies, hreplies, hfinish⟩ := @finishUpload_eq settings (record { state with
        writing := state.writing.eraseP (isWriting sessionId writing.transferId chunkIndex) }
        (.written writing.transferId writing.handle writing.chunk)) writing
      rw [hfinish]
      dsimp only [record]
      split
      · rename_i hwaiting
        unfold completeUpload
        dsimp only
        cases hget : state.transferManager.transfers.get writing.transferId with
        | none =>
          obtain ⟨error, hnone⟩ := completeTransfer_none hget now
          rw [hnone]
          dsimp only
          have hwritten := @Change.written runtime settings generateTransferId state sessionId
            writing.transferId chunkIndex now writing (replies ++ [.emit writing.socket
              (.uploadAck {
                transferId := writing.transferId
                chunkIndex := writing.chunk.chunkIndex
                bytesReceived := writing.bytesTransferred })]) hfind
            (replies_append hreplies (replies_singleton rfl)) (fun _ _ => hget)
          rw [if_pos hlast] at hwritten
          simpa [List.append_assoc] using hwritten
        | some transfer => exact absurd ⟨hlast, hwaiting, transfer, hget⟩ hcompletes
      · rename_i hwaiting
        have hwritten := @Change.written runtime settings generateTransferId state sessionId
          writing.transferId chunkIndex now writing replies hfind hreplies
          (fun _ htrue => absurd htrue hwaiting)
        rw [if_pos hlast] at hwritten
        simpa [List.append_assoc] using hwritten
    · rw [if_neg hlast, if_neg hlast]
      dsimp only [record]
      have hwritten := fun replies hreplies =>
        @Change.written runtime settings generateTransferId state sessionId writing.transferId
          chunkIndex now writing replies hfind hreplies (fun htrue => absurd htrue hlast)
      rw [if_neg hlast] at hwritten
      split
      · have hacked := hwritten [.emit writing.socket (.uploadAck {
          transferId := writing.transferId
          chunkIndex := writing.chunk.chunkIndex
          bytesReceived := writing.bytesTransferred })] (replies_singleton rfl)
        simpa [List.append_assoc] using hacked
      · exact hwritten [] replies_nil

-- A request to cancel is refused, ignored, or of the client's own transfer.
theorem handleUploadCancel_cases (client : Client) (data : JsValue) :
    (∃ message, handleUploadCancel settings state client data =
        emitValidationError state client (js "upload") message) ∨
      handleUploadCancel settings state client data = state ∨
      ∃ transferId transfer, state.transferManager.transfers.get transferId = some transfer ∧
        client.sessionId = some transfer.sessionId ∧
        handleUploadCancel settings state client data = cancelUpload state transferId := by
  unfold handleUploadCancel
  split
  · exact .inl ⟨_, rfl⟩
  rename_i transferId _
  right
  split
  · exact .inl rfl
  split
  · exact .inl rfl
  rename_i connectionId sessionId hids
  split
  · exact .inl rfl
  rename_i transfer howned
  obtain ⟨hget, rfl⟩ := verifyOwnership_ok howned
  exact .inr ⟨transferId, transfer, hget, getIds_session hids, rfl⟩

theorem change_uploadCancel :
    Change runtime settings generateTransferId state (.uploadCancel client data)
      (handleUploadCancel settings state client data) := by
  rcases handleUploadCancel_cases client data with ⟨message, hcancel⟩ | hcancel |
    ⟨transferId, transfer, hget, hsession, hcancel⟩
  · rw [hcancel]
    exact change_emitError _ _ _ _
  · rw [hcancel]
    exact change_same _
  · rw [hcancel]
    obtain ⟨replies, hreplies, hclose⟩ := @closeUpload_eq state transferId
    unfold cancelUpload cleanupUpload
    rw [hclose]
    exact .uploadCancelled client data transferId transfer replies hget hsession hreplies

theorem change_downloadStart (resolvedPath : JsString) (fileInfo : FileInfo) (now : Time) :
    Change runtime settings generateTransferId state
      (.downloadStart client resolvedPath fileInfo now)
      (handleDownloadStart runtime settings generateTransferId state client resolvedPath fileInfo
        now) := by
  unfold handleDownloadStart
  split
  · exact change_emitError _ _ _ _
  split
  · exact change_emitError _ _ _ _
  rename_i connectionId sessionId hids
  dsimp only
  unfold validateAndStartDownload
  split
  · rename_i error herror
    exact .replied _ _ _ (Nat.le_succ _) (replies_singleton rfl)
  · rename_i manager response hstart
    split at hstart
    · cases hstart
    split at hstart
    · cases hstart
    dsimp only at hstart
    split at hstart
    · cases hstart
    · rename_i started hresult
      cases hstart
      obtain ⟨hnew, transfer, hstore, hfresh, hpending, -⟩ := startTransfer_ok hresult
      have hactivate : (started.activateTransfer (generateTransferId state.generated) now).1 =
          state.transferManager.store (generateTransferId state.generated)
            (TransferManager.activated transfer now) := by
        rw [hstore]
        unfold TransferManager.activateTransfer TransferManager.store
        dsimp only
        rw [OrderedMap.get_set_self]
        dsimp only
        rw [if_neg (not_not_intro hpending), OrderedMap.set_set]
        rfl
      rw [hactivate]
      refine .downloadStarted client resolvedPath fileInfo now sessionId
        (TransferManager.activated transfer now) _ _ (getIds_session hids) hnew ?_
        (replies_singleton rfl)
      exact ⟨hfresh.sessionId, hfresh.direction, hfresh.bytesTransferred, hfresh.nextChunkIndex⟩

theorem handleDownloadCancel_cases (client : Client) (data : JsValue) :
    (∃ message, handleDownloadCancel settings state client data =
        emitValidationError state client (js "download") message) ∨
      handleDownloadCancel settings state client data = state ∨
      ∃ transferId transfer, validateSftpDownloadCancelRequest data = .ok transferId ∧
        settings.configured = true ∧
        state.transferManager.transfers.get transferId = some transfer ∧
        (∃ connectionId, getConnectionAndSessionIds client =
          some (connectionId, transfer.sessionId)) ∧
        handleDownloadCancel settings state client data =
          cancelDownload { state with
            downloadControllers :=
              state.downloadControllers.filter (· ≠ (client.socket, transferId)) } transferId := by
  unfold handleDownloadCancel
  split
  · exact .inl ⟨_, rfl⟩
  rename_i transferId hvalid
  right
  split
  · exact .inl rfl
  rename_i hconfigured
  split
  · exact .inl rfl
  rename_i connectionId sessionId hids
  split
  · exact .inl rfl
  rename_i transfer howned
  obtain ⟨hget, rfl⟩ := verifyOwnership_ok howned
  exact .inr ⟨transferId, transfer, hvalid, by simpa using hconfigured, hget,
    ⟨connectionId, hids⟩, rfl⟩

theorem change_downloadCancel :
    Change runtime settings generateTransferId state (.downloadCancel client data)
      (handleDownloadCancel settings state client data) := by
  rcases handleDownloadCancel_cases client data with ⟨message, hcancel⟩ | hcancel |
    ⟨transferId, transfer, hvalid, hconfigured, hget, hids, hcancel⟩
  · rw [hcancel]
    exact change_emitError _ _ _ _
  · rw [hcancel]
    exact change_same _
  · rw [hcancel]
    exact .downloadCancelled client data transferId transfer _ hvalid hconfigured hget hids

theorem change_downloadProgress (transferId : TransferId) (chunkIndex : Number) (bytesRead : Nat)
    (now : Time) (hstream : (state.downloadStreams.get transferId).isSome = true) :
    Change runtime settings generateTransferId state
      (.downloadProgress transferId chunkIndex bytesRead now)
      { state with transferManager := (state.transferManager.updateProgress runtime transferId
          chunkIndex bytesRead now).1 } := by
  unfold TransferManager.updateProgress
  cases hget : state.transferManager.transfers.get transferId with
  | none => exact change_same _
  | some transfer =>
    dsimp only
    split
    · exact change_same _
    · split
      · exact change_same _
      · exact .downloadProgressed transferId chunkIndex bytesRead now transfer hstream hget

-- Where there is no transfer, completing it changes nothing, and neither does cancelling it.
theorem completeTransfer_fst (manager : TransferManager) (transferId : TransferId) (now : Time) :
    (manager.completeTransfer transferId now).1 = manager.cancelTransfer transferId := by
  cases hget : manager.transfers.get transferId with
  | none =>
    obtain ⟨error, hnone⟩ := completeTransfer_none hget now
    rw [hnone]
    unfold TransferManager.cancelTransfer
    rw [OrderedMap.delete_of_get_none hget]
  | some transfer =>
    obtain ⟨stats, hsome⟩ := completeTransfer_some hget now
    rw [hsome]

theorem change_step (event : Event) :
    Change runtime settings generateTransferId state event
      (step runtime settings generateTransferId state event) := by
  cases event with
  | uploadStart client data setup fileExists now =>
    exact change_uploadStart client data setup fileExists now
  | openReturned sessionId transferId result now =>
    unfold step
    dsimp only
    split
    · exact change_same _
    · rename_i opening hfind
      exact change_openReturned hfind result now
  | openTimedOut sessionId transferId =>
    unfold step
    dsimp only
    split
    · exact change_same _
    · rename_i opening hfind
      obtain ⟨rfl, rfl⟩ := isOpening_find hfind
      split
      · exact .openTimedOut _ _ opening _ hfind (replies_singleton rfl)
      · exact change_same _
  | uploadChunk client data now => exact change_uploadChunk client data now
  | writeReturned sessionId transferId chunkIndex result now =>
    unfold step
    dsimp only
    split
    · exact change_same _
    · rename_i writing hfind
      exact change_writeReturned hfind result now
  | writeTimedOut sessionId transferId chunkIndex =>
    unfold step
    dsimp only
    split
    · exact change_same _
    · split
      · exact .writeTimedOut _ _ _ _ (replies_singleton rfl)
      · exact change_same _
  | uploadCancel client data => exact change_uploadCancel client data
  | downloadStart client resolvedPath fileInfo now =>
    exact change_downloadStart client resolvedPath fileInfo now
  | downloadProgress transferId chunkIndex bytesRead now =>
    unfold step
    dsimp only
    split
    · rename_i hstream
      exact change_downloadProgress transferId chunkIndex bytesRead now hstream
    · exact change_same _
  | downloadEnded transferId now =>
    unfold step
    dsimp only
    split
    · rename_i hstream
      rw [completeTransfer_fst]
      exact .downloadEnded transferId now _ hstream
    · exact change_same _
  | downloadCancel client data => exact change_downloadCancel client data
  | disconnect client =>
    unfold step
    dsimp only [handleDisconnect]
    split
    · exact change_same _
    · rename_i connectionId sessionId hids
      split
      · rename_i hconfigured
        exact .disconnected client sessionId hconfigured ⟨connectionId, hids⟩
      · exact change_same _

end Handlers

end WebSsh2.Sftp.UploadService

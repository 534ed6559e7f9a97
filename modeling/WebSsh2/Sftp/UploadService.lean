import WebSsh2.Library.Run
import WebSsh2.Sftp.UploadRequests

namespace WebSsh2.Sftp.UploadService

open WebSsh2.Library WebSsh2.State WebSsh2.Sftp.Upload

inductive Backend where
  | sftp | shell
deriving DecidableEq

structure Settings where
  backend : Backend
  configured : Bool
  config : SftpConfig
  uploads : UploadConfig
  maxFileSize_eq : config.maxFileSize = .ofInt uploads.maxFileSize

-- What a handler reads from the context of its socket.
structure Client where
  socket : Nat
  connectionId : Option ConnectionId
  sessionId : Option SessionId

-- A remote file that was opened, on the channel of a session: a file handle, or the input
-- of a `cat` command.
structure UploadHandle where
  file : Nat
  sessionId : SessionId
deriving DecidableEq

structure Chunk where
  chunkIndex : Number
  offset : Number
  data : Bytes
  isLast : Bool
deriving DecidableEq

-- The outstanding callback of an open. The handler waits for it until the timeout.
structure Opening where
  transferId : TransferId
  sessionId : SessionId
  socket : Nat
  resolvedPath : JsString
  waiting : Bool
deriving DecidableEq

-- The outstanding callback of a write. The acknowledgement reads the number of bytes from
-- the transfer itself, whatever it has become.
structure Writing where
  transferId : TransferId
  handle : UploadHandle
  chunk : Chunk
  socket : Nat
  bytesTransferred : Number
  waiting : Bool
deriving DecidableEq

structure SftpUploadAckResponse where
  transferId : TransferId
  chunkIndex : Number
  bytesReceived : Number

inductive Message where
  | error (operation : JsString) (error : SftpServiceError)
  | uploadReady (response : UploadReadyResponse)
  | uploadAck (response : SftpUploadAckResponse)
  | downloadReady (response : SftpDownloadReadyResponse)
  | complete (response : SftpCompleteResponse)

-- What leaves the service, and what comes back from a write.
inductive Action where
  | emit (socket : Nat) (message : Message)
  | started (transferId : TransferId) (fileSize : Number)
  | write (transferId : TransferId) (handle : UploadHandle) (chunk : Chunk)
  | written (transferId : TransferId) (handle : UploadHandle) (chunk : Chunk)
  | failed (transferId : TransferId) (handle : UploadHandle) (chunk : Chunk)
  | closed (handle : UploadHandle)

-- The backend, with the downloads of the handlers as far as a cancellation looks at them:
-- `downloadStreams` names the session of each.
structure State where
  transferManager : TransferManager
  uploadHandles : OrderedMap TransferId UploadHandle := .empty
  downloadStreams : OrderedMap TransferId SessionId := .empty
  downloadControllers : List (Nat × TransferId) := []
  generated : Nat := 0
  files : Nat := 0
  opening : List Opening := []
  writing : List Writing := []
  log : List Action := []

-- The messages of the sockets, and the callbacks on the channel of a session. What the path
-- of a start request resolves to, and whether a file is there, was asked before.
inductive Event where
  | uploadStart (client : Client) (data : JsValue) (setup : Except SftpServiceError JsString)
      (fileExists : Bool) (now : Time)
  | openReturned (sessionId : SessionId) (transferId : TransferId) (result : Except JsString Unit)
      (now : Time)
  | openTimedOut (sessionId : SessionId) (transferId : TransferId)
  | uploadChunk (client : Client) (data : JsValue) (now : Time)
  | writeReturned (sessionId : SessionId) (transferId : TransferId) (chunkIndex : Number)
      (result : Except JsString Unit) (now : Time)
  | writeTimedOut (sessionId : SessionId) (transferId : TransferId) (chunkIndex : Number)
  | uploadCancel (client : Client) (data : JsValue)
  | downloadStart (client : Client) (resolvedPath : JsString) (fileInfo : FileInfo) (now : Time)
  | downloadProgress (transferId : TransferId) (chunkIndex : Number) (bytesRead : Nat)
      (now : Time)
  | downloadEnded (transferId : TransferId) (now : Time)
  | downloadCancel (client : Client) (data : JsValue)
  | disconnect (client : Client)

section Operations

-- `generateTransferId` gives the transfers their ids, one after the other.
variable (runtime : Runtime) (settings : Settings) (generateTransferId : Nat → TransferId)

variable (state : State)

def record (action : Action) : State :=
  { state with log := state.log ++ [action] }

variable (socket : Nat)

def emitError (operation : JsString) (error : SftpServiceError) : State :=
  record state (.emit socket (.error operation error))

variable (transferId : TransferId)

def cancelTransfer : State :=
  { state with transferManager := state.transferManager.cancelTransfer transferId }

def closeUpload : State :=
  match state.uploadHandles.get transferId with
  | none => state
  | some handle =>
    record { state with uploadHandles := state.uploadHandles.delete transferId } (.closed handle)

-- The shell backend destroys the stream here, which is its way to close.
def cleanupUpload : State :=
  closeUpload state transferId

def startUpload (sessionId : SessionId) (request : UploadStartRequest)
    (setup : Except SftpServiceError JsString) (fileExists : Bool) (now : Time) : State :=
  match validateUploadPreFlight runtime request transferId settings.config.maxFileSize with
  | .error error => emitError state socket (js "upload") error
  | .ok () =>
    match setup with
    | .error error =>
      emitError state socket (js "upload") (match settings.backend with
        | .sftp => { error with fileName := some request.fileName }
        | .shell => error)
    | .ok resolvedPath =>
      if request.overwrite ≠ some true ∧ fileExists = true then
        emitError state socket (js "upload") {
          code := .alreadyExists
          message := js "File already exists"
          path := some resolvedPath
          transferId := some transferId }
      else
        match startUploadTransfer runtime state.transferManager request transferId sessionId
            resolvedPath settings.config.transferRateLimitBytesPerSec now with
        | .error error => emitError state socket (js "upload") error
        | .ok transferManager =>
          record { state with
            transferManager
            opening := state.opening ++
              [{ transferId, sessionId, socket, resolvedPath, waiting := true }] }
            (.started transferId request.fileSize)

-- The callback of the open. It does not ask whether the handler has stopped waiting.
def openReturned (opening : Opening) (result : Except JsString Unit) (now : Time) : State :=
  match result with
  | .error message =>
    let state := cancelTransfer state opening.transferId
    if opening.waiting then
      emitError state opening.socket (js "upload") {
        code := .permissionDenied
        message
        path := some opening.resolvedPath
        transferId := some opening.transferId }
    else
      state
  | .ok () =>
    let handle := { file := state.files, sessionId := opening.sessionId }
    let state := { state with
      files := state.files + 1
      uploadHandles := state.uploadHandles.set opening.transferId handle
      transferManager := (state.transferManager.activateTransfer opening.transferId now).1 }
    if opening.waiting then
      record state (.emit opening.socket
        (.uploadReady (uploadReady settings.uploads opening.transferId)))
    else
      state

def openTimedOut (opening : Opening) : State :=
  emitError (cancelTransfer state opening.transferId) opening.socket (js "upload") {
    code := .timeout
    message := js "Upload start timeout"
    transferId := some opening.transferId }

def processUploadChunk (request : UploadChunkRequest) (now : Time) : State :=
  let data := uploadedData request
  match state.uploadHandles.get request.transferId with
  | none =>
    emitError state socket (js "upload") {
      code := .invalidRequest
      message := js "Transfer not found or already completed"
      transferId := some request.transferId }
  | some handle =>
    let (transferManager, updateResult) := state.transferManager.updateProgress runtime
      request.transferId request.chunkIndex data.length now
    let state := { state with transferManager }
    match updateResult with
    | .error error =>
      emitError state socket (js "upload") (mapChunkUpdateError error request.transferId)
    | .ok transfer =>
      let chunk := {
        chunkIndex := request.chunkIndex
        offset := transfer.bytesTransferred.sub (.ofInt data.length)
        data
        isLast := request.isLast }
      let bytesTransferred := transfer.bytesTransferred
      let earlier := state.writing.map fun (writing : Writing) =>
        if writing.transferId = request.transferId then { writing with bytesTransferred }
        else writing
      record { state with
        writing := earlier ++ [{
          transferId := request.transferId
          handle
          chunk
          socket
          bytesTransferred
          waiting := true }] } (.write request.transferId handle chunk)

def completeUpload (now : Time) : State :=
  match state.transferManager.completeTransfer transferId now with
  | (_, .error _) => state
  | (transferManager, .ok stats) =>
    record (closeUpload { state with transferManager } transferId)
      (.emit socket (.complete (buildCompleteResponse transferId .upload stats)))

-- The end of the input that a last chunk brings. A shell stream is ended in any case.
def finishUpload (writing : Writing) : State :=
  match settings.backend with
  | .sftp => closeUpload state writing.transferId
  | .shell =>
    record { state with uploadHandles := state.uploadHandles.delete writing.transferId }
      (.closed writing.handle)

-- The callback of a write, with what the handler does where it still waits for it.
def writeReturned (writing : Writing) (result : Except JsString Unit) (now : Time) : State :=
  match result with
  | .error message =>
    let state := cleanupUpload
      (record state (.failed writing.transferId writing.handle writing.chunk)) writing.transferId
    if writing.waiting then
      emitError state writing.socket (js "upload") {
        code := .chunkError, message, transferId := some writing.transferId }
    else
      state
  | .ok () =>
    let state := record state (.written writing.transferId writing.handle writing.chunk)
    let state :=
      if writing.chunk.isLast then finishUpload settings state writing else state
    if writing.waiting then
      let state := record state (.emit writing.socket (.uploadAck {
        transferId := writing.transferId
        chunkIndex := writing.chunk.chunkIndex
        bytesReceived := writing.bytesTransferred }))
      if writing.chunk.isLast then
        completeUpload state writing.socket writing.transferId now
      else
        state
    else
      state

def cancelUpload : State :=
  cancelTransfer (cleanupUpload state transferId) transferId

def cancelDownload : State :=
  cancelTransfer { state with downloadStreams := state.downloadStreams.delete transferId }
    transferId

end Operations

section Handlers

variable (runtime : Runtime) (settings : Settings) (generateTransferId : Nat → TransferId)

def getConnectionAndSessionIds (client : Client) : Option (ConnectionId × SessionId) :=
  match client.connectionId, client.sessionId with
  | some connectionId, some sessionId => some (connectionId, sessionId)
  | _, _ => none

variable (state : State)

def emitValidationError (client : Client) (operation message : JsString) : State :=
  emitError state client.socket operation { code := .invalidRequest, message }

def emitNoConnectionError (client : Client) (operation : JsString) (transferId : Option TransferId) :
    State :=
  emitError state client.socket operation {
    code := .noConnection, message := js "No SSH connection established", transferId }

def emitNotEnabledError (client : Client) (operation : JsString) (transferId : Option TransferId) :
    State :=
  emitError state client.socket operation {
    code := .notEnabled, message := js "SFTP is not enabled", transferId }

def handleUploadStart (client : Client) (data : JsValue) (setup : Except SftpServiceError JsString)
    (fileExists : Bool) (now : Time) : State :=
  if !settings.configured || !settings.config.enabled then
    emitNotEnabledError state client (js "list") none
  else
    match validateSftpUploadStartRequest runtime data settings.uploads.maxFileSize with
    | .error message => emitValidationError state client (js "upload") message
    | .ok request =>
      match getConnectionAndSessionIds client with
      | none => emitNoConnectionError state client (js "upload") none
      | some (_, sessionId) =>
        startUpload runtime settings { state with generated := state.generated + 1 }
          client.socket (generateTransferId state.generated) sessionId request setup fileExists
          now

def handleUploadChunk (client : Client) (data : JsValue) (now : Time) : State :=
  match validateSftpUploadChunkRequest runtime data with
  | .error message => emitValidationError state client (js "upload") message
  | .ok request =>
    if !settings.configured then
      emitNotEnabledError state client (js "upload") (some request.transferId)
    else
      match getConnectionAndSessionIds client with
      | none => emitNoConnectionError state client (js "upload") (some request.transferId)
      | some (_, sessionId) =>
        match state.transferManager.verifyOwnership request.transferId sessionId with
        | .error _ =>
          emitError state client.socket (js "upload") {
            code := .notFound
            message := js "Transfer not found"
            transferId := some request.transferId }
        | .ok _ => processUploadChunk runtime state client.socket request now

def handleUploadCancel (client : Client) (data : JsValue) : State :=
  match validateSftpUploadCancelRequest data with
  | .error message => emitValidationError state client (js "upload") message
  | .ok transferId =>
    if !settings.configured then
      state
    else
      match getConnectionAndSessionIds client with
      | none => state
      | some (_, sessionId) =>
        match state.transferManager.verifyOwnership transferId sessionId with
        | .error _ => state
        | .ok _ => cancelUpload state transferId

-- A download that has started streams under the same id.
def handleDownloadStart (client : Client) (resolvedPath : JsString) (fileInfo : FileInfo)
    (now : Time) : State :=
  if !settings.configured || !settings.config.enabled then
    emitNotEnabledError state client (js "list") none
  else
    match getConnectionAndSessionIds client with
    | none => emitNoConnectionError state client (js "download") none
    | some (connectionId, sessionId) =>
      let transferId := generateTransferId state.generated
      let state := { state with generated := state.generated + 1 }
      match validateAndStartDownload runtime state.transferManager settings.config
          { transferId, sessionId, connectionId, remotePath := resolvedPath } resolvedPath
          fileInfo now with
      | .error error => emitError state client.socket (js "download") error
      | .ok (transferManager, response) =>
        record { state with
          transferManager
          downloadStreams := state.downloadStreams.set transferId sessionId
          downloadControllers := state.downloadControllers ++ [(client.socket, transferId)] }
          (.emit client.socket (.downloadReady response))

def handleDownloadCancel (client : Client) (data : JsValue) : State :=
  match validateSftpDownloadCancelRequest data with
  | .error message => emitValidationError state client (js "download") message
  | .ok transferId =>
    if !settings.configured then
      state
    else
      match getConnectionAndSessionIds client with
      | none => state
      | some (_, sessionId) =>
        match state.transferManager.verifyOwnership transferId sessionId with
        | .error _ => state
        | .ok _ =>
          cancelDownload { state with
            downloadControllers :=
              state.downloadControllers.filter (· ≠ (client.socket, transferId)) } transferId

def handleDisconnect (client : Client) : State :=
  match getConnectionAndSessionIds client with
  | none => state
  | some (_, sessionId) =>
    if settings.configured then
      { state with transferManager := state.transferManager.cancelSessionTransfers sessionId }
    else
      state

def isOpening (sessionId : SessionId) (transferId : TransferId) (opening : Opening) : Bool :=
  opening.sessionId = sessionId && opening.transferId = transferId

def isWriting (sessionId : SessionId) (transferId : TransferId) (chunkIndex : Number)
    (writing : Writing) : Bool :=
  writing.handle.sessionId = sessionId && writing.transferId = transferId &&
    writing.chunk.chunkIndex = chunkIndex

-- A callback comes back only where it is outstanding, and its timeout while the handler
-- waits. Writes into the shell have no timeout.
def step : Event → State
  | .uploadStart client data setup fileExists now =>
    handleUploadStart runtime settings generateTransferId state client data setup fileExists now
  | .openReturned sessionId transferId result now =>
    match state.opening.find? (isOpening sessionId transferId) with
    | none => state
    | some opening =>
      openReturned settings
        { state with opening := state.opening.eraseP (isOpening sessionId transferId) }
        opening result now
  | .openTimedOut sessionId transferId =>
    match state.opening.find? (isOpening sessionId transferId) with
    | none => state
    | some opening =>
      if opening.waiting then
        openTimedOut { state with
          opening := state.opening.map fun (other : Opening) =>
            if isOpening sessionId transferId other then { other with waiting := false }
            else other } opening
      else
        state
  | .uploadChunk client data now => handleUploadChunk runtime settings state client data now
  | .writeReturned sessionId transferId chunkIndex result now =>
    match state.writing.find? (isWriting sessionId transferId chunkIndex) with
    | none => state
    | some writing =>
      writeReturned settings
        { state with writing := state.writing.eraseP (isWriting sessionId transferId chunkIndex) }
        writing result now
  | .writeTimedOut sessionId transferId chunkIndex =>
    match state.writing.find? (isWriting sessionId transferId chunkIndex) with
    | none => state
    | some writing =>
      if settings.backend = .sftp ∧ writing.waiting = true then
        emitError { state with
          writing := state.writing.map fun (other : Writing) =>
            if isWriting sessionId transferId chunkIndex other then
              { other with waiting := false }
            else
              other } writing.socket (js "upload") {
          code := .timeout
          message := js "Chunk write timeout"
          transferId := some transferId }
      else
        state
  | .uploadCancel client data => handleUploadCancel settings state client data
  | .downloadStart client resolvedPath fileInfo now =>
    handleDownloadStart runtime settings generateTransferId state client resolvedPath fileInfo now
  | .downloadProgress transferId chunkIndex bytesRead now =>
    if (state.downloadStreams.get transferId).isSome then
      { state with transferManager := (state.transferManager.updateProgress runtime transferId
          chunkIndex bytesRead now).1 }
    else
      state
  | .downloadEnded transferId now =>
    if (state.downloadStreams.get transferId).isSome then
      { state with
        transferManager := (state.transferManager.completeTransfer transferId now).1
        downloadStreams := state.downloadStreams.delete transferId
        downloadControllers := state.downloadControllers.filter (·.2 ≠ transferId) }
    else
      state
  | .downloadCancel client data => handleDownloadCancel settings state client data
  | .disconnect client => handleDisconnect settings state client

def initial (maxConcurrentTransfers defaultRateLimitBytesPerSec : Number) : State where
  transferManager := .new maxConcurrentTransfers defaultRateLimitBytesPerSec

end Handlers

section Sample

def sampleSettings : Settings where
  backend := .sftp
  configured := true
  config := {
    enabled := true
    allowedPaths := none
    blockedExtensions := []
    maxFileSize := .ofInt 104857600
    maxConcurrentTransfers := .ofInt 2
    transferRateLimitBytesPerSec := .ofInt 0 }
  uploads := defaultUploads
  maxFileSize_eq := rfl

def sampleClient : Client where
  socket := 0
  connectionId := some (js "connection")
  sessionId := some (js "session")

-- Ids that are told apart by their length.
def sampleIds (index : Nat) : TransferId :=
  List.replicate (index + 1) 116

theorem sampleIds_injective : Function.Injective sampleIds := by
  intro first second h
  have hlength := congrArg List.length h
  unfold sampleIds at hlength
  rw [List.length_replicate, List.length_replicate] at hlength
  exact Nat.succ.inj hlength

def startMessage (fileSize : Nat) : JsValue :=
  some (.object [(js "remotePath", .string (js "/f")), (js "fileName", .string (js "f")),
    (js "fileSize", .number (.ofInt fileSize))])

def chunkMessage (chunkIndex : Nat) (data : Bytes) (isLast : Bool) : JsValue :=
  some (.object [(js "transferId", .string (sampleIds 0)),
    (js "chunkIndex", .number (.ofInt chunkIndex)), (js "data", .string (Base64.encode data)),
    (js "isLast", .bool isLast)])

def sampleStep : State → Event → State :=
  step asciiRuntime sampleSettings sampleIds

def sampleStart : State :=
  initial (.ofInt 2) (.ofInt 0)

-- A file of a declared size is opened.
def openedUpload (fileSize : Nat) : List Event := [
  .uploadStart sampleClient (startMessage fileSize) (.ok (js "/f")) false 0,
  .openReturned (js "session") (sampleIds 0) (.ok ()) 0]

def sampleWriteReturned (chunkIndex : Nat) (result : Except JsString Unit) : Event :=
  .writeReturned (js "session") (sampleIds 0) (.ofInt chunkIndex) result 0

end Sample

end WebSsh2.Sftp.UploadService

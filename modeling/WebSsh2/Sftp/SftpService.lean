import WebSsh2.Sftp.FileService

namespace WebSsh2.Sftp

open WebSsh2.Library WebSsh2.State

structure SftpSession where
  connectionId : ConnectionId
  sessionId : SessionId

inductive SessionErrorCode where
  | sessionError | notFound | permissionDenied | timeout | operationFailed
deriving DecidableEq

structure SftpSessionError where
  code : SessionErrorCode
  message : JsString
  path : Option JsString := none

-- `clients` are the connections that the SSH service has open.
structure SftpService where
  sessions : OrderedMap ConnectionId SftpSession
  transferManager : TransferManager
  clients : List ConnectionId

def mapSessionError (error : SftpSessionError) : SftpServiceError :=
  match error.code with
  | .notFound => { code := .notFound, message := error.message, path := error.path }
  | .permissionDenied =>
    { code := .permissionDenied, message := error.message, path := error.path }
  | .timeout => { code := .timeout, message := error.message, path := error.path }
  | .sessionError => { code := .sessionError, message := error.message }
  | .operationFailed => { code := .sessionError, message := error.message, path := error.path }

def getFileType (mode : Nat) : SftpFileType :=
  match mode &&& 0o170000 with
  | 0o040000 => .directory
  | 0o100000 => .file
  | 0o120000 => .symlink
  | _ => .other

def transformStats (path : JsString) (stats : Stats) : FileInfo where
  type := getFileType stats.mode
  name := ((pathComponents path).getLast?).getD path
  size := stats.size

namespace SftpSessionManager

section Operations

variable (runtime : Runtime)

def mapSftpError (errorMessage : JsString) (path : Option JsString) : SftpSessionError :=
  let message := runtime.toLowerCase errorMessage
  if includes (js "no such file") message || includes (js "not found") message then
    { code := .notFound, message := js "File or directory not found", path }
  else if includes (js "permission denied") message || includes (js "access denied") message then
    { code := .permissionDenied, message := js "Permission denied", path }
  else
    { code := .operationFailed, message := errorMessage, path }

-- How `wrapSftpOperation` settles once the call is over.
def settle {α : Type} (timeoutMessage failureMessage : JsString) (path : Option JsString) :
    Reply α → Except SftpSessionError α
  | .ok value => .ok value
  | .error message => .error (mapSftpError runtime message path)
  | .timedOut => .error { code := .timeout, message := timeoutMessage, path }
  | .threw message =>
    .error { code := .operationFailed, message := failureMessage ++ js ": " ++ message, path }

variable (service : SftpService)

def openSession (connectionId : ConnectionId) (sessionId : SessionId) :
    Task SftpService (SftpService × Except SftpSessionError SftpSession) :=
  match service.sessions.get connectionId with
  | some existing => pure (service, .ok existing)
  | none => do
    let (service, reply) ← Task.await service (.sftpChannel connectionId)
    match (reply : Reply Unit) with
    | .ok () =>
      let session : SftpSession := { connectionId, sessionId }
      pure ({ service with sessions := service.sessions.set connectionId session },
        .ok session)
    | .error message => pure (service, .error {
        code := .sessionError, message := js "Failed to open SFTP session: " ++ message })
    | .timedOut => pure (service, .error {
        code := .timeout, message := js "SFTP session open timeout" })
    | .threw message => pure (service, .error {
        code := .sessionError, message := js "SFTP session error: " ++ message })

def expandTildePath (path : JsString) :
    Task SftpService (SftpService × Except SftpSessionError JsString) :=
  if isTildePath path then do
    let (service, reply) ← Task.await service (.realpath (js "."))
    pure (service, (settle runtime (js "Expand path timeout") (js "Failed to expand path")
      (some path) reply).map fun homeDir => expandHome homeDir path)
  else
    pure (service, .ok path)

def stat (path : JsString) :
    Task SftpService (SftpService × Except SftpSessionError FileInfo) := do
  let (service, reply) ← Task.await service (.stat path)
  pure (service, (settle runtime (js "Stat operation timeout") (js "Failed to stat")
    (some path) reply).map (transformStats path))

end Operations

end SftpSessionManager

namespace SftpService

section Operations

variable (runtime : Runtime) (config : SftpConfig)

variable (service : SftpService)

def ensureSession (connectionId : ConnectionId) (sessionId : SessionId) :
    Task SftpService (SftpService × Except SftpServiceError SftpSession) :=
  match service.sessions.get connectionId with
  | some existing => pure (service, .ok existing)
  | none =>
    if connectionId ∉ service.clients then
      pure (service, .error { code := .noConnection, message := messageNoConnection })
    else do
      let (service, result) ← SftpSessionManager.openSession service connectionId sessionId
      pure (service, result.mapError mapSessionError)

def resolveTildePath (path : JsString) :
    Task SftpService (SftpService × Except SftpServiceError JsString) :=
  if isTildePath path then do
    let (service, result) ← SftpSessionManager.expandTildePath runtime service path
    pure (service, result.mapError mapSessionError)
  else
    pure (service, .ok path)

def setupOperation (request : DownloadStartRequest) (checkExtension : Bool) :
    Task SftpService (SftpService × Except SftpServiceError JsString) :=
  match validateOperationPreconditions runtime config request.remotePath checkExtension
      (some request.transferId) with
  | .error error => pure (service, .error error)
  | .ok preflight => do
    let (service, sessionResult) ←
      ensureSession service request.connectionId request.sessionId
    match sessionResult with
    | .error error =>
      pure (service, .error { error with transferId := some request.transferId })
    | .ok _ =>
      let (service, resolveResult) ← resolveTildePath runtime service preflight
      pure (service, resolveResult.mapError fun error =>
        { error with transferId := some request.transferId })

def startDownload (now : Time) (service : SftpService) (request : DownloadStartRequest) :
    Task SftpService (SftpService × Except SftpServiceError SftpDownloadReadyResponse) := do
  let (service, setup) ← setupOperation runtime config service request true
  match setup with
  | .error error => pure (service, .error error)
  | .ok resolvedPath =>
    let (service, statResult) ← SftpSessionManager.stat runtime service resolvedPath
    match statResult with
    | .error error => pure (service, .error {
        mapSessionError error with transferId := some request.transferId })
    | .ok fileInfo =>
      match validateAndStartDownload runtime service.transferManager config request
          resolvedPath fileInfo now with
      | .error error => pure (service, .error error)
      | .ok (transferManager, response) =>
        pure ({ service with transferManager }, .ok response)

def cancelTransfer (transferId : TransferId) : SftpService :=
  { service with transferManager := { service.transferManager with
      transfers := service.transferManager.transfers.delete transferId } }

def streamDownloadChunks (connectionId : ConnectionId) (transferId : TransferId)
    (remotePath : JsString) : Task SftpService (SftpService × Except SftpServiceError Unit) :=
  match service.sessions.get connectionId with
  | none => pure (service, .error {
      code := .noConnection
      message := js "SFTP session not found"
      transferId := some transferId })
  | some _ => do
    let (service, reply) ← Task.await service (.openFile remotePath)
    match (reply : Except JsString Unit) with
    | .ok () => pure (service, .ok ())
    | .error message => pure (service.cancelTransfer transferId, .error {
        code := .permissionDenied
        message
        path := some remotePath
        transferId := some transferId })

end Operations

def fileService (runtime : Runtime) (config : SftpConfig) (now : Time) :
    FileService SftpService where
  isEnabled := config.enabled
  startDownload := startDownload runtime config now
  streamDownloadChunks := streamDownloadChunks

end SftpService

end WebSsh2.Sftp

import WebSsh2.Library.Utf8
import WebSsh2.Sftp.ShellCommands

namespace WebSsh2.Sftp

open WebSsh2.Library WebSsh2.State

-- A home directory is cached only once it was seen to start with a slash.
abbrev AbsolutePath := { path : JsString // path.head? = some 47 }

-- `object` tells a session from the one that replaces it after a close.
structure ShellSession where
  object : Nat
  connectionId : ConnectionId
  sessionId : SessionId
  homeDir : Option AbsolutePath

structure ShellFileService where
  sessions : OrderedMap ConnectionId ShellSession
  transferManager : TransferManager
  clients : List ConnectionId
  created : Nat

namespace ShellFileService

section Operations

variable (runtime : Runtime) (config : SftpConfig)

def mapExecError (errorMessage : JsString) : SftpServiceError :=
  let message := runtime.toLowerCase errorMessage
  if includes (js "permission denied") message || includes (js "access denied") message then
    { code := .permissionDenied, message := js "Permission denied" }
  else
    { code := .sessionError, message := errorMessage }

def mapCommandError (stderr : JsString) : SftpServiceError :=
  let lower := runtime.toLowerCase stderr
  if includes (js "no such file") lower || includes (js "not found") lower ||
      includes (js "cannot access") lower then
    { code := .notFound, message := js "File or directory not found" }
  else if includes (js "permission denied") lower || includes (js "access denied") lower then
    { code := .permissionDenied, message := js "Permission denied" }
  else
    { code := .sessionError
      message := if trim stderr = [] then js "Command failed" else trim stderr }

variable (service : ShellFileService)

-- Each data event is read as a text of its own.
def executeCommand (command : JsString) :
    Task ShellFileService (ShellFileService × Except SftpServiceError JsString) := do
  let (service, reply) ← Task.await service (.executeCommand command)
  match (reply : CommandReply) with
  | .timedOut => pure (service, .error {
      code := .timeout, message := js "Command execution timeout" })
  | .execError message => pure (service, .error (mapExecError runtime message))
  | .streamError message => pure (service, .error (mapExecError runtime message))
  | .closed stdout stderr code =>
    if code ≠ some 0 then
      pure (service, .error (mapCommandError runtime (stderr.flatMap Utf8.decode)))
    else
      pure (service, .ok (stdout.flatMap Utf8.decode))

variable (connectionId : ConnectionId)

def ensureSession (sessionId : SessionId) : ShellFileService :=
  match service.sessions.get connectionId with
  | some _ => service
  | none => { service with
      sessions := service.sessions.set connectionId {
        object := service.created, connectionId, sessionId, homeDir := none }
      created := service.created + 1 }

-- The home directory is written into the session object that asked for it,
-- wherever that object is by now.
def cacheHomeDir (session : ShellSession) (homeDir : AbsolutePath) : ShellFileService :=
  match service.sessions.get session.connectionId with
  | some current =>
    if current.object = session.object then
      { service with
        sessions := service.sessions.set session.connectionId {
          current with homeDir := some homeDir } }
    else
      service
  | none => service

def resolveTildePath (path : JsString) :
    Task ShellFileService (ShellFileService × Except SftpServiceError JsString) :=
  if isTildePath path then
    match service.sessions.get connectionId with
    | none => pure (service, .error { code := .noConnection, message := js "Session not found" })
    | some session =>
      match session.homeDir with
      | some homeDir => pure (service, .ok (expandShellHome homeDir path))
      | none => do
        let (service, result) ← executeCommand runtime service buildHomeCommand
        match result with
        | .error error => pure (service, .error error)
        | .ok stdout =>
          let homeDir := resolveHomePath stdout
          if habsolute : homeDir.head? = some 47 then
            pure (service.cacheHomeDir session ⟨homeDir, habsolute⟩,
              .ok (expandShellHome homeDir path))
          else
            pure (service, .error {
              code := .sessionError, message := js "Failed to resolve home directory" })
  else
    pure (service, .ok path)

def setupOperation (request : DownloadStartRequest) (checkExtension : Bool) :
    Task ShellFileService (ShellFileService × Except SftpServiceError JsString) :=
  match validateOperationPreconditions runtime config request.remotePath checkExtension
      (some request.transferId) with
  | .error error => pure (service, .error error)
  | .ok preflight =>
    if request.connectionId ∉ service.clients then
      pure (service, .error {
        code := .noConnection
        message := messageNoConnection
        transferId := some request.transferId })
    else do
      let (service, resolvedPath) ← resolveTildePath runtime
        (service.ensureSession request.connectionId request.sessionId)
        request.connectionId preflight
      pure (service, resolvedPath.mapError fun error =>
        { error with transferId := some request.transferId })

def startDownload (now : Time) (service : ShellFileService) (request : DownloadStartRequest) :
    Task ShellFileService
      (ShellFileService × Except SftpServiceError SftpDownloadReadyResponse) := do
  let (service, setup) ← setupOperation runtime config service request true
  match setup with
  | .error error => pure (service, .error error)
  | .ok resolvedPath =>
    let (service, statResult) ←
      executeCommand runtime service (buildStatCommand resolvedPath)
    match statResult with
    | .error error =>
      pure (service, .error { error with transferId := some request.transferId })
    | .ok stdout =>
      match parseStatEntry stdout resolvedPath with
      | none => pure (service, .error {
          code := .notFound
          message := js "File not found"
          path := some resolvedPath
          transferId := some request.transferId })
      | some entry =>
        match validateAndStartDownload runtime service.transferManager config request
            resolvedPath ⟨entry.type, entry.name, entry.size⟩ now with
        | .error error => pure (service, .error error)
        | .ok (transferManager, response) =>
          pure ({ service with transferManager }, .ok response)

def cancelTransfer (transferId : TransferId) : ShellFileService :=
  { service with transferManager := { service.transferManager with
      transfers := service.transferManager.transfers.delete transferId } }

def streamDownloadChunks (transferId : TransferId) (remotePath : JsString) :
    Task ShellFileService (ShellFileService × Except SftpServiceError Unit) :=
  match service.sessions.get connectionId with
  | none => pure (service, .error {
      code := .noConnection
      message := js "Shell session not found"
      transferId := some transferId })
  | some _ =>
    if connectionId ∉ service.clients then
      pure (service, .error {
        code := .noConnection
        message := js "SSH client not found"
        transferId := some transferId })
    else do
      let (service, reply) ← Task.await service (.execStream (catCommand remotePath))
      match (reply : Except JsString Unit) with
      | .ok () => pure (service, .ok ())
      | .error message => pure (service.cancelTransfer transferId, .error {
          code := .permissionDenied
          message
          path := some remotePath
          transferId := some transferId })

end Operations

def fileService (runtime : Runtime) (config : SftpConfig) (now : Time) :
    FileService ShellFileService where
  isEnabled := config.enabled
  startDownload := startDownload runtime config now
  streamDownloadChunks := streamDownloadChunks

end ShellFileService

end WebSsh2.Sftp

import WebSsh2.Sftp.DownloadPath
import WebSsh2.Sftp.ListDirectory
import WebSsh2.Sftp.UploadRequests

namespace WebSsh2.Sftp.Operations

open WebSsh2.Library WebSsh2.State Upload

-- The calls that only the requests on files make, most of which change something on the
-- remote side.
inductive FileCall where
  | stat (path : JsString)
  | mkdir (path : JsString) (mode : Number)
  | unlink (path : JsString)
  | rmdir (path : JsString)
  | create (path flags : JsString)
  | execInto (command : JsString)
deriving DecidableEq

-- What becomes of the opening of a file for an upload. An `open` or `exec` that throws brings
-- nothing, and the run is left at it.
inductive Opened where
  | open
  | failed (message : JsString)
  | timedOut
deriving DecidableEq

def FileCall.Answer : FileCall → Type
  | .stat _ => Reply Attributes
  | .mkdir _ _ | .unlink _ | .rmdir _ => Reply Unit
  | .create _ _ | .execInto _ => Opened

structure SftpStatResponse where
  path : JsString
  entry : LsEntry

structure SftpOperationResponse where
  success : Bool
  path : JsString

inductive SftpReply where
  | directory (response : SftpDirectoryResponse)
  | statResult (response : SftpStatResponse)
  | operationResult (response : SftpOperationResponse)
  | uploadReady (response : UploadReadyResponse)
  | error (operation : JsString) (error : SftpServiceError)

inductive FileRequest (σ : Type) where
  | emit (reply : SftpReply)
  | await (state : σ) (call : FileCall)

def FileRequest.Answer {σ : Type} : FileRequest σ → Type
  | .emit _ => Unit
  | .await _ call => σ × call.Answer

abbrev AnyRequest (σ : Type) := Request σ ⊕ FileRequest σ

abbrev AnyAnswer {σ : Type} : AnyRequest σ → Type := Sum.elim Request.Answer FileRequest.Answer

abbrev FileTask (σ : Type) := Prog (AnyRequest σ) AnyAnswer

def FileTask.await {σ : Type} (state : σ) (call : FileCall) : FileTask σ (σ × call.Answer) :=
  .ask (.inr (.await state call)) .done

def FileTask.emit {σ : Type} (reply : SftpReply) : FileTask σ Unit :=
  .ask (.inr (.emit reply)) .done

-- `SFTP_DEFAULTS.DEFAULT_DIR_MODE`
def defaultDirMode : Number := .ofInt 0o755

structure OperationSetupOptions where
  connectionId : ConnectionId
  sessionId : SessionId
  path : JsString

def OperationSetupOptions.request (options : OperationSetupOptions) (transferId : TransferId) :
    DownloadStartRequest where
  transferId
  sessionId := options.sessionId
  connectionId := options.connectionId
  remotePath := options.path

-- The operations of a file backend that a request on files goes through.
structure FileOperations (σ : Type) where
  isEnabled : Bool
  listDirectory : σ → OperationSetupOptions → Bool →
    FileTask σ (σ × Except SftpServiceError SftpDirectoryResponse)
  stat : σ → OperationSetupOptions → FileTask σ (σ × Except SftpServiceError SftpStatResponse)
  mkdir : σ → OperationSetupOptions → Option Number →
    FileTask σ (σ × Except SftpServiceError SftpOperationResponse)
  delete : σ → OperationSetupOptions → Bool →
    FileTask σ (σ × Except SftpServiceError SftpOperationResponse)
  startUpload : σ → OperationSetupOptions → TransferId → UploadStartRequest →
    FileTask σ (σ × Except SftpServiceError UploadReadyResponse)

-- `transformStats` with all its fields
def statEntry (path : JsString) (attrs : Attributes) : LsEntry :=
  let name := ((pathComponents path).getLast?).getD path
  { name
    path
    type := getFileType attrs.mode
    size := attrs.size
    permissions := formatPermissions attrs.mode
    permissionsOctal := attrs.mode &&& 0o777
    owner := decimal attrs.uid
    group := decimal attrs.gid
    isHidden := (js ".").isPrefixOf name }

-- What an upload is told where the file is there and is not to be overwritten.
def alreadyExists (resolvedPath : JsString) (transferId : TransferId) : SftpServiceError where
  code := .alreadyExists
  message := js "File already exists"
  path := some resolvedPath
  transferId := some transferId

section Backends

variable (runtime : Runtime) (config : SftpConfig) (uploads : UploadConfig) (now : Time)

namespace SftpSessionManager

open WebSsh2.Sftp.SftpSessionManager

variable (service : SftpService) (path : JsString)

def stat :
    FileTask SftpService (SftpService × Except SftpSessionError LsEntry) := do
  let (service, reply) ← FileTask.await service (.stat path)
  pure (service, (settle runtime (js "Stat operation timeout") (js "Failed to stat")
    (some path) reply).map (statEntry path))

def mkdir (mode : Number) :
    FileTask SftpService (SftpService × Except SftpSessionError Unit) := do
  let (service, reply) ← FileTask.await service (.mkdir path mode)
  pure (service, settle runtime (js "Mkdir operation timeout") (js "Failed to create directory")
    (some path) reply)

def unlink :
    FileTask SftpService (SftpService × Except SftpSessionError Unit) := do
  let (service, reply) ← FileTask.await service (.unlink path)
  pure (service, settle runtime (js "Unlink operation timeout") (js "Failed to delete file")
    (some path) reply)

def rmdir :
    FileTask SftpService (SftpService × Except SftpSessionError Unit) := do
  let (service, reply) ← FileTask.await service (.rmdir path)
  pure (service, settle runtime (js "Rmdir operation timeout") (js "Failed to remove directory")
    (some path) reply)

end SftpSessionManager

namespace SftpService

variable (service : SftpService) (options : OperationSetupOptions)

def setupOperation (checkExtension : Bool) (transferId : Option TransferId) :
    FileTask SftpService (SftpService × Except SftpServiceError JsString) := do
  let (service, setup) ← Prog.lift (WebSsh2.Sftp.SftpService.setupOperation runtime config service
    (options.request (transferId.getD [])) checkExtension)
  pure (service, setup.mapError fun error => { error with transferId })

def listDirectory (showHidden : Bool) :
    FileTask SftpService (SftpService × Except SftpServiceError SftpDirectoryResponse) := do
  let (service, setup) ← setupOperation runtime config service options false none
  match setup with
  | .error error => pure (service, .error error)
  | .ok resolvedPath =>
    let (service, listResult) ← Prog.lift (WebSsh2.Sftp.SftpSessionManager.listDirectory runtime
      service resolvedPath showHidden)
    pure (service, (listResult.mapError mapSessionError).map fun entries =>
      { path := resolvedPath, entries })

def stat :
    FileTask SftpService (SftpService × Except SftpServiceError SftpStatResponse) := do
  let (service, setup) ← setupOperation runtime config service options false none
  match setup with
  | .error error => pure (service, .error error)
  | .ok resolvedPath =>
    let (service, statResult) ← SftpSessionManager.stat runtime service resolvedPath
    pure (service, (statResult.mapError mapSessionError).map fun entry =>
      { path := resolvedPath, entry })

def mkdir (mode : Option Number) :
    FileTask SftpService (SftpService × Except SftpServiceError SftpOperationResponse) := do
  let (service, setup) ← setupOperation runtime config service options false none
  match setup with
  | .error error => pure (service, .error error)
  | .ok resolvedPath =>
    let (service, mkdirResult) ←
      SftpSessionManager.mkdir runtime service resolvedPath (mode.getD defaultDirMode)
    pure (service, (mkdirResult.mapError mapSessionError).map fun _ =>
      { success := true, path := resolvedPath })

-- Directories are removed only when they are empty; the flag is read by nobody.
def delete (_recursive : Bool) :
    FileTask SftpService (SftpService × Except SftpServiceError SftpOperationResponse) := do
  let (service, setup) ← setupOperation runtime config service options false none
  match setup with
  | .error error => pure (service, .error error)
  | .ok resolvedPath =>
    let (service, statResult) ← SftpSessionManager.stat runtime service resolvedPath
    match statResult with
    | .error error => pure (service, .error (mapSessionError error))
    | .ok entry =>
      let (service, deleteResult) ←
        if entry.type = .directory then
          SftpSessionManager.rmdir runtime service resolvedPath
        else
          SftpSessionManager.unlink runtime service resolvedPath
      pure (service, (deleteResult.mapError mapSessionError).map fun _ =>
        { success := true, path := resolvedPath })

variable (transferId : TransferId)

-- From `startTransfer` on: the file is opened, and the transfer is dropped or activated.
def openUpload (resolvedPath flags : JsString) :
    FileTask SftpService (SftpService × Except SftpServiceError UploadReadyResponse) := do
  let (service, reply) ← FileTask.await service (.create resolvedPath flags)
  match (reply : Opened) with
  | .timedOut => pure (service.cancelTransfer transferId, .error {
      code := .timeout, message := js "Upload start timeout", transferId := some transferId })
  | .failed message => pure (service.cancelTransfer transferId, .error {
      code := .permissionDenied
      message
      path := some resolvedPath
      transferId := some transferId })
  | .open =>
    pure ({ service with transferManager :=
        (service.transferManager.activateTransfer transferId now).1 },
      .ok (uploadReady uploads transferId))

-- The rest of `startUpload`, once it is known whether the file is there.
def beginUpload (request : UploadStartRequest) (resolvedPath : JsString) (existing : Bool) :
    FileTask SftpService (SftpService × Except SftpServiceError UploadReadyResponse) :=
  if existing then
    pure (service, .error (alreadyExists resolvedPath transferId))
  else
    match startUploadTransfer runtime service.transferManager request transferId
        options.sessionId resolvedPath config.transferRateLimitBytesPerSec now with
    | .error error => pure (service, .error error)
    | .ok transferManager =>
      openUpload uploads now { service with transferManager } transferId resolvedPath
        (if request.overwrite = some true then js "w" else js "wx")

def startUpload (request : UploadStartRequest) :
    FileTask SftpService (SftpService × Except SftpServiceError UploadReadyResponse) :=
  match validateUploadPreFlight runtime request transferId config.maxFileSize with
  | .error error => pure (service, .error error)
  | .ok () => do
    let (service, setup) ← setupOperation runtime config service options true (some transferId)
    match setup with
    | .error error =>
      pure (service, .error { error with fileName := some request.fileName })
    | .ok resolvedPath =>
      if request.overwrite = some true then
        beginUpload runtime config uploads now service options transferId request resolvedPath
          false
      else do
        let (service, statResult) ← SftpSessionManager.stat runtime service resolvedPath
        beginUpload runtime config uploads now service options transferId request resolvedPath
          statResult.isOk

def fileOperations : FileOperations SftpService where
  isEnabled := config.enabled
  listDirectory := listDirectory runtime config
  stat := stat runtime config
  mkdir := mkdir runtime config
  delete := delete runtime config
  startUpload := startUpload runtime config uploads now

end SftpService

namespace ShellFileService

open WebSsh2.Sftp.ShellFileService (executeCommand)

variable (service : ShellFileService) (options : OperationSetupOptions)

def setupOperation (checkExtension : Bool) (transferId : Option TransferId) :
    FileTask ShellFileService (ShellFileService × Except SftpServiceError JsString) := do
  let (service, setup) ← Prog.lift (WebSsh2.Sftp.ShellFileService.setupOperation runtime config
    service (options.request (transferId.getD [])) checkExtension)
  pure (service, setup.mapError fun error => { error with transferId })

def listDirectory (showHidden : Bool) :
    FileTask ShellFileService
      (ShellFileService × Except SftpServiceError SftpDirectoryResponse) := do
  let (service, setup) ← setupOperation runtime config service options false none
  match setup with
  | .error error => pure (service, .error error)
  | .ok resolvedPath =>
    let (service, execResult) ← Prog.lift
      (executeCommand runtime service (buildListCommand resolvedPath showHidden))
    pure (service, execResult.map fun stdout =>
      { path := resolvedPath, entries := parseDirectoryListing stdout resolvedPath })

def stat :
    FileTask ShellFileService (ShellFileService × Except SftpServiceError SftpStatResponse) := do
  let (service, setup) ← setupOperation runtime config service options false none
  match setup with
  | .error error => pure (service, .error error)
  | .ok resolvedPath =>
    let (service, execResult) ← Prog.lift
      (executeCommand runtime service (buildStatCommand resolvedPath))
    match execResult with
    | .error error => pure (service, .error error)
    | .ok stdout =>
      match parseStatEntry stdout resolvedPath with
      | none => pure (service, .error {
          code := .notFound
          message := js "Could not parse file information"
          path := some resolvedPath })
      | some entry => pure (service, .ok { path := resolvedPath, entry })

def mkdir (_options : OperationSetupOptions) (_mode : Option Number) :
    FileTask ShellFileService
      (ShellFileService × Except SftpServiceError SftpOperationResponse) :=
  pure (service, .error {
    code := .invalidRequest, message := js "mkdir is not supported with the shell backend" })

def delete (_options : OperationSetupOptions) (_recursive : Bool) :
    FileTask ShellFileService
      (ShellFileService × Except SftpServiceError SftpOperationResponse) :=
  pure (service, .error {
    code := .invalidRequest, message := js "delete is not supported with the shell backend" })

variable (transferId : TransferId)

def openUpload (resolvedPath : JsString) :
    FileTask ShellFileService
      (ShellFileService × Except SftpServiceError UploadReadyResponse) := do
  let (service, reply) ← FileTask.await service (.execInto (catIntoCommand resolvedPath))
  match (reply : Opened) with
  | .timedOut => pure (service.cancelTransfer transferId, .error {
      code := .timeout, message := js "Upload start timeout", transferId := some transferId })
  | .failed message => pure (service.cancelTransfer transferId, .error {
      code := .permissionDenied
      message
      path := some resolvedPath
      transferId := some transferId })
  | .open =>
    pure ({ service with transferManager :=
        (service.transferManager.activateTransfer transferId now).1 },
      .ok (uploadReady uploads transferId))

def beginUpload (request : UploadStartRequest) (resolvedPath : JsString) (existing : Bool) :
    FileTask ShellFileService
      (ShellFileService × Except SftpServiceError UploadReadyResponse) :=
  if existing then
    pure (service, .error (alreadyExists resolvedPath transferId))
  else
    match startUploadTransfer runtime service.transferManager request transferId
        options.sessionId resolvedPath config.transferRateLimitBytesPerSec now with
    | .error error => pure (service, .error error)
    | .ok transferManager =>
      openUpload uploads now { service with transferManager } transferId resolvedPath

def startUpload (request : UploadStartRequest) :
    FileTask ShellFileService
      (ShellFileService × Except SftpServiceError UploadReadyResponse) :=
  match validateUploadPreFlight runtime request transferId config.maxFileSize with
  | .error error => pure (service, .error error)
  | .ok () => do
    let (service, setup) ← setupOperation runtime config service options true (some transferId)
    match setup with
    | .error error => pure (service, .error error)
    | .ok resolvedPath =>
      if request.overwrite = some true then
        beginUpload runtime config uploads now service options transferId request resolvedPath
          false
      else do
        let (service, statResult) ← Prog.lift
          (executeCommand runtime service (buildStatCommand resolvedPath))
        beginUpload runtime config uploads now service options transferId request resolvedPath
          statResult.isOk

def fileOperations : FileOperations ShellFileService where
  isEnabled := config.enabled
  listDirectory := listDirectory runtime config
  stat := stat runtime config
  mkdir := mkdir
  delete := delete
  startUpload := startUpload runtime config uploads now

end ShellFileService

end Backends

section Validation

variable (runtime : Runtime)

def validateOptionalInt (fields : List (JsString × JsonValue)) (key fieldName : JsString)
    (min max : Nat) : Except JsString (Option Number) :=
  match Json.lookup key fields with
  | none | some .null => .ok none
  | some (.number value) =>
    if !isInteger value then
      .error (fieldName ++ js " must be an integer")
    else if value.lt (.ofInt min) || Number.lt (.ofInt max) value then
      .error (fieldName ++ js " must be between " ++ runtime.numberToString (.ofInt min) ++
        js " and " ++ runtime.numberToString (.ofInt max))
    else
      .ok (some value)
  | some _ => .error (fieldName ++ js " must be an integer")

structure SftpListRequest where
  path : JsString
  showHidden : Option Bool

structure SftpMkdirRequest where
  path : JsString
  mode : Option Number

structure SftpDeleteRequest where
  path : JsString
  recursive : Option Bool

def validatePathField (fields : List (JsString × JsonValue)) : Except JsString JsString :=
  validateRequiredString runtime fields (js "path") (js "path") maxPathLength 1

variable (data : JsValue)

def validateSftpListRequest : Except JsString SftpListRequest :=
  match isRecord data with
  | none => .error (js "List request must be an object")
  | some fields => do
    let path ← validatePathField runtime fields
    pure { path, showHidden := validateOptionalBoolean fields (js "showHidden") }

def validateSftpStatRequest : Except JsString JsString :=
  match isRecord data with
  | none => .error (js "Stat request must be an object")
  | some fields => validatePathField runtime fields

def validateSftpMkdirRequest : Except JsString SftpMkdirRequest :=
  match isRecord data with
  | none => .error (js "Mkdir request must be an object")
  | some fields => do
    let path ← validatePathField runtime fields
    let mode ← validateOptionalInt runtime fields (js "mode") (js "mode") 0 0o777
    pure { path, mode }

def validateSftpDeleteRequest : Except JsString SftpDeleteRequest :=
  match isRecord data with
  | none => .error (js "Delete request must be an object")
  | some fields => do
    let path ← validatePathField runtime fields
    pure { path, recursive := validateOptionalBoolean fields (js "recursive") }

end Validation

-- What the handlers read from their context: the backend, if one is configured, and the
-- identifiers of the adapter.
structure FileContext (σ : Type) where
  sftp : Option (FileOperations σ)
  connectionId : Option ConnectionId
  sessionId : Option SessionId

section Handlers

variable {σ : Type} (runtime : Runtime) (context : FileContext σ)

variable (state : σ)

def emitError (operation : JsString) (error : SftpServiceError) : FileTask σ σ := do
  FileTask.emit (.error operation error)
  pure state

-- What the handlers of the requests on files do alike. Where no backend is enabled the
-- error is one of a listing, whatever was asked for.
def handleRequest {ρ α : Type} (operation : JsString) (validation : Except JsString ρ)
    (path : ρ → JsString)
    (perform : FileOperations σ → σ → OperationSetupOptions → ρ →
      FileTask σ (σ × Except SftpServiceError α))
    (response : α → SftpReply) (state : σ) : FileTask σ σ :=
  match context.sftp with
  | none => emitError state (js "list") {
      code := .notEnabled, message := js "SFTP is not enabled" }
  | some sftp =>
    if !sftp.isEnabled then
      emitError state (js "list") { code := .notEnabled, message := js "SFTP is not enabled" }
    else
      match validation with
      | .error message => emitError state operation { code := .invalidRequest, message }
      | .ok request =>
        match context.connectionId, context.sessionId with
        | some connectionId, some sessionId => do
          let (state, result) ←
            perform sftp state { connectionId, sessionId, path := path request } request
          match result with
          | .error error => emitError state operation error
          | .ok value => do
            FileTask.emit (response value)
            pure state
        | _, _ => emitError state operation {
            code := .noConnection, message := js "No SSH connection established" }

variable (data : JsValue)

def handleList : FileTask σ σ :=
  handleRequest context (js "list") (validateSftpListRequest runtime data) SftpListRequest.path
    (fun sftp state options request =>
      sftp.listDirectory state options (request.showHidden.getD false))
    .directory state

def handleStat : FileTask σ σ :=
  handleRequest context (js "stat") (validateSftpStatRequest runtime data) id
    (fun sftp state options _ => sftp.stat state options) .statResult state

def handleMkdir : FileTask σ σ :=
  handleRequest context (js "mkdir") (validateSftpMkdirRequest runtime data)
    SftpMkdirRequest.path (fun sftp state options request => sftp.mkdir state options request.mode)
    .operationResult state

def handleDelete : FileTask σ σ :=
  handleRequest context (js "delete") (validateSftpDeleteRequest runtime data)
    SftpDeleteRequest.path
    (fun sftp state options request =>
      sftp.delete state options (request.recursive.getD false))
    .operationResult state

-- The identifier of the transfer is the server's own.
def handleUploadStart (maxFileSize : Nat) (transferId : TransferId) (state : σ) (data : JsValue) :
    FileTask σ σ :=
  handleRequest context (js "upload") (validateSftpUploadStartRequest runtime data maxFileSize)
    UploadStartRequest.remotePath
    (fun sftp state options request => sftp.startUpload state options transferId request)
    .uploadReady state

end Handlers

end WebSsh2.Sftp.Operations

import WebSsh2.Library.Interaction
import WebSsh2.Sftp.HomePath
import WebSsh2.Sftp.TransferManager

namespace WebSsh2.Sftp

open WebSsh2.Library WebSsh2.State

inductive SftpErrorCode where
  | notEnabled | noConnection | sessionError | notFound | permissionDenied | pathForbidden
  | extensionBlocked | fileTooLarge | alreadyExists | transferCancelled | rateLimited
  | maxTransfers | chunkError | timeout | invalidRequest
deriving DecidableEq

structure SftpServiceError where
  code : SftpErrorCode
  message : JsString
  path : Option JsString := none
  transferId : Option TransferId := none
  fileName : Option JsString := none

structure SftpConfig where
  enabled : Bool
  allowedPaths : Option (List JsString)
  blockedExtensions : List JsString
  maxFileSize : Number
  maxConcurrentTransfers : Number
  transferRateLimitBytesPerSec : Number

inductive SftpFileType where
  | file | directory | symlink | other
deriving DecidableEq

structure FileInfo where
  type : SftpFileType
  name : JsString
  size : Number

structure DownloadStartRequest where
  transferId : TransferId
  sessionId : SessionId
  connectionId : ConnectionId
  remotePath : JsString

structure SftpDownloadReadyResponse where
  transferId : TransferId
  fileName : JsString
  fileSize : Number
  mimeType : JsString

structure SftpCompleteResponse where
  transferId : TransferId
  direction : TransferDirection
  bytesTransferred : Number
  durationMs : Int
  averageBytesPerSecond : Number

-- What a callback of the connection delivers, or what takes its place.
inductive Reply (α : Type) where
  | ok (value : α)
  | error (message : JsString)
  | timedOut
  | threw (message : JsString)

structure Stats where
  mode : Nat
  size : Number

structure Attributes extends Stats where
  uid : Nat
  gid : Nat

structure FileEntry where
  filename : JsString
  attrs : Attributes

-- What `client.exec` and its stream bring. A stream that closes has brought the data events of
-- its two outputs before; an `exec` that throws brings nothing, and the run is left at it.
inductive CommandReply where
  | closed (stdout stderr : List Bytes) (code : Option Int)
  | execError (message : JsString)
  | streamError (message : JsString)
  | timedOut

-- The calls on the SSH connection that leave the server.
inductive RemoteCall where
  | sftpChannel (connectionId : ConnectionId)
  | realpath (path : JsString)
  | stat (path : JsString)
  | readdir (path : JsString)
  | openFile (path : JsString)
  | executeCommand (command : JsString)
  | execStream (command : JsString)
deriving DecidableEq

def RemoteCall.Answer : RemoteCall → Type
  | .sftpChannel _ => Reply Unit
  | .realpath _ => Reply JsString
  | .stat _ => Reply Stats
  | .readdir _ => Reply (List FileEntry)
  | .openFile _ => Except JsString Unit
  | .executeCommand _ => CommandReply
  | .execStream _ => Except JsString Unit

inductive SftpMessage where
  | error (operation : JsString) (error : SftpServiceError)
  | downloadReady (response : SftpDownloadReadyResponse)

-- While a call is outstanding other handlers run, so it comes back with
-- whatever state of the service they left.
inductive Request (σ : Type) where
  | emit (message : SftpMessage)
  | await (state : σ) (call : RemoteCall)

def Request.Answer {σ : Type} : Request σ → Type
  | .emit _ => Unit
  | .await _ call => σ × call.Answer

abbrev Task (σ : Type) := Prog (Request σ) Request.Answer

def Task.await {σ : Type} (state : σ) (call : RemoteCall) : Task σ (σ × call.Answer) :=
  .ask (.await state call) .done

def Task.emit {σ : Type} (message : SftpMessage) : Task σ Unit :=
  .ask (.emit message) .done

def messageNotEnabled : JsString := js "SFTP feature is disabled"
def messageNoConnection : JsString := js "No active SSH connection"

def mapPathErrorCode : PathValidationCode → SftpErrorCode
  | .extensionBlocked => .extensionBlocked
  | .pathForbidden => .pathForbidden
  | _ => .invalidRequest

def getPathValidationOptions (config : SftpConfig) (checkExtension : Bool) :
    PathValidationOptions where
  allowedPaths := config.allowedPaths
  blockedExtensions := config.blockedExtensions
  checkExtension := some checkExtension

def mapTransferStartError (error : TransferError) (transferId : TransferId) :
    SftpServiceError where
  code := if error.code = .maxTransfers then .maxTransfers else .invalidRequest
  message := error.message
  transferId := some transferId

def buildCompleteResponse (transferId : TransferId) (direction : TransferDirection)
    (stats : TransferCompletion) : SftpCompleteResponse where
  transferId
  direction
  bytesTransferred := stats.bytesTransferred
  durationMs := stats.durationMs
  averageBytesPerSecond := stats.averageBytesPerSecond

def mimeTypes : List (JsString × JsString) := [
  (js ".txt", js "text/plain"), (js ".html", js "text/html"), (js ".htm", js "text/html"),
  (js ".css", js "text/css"), (js ".js", js "text/javascript"),
  (js ".json", js "application/json"), (js ".xml", js "application/xml"),
  (js ".csv", js "text/csv"), (js ".md", js "text/markdown"), (js ".yaml", js "text/yaml"),
  (js ".yml", js "text/yaml"), (js ".png", js "image/png"), (js ".jpg", js "image/jpeg"),
  (js ".jpeg", js "image/jpeg"), (js ".gif", js "image/gif"), (js ".svg", js "image/svg+xml"),
  (js ".webp", js "image/webp"), (js ".ico", js "image/x-icon"),
  (js ".zip", js "application/zip"), (js ".gz", js "application/gzip"),
  (js ".tar", js "application/x-tar"), (js ".tgz", js "application/gzip"),
  (js ".7z", js "application/x-7z-compressed"), (js ".rar", js "application/vnd.rar"),
  (js ".pdf", js "application/pdf"), (js ".doc", js "application/msword"),
  (js ".docx", js "application/vnd.openxmlformats-officedocument.wordprocessingml.document"),
  (js ".xls", js "application/vnd.ms-excel"),
  (js ".xlsx", js "application/vnd.openxmlformats-officedocument.spreadsheetml.sheet"),
  (js ".bin", js "application/octet-stream"), (js ".exe", js "application/octet-stream"),
  (js ".dll", js "application/octet-stream"), (js ".so", js "application/octet-stream"),
  (js ".sh", js "application/x-sh"), (js ".bash", js "application/x-sh"),
  (js ".py", js "text/x-python"), (js ".rb", js "text/x-ruby"), (js ".php", js "text/x-php"),
  (js ".ts", js "text/typescript"), (js ".tsx", js "text/typescript")]

def defaultMimeType : JsString := js "application/octet-stream"

section Shared

variable (runtime : Runtime)

def getMimeType (filename : JsString) : JsString :=
  if 46 ∉ filename then
    defaultMimeType
  else
    let ext := runtime.toLowerCase (46 :: (filename.reverse.takeWhile (· ≠ 46)).reverse)
    (OrderedMap.lookupEntries ext mimeTypes).getD defaultMimeType

def validateOperationPreconditions (config : SftpConfig) (path : JsString) (checkExtension : Bool)
    (transferId : Option TransferId) : Except SftpServiceError JsString :=
  if !config.enabled then
    .error { code := .notEnabled, message := messageNotEnabled, transferId }
  else
    match validatePath runtime.toLowerCase path
        (getPathValidationOptions config checkExtension) with
    | .error error =>
      .error { code := mapPathErrorCode error.code, message := error.message
               path := some path, transferId }
    | .ok value => .ok value

def buildDownloadReadyResponse (transferId : TransferId) (fileInfo : FileInfo) :
    SftpDownloadReadyResponse where
  transferId
  fileName := fileInfo.name
  fileSize := fileInfo.size
  mimeType := getMimeType runtime fileInfo.name

def validateAndStartDownload (manager : TransferManager) (config : SftpConfig)
    (request : DownloadStartRequest) (resolvedPath : JsString) (fileInfo : FileInfo)
    (now : Time) : Except SftpServiceError (TransferManager × SftpDownloadReadyResponse) :=
  if fileInfo.type ≠ .file then
    .error {
      code := .invalidRequest
      message := js "Can only download files"
      path := some resolvedPath
      transferId := some request.transferId }
  else if config.maxFileSize.lt fileInfo.size then
    .error {
      code := .fileTooLarge
      message := js "File size " ++ runtime.numberToString fileInfo.size ++
        js " exceeds maximum " ++ runtime.numberToString config.maxFileSize
      path := some resolvedPath
      transferId := some request.transferId }
  else
    let params : StartTransferParams := {
      transferId := request.transferId
      sessionId := request.sessionId
      direction := .download
      remotePath := resolvedPath
      fileName := fileInfo.name
      totalBytes := fileInfo.size
      rateLimitBytesPerSec := some config.transferRateLimitBytesPerSec }
    match manager.startTransfer runtime params now with
    | .error error => .error (mapTransferStartError error request.transferId)
    | .ok started =>
      .ok ((started.activateTransfer request.transferId now).1,
        buildDownloadReadyResponse runtime request.transferId fileInfo)

end Shared

-- The operations of a file backend that a download goes through. Streaming is
-- kept up to the opened file: the reads behind it name the handle, not the path.
structure FileService (σ : Type) where
  isEnabled : Bool
  startDownload : σ → DownloadStartRequest →
    Task σ (σ × Except SftpServiceError SftpDownloadReadyResponse)
  streamDownloadChunks : σ → ConnectionId → TransferId → JsString →
    Task σ (σ × Except SftpServiceError Unit)

end WebSsh2.Sftp

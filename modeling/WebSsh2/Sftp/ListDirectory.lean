import WebSsh2.Decimal
import WebSsh2.Sftp.ShellFileService
import WebSsh2.Sftp.SftpService

namespace WebSsh2.Sftp

open WebSsh2.Library WebSsh2.State

structure ListRequest where
  connectionId : ConnectionId
  sessionId : SessionId
  path : JsString
  showHidden : Bool

structure SftpDirectoryResponse where
  path : JsString
  entries : List LsEntry

def SftpDirectoryResponse.names (response : SftpDirectoryResponse) : List JsString :=
  response.entries.map LsEntry.name

-- `SFTP_LIMITS.MAX_DIRECTORY_ENTRIES`
def maxDirectoryEntries : Nat := 10000

-- A listing is set up as any other operation, without a transfer.
def ListRequest.setup (request : ListRequest) : DownloadStartRequest where
  transferId := []
  sessionId := request.sessionId
  connectionId := request.connectionId
  remotePath := request.path

def withoutTransfer (error : SftpServiceError) : SftpServiceError :=
  { error with transferId := none }

def formatPermissions (mode : Nat) : JsString :=
  let perms := mode &&& 0o777
  [(0o400, 114), (0o200, 119), (0o100, 120), (0o040, 114), (0o020, 119), (0o010, 120),
    (0o004, 114), (0o002, 119), (0o001, 120)].map
    fun (bit, letter) => if perms &&& bit = 0 then 45 else letter

def transformFileEntry (entry : FileEntry) (basePath : JsString) : LsEntry where
  name := entry.filename
  path := if basePath = js "/" ∨ basePath = js "." then
    js "/" ++ entry.filename else basePath ++ js "/" ++ entry.filename
  type := getFileType entry.attrs.mode
  size := entry.attrs.size
  permissions := formatPermissions entry.attrs.mode
  permissionsOctal := entry.attrs.mode &&& 0o777
  owner := decimal entry.attrs.uid
  group := decimal entry.attrs.gid
  isHidden := (js ".").isPrefixOf entry.filename

-- `onSuccess` of `listDirectory`
def listedEntries (list : List FileEntry) (path : JsString) (showHidden : Bool) : List LsEntry :=
  let limitedList := list.take maxDirectoryEntries
  let filteredList := if showHidden then limitedList
    else limitedList.filter fun entry => !(js ".").isPrefixOf entry.filename
  filteredList.map fun entry => transformFileEntry entry path

section Operations

variable (runtime : Runtime) (config : SftpConfig)

def SftpSessionManager.listDirectory (service : SftpService) (path : JsString)
    (showHidden : Bool) :
    Task SftpService (SftpService × Except SftpSessionError (List LsEntry)) := do
  let (service, reply) ← Task.await service (.readdir path)
  pure (service, (settle runtime (js "Directory listing timeout") (js "Failed to list directory")
    (some path) reply).map fun list => listedEntries list path showHidden)

def SftpService.listDirectory (service : SftpService) (request : ListRequest) :
    Task SftpService (SftpService × Except SftpServiceError SftpDirectoryResponse) := do
  let (service, setup) ← setupOperation runtime config service request.setup false
  match setup with
  | .error error => pure (service, .error (withoutTransfer error))
  | .ok path =>
    let (service, listResult) ←
      SftpSessionManager.listDirectory runtime service path request.showHidden
    pure (service, (listResult.mapError mapSessionError).map fun entries => { path, entries })

def ShellFileService.listDirectory (service : ShellFileService) (request : ListRequest) :
    Task ShellFileService
      (ShellFileService × Except SftpServiceError SftpDirectoryResponse) := do
  let (service, setup) ← setupOperation runtime config service request.setup false
  match setup with
  | .error error => pure (service, .error (withoutTransfer error))
  | .ok path =>
    let (service, execResult) ←
      executeCommand runtime service (buildListCommand path request.showHidden)
    pure (service, execResult.map fun stdout =>
      { path, entries := parseDirectoryListing stdout path })

variable {runtime config} {request : ListRequest} {path : JsString}

end Operations

end WebSsh2.Sftp

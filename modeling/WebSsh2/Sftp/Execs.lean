import WebSsh2.Sftp.OperationReplies

namespace WebSsh2.Sftp.Operations

open WebSsh2.Library WebSsh2.State Upload

section Sftp

variable {runtime : Runtime} {config : SftpConfig} {uploads : UploadConfig} {now : Time}
  {service : SftpService}

variable {options : OperationSetupOptions}

end Sftp

-- A path that the shell backend resolves without asking for the home directory.
def Known (service : ShellFileService) (connectionId : ConnectionId)
    (normalized resolved : JsString) : Prop :=
  if isTildePath normalized = true then
    ∃ session home, service.sessions.get connectionId = some session ∧
      session.homeDir = some home ∧ resolved = expandShellHome home normalized
  else
    resolved = normalized

-- The shell backend gets to what is behind the setup of a request, or runs a command for the
-- home directory before that.
def Prepared (runtime : Runtime) (config : SftpConfig) (service : ShellFileService)
    (connectionId : ConnectionId) (path : JsString) (checkExtension : Bool)
    (goal : JsString → Prop) : Prop :=
  connectionId ∈ service.clients ∧ ∃ normalized,
    Admitted runtime config path checkExtension normalized ∧
      ∀ resolved, Known service connectionId normalized resolved → goal resolved

-- Whether the transfer of an upload may be started.
def Starts (runtime : Runtime) (config : SftpConfig) (now : Time) (service : ShellFileService)
    (transferId : TransferId) (sessionId : SessionId) (request : UploadStartRequest)
    (resolved : JsString) : Prop :=
  ∃ manager, startUploadTransfer runtime service.transferManager request transferId sessionId
    resolved config.transferRateLimitBytesPerSec now = .ok manager

section Shell

variable {runtime : Runtime} {config : SftpConfig} {uploads : UploadConfig} {now : Time}
  {service : ShellFileService}

variable {α : Type}
  {next : ShellFileService × Except SftpServiceError JsString → FileTask ShellFileService α}

variable {options : OperationSetupOptions}

end Shell

section Handlers

-- The backend is enabled, and the socket has a connection and a session.
def Served (config : SftpConfig) (connectionId : Option ConnectionId)
    (sessionId : Option SessionId) (goal : ConnectionId → SessionId → Prop) : Prop :=
  config.enabled = true ∧ ∃ connection session, connectionId = some connection ∧
    sessionId = some session ∧ goal connection session

variable {runtime : Runtime} {config : SftpConfig} {uploads : UploadConfig} {now : Time}
  {connectionId : Option ConnectionId} {sessionId : Option SessionId} {transferId : TransferId}
  {maxFileSize : Nat}

-- The requests that the shell backend runs a command for.
def Commands (runtime : Runtime) (config : SftpConfig) (now : Time) (maxFileSize : Nat)
    (service : ShellFileService) (connectionId : ConnectionId) (sessionId : SessionId)
    (transferId : TransferId) : FileMessage → Prop
  | .list data => ∃ request, validateSftpListRequest runtime data = .ok request ∧
      Prepared runtime config service connectionId request.path false fun _ => True
  | .stat data => ∃ path, validateSftpStatRequest runtime data = .ok path ∧
      Prepared runtime config service connectionId path false fun _ => True
  | .mkdir _ | .delete _ => False
  | .uploadStart data => ∃ request,
      validateSftpUploadStartRequest runtime data maxFileSize = .ok request ∧
      validateUploadPreFlight runtime request transferId config.maxFileSize = .ok () ∧
      Prepared runtime config service connectionId request.remotePath true fun resolved =>
        request.overwrite = some true →
          Starts runtime config now service transferId sessionId request resolved

variable (data : JsValue)

end Handlers

end WebSsh2.Sftp.Operations

import WebSsh2.Sftp.SftpService
import WebSsh2.Sftp.ShellFileService

namespace WebSsh2.Sftp

open WebSsh2.Library WebSsh2.State

def isRecord : JsValue → Option (List (JsString × JsonValue))
  | some (.object fields) => some fields
  | _ => none

section Validation

variable (runtime : Runtime)

def validateRequiredString (fields : List (JsString × JsonValue)) (key fieldName : JsString)
    (maxLength minLength : Nat) : Except JsString JsString :=
  match Json.lookup key fields with
  | none | some .null => .error (fieldName ++ js " is required")
  | some (.string value) =>
    if value.length < minLength then
      .error (fieldName ++ js " must not be empty")
    else if maxLength < value.length then
      .error (fieldName ++ js " exceeds maximum length of " ++
        runtime.numberToString (.ofInt maxLength))
    else
      .ok value
  | some _ => .error (fieldName ++ js " must be a string")

def validateSftpDownloadStartRequest (data : JsValue) : Except JsString JsString :=
  match isRecord data with
  | none => .error (js "Download start request must be an object")
  | some fields =>
    validateRequiredString runtime fields (js "remotePath") (js "remotePath") maxPathLength 1

end Validation

-- What the handler reads from its context: the identifiers of the adapter
-- state and the backend, if one is configured.
structure SftpContext (σ : Type) where
  sftp : Option (FileService σ)
  connectionId : Option ConnectionId
  sessionId : Option SessionId

section Handler

variable {σ : Type} (runtime : Runtime) (context : SftpContext σ)

def emitSftpError (operation : JsString) (error : SftpServiceError) : Task σ Unit :=
  Task.emit (.error operation error)

def getConnectionAndSessionIds : Option (ConnectionId × SessionId) :=
  match context.connectionId, context.sessionId with
  | some connectionId, some sessionId => some (connectionId, sessionId)
  | _, _ => none

def handleDownloadStart (state : σ) (data : JsValue) (transferId : TransferId) : Task σ σ :=
  match context.sftp with
  | none => do
    emitSftpError (js "list") { code := .notEnabled, message := js "SFTP is not enabled" }
    pure state
  | some sftp =>
    if !sftp.isEnabled then do
      emitSftpError (js "list") { code := .notEnabled, message := js "SFTP is not enabled" }
      pure state
    else
      match validateSftpDownloadStartRequest runtime data with
      | .error message => do
        emitSftpError (js "download") { code := .invalidRequest, message }
        pure state
      | .ok remotePath =>
        match getConnectionAndSessionIds context with
        | none => do
          emitSftpError (js "download") {
            code := .noConnection, message := js "No SSH connection established" }
          pure state
        | some (connectionId, sessionId) => do
          let (state, result) ←
            sftp.startDownload state { transferId, sessionId, connectionId, remotePath }
          match result with
          | .error error =>
            emitSftpError (js "download") error
            pure state
          | .ok response =>
            Task.emit (.downloadReady response)
            let (state, streamed) ←
              sftp.streamDownloadChunks state connectionId transferId remotePath
            match streamed with
            | .error error =>
              emitSftpError (js "download") error
              pure state
            | .ok () => pure state

end Handler

end WebSsh2.Sftp

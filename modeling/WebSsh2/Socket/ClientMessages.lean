import WebSsh2.Sftp.Execs
import WebSsh2.Socket.EventLog
import WebSsh2.Socket.TerminalSize

namespace WebSsh2.Socket.ClientMessages

open WebSsh2.Library WebSsh2.State WebSsh2.Sftp WebSsh2.Sftp.Operations

section Listeners

-- The events that `setupEventHandlers` registers listeners of.
inductive ClientEvent where
  | auth
  | terminal
  | resize
  | data
  | exec
  | control
  | disconnect
  | promptResponse
  | sftpList
  | sftpStat
  | sftpMkdir
  | sftpDelete
  | sftpUploadStart
  | sftpUploadChunk
  | sftpUploadCancel
  | sftpDownloadStart
  | sftpDownloadCancel
deriving DecidableEq

def ClientEvent.name : ClientEvent → JsString
  | .auth => EventLog.authEvent
  | .terminal => js "terminal"
  | .resize => js "resize"
  | .data => js "data"
  | .exec => js "exec"
  | .control => js "control"
  | .disconnect => js "disconnect"
  | .promptResponse => js "prompt-response"
  | .sftpList => js "sftp-list"
  | .sftpStat => js "sftp-stat"
  | .sftpMkdir => js "sftp-mkdir"
  | .sftpDelete => js "sftp-delete"
  | .sftpUploadStart => js "sftp-upload-start"
  | .sftpUploadChunk => js "sftp-upload-chunk"
  | .sftpUploadCancel => js "sftp-upload-cancel"
  | .sftpDownloadStart => js "sftp-download-start"
  | .sftpDownloadCancel => js "sftp-download-cancel"

-- Exec and SFTP are there over SSH only.
def registers (protocol : Protocol) : ClientEvent → Bool
  | .auth | .terminal | .resize | .data | .control | .disconnect | .promptResponse => true
  | _ => protocol = .ssh

-- The file backend of the server, and what its handlers are given beside a message.
structure FileServices where
  backend : (name : BackendName) × name.backend.State
  config : SftpConfig
  uploads : Upload.UploadConfig
  maxFileSize : Nat
  transferId : TransferId
  now : Time

-- What the listeners of one socket find when a message comes in.
structure Adapter where
  protocol : Protocol
  config : LoginConfig
  session : Option AuthSession
  context : AuthContext Shell
  services : TerminalServices
  files : Option FileServices

def Adapter.state (adapter : Adapter) : AdapterSharedState Shell :=
  adapter.context.state

-- What a listener does to the emitter that calls it.
inductive ListenerOutcome where
  | returned
  | thrown
  | promised (rejects : Bool)
deriving DecidableEq

-- `runtime` converts values and `windowChange` tells whether ssh2 can put a size into its
-- packet; it throws otherwise. `execThrows` tells whether ssh2 throws from `exec`, as it does
-- once the socket of the connection takes no more.
variable (runtime : Runtime) (windowChange : Dimensions → Bool) (execThrows : Bool)

-- The attempt itself stands in a `try`; its message is taken apart before that.
def authListener (adapter : Adapter) (credentials : JsValue) : ListenerOutcome :=
  let request := authRequest runtime adapter.config adapter.protocol credentials
  match (serveRequest adapter.config adapter.protocol adapter.session adapter.context
      request).2 with
  | .thrown => .promised true
  | _ => .promised false

def resizeListener (adapter : Adapter) (dimensions : JsValue) : ListenerOutcome :=
  match (handleResize runtime windowChange adapter.protocol adapter.services adapter.state
      dimensions).2.2 with
  | .thrown => .thrown
  | _ => .returned

-- `shellStream?.write(data)`: a stream throws where it is given neither text nor bytes.
def handleData (state : AdapterSharedState Shell) (data : JsValue) : ListenerOutcome :=
  match state.shellStream, data with
  | none, _ | some _, some (.string _) => .returned
  | some _, _ => .thrown

-- The handler of a prompt is awaited in a `try`, and a chunk goes to a file that is open.
def fileMessage (message : JsValue) : ClientEvent → Option FileMessage
  | .sftpList => some (.list message)
  | .sftpStat => some (.stat message)
  | .sftpMkdir => some (.mkdir message)
  | .sftpDelete => some (.delete message)
  | .sftpUploadStart => some (.uploadStart message)
  | _ => none

variable (adapter : Adapter) (event : ClientEvent) (message : JsValue)

def listener : ListenerOutcome :=
  match event with
  | .auth => authListener runtime adapter message
  -- all of `handleTerminal` stands in one `try`
  | .terminal => .promised false
  | .resize => resizeListener runtime windowChange adapter message
  | .data => handleData adapter.state message
  -- these check what they are given, and what they write and close stands in a `try`
  | .control | .disconnect | .sftpUploadCancel | .sftpDownloadCancel => .returned
  -- `void handler(message)`
  | .exec | .promptResponse | .sftpList | .sftpStat | .sftpMkdir | .sftpDelete
  | .sftpUploadStart | .sftpUploadChunk | .sftpDownloadStart => .returned

-- A message calls the listener of every event and that of its own, with its first argument.
def deliver (args : List JsonValue) : ListenerOutcome :=
  if registers adapter.protocol event then
    listener runtime windowChange adapter event args.head?
  else
    .returned

-- Responses whose length can be compared with a number.
def Countable (responses : JsonValue) : Prop :=
  responses ≠ .null ∧ ∀ fields, responses = .object fields →
    toNumber runtime (Json.lookup (js "length") fields) ≠ none

-- An object or an array; over SSH, responses in it can be counted.
def LoginReadable (protocol : Protocol) (message : JsValue) : Prop :=
  (∃ items, message = some (.array items)) ∨
    ∃ fields, message = some (.object fields) ∧ (protocol = .ssh → ∀ responses,
      Json.lookup (js "responses") fields = some responses → Countable runtime responses)

-- The remote side can encode the size, if it has a window.
def Encodes (size : Dimensions) : Prop :=
  (remoteWindow adapter.protocol adapter.services adapter.state).isSome = true →
    match adapter.protocol with
    | .ssh => windowChange size = true
    | .telnet => TelnetService.encodable runtime size = true

-- Once there is a session, dimensions are there to be read; once the session has a terminal,
-- the remote side can encode them.
def SizeReadable : Prop :=
  ∀ sessionId, adapter.state.sessionId = some sessionId →
    ∃ size, readDimensions message = some size ∧
      ((adapter.services.terminal.terminals.get sessionId).isSome = true →
        Encodes runtime windowChange adapter size)

-- A request on files that the shell backend runs a command for; the SFTP backend runs none.
def RunsCommand (files : FileServices) : Prop :=
  match files.backend, event with
  | ⟨.sftp, _⟩, _ => False
  | ⟨.shell, service⟩, .sftpDownloadStart =>
      Served files.config adapter.state.connectionId adapter.state.sessionId fun connectionId _ =>
        ∃ path, validateSftpDownloadStartRequest runtime message = .ok path ∧
          Prepared runtime files.config service connectionId path true fun _ => True
  | ⟨.shell, service⟩, event => ∃ request, fileMessage message event = some request ∧
      Served files.config adapter.state.connectionId adapter.state.sessionId
        fun connectionId sessionId => Commands runtime files.config files.now files.maxFileSize
          service connectionId sessionId files.transferId request

-- Once there is a connection, a command can be made a text; and no request on files runs one
-- while `exec` throws.
def PromiseKept : Prop :=
  match event with
  | .exec => adapter.protocol = .ssh → adapter.state.connectionId ≠ none →
      ∀ command, message.bind (Json.field (js "command")) = some command →
        toText runtime command ≠ none
  | event => adapter.protocol = .ssh → execThrows = true → ∀ files, adapter.files = some files →
      ¬RunsCommand runtime adapter event message files

-- What a message must be for its event.
def Harmless : Prop :=
  match event with
  | .auth => LoginReadable runtime adapter.protocol message
  | .resize => SizeReadable runtime windowChange adapter message
  | .data => adapter.state.shellStream ≠ none → ∃ text, message = some (.string text)
  | event => PromiseKept runtime execThrows adapter event message

end Listeners

section Resize

variable {runtime : Runtime} {windowChange : Dimensions → Bool} {adapter : Adapter}

end Resize

section Login

variable {runtime : Runtime} {config : LoginConfig}

end Login

section Dropped

variable {runtime : Runtime} {execThrows : Bool}

end Dropped

section Messages

variable {runtime : Runtime} {windowChange : Dimensions → Bool} {execThrows : Bool}

end Messages

section Samples

end Samples

end WebSsh2.Socket.ClientMessages

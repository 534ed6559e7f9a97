import WebSsh2.Decimal
import WebSsh2.Logging.Formatter
import WebSsh2.Socket.Authentication

namespace WebSsh2.Logging

open WebSsh2.Library WebSsh2.State WebSsh2.Auth WebSsh2.Socket

section Handshake

inductive HeaderValue where
  | absent
  | text (value : JsString)
  | list (values : List JsString)

-- What a socket is opened with. The address and the port are those of the connection,
-- where it has them.
structure Handshake where
  forwardedFor : HeaderValue := .absent
  forwardedPort : HeaderValue := .absent
  userAgent : HeaderValue := .absent
  address : Option JsString
  remotePort : Option UInt16
  address_ne : address ≠ some []

-- `value.split(',')[0].trim()`
def firstEntry (value : JsString) : JsString :=
  trim (value.takeWhile (· ≠ 44))

def normaliseForwardedValue : HeaderValue → Option JsString
  | .text value => if value = [] then none else some (firstEntry value)
  | .list (value :: _) => some (firstEntry value)
  | _ => none

def headerText : HeaderValue → Option JsString
  | .text value => some value
  | .list (value :: _) => some value
  | _ => none

def parsePort (value : HeaderValue) : Option Number :=
  match (headerText value).map parseInt with
  | some (.finite port) =>
    if port.isInt ∧ 0 ≤ port ∧ port ≤ 65535 then some (.finite port) else none
  | _ => none

def parseSourcePort (remotePort : Option UInt16) (forwardedPort : Option Number) :
    Option Number :=
  forwardedPort.or (remotePort.map fun port => .ofInt port.toNat)

def maxUserAgentLength : Nat := 512

def normaliseUserAgent (value : HeaderValue) : Option JsString :=
  match headerText value with
  | none => none
  | some candidate =>
    let trimmed := trim candidate
    if trimmed = [] then none else some (trimmed.take maxUserAgentLength)

def extractClientDetails (handshake : Handshake) : ClientDetails :=
  let port := parsePort handshake.forwardedPort
  { ip := (normaliseForwardedValue handshake.forwardedFor).or handshake.address
    port
    userAgent := normaliseUserAgent handshake.userAgent
    sourcePort := parseSourcePort handshake.remotePort port }

end Handshake

section Adapters

variable {σ : Type}

def clientDetails (state : AdapterSharedState σ) : ClientDetails where
  ip := state.clientIp
  port := state.clientPort
  userAgent := state.userAgent
  sourcePort := state.clientSourcePort

-- One socket as its handlers see it. The identifiers are made by the server.
structure Adapter where
  socketId : JsString
  handshake : Handshake
  context : AuthContext Unit
  socketId_ne : socketId ≠ []
  sessionId_ne : context.state.sessionId ≠ some []
  connectionId_ne : context.state.connectionId ≠ some []
  client : clientDetails context.state = extractClientDetails handshake

-- What a handler may have changed of the state that the log reads.
structure Keeps (before after : AdapterSharedState σ) : Prop where
  sessionId : after.sessionId = before.sessionId
  connectionId : after.connectionId = before.connectionId
  client : clientDetails after = clientDetails before

variable (config : LoginConfig)

theorem storePasswordIfEnabled_keeps (state : AdapterSharedState σ) (validated : CredentialFields) :
    Keeps state (storePasswordIfEnabled config state validated) := by
  unfold storePasswordIfEnabled
  split
  · split
    · exact ⟨rfl, rfl, rfl⟩
    · exact ⟨rfl, rfl, rfl⟩
  · exact ⟨rfl, rfl, rfl⟩

variable (protocol : Protocol) (session : Option AuthSession) (context : AuthContext σ)

theorem prepareAuthCredentials_keeps (credentials : JsonValue) :
    Keeps context.state
      (prepareAuthCredentials config protocol session context credentials).1.state := by
  have hproceed : ∀ (state : AdapterSharedState σ) (validated : CredentialFields),
      Keeps state (buildAuthCredentials (storePasswordIfEnabled config
        (storeTerminalSettings state credentials) validated) validated credentials).1 := by
    intro state validated
    have hkeeps := storePasswordIfEnabled_keeps config (storeTerminalSettings state credentials)
      validated
    exact ⟨hkeeps.sessionId, hkeeps.connectionId, hkeeps.client⟩
  have hupdate : ∀ updated, updateAuthPipeline context credentials = .ok updated →
      updated.state = context.state := by
    intro updated h
    unfold updateAuthPipeline at h
    split at h
    · cases h
      rfl
    · split at h
      · cases h
        rfl
      · cases h
  unfold prepareAuthCredentials
  split
  · exact ⟨rfl, rfl, rfl⟩
  · rename_i updated hok
    rw [← hupdate updated hok]
    split
    · exact ⟨rfl, rfl, rfl⟩
    · dsimp only
      split
      · exact hproceed updated.state _
      · split
        · exact hproceed updated.state _
        · exact ⟨rfl, rfl, rfl⟩

theorem handleAuthentication_keeps (credentials : JsonValue) :
    Keeps context.state
      (handleAuthentication config protocol session context credentials).1.state := by
  have hstart := prepareAuthCredentials_keeps config protocol session
    (initializeAuthAttempt context credentials) credentials
  have hkeeps : Keeps context.state
      (startAuthentication config protocol session context credentials).1.state :=
    ⟨hstart.sessionId, hstart.connectionId, hstart.client⟩
  unfold handleAuthentication
  split
  · rename_i after fields heq
    rw [heq] at hkeeps
    exact hkeeps
  · rename_i after failure heq
    rw [heq] at hkeeps
    exact hkeeps

theorem serveRequest_keeps (request : AuthRequest) :
    Keeps context.state (serveRequest config protocol session context request).1.state := by
  cases request with
  | thrown => exact ⟨rfl, rfl, rfl⟩
  | ignored => exact ⟨rfl, rfl, rfl⟩
  | refused failure => exact ⟨rfl, rfl, rfl⟩
  | credentials answered credentials =>
    have hkeeps := handleAuthentication_keeps config protocol session (announce answered context)
      credentials
    cases answered with
    | false => exact hkeeps
    | true => exact ⟨hkeeps.sessionId, hkeeps.connectionId, hkeeps.client⟩

namespace Adapter

-- A socket that was just opened.
def opened (socketId : JsString) (handshake : Handshake) (provider : AuthProvider)
    (h : socketId ≠ []) : Adapter where
  socketId := socketId
  handshake := handshake
  context := {
    state := createAdapterSharedState Unit (extractClientDetails handshake)
    provider := provider }
  socketId_ne := h
  sessionId_ne := fun hsome => nomatch hsome
  connectionId_ne := fun hsome => nomatch hsome
  client := rfl

-- A socket that was sent a login.
def asked (adapter : Adapter) (config : LoginConfig) (protocol : Protocol)
    (session : Option AuthSession) (request : AuthRequest) : Adapter :=
  have hkeeps := serveRequest_keeps config protocol session adapter.context request
  { adapter with
    context := (serveRequest config protocol session adapter.context request).1
    sessionId_ne := hkeeps.sessionId ▸ adapter.sessionId_ne
    connectionId_ne := hkeeps.connectionId ▸ adapter.connectionId_ne
    client := hkeeps.client.trans adapter.client }

end Adapter

end Adapters

section Emitting

inductive LogStatus where
  | success | failure
deriving DecidableEq

def LogStatus.name : LogStatus → String
  | .success => "success"
  | .failure => "failure"

inductive LogSubsystem where
  | shell | sftp | scp | exec | prompt | security
deriving DecidableEq

def LogSubsystem.name : LogSubsystem → String
  | .shell => "shell"
  | .sftp => "sftp"
  | .scp => "scp"
  | .exec => "exec"
  | .prompt => "prompt"
  | .security => "security"

inductive ErrorCode where
  | text (value : JsString)
  | number (value : Number)

def ErrorCode.value : ErrorCode → JsonValue
  | .text value => .string value
  | .number value => .number value

structure SocketLogOptions where
  status : Option LogStatus := none
  reason : Option JsString := none
  errorCode : Option ErrorCode := none
  durationMs : Option Number := none
  bytesIn : Option Number := none
  bytesOut : Option Number := none
  subsystem : Option LogSubsystem := none
  data : LogFields := []

-- `value === null ? {} : { key: value }`
def unlessNull (value : JsValue) : JsValue :=
  if value = some .null then none else value

def mapAuthMethod (method : Option JsString) : Option JsString :=
  method.filter fun method => authMethods.any fun name => js name = method

def buildSocketLogContext (adapter : Adapter) (event : LogEventName)
    (options : SocketLogOptions) : LogContext :=
  let state := adapter.context.state
  [(.protocol, some (.string (js "ssh"))),
    (.subsystem, some (.string (js (options.subsystem.getD .shell).name))),
    (.requestId, some (.string adapter.socketId)),
    (.sessionId, state.sessionId.map Json.string),
    (.username, unlessNull state.username),
    (.authMethod, (mapAuthMethod state.originalAuthMethod).map Json.string),
    (.clientIp, state.clientIp.map Json.string),
    (.clientPort, state.clientPort.map Json.number),
    (.clientSourcePort, state.clientSourcePort.map Json.number),
    (.targetHost, unlessNull state.targetHost),
    (.targetPort, unlessNull state.targetPort),
    (.connectionId, state.connectionId.map Json.string),
    (.userAgent, if event = .sessionInit then state.userAgent.map Json.string else none),
    (.status, options.status.map fun status => .string (js status.name)),
    (.reason, options.reason.map Json.string),
    (.errorCode, options.errorCode.map ErrorCode.value),
    (.durationMs, options.durationMs.map Json.number),
    (.bytesIn, options.bytesIn.map Json.number),
    (.bytesOut, options.bytesOut.map Json.number)]

-- One call. What the logger reports goes to the debug output only.
structure SocketLogCall where
  adapter : Adapter
  level : LogLevel
  event : LogEventName
  message : JsString
  options : SocketLogOptions := {}
  now : Int
  random : ℚ

def SocketLogCall.entry (call : SocketLogCall) : StructuredLogInput where
  level := call.level
  event := call.event
  message := call.message
  context := buildSocketLogContext call.adapter call.event call.options
  data := call.options.data

def emitSocketLog (logger : StructuredLoggerOptions) (state : LoggerState)
    (call : SocketLogCall) : LoggerState :=
  (log logger call.entry call.now call.random state).1

end Emitting

end WebSsh2.Logging

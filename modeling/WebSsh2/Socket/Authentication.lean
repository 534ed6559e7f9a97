import WebSsh2.Auth.AuthService
import WebSsh2.Auth.MethodPolicy
import WebSsh2.Auth.Session
import WebSsh2.Socket.Shared

namespace WebSsh2.Socket

open WebSsh2.Library WebSsh2.State WebSsh2.Auth

structure SshAlgorithms where
  cipher : List JsString
  compress : List JsString
  hmac : List JsString
  kex : List JsString
  serverHostKey : List JsString

-- The part of the configuration that the login reads.
structure LoginConfig where
  host : Option JsString
  port : Number
  allowedAuthMethods : List AuthMethodToken
  alwaysSendKeyboardInteractivePrompts : Bool
  allowReplay : Bool
  readyTimeout : Number
  keepaliveInterval : Number
  keepaliveCountMax : Number
  algorithms : SshAlgorithms

-- Why an attempt ends before the authentication service is asked.
inductive AuthFailure where
  | message (text : JsString)
  | methodDisabled (method : AuthMethodToken)
deriving DecidableEq

-- What an attempt works on: the shared state, and the provider of the pipeline.
structure AuthContext (σ : Type) where
  state : AdapterSharedState σ
  provider : AuthProvider

def keyCount : JsonValue → Nat
  | .object fields => fields.length
  | .array items => items.length
  | .string text => text.length
  | _ => 0

def credentialFields (credentials : JsonValue) : CredentialFields where
  username := property "username" (some credentials)
  host := property "host" (some credentials)
  port := property "port" (some credentials)
  password := property "password" (some credentials)
  privateKey := property "privateKey" (some credentials)
  passphrase := property "passphrase" (some credentials)

-- The credentials that an attempt is about: those of the message, or those the
-- provider has where the message is empty.
def submitted (session : Option AuthSession) (provider : AuthProvider)
    (credentials : JsonValue) : Option CredentialFields :=
  if keyCount credentials = 0 then provider.getCredentials session
  else some (credentialFields credentials)

section Attempt

variable {σ : Type}

def initializeAuthAttempt (context : AuthContext σ) (credentials : JsonValue) : AuthContext σ :=
  { context with
    state := { context.state with
      username := property "username" (some credentials)
      originalAuthMethod :=
        context.state.originalAuthMethod.or (some context.provider.getAuthMethod) } }

def updateAuthPipeline (context : AuthContext σ) (credentials : JsonValue) :
    Except AuthFailure (AuthContext σ) :=
  if keyCount credentials = 0 then
    .ok context
  else
    match AuthProvider.setManualCredentials (credentialFields credentials) with
    | some provider => .ok { context with provider }
    | none => .error (.message (js "Invalid credentials"))

-- A pipeline that took the message has the credentials that the attempt is about.
theorem updateAuthPipeline_getCredentials {context updated : AuthContext σ}
    {credentials : JsonValue} (h : updateAuthPipeline context credentials = .ok updated)
    (session : Option AuthSession) :
    updated.provider.getCredentials session = submitted session context.provider credentials := by
  unfold updateAuthPipeline at h
  unfold submitted
  by_cases hempty : keyCount credentials = 0
  · rw [if_pos hempty] at h ⊢
    cases h
    rfl
  · rw [if_neg hempty] at h ⊢
    unfold AuthProvider.setManualCredentials at h
    by_cases hvalid : isValidCredentials (credentialFields credentials) = true
    · rw [if_pos hvalid] at h
      cases h
      rfl
    · rw [if_neg hvalid] at h
      cases h

variable (config : LoginConfig) (state : AdapterSharedState σ)

def enforceAuthMethodPolicy (credentials : CredentialFields) :
    Except AuthMethodToken (List AuthMethodToken) :=
  evaluateAuthMethodPolicy config.allowedAuthMethods {
    password := credentials.password
    privateKey := credentials.privateKey
    requestedKeyboardInteractive := state.requestedKeyboardInteractive }

-- `value ?? kept`, but only `undefined` keeps the old value.
def overwrite (value kept : JsValue) : JsValue :=
  value.or kept

def storeTerminalSettings (credentials : JsonValue) : AdapterSharedState σ :=
  { state with initialTermSettings := {
      term := overwrite (property "term" (some credentials)) state.initialTermSettings.term
      rows := overwrite (property "rows" (some credentials)) state.initialTermSettings.rows
      cols := overwrite (property "cols" (some credentials)) state.initialTermSettings.cols } }

def storePasswordIfEnabled (validated : CredentialFields) : AdapterSharedState σ :=
  match getNonEmptyString validated.password with
  | some password =>
    if config.allowReplay then { state with storedPassword := some password } else state
  | none => state

-- The new object has the fields of its type only, so what else a message asks for
-- (`forwardAllKeyboardInteractivePrompts`) is not passed on.
def buildAuthCredentials (validated : CredentialFields) (credentials : JsonValue) :
    AdapterSharedState σ × CredentialFields :=
  let given := credentialFields credentials
  let authCredentials : CredentialFields := {
    username := nullish validated.username given.username
    host := nullish validated.host given.host
    port := nullish validated.port given.port
    password := validated.password
    privateKey := validated.privateKey
    passphrase := validated.passphrase }
  ({ state with
    targetHost := authCredentials.host
    targetPort := authCredentials.port
    username := authCredentials.username }, authCredentials)

variable (protocol : Protocol)

def prepareAuthCredentials (session : Option AuthSession) (context : AuthContext σ)
    (credentials : JsonValue) : AuthContext σ × Except AuthFailure CredentialFields :=
  match updateAuthPipeline context credentials with
  | .error failure => (context, .error failure)
  | .ok context =>
    match context.provider.getCredentials session with
    | none => (context, .error (.message (js "No credentials available")))
    | some validated =>
      let proceed : AuthContext σ × Except AuthFailure CredentialFields :=
        let state := storeTerminalSettings context.state credentials
        let state := storePasswordIfEnabled config state validated
        let (state, authCredentials) := buildAuthCredentials state validated credentials
        ({ context with state }, .ok authCredentials)
      match protocol with
      | .telnet => proceed
      | .ssh =>
        match enforceAuthMethodPolicy config context.state validated with
        | .ok _ => proceed
        | .error method =>
          let state := { context.state with requestedKeyboardInteractive := false }
          ({ context with state }, .error (.methodDisabled method))

-- `handleAuthentication` as far as it runs at once, up to the authentication service.
def startAuthentication (session : Option AuthSession) (context : AuthContext σ)
    (credentials : JsonValue) : AuthContext σ × Except AuthFailure CredentialFields :=
  prepareAuthCredentials config protocol session (initializeAuthAttempt context credentials)
    credentials

-- `value[index]`, on whatever a message holds.
def elementAt (value : JsonValue) (index : Nat) : JsValue :=
  match value with
  | .array items => items[index]?
  | .string text => text[index]?.map fun unit => .string [unit]
  | .object fields => Json.lookup ((Nat.toDigits 10 index).flatMap utf16) fields
  | _ => none

def lengthOf : JsonValue → JsValue
  | .array items => some (.number (.ofInt items.length))
  | .string text => some (.number (.ofInt text.length))
  | .object fields => Json.lookup (js "length") fields
  | _ => none

-- The answer to the request for a login of its own form, or the message that it is
-- turned into. Where the length cannot be compared, or there is no value at all, the
-- handler throws.
inductive ResponseOutcome where
  | thrown
  | refused (failure : AuthFailure)
  | credentials (credentials : JsonValue)

variable (runtime : Runtime)

def handleKeyboardInteractiveResponse (config : LoginConfig) (responses : JsValue) :
    ResponseOutcome :=
  match responses with
  | none | some .null => .thrown
  | some responses =>
    match toNumber runtime (lengthOf responses) with
    | none => .thrown
    | some length =>
      match elementAt responses 0, elementAt responses 1 with
      | some username, some password =>
        if length.lt (.ofInt 2) then
          .refused (.message (js "Invalid authentication response"))
        else
          match config.host with
          | none => .refused (.message (js "No SSH host configured"))
          | some host => .credentials (.object [(js "username", username),
              (js "password", password), (js "host", .string host),
              (js "port", .number config.port)])
      | _, _ => .refused (.message (js "Invalid authentication response"))

-- What becomes of an attempt before the authentication service is asked.
inductive AttemptOutcome where
  | thrown
  | ignored
  | refused (failure : AuthFailure)
  | attempted (credentials : CredentialFields)
deriving DecidableEq

def handleAuthentication (session : Option AuthSession) (context : AuthContext σ)
    (credentials : JsonValue) : AuthContext σ × AttemptOutcome :=
  match startAuthentication config protocol session context credentials with
  | (context, .ok credentials) => (context, .attempted credentials)
  | (context, .error failure) => (context, .refused failure)

-- What reaches `handleAuthentication`, and whether it answers a request for a login
-- of the server's own form.
inductive AuthRequest where
  | thrown
  | ignored
  | refused (failure : AuthFailure)
  | credentials (answered : Bool) (credentials : JsonValue)

def responseRequest (config : LoginConfig) (responses : JsValue) : AuthRequest :=
  match handleKeyboardInteractiveResponse runtime config responses with
  | .thrown => .thrown
  | .refused failure => .refused failure
  | .credentials credentials => .credentials true credentials

-- The listener of `authenticate`: the operator `in` throws on what is no object.
def authRequest (config : LoginConfig) (protocol : Protocol) (message : JsValue) : AuthRequest :=
  match message with
  | some (.object fields) =>
    match Json.lookup (js "responses") fields with
    | some responses =>
      match protocol with
      | .ssh => responseRequest runtime config (some responses)
      | .telnet => .ignored
    | none => .credentials false (.object fields)
  | some (.array items) => .credentials false (.array items)
  | _ => .thrown

-- The context in which an attempt starts.
def announce (answered : Bool) (context : AuthContext σ) : AuthContext σ :=
  if answered then
    { context with state := { context.state with requestedKeyboardInteractive := true } }
  else
    context

def serveRequest (session : Option AuthSession) (context : AuthContext σ) :
    AuthRequest → AuthContext σ × AttemptOutcome
  | .thrown => (context, .thrown)
  | .ignored => (context, .ignored)
  | .refused failure => (context, .refused failure)
  | .credentials answered credentials =>
    handleAuthentication config protocol session (announce answered context) credentials

-- What a socket does once it is set up: it logs in with the credentials of the
-- session, or asks for some.
inductive InitialAuth where
  | idle
  | requested (keyboardInteractive : Bool)
  | attempt (outcome : AttemptOutcome)
deriving DecidableEq

def checkInitialAuth (session : Option AuthSession) (context : AuthContext σ) :
    AuthContext σ × InitialAuth :=
  let ask (keyboardInteractive : Bool) : AuthContext σ × InitialAuth :=
    ({ context with
        state := { context.state with requestedKeyboardInteractive := keyboardInteractive } },
      .requested keyboardInteractive)
  if context.provider.isAuthenticated session then
    match context.provider.getCredentials session with
    | some credentials =>
      let state := { context.state with
        requestedKeyboardInteractive := false
        originalAuthMethod := some context.provider.getAuthMethod }
      let (context, outcome) := handleAuthentication config protocol session
        { context with state } credentials.object
      (context, .attempt outcome)
    | none =>
      ({ context with state := { context.state with requestedKeyboardInteractive := false } },
        .idle)
  else
    match context.provider with
    | .manual _ => ask (protocol = .ssh && config.alwaysSendKeyboardInteractivePrompts &&
        isAuthMethodAllowed config.allowedAuthMethods .keyboardInteractive)
    | .basicAuth | .post => ask false

inductive ErrorType where
  | auth | algorithm | timeout | network | unknown
deriving DecidableEq

def determineErrorType (message : JsString) : ErrorType :=
  let lowerMessage := runtime.toLowerCase message
  let mentions (words : List String) := words.any fun word => includes (js word) lowerMessage
  if mentions ["authentication", "auth", "password", "permission denied"] then .auth
  else if mentions ["algorithm", "handshake", "no matching"] then .algorithm
  else if mentions ["timeout", "timed out"] then .timeout
  else if mentions ["econnrefused", "enotfound", "connect", "network", "unreachable"] then .network
  else .unknown

def clearSessionCredentials (session : AuthSession) : AuthSession :=
  { session with
    sshCredentials := none
    usedBasicAuth := some false
    authFailed := some true }

-- The session after `connection-error` was reported for an SSH connection.
def emitConnectionError (message : JsString) (session : Option AuthSession) : Option AuthSession :=
  if determineErrorType runtime message = .auth then session.map clearSessionCredentials
  else session

def finalizeAuthentication (credentials : CredentialFields) (sessionId : SessionId)
    (connectionId : ConnectionId) : AdapterSharedState σ :=
  { state with
    connectionId := some connectionId
    sessionId := some sessionId
    username := credentials.username
    requestedKeyboardInteractive := false }

def clearAuthFailed (session : Option AuthSession) : Option AuthSession :=
  session.map fun session => { session with authFailed := none }

-- The credentials in the form in which the authentication service checks them: it
-- takes no account of secrets that are not texts.
def toCredentials (credentials : CredentialFields) : Option Credentials :=
  match textOf credentials.username, textOf credentials.host, numberOf credentials.port with
  | some username, some host, some port => some {
      username, host, port
      password := textOf credentials.password
      privateKey := textOf credentials.privateKey
      passphrase := textOf credentials.passphrase }
  | _, _, _ => none

def performAuthentication (credentials : CredentialFields) : Option JsString :=
  match toCredentials credentials with
  | some credentials => validateCredentials credentials
  | none => some (js "Invalid credentials format")

end Attempt

structure SSHConfig where
  sessionId : SessionId
  host : JsValue
  port : JsValue
  username : JsValue
  password : JsValue
  privateKey : JsValue
  passphrase : JsValue
  readyTimeout : Number
  keepaliveInterval : Number
  algorithms : SshAlgorithms
  onKeyboardInteractive : Bool
  forwardAllPrompts : Bool

-- `value !== undefined && value !== ''`
def isFilled (value : JsValue) : Bool :=
  value ≠ none && value ≠ some (.string [])

def filled (value : JsValue) : JsValue :=
  if isFilled value then value else none

def buildSSHConfig (credentials : CredentialFields) (sessionId : SessionId)
    (config : LoginConfig) (forwardAllPrompts : Bool) : SSHConfig where
  sessionId := sessionId
  host := credentials.host
  port := credentials.port
  username := credentials.username
  password := filled credentials.password
  privateKey := filled credentials.privateKey
  passphrase := filled credentials.passphrase
  readyTimeout := config.readyTimeout
  keepaliveInterval := config.keepaliveInterval
  algorithms := config.algorithms
  onKeyboardInteractive := true
  forwardAllPrompts := forwardAllPrompts

-- The configuration that `connectSSH` hands to the SSH service.
def connectSSH (credentials : CredentialFields) (sessionId : SessionId) (config : LoginConfig) :
    SSHConfig :=
  buildSSHConfig credentials sessionId config false

structure ConnectConfig where
  host : JsValue
  port : JsValue
  username : JsValue
  readyTimeout : Number
  keepaliveInterval : Number
  keepaliveCountMax : Number
  tryKeyboard : Bool
  password : JsValue
  privateKey : JsValue
  passphrase : JsValue
  algorithms : SshAlgorithms

structure KeyboardPrompt where
  prompt : JsString
  echo : Bool

inductive KeyboardAnswer where
  | finish (responses : List JsValue)
  | forward (prompts : List KeyboardPrompt)

namespace SshService

def keyboardInteractiveAllowed (config : LoginConfig) : Bool :=
  isAuthMethodAllowed config.allowedAuthMethods .keyboardInteractive

-- The key is offered only where there is no password.
def buildConnectConfig (service : LoginConfig) (config : SSHConfig) : ConnectConfig where
  host := config.host
  port := config.port
  username := config.username
  readyTimeout := config.readyTimeout
  keepaliveInterval := config.keepaliveInterval
  keepaliveCountMax := service.keepaliveCountMax
  tryKeyboard := keyboardInteractiveAllowed service
  password := filled config.password
  privateKey := if isFilled config.password then none else filled config.privateKey
  passphrase :=
    if isFilled config.password || !isFilled config.privateKey then none
    else filled config.passphrase
  algorithms := config.algorithms

variable (runtime : Runtime)

def asksPassword (prompt : KeyboardPrompt) : Bool :=
  includes (js "password") (runtime.toLowerCase prompt.prompt)

def handleFallbackResponse (config : SSHConfig) (prompts : List KeyboardPrompt) : List JsValue :=
  if isFilled config.password && prompts ≠ [] then
    prompts.map fun prompt =>
      if asksPassword runtime prompt then config.password else some (.string [])
  else
    []

-- One round of prompts: the answer, and whether the next round is still the first.
def answerPrompts (service : LoginConfig) (config : SSHConfig) (isFirstRound : Bool)
    (prompts : List KeyboardPrompt) : KeyboardAnswer × Bool :=
  let forwardAll := config.forwardAllPrompts || service.alwaysSendKeyboardInteractivePrompts
  if !config.onKeyboardInteractive then
    (.finish (handleFallbackResponse runtime config prompts), isFirstRound)
  else if isFirstRound && !forwardAll && prompts ≠ [] && prompts.all (asksPassword runtime) &&
      isFilled config.password then
    (.finish (prompts.map fun _ => config.password), false)
  else
    (.forward prompts, false)

-- The rounds that the server starts. ssh2 passes prompts on only where it was told
-- to try this method.
def keyboardAnswers (service : LoginConfig) (config : SSHConfig)
    (rounds : List (List KeyboardPrompt)) : List KeyboardAnswer :=
  if (buildConnectConfig service config).tryKeyboard then go true rounds else []
where
  go (isFirstRound : Bool) : List (List KeyboardPrompt) → List KeyboardAnswer
    | [] => []
    | prompts :: rest =>
      let (answer, isFirstRound) := answerPrompts runtime service config isFirstRound prompts
      answer :: go isFirstRound rest

end SshService

-- A configuration, and credentials of the plainest kind.
def noAlgorithms : SshAlgorithms where
  cipher := []
  compress := []
  hmac := []
  kex := []
  serverHostKey := []

def loginConfig (allowed : List AuthMethodToken) : LoginConfig where
  host := none
  port := .ofInt 22
  allowedAuthMethods := allowed
  alwaysSendKeyboardInteractivePrompts := false
  allowReplay := false
  readyTimeout := .ofInt 20000
  keepaliveInterval := .ofInt 120000
  keepaliveCountMax := .ofInt 10
  algorithms := noAlgorithms

def passwordMessage (password : JsString) : JsonValue :=
  .object [(js "username", .string (js "root")), (js "host", .string (js "one.example")),
    (js "port", .number (.ofInt 22)), (js "password", .string password)]

def passwordFields (password : JsString) : CredentialFields where
  username := some (.string (js "root"))
  host := some (.string (js "one.example"))
  port := some (.number (.ofInt 22))
  password := some (.string password)

end WebSsh2.Socket

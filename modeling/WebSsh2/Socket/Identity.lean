import WebSsh2.Library.Run
import WebSsh2.Socket.Authentication

namespace WebSsh2.Socket

open WebSsh2.Library WebSsh2.State

-- The options that only the control messages read.
structure ControlOptions where
  allowReauth : Bool
  replayCRLF : Bool

inductive ControlOutcome (σ : Type) where
  | unknown
  | refused (reason : JsString)
  | reauth
  | written (shell : σ) (text : JsString)

section Handlers

variable {σ : Type}

def lineEnding (options : ControlOptions) : JsString :=
  if options.replayCRLF then [13, 10] else [10]

def handleReplayCredentials (config : LoginConfig) (options : ControlOptions)
    (state : AdapterSharedState σ) : ControlOutcome σ :=
  if config.allowReplay then
    match state.storedPassword with
    | none => .refused (js "No stored password available")
    | some password =>
      match state.shellStream with
      | none => .refused (js "No active shell")
      | some shell => .written shell (password ++ lineEnding options)
  else
    .refused (js "Credential replay not permitted")

def handleReauth (options : ControlOptions) : ControlOutcome σ :=
  if options.allowReauth then .reauth
  else .refused (js "Re-authentication not permitted")

def handleControl (config : LoginConfig) (options : ControlOptions)
    (state : AdapterSharedState σ) (message : JsValue) : ControlOutcome σ :=
  if message = some (.string (js "replayCredentials")) then
    handleReplayCredentials config options state
  else if message = some (.string (js "reauth")) then handleReauth options
  else .unknown

def handleDisconnect (state : AdapterSharedState σ) : AdapterSharedState σ :=
  { state with
    storedPassword := none
    shellStream := none
    connectionId := none
    sessionId := none
    targetHost := some .null
    targetPort := some .null
    username := some .null }

end Handlers

end WebSsh2.Socket

namespace WebSsh2.Socket

open WebSsh2.Library WebSsh2.Library.Run WebSsh2.State WebSsh2.Auth

section Attempt

variable {σ : Type}

-- Every method that the credentials ask for is allowed.
def passesPolicy (config : LoginConfig) (state : AdapterSharedState σ)
    (given : CredentialFields) : Bool :=
  (resolveRequestedAuthMethods {
    password := given.password
    privateKey := given.privateKey
    requestedKeyboardInteractive := state.requestedKeyboardInteractive }).all
      fun method => method ∈ config.allowedAuthMethods

-- The credentials with which an attempt gets past the checks, if it does.
def admitted (config : LoginConfig) (protocol : Protocol) (session : Option AuthSession)
    (context : AuthContext σ) (credentials : JsonValue) : Option CredentialFields :=
  if keyCount credentials = 0 ∨ isValidCredentials (credentialFields credentials) = true then
    (submitted session context.provider credentials).filter fun given =>
      protocol = .telnet || passesPolicy config context.state given
  else
    none

theorem updateAuthPipeline_of_accepted {context : AuthContext σ} {credentials : JsonValue}
    (h : keyCount credentials = 0 ∨ isValidCredentials (credentialFields credentials) = true) :
    ∃ provider, updateAuthPipeline context credentials = .ok { context with provider } := by
  unfold updateAuthPipeline
  by_cases hempty : keyCount credentials = 0
  · rw [if_pos hempty]
    exact ⟨context.provider, rfl⟩
  · rw [if_neg hempty]
    unfold AuthProvider.setManualCredentials
    rw [if_pos (h.resolve_left hempty)]
    exact ⟨_, rfl⟩

theorem updateAuthPipeline_of_not_accepted {context : AuthContext σ} {credentials : JsonValue}
    (h : ¬ (keyCount credentials = 0 ∨
      isValidCredentials (credentialFields credentials) = true)) :
    updateAuthPipeline context credentials = .error (.message (js "Invalid credentials")) := by
  rw [not_or] at h
  unfold updateAuthPipeline
  rw [if_neg h.1]
  unfold AuthProvider.setManualCredentials
  rw [if_neg h.2]

-- What an attempt leaves in the shared state when it is turned away: the user name of
-- the message, and nothing else of it.
structure TurnedAway (credentials : JsonValue) (state state' : AdapterSharedState σ) : Prop where
  shellStream : state'.shellStream = state.shellStream
  storedPassword : state'.storedPassword = state.storedPassword
  targetHost : state'.targetHost = state.targetHost
  targetPort : state'.targetPort = state.targetPort
  username : state'.username = property "username" (some credentials)

-- What it leaves there when it goes on.
structure Admitted (config : LoginConfig) (credentials : JsonValue) (given : CredentialFields)
    (state state' : AdapterSharedState σ) : Prop where
  shellStream : state'.shellStream = state.shellStream
  storedPassword : state'.storedPassword =
    if config.allowReplay then (getNonEmptyString given.password).or state.storedPassword
    else state.storedPassword
  targetHost : state'.targetHost = nullish given.host (property "host" (some credentials))
  targetPort : state'.targetPort = nullish given.port (property "port" (some credentials))
  username : state'.username = nullish given.username (property "username" (some credentials))

theorem storePasswordIfEnabled_storedPassword (config : LoginConfig)
    (state : AdapterSharedState σ) (given : CredentialFields) :
    (storePasswordIfEnabled config state given).storedPassword =
      if config.allowReplay then (getNonEmptyString given.password).or state.storedPassword
      else state.storedPassword := by
  unfold storePasswordIfEnabled
  cases getNonEmptyString given.password <;> cases config.allowReplay <;> rfl

theorem storePasswordIfEnabled_shellStream (config : LoginConfig)
    (state : AdapterSharedState σ) (given : CredentialFields) :
    (storePasswordIfEnabled config state given).shellStream = state.shellStream := by
  unfold storePasswordIfEnabled
  cases getNonEmptyString given.password <;> cases config.allowReplay <;> rfl

theorem enforceAuthMethodPolicy_cases (config : LoginConfig) (state : AdapterSharedState σ)
    (given : CredentialFields) :
    (passesPolicy config state given = true ∧
      ∃ asked, enforceAuthMethodPolicy config state given = .ok asked) ∨
    (passesPolicy config state given = false ∧
      ∃ method, enforceAuthMethodPolicy config state given = .error method) := by
  unfold passesPolicy
  cases hpolicy : enforceAuthMethodPolicy config state given with
  | ok asked =>
    obtain ⟨rfl, hallowed⟩ := evaluateAuthMethodPolicy_ok_iff.mp hpolicy
    exact .inl ⟨by simpa using hallowed, _, rfl⟩
  | error method =>
    refine .inr ⟨?_, method, rfl⟩
    rw [Bool.eq_false_iff]
    intro hall
    have hok := evaluateAuthMethodPolicy_ok_iff.mpr ⟨rfl, by simpa using hall⟩
    rw [show enforceAuthMethodPolicy config state given = _ from hok] at hpolicy
    cases hpolicy

-- One attempt, up to the authentication service.
theorem handleAuthentication_cases (config : LoginConfig) (protocol : Protocol)
    (session : Option AuthSession) (context : AuthContext σ) (credentials : JsonValue) :
    (admitted config protocol session context credentials = none ∧
      TurnedAway credentials context.state
        (handleAuthentication config protocol session context credentials).1.state ∧
      ∀ creds, (handleAuthentication config protocol session context credentials).2 ≠
        .attempted creds) ∨
    ∃ given, admitted config protocol session context credentials = some given ∧
      Admitted config credentials given context.state
        (handleAuthentication config protocol session context credentials).1.state ∧
      ∃ state : AdapterSharedState σ,
        (handleAuthentication config protocol session context credentials).2 =
          .attempted (buildAuthCredentials state given credentials).2 := by
  unfold admitted handleAuthentication startAuthentication prepareAuthCredentials
  by_cases haccepted : keyCount credentials = 0 ∨
      isValidCredentials (credentialFields credentials) = true
  · rw [if_pos haccepted]
    obtain ⟨provider, hupdate⟩ :=
      @updateAuthPipeline_of_accepted _ (initializeAuthAttempt context credentials) credentials
        haccepted
    have hgiven : provider.getCredentials session =
        submitted session context.provider credentials :=
      updateAuthPipeline_getCredentials hupdate session
    rw [hupdate]
    dsimp only
    rw [hgiven]
    cases submitted session context.provider credentials with
    | none => exact .inl ⟨rfl, ⟨rfl, rfl, rfl, rfl, rfl⟩, fun creds h => by cases h⟩
    | some given =>
      have hadmitted : Admitted config credentials given context.state
          (buildAuthCredentials (storePasswordIfEnabled config (storeTerminalSettings
            (initializeAuthAttempt context credentials).state credentials) given) given
            credentials).1 := {
        shellStream := storePasswordIfEnabled_shellStream ..
        storedPassword := storePasswordIfEnabled_storedPassword ..
        targetHost := rfl
        targetPort := rfl
        username := rfl }
      cases protocol with
      | telnet => exact .inr ⟨given, rfl, hadmitted, _, rfl⟩
      | ssh =>
        have hpolicy : passesPolicy config (initializeAuthAttempt context credentials).state
            given = passesPolicy config context.state given := rfl
        rcases enforceAuthMethodPolicy_cases config
          (initializeAuthAttempt context credentials).state given with
          ⟨hpasses, asked, hok⟩ | ⟨hpasses, method, herror⟩
        · rw [hpolicy] at hpasses
          dsimp only
          rw [hok]
          exact .inr ⟨given, by simp [Option.filter, hpasses], hadmitted, _, rfl⟩
        · rw [hpolicy] at hpasses
          dsimp only
          rw [herror]
          exact .inl ⟨by simp [Option.filter, hpasses], ⟨rfl, rfl, rfl, rfl, rfl⟩,
            fun creds h => by cases h⟩
  · rw [if_neg haccepted, updateAuthPipeline_of_not_accepted haccepted]
    exact .inl ⟨rfl, ⟨rfl, rfl, rfl, rfl, rfl⟩, fun creds h => by cases h⟩

end Attempt

-- A shell stream, marked with the login of the connection that it was opened on.
structure LiveShell where
  login : CredentialFields
deriving DecidableEq

-- An attempt that waits for the authentication service or, once it has a session,
-- for the server.
structure PendingAttempt where
  credentials : CredentialFields
  sessionId : Option SessionId

-- One socket: what its handlers share, the calls that have not been answered, and
-- with what each connection was authenticated. What was replayed is on record.
structure LiveSocket where
  context : AuthContext LiveShell
  session : Option AuthSession
  attempts : List PendingAttempt
  connections : OrderedMap ConnectionId CredentialFields
  shellCalls : List CredentialFields
  replayed : List (LiveShell × JsString)

inductive SocketEvent where
  | authenticate (message : JsValue)
  | promptAnswered (responses : JsValue)
  | authenticated (attempt : Nat) (result : Option SessionId)
  | connected (attempt : Nat) (result : Except JsString ConnectionId)
  | terminal
  | shellOpened (call : Nat) (opened : Bool)
  | control (message : JsValue)
  | disconnect (ends : Bool)

section Steps

variable (runtime : Runtime) (config : LoginConfig) (options : ControlOptions)
  (protocol : Protocol)

def attempt (socket : LiveSocket) (request : AuthRequest) : LiveSocket :=
  let (context, outcome) := serveRequest config protocol socket.session socket.context request
  match outcome with
  | .attempted credentials =>
    { socket with
      context
      attempts := socket.attempts ++ [{ credentials, sessionId := none }] }
  | _ => { socket with context }

def authenticated (socket : LiveSocket) (attempt : Nat) (result : Option SessionId) :
    LiveSocket :=
  match socket.attempts[attempt]? with
  | some { credentials, sessionId := none } =>
    match result with
    | some sessionId =>
      { socket with
        attempts := socket.attempts.set attempt { credentials, sessionId := some sessionId } }
    | none => { socket with attempts := socket.attempts.eraseIdx attempt }
  | _ => socket

def connected (socket : LiveSocket) (attempt : Nat) (result : Except JsString ConnectionId) :
    LiveSocket :=
  match socket.attempts[attempt]? with
  | some { credentials, sessionId := some sessionId } =>
    match result with
    | .ok connectionId =>
      { socket with
        context := { socket.context with
          state := finalizeAuthentication socket.context.state credentials sessionId
            connectionId }
        session := clearAuthFailed socket.session
        attempts := socket.attempts.eraseIdx attempt
        connections := socket.connections.set connectionId credentials }
    | .error message =>
      { socket with
        session :=
          match protocol with
          | .ssh => emitConnectionError runtime message socket.session
          | .telnet => socket.session
        attempts := socket.attempts.eraseIdx attempt }
  | _ => socket

-- `handleTerminal` up to the shell call: nothing else of it concerns the login.
def requestTerminal (socket : LiveSocket) : LiveSocket :=
  match socket.context.state.sessionId, socket.context.state.connectionId with
  | some _, some connectionId =>
    match socket.connections.get connectionId with
    | some login => { socket with shellCalls := socket.shellCalls ++ [login] }
    | none => socket
  | _, _ => socket

-- The rest of it, which sets the stream whatever became of the connection meanwhile.
def setupShellDataFlow (socket : LiveSocket) (call : Nat) (opened : Bool) : LiveSocket :=
  match socket.shellCalls[call]? with
  | some login =>
    let shellCalls := socket.shellCalls.eraseIdx call
    if opened then
      { socket with
        context := { socket.context with
          state := { socket.context.state with shellStream := some { login } } }
        shellCalls }
    else
      { socket with shellCalls }
  | none => socket

def control (socket : LiveSocket) (message : JsValue) : LiveSocket :=
  match handleControl config options socket.context.state message with
  | .written shell text => { socket with replayed := socket.replayed ++ [(shell, text)] }
  | _ => socket

-- `end()` ends the connection or throws; where it throws, the connection stays in the pool.
def disconnect (socket : LiveSocket) (ends : Bool) : LiveSocket :=
  { socket with
    context := { socket.context with state := handleDisconnect socket.context.state }
    connections :=
      match socket.context.state.connectionId with
      | some connectionId =>
        if ends then socket.connections.delete connectionId else socket.connections
      | none => socket.connections }

def step (socket : LiveSocket) : SocketEvent → LiveSocket
  | .authenticate message =>
    attempt config protocol socket (authRequest runtime config protocol message)
  | .promptAnswered responses =>
    attempt config protocol socket (responseRequest runtime config responses)
  | .authenticated index result => authenticated socket index result
  | .connected index result => connected runtime protocol socket index result
  | .terminal => requestTerminal socket
  | .shellOpened call opened => setupShellDataFlow socket call opened
  | .control message => control config options socket message
  | .disconnect ends => disconnect socket ends

end Steps

-- A new socket with the session of its handshake, after the check for a login that
-- the session already holds.
def openSocket (config : LoginConfig) (protocol : Protocol) (session : Option AuthSession)
    (details : ClientDetails) : LiveSocket :=
  let fresh : AuthContext LiveShell := {
    state := createAdapterSharedState LiveShell details
    provider := .detect session }
  let (context, initial) := checkInitialAuth config protocol session fresh
  {
    context, session
    attempts :=
      match initial with
      | .attempt (.attempted credentials) => [{ credentials, sessionId := none }]
      | _ => []
    connections := .empty
    shellCalls := []
    replayed := [] }

-- The shared state names the login of the shell.
structure BelongsTo (state : AdapterSharedState LiveShell) (login : CredentialFields) :
    Prop where
  username : state.username = login.username
  targetHost : state.targetHost = login.host
  targetPort : state.targetPort = login.port
  storedPassword : ∀ password, state.storedPassword = some password →
    login.password = some (.string password)

-- What holds of a socket whose identity is that of the live connection, and what was
-- written into its shells.
structure IdentityKept (options : ControlOptions) (socket : LiveSocket) : Prop where
  shell : ∀ shell, socket.context.state.shellStream = some shell →
    BelongsTo socket.context.state shell.login
  replayed : ∀ entry ∈ socket.replayed, ∃ password,
    entry.1.login.password = some (.string password) ∧
      entry.2 = password ++ lineEnding options

section Conditions

variable (runtime : Runtime) (config : LoginConfig) (protocol : Protocol)

-- An attempt writes no other name, place or password than those of the login. One
-- that is turned away writes the name only.
def WritesOnly (session : Option AuthSession) (context : AuthContext LiveShell)
    (credentials : JsonValue) (login : CredentialFields) : Prop :=
  match admitted config protocol session context credentials with
  | none => property "username" (some credentials) = login.username
  | some given =>
    nullish given.username (property "username" (some credentials)) = login.username ∧
      nullish given.host (property "host" (some credentials)) = login.host ∧
      nullish given.port (property "port" (some credentials)) = login.port ∧
      (config.allowReplay = true → ∀ password,
        getNonEmptyString given.password = some password →
          login.password = some (.string password))

def RequestKeeps (socket : LiveSocket) : AuthRequest → Prop
  | .credentials answered credentials =>
    ∀ shell, socket.context.state.shellStream = some shell →
      WritesOnly config protocol socket.session (announce answered socket.context) credentials
        shell.login
  | _ => True

-- The condition on a step. While a shell is open, attempts are about its login and so
-- is what connects; and a shell that opens finds its own login in the shared state.
def KeepsIdentity (socket : LiveSocket) : SocketEvent → Prop
  | .authenticate message =>
    RequestKeeps config protocol socket (authRequest runtime config protocol message)
  | .promptAnswered responses =>
    RequestKeeps config protocol socket (responseRequest runtime config responses)
  | .connected index (.ok _) =>
    ∀ pending shell, socket.attempts[index]? = some pending → pending.sessionId ≠ none →
      socket.context.state.shellStream = some shell →
        pending.credentials.username = shell.login.username
  | .shellOpened call true =>
    ∀ login, socket.shellCalls[call]? = some login → BelongsTo socket.context.state login
  | _ => True

end Conditions

section Runs

variable {runtime : Runtime} {config : LoginConfig} {options : ControlOptions}
  {protocol : Protocol} {socket : LiveSocket}

variable {credentials : JsonValue}

theorem belongsTo_admitted_iff {given login : CredentialFields}
    {state state' : AdapterSharedState LiveShell} (hbefore : BelongsTo state login)
    (h : Admitted config credentials given state state') :
    BelongsTo state' login ↔
      nullish given.username (property "username" (some credentials)) = login.username ∧
        nullish given.host (property "host" (some credentials)) = login.host ∧
        nullish given.port (property "port" (some credentials)) = login.port ∧
        (config.allowReplay = true → ∀ password,
          getNonEmptyString given.password = some password →
            login.password = some (.string password)) := by
  have hstored := h.storedPassword
  constructor
  · intro hafter
    refine ⟨h.username ▸ hafter.username, h.targetHost ▸ hafter.targetHost,
      h.targetPort ▸ hafter.targetPort, fun hreplay password hpassword => ?_⟩
    rw [if_pos hreplay, hpassword] at hstored
    exact hafter.storedPassword password hstored
  · rintro ⟨husername, hhost, hport, hpassword⟩
    refine ⟨h.username.trans husername, h.targetHost.trans hhost, h.targetPort.trans hport, ?_⟩
    intro password hkept
    rw [hstored] at hkept
    by_cases hreplay : config.allowReplay = true
    · rw [if_pos hreplay] at hkept
      cases hgiven : getNonEmptyString given.password with
      | some new =>
        rw [hgiven] at hkept
        cases hkept
        exact hpassword hreplay password hgiven
      | none =>
        rw [hgiven] at hkept
        exact hbefore.storedPassword password hkept
    · rw [if_neg hreplay] at hkept
      exact hbefore.storedPassword password hkept

variable {login : CredentialFields}

theorem belongsTo_turnedAway_iff {state state' : AdapterSharedState LiveShell}
    (hbefore : BelongsTo state login) (h : TurnedAway credentials state state') :
    BelongsTo state' login ↔ property "username" (some credentials) = login.username := by
  constructor
  · intro hafter
    rw [← h.username]
    exact hafter.username
  · intro husername
    exact {
      username := h.username.trans husername
      targetHost := h.targetHost.trans hbefore.targetHost
      targetPort := h.targetPort.trans hbefore.targetPort
      storedPassword := by
        rw [h.storedPassword]
        exact hbefore.storedPassword }

theorem belongsTo_attempt_iff {session : Option AuthSession} {context : AuthContext LiveShell}
    (hbefore : BelongsTo context.state login) :
    BelongsTo (handleAuthentication config protocol session context credentials).1.state login ↔
      WritesOnly config protocol session context credentials login := by
  unfold WritesOnly
  rcases handleAuthentication_cases config protocol session context credentials with
    ⟨hnone, hturned, -⟩ | ⟨given, hgiven, hadmitted, -⟩
  · rw [hnone]
    exact belongsTo_turnedAway_iff hbefore hturned
  · rw [hgiven]
    exact belongsTo_admitted_iff hbefore hadmitted

theorem handleAuthentication_shellStream (session : Option AuthSession)
    (context : AuthContext LiveShell) (credentials : JsonValue) :
    (handleAuthentication config protocol session context credentials).1.state.shellStream =
      context.state.shellStream := by
  rcases handleAuthentication_cases config protocol session context credentials with
    ⟨-, hturned, -⟩ | ⟨given, -, hadmitted, -⟩
  · exact hturned.shellStream
  · exact hadmitted.shellStream

theorem attempt_context (socket : LiveSocket) (request : AuthRequest) :
    (attempt config protocol socket request).context =
      (serveRequest config protocol socket.session socket.context request).1 := by
  unfold attempt
  rcases serveRequest config protocol socket.session socket.context request with ⟨context, outcome⟩
  cases outcome <;> rfl

theorem attempt_replayed (socket : LiveSocket) (request : AuthRequest) :
    (attempt config protocol socket request).replayed = socket.replayed := by
  unfold attempt
  rcases serveRequest config protocol socket.session socket.context request with ⟨context, outcome⟩
  cases outcome <;> rfl

theorem announce_shellStream (answered : Bool) (context : AuthContext LiveShell) :
    (announce answered context).state.shellStream = context.state.shellStream := by
  cases answered <;> rfl

theorem belongsTo_announce {answered : Bool} {context : AuthContext LiveShell}
    (h : BelongsTo context.state login) : BelongsTo (announce answered context).state login := by
  cases answered
  · exact h
  · exact ⟨h.username, h.targetHost, h.targetPort, h.storedPassword⟩

theorem attempt_kept_iff (h : IdentityKept options socket) (request : AuthRequest) :
    IdentityKept options (attempt config protocol socket request) ↔
      RequestKeeps config protocol socket request := by
  cases request with
  | thrown | ignored | refused failure => exact ⟨fun _ => trivial, fun _ => ⟨h.shell, h.replayed⟩⟩
  | credentials answered credentials =>
    have hstream := (@handleAuthentication_shellStream config protocol socket.session
      (announce answered socket.context) credentials).trans
        (announce_shellStream answered socket.context)
    have hcontext := @attempt_context config protocol socket (.credentials answered credentials)
    change _ = (handleAuthentication config protocol socket.session
      (announce answered socket.context) credentials).1 at hcontext
    constructor
    · intro hkept shell hshell
      refine (belongsTo_attempt_iff (belongsTo_announce (h.shell shell hshell))).mp ?_
      rw [← hcontext]
      refine hkept.shell shell ?_
      rw [hcontext, hstream, hshell]
    · intro hkeeps
      refine ⟨?_, by rw [attempt_replayed]; exact h.replayed⟩
      intro shell hshell
      rw [hcontext] at hshell ⊢
      rw [hstream] at hshell
      exact (belongsTo_attempt_iff (belongsTo_announce (h.shell shell hshell))).mpr
        (hkeeps shell hshell)

-- Nothing that leaves the shared state and the record alone matters.
theorem kept_of_same {socket' : LiveSocket} (h : IdentityKept options socket)
    (hcontext : socket'.context = socket.context) (hreplayed : socket'.replayed = socket.replayed) :
    IdentityKept options socket' := by
  refine ⟨?_, ?_⟩
  · rw [hcontext]
    exact h.shell
  · rw [hreplayed]
    exact h.replayed

theorem authenticated_kept (h : IdentityKept options socket) (index : Nat)
    (result : Option SessionId) : IdentityKept options (authenticated socket index result) := by
  unfold authenticated
  split
  · split
    · exact kept_of_same h rfl rfl
    · exact kept_of_same h rfl rfl
  · exact h

theorem connected_kept_iff (h : IdentityKept options socket) (index : Nat)
    (result : Except JsString ConnectionId) :
    IdentityKept options (connected runtime protocol socket index result) ↔
      KeepsIdentity runtime config protocol socket (.connected index result) := by
  cases result with
  | error message =>
    refine ⟨fun _ => trivial, fun _ => ?_⟩
    unfold connected
    split
    · exact kept_of_same h rfl rfl
    · exact h
  | ok connectionId =>
    unfold connected KeepsIdentity
    split
    · rename_i credentials sessionId hpending
      constructor
      · intro hkept pending shell hattempt _ hshell
        rw [hpending] at hattempt
        cases hattempt
        exact (hkept.shell shell hshell).username
      · intro hsame
        refine ⟨?_, h.replayed⟩
        intro shell hshell
        have hbefore := h.shell shell hshell
        have husername := hsame _ shell hpending (by simp) hshell
        exact ⟨husername, hbefore.targetHost, hbefore.targetPort, hbefore.storedPassword⟩
    · rename_i hother
      refine ⟨fun _ pending shell hattempt hsession _ => ?_, fun _ => h⟩
      obtain ⟨sessionId, hsession⟩ := Option.ne_none_iff_exists'.mp hsession
      refine absurd ?_ (hother pending.credentials sessionId)
      rw [← hsession]
      exact hattempt

theorem requestTerminal_kept (h : IdentityKept options socket) :
    IdentityKept options (requestTerminal socket) := by
  unfold requestTerminal
  split
  · split
    · exact kept_of_same h rfl rfl
    · exact h
  · exact h

theorem setupShellDataFlow_kept_iff (h : IdentityKept options socket) (call : Nat)
    (opened : Bool) :
    IdentityKept options (setupShellDataFlow socket call opened) ↔
      KeepsIdentity runtime config protocol socket (.shellOpened call opened) := by
  unfold setupShellDataFlow
  cases opened with
  | false =>
    refine ⟨fun _ => trivial, fun _ => ?_⟩
    split
    · exact kept_of_same h rfl rfl
    · exact h
  | true =>
    unfold KeepsIdentity
    split
    · rename_i login hcall
      constructor
      · intro hkept login' hlogin
        rw [hcall] at hlogin
        cases hlogin
        have hafter := hkept.shell { login } rfl
        exact ⟨hafter.username, hafter.targetHost, hafter.targetPort, hafter.storedPassword⟩
      · intro hown
        refine ⟨?_, h.replayed⟩
        intro shell hshell
        cases hshell
        have hbefore := hown login hcall
        exact ⟨hbefore.username, hbefore.targetHost, hbefore.targetPort, hbefore.storedPassword⟩
    · rename_i hnone
      refine ⟨fun _ login hlogin => ?_, fun _ => h⟩
      rw [hnone] at hlogin
      cases hlogin

theorem handleControl_written {message : JsValue} {shell : LiveShell} {text : JsString}
    {state : AdapterSharedState LiveShell}
    (h : handleControl config options state message = .written shell text) :
    ∃ password, state.storedPassword = some password ∧ state.shellStream = some shell ∧
      text = password ++ lineEnding options := by
  unfold handleControl handleReplayCredentials handleReauth at h
  split at h
  · split at h
    · cases hstored : state.storedPassword with
      | none =>
        rw [hstored] at h
        cases h
      | some password =>
        cases hshell : state.shellStream with
        | none =>
          rw [hstored, hshell] at h
          cases h
        | some current =>
          rw [hstored, hshell] at h
          cases h
          exact ⟨password, rfl, rfl, rfl⟩
    · cases h
  · split at h
    · split at h
      · cases h
      · cases h
    · cases h

-- What is replayed into a shell is its own password, as long as the identity is kept.
theorem control_kept (h : IdentityKept options socket) (message : JsValue) :
    IdentityKept options (control config options socket message) := by
  unfold control
  split
  · rename_i shell text hwritten
    obtain ⟨password, hstored, hshell, htext⟩ := handleControl_written hwritten
    refine ⟨h.shell, ?_⟩
    intro entry hentry
    rcases List.mem_append.mp hentry with hold | hnew
    · exact h.replayed entry hold
    · rw [List.mem_singleton.mp hnew]
      exact ⟨password, (h.shell shell hshell).storedPassword password hstored, htext⟩
  · exact h

theorem disconnect_kept (h : IdentityKept options socket) (ends : Bool) :
    IdentityKept options (disconnect socket ends) := by
  refine ⟨?_, h.replayed⟩
  intro shell hshell
  cases hshell

theorem step_kept_iff (h : IdentityKept options socket) (event : SocketEvent) :
    IdentityKept options (step runtime config options protocol socket event) ↔
      KeepsIdentity runtime config protocol socket event := by
  cases event with
  | authenticate | promptAnswered => exact attempt_kept_iff h _
  | authenticated index result =>
    exact ⟨fun _ => trivial, fun _ => authenticated_kept h index result⟩
  | connected index result => exact connected_kept_iff h index result
  | terminal => exact ⟨fun _ => trivial, fun _ => requestTerminal_kept h⟩
  | shellOpened call opened => exact setupShellDataFlow_kept_iff h call opened
  | control message => exact ⟨fun _ => trivial, fun _ => control_kept h message⟩
  | disconnect ends => exact ⟨fun _ => trivial, fun _ => disconnect_kept h ends⟩

theorem checkInitialAuth_shellStream (session : Option AuthSession)
    (context : AuthContext LiveShell) :
    (checkInitialAuth config protocol session context).1.state.shellStream =
      context.state.shellStream := by
  unfold checkInitialAuth
  dsimp only
  split
  · split
    · exact handleAuthentication_shellStream session _ _
    · rfl
  · split
    · rfl
    · rfl
    · rfl

theorem openSocket_kept (session : Option AuthSession) (details : ClientDetails) :
    IdentityKept options (openSocket config protocol session details) := by
  have hstream := @checkInitialAuth_shellStream config protocol session
    { state := createAdapterSharedState LiveShell details, provider := .detect session }
  refine ⟨fun shell hshell => ?_, fun entry hentry => ?_⟩
  · have hnone : some shell = none := hshell.symm.trans hstream
    cases hnone
  · exact (List.not_mem_nil hentry).elim

-- The identity is that of the live connection in all of a run exactly when every step
-- of the run keeps it.
theorem identity_kept_iff (runtime : Runtime) (config : LoginConfig) (options : ControlOptions)
    (protocol : Protocol) (session : Option AuthSession) (details : ClientDetails)
    (events : List SocketEvent) :
    Throughout (step runtime config options protocol) (IdentityKept options)
        (openSocket config protocol session details) events ↔
      Along (step runtime config options protocol) (KeepsIdentity runtime config protocol)
        (openSocket config protocol session details) events :=
  @throughout_iff_along _ _ (step runtime config options protocol) (fun _ => True)
    (IdentityKept options) (KeepsIdentity runtime config protocol) (fun _ _ _ => trivial)
    (fun _ event _ h => step_kept_iff h event) _ trivial (openSocket_kept session details) events

def otherHostMessage : JsonValue :=
  .object [(js "username", .string (js "root")), (js "host", .string (js "two.example")),
    (js "port", .number (.ofInt 22)), (js "password", .string (js "beta"))]

def replayConfig : LoginConfig := { loginConfig [.password] with allowReplay := true }

def replayOptions : ControlOptions where
  allowReauth := true
  replayCRLF := false

-- A shell on one host is open when a login on another host is tried and fails; then
-- the password for the other host is replayed into the shell.
def failedReauthentication : List SocketEvent :=
  [.authenticate (some (passwordMessage (js "alpha"))), .authenticated 0 (some (js "s")),
    .connected 0 (.ok (js "c")), .terminal, .shellOpened 0 true,
    .authenticate (some otherHostMessage), .authenticated 0 (some (js "t")),
    .connected 0 (.error (js "All configured authentication methods failed")),
    .control (some (.string (js "replayCredentials")))]

theorem failed_reauthentication_not_kept :
    let socket := run (step asciiRuntime replayConfig replayOptions .ssh)
      (openSocket replayConfig .ssh none {}) failedReauthentication
    let shell : LiveShell := { login := passwordFields (js "alpha") }
    socket.context.state.shellStream = some shell ∧
      socket.context.state.targetHost = some (.string (js "two.example")) ∧
      socket.replayed = [(shell, js "beta" ++ [10])] ∧
      ¬ Throughout (step asciiRuntime replayConfig replayOptions .ssh)
        (IdentityKept replayOptions) (openSocket replayConfig .ssh none {})
        failedReauthentication := by
  have hreplayed : (run (step asciiRuntime replayConfig replayOptions .ssh)
      (openSocket replayConfig .ssh none {}) failedReauthentication).replayed =
        [({ login := passwordFields (js "alpha") }, js "beta" ++ [10])] := by decide
  refine ⟨by decide, by decide, hreplayed, fun hthroughout => ?_⟩
  have hlast := throughout_last _ hthroughout
  obtain ⟨password, hpassword, htext⟩ := hlast.replayed _ (by
    rw [hreplayed]
    exact List.mem_singleton_self _)
  cases hpassword
  revert htext
  decide

end Runs

end WebSsh2.Socket

import WebSsh2.Socket.Authentication

namespace WebSsh2.Http

open WebSsh2.Library WebSsh2.Auth WebSsh2.Socket

abbrev Fields := List (JsString × JsonValue)

def fieldOf (key : String) (fields : Fields) : JsValue :=
  Json.lookup (js key) fields

structure UserConfig where
  name : Option JsString := none
  password : Option JsString := none
  privateKey : Option JsString := none
  passphrase : Option JsString := none

-- The part of the configuration that the routes read.
structure HttpConfig extends LoginConfig where
  user : UserConfig
  ssoEnabled : Bool
  csrfProtection : Bool
  telnetEnabled : Bool

structure HttpError where
  code : Nat
  message : JsString
deriving DecidableEq

section BasicAuth

-- What the header `authorization` is decoded to.
structure BasicAuthCredentials where
  name : Option JsString
  pass : Option JsString

-- Credentials without a target.
structure RouteCredentials where
  username : JsString
  password : Option JsString := none
  privateKey : Option JsString := none
  passphrase : Option JsString := none

inductive CredentialSource where
  | config | basicAuth

structure AuthResult where
  credentials : RouteCredentials
  usedBasicAuth : Bool
  source : CredentialSource

def filledText (text : Option JsString) : Option JsString :=
  text.filter (· ≠ [])

def hasConfigCredentials (user : UserConfig) : Bool :=
  (filledText user.name).isSome &&
    ((filledText user.password).isSome || (filledText user.privateKey).isSome)

def extractConfigCredentials (user : UserConfig) : Option RouteCredentials :=
  if hasConfigCredentials user then
    some {
      username := user.name.getD []
      password := filledText user.password
      privateKey := filledText user.privateKey
      passphrase := filledText user.passphrase }
  else
    none

-- `escape` is the escaping of HTML that the validator library has.
def processBasicAuthCredentials (escape : JsString → JsString)
    (credentials : BasicAuthCredentials) : RouteCredentials where
  username := escape (credentials.name.getD [])
  password := some (credentials.pass.getD [])

def processAuthentication (escape : JsString → JsString) (user : UserConfig)
    (basicAuth : Option BasicAuthCredentials) : Except HttpError AuthResult :=
  match basicAuth with
  | some credentials => .ok {
      credentials := processBasicAuthCredentials escape credentials
      usedBasicAuth := true
      source := .basicAuth }
  | none =>
    match extractConfigCredentials user with
    | some credentials => .ok { credentials, usedBasicAuth := true, source := .config }
    | none => .error { code := 401, message := js "Authentication required" }

-- `Object.assign(session, createSessionData(result, config))`
def createSessionData (result : AuthResult) (config : HttpConfig) (session : AuthSession) :
    AuthSession :=
  { session with
    sshCredentials := some {
      username := result.credentials.username
      host := config.host
      port := some config.port
      password := filledText result.credentials.password
      privateKey := filledText result.credentials.privateKey
      passphrase := filledText result.credentials.passphrase }
    usedBasicAuth := some result.usedBasicAuth }

def authMiddleware (escape : JsString → JsString) (config : HttpConfig)
    (basicAuth : Option BasicAuthCredentials) (session : AuthSession) :
    Except HttpError AuthSession :=
  match processAuthentication escape config.user basicAuth with
  | .error error => .error error
  | .ok result =>
    if session.authFailed = some true then
      .ok { session with
        authFailed := none
        usedBasicAuth := some false
        sshCredentials := none }
    else
      .ok (createSessionData result config session)

end BasicAuth

section Targets

-- A port as a request gives it.
inductive PortParam where
  | number (value : Number)
  | text (value : JsString)

structure ConnectionParams where
  host : JsString
  port : Number
  term : Option JsString
deriving DecidableEq

def validateConnectionParameters (host : Option JsString) (port : Option PortParam)
    (term : Option JsString) (config : HttpConfig) : Except JsString ConnectionParams :=
  match filledText (host.or config.host) with
  | none => .error (js "Missing required field: host")
  | some host =>
    match port with
    | some (.number port) => .ok { host, port, term }
    | some (.text text) =>
      let port := parseInt text
      if port = .nan || port.le (.ofInt 0) || Number.lt (.ofInt 65535) port then
        .error (js "Invalid port: " ++ text)
      else
        .ok { host, port, term }
    | none => .ok { host, port := config.port, term }

-- The query of a GET route with the host of its path.
def getConnectionParams (query : Fields) (hostOverride : Option JsString) (config : HttpConfig) :
    Except JsString ConnectionParams :=
  validateConnectionParameters (filledText hostOverride)
    ((getNonEmptyString (fieldOf "port" query)).map .text)
    (getNonEmptyString (fieldOf "sshterm" query)) config

def firstDefinedString (candidates : List JsValue) : Option JsString :=
  candidates.findSome? getNonEmptyString

def firstDefinedPortCandidate (candidates : List JsValue) : Option PortParam :=
  candidates.findSome? fun candidate =>
    match candidate with
    | some (.number value) => some (.number value)
    | some (.string text) => if text = [] then none else some (.text text)
    | _ => none

def postConnectionParams (body query : Fields) (config : HttpConfig) :
    Except JsString ConnectionParams :=
  validateConnectionParameters
    (firstDefinedString [fieldOf "host" body, fieldOf "host" query, fieldOf "hostname" query])
    (firstDefinedPortCandidate [fieldOf "port" body, fieldOf "port" query])
    (firstDefinedString [fieldOf "sshterm" body, fieldOf "sshterm" query]) config

end Targets

section Pages

inductive ConnectionMode where
  | full | hostLocked
deriving DecidableEq

-- The target that a page shows for the credentials of its session.
structure PageTarget where
  host : Option JsString
  port : Option Number
  term : Option JsString
deriving DecidableEq

-- The settings that a page is served with, as far as they say what it connects to.
structure Page where
  protocol : Protocol
  autoConnect : Bool
  connectionMode : Option ConnectionMode := none
  lockedHost : Option JsString := none
  lockedPort : Option Number := none
  ssh : Option PageTarget := none
deriving DecidableEq

structure ConnectionOptions where
  protocol : Protocol := .ssh
  connectionMode : Option ConnectionMode := none
  lockedHost : Option JsString := none
  lockedPort : Option Number := none

inductive Reply where
  | page (page : Page)
  | message (code : Nat) (text : JsString)
  | methodDisabled (method : AuthMethodToken)
  | redirect (path : JsString)
  | notFound
deriving DecidableEq

variable (session : AuthSession)

def hasSessionCredentials : Bool :=
  session.sshCredentials ≠ none &&
    (session.usedBasicAuth = some true || session.authMethod = some postMethod)

-- What JSON makes of a number.
def jsonNumber : Number → Option Number
  | .finite value => some (.finite value)
  | _ => none

def buildSshCredentials : Option PageTarget :=
  if hasSessionCredentials session then
    session.sshCredentials.map fun credentials => {
      host := credentials.host
      port := credentials.port.bind jsonNumber
      term := filledText credentials.term }
  else
    none

-- `underHost` says that the path starts with `/host/`.
def handleConnection (underHost : Bool) (options : ConnectionOptions) : Reply :=
  let ssh := buildSshCredentials session
  .page {
    protocol := options.protocol
    autoConnect := underHost || ssh.isSome
    connectionMode := options.connectionMode
    lockedHost := options.lockedHost
    lockedPort := options.lockedPort.bind jsonNumber
    ssh }

end Pages

section SshRoutes

-- The texts of the credentials of a session, unless one that is needed is missing.
def validateSshRouteCredentials (credentials : Option SshCredentials) :
    Except JsString SshCredentials :=
  match credentials with
  | none => .error (js "Missing SSH credentials in session")
  | some credentials =>
    if credentials.username = [] then
      .error (js "Invalid or missing username")
    else if filledText credentials.password = none ∧
        filledText credentials.privateKey = none then
      .error (js "Either password or private key required")
    else
      .ok credentials

def routePolicy (config : HttpConfig) (password privateKey : Option JsString) :
    Except AuthMethodToken (List AuthMethodToken) :=
  evaluateAuthMethodPolicy config.allowedAuthMethods {
    password := password.map Json.string
    privateKey := privateKey.map Json.string
    requestedKeyboardInteractive := false }

def updateSessionCredentials (session : AuthSession) (connection : ConnectionParams) :
    AuthSession :=
  { session with
    sshCredentials := session.sshCredentials.map fun existing => { existing with
      host := some connection.host
      port := some connection.port
      term := connection.term.or existing.term } }

def handleSshGetRoute (config : HttpConfig) (query : Fields) (hostOverride : Option JsString)
    (session : AuthSession) : AuthSession × Reply :=
  match validateSshRouteCredentials session.sshCredentials with
  | .error message => (session, .message 401 message)
  | .ok credentials =>
    match routePolicy config credentials.password credentials.privateKey with
    | .error method => (session, .methodDisabled method)
    | .ok _ =>
      match getConnectionParams query hostOverride config with
      | .error message => (session, .message 400 message)
      | .ok connection =>
        let session := updateSessionCredentials session connection
        let options : ConnectionOptions :=
          if (filledText hostOverride).isSome then
            { connectionMode := some .hostLocked
              lockedHost := some connection.host
              lockedPort := some connection.port }
          else
            { connectionMode := some .full }
        (session, handleConnection session true options)

-- `Object.assign(session, createAuthSessionUpdates(credentials, connection))`
def createAuthSessionUpdates (username password : JsString) (connection : ConnectionParams)
    (session : AuthSession) : AuthSession :=
  { session with
    sshCredentials := some {
      username
      host := some connection.host
      port := some connection.port
      password := some password
      term := connection.term }
    authMethod := some postMethod }

def processPostAuthRequest (body query : Fields) (config : HttpConfig) :
    Except JsString (JsString × JsString × ConnectionParams) :=
  match getNonEmptyString (fieldOf "username" body), getNonEmptyString (fieldOf "password" body)
  with
  | some username, some password =>
    match postConnectionParams body query config with
    | .error message => .error message
    | .ok connection => .ok (username, password, connection)
  | _, _ => .error (js "Missing required fields: username and password")

-- The body with the host of the path, where the body has none of its own.
def bodyWithHost (body : Fields) (hostOverride : Option JsString) : Fields :=
  match hostOverride with
  | some host =>
    if present (fieldOf "host" body) then body
    else OrderedMap.setEntries (js "host") (.string host) body
  | none => body

def handlePostAuthRoute (config : HttpConfig) (body query : Fields)
    (hostOverride : Option JsString) (session : AuthSession) : AuthSession × Reply :=
  match processPostAuthRequest (bodyWithHost body hostOverride) query config with
  | .error message => (session, .message 400 message)
  | .ok (username, password, connection) =>
    match routePolicy config (some password) none with
    | .error method => (session, .methodDisabled method)
    | .ok _ =>
      let session := createAuthSessionUpdates username password connection session
      (session, handleConnection session hostOverride.isSome {})

end SshRoutes

section Reauthentication

variable (session : AuthSession)

-- The names of the fields that a session has.
def sessionKeys : List JsString :=
  (if session.sshCredentials = none then [] else [js "sshCredentials"]) ++
    (if session.usedBasicAuth = none then [] else [js "usedBasicAuth"]) ++
    (if session.authMethod = none then [] else [js "authMethod"]) ++
    (if session.authFailed = none then [] else [js "authFailed"])

def standardKeys : List JsString :=
  [js "sshCredentials", js "privateKey", js "passphrase", js "username", js "userpassword",
    js "sshhost", js "sshport", js "sshterm"]

def processReauthRequest : List JsString × JsString :=
  let authRelatedKeys := (sessionKeys session).filter fun key =>
    let lower := asciiRuntime.toLowerCase key
    includes (js "auth") lower || includes (js "ssh") lower
  ((standardKeys ++ authRelatedKeys).eraseDups, js "/ssh")

def deleteProperty (key : JsString) : AuthSession :=
  if key = js "sshCredentials" then { session with sshCredentials := none }
  else if key = js "usedBasicAuth" then { session with usedBasicAuth := none }
  else if key = js "authMethod" then { session with authMethod := none }
  else if key = js "authFailed" then { session with authFailed := none }
  else session

def handleForceReconnect : AuthSession × Reply :=
  (deleteProperty session (js "sshCredentials"), .message 401 (js "Authentication required."))

def handleReauth : AuthSession × Reply :=
  let (keysToRemove, redirectPath) := processReauthRequest session
  (keysToRemove.foldl deleteProperty session, .redirect redirectPath)

def handleClearCredentials : AuthSession × Reply :=
  (session, .message 200 (js "Credentials cleared."))

end Reauthentication

section Requests

-- A POST may be to a path with a host or without. `unrelated` is every path at which
-- neither credentials nor pages are served.
inductive Route where
  | root
  | host (host : Option JsString)
  | post (host : Option JsString)
  | clearCredentials
  | forceReconnect
  | reauth
  | telnetRoot
  | telnetHost (host : JsString)
  | telnetPost (host : Option JsString)
  | unrelated
deriving DecidableEq

-- `ssoHeaders` says that a proxy sent a user name and a password, and `csrfValid` that
-- the request passes the check of its token. A body that is no object has no fields.
structure HttpRequest where
  route : Route
  basicAuth : Option BasicAuthCredentials := none
  query : Fields := []
  body : Fields := []
  ssoHeaders : Bool := false
  csrfValid : Bool := true

def Route.isPost : Route → Bool
  | .post _ | .telnetPost _ => true
  | _ => false

def hasCredentialsInBody (body : Fields) : Bool :=
  (getNonEmptyString (fieldOf "username" body)).isSome &&
    (getNonEmptyString (fieldOf "password" body)).isSome

def shouldApplyDefaults (config : HttpConfig) : Bool :=
  config.ssoEnabled && (filledText config.user.name).isSome &&
    (filledText config.user.password).isSome

def fillField (key : String) (value : Option JsString) (body : Fields) : Fields :=
  if (getNonEmptyString (fieldOf key body)).isSome then body
  else OrderedMap.setEntries (js key) ((value.map Json.string).getD .null) body

def applyDefaultCredentials (config : HttpConfig) (body : Fields) : Fields :=
  fillField "password" config.user.password (fillField "username" config.user.name body)

-- The body that the middleware for single sign-on hands on.
def ssoBody (config : HttpConfig) (request : HttpRequest) : Fields :=
  if request.ssoHeaders || hasCredentialsInBody request.body then request.body
  else if shouldApplyDefaults config then applyDefaultCredentials config request.body
  else request.body

def telnetDefaultPort : Number := .ofInt 23

-- `Number(query.port)`, where it is finite.
def telnetPort (runtime : Runtime) (query : Fields) : Number :=
  match getNonEmptyString (fieldOf "port" query) with
  | some text => (jsonNumber (runtime.stringToNumber text)).getD telnetDefaultPort
  | none => telnetDefaultPort

def csrfRefuses (config : HttpConfig) (request : HttpRequest) : Bool :=
  config.ssoEnabled && config.csrfProtection && request.route.isPost && !request.csrfValid

theorem csrfRefuses_of_not_post (config : HttpConfig) {request : HttpRequest}
    (h : request.route.isPost = false) : csrfRefuses config request = false := by
  simp [csrfRefuses, h]

-- One request on its copy of the session.
def serve (runtime : Runtime) (escape : JsString → JsString) (config : HttpConfig)
    (request : HttpRequest) (session : AuthSession) : AuthSession × Reply :=
  if csrfRefuses config request then
    (session, .message 403 (js "CSRF token validation failed"))
  else
    match request.route with
    | .root => (session, handleConnection session false {})
    | .host host =>
      match authMiddleware escape config request.basicAuth session with
      | .error error => (session, .message error.code error.message)
      | .ok session => handleSshGetRoute config request.query host session
    | .post host =>
      handlePostAuthRoute config (ssoBody config request) request.query host session
    | .clearCredentials => handleClearCredentials session
    | .forceReconnect => handleForceReconnect session
    | .reauth => handleReauth session
    | .telnetRoot =>
      if config.telnetEnabled then
        (session, handleConnection session false {
          protocol := .telnet
          connectionMode := some .full })
      else (session, .notFound)
    | .telnetHost host =>
      if config.telnetEnabled then
        (session, handleConnection session true {
          protocol := .telnet
          connectionMode := some .hostLocked
          lockedHost := some host
          lockedPort := some (telnetPort runtime request.query) })
      else (session, .notFound)
    | .telnetPost host =>
      if config.telnetEnabled then
        (session, handleConnection session host.isSome {
          protocol := .telnet
          connectionMode := some (if host.isSome then .hostLocked else .full)
          lockedHost := host })
      else (session, .notFound)
    | .unrelated => (session, .notFound)

-- The store keeps a session as JSON.
def storedSession (session : AuthSession) : AuthSession :=
  { session with
    sshCredentials := session.sshCredentials.map fun credentials => { credentials with
      port := credentials.port.bind jsonNumber } }

end Requests

section Sequence

-- A session in the store, and the copies that its sockets took when they were opened.
structure SessionState where
  store : AuthSession
  sockets : List AuthSession

inductive SessionEvent where
  | request (request : HttpRequest)
  | handshake
  | connectionError (socket : Nat) (message : JsString)
  | loginSucceeded (socket : Nat)

variable (runtime : Runtime) (escape : JsString → JsString) (config : HttpConfig)

-- Requests follow each other; each works on a copy and writes it back. A socket works
-- on its own copy only.
def sequenceStep (state : SessionState) : SessionEvent → SessionState
  | .request request =>
    { state with store := storedSession (serve runtime escape config request state.store).1 }
  | .handshake => { state with sockets := state.sockets ++ [state.store] }
  | .connectionError socket message =>
    { state with sockets := state.sockets.modify socket fun session =>
        (emitConnectionError runtime message (some session)).getD session }
  | .loginSucceeded socket =>
    { state with sockets := state.sockets.modify socket fun session =>
        (clearAuthFailed (some session)).getD session }

end Sequence

section Samples

def sampleConfig : HttpConfig where
  host := none
  port := .ofInt 22
  allowedAuthMethods := [.password]
  alwaysSendKeyboardInteractivePrompts := false
  allowReplay := false
  readyTimeout := .ofInt 20000
  keepaliveInterval := .ofInt 120000
  keepaliveCountMax := .ofInt 10
  algorithms := noAlgorithms
  user := {}
  ssoEnabled := false
  csrfProtection := false
  telnetEnabled := true

def samplePost (host : String) : HttpRequest where
  route := .post (some (js host))
  body := [(js "username", .string (js "ann")), (js "password", .string (js "secret"))]

end Samples

end WebSsh2.Http

import WebSsh2.Values

namespace WebSsh2.Auth

open WebSsh2.Library

-- The credentials that the HTTP routes keep in a session. Host and port may be
-- `null`: the configuration may name no host, and a session is stored as JSON, which
-- has no infinite numbers.
structure SshCredentials where
  username : JsString
  host : Option JsString
  port : Option Number
  password : Option JsString := none
  privateKey : Option JsString := none
  passphrase : Option JsString := none
  term : Option JsString := none
deriving DecidableEq

-- The fields of a session that the login reads and writes.
structure AuthSession where
  sshCredentials : Option SshCredentials := none
  usedBasicAuth : Option Bool := none
  authMethod : Option JsString := none
  authFailed : Option Bool := none
deriving DecidableEq

-- Credentials as they come in: every field may be missing or of any type.
structure CredentialFields where
  username : JsValue := none
  host : JsValue := none
  port : JsValue := none
  password : JsValue := none
  privateKey : JsValue := none
  passphrase : JsValue := none
  term : JsValue := none
  cols : JsValue := none
  rows : JsValue := none
deriving DecidableEq

namespace CredentialFields

-- The fields that are there, as the object that is passed on.
def object (fields : CredentialFields) : JsonValue :=
  .object ([("username", fields.username), ("host", fields.host), ("port", fields.port),
    ("password", fields.password), ("privateKey", fields.privateKey),
    ("passphrase", fields.passphrase), ("term", fields.term), ("cols", fields.cols),
    ("rows", fields.rows)].filterMap fun (name, value) => value.map fun value => (js name, value))

end CredentialFields

-- What is left of them once they were checked.
structure AuthCredentials where
  username : JsString
  host : JsString
  port : Number
  password : Option JsString := none
  privateKey : Option JsString := none
  passphrase : Option JsString := none
  term : Option JsString := none
  cols : Option Number := none
  rows : Option Number := none
deriving DecidableEq

structure CredentialError where
  message : JsString
  field : Option JsString
deriving DecidableEq

def textOf : JsValue → Option JsString
  | some (.string text) => some text
  | _ => none

def numberOf : JsValue → Option Number
  | some (.number number) => some number
  | _ => none

def getNonEmptyString (value : JsValue) : Option JsString :=
  (textOf value).filter (· ≠ [])

namespace SshCredentials

-- The stored object, field by field.
def fields (credentials : SshCredentials) : CredentialFields where
  username := some (.string credentials.username)
  host := some ((credentials.host.map Json.string).getD .null)
  port := some ((credentials.port.map Json.number).getD .null)
  password := credentials.password.map Json.string
  privateKey := credentials.privateKey.map Json.string
  passphrase := credentials.passphrase.map Json.string
  term := credentials.term.map Json.string

end SshCredentials

namespace AuthCredentials

def fields (credentials : AuthCredentials) : CredentialFields where
  username := some (.string credentials.username)
  host := some (.string credentials.host)
  port := some (.number credentials.port)
  password := credentials.password.map Json.string
  privateKey := credentials.privateKey.map Json.string
  passphrase := credentials.passphrase.map Json.string
  term := credentials.term.map Json.string
  cols := credentials.cols.map Json.number
  rows := credentials.rows.map Json.number

end AuthCredentials

variable (raw : CredentialFields)

def validateRequiredFields : Except CredentialError (JsString × JsString × Number) :=
  let port := nullish raw.port (some (.number (.ofInt 22)))
  let port :=
    match port with
    | some (.string text) => some (.number (parseInt text))
    | _ => port
  match getNonEmptyString raw.username with
  | none => .error {
      message := js "Username is required and must be a non-empty string"
      field := some (js "username") }
  | some username =>
    match getNonEmptyString raw.host with
    | none => .error {
        message := js "Host is required and must be a non-empty string"
        field := some (js "host") }
    | some host =>
      match numberOf port with
      | some number =>
        if number = .nan || number.le (.ofInt 0) || Number.lt (.ofInt 65535) number then
          .error {
            message := js "Port must be a number between 1 and 65535"
            field := some (js "port") }
        else
          .ok (username, host, number)
      | none => .error {
          message := js "Port must be a number between 1 and 65535"
          field := some (js "port") }

def extractAuthCredentials : Except CredentialError AuthCredentials :=
  match validateRequiredFields raw with
  | .error error => .error error
  | .ok (username, host, port) =>
    let password := getNonEmptyString raw.password
    let privateKey := getNonEmptyString raw.privateKey
    if password = none ∧ privateKey = none then
      .error {
        message := js "Either password or privateKey is required for authentication"
        field := none }
    else
      let positive (value : JsValue) := (numberOf value).filter fun number =>
        Number.lt (.ofInt 0) number
      .ok {
        username, host, port, password, privateKey
        passphrase := if privateKey = none then none else getNonEmptyString raw.passphrase
        term := getNonEmptyString raw.term
        cols := positive raw.cols
        rows := positive raw.rows }

def convertToAuthCredentials : Option AuthCredentials :=
  (extractAuthCredentials raw).toOption

-- A provider stands for its class; only the manual one holds data.
inductive AuthProvider where
  | manual (credentials : Option CredentialFields)
  | basicAuth
  | post
deriving DecidableEq

def postMethod : JsString := js "POST"

def isValidCredentials (creds : CredentialFields) : Bool :=
  (textOf creds.username).isSome && (textOf creds.host).isSome && (numberOf creds.port).isSome &&
    ((textOf creds.password).isSome || (textOf creds.privateKey).isSome) &&
    (creds.passphrase = none || (textOf creds.passphrase).isSome)

namespace AuthProvider

variable (session : Option AuthSession)

-- The provider that a request with this session starts with.
def detect : AuthProvider :=
  match session with
  | none => .manual none
  | some session =>
    if session.authFailed = some true then
      .manual none
    else if session.usedBasicAuth = some true ∧ session.sshCredentials ≠ none then
      .basicAuth
    else if session.authMethod = some postMethod ∧ session.sshCredentials ≠ none then
      .post
    else
      .manual none

theorem detect_of_none {session : AuthSession} (h : session.sshCredentials = none) :
    detect (some session) = .manual none := by
  simp [detect, h]

-- Credentials that belong to a way of logging in are found by that way's provider.
theorem detect_of_owned {session : AuthSession} (hflag : session.authFailed ≠ some true)
    (hstored : session.sshCredentials ≠ none)
    (howned : session.usedBasicAuth = some true ∨ session.authMethod = some postMethod) :
    session.usedBasicAuth = some true ∧ detect (some session) = .basicAuth ∨
      session.authMethod = some postMethod ∧ detect (some session) = .post := by
  unfold detect
  dsimp only
  rw [if_neg hflag]
  by_cases hbasic : session.usedBasicAuth = some true
  · rw [if_pos ⟨hbasic, hstored⟩]
    exact .inl ⟨hbasic, rfl⟩
  · have hpost := howned.resolve_left hbasic
    rw [if_neg fun hboth => hbasic hboth.1, if_pos ⟨hpost, hstored⟩]
    exact .inr ⟨hpost, rfl⟩

-- The session is read again at each call.
def getCredentials : AuthProvider → Option CredentialFields
  | .manual credentials => credentials
  | .basicAuth => do
    let session ← session
    if session.usedBasicAuth = some true then
      let stored ← session.sshCredentials
      (convertToAuthCredentials stored.fields).map AuthCredentials.fields
    else
      none
  | .post => do
    let session ← session
    if session.authMethod = some postMethod then
      let stored ← session.sshCredentials
      (convertToAuthCredentials stored.fields).map AuthCredentials.fields
    else
      none

def isAuthenticated : AuthProvider → Bool
  | .manual credentials => credentials.any isValidCredentials
  | .basicAuth => session.any fun session =>
    session.usedBasicAuth = some true && session.sshCredentials ≠ none
  | .post => session.any fun session =>
    session.authMethod = some postMethod && session.sshCredentials ≠ none

def getAuthMethod : AuthProvider → JsString
  | .manual _ => js "manual"
  | .basicAuth => js "basicAuth"
  | .post => js "post"

-- The provider after `setManualCredentials`, if the credentials are accepted.
def setManualCredentials (creds : CredentialFields) : Option AuthProvider :=
  if isValidCredentials creds then some (.manual (some creds)) else none

end AuthProvider

end WebSsh2.Auth

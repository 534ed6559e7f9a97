import WebSsh2.Http.EntryPaths
import WebSsh2.Socket.Identity

namespace WebSsh2.Http

open WebSsh2.Library WebSsh2.State WebSsh2.Auth WebSsh2.Socket

section GivenPorts

-- `!(port <= 0 || port > 65535)`
def inBounds (port : Number) : Bool :=
  !(port.le (.ofInt 0) || Number.lt (.ofInt 65535) port)

-- A port as it is given, with what is done to it.
inductive GivenPort where
  | absent
  | refused
  | unchecked (port : Number)
  | bounded (port : Number)
  | parsed (text : JsString)
  | converted (text : JsString)

namespace GivenPort

-- The port that is taken, with the one that stands in where there is none.
def taken (runtime : Runtime) (standard : Number) : GivenPort → Option Number
  | absent => some standard
  | refused => none
  | unchecked port => some port
  | bounded port => if inBounds port then some port else none
  | parsed text => if portInRange (parseInt text) then some (parseInt text) else none
  | converted text => some ((jsonNumber (runtime.stringToNumber text)).getD standard)

-- The text that it is read from.
def text (runtime : Runtime) : GivenPort → Option JsString
  | parsed text => some text
  | converted text => if (jsonNumber (runtime.stringToNumber text)).isSome then some text else none
  | _ => none

end GivenPort

def IsPort (port : Number) : Prop :=
  ∃ value : Nat, 0 < value ∧ value ≤ 65535 ∧ port = .ofInt value

def IsNumeral (text : JsString) : Prop :=
  text ≠ [] ∧ ∀ unit ∈ text, isDigit unit = true

-- The port is one, and where it is read from a text it is what the whole text says.
structure SoundPort (runtime : Runtime) (given : GivenPort) (port : Number) : Prop where
  isPort : IsPort port
  whole : ∀ text, given.text runtime = some text →
    IsNumeral text ∧ port = .ofInt (digitsValue text)

-- What has to be given for that, as far as it is not refused.
def GivenPort.Whole (runtime : Runtime) : GivenPort → Prop
  | absent | refused => True
  | unchecked port => IsPort port
  | bounded port => inBounds port = true → IsPort port
  | parsed text => portInRange (parseInt text) = true → IsNumeral text
  | converted text => (jsonNumber (runtime.stringToNumber text)).isSome = true →
      IsNumeral text ∧ 0 < digitsValue text ∧ digitsValue text ≤ 65535

-- `Number(text)` reads the digits of a port.
def ReadsPorts (runtime : Runtime) : Prop :=
  ∀ text, IsNumeral text → digitsValue text ≤ 65535 →
    runtime.stringToNumber text = .ofInt (digitsValue text)

end GivenPorts

section Taking

variable {runtime : Runtime}

theorem isPort_ofInt_iff (value : Int) : IsPort (.ofInt value) ↔ 0 < value ∧ value ≤ 65535 := by
  constructor
  · rintro ⟨port, hpos, hle, heq⟩
    rw [Number.ofInt_inj] at heq
    omega
  · intro h
    exact ⟨value.toNat, by omega, by omega, by rw [Int.toNat_of_nonneg (by omega)]⟩

theorem portInRange_ofInt_iff (value : Int) :
    portInRange (.ofInt value) = true ↔ 0 < value ∧ value ≤ 65535 := by
  have hnan : Number.ofInt value ≠ .nan := by
    unfold Number.ofInt
    exact fun h => by cases h
  unfold portInRange
  rw [Number.ofInt_le, Number.ofInt_lt]
  simp only [hnan, decide_false, Bool.false_or, Bool.not_eq_true', Bool.or_eq_false_iff,
    decide_eq_false_iff_not]
  omega

-- A number that is read from digits within the bounds is a port.
theorem isPort_parseInt {text : JsString} (h : portInRange (parseInt text) = true) :
    IsPort (parseInt text) := by
  rcases parseInt_cases text with hnan | ⟨value, hvalue⟩
  · rw [hnan] at h
    cases h
  · rw [hvalue] at h ⊢
    exact (isPort_ofInt_iff value).mpr ((portInRange_ofInt_iff value).mp h)

theorem jsonNumber_eq_some {port number : Number} (h : jsonNumber port = some number) :
    port = number := by
  unfold jsonNumber at h
  split at h
  · exact Option.some.inj h
  · cases h

-- What is taken is sound exactly when what is given is whole.
theorem soundPort_iff (hreads : ReadsPorts runtime) {standard : Number}
    (hstandard : IsPort standard) (given : GivenPort) :
    (∀ port, given.taken runtime standard = some port → SoundPort runtime given port) ↔
      given.Whole runtime := by
  cases given with
  | absent =>
    refine ⟨fun _ => trivial, fun _ port hport => ?_⟩
    rw [← Option.some.inj hport]
    exact ⟨hstandard, fun text htext => by cases htext⟩
  | refused =>
    refine ⟨fun _ => trivial, fun _ port hport => ?_⟩
    cases hport
  | unchecked number =>
    constructor
    · intro h
      exact (h number rfl).isPort
    · intro h port hport
      rw [← Option.some.inj hport]
      exact ⟨h, fun text htext => by cases htext⟩
  | bounded number =>
    constructor
    · intro h hbounds
      exact (h number (if_pos hbounds)).isPort
    · intro h port hport
      obtain ⟨hbounds, hsame⟩ := Option.ite_none_right_eq_some.mp hport
      rw [← Option.some.inj hsame]
      exact ⟨h hbounds, fun text htext => by cases htext⟩
  | parsed digits =>
    constructor
    · intro h hrange
      exact ((h (parseInt digits) (if_pos hrange)).whole digits rfl).1
    · intro h port hport
      obtain ⟨hrange, hsame⟩ := Option.ite_none_right_eq_some.mp hport
      have hnumeral := h hrange
      rw [← Option.some.inj hsame]
      refine ⟨isPort_parseInt hrange, fun text htext => ?_⟩
      rw [← Option.some.inj htext]
      exact ⟨hnumeral, parseInt_digits hnumeral.1 hnumeral.2⟩
  | converted digits =>
    constructor
    · intro h hfinite
      obtain ⟨number, hnumber⟩ := Option.isSome_iff_exists.mp hfinite
      have htaken : (GivenPort.converted digits).taken runtime standard = some number := by
        rw [GivenPort.taken, hnumber]
        rfl
      have hsound := h number htaken
      obtain ⟨hnumeral, hvalue⟩ := hsound.whole digits (if_pos hfinite)
      have hport := hsound.isPort
      rw [hvalue, isPort_ofInt_iff] at hport
      exact ⟨hnumeral, by omega, by omega⟩
    · intro h port hport
      rw [← Option.some.inj hport]
      cases hnumber : jsonNumber (runtime.stringToNumber digits) with
      | none =>
        refine ⟨hstandard, fun text htext => ?_⟩
        rw [GivenPort.text, hnumber] at htext
        cases htext
      | some number =>
        obtain ⟨hnumeral, hpos, hle⟩ := h (by rw [hnumber]; rfl)
        have hvalue : number = .ofInt (digitsValue digits) := by
          rw [← jsonNumber_eq_some hnumber]
          exact hreads digits hnumeral hle
        refine ⟨⟨digitsValue digits, hpos, hle, hvalue⟩, fun text htext => ?_⟩
        obtain ⟨_, hsame⟩ := Option.ite_none_right_eq_some.mp htext
        rw [← Option.some.inj hsame]
        exact ⟨hnumeral, hvalue⟩

end Taking

section Entries

-- The ways by which a port comes in: a request, credentials of a session, and a login on
-- a socket, be it by a message or with the credentials of its session.
inductive Entry where
  | http (request : HttpRequest) (session : AuthSession)
  | stored (raw : CredentialFields)
  | login (protocol : Protocol) (session : Option AuthSession) (context : AuthContext Unit)
      (credentials : JsonValue)

variable (runtime : Runtime) (escape : JsString → JsString) (config : HttpConfig)

-- The routes for SSH store their target in the session.
def storedPort : Route → AuthSession → Option Number
  | .host _, session | .post _, session => session.sshCredentials.bind SshCredentials.port
  | _, _ => none

def servedPorts (route : Route) : AuthSession × Reply → List Number
  | (updated, .page page) => page.lockedPort.toList ++ (storedPort route updated).toList
  | _ => []

def givenParam : Option PortParam → GivenPort
  | none => .absent
  | some (.number port) => .unchecked port
  | some (.text text) => .parsed text

-- The port that a request gives.
def requestGiven (request : HttpRequest) : GivenPort :=
  match request.route with
  | .host _ => givenParam ((getNonEmptyString (fieldOf "port" request.query)).map .text)
  | .post _ =>
    givenParam
      (firstDefinedPortCandidate [fieldOf "port" request.body, fieldOf "port" request.query])
  | .telnetHost _ =>
    match getNonEmptyString (fieldOf "port" request.query) with
    | some text => .converted text
    | none => .absent
  | _ => .absent

def requestStandard : Route → Number
  | .telnetHost _ => telnetDefaultPort
  | _ => config.port

def rawGiven (raw : CredentialFields) : GivenPort :=
  match raw.port with
  | none | some .null => .absent
  | some (.number number) => if number = .nan then .refused else .bounded number
  | some (.string text) => .parsed text
  | some _ => .refused

-- What a login takes its fields from, once the pipeline has the credentials.
def loginTaken (given : CredentialFields) (credentials : JsonValue) : CredentialFields where
  username := nullish given.username (property "username" (some credentials))
  host := nullish given.host (property "host" (some credentials))
  port := nullish given.port (property "port" (some credentials))
  password := given.password
  privateKey := given.privateKey
  passphrase := given.passphrase

def givenNumber : JsValue → GivenPort
  | some (.number number) => .bounded number
  | _ => .refused

def loginGiven (session : Option AuthSession) (context : AuthContext Unit)
    (credentials : JsonValue) : GivenPort :=
  match submitted session context.provider credentials with
  | none => .refused
  | some given => givenNumber (loginTaken given credentials).port

-- The checks of the GET routes besides that of the port.
def getAdmitted (host : Option JsString) (session : AuthSession) : Bool :=
  match validateSshRouteCredentials session.sshCredentials with
  | .error _ => false
  | .ok credentials =>
    (routePolicy config credentials.password credentials.privateKey).toBool &&
      (filledText ((filledText host).or config.host)).isSome

def postAdmitted (body query : Fields) : Bool :=
  match getNonEmptyString (fieldOf "username" body), getNonEmptyString (fieldOf "password" body)
  with
  | some _, some password =>
    (routePolicy config (some password) none).toBool &&
      (filledText ((firstDefinedString [fieldOf "host" body, fieldOf "host" query,
        fieldOf "hostname" query]).or config.host)).isSome
  | _, _ => false

def requestAdmitted (request : HttpRequest) (session : AuthSession) : Bool :=
  match request.route with
  | .host host =>
    match authMiddleware escape config request.basicAuth session with
    | .error _ => false
    | .ok updated => getAdmitted config host updated
  | .post host =>
    !csrfRefuses config request &&
      postAdmitted config (bodyWithHost (ssoBody config request) host) request.query
  | .telnetHost _ => config.telnetEnabled
  | _ => false

def hasSecret (password privateKey : JsValue) : Bool :=
  (getNonEmptyString password).isSome || (getNonEmptyString privateKey).isSome

def rawAdmitted (raw : CredentialFields) : Bool :=
  (getNonEmptyString raw.username).isSome && (getNonEmptyString raw.host).isSome &&
    hasSecret raw.password raw.privateKey

def loginAdmitted (protocol : Protocol) (session : Option AuthSession)
    (context : AuthContext Unit) (credentials : JsonValue) : Bool :=
  match admitted config.toLoginConfig protocol session context credentials with
  | none => false
  | some given => rawAdmitted (loginTaken given credentials)

namespace Entry

-- The ports that are stored, announced or connected to where the entry is accepted.
def carried : Entry → List Number
  | http request session =>
    servedPorts request.route (serve runtime escape config request session)
  | stored raw =>
    match extractAuthCredentials raw with
    | .ok credentials => [credentials.port]
    | .error _ => []
  | login protocol session context credentials =>
    match (handleAuthentication config.toLoginConfig protocol session context credentials).2 with
    | .attempted creds =>
      if performAuthentication creds = none then (numberOf creds.port).toList else []
    | _ => []

def given : Entry → GivenPort
  | http request _ => requestGiven request
  | stored raw => rawGiven raw
  | login _ session context credentials => loginGiven session context credentials

-- The port that stands in for one that is not given.
def standard : Entry → Number
  | http request _ => requestStandard config request.route
  | stored _ => .ofInt 22
  | login _ _ _ _ => config.port

-- The checks besides that of the port.
def admitted : Entry → Bool
  | http request session => requestAdmitted escape config request session
  | stored raw => rawAdmitted raw
  | login protocol session context credentials =>
    loginAdmitted config protocol session context credentials

end Entry

-- Every port that an accepted entry leads to is sound.
def PortsSound (entry : Entry) : Prop :=
  ∀ port ∈ entry.carried runtime escape config, SoundPort runtime entry.given port

end Entries

section Routes

variable {runtime : Runtime} {escape : JsString → JsString} {config : HttpConfig}

theorem validateConnectionParameters_port (host : Option JsString) (param : Option PortParam)
    (term : Option JsString) (port : Number) :
    (∃ connection, validateConnectionParameters host param term config = .ok connection ∧
        connection.port = port) ↔
      (filledText (host.or config.host)).isSome = true ∧
        (givenParam param).taken runtime config.port = some port := by
  unfold validateConnectionParameters
  cases hhost : filledText (host.or config.host) with
  | none =>
    constructor
    · rintro ⟨connection, h, _⟩
      cases h
    · rintro ⟨h, _⟩
      cases h
  | some name =>
    dsimp only
    cases param with
    | none => simp [givenParam, GivenPort.taken]
    | some param =>
      cases param with
      | number number => simp [givenParam, GivenPort.taken]
      | text text =>
        have hrange : (parseInt text = .nan || (parseInt text).le (.ofInt 0) ||
            Number.lt (.ofInt 65535) (parseInt text)) = !portInRange (parseInt text) := by
          rw [portInRange, Bool.not_not]
        dsimp only
        rw [hrange]
        cases hin : portInRange (parseInt text) with
        | true => simp [givenParam, GivenPort.taken, hin]
        | false => simp [givenParam, GivenPort.taken, hin]

theorem mem_jsonNumber_append {port other : Number} (locked : Bool) :
    port ∈ ((if locked then some other else none).bind jsonNumber).toList ++ [other] ↔
      other = port := by
  rw [List.mem_append, List.mem_singleton]
  constructor
  · rintro (hlocked | hsame)
    · cases locked with
      | false => cases hlocked
      | true =>
        rw [Option.mem_toList] at hlocked
        exact jsonNumber_eq_some hlocked
    · exact hsame.symm
  · exact fun hsame => .inr hsame.symm

theorem toBool_ok {ε α : Type} {result : Except ε α} {value : α} (h : result = .ok value) :
    result.toBool = true := by
  rw [h]
  rfl

theorem toBool_error {ε α : Type} {result : Except ε α} {error : ε} (h : result = .error error) :
    result.toBool = false := by
  rw [h]
  rfl

theorem validateSshRouteCredentials_some {stored : Option SshCredentials}
    {credentials : SshCredentials} (h : validateSshRouteCredentials stored = .ok credentials) :
    stored = some credentials := by
  unfold validateSshRouteCredentials at h
  split at h
  · cases h
  · split at h
    · cases h
    · split at h
      · cases h
      · rw [Except.ok.inj h]

-- A page that is locked to its host announces the port that is stored.
theorem mem_servedPorts_updated {session : AuthSession} {stored : SshCredentials}
    (hstored : session.sshCredentials = some stored) (host : Option JsString)
    (connection : ConnectionParams) (port : Number) :
    port ∈ servedPorts (.host host) (updateSessionCredentials session connection,
        handleConnection (updateSessionCredentials session connection) true
          (if (filledText host).isSome then
            { connectionMode := some .hostLocked
              lockedHost := some connection.host
              lockedPort := some connection.port }
          else { connectionMode := some .full })) ↔
      connection.port = port := by
  rw [← mem_jsonNumber_append (filledText host).isSome]
  unfold servedPorts handleConnection storedPort updateSessionCredentials
  rw [hstored]
  cases (filledText host).isSome with
  | true => rfl
  | false => rfl

theorem getAdmitted_iff (host : Option JsString) (session : AuthSession) :
    getAdmitted config host session = true ↔
      ∃ credentials, validateSshRouteCredentials session.sshCredentials = .ok credentials ∧
        (routePolicy config credentials.password credentials.privateKey).toBool = true ∧
        (filledText ((filledText host).or config.host)).isSome = true := by
  unfold getAdmitted
  cases validateSshRouteCredentials session.sshCredentials with
  | error message => simp
  | ok credentials => simp

theorem mem_servedPorts_get (query : Fields) (host : Option JsString) (session : AuthSession)
    (port : Number) :
    port ∈ servedPorts (.host host) (handleSshGetRoute config query host session) ↔
      getAdmitted config host session = true ∧
        (givenParam ((getNonEmptyString (fieldOf "port" query)).map .text)).taken runtime
          config.port = some port := by
  rw [getAdmitted_iff]
  have hparams := @validateConnectionParameters_port runtime config (filledText host)
    ((getNonEmptyString (fieldOf "port" query)).map .text)
    (getNonEmptyString (fieldOf "sshterm" query)) port
  unfold handleSshGetRoute
  cases hcredentials : validateSshRouteCredentials session.sshCredentials with
  | error message =>
    constructor
    · intro h
      cases h
    · rintro ⟨⟨credentials, h, _⟩, _⟩
      cases h
  | ok credentials =>
    dsimp only
    cases hpolicy : routePolicy config credentials.password credentials.privateKey with
    | error method =>
      constructor
      · intro h
        cases h
      · rintro ⟨⟨other, hother, hallowed, _⟩, _⟩
        cases hother
        rw [toBool_error hpolicy] at hallowed
        cases hallowed
    | ok methods =>
      dsimp only
      have hgiven : (∃ other, (.ok credentials : Except JsString SshCredentials) = .ok other ∧
          (routePolicy config other.password other.privateKey).toBool = true ∧
          (filledText ((filledText host).or config.host)).isSome = true) ↔
            (filledText ((filledText host).or config.host)).isSome = true := by
        constructor
        · rintro ⟨other, _, _, hhost⟩
          exact hhost
        · intro hhost
          exact ⟨credentials, rfl, toBool_ok hpolicy, hhost⟩
      rw [hgiven, ← hparams]
      unfold getConnectionParams
      cases hconnection : validateConnectionParameters (filledText host)
          ((getNonEmptyString (fieldOf "port" query)).map .text)
          (getNonEmptyString (fieldOf "sshterm" query)) config with
      | error message =>
        constructor
        · intro h
          cases h
        · rintro ⟨connection, h, _⟩
          cases h
      | ok connection =>
        dsimp only
        rw [mem_servedPorts_updated (validateSshRouteCredentials_some hcredentials)]
        constructor
        · intro hsame
          exact ⟨connection, rfl, hsame⟩
        · rintro ⟨other, hother, hsame⟩
          rw [Except.ok.inj hother]
          exact hsame

theorem fieldOf_fillField_other {key other : String} (hne : js key ≠ js other)
    (value : Option JsString) (body : Fields) :
    fieldOf other (fillField key value body) = fieldOf other body := by
  unfold fillField
  split
  · rfl
  · rw [fieldOf_setEntries, if_neg hne]

-- What is filled into a body on its way leaves the port as it was sent.
theorem fieldOf_port_body (request : HttpRequest) (host : Option JsString) :
    fieldOf "port" (bodyWithHost (ssoBody config request) host) = fieldOf "port" request.body := by
  have hsso : fieldOf "port" (ssoBody config request) = fieldOf "port" request.body := by
    unfold ssoBody
    split
    · rfl
    · split
      · unfold applyDefaultCredentials
        rw [fieldOf_fillField_other (by decide), fieldOf_fillField_other (by decide)]
      · rfl
  rw [← hsso]
  unfold bodyWithHost
  split
  · split
    · rfl
    · rw [fieldOf_setEntries, if_neg (by decide)]
  · rfl

theorem postAdmitted_iff (body query : Fields) :
    postAdmitted config body query = true ↔
      ∃ username password, getNonEmptyString (fieldOf "username" body) = some username ∧
        getNonEmptyString (fieldOf "password" body) = some password ∧
        (routePolicy config (some password) none).toBool = true ∧
        (filledText ((firstDefinedString [fieldOf "host" body, fieldOf "host" query,
          fieldOf "hostname" query]).or config.host)).isSome = true := by
  unfold postAdmitted
  cases getNonEmptyString (fieldOf "username" body) with
  | none => simp
  | some username =>
    cases getNonEmptyString (fieldOf "password" body) with
    | none => simp
    | some password => simp

theorem mem_servedPorts_post (body query : Fields) (host : Option JsString)
    (session : AuthSession) (port : Number) :
    port ∈ servedPorts (.post host) (handlePostAuthRoute config body query host session) ↔
      postAdmitted config (bodyWithHost body host) query = true ∧
        (givenParam (firstDefinedPortCandidate [fieldOf "port" (bodyWithHost body host),
          fieldOf "port" query])).taken runtime config.port = some port := by
  rw [postAdmitted_iff]
  unfold handlePostAuthRoute
  generalize bodyWithHost body host = full
  have hparams := @validateConnectionParameters_port runtime config
    (firstDefinedString [fieldOf "host" full, fieldOf "host" query, fieldOf "hostname" query])
    (firstDefinedPortCandidate [fieldOf "port" full, fieldOf "port" query])
    (firstDefinedString [fieldOf "sshterm" full, fieldOf "sshterm" query]) port
  unfold processPostAuthRequest
  cases husername : getNonEmptyString (fieldOf "username" full) with
  | none =>
    constructor
    · intro h
      cases h
    · rintro ⟨⟨username, password, h, _⟩, _⟩
      cases h
  | some username =>
    cases hpassword : getNonEmptyString (fieldOf "password" full) with
    | none =>
      constructor
      · intro h
        cases h
      · rintro ⟨⟨_, password, _, h, _⟩, _⟩
        cases h
    | some password =>
      dsimp only
      unfold postConnectionParams
      cases hconnection : validateConnectionParameters
          (firstDefinedString
            [fieldOf "host" full, fieldOf "host" query, fieldOf "hostname" query])
          (firstDefinedPortCandidate [fieldOf "port" full, fieldOf "port" query])
          (firstDefinedString [fieldOf "sshterm" full, fieldOf "sshterm" query]) config with
      | error message =>
        constructor
        · intro h
          cases h
        · rintro ⟨⟨_, _, _, _, _, hhost⟩, htaken⟩
          obtain ⟨connection, h, _⟩ := hparams.mpr ⟨hhost, htaken⟩
          rw [hconnection] at h
          cases h
      | ok connection =>
        dsimp only
        cases hpolicy : routePolicy config (some password) none with
        | error method =>
          constructor
          · intro h
            cases h
          · rintro ⟨⟨_, other, _, hother, hallowed, _⟩, _⟩
            rw [← Option.some.inj hother, toBool_error hpolicy] at hallowed
            cases hallowed
        | ok methods =>
          have hports : servedPorts (.post host)
              (createAuthSessionUpdates username password connection session,
                handleConnection
                  (createAuthSessionUpdates username password connection session)
                  host.isSome {}) = [connection.port] :=
            rfl
          dsimp only
          rw [hports, List.mem_singleton]
          constructor
          · intro hsame
            obtain ⟨hhost, htaken⟩ := hparams.mp ⟨connection, hconnection, hsame.symm⟩
            exact ⟨⟨username, password, rfl, rfl, toBool_ok hpolicy, hhost⟩, htaken⟩
          · rintro ⟨⟨_, _, _, _, _, hhost⟩, htaken⟩
            obtain ⟨other, hother, hsame⟩ := hparams.mpr ⟨hhost, htaken⟩
            rw [hconnection] at hother
            rw [Except.ok.inj hother]
            exact hsame.symm

theorem mem_servedPorts_telnet (query : Fields) (host : JsString) (session : AuthSession)
    (port : Number) :
    port ∈ servedPorts (.telnetHost host) (session, handleConnection session true {
        protocol := .telnet
        connectionMode := some .hostLocked
        lockedHost := some host
        lockedPort := some (telnetPort runtime query) }) ↔
      (match getNonEmptyString (fieldOf "port" query) with
        | some text => GivenPort.converted text
        | none => .absent).taken runtime telnetDefaultPort = some port := by
  have hfinite : jsonNumber (telnetPort runtime query) = some (telnetPort runtime query) := by
    unfold telnetPort
    split
    · cases hnumber : jsonNumber (runtime.stringToNumber _) with
      | none => rfl
      | some number =>
        have hsame := jsonNumber_eq_some hnumber
        rw [hsame] at hnumber
        exact hnumber
    · rfl
  have hports : servedPorts (.telnetHost host) (session, handleConnection session true {
      protocol := .telnet
      connectionMode := some .hostLocked
      lockedHost := some host
      lockedPort := some (telnetPort runtime query) }) = [telnetPort runtime query] := by
    unfold servedPorts handleConnection storedPort
    dsimp only
    rw [Option.bind_some, hfinite]
    rfl
  rw [hports, List.mem_singleton]
  unfold telnetPort
  cases getNonEmptyString (fieldOf "port" query) with
  | none | some => exact ⟨fun h => congrArg some h.symm, fun h => (Option.some.inj h).symm⟩

-- A request leads to a port exactly where its other checks pass, and then to the one
-- that is taken from what it gives.
theorem mem_carried_http (request : HttpRequest) (session : AuthSession) (port : Number) :
    port ∈ (Entry.http request session).carried runtime escape config ↔
      (Entry.http request session).admitted escape config = true ∧
        (Entry.http request session).given.taken runtime
          ((Entry.http request session).standard config) = some port := by
  show port ∈ servedPorts request.route (serve runtime escape config request session) ↔
    requestAdmitted escape config request session = true ∧
      (requestGiven request).taken runtime (requestStandard config request.route) = some port
  unfold requestAdmitted requestGiven serve
  have hsafe : request.route.isPost = false → csrfRefuses config request = false :=
    csrfRefuses_of_not_post config
  cases hroute : request.route with
  | host target =>
    rw [hsafe (by rw [hroute]; rfl), if_neg Bool.false_ne_true]
    dsimp only
    cases authMiddleware escape config request.basicAuth session with
    | error error =>
      constructor
      · intro h
        cases h
      · rintro ⟨h, _⟩
        cases h
    | ok updated => exact mem_servedPorts_get request.query target updated port
  | post target =>
    dsimp only
    cases hcsrf : csrfRefuses config request with
    | true =>
      constructor
      · intro h
        cases h
      · rintro ⟨h, _⟩
        cases h
    | false =>
      rw [if_neg Bool.false_ne_true, @mem_servedPorts_post runtime, fieldOf_port_body]
      rfl
  | telnetHost target =>
    rw [hsafe (by rw [hroute]; rfl), if_neg Bool.false_ne_true]
    dsimp only
    cases config.telnetEnabled with
    | true =>
      rw [if_pos rfl, mem_servedPorts_telnet]
      exact ⟨fun h => ⟨rfl, h⟩, fun h => h.2⟩
    | false =>
      constructor
      · intro h
        cases h
      · rintro ⟨h, _⟩
        cases h
  | root =>
    rw [hsafe (by rw [hroute]; rfl), if_neg Bool.false_ne_true]
    simp [servedPorts, handleConnection, storedPort]
  | clearCredentials =>
    rw [hsafe (by rw [hroute]; rfl), if_neg Bool.false_ne_true]
    simp [servedPorts, handleClearCredentials]
  | forceReconnect =>
    rw [hsafe (by rw [hroute]; rfl), if_neg Bool.false_ne_true]
    simp [servedPorts, handleForceReconnect]
  | reauth =>
    rw [hsafe (by rw [hroute]; rfl), if_neg Bool.false_ne_true]
    simp [servedPorts, handleReauth]
  | telnetRoot =>
    rw [hsafe (by rw [hroute]; rfl), if_neg Bool.false_ne_true]
    cases config.telnetEnabled <;> simp [servedPorts, handleConnection, storedPort]
  | telnetPost target =>
    cases csrfRefuses config request <;> cases config.telnetEnabled <;>
      simp [servedPorts, handleConnection, storedPort]
  | unrelated =>
    rw [hsafe (by rw [hroute]; rfl), if_neg Bool.false_ne_true]
    simp [servedPorts]

end Routes

section Logins

variable {runtime : Runtime} {escape : JsString → JsString} {config : HttpConfig}

theorem inBounds_of_ne_nan {port : Number} (h : port ≠ .nan) :
    inBounds port = portInRange port := by
  unfold inBounds portInRange
  rw [decide_eq_false h, Bool.false_or]

theorem rawGiven_taken (raw : CredentialFields) :
    (rawGiven raw).taken runtime (.ofInt 22) = (rawNumber raw).filter portInRange := by
  have hstandard : portInRange (.ofInt 22) = true := by decide
  unfold rawGiven rawNumber
  cases raw.port with
  | none => simp [nullish, numberOf, GivenPort.taken, Option.filter, hstandard]
  | some value =>
    cases value with
    | null => simp [nullish, numberOf, GivenPort.taken, Option.filter, hstandard]
    | bool value => rfl
    | array items => rfl
    | object fields => rfl
    | string text => simp [nullish, numberOf, GivenPort.taken, Option.filter]
    | number number =>
      by_cases hnan : number = .nan
      · rw [hnan]
        rfl
      · simp [nullish, numberOf, GivenPort.taken, Option.filter, hnan,
          inBounds_of_ne_nan hnan]

theorem mem_carried_stored (raw : CredentialFields) (port : Number) :
    port ∈ (Entry.stored raw).carried runtime escape config ↔
      (Entry.stored raw).admitted escape config = true ∧
        (Entry.stored raw).given.taken runtime ((Entry.stored raw).standard config) =
          some port := by
  show port ∈ (match extractAuthCredentials raw with
    | .ok credentials => [credentials.port]
    | .error _ => []) ↔
      rawAdmitted raw = true ∧ (rawGiven raw).taken runtime (.ofInt 22) = some port
  rw [rawGiven_taken]
  unfold extractAuthCredentials rawAdmitted hasSecret
  dsimp only
  cases hrequired : validateRequiredFields raw with
  | error error =>
    constructor
    · intro h
      cases h
    · rintro ⟨hadmitted, hport⟩
      simp only [Bool.and_eq_true, Option.isSome_iff_exists] at hadmitted
      obtain ⟨⟨⟨username, husername⟩, host, hhost⟩, _⟩ := hadmitted
      have hok := (validateRequiredFields_ok_iff raw (username, host, port)).mpr
        ⟨husername, hhost, hport⟩
      rw [hrequired] at hok
      cases hok
  | ok required =>
    rcases required with ⟨username, host, number⟩
    obtain ⟨husername, hhost, hnumber⟩ :=
      (validateRequiredFields_ok_iff raw (username, host, number)).mp hrequired
    dsimp only at husername hhost hnumber ⊢
    rw [husername, hhost, hnumber]
    cases getNonEmptyString raw.password <;> cases getNonEmptyString raw.privateKey <;>
      simp [eq_comm]

-- An attempt goes on with what was admitted.
theorem handleAuthentication_attempted_iff (protocol : Protocol) (session : Option AuthSession)
    (context : AuthContext Unit) (credentials : JsonValue) (creds : CredentialFields) :
    (handleAuthentication config.toLoginConfig protocol session context credentials).2 =
        .attempted creds ↔
      ∃ given, admitted config.toLoginConfig protocol session context credentials = some given ∧
        creds = loginTaken given credentials := by
  have htaken : ∀ (state : AdapterSharedState Unit) (given : CredentialFields),
      (buildAuthCredentials state given credentials).2 = loginTaken given credentials :=
    fun _ _ => rfl
  rcases handleAuthentication_cases config.toLoginConfig protocol session context credentials with
    ⟨hnone, -, hnever⟩ | ⟨given, hgiven, -, state, houtcome⟩
  · rw [hnone]
    simp [hnever]
  · rw [hgiven, houtcome, htaken]
    simp [eq_comm]

theorem any_length_pos_eq (value : JsValue) :
    (textOf value).any (fun text => decide (0 < text.length)) =
      (getNonEmptyString value).isSome := by
  unfold getNonEmptyString
  cases textOf value with
  | none => rfl
  | some text =>
    rw [any_length_pos]
    by_cases hempty : text = []
    · simp [hempty]
    · simp [Option.filter, hempty]

-- The authentication service lets pass what is filled and has a number within the bounds.
theorem performAuthentication_eq_none_iff (creds : CredentialFields) :
    performAuthentication creds = none ↔
      rawAdmitted creds = true ∧ ∃ number, numberOf creds.port = some number ∧
        inBounds number = true := by
  unfold performAuthentication toCredentials rawAdmitted hasSecret
  rw [← any_length_pos_eq creds.password, ← any_length_pos_eq creds.privateKey]
  unfold getNonEmptyString
  cases husername : textOf creds.username with
  | none => simp
  | some username =>
    cases hhost : textOf creds.host with
    | none => simp
    | some host =>
      cases hport : numberOf creds.port with
      | none => simp
      | some number =>
        dsimp only
        unfold validateCredentials
        dsimp only
        by_cases hname : username = []
        · simp [hname]
        · by_cases htarget : host = []
          · simp [hname, htarget]
          · have hbounds : (number.le (.finite 0) = true ∨
                (Number.finite 65535).lt number = true) ↔ inBounds number = false := by
              have hzero : Number.ofInt 0 = .finite 0 := by decide
              have hmax : Number.ofInt 65535 = .finite 65535 := by decide
              unfold inBounds
              rw [hzero, hmax, Bool.not_eq_false', Bool.or_eq_true]
            rw [if_neg hname, if_neg htarget]
            cases hin : inBounds number with
            | false =>
              rw [if_pos (hbounds.mpr hin)]
              simp [hin]
            | true =>
              rw [if_neg (by rw [hbounds, hin]; decide)]
              cases (textOf creds.password).any fun text => decide (0 < text.length) <;>
                cases (textOf creds.privateKey).any
                  fun text => decide (0 < text.length) <;>
                simp [Option.filter, hname, htarget, hin]

theorem admitted_submitted {protocol : Protocol} {session : Option AuthSession}
    {context : AuthContext Unit} {credentials : JsonValue} {given : CredentialFields}
    (h : admitted config.toLoginConfig protocol session context credentials = some given) :
    submitted session context.provider credentials = some given := by
  unfold admitted at h
  split at h
  · exact (Option.filter_eq_some_iff.mp h).1
  · cases h

theorem mem_carried_login (protocol : Protocol) (session : Option AuthSession)
    (context : AuthContext Unit) (credentials : JsonValue) (port : Number) :
    let entry : Entry := .login protocol session context credentials
    port ∈ entry.carried runtime escape config ↔
      entry.admitted escape config = true ∧
        entry.given.taken runtime (entry.standard config) = some port := by
  show port ∈ (match (handleAuthentication config.toLoginConfig protocol session context
      credentials).2 with
    | .attempted creds =>
      if performAuthentication creds = none then (numberOf creds.port).toList else []
    | _ => []) ↔
      loginAdmitted config protocol session context credentials = true ∧
        (loginGiven session context credentials).taken runtime config.port = some port
  have hattempted := @handleAuthentication_attempted_iff config protocol session context
    credentials
  unfold loginAdmitted
  cases hadmitted : admitted config.toLoginConfig protocol session context credentials with
  | none =>
    have hnone : ∀ creds, (handleAuthentication config.toLoginConfig protocol session context
        credentials).2 ≠ .attempted creds := by
      intro creds h
      obtain ⟨given, hgiven, _⟩ := (hattempted creds).mp h
      rw [hadmitted] at hgiven
      cases hgiven
    split
    · rename_i creds houtcome
      exact absurd houtcome (hnone creds)
    · simp
  | some given =>
    rw [(hattempted (loginTaken given credentials)).mpr ⟨given, hadmitted, rfl⟩]
    unfold loginGiven
    rw [admitted_submitted hadmitted]
    dsimp only
    have hpasses := performAuthentication_eq_none_iff (loginTaken given credentials)
    cases hport : (loginTaken given credentials).port with
    | none =>
      rw [hport] at hpasses
      simp [hpasses, numberOf, givenNumber, GivenPort.taken]
    | some value =>
      rw [hport] at hpasses
      cases value with
      | number number =>
        have hnumber : performAuthentication (loginTaken given credentials) = none ↔
            rawAdmitted (loginTaken given credentials) = true ∧
              inBounds number = true := by
          simpa [numberOf] using hpasses
        by_cases hgo : rawAdmitted (loginTaken given credentials) = true ∧
            inBounds number = true
        · rw [if_pos (hnumber.mpr hgo)]
          simp [numberOf, givenNumber, GivenPort.taken, hgo, eq_comm]
        · rw [if_neg (mt hnumber.mp hgo)]
          constructor
          · intro h
            cases h
          · rintro ⟨hfilled, htaken⟩
            obtain ⟨hin, _⟩ := Option.ite_none_right_eq_some.mp htaken
            exact absurd ⟨hfilled, hin⟩ hgo
      | null => simp [hpasses, numberOf, givenNumber, GivenPort.taken]
      | bool value => simp [hpasses, numberOf, givenNumber, GivenPort.taken]
      | string text => simp [hpasses, numberOf, givenNumber, GivenPort.taken]
      | array items => simp [hpasses, numberOf, givenNumber, GivenPort.taken]
      | object fields => simp [hpasses, numberOf, givenNumber, GivenPort.taken]

-- An entry leads to a port exactly where its other checks pass, and then to the one
-- that is taken from what it gives.
theorem mem_carried_iff (entry : Entry) (port : Number) :
    port ∈ entry.carried runtime escape config ↔
      entry.admitted escape config = true ∧
        entry.given.taken runtime (entry.standard config) = some port := by
  cases entry with
  | http request session => exact mem_carried_http request session port
  | stored raw => exact mem_carried_stored raw port
  | login protocol session context credentials =>
    exact mem_carried_login protocol session context credentials port

theorem isPort_standard (hconfig : IsPort config.port) (entry : Entry) :
    IsPort (entry.standard config) := by
  have htelnet : IsPort telnetDefaultPort := (isPort_ofInt_iff 23).mpr (by decide)
  cases entry with
  | http request session =>
    show IsPort (requestStandard config request.route)
    unfold requestStandard
    split
    · exact htelnet
    · exact hconfig
  | stored raw => exact (isPort_ofInt_iff 22).mpr (by decide)
  | login protocol session context credentials => exact hconfig

-- The ports that an entry leads to are sound exactly when it fails another check, or gives
-- a whole port where it gives one that is not refused.
theorem portsSound_iff (runtime : Runtime) (hreads : ReadsPorts runtime)
    (escape : JsString → JsString) (config : HttpConfig) (hconfig : IsPort config.port)
    (entry : Entry) :
    PortsSound runtime escape config entry ↔
      (entry.admitted escape config = true → entry.given.Whole runtime) := by
  have hsound := soundPort_iff hreads (isPort_standard hconfig entry) entry.given
  unfold PortsSound
  constructor
  · intro h hadmitted
    apply hsound.mp
    intro port htaken
    exact h port (mem_carried_iff entry port |>.mpr ⟨hadmitted, htaken⟩)
  · intro h port hmem
    obtain ⟨hadmitted, htaken⟩ := (mem_carried_iff entry port).mp hmem
    exact hsound.mpr (h hadmitted) port htaken

theorem readsPorts_asciiRuntime : ReadsPorts asciiRuntime := by
  intro text hnumeral _
  have htrim : trim text = text :=
    trim_of_ink fun unit hunit => isWhiteSpace_of_isDigit (hnumeral.2 unit hunit)
  have hall : text.all isDigit = true := List.all_eq_true.mpr hnumeral.2
  show (if (trim text).all isDigit then Number.ofInt (digitsValue (trim text)) else .nan) = _
  rw [htrim, if_pos hall]

-- A form for a host, with a port as it may come in a body of JSON.
def portedPost (port : JsonValue) : Entry :=
  .http { samplePost "host.example.com" with
    body := (samplePost "host.example.com").body ++ [(js "port", port)] } {}

theorem isPort_sampleConfig : IsPort sampleConfig.port :=
  (isPort_ofInt_iff 22).mpr (by decide)

theorem portsSound_iff_form :
    PortsSound asciiRuntime id sampleConfig (portedPost (.string (js "2222"))) ↔
      ((portedPost (.string (js "2222"))).admitted id sampleConfig = true →
        (portedPost (.string (js "2222"))).given.Whole asciiRuntime) :=
  portsSound_iff asciiRuntime readsPorts_asciiRuntime id sampleConfig isPort_sampleConfig
    (portedPost (.string (js "2222")))

-- A number in a body is stored as it is.
theorem portsSound_not_number :
    ¬∀ entry, PortsSound asciiRuntime id sampleConfig entry := by
  intro hall
  have hmem : Number.ofInt 99999 ∈
      (portedPost (.number (.ofInt 99999))).carried asciiRuntime id sampleConfig := by
    rw [mem_carried_iff]
    exact ⟨by decide, rfl⟩
  have hport := (hall (portedPost (.number (.ofInt 99999))) (.ofInt 99999) hmem).isPort
  have hbounds := (isPort_ofInt_iff 99999).mp hport
  omega

end Logins

end WebSsh2.Http

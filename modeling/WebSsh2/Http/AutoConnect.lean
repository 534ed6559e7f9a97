import WebSsh2.Http.Routes

namespace WebSsh2.Http

open WebSsh2.Library WebSsh2.State WebSsh2.Auth WebSsh2.Socket

section Objects

theorem lookup_object_of_absent {entries : List (String × JsValue)} {key : JsString}
    (h : key ∉ entries.map fun entry => js entry.1) :
    Json.lookup key (entries.filterMap fun (name, value) =>
      value.map fun value => (js name, value)) = none := by
  induction entries with
  | nil => rfl
  | cons head rest ih =>
    rcases head with ⟨name, value⟩
    obtain ⟨hname, hrest⟩ := not_or.mp (mt List.mem_cons.mpr h)
    cases value with
    | none => exact ih hrest
    | some value =>
      simp only [List.filterMap_cons, Option.map_some, Json.lookup, if_neg (Ne.symm hname)]
      exact ih hrest

-- A field that is there is found, and no other stands in for one that is not.
theorem lookup_object {entries : List (String × JsValue)} {name : String} {value : JsValue}
    (hnodup : (entries.map fun entry => js entry.1).Nodup) (hmem : (name, value) ∈ entries) :
    Json.lookup (js name) (entries.filterMap fun (name, value) =>
      value.map fun value => (js name, value)) = value := by
  induction entries with
  | nil => cases hmem
  | cons head rest ih =>
    obtain ⟨hname, hrest⟩ := List.nodup_cons.mp hnodup
    rcases List.mem_cons.mp hmem with rfl | htail
    · cases value with
      | none =>
        simp only [List.filterMap_cons, Option.map_none]
        exact lookup_object_of_absent hname
      | some value =>
        simp only [List.filterMap_cons, Option.map_some, Json.lookup, if_pos]
    · rcases head with ⟨other, found⟩
      have hother : js other ≠ js name := by
        intro heq
        exact hname (List.mem_map.mpr ⟨(name, value), htail, heq.symm⟩)
      cases found with
      | none => exact ih hrest htail
      | some found =>
        simp only [List.filterMap_cons, Option.map_some, Json.lookup, if_neg hother]
        exact ih hrest htail

-- The fields of credentials that a login reads again.
def loginFields (fields : CredentialFields) : CredentialFields where
  username := fields.username
  host := fields.host
  port := fields.port
  password := fields.password
  privateKey := fields.privateKey
  passphrase := fields.passphrase

theorem credentialFields_object (fields : CredentialFields) :
    credentialFields fields.object = loginFields fields := by
  have hfield : ∀ name value, (name, value) ∈ [("username", fields.username),
      ("host", fields.host), ("port", fields.port), ("password", fields.password),
      ("privateKey", fields.privateKey), ("passphrase", fields.passphrase),
      ("term", fields.term), ("cols", fields.cols), ("rows", fields.rows)] →
      property name (some fields.object) = value := by
    intro name value hmem
    have hnodup : ([js "username", js "host", js "port", js "password", js "privateKey",
        js "passphrase", js "term", js "cols", js "rows"] : List JsString).Nodup := by
      decide
    exact lookup_object hnodup hmem
  unfold credentialFields loginFields
  rw [hfield "username" fields.username (by simp), hfield "host" fields.host (by simp),
    hfield "port" fields.port (by simp), hfield "password" fields.password (by simp),
    hfield "privateKey" fields.privateKey (by simp),
    hfield "passphrase" fields.passphrase (by simp)]

theorem keyCount_object {fields : CredentialFields} {username : JsonValue}
    (h : fields.username = some username) : keyCount fields.object ≠ 0 := by
  unfold CredentialFields.object keyCount
  rw [h]
  simp

end Objects

section Conversion

-- What credentials of a session are turned into, where they can be.
structure ConvertsTo (stored : SshCredentials) (login : AuthCredentials) : Prop where
  username : stored.username = login.username
  username_ne : login.username ≠ []
  host : stored.host = some login.host
  host_ne : login.host ≠ []
  port : login.port = stored.port.getD (.ofInt 22)
  password : login.password = filledText stored.password
  privateKey : login.privateKey = filledText stored.privateKey
  passphrase : login.privateKey = none → login.passphrase = none
  secret : login.password ≠ none ∨ login.privateKey ≠ none

theorem getNonEmptyString_map (text : Option JsString) :
    getNonEmptyString (text.map Json.string) = filledText text := by
  cases text with
  | none => rfl
  | some text => rfl

theorem filledText_some {text : JsString} (h : text ≠ []) : filledText (some text) = some text := by
  simp [filledText, h]

theorem filledText_eq_some {text : Option JsString} {value : JsString}
    (h : filledText text = some value) : text = some value ∧ value ≠ [] := by
  obtain ⟨htext, hne⟩ := Option.filter_eq_some_iff.mp h
  exact ⟨htext, of_decide_eq_true hne⟩

-- The ports that a login may have.
def portInRange (port : Number) : Bool :=
  !(port = .nan || port.le (.ofInt 0) || Number.lt (.ofInt 65535) port)

-- The number that the fields of a login are checked for.
def rawNumber (raw : CredentialFields) : Option Number :=
  let port := nullish raw.port (some (.number (.ofInt 22)))
  numberOf (match port with
    | some (.string text) => some (.number (parseInt text))
    | _ => port)

theorem validateRequiredFields_ok_iff (raw : CredentialFields)
    (result : JsString × JsString × Number) :
    validateRequiredFields raw = .ok result ↔
      getNonEmptyString raw.username = some result.1 ∧
        getNonEmptyString raw.host = some result.2.1 ∧
        (rawNumber raw).filter portInRange = some result.2.2 := by
  unfold validateRequiredFields rawNumber
  dsimp only
  generalize numberOf _ = number
  rcases result with ⟨name, target, port⟩
  cases getNonEmptyString raw.username with
  | none => simp
  | some username =>
    cases getNonEmptyString raw.host with
    | none => simp
    | some host =>
      cases number with
      | none => simp
      | some number =>
        have hrange : (number = .nan || number.le (.ofInt 0) ||
            Number.lt (.ofInt 65535) number) = !portInRange number := by
          rw [portInRange, Bool.not_not]
        dsimp only
        rw [hrange]
        cases hin : portInRange number with
        | true => simp [Option.filter, hin]
        | false => simp [Option.filter, hin]

theorem filter_some_eq_some_iff {α : Type} {keep : α → Bool} {value result : α} :
    (some value).filter keep = some result ↔ keep value = true ∧ result = value := by
  rw [Option.filter_eq_some_iff, Option.some.injEq]
  constructor
  · rintro ⟨rfl, hkeep⟩
    exact ⟨hkeep, rfl⟩
  · rintro ⟨hkeep, rfl⟩
    exact ⟨rfl, hkeep⟩

theorem validateRequiredFields_stored (stored : SshCredentials)
    (result : JsString × JsString × Number) :
    validateRequiredFields stored.fields = .ok result ↔
      stored.username ≠ [] ∧ filledText stored.host = some result.2.1 ∧
        portInRange (stored.port.getD (.ofInt 22)) = true ∧
        result.1 = stored.username ∧ result.2.2 = stored.port.getD (.ofInt 22) := by
  have husername : getNonEmptyString stored.fields.username = filledText (some stored.username) :=
    rfl
  have hhost : getNonEmptyString stored.fields.host = filledText stored.host := by
    cases hstored : stored.host with
    | none | some => simp [SshCredentials.fields, hstored, getNonEmptyString, textOf, filledText]
  have hport : rawNumber stored.fields = some (stored.port.getD (.ofInt 22)) := by
    unfold rawNumber
    cases hstored : stored.port with
    | none | some => simp [SshCredentials.fields, hstored, nullish, numberOf]
  have hname : filledText (some stored.username) = some result.1 ↔
      stored.username ≠ [] ∧ result.1 = stored.username := by
    unfold filledText
    rw [filter_some_eq_some_iff, decide_eq_true_iff]
  rw [validateRequiredFields_ok_iff, husername, hhost, hport, hname, filter_some_eq_some_iff]
  constructor
  · rintro ⟨⟨hne, hname⟩, hhost, hrange, hport⟩
    exact ⟨hne, hhost, hrange, hname, hport⟩
  · rintro ⟨hne, hhost, hrange, hname, hport⟩
    exact ⟨⟨hne, hname⟩, hhost, hrange, hport⟩

-- The login that the credentials of a session stand for, if they do for one.
def usable (session : AuthSession) : Option AuthCredentials :=
  session.sshCredentials.bind fun stored => convertToAuthCredentials stored.fields

theorem convert_stored {stored : SshCredentials} {login : AuthCredentials}
    (h : convertToAuthCredentials stored.fields = some login) : ConvertsTo stored login := by
  unfold convertToAuthCredentials extractAuthCredentials at h
  cases hrequired : validateRequiredFields stored.fields with
  | error error =>
    rw [hrequired] at h
    cases h
  | ok required =>
    rcases required with ⟨username, host, port⟩
    obtain ⟨hname, hhost, -, rfl, rfl⟩ :=
      (validateRequiredFields_stored stored _).mp hrequired
    obtain ⟨hhost, hne⟩ := filledText_eq_some hhost
    rw [hrequired] at h
    dsimp only [SshCredentials.fields] at h
    rw [getNonEmptyString_map, getNonEmptyString_map] at h
    split at h
    · cases h
    · rename_i hsecret
      cases h
      exact {
        username := rfl
        username_ne := hname
        host := hhost
        host_ne := hne
        port := rfl
        password := rfl
        privateKey := rfl
        passphrase := fun hkey => if_pos hkey
        secret := not_and_or.mp hsecret }

theorem convert_stored_isSome {stored : SshCredentials} :
    (convertToAuthCredentials stored.fields).isSome = true ↔
      stored.username ≠ [] ∧ (filledText stored.host).isSome = true ∧
        portInRange (stored.port.getD (.ofInt 22)) = true ∧
        ¬ (filledText stored.password = none ∧ filledText stored.privateKey = none) := by
  constructor
  · intro h
    obtain ⟨login, hlogin⟩ := Option.isSome_iff_exists.mp h
    have hconverts := convert_stored hlogin
    unfold convertToAuthCredentials extractAuthCredentials at hlogin
    cases hrequired : validateRequiredFields stored.fields with
    | error error =>
      rw [hrequired] at hlogin
      cases hlogin
    | ok required =>
      obtain ⟨hname, hhost, hrange, -, -⟩ :=
        (validateRequiredFields_stored stored required).mp hrequired
      refine ⟨hname, by rw [hhost]; rfl, hrange, ?_⟩
      rw [← hconverts.password, ← hconverts.privateKey]
      exact not_and_or.mpr hconverts.secret
  · rintro ⟨hname, hhost, hrange, hsecret⟩
    obtain ⟨host, hhost⟩ := Option.isSome_iff_exists.mp hhost
    have hrequired := (validateRequiredFields_stored stored
      (stored.username, host, stored.port.getD (.ofInt 22))).mpr ⟨hname, hhost, hrange, rfl, rfl⟩
    unfold convertToAuthCredentials extractAuthCredentials
    rw [hrequired]
    dsimp only [SshCredentials.fields]
    rw [getNonEmptyString_map, getNonEmptyString_map, if_neg hsecret]
    rfl

end Conversion

section Opening

-- A session that no socket ever wrote to: its flags and credentials belong together.
structure SessionOk (session : AuthSession) : Prop where
  unflagged : session.authFailed ≠ some true
  owned : session.sshCredentials ≠ none →
    session.usedBasicAuth = some true ∨ session.authMethod = some postMethod

variable {session : AuthSession}

-- The provider that a socket starts with has the login of the session.
theorem detect_getCredentials (h : SessionOk session) :
    (AuthProvider.detect (some session)).getCredentials (some session) =
      (usable session).map AuthCredentials.fields := by
  unfold usable
  cases hcredentials : session.sshCredentials with
  | none =>
    rw [AuthProvider.detect_of_none hcredentials]
    rfl
  | some stored =>
    have hne : session.sshCredentials ≠ none := by
      rw [hcredentials]
      exact Option.some_ne_none stored
    rcases AuthProvider.detect_of_owned h.unflagged hne (h.owned hne) with
      ⟨hbasic, hdetect⟩ | ⟨hpost, hdetect⟩
    · rw [hdetect]
      simp [AuthProvider.getCredentials, hbasic, hcredentials]
    · rw [hdetect]
      simp [AuthProvider.getCredentials, hpost, hcredentials]

theorem detect_isAuthenticated (h : SessionOk session) :
    (AuthProvider.detect (some session)).isAuthenticated (some session) = true ↔
      session.sshCredentials ≠ none := by
  cases hcredentials : session.sshCredentials with
  | none =>
    rw [AuthProvider.detect_of_none hcredentials]
    simp [AuthProvider.isAuthenticated]
  | some stored =>
    have hne : session.sshCredentials ≠ none := by
      rw [hcredentials]
      exact Option.some_ne_none stored
    rcases AuthProvider.detect_of_owned h.unflagged hne (h.owned hne) with
      ⟨hbasic, hdetect⟩ | ⟨hpost, hdetect⟩
    · rw [hdetect]
      simp [AuthProvider.isAuthenticated, hbasic, hcredentials]
    · rw [hdetect]
      simp [AuthProvider.isAuthenticated, hpost, hcredentials]

-- A socket as it is set up, with the copy of the session that it took.
def openedContext (details : ClientDetails) (session : AuthSession) : AuthContext Unit where
  state := createAdapterSharedState Unit details
  provider := AuthProvider.detect (some session)

variable (config : LoginConfig) (protocol : Protocol)

-- What a socket does at once, without a message of its client.
def opening (details : ClientDetails) (session : AuthSession) : InitialAuth :=
  (checkInitialAuth config protocol (some session) (openedContext details session)).2

-- The login passes the policy, which holds for SSH only.
def allowedLogin (login : AuthCredentials) : Bool :=
  match protocol with
  | .telnet => true
  | .ssh => (evaluateAuthMethodPolicy config.allowedAuthMethods {
      password := login.password.map Json.string
      privateKey := login.privateKey.map Json.string
      requestedKeyboardInteractive := false }).toBool

theorem textOf_map (text : Option JsString) : textOf (text.map Json.string) = text := by
  cases text with
  | none => rfl
  | some text => rfl

variable {login : AuthCredentials}

theorem isValidCredentials_login {stored : SshCredentials} (h : ConvertsTo stored login) :
    isValidCredentials (loginFields login.fields) = true := by
  have hsecret : (login.password.isSome || login.privateKey.isSome) = true := by
    rw [Bool.or_eq_true, Option.isSome_iff_ne_none, Option.isSome_iff_ne_none]
    exact h.secret
  have husername : textOf (some (.string login.username)) = some login.username := rfl
  have hhost : textOf (some (.string login.host)) = some login.host := rfl
  have hport : numberOf (some (.number login.port)) = some login.port := rfl
  have hpassphrase : (decide ((loginFields login.fields).passphrase = none) ||
      (textOf (loginFields login.fields).passphrase).isSome) = true := by
    rw [show (loginFields login.fields).passphrase = login.passphrase.map Json.string from rfl,
      textOf_map]
    cases login.passphrase with
    | none => rfl
    | some text => rfl
  unfold isValidCredentials
  rw [hpassphrase]
  simp only [loginFields, AuthCredentials.fields, textOf_map, husername, hhost, hport, hsecret,
    Option.isSome_some, Bool.and_self]

-- What is logged in with is the login itself, unless the policy stands against it.
theorem handleAuthentication_login (session : Option AuthSession) (context : AuthContext Unit)
    {stored : SshCredentials} (h : ConvertsTo stored login)
    (hasked : context.state.requestedKeyboardInteractive = false) (creds : CredentialFields) :
    (handleAuthentication config protocol session context login.fields.object).2 =
        .attempted creds ↔
      allowedLogin config protocol login = true ∧ creds = loginFields login.fields := by
  have hcount : keyCount login.fields.object ≠ 0 :=
    @keyCount_object login.fields (.string login.username) rfl
  have hpipeline : updateAuthPipeline (initializeAuthAttempt context login.fields.object)
      login.fields.object = .ok { initializeAuthAttempt context login.fields.object with
        provider := .manual (some (loginFields login.fields)) } := by
    unfold updateAuthPipeline AuthProvider.setManualCredentials
    rw [if_neg hcount, credentialFields_object, if_pos (isValidCredentials_login h)]
  have hbuilt : ∀ state : AdapterSharedState Unit,
      (buildAuthCredentials state (loginFields login.fields) login.fields.object).2 =
        loginFields login.fields := by
    intro state
    rfl
  unfold handleAuthentication startAuthentication prepareAuthCredentials
  rw [hpipeline]
  dsimp only [AuthProvider.getCredentials]
  cases protocol with
  | telnet =>
    dsimp only
    rw [hbuilt]
    constructor
    · intro hsame
      cases hsame
      exact ⟨rfl, rfl⟩
    · rintro ⟨-, rfl⟩
      rfl
  | ssh =>
    have hpolicy : enforceAuthMethodPolicy config
        (initializeAuthAttempt context login.fields.object).state (loginFields login.fields) =
          evaluateAuthMethodPolicy config.allowedAuthMethods {
            password := login.password.map Json.string
            privateKey := login.privateKey.map Json.string
            requestedKeyboardInteractive := false } := by
      unfold enforceAuthMethodPolicy
      rw [show (initializeAuthAttempt context
        login.fields.object).state.requestedKeyboardInteractive = false from hasked]
      rfl
    have hallowed : allowedLogin config .ssh login = (enforceAuthMethodPolicy config
        (initializeAuthAttempt context login.fields.object).state
          (loginFields login.fields)).toBool := by
      rw [hpolicy]
      rfl
    rw [hallowed]
    cases enforceAuthMethodPolicy config
        (initializeAuthAttempt context login.fields.object).state (loginFields login.fields) with
    | error method =>
      constructor
      · intro hsame
        cases hsame
      · rintro ⟨hok, -⟩
        cases hok
    | ok methods =>
      dsimp only
      rw [hbuilt]
      constructor
      · intro hsame
        cases hsame
        exact ⟨rfl, rfl⟩
      · rintro ⟨-, rfl⟩
        rfl

theorem usable_eq_some (h : usable session = some login) :
    ∃ stored, session.sshCredentials = some stored ∧ ConvertsTo stored login := by
  obtain ⟨stored, hstored, hlogin⟩ := Option.bind_eq_some_iff.mp h
  exact ⟨stored, hstored, convert_stored hlogin⟩

-- A socket logs in at once exactly where its session has a login that is allowed.
theorem opening_attempted (h : SessionOk session) (config : LoginConfig) (protocol : Protocol)
    (details : ClientDetails) (creds : CredentialFields) :
    opening config protocol details session = .attempt (.attempted creds) ↔
      ∃ login, usable session = some login ∧ allowedLogin config protocol login = true ∧
        creds = loginFields login.fields := by
  unfold opening checkInitialAuth
  rw [show (openedContext details session).provider = AuthProvider.detect (some session) from rfl,
    detect_getCredentials h]
  dsimp only
  by_cases hnone : session.sshCredentials = none
  · have hunused : usable session = none := by
      unfold usable
      rw [hnone]
      rfl
    have hidle : (AuthProvider.detect (some session)).isAuthenticated (some session) = false :=
      Bool.eq_false_iff.mpr fun hopen => (detect_isAuthenticated h).mp hopen hnone
    rw [hidle, if_neg Bool.false_ne_true, AuthProvider.detect_of_none hnone, hunused]
    constructor
    · intro hasked
      cases hasked
    · rintro ⟨login, hlogin, -⟩
      cases hlogin
  · rw [if_pos ((detect_isAuthenticated h).mpr hnone)]
    cases husable : usable session with
    | none =>
      constructor
      · intro hidle
        cases hidle
      · rintro ⟨login, hlogin, -⟩
        cases hlogin
    | some login =>
      obtain ⟨stored, -, hconverts⟩ := usable_eq_some husable
      have hlogin := handleAuthentication_login config protocol (some session)
        { openedContext details session with
          state := { (openedContext details session).state with
            requestedKeyboardInteractive := false
            originalAuthMethod := some (AuthProvider.detect (some session)).getAuthMethod } }
        hconverts rfl creds
      constructor
      · intro hattempt
        obtain ⟨hallowed, hcreds⟩ := hlogin.mp (InitialAuth.attempt.inj hattempt)
        exact ⟨login, rfl, hallowed, hcreds⟩
      · rintro ⟨other, hsame, hallowed, hcreds⟩
        cases hsame
        exact congrArg InitialAuth.attempt (hlogin.mpr ⟨hallowed, hcreds⟩)

end Opening

end WebSsh2.Http

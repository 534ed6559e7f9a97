import WebSsh2.Http.AutoConnect
import WebSsh2.Http.ClearCredentials
import WebSsh2.Http.FailedCredentials

namespace WebSsh2.Http

open WebSsh2.Library WebSsh2.Auth WebSsh2.Socket

section Tabs

-- A page that was served, with the session as it was stored then. `supplied` says that
-- the request for the page brought the credentials.
structure ServedPage where
  page : Page
  session : AuthSession
  supplied : Bool

-- One session with all its pages.
structure Tabs where
  state : SessionState := { store := {}, sockets := [] }
  pages : List ServedPage := []

inductive TabEvent where
  | request (request : HttpRequest)
  | handshake (page : Nat) (details : ClientDetails)
  | connectionError (socket : Nat) (message : JsString)
  | loginSucceeded (socket : Nat)

def sessionEvent : TabEvent → SessionEvent
  | .request request => .request request
  | .handshake _ _ => .handshake
  | .connectionError socket message => .connectionError socket message
  | .loginSucceeded socket => .loginSucceeded socket

variable (runtime : Runtime) (escape : JsString → JsString) (config : HttpConfig)

def servedPage (request : HttpRequest) (store : AuthSession) : Option ServedPage :=
  match serve runtime escape config request store with
  | (updated, .page page) => some {
      page
      session := storedSession updated
      supplied := request.suppliesCredentials }
  | _ => none

def newPage (store : AuthSession) : TabEvent → Option ServedPage
  | .request request => servedPage runtime escape config request store
  | _ => none

def tabsStep (tabs : Tabs) (event : TabEvent) : Tabs where
  state := sequenceStep runtime escape config tabs.state (sessionEvent event)
  pages := tabs.pages ++ (newPage runtime escape config tabs.state.store event).toList

-- The target that a page shows: the one it is locked to, or that of its credentials.
def announcedHost (page : Page) : Option JsString :=
  if page.connectionMode = some .hostLocked then page.lockedHost
  else page.ssh.bind PageTarget.host

def announcedPort (page : Page) : Option Number :=
  if page.connectionMode = some .hostLocked then page.lockedPort
  else page.ssh.bind PageTarget.port

-- The pipeline of a new socket is authenticated with the given credentials.
def AuthenticatedWith (credentials : SshCredentials) (session : AuthSession) : Prop :=
  (AuthProvider.detect (some session)).isAuthenticated (some session) = true ∧
    ((AuthProvider.detect (some session)).getCredentials (some session)).map loginFields =
      some (loginFields credentials.fields)

-- What a page may expect of a socket that it opens with a session.
structure OpensAsAnnounced (config : LoginConfig) (served : ServedPage)
    (details : ClientDetails) (session : AuthSession) : Prop where
  target : ∀ creds, opening config served.page.protocol details session =
    .attempt (.attempted creds) →
      creds.host = (announcedHost served.page).map Json.string ∧
        creds.port = (announcedPort served.page).map Json.number
  telnet : served.page.protocol = .telnet →
    ∀ creds, opening config .telnet details session ≠ .attempt (.attempted creds)
  supplied : served.supplied = true → served.page.autoConnect = true → served.page.ssh ≠ none →
    ∃ credentials, served.session.sshCredentials = some credentials ∧
      AuthenticatedWith credentials session

-- A session with which a new socket logs in.
def LogsIn (config : LoginConfig) (protocol : Protocol) (session : AuthSession) : Prop :=
  ∃ login, usable session = some login ∧ allowedLogin config protocol login = true

structure SameTarget (announced current : SshCredentials) : Prop where
  host : announced.host = current.host
  port : announced.port = some (current.port.getD (.ofInt 22))

structure SameLogin (announced current : SshCredentials) : Prop extends
    SameTarget announced current where
  username : announced.username = current.username
  password : announced.password = filledText current.password
  privateKey : announced.privateKey = filledText current.privateKey
  portInRange : portInRange (current.port.getD (.ofInt 22)) = true

-- The condition on the session at a handshake: where it has a login at all, the page is
-- one for SSH and was served with the same target, and a page with credentials of its own
-- finds the same credentials, with a port that a login may have.
structure SessionAsServed (config : LoginConfig) (served : ServedPage)
    (session : AuthSession) : Prop where
  target : LogsIn config served.page.protocol session → served.page.protocol = .ssh ∧
    ∃ announced current, served.session.sshCredentials = some announced ∧
      session.sshCredentials = some current ∧ SameTarget announced current
  supplied : served.supplied = true → served.page.autoConnect = true → served.page.ssh ≠ none →
    ∃ announced current, served.session.sshCredentials = some announced ∧
      session.sshCredentials = some current ∧ SameLogin announced current

def OpenedAsAnnounced (tabs : Tabs) : TabEvent → Prop
  | .handshake page details => ∀ served, tabs.pages[page]? = some served →
      OpensAsAnnounced config.toLoginConfig served details tabs.state.store
  | _ => True

def OpenedAsServed (tabs : Tabs) : TabEvent → Prop
  | .handshake page _ => ∀ served, tabs.pages[page]? = some served →
      SessionAsServed config.toLoginConfig served tabs.state.store
  | _ => True

end Tabs

section Sessions

variable {runtime : Runtime} {escape : JsString → JsString} {config : HttpConfig}

-- Credentials in a session are of one of the two kinds that are looked for.
def Owned (session : AuthSession) : Prop :=
  session.sshCredentials ≠ none →
    session.usedBasicAuth = some true ∨ session.authMethod = some postMethod

variable {session : AuthSession}

theorem owned_of_none (h : session.sshCredentials = none) : Owned session :=
  fun hne => absurd h hne

theorem hasSessionCredentials_of_owned (h : Owned session) :
    hasSessionCredentials session = true ↔ session.sshCredentials ≠ none := by
  unfold hasSessionCredentials
  rw [Bool.and_eq_true, Bool.or_eq_true, decide_eq_true_eq, decide_eq_true_eq, decide_eq_true_eq]
  constructor
  · intro hboth
    exact hboth.1
  · intro hne
    exact ⟨hne, h hne⟩

theorem processAuthentication_usedBasicAuth {user : UserConfig}
    {basicAuth : Option BasicAuthCredentials} {result : AuthResult}
    (h : processAuthentication escape user basicAuth = .ok result) :
    result.usedBasicAuth = true := by
  unfold processAuthentication at h
  split at h
  · cases h
    rfl
  · split at h
    · cases h
      rfl
    · cases h

theorem owned_authMiddleware {basicAuth : Option BasicAuthCredentials}
    {session updated : AuthSession}
    (h : authMiddleware escape config basicAuth session = .ok updated) : Owned updated := by
  unfold authMiddleware at h
  split at h
  · cases h
  · rename_i result hresult
    split at h
    · cases h
      exact owned_of_none rfl
    · cases h
      intro _
      left
      exact congrArg some (processAuthentication_usedBasicAuth hresult)

theorem owned_handleSshGetRoute {query : Fields} {host : Option JsString}
    {session : AuthSession} (h : Owned session) :
    Owned (handleSshGetRoute config query host session).1 := by
  intro hne
  have hbefore := h (mt (handleSshGetRoute_sshCredentials config query host session).mpr hne)
  unfold handleSshGetRoute
  split
  · exact hbefore
  · split
    · exact hbefore
    · split
      · exact hbefore
      · exact hbefore

theorem owned_handlePostAuthRoute {body query : Fields} {host : Option JsString}
    {session : AuthSession} (h : Owned session) :
    Owned (handlePostAuthRoute config body query host session).1 := by
  unfold handlePostAuthRoute
  split
  · exact h
  · split
    · exact h
    · intro _
      right
      rfl

theorem owned_serve {request : HttpRequest} (h : Owned session) :
    Owned (serve runtime escape config request session).1 := by
  unfold serve
  split
  · exact h
  · split
    · exact h
    · split
      · exact h
      · rename_i hupdated
        exact owned_handleSshGetRoute (owned_authMiddleware hupdated)
    · exact owned_handlePostAuthRoute h
    · exact h
    · exact owned_of_none (deleteProperty_sshCredentials session)
    · exact owned_of_none (handleReauth_sshCredentials session)
    · split <;> exact h
    · split <;> exact h
    · split <;> exact h
    · exact h

theorem owned_storedSession (h : Owned session) : Owned (storedSession session) :=
  fun hne => h (mt storedSession_sshCredentials_eq_none.mpr hne)

theorem sessionOk_serve {request : HttpRequest} {session : AuthSession} (h : SessionOk session) :
    SessionOk (storedSession (serve runtime escape config request session).1) where
  unflagged := unflagged_storedSession (unflagged_serve h.unflagged)
  owned := owned_storedSession (owned_serve h.owned)

end Sessions

section Pages

variable {runtime : Runtime} {escape : JsString → JsString} {config : HttpConfig}

def sessionHost (session : AuthSession) : Option JsString :=
  session.sshCredentials.bind SshCredentials.host

def sessionPort (session : AuthSession) : Option Number :=
  session.sshCredentials.bind SshCredentials.port

-- What a page announces is what its session names.
structure Announces (page : Page) (session : AuthSession) : Prop where
  host : announcedHost page = sessionHost session
  port : announcedPort page = (sessionPort session).bind jsonNumber

-- Credentials as a request brings them: a user name and a password for a host.
structure PlainLogin (credentials : SshCredentials) : Prop where
  username : credentials.username ≠ []
  host : ∃ host, credentials.host = some host ∧ host ≠ []
  password : ∃ password, credentials.password = some password ∧ password ≠ []
  privateKey : credentials.privateKey = none
  passphrase : credentials.passphrase = none

-- A page together with the session of its request, before the session is stored.
structure PageOf (request : HttpRequest) (page : Page) (updated : AuthSession) : Prop where
  announces : page.protocol = .ssh → Announces page updated
  telnet : page.protocol = .telnet → request.suppliesCredentials = false
  supplied : request.suppliesCredentials = true →
    ∃ credentials, updated.sshCredentials = some credentials ∧ PlainLogin credentials

theorem buildSshCredentials_of_owned {session : AuthSession} (h : Owned session) :
    buildSshCredentials session = session.sshCredentials.map fun credentials => {
      host := credentials.host
      port := credentials.port.bind jsonNumber
      term := filledText credentials.term } := by
  unfold buildSshCredentials
  split
  · rfl
  · rename_i hno
    have hnone : session.sshCredentials = none := by
      by_contra hne
      exact hno ((hasSessionCredentials_of_owned h).mpr hne)
    rw [hnone]
    rfl

variable {page : Page}

-- A page that is not locked to a target announces that of its session.
theorem announces_of_unlocked {session : AuthSession} (h : Owned session)
    (hmode : page.connectionMode ≠ some .hostLocked) (hssh : page.ssh = buildSshCredentials session) :
    Announces page session := by
  have htarget := hssh.trans (buildSshCredentials_of_owned h)
  constructor
  · unfold announcedHost sessionHost
    rw [if_neg hmode, htarget]
    cases session.sshCredentials with
    | none => rfl
    | some credentials => rfl
  · unfold announcedPort sessionPort
    rw [if_neg hmode, htarget]
    cases session.sshCredentials with
    | none => rfl
    | some credentials => rfl

theorem filledText_ne {text : JsString} {value : Option JsString}
    (h : filledText value = some text) : text ≠ [] :=
  (filledText_eq_some h).2

variable {host : Option JsString}

theorem validateConnectionParameters_host {port : Option PortParam} {term : Option JsString}
    {connection : ConnectionParams}
    (h : validateConnectionParameters host port term config = .ok connection) :
    connection.host ≠ [] := by
  unfold validateConnectionParameters at h
  split at h
  · cases h
  · rename_i hfilled
    split at h
    · cases h
      exact filledText_ne hfilled
    · dsimp only at h
      split at h
      · cases h
      · cases h
        exact filledText_ne hfilled
    · cases h
      exact filledText_ne hfilled

variable {session updated : AuthSession}

-- What the GET route of a host does where it serves a page.
theorem handleSshGetRoute_page {query : Fields}
    (h : handleSshGetRoute config query host session = (updated, .page page)) :
    ∃ credentials connection, session.sshCredentials = some credentials ∧
      credentials.username ≠ [] ∧ connection.host ≠ [] ∧
      ¬ (filledText credentials.password = none ∧ filledText credentials.privateKey = none) ∧
      updated = updateSessionCredentials session connection ∧
      page.protocol = .ssh ∧ page.ssh = buildSshCredentials updated ∧
      (page.connectionMode = some .hostLocked → page.lockedHost = some connection.host ∧
        page.lockedPort = jsonNumber connection.port) := by
  unfold handleSshGetRoute at h
  split at h
  · cases h
  · rename_i validated hvalid
    split at h
    · cases h
    · split at h
      · cases h
      · rename_i connection hconnection
        unfold validateSshRouteCredentials at hvalid
        split at hvalid
        · cases hvalid
        · rename_i credentials hcredentials
          split at hvalid
          · cases hvalid
          · rename_i husername
            split at hvalid
            · cases hvalid
            · rename_i hsecret
              unfold getConnectionParams at hconnection
              obtain ⟨hsession, hpage⟩ := Prod.mk.inj h
              unfold handleConnection at hpage
              cases hpage
              refine ⟨credentials, connection, hcredentials, husername,
                validateConnectionParameters_host hconnection, hsecret, hsession.symm, ?_, ?_, ?_⟩
              · dsimp only
                split <;> rfl
              · rw [← hsession]
              · dsimp only
                intro hlocked
                split at hlocked
                · rename_i hfilled
                  rw [if_pos hfilled]
                  exact ⟨rfl, rfl⟩
                · cases hlocked

-- The credentials that the header `authorization` puts into a session.
theorem authMiddleware_basicAuth {credentials : BasicAuthCredentials} (h : Unflagged session)
    (hupdated : authMiddleware escape config (some credentials) session = .ok updated) :
    updated.sshCredentials = some {
      username := escape (credentials.name.getD [])
      host := config.host
      port := some config.port
      password := filledText (some (credentials.pass.getD [])) } := by
  unfold authMiddleware processAuthentication at hupdated
  dsimp only at hupdated
  rw [if_neg h] at hupdated
  cases hupdated
  rfl

theorem filledText_cases (text : JsString) :
    filledText (some text) = none ∨ (filledText (some text) = some text ∧ text ≠ []) := by
  by_cases hempty : text = []
  · left
    simp [filledText, hempty]
  · right
    exact ⟨filledText_some hempty, hempty⟩

variable {request : HttpRequest}

theorem pageOf_host {session between updated : AuthSession} (hroute : request.route = .host host)
    (hok : SessionOk session)
    (hbetween : authMiddleware escape config request.basicAuth session = .ok between)
    (h : handleSshGetRoute config request.query host between = (updated, .page page)) :
    PageOf request page updated := by
  have howned : Owned updated := by
    have hkept := @owned_handleSshGetRoute config request.query host between
      (owned_authMiddleware hbetween)
    rw [h] at hkept
    exact hkept
  obtain ⟨credentials, connection, hcredentials, husername, hhost, hsecret, rfl, hprotocol, hssh,
    hlocked⟩ := handleSshGetRoute_page h
  have hupdated : (updateSessionCredentials between connection).sshCredentials =
      some { credentials with
        host := some connection.host
        port := some connection.port
        term := connection.term.or credentials.term } := by
    unfold updateSessionCredentials
    rw [hcredentials]
    rfl
  refine ⟨fun _ => ?_, fun htelnet => ?_, fun hsupplied => ?_⟩
  · by_cases hmode : page.connectionMode = some .hostLocked
    · obtain ⟨hlockedHost, hlockedPort⟩ := hlocked hmode
      constructor
      · unfold announcedHost sessionHost
        rw [if_pos hmode, hlockedHost, hupdated]
        rfl
      · unfold announcedPort sessionPort
        rw [if_pos hmode, hlockedPort, hupdated]
        rfl
    · exact announces_of_unlocked howned hmode hssh
  · rw [hprotocol] at htelnet
    cases htelnet
  · unfold HttpRequest.suppliesCredentials at hsupplied
    rw [hroute] at hsupplied
    obtain ⟨header, hheader⟩ := Option.isSome_iff_exists.mp hsupplied
    rw [hheader] at hbetween
    have hgiven := authMiddleware_basicAuth hok.unflagged hbetween
    rw [hcredentials] at hgiven
    cases hgiven
    refine ⟨_, hupdated, ⟨husername, ⟨connection.host, rfl, hhost⟩, ?_, rfl, rfl⟩⟩
    rcases filledText_cases (header.pass.getD []) with hempty | ⟨hfilled, hne⟩
    · rw [hempty] at hsecret
      exact absurd ⟨rfl, rfl⟩ hsecret
    · exact ⟨header.pass.getD [], hfilled, hne⟩

theorem getNonEmptyString_ne {value : JsValue} {text : JsString}
    (h : getNonEmptyString value = some text) : text ≠ [] :=
  of_decide_eq_true (Option.filter_eq_some_iff.mp h).2

theorem processPostAuthRequest_filled {body query : Fields} {username password : JsString}
    {connection : ConnectionParams}
    (h : processPostAuthRequest body query config = .ok (username, password, connection)) :
    username ≠ [] ∧ password ≠ [] ∧ connection.host ≠ [] := by
  unfold processPostAuthRequest at h
  split at h
  · rename_i husername hpassword
    split at h
    · cases h
    · rename_i hconnection
      cases h
      unfold postConnectionParams at hconnection
      exact ⟨getNonEmptyString_ne husername, getNonEmptyString_ne hpassword,
        validateConnectionParameters_host hconnection⟩
  · cases h

theorem pageOf_post {body : Fields} (hok : SessionOk session)
    (h : handlePostAuthRoute config body request.query host session = (updated, .page page)) :
    PageOf request page updated := by
  have howned : Owned updated := by
    have hkept := @owned_handlePostAuthRoute config body request.query host session hok.owned
    rw [h] at hkept
    exact hkept
  unfold handlePostAuthRoute at h
  split at h
  · cases h
  · rename_i username password connection hprocess
    split at h
    · cases h
    · obtain ⟨husername, hpassword, hhost⟩ := processPostAuthRequest_filled hprocess
      cases h
      refine ⟨fun _ => ?_, fun htelnet => ?_, fun _ => ?_⟩
      · apply announces_of_unlocked howned
        · intro hmode
          cases hmode
        · rfl
      · cases htelnet
      · exact ⟨_, rfl, ⟨husername, ⟨connection.host, rfl, hhost⟩, ⟨password, rfl, hpassword⟩,
          rfl, rfl⟩⟩

-- Where a page is served that none of the credentials of the request go into.
theorem pageOf_plain {session : AuthSession} {underHost : Bool} {options : ConnectionOptions}
    (hok : SessionOk session) (hsupplied : request.suppliesCredentials = false)
    (hmode : options.protocol = .ssh → options.connectionMode ≠ some .hostLocked)
    (h : handleConnection session underHost options = .page page) :
    PageOf request page session := by
  unfold handleConnection at h
  cases h
  refine ⟨fun hssh => ?_, fun _ => hsupplied, fun htrue => ?_⟩
  · exact announces_of_unlocked hok.owned (hmode hssh) rfl
  · rw [hsupplied] at htrue
    cases htrue

-- What a request that is answered with a page says about the page and its session.
theorem pageOf_serve (hok : SessionOk session)
    (h : serve runtime escape config request session = (updated, .page page)) :
    PageOf request page updated := by
  unfold serve at h
  split at h
  · cases h
  · split at h
    · rename_i hroute
      obtain ⟨rfl, hpage⟩ := Prod.mk.inj h
      apply pageOf_plain hok _ _ hpage
      · simp [HttpRequest.suppliesCredentials, hroute]
      · simp
    · rename_i host hroute
      split at h
      · cases h
      · rename_i between hbetween
        exact pageOf_host hroute hok hbetween h
    · exact pageOf_post hok h
    · cases h
    · cases h
    · cases h
    · rename_i hroute
      split at h
      · obtain ⟨rfl, hpage⟩ := Prod.mk.inj h
        apply pageOf_plain hok _ _ hpage
        · simp [HttpRequest.suppliesCredentials, hroute]
        · simp
      · cases h
    · rename_i host hroute
      split at h
      · obtain ⟨rfl, hpage⟩ := Prod.mk.inj h
        apply pageOf_plain hok _ _ hpage
        · simp [HttpRequest.suppliesCredentials, hroute]
        · simp
      · cases h
    · rename_i host hroute
      split at h
      · obtain ⟨rfl, hpage⟩ := Prod.mk.inj h
        apply pageOf_plain hok _ _ hpage
        · simp [HttpRequest.suppliesCredentials, hroute]
        · simp
      · cases h
    · cases h

end Pages

section Openings

variable {config : LoginConfig}

-- What is known of a page from the time when it was served.
structure ServedOk (served : ServedPage) : Prop where
  host : served.page.protocol = .ssh → announcedHost served.page = sessionHost served.session
  port : served.page.protocol = .ssh → announcedPort served.page = sessionPort served.session
  telnet : served.page.protocol = .telnet → served.supplied = false
  supplied : served.supplied = true →
    ∃ credentials, served.session.sshCredentials = some credentials ∧ PlainLogin credentials

theorem loginFields_eq_iff {announced current : SshCredentials} {login : AuthCredentials}
    (hplain : PlainLogin announced) (h : ConvertsTo current login) :
    loginFields login.fields = loginFields announced.fields ↔
      SameTarget announced current ∧ announced.username = current.username ∧
        announced.password = filledText current.password ∧
        announced.privateKey = filledText current.privateKey := by
  obtain ⟨host, hhost, -⟩ := hplain.host
  constructor
  · intro hsame
    have husername := congrArg CredentialFields.username hsame
    have hhosts := congrArg CredentialFields.host hsame
    have hports := congrArg CredentialFields.port hsame
    have hpasswords := congrArg (fun fields => textOf fields.password) hsame
    have hkeys := congrArg (fun fields => textOf fields.privateKey) hsame
    simp only [loginFields, AuthCredentials.fields, SshCredentials.fields, textOf_map,
      Option.some.injEq, Json.string.injEq] at husername hpasswords hkeys
    refine ⟨⟨?_, ?_⟩, ?_, ?_, ?_⟩
    · rw [show (loginFields announced.fields).host = some (.string host) by
        simp [loginFields, SshCredentials.fields, hhost]] at hhosts
      cases hhosts
      rw [hhost, h.host]
    · rw [← h.port]
      cases hport : announced.port with
      | none =>
        rw [show (loginFields announced.fields).port = some .null by
          simp [loginFields, SshCredentials.fields, hport]] at hports
        cases hports
      | some port =>
        rw [show (loginFields announced.fields).port = some (.number port) by
          simp [loginFields, SshCredentials.fields, hport]] at hports
        cases hports
        rfl
    · rw [h.username]
      exact husername.symm
    · rw [← h.password]
      exact hpasswords.symm
    · rw [← h.privateKey]
      exact hkeys.symm
  · rintro ⟨htarget, husername, hpassword, hkey⟩
    have hnoKey : login.privateKey = none := by
      rw [h.privateKey, ← hkey]
      exact hplain.privateKey
    simp only [loginFields, AuthCredentials.fields, SshCredentials.fields, htarget.host,
      htarget.port, husername, hpassword, hkey, hplain.passphrase, h.username, h.host, h.port,
      h.password, h.privateKey, h.passphrase hnoKey, Option.map_some, Option.getD_some]

variable {session : AuthSession}

-- The pipeline has the announced credentials exactly where the session has them.
theorem authenticatedWith_iff {announced : SshCredentials} (hplain : PlainLogin announced)
    (hok : SessionOk session) :
    AuthenticatedWith announced session ↔
      ∃ current, session.sshCredentials = some current ∧ SameLogin announced current := by
  unfold AuthenticatedWith
  rw [detect_isAuthenticated hok, detect_getCredentials hok]
  constructor
  · rintro ⟨-, hsame⟩
    rw [Option.map_map, Option.map_eq_some_iff] at hsame
    obtain ⟨login, hlogin, hfields⟩ := hsame
    obtain ⟨current, hcurrent, hconverts⟩ := usable_eq_some hlogin
    obtain ⟨htarget, husername, hpassword, hkey⟩ :=
      (loginFields_eq_iff hplain hconverts).mp hfields
    have hrange : portInRange (current.port.getD (.ofInt 22)) = true := by
      unfold usable at hlogin
      rw [hcurrent, Option.bind_some] at hlogin
      exact (convert_stored_isSome.mp (Option.isSome_of_eq_some hlogin)).2.2.1
    exact ⟨current, hcurrent, htarget, husername, hpassword, hkey, hrange⟩
  · rintro ⟨current, hcurrent, hsame⟩
    obtain ⟨host, hhost, hhostNe⟩ := hplain.host
    obtain ⟨password, hpassword, -⟩ := hplain.password
    have hconvertible : (convertToAuthCredentials current.fields).isSome = true := by
      refine convert_stored_isSome.mpr ⟨?_, ?_, hsame.portInRange, ?_⟩
      · rw [← hsame.username]
        exact hplain.username
      · rw [← hsame.host, hhost, filledText_some hhostNe]
        rfl
      · rintro ⟨hnone, -⟩
        rw [← hsame.password, hpassword] at hnone
        cases hnone
    obtain ⟨login, hlogin⟩ := Option.isSome_iff_exists.mp hconvertible
    have husable : usable session = some login := by
      unfold usable
      rw [hcurrent, Option.bind_some]
      exact hlogin
    refine ⟨by rw [hcurrent]; exact Option.some_ne_none current, ?_⟩
    rw [husable]
    exact congrArg some ((loginFields_eq_iff hplain (convert_stored hlogin)).mpr
      ⟨hsame.toSameTarget, hsame.username, hsame.password, hsame.privateKey⟩)

-- The target of the login of a session, beside the one that a page announces.
theorem target_eq_iff {served : ServedPage} {login : AuthCredentials} (hserved : ServedOk served)
    (hssh : served.page.protocol = .ssh) (hlogin : usable session = some login) :
    ((loginFields login.fields).host = (announcedHost served.page).map Json.string ∧
        (loginFields login.fields).port = (announcedPort served.page).map Json.number) ↔
      ∃ announced current, served.session.sshCredentials = some announced ∧
        session.sshCredentials = some current ∧ SameTarget announced current := by
  obtain ⟨stored, hstored, hconverts⟩ := usable_eq_some hlogin
  rw [hserved.host hssh, hserved.port hssh]
  unfold sessionHost sessionPort
  cases hcredentials : served.session.sshCredentials with
  | none =>
    constructor
    · rintro ⟨hhost, -⟩
      cases hhost
    · rintro ⟨announced, -, hnone, -⟩
      cases hnone
  | some credentials =>
    rw [Option.bind_some, Option.bind_some]
    constructor
    · rintro ⟨hhost, hport⟩
      obtain ⟨host, hhost, hhosts⟩ := Option.map_eq_some_iff.mp hhost.symm
      obtain ⟨port, hport, hports⟩ := Option.map_eq_some_iff.mp hport.symm
      cases hhosts
      cases hports
      refine ⟨credentials, stored, rfl, hstored, ?_, ?_⟩
      · rw [hhost, hconverts.host]
      · rw [hport, hconverts.port]
    · rintro ⟨announced, current, hannounced, hcurrent, hsame⟩
      cases hannounced
      rw [hstored] at hcurrent
      cases hcurrent
      rw [hsame.host, hsame.port, hconverts.host, ← hconverts.port]
      exact ⟨rfl, rfl⟩

theorem opensAsAnnounced_iff {served : ServedPage} (hserved : ServedOk served)
    (hok : SessionOk session) (details : ClientDetails) :
    OpensAsAnnounced config served details session ↔ SessionAsServed config served session := by
  have hsupplied : (served.supplied = true → served.page.autoConnect = true →
      served.page.ssh ≠ none → ∃ credentials, served.session.sshCredentials = some credentials ∧
        AuthenticatedWith credentials session) ↔
      (served.supplied = true → served.page.autoConnect = true → served.page.ssh ≠ none →
        ∃ announced current, served.session.sshCredentials = some announced ∧
          session.sshCredentials = some current ∧ SameLogin announced current) := by
    refine forall_congr' fun hsupplied => forall_congr' fun _ => forall_congr' fun _ => ?_
    obtain ⟨credentials, hcredentials, hplain⟩ := hserved.supplied hsupplied
    constructor
    · rintro ⟨announced, hannounced, hauthenticated⟩
      rw [hcredentials] at hannounced
      cases hannounced
      obtain ⟨current, hcurrent, hsame⟩ := (authenticatedWith_iff hplain hok).mp hauthenticated
      exact ⟨credentials, current, hcredentials, hcurrent, hsame⟩
    · rintro ⟨announced, current, hannounced, hcurrent, hsame⟩
      rw [hcredentials] at hannounced
      cases hannounced
      exact ⟨credentials, hcredentials,
        (authenticatedWith_iff hplain hok).mpr ⟨current, hcurrent, hsame⟩⟩
  constructor
  · intro h
    refine ⟨?_, hsupplied.mp h.supplied⟩
    rintro ⟨login, hlogin, hallowed⟩
    have hopening := (opening_attempted hok config served.page.protocol details _).mpr
      ⟨login, hlogin, hallowed, rfl⟩
    cases hprotocol : served.page.protocol with
    | telnet =>
      rw [hprotocol] at hopening
      exact absurd hopening (h.telnet hprotocol _)
    | ssh => exact ⟨rfl, (target_eq_iff hserved hprotocol hlogin).mp (h.target _ hopening)⟩
  · intro h
    refine ⟨?_, ?_, hsupplied.mpr h.supplied⟩
    · intro creds hopening
      obtain ⟨login, hlogin, hallowed, rfl⟩ :=
        (opening_attempted hok config _ details _).mp hopening
      obtain ⟨hssh, htarget⟩ := h.target ⟨login, hlogin, hallowed⟩
      exact (target_eq_iff hserved hssh hlogin).mpr htarget
    · intro htelnet creds hopening
      rw [← htelnet] at hopening
      obtain ⟨login, hlogin, hallowed, -⟩ := (opening_attempted hok config _ details _).mp hopening
      obtain ⟨hssh, -⟩ := h.target ⟨login, hlogin, hallowed⟩
      rw [htelnet] at hssh
      cases hssh

end Openings

section Runs

variable (runtime : Runtime) (escape : JsString → JsString) (config : HttpConfig)

structure TabsOk (tabs : Tabs) : Prop where
  store : SessionOk tabs.state.store
  pages : ∀ served ∈ tabs.pages, ServedOk served

theorem servedOk_servedPage {request : HttpRequest} {store : AuthSession} {served : ServedPage}
    (hok : SessionOk store) (h : servedPage runtime escape config request store = some served) :
    ServedOk served := by
  unfold servedPage at h
  split at h
  · rename_i updated page hserve
    have hpage := pageOf_serve hok hserve
    cases h
    refine ⟨fun hssh => ?_, fun hssh => ?_, hpage.telnet, fun hsupplied => ?_⟩
    · rw [(hpage.announces hssh).host]
      unfold sessionHost storedSession
      dsimp only
      cases updated.sshCredentials with
      | none => rfl
      | some credentials => rfl
    · rw [(hpage.announces hssh).port]
      unfold sessionPort storedSession
      dsimp only
      cases updated.sshCredentials with
      | none => rfl
      | some credentials => rfl
    · obtain ⟨credentials, hcredentials, hplain⟩ := hpage.supplied hsupplied
      refine ⟨{ credentials with port := credentials.port.bind jsonNumber }, ?_, ?_⟩
      · unfold storedSession
        rw [hcredentials]
        rfl
      · exact ⟨hplain.username, hplain.host, hplain.password, hplain.privateKey,
          hplain.passphrase⟩
  · cases h

theorem tabsOk_step (tabs : Tabs) (event : TabEvent) (h : TabsOk tabs) :
    TabsOk (tabsStep runtime escape config tabs event) := by
  have hpages : ∀ served ∈ (tabsStep runtime escape config tabs event).pages,
      ServedOk served := by
    intro served hserved
    rcases List.mem_append.mp hserved with hold | hnew
    · exact h.pages served hold
    · have hsome := Option.mem_toList.mp hnew
      cases event with
      | request request => exact servedOk_servedPage runtime escape config h.store hsome
      | handshake page details => cases hsome
      | connectionError socket message => cases hsome
      | loginSucceeded socket => cases hsome
  cases event with
  | request request => exact ⟨sessionOk_serve h.store, hpages⟩
  | handshake page details => exact ⟨h.store, hpages⟩
  | connectionError socket message => exact ⟨h.store, hpages⟩
  | loginSucceeded socket => exact ⟨h.store, hpages⟩

-- Over every sequence of requests and handshakes of a session: the pages are opened as
-- they announce exactly where each finds the target and the credentials that it was
-- served with, and no page for telnet finds a login.
theorem opened_as_announced_iff (events : List TabEvent) :
    Run.Along (tabsStep runtime escape config) (OpenedAsAnnounced config) {} events ↔
      Run.Along (tabsStep runtime escape config) (OpenedAsServed config) {} events := by
  have hempty : TabsOk {} := by
    refine ⟨⟨?_, fun hne => absurd rfl hne⟩, fun served hserved => ?_⟩
    · intro hflag
      cases hflag
    · cases hserved
  refine Run.along_congr (fun tabs event h => tabsOk_step runtime escape config tabs event h)
    (fun tabs event h => ?_) hempty events
  cases event with
  | request request => exact Iff.rfl
  | connectionError socket message => exact Iff.rfl
  | loginSucceeded socket => exact Iff.rfl
  | handshake page details =>
    refine forall_congr' fun served => forall_congr' fun hserved => ?_
    exact opensAsAnnounced_iff (h.pages served (List.mem_of_getElem? hserved)) h.store details

end Runs

-- Two tabs log in to different hosts, and the first one opens its socket last.
theorem other_target_opened :
    ¬ ∀ (runtime : Runtime) (escape : JsString → JsString) (config : HttpConfig)
      (events : List TabEvent),
      Run.Along (tabsStep runtime escape config) (OpenedAsAnnounced config) {} events := by
  intro h
  obtain ⟨-, -, hopened, -⟩ := h asciiRuntime id sampleConfig [.request (samplePost "one"),
    .request (samplePost "two"), .handshake 0 {}]
  have hpage := hopened _ rfl
  have hhost := (hpage.target {
    username := some (.string (js "ann"))
    host := some (.string (js "two"))
    port := some (.number (.ofInt 22))
    password := some (.string (js "secret")) } (by decide)).1
  exact absurd hhost (by decide)

end WebSsh2.Http

import WebSsh2.Http.Routes
import WebSsh2.Library.Run

namespace WebSsh2.Http

open WebSsh2.Library WebSsh2.Auth WebSsh2.Socket

section Clearing

def Route.clears : Route → Bool
  | .clearCredentials | .forceReconnect | .reauth => true
  | _ => false

-- The request brings credentials that its route reads.
def HttpRequest.suppliesCredentials (request : HttpRequest) : Bool :=
  match request.route with
  | .host _ => request.basicAuth.isSome
  | .post _ => hasCredentialsInBody request.body
  | _ => false

-- A session, and whether its credentials were cleared with none supplied since.
structure TrackedSession where
  state : SessionState
  cleared : Bool

def trackCleared (cleared : Bool) : SessionEvent → Bool
  | .request request =>
    if request.route.clears then true
    else if request.suppliesCredentials then false
    else cleared
  | _ => cleared

def trackedStep (runtime : Runtime) (escape : JsString → JsString) (config : HttpConfig)
    (tracked : TrackedSession) (event : SessionEvent) : TrackedSession where
  state := sequenceStep runtime escape config tracked.state event
  cleared := trackCleared tracked.cleared event

-- A socket that opens with the session is logged in at once.
def treatedAsAuthenticated (session : AuthSession) : Bool :=
  (AuthProvider.detect (some session)).isAuthenticated (some session)

def CredentialsStayCleared (tracked : TrackedSession) : Prop :=
  tracked.cleared = true →
    tracked.state.store.sshCredentials = none ∧
      treatedAsAuthenticated tracked.state.store = false

-- The route takes the body, as it is after the middleware.
def postAccepted (config : HttpConfig) (request : HttpRequest) (host : Option JsString) : Bool :=
  !csrfRefuses config request &&
    match processPostAuthRequest (bodyWithHost (ssoBody config request) host) request.query config
    with
    | .ok (_, password, _) => (routePolicy config (some password) none).toBool
    | .error _ => false

-- The request has no credentials of its own and is given those of the configuration.
def takesConfigured (config : HttpConfig) (request : HttpRequest) (store : AuthSession) : Prop :=
  match request.route with
  | .host _ => request.basicAuth = none ∧ hasConfigCredentials config.user = true ∧
      store.authFailed ≠ some true
  | .post host => hasCredentialsInBody request.body = false ∧
      postAccepted config request host = true
  | _ => False

-- The condition on a step: the route that clears nothing finds nothing to clear, and no
-- request is given the configured credentials while they are to stay cleared.
def ClearsInFact (config : HttpConfig) (tracked : TrackedSession) : SessionEvent → Prop
  | .request request =>
    (request.route = .clearCredentials → tracked.state.store.sshCredentials = none) ∧
      (tracked.cleared = true → ¬ takesConfigured config request tracked.state.store)
  | _ => True

end Clearing

section Routes

variable {runtime : Runtime} {escape : JsString → JsString} {config : HttpConfig}

variable {session : AuthSession}

theorem treatedAsAuthenticated_of_none (h : session.sshCredentials = none) :
    treatedAsAuthenticated session = false := by
  unfold treatedAsAuthenticated
  rw [AuthProvider.detect_of_none h]
  rfl

theorem storedSession_sshCredentials_eq_none :
    (storedSession session).sshCredentials = none ↔ session.sshCredentials = none := by
  unfold storedSession
  exact Option.map_eq_none_iff

theorem deleteProperty_sshCredentials (session : AuthSession) :
    (deleteProperty session (js "sshCredentials")).sshCredentials = none := by
  unfold deleteProperty
  rw [if_pos rfl]

theorem deleteProperty_keeps_none (key : JsString) (h : session.sshCredentials = none) :
    (deleteProperty session key).sshCredentials = none := by
  unfold deleteProperty
  split
  · rfl
  · split
    · exact h
    · split
      · exact h
      · split
        · exact h
        · exact h

theorem foldl_deleteProperty_keeps_none (keys : List JsString) (h : session.sshCredentials = none) :
    (keys.foldl deleteProperty session).sshCredentials = none := by
  induction keys generalizing session with
  | nil => exact h
  | cons key rest ih => exact ih (deleteProperty_keeps_none key h)

theorem handleReauth_sshCredentials (session : AuthSession) :
    (handleReauth session).1.sshCredentials = none := by
  have hmem : js "sshCredentials" ∈ (processReauthRequest session).1 := by
    refine List.mem_eraseDups.mpr (List.mem_append_left _ ?_)
    exact List.mem_cons_self
  obtain ⟨before, after, hsplit⟩ := List.append_of_mem hmem
  unfold handleReauth
  dsimp only
  rw [hsplit, List.foldl_append, List.foldl_cons]
  exact foldl_deleteProperty_keeps_none after (deleteProperty_sshCredentials _)

-- The route of a host changes the target of credentials, but neither adds nor removes any.
theorem handleSshGetRoute_sshCredentials (config : HttpConfig) (query : Fields)
    (host : Option JsString) (session : AuthSession) :
    (handleSshGetRoute config query host session).1.sshCredentials = none ↔
      session.sshCredentials = none := by
  unfold handleSshGetRoute
  split
  · exact Iff.rfl
  · split
    · exact Iff.rfl
    · split
      · exact Iff.rfl
      · exact Option.map_eq_none_iff

theorem extractConfigCredentials_isSome (user : UserConfig) :
    (extractConfigCredentials user).isSome = hasConfigCredentials user := by
  unfold extractConfigCredentials
  split
  · rename_i h
    rw [h]
    rfl
  · rename_i h
    exact (Bool.eq_false_iff.mpr h).symm

-- Without a header, the middleware has the configured credentials only.
theorem serve_host_without_header {request : HttpRequest} {host : Option JsString}
    (hroute : request.route = .host host) (hheader : request.basicAuth = none)
    (hnone : session.sshCredentials = none) :
    (serve runtime escape config request session).1.sshCredentials = none ↔
      ¬ (hasConfigCredentials config.user = true ∧ session.authFailed ≠ some true) := by
  have hcsrf : csrfRefuses config request = false :=
    csrfRefuses_of_not_post config (by rw [hroute]; rfl)
  unfold serve
  rw [hcsrf, if_neg Bool.false_ne_true, hroute, hheader]
  dsimp only
  unfold authMiddleware processAuthentication
  dsimp only
  cases hextract : extractConfigCredentials config.user with
  | none =>
    have hconfig := extractConfigCredentials_isSome config.user
    rw [hextract] at hconfig
    simp [hnone, ← hconfig]
  | some credentials =>
    have hconfig := extractConfigCredentials_isSome config.user
    rw [hextract] at hconfig
    by_cases hfailed : session.authFailed = some true
    · simp only [hfailed, if_true]
      rw [handleSshGetRoute_sshCredentials]
      simp
    · simp only [hfailed, if_false]
      rw [handleSshGetRoute_sshCredentials]
      simp [createSessionData, ← hconfig, hfailed]

theorem serve_post {request : HttpRequest} {host : Option JsString}
    (hroute : request.route = .post host) (hnone : session.sshCredentials = none) :
    (serve runtime escape config request session).1.sshCredentials = none ↔
      postAccepted config request host = false := by
  unfold serve postAccepted
  cases hcsrf : csrfRefuses config request with
  | true => simp [hnone]
  | false =>
    rw [if_neg Bool.false_ne_true, hroute]
    dsimp only
    unfold handlePostAuthRoute
    cases hprocess : processPostAuthRequest (bodyWithHost (ssoBody config request) host)
        request.query config with
    | error message => simp [hnone]
    | ok accepted =>
      rcases accepted with ⟨username, password, connection⟩
      dsimp only
      cases hpolicy : routePolicy config (some password) none with
      | error method => simp [hnone, Except.toBool]
      | ok methods => simp [createAuthSessionUpdates, Except.toBool]

end Routes

section Runs

variable (runtime : Runtime) (escape : JsString → JsString) (config : HttpConfig)

theorem stayCleared_iff_none {tracked : TrackedSession} (hcleared : tracked.cleared = true) :
    CredentialsStayCleared tracked ↔ tracked.state.store.sshCredentials = none := by
  constructor
  · intro h
    exact (h hcleared).1
  · intro h _
    exact ⟨h, treatedAsAuthenticated_of_none h⟩

theorem stayCleared_request {tracked : TrackedSession} (request : HttpRequest)
    (hcleared : trackCleared tracked.cleared (.request request) = true) :
    CredentialsStayCleared (trackedStep runtime escape config tracked (.request request)) ↔
      (serve runtime escape config request tracked.state.store).1.sshCredentials = none := by
  rw [stayCleared_iff_none hcleared]
  exact storedSession_sshCredentials_eq_none

variable {request : HttpRequest} {store : AuthSession}

-- A request that supplies credentials is not given any.
theorem not_takesConfigured_of_supplies (h : request.suppliesCredentials = true) :
    ¬ takesConfigured config request store := by
  unfold HttpRequest.suppliesCredentials at h
  unfold takesConfigured
  intro htakes
  split at h
  · rename_i host hroute
    rw [hroute] at htakes
    rw [htakes.1] at h
    cases h
  · rename_i host hroute
    rw [hroute] at htakes
    rw [htakes.1] at h
    cases h
  · cases h

-- Requests on which the routes leave the credentials as they are.
theorem serve_unchanged (session : AuthSession) (hclears : request.route.clears = false)
    (hhost : ∀ host, request.route ≠ .host host) (hpost : ∀ host, request.route ≠ .post host) :
    (serve runtime escape config request session).1 = session := by
  unfold serve
  split
  · rfl
  · cases hroute : request.route with
    | root => rfl
    | host host => exact absurd hroute (hhost host)
    | post host => exact absurd hroute (hpost host)
    | clearCredentials => rfl
    | forceReconnect | reauth =>
      rw [hroute] at hclears
      cases hclears
    | telnetRoot | telnetHost | telnetPost => dsimp only; split <;> rfl
    | unrelated => rfl

theorem serve_clears {cleared : Bool} {sockets : List AuthSession}
    (hclears : request.route.clears = true) :
    (serve runtime escape config request store).1.sshCredentials = none ↔
      ClearsInFact config ⟨⟨store, sockets⟩, cleared⟩ (.request request) := by
  have hcsrf : csrfRefuses config request = false := by
    apply csrfRefuses_of_not_post
    cases hroute : request.route <;> simp_all [Route.isPost, Route.clears]
  have htakes : ¬ takesConfigured config request store := by
    unfold takesConfigured
    cases hroute : request.route <;> simp_all [Route.clears]
  unfold serve ClearsInFact
  rw [hcsrf, if_neg Bool.false_ne_true]
  cases hroute : request.route with
  | clearCredentials => simp [handleClearCredentials, htakes, hroute]
  | forceReconnect =>
    simp [handleForceReconnect, deleteProperty_sshCredentials, htakes, hroute]
  | reauth => simp [handleReauth_sshCredentials, htakes, hroute]
  | root | host _ | post _ | telnetRoot | telnetHost _ | telnetPost _ | unrelated =>
    rw [hroute] at hclears
    cases hclears

theorem serve_without_credentials {sockets : List AuthSession}
    (hclears : request.route.clears = false) (hsupplies : request.suppliesCredentials = false)
    (hnone : store.sshCredentials = none) :
    (serve runtime escape config request store).1.sshCredentials = none ↔
      ClearsInFact config ⟨⟨store, sockets⟩, true⟩ (.request request) := by
  have hroute : request.route ≠ .clearCredentials := by
    intro h
    rw [h] at hclears
    cases hclears
  have hfacts : ClearsInFact config ⟨⟨store, sockets⟩, true⟩ (.request request) ↔
      ¬ takesConfigured config request store := by
    simp [ClearsInFact, hroute]
  rw [hfacts]
  unfold HttpRequest.suppliesCredentials at hsupplies
  unfold takesConfigured
  cases hroute : request.route with
  | host host =>
    rw [hroute] at hsupplies
    have hheader : request.basicAuth = none := by simpa using hsupplies
    rw [serve_host_without_header hroute hheader hnone]
    simp [hheader]
  | post host =>
    rw [hroute] at hsupplies
    rw [serve_post hroute hnone]
    simp [show hasCredentialsInBody request.body = false from hsupplies]
  | root | clearCredentials | forceReconnect | reauth | telnetRoot | telnetHost _ | telnetPost _ |
    unrelated =>
      rw [serve_unchanged runtime escape config store hclears (by simp [hroute])
        (by simp [hroute])]
      simp [hnone]

theorem stayCleared_step_iff (tracked : TrackedSession) (event : SessionEvent)
    (h : CredentialsStayCleared tracked) :
    CredentialsStayCleared (trackedStep runtime escape config tracked event) ↔
      ClearsInFact config tracked event := by
  rcases tracked with ⟨⟨store, sockets⟩, cleared⟩
  cases event with
  | handshake | connectionError | loginSucceeded => exact ⟨fun _ => trivial, fun _ => h⟩
  | request request =>
    by_cases hclears : request.route.clears = true
    · rw [stayCleared_request runtime escape config request (by simp [trackCleared, hclears])]
      exact serve_clears runtime escape config hclears
    · rw [Bool.not_eq_true] at hclears
      by_cases hsupplies : request.suppliesCredentials = true
      · -- the promise ends with this request
        have hroute : request.route ≠ .clearCredentials := by
          intro heq
          rw [heq] at hclears
          cases hclears
        constructor
        · intro _
          exact ⟨fun heq => absurd heq hroute, fun _ =>
            not_takesConfigured_of_supplies config hsupplies⟩
        · intro _ hcleared
          simp [trackedStep, trackCleared, hclears, hsupplies] at hcleared
      · rw [Bool.not_eq_true] at hsupplies
        cases cleared with
        | false =>
          constructor
          · intro _
            refine ⟨fun heq => ?_, fun hcleared => by cases hcleared⟩
            rw [heq] at hclears
            cases hclears
          · intro _ hcleared
            simp [trackedStep, trackCleared, hclears, hsupplies] at hcleared
        | true =>
          rw [stayCleared_request runtime escape config request
            (by simp [trackCleared, hclears, hsupplies])]
          exact serve_without_credentials runtime escape config hclears hsupplies (h rfl).1

-- For every sequence of requests, handshakes and logins, from every session: cleared
-- credentials stay cleared exactly when each clearing route had nothing left to clear or
-- did clear it, and no configured credentials came in between.
theorem stay_cleared_iff (store : AuthSession) (sockets : List AuthSession)
    (events : List SessionEvent) :
    Run.Throughout (trackedStep runtime escape config) CredentialsStayCleared
        ⟨⟨store, sockets⟩, false⟩ events ↔
      Run.Along (trackedStep runtime escape config) (ClearsInFact config)
        ⟨⟨store, sockets⟩, false⟩ events := by
  refine @Run.throughout_iff_along _ _ _ (fun _ => True) _ _ (fun _ _ _ => trivial)
    (fun tracked event _ h => stayCleared_step_iff runtime escape config tracked event h)
    _ trivial ?_ events
  intro hcleared
  cases hcleared

end Runs

-- After a login by form, the route that announces to clear the credentials keeps them.
theorem cleared_credentials_stay :
    ¬ ∀ (runtime : Runtime) (escape : JsString → JsString) (config : HttpConfig)
      (store : AuthSession) (sockets : List AuthSession) (events : List SessionEvent),
      Run.Throughout (trackedStep runtime escape config) CredentialsStayCleared
        ⟨⟨store, sockets⟩, false⟩ events := by
  intro h
  have hcleared := Run.throughout_last _ (h asciiRuntime id sampleConfig {} []
    [.request (samplePost "web"), .request { route := .clearCredentials }])
  have hnone := (hcleared (by decide)).1
  have hsome : (Run.run (trackedStep asciiRuntime id sampleConfig) ⟨⟨{}, []⟩, false⟩
      [.request (samplePost "web"), .request { route := .clearCredentials }]
      ).state.store.sshCredentials ≠ none := by decide
  exact hsome hnone

end WebSsh2.Http

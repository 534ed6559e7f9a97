import WebSsh2.Socket.Identity

namespace WebSsh2.Socket

open WebSsh2.Library WebSsh2.Library.Run WebSsh2.State WebSsh2.Auth

-- A socket, and whether its `disconnect` was handled. Its connections are those that the
-- pool of the service has on its behalf.
structure SocketLifetime where
  socket : LiveSocket
  gone : Bool

-- A connection that ends by itself leaves the SSH pool; the telnet pool keeps it.
inductive LifetimeEvent where
  | socket (event : SocketEvent)
  | closed (connectionId : ConnectionId)

section Steps

variable (runtime : Runtime) (config : LoginConfig) (options : ControlOptions)
  (protocol : Protocol)

def closeHandler (socket : LiveSocket) (connectionId : ConnectionId) : LiveSocket :=
  match protocol with
  | .ssh => { socket with connections := socket.connections.delete connectionId }
  | .telnet => socket

-- The answer to a connect call and the rest of `handleAuthentication` are one step: what
-- awaits a settled promise runs before any other event.
def lifetimeStep (lifetime : SocketLifetime) : LifetimeEvent → SocketLifetime
  | .socket (.disconnect ends) => {
      socket := step runtime config options protocol lifetime.socket (.disconnect ends)
      gone := true }
  | .socket event =>
    { lifetime with socket := step runtime config options protocol lifetime.socket event }
  | .closed connectionId =>
    { lifetime with socket := closeHandler protocol lifetime.socket connectionId }

def openLifetime (session : Option AuthSession) (details : ClientDetails) : SocketLifetime where
  socket := openSocket config protocol session details
  gone := false

end Steps

def Pooled (socket : LiveSocket) (connectionId : ConnectionId) : Prop :=
  (socket.connections.get connectionId).isSome

instance (socket : LiveSocket) (connectionId : ConnectionId) :
    Decidable (Pooled socket connectionId) :=
  inferInstanceAs (Decidable (_ = true))

-- A socket that is there has at most the connection of its state, and one that is gone
-- has none once its attempts are over.
structure Accounted (lifetime : SocketLifetime) : Prop where
  present : lifetime.gone = false → ∀ connectionId, Pooled lifetime.socket connectionId →
    lifetime.socket.context.state.connectionId = some connectionId
  gone : lifetime.gone = true → lifetime.socket.attempts = [] →
    ∀ connectionId, ¬ Pooled lifetime.socket connectionId

-- An attempt that is over without a connection. It may be the last one of a socket that
-- is gone.
def EndsWell (lifetime : SocketLifetime) (index : Nat) : Prop :=
  lifetime.gone = true → lifetime.socket.attempts.eraseIdx index = [] →
    ∀ connectionId, ¬ Pooled lifetime.socket connectionId

-- A connection is established while no other one of the socket is in the pool, and
-- after the disconnect only if it can still end before another attempt does.
def EstablishesWell (lifetime : SocketLifetime) (index : Nat) (connectionId : ConnectionId) :
    Prop :=
  if lifetime.gone then lifetime.socket.attempts.eraseIdx index ≠ []
  else ∀ other, Pooled lifetime.socket other → other = connectionId

def KeepsAccount (lifetime : SocketLifetime) : LifetimeEvent → Prop
  | .socket (.authenticated index none) =>
    ∀ pending, lifetime.socket.attempts[index]? = some pending → pending.sessionId = none →
      EndsWell lifetime index
  | .socket (.connected index (.error _)) =>
    ∀ pending, lifetime.socket.attempts[index]? = some pending → pending.sessionId ≠ none →
      EndsWell lifetime index
  | .socket (.connected index (.ok connectionId)) =>
    ∀ pending, lifetime.socket.attempts[index]? = some pending → pending.sessionId ≠ none →
      EstablishesWell lifetime index connectionId
  | .socket (.disconnect ends) => ends = false → lifetime.socket.attempts = [] →
    ∀ connectionId, ¬ Pooled lifetime.socket connectionId
  | _ => True

section Runs

variable {runtime : Runtime} {config : LoginConfig} {options : ControlOptions}
  {protocol : Protocol} {lifetime : SocketLifetime}

variable {socket : LiveSocket}

-- What changes neither the connections nor which of them the state names, and ends no
-- attempt.
theorem accounted_of_same (h : Accounted lifetime)
    (hpool : ∀ connectionId, Pooled socket connectionId → Pooled lifetime.socket connectionId)
    (hstate : socket.context.state.connectionId = lifetime.socket.context.state.connectionId)
    (hattempts : socket.attempts = [] → lifetime.socket.attempts = []) :
    Accounted { lifetime with socket } where
  present hgone connectionId hpooled :=
    hstate.trans (h.present hgone connectionId (hpool connectionId hpooled))
  gone hgone hnil connectionId hpooled :=
    h.gone hgone (hattempts hnil) connectionId (hpool connectionId hpooled)

theorem storePasswordIfEnabled_connectionId (config : LoginConfig)
    (state : AdapterSharedState LiveShell) (given : CredentialFields) :
    (storePasswordIfEnabled config state given).connectionId = state.connectionId := by
  unfold storePasswordIfEnabled
  cases getNonEmptyString given.password <;> cases config.allowReplay <;> rfl

theorem prepareAuthCredentials_connectionId (config : LoginConfig) (protocol : Protocol)
    (session : Option AuthSession) (context : AuthContext LiveShell) (credentials : JsonValue) :
    (prepareAuthCredentials config protocol session context credentials).1.state.connectionId =
      context.state.connectionId := by
  unfold prepareAuthCredentials
  cases hupdate : updateAuthPipeline context credentials with
  | error failure => rfl
  | ok updated =>
    have hstate : updated.state = context.state := by
      unfold updateAuthPipeline at hupdate
      split at hupdate
      · rw [← Except.ok.inj hupdate]
      · split at hupdate
        · rw [← Except.ok.inj hupdate]
        · cases hupdate
    dsimp only
    cases updated.provider.getCredentials session with
    | none => rw [hstate]
    | some validated =>
      have hproceed : (buildAuthCredentials (storePasswordIfEnabled config
          (storeTerminalSettings updated.state credentials) validated) validated
          credentials).1.connectionId = context.state.connectionId := by
        rw [← hstate]
        exact storePasswordIfEnabled_connectionId config _ validated
      cases protocol with
      | telnet => exact hproceed
      | ssh =>
        dsimp only
        cases enforceAuthMethodPolicy config updated.state validated with
        | ok asked => exact hproceed
        | error method =>
          show updated.state.connectionId = context.state.connectionId
          rw [hstate]

theorem serveRequest_connectionId (socket : LiveSocket) (request : AuthRequest) :
    (serveRequest config protocol socket.session socket.context request).1.state.connectionId =
      socket.context.state.connectionId := by
  cases request with
  | thrown | ignored | refused failure => rfl
  | credentials answered credentials =>
    have hannounce : (announce answered socket.context).state.connectionId =
        socket.context.state.connectionId := by cases answered <;> rfl
    have hprepare := prepareAuthCredentials_connectionId config protocol socket.session
      (initializeAuthAttempt (announce answered socket.context) credentials) credentials
    rw [← hannounce, serveRequest, handleAuthentication, startAuthentication]
    refine Eq.trans ?_ hprepare
    split
    · rename_i heq
      rw [heq]
    · rename_i heq
      rw [heq]

-- A message starts an attempt at most.
theorem attempt_accounted (h : Accounted lifetime) (request : AuthRequest) :
    Accounted { lifetime with
      socket := attempt config protocol lifetime.socket request } := by
  have hconnectionId := @serveRequest_connectionId config protocol lifetime.socket request
  unfold attempt
  cases hserve : serveRequest config protocol lifetime.socket.session lifetime.socket.context
      request with
  | mk context outcome =>
    rw [hserve] at hconnectionId
    dsimp only
    split
    · refine accounted_of_same h (fun _ hpooled => hpooled) hconnectionId fun hnil => ?_
      simp at hnil
    · exact accounted_of_same h (fun _ hpooled => hpooled) hconnectionId fun hnil => hnil

-- An attempt that is dropped may leave a socket that is gone without any.
theorem dropped_accounted_iff (h : Accounted lifetime) (index : Nat)
    (hconnections : socket.connections = lifetime.socket.connections)
    (hcontext : socket.context = lifetime.socket.context)
    (hattempts : socket.attempts = lifetime.socket.attempts.eraseIdx index) :
    Accounted { lifetime with socket } ↔ EndsWell lifetime index := by
  have hpooled : ∀ connectionId, Pooled socket connectionId ↔
      Pooled lifetime.socket connectionId := by
    intro connectionId
    unfold Pooled
    rw [hconnections]
  constructor
  · intro hnext hgone hnil connectionId hbefore
    exact hnext.gone hgone (hattempts.trans hnil) connectionId ((hpooled connectionId).mpr hbefore)
  · intro hends
    refine ⟨fun hgone connectionId hafter => ?_, fun hgone hnil connectionId hafter => ?_⟩
    · dsimp only
      rw [hcontext]
      exact h.present hgone connectionId ((hpooled connectionId).mp hafter)
    · exact hends hgone (hattempts.symm.trans hnil) connectionId
        ((hpooled connectionId).mp hafter)

theorem authenticated_accounted_iff (h : Accounted lifetime) (index : Nat)
    (result : Option SessionId) :
    Accounted { lifetime with socket := authenticated lifetime.socket index result } ↔
      KeepsAccount lifetime (.socket (.authenticated index result)) := by
  unfold authenticated
  split
  · rename_i credentials hpending
    cases result with
    | some sessionId =>
      refine iff_of_true (accounted_of_same h (fun _ hpooled => hpooled) rfl fun hnil => ?_)
        trivial
      simpa using congrArg List.length hnil
    | none =>
      have hkeeps : KeepsAccount lifetime (.socket (.authenticated index none)) ↔
          EndsWell lifetime index :=
        ⟨fun hkeeps => hkeeps _ hpending rfl, fun hends _ _ _ => hends⟩
      refine Iff.trans (dropped_accounted_iff h index ?_ ?_ ?_) hkeeps.symm <;> rfl
  · rename_i hother
    refine iff_of_true h ?_
    cases result with
    | some sessionId => exact trivial
    | none =>
      intro pending hpending hsession
      refine absurd ?_ (hother pending.credentials)
      rw [hpending, ← hsession]

theorem established_accounted_iff (index : Nat) {connectionId : ConnectionId}
    {credentials : CredentialFields}
    (hconnections : socket.connections = lifetime.socket.connections.set connectionId credentials)
    (hstate : socket.context.state.connectionId = some connectionId)
    (hattempts : socket.attempts = lifetime.socket.attempts.eraseIdx index) :
    Accounted { lifetime with socket } ↔ EstablishesWell lifetime index connectionId := by
  have hpooled : ∀ other, Pooled socket other ↔
      connectionId = other ∨ Pooled lifetime.socket other := by
    intro other
    unfold Pooled
    rw [hconnections, OrderedMap.get_set]
    by_cases hother : connectionId = other <;> simp [hother]
  unfold EstablishesWell
  cases hgone : lifetime.gone with
  | true =>
    rw [if_pos rfl]
    constructor
    · intro hnext hnil
      exact hnext.gone rfl (hattempts.trans hnil) connectionId
        ((hpooled connectionId).mpr (Or.inl rfl))
    · intro hmore
      refine ⟨fun hthere => ?_, fun _ hnil => ?_⟩
      · cases hthere
      · exact absurd (hattempts.symm.trans hnil) hmore
  | false =>
    rw [if_neg (by simp)]
    constructor
    · intro hnext other hbefore
      have hnamed := hnext.present rfl other ((hpooled other).mpr (Or.inr hbefore))
      rw [hstate] at hnamed
      exact (Option.some.inj hnamed).symm
    · intro honly
      refine ⟨fun _ other hafter => ?_, fun hthere => ?_⟩
      · rw [hstate]
        rcases (hpooled other).mp hafter with rfl | hbefore
        · rfl
        · rw [honly other hbefore]
      · cases hthere

theorem connected_accounted_iff (h : Accounted lifetime) (index : Nat)
    (result : Except JsString ConnectionId) :
    Accounted { lifetime with
      socket := connected runtime protocol lifetime.socket index result } ↔
      KeepsAccount lifetime (.socket (.connected index result)) := by
  unfold connected
  split
  · rename_i credentials sessionId hpending
    cases result with
    | error message =>
      have hkeeps : KeepsAccount lifetime (.socket (.connected index (.error message))) ↔
          EndsWell lifetime index :=
        ⟨fun hkeeps => hkeeps _ hpending (by simp), fun hends _ _ _ => hends⟩
      refine Iff.trans (dropped_accounted_iff h index ?_ ?_ ?_) hkeeps.symm <;> rfl
    | ok connectionId =>
      have hkeeps : KeepsAccount lifetime (.socket (.connected index (.ok connectionId))) ↔
          EstablishesWell lifetime index connectionId :=
        ⟨fun hkeeps => hkeeps _ hpending (by simp), fun hwell _ _ _ => hwell⟩
      rw [hkeeps]
      exact established_accounted_iff index rfl rfl rfl
  · rename_i hother
    refine iff_of_true h ?_
    cases result <;>
    · intro pending hpending hsession
      obtain ⟨sessionId, hsession⟩ := Option.ne_none_iff_exists'.mp hsession
      refine absurd ?_ (hother pending.credentials sessionId)
      rw [hpending, ← hsession]

theorem requestTerminal_accounted (h : Accounted lifetime) :
    Accounted { lifetime with socket := requestTerminal lifetime.socket } := by
  unfold requestTerminal
  split
  · split
    · exact accounted_of_same h (fun _ hpooled => hpooled) rfl id
    · exact h
  · exact h

theorem setupShellDataFlow_accounted (h : Accounted lifetime) (call : Nat) (opened : Bool) :
    Accounted { lifetime with socket := setupShellDataFlow lifetime.socket call opened } := by
  unfold setupShellDataFlow
  split
  · cases opened
    · exact accounted_of_same h (fun _ hpooled => hpooled) rfl id
    · exact accounted_of_same h (fun _ hpooled => hpooled) rfl id
  · exact h

theorem control_accounted (h : Accounted lifetime) (message : JsValue) :
    Accounted { lifetime with socket := control config options lifetime.socket message } := by
  unfold control
  split
  · exact accounted_of_same h (fun _ hpooled => hpooled) rfl id
  · exact h

-- Where the `end()` throws, the disconnect closes nothing.
theorem disconnect_accounted_iff_of_throws :
    Accounted { socket := disconnect lifetime.socket false, gone := true } ↔
      (lifetime.socket.attempts = [] →
        ∀ connectionId, ¬ Pooled lifetime.socket connectionId) := by
  have hsame : (disconnect lifetime.socket false).connections = lifetime.socket.connections := by
    unfold disconnect
    dsimp only
    split <;> rfl
  have hpool : ∀ connectionId, Pooled (disconnect lifetime.socket false) connectionId ↔
      Pooled lifetime.socket connectionId := by
    intro connectionId
    rw [Pooled, Pooled, hsame]
  constructor
  · intro h hnil connectionId hpooled
    exact h.gone rfl hnil connectionId ((hpool connectionId).mpr hpooled)
  · intro hnone
    refine ⟨Bool.noConfusion, fun _ hnil connectionId hpooled => ?_⟩
    exact hnone hnil connectionId ((hpool connectionId).mp hpooled)

-- Else it closes the connection that the state names, so all there is.
theorem disconnect_accounted (h : Accounted lifetime) :
    Accounted { socket := disconnect lifetime.socket true, gone := true } := by
  refine ⟨Bool.noConfusion, fun _ hnil other hpooled => ?_⟩
  unfold disconnect Pooled at hpooled
  dsimp only at hpooled
  have hbefore : Pooled lifetime.socket other ∧
      lifetime.socket.context.state.connectionId ≠ some other := by
    cases hid : lifetime.socket.context.state.connectionId with
    | none =>
      rw [hid] at hpooled
      exact ⟨hpooled, by simp⟩
    | some connectionId =>
      rw [hid] at hpooled
      dsimp only at hpooled
      rw [if_pos rfl, OrderedMap.get_delete] at hpooled
      by_cases hother : connectionId = other
      · simp [hother] at hpooled
      · rw [if_neg hother] at hpooled
        exact ⟨hpooled, by simpa using hother⟩
  cases hgone : lifetime.gone with
  | false => exact hbefore.2 (h.present hgone other hbefore.1)
  | true => exact h.gone hgone hnil other hbefore.1

theorem closeHandler_accounted (h : Accounted lifetime) (connectionId : ConnectionId) :
    Accounted { lifetime with
      socket := closeHandler protocol lifetime.socket connectionId } := by
  cases protocol with
  | telnet => exact h
  | ssh =>
    refine accounted_of_same h (fun other hpooled => ?_) rfl id
    obtain ⟨login, hlogin⟩ := Option.isSome_iff_exists.mp hpooled
    exact Option.isSome_iff_exists.mpr ⟨login, OrderedMap.get_of_get_delete hlogin⟩

theorem lifetimeStep_accounted_iff (h : Accounted lifetime) (event : LifetimeEvent) :
    Accounted (lifetimeStep runtime config options protocol lifetime event) ↔
      KeepsAccount lifetime event := by
  cases event with
  | closed connectionId => exact iff_of_true (closeHandler_accounted h connectionId) trivial
  | socket event =>
    cases event with
    | authenticate message => exact iff_of_true (attempt_accounted h _) trivial
    | promptAnswered responses => exact iff_of_true (attempt_accounted h _) trivial
    | authenticated index result => exact authenticated_accounted_iff h index result
    | connected index result => exact connected_accounted_iff h index result
    | terminal => exact iff_of_true (requestTerminal_accounted h) trivial
    | shellOpened call opened =>
      exact iff_of_true (setupShellDataFlow_accounted h call opened) trivial
    | control message => exact iff_of_true (control_accounted h message) trivial
    | disconnect ends =>
      cases ends with
      | false =>
        refine Iff.trans disconnect_accounted_iff_of_throws ?_
        exact ⟨fun hnone _ => hnone, fun hnone => hnone rfl⟩
      | true => exact iff_of_true (disconnect_accounted h) nofun

theorem openLifetime_accounted (session : Option AuthSession) (details : ClientDetails) :
    Accounted (openLifetime config protocol session details) := by
  refine ⟨fun _ connectionId hpooled => ?_, fun hgone => by cases hgone⟩
  cases hpooled

-- Every connection of a socket is accounted for in all of a run exactly when no connect
-- call succeeds beside another connection or after the disconnect, and the disconnect does not
-- fail to close one.
theorem accounted_iff (runtime : Runtime) (config : LoginConfig) (options : ControlOptions)
    (protocol : Protocol) (session : Option AuthSession) (details : ClientDetails)
    (events : List LifetimeEvent) :
    Throughout (lifetimeStep runtime config options protocol) Accounted
        (openLifetime config protocol session details) events ↔
      Along (lifetimeStep runtime config options protocol) KeepsAccount
        (openLifetime config protocol session details) events :=
  @throughout_iff_along _ _ (lifetimeStep runtime config options protocol) (fun _ => True)
    Accounted KeepsAccount (fun _ _ _ => trivial)
    (fun _ event _ h => lifetimeStep_accounted_iff h event) _ trivial
    (openLifetime_accounted session details) events

-- The socket disconnects while its login waits for the server.
def disconnectedWhileConnecting : List LifetimeEvent :=
  [.socket (.authenticate (some (passwordMessage (js "alpha")))),
    .socket (.authenticated 0 (some (js "s"))), .socket (.disconnect true),
    .socket (.connected 0 (.ok (js "c")))]

theorem accounted_not_disconnectedWhileConnecting :
    ¬ ∀ (runtime : Runtime) (config : LoginConfig) (options : ControlOptions)
      (protocol : Protocol) (session : Option AuthSession) (details : ClientDetails)
      (events : List LifetimeEvent),
      Accounted (run (lifetimeStep runtime config options protocol)
        (openLifetime config protocol session details) events) := by
  intro h
  have hlast := h asciiRuntime replayConfig replayOptions .ssh none {} disconnectedWhileConnecting
  exact hlast.gone (by decide) (by decide) (js "c") (by decide)

end Runs

end WebSsh2.Socket

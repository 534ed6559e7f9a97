import WebSsh2.State.Store
import WebSsh2.Library.Run

namespace WebSsh2.State

open WebSsh2.Library

-- An action with the time at which the reducers handle it.
abbrev TimedAction := Time × SessionAction

variable (state : SessionState)

def nextState (input : TimedAction) : SessionState :=
  (sessionReducer state input.1 input.2).getD state

namespace SessionAction

def Establishes : SessionAction → Prop
  | connectionEstablished _ => True
  | _ => False

def Authenticates : SessionAction → Prop
  | authSuccess _ _ _ => True
  | _ => False

-- Failure, logout, connection error or close.
def EndsLogin : SessionAction → Prop
  | authFailure _ _ | authLogout | connectionError _ | connectionClosed _ => True
  | _ => False

end SessionAction

-- The latest CONNECTION_ESTABLISHED of the history carries this id.
def LatestEstablished (connectionId : ConnectionId) (history : List TimedAction) : Prop :=
  ∃ before time after,
    history = before ++ (time, .connectionEstablished connectionId) :: after ∧
      ∀ later ∈ after, ¬ later.2.Establishes

-- The latest AUTH_SUCCESS of the history carries this name, and nothing after it
-- ended the login.
def LoggedInAs (username : JsString) (history : List TimedAction) : Prop :=
  ∃ before time method userId after,
    history = before ++ (time, .authSuccess username method userId) :: after ∧
      ∀ later ∈ after, ¬ later.2.Authenticates ∧ ¬ later.2.EndsLogin

-- The time of the latest SESSION_RESET, of the creation where there was none.
def createdAtAfter (created : Time) (history : List TimedAction) : Time :=
  history.foldl (fun current input =>
    match input.2 with
    | .sessionReset => input.1
    | _ => current) created

-- What a state has in common with its history, but for the error message of the login.
structure Consistent (sessionId : SessionId) (created : Time) (history : List TimedAction)
    (state : SessionState) : Prop where
  connected : state.connection.status = .connected → ∃ connectionId,
    state.connection.connectionId = some connectionId ∧ LatestEstablished connectionId history
  closed : state.connection.status = .closed ∨ state.connection.status = .disconnected →
    state.connection.connectionId = none
  authenticated : state.auth.status = .authenticated → ∃ username,
    state.auth.username = some username ∧ LoggedInAs username history
  id_eq : state.id = sessionId
  createdAt_eq : state.metadata.createdAt = createdAtAfter created history

-- A login that did not fail has no error message.
def ErrorOnlyOnFailure : Prop :=
  state.auth.errorMessage ≠ none → state.auth.status = .failed

structure SessionInvariant (sessionId : SessionId) (created : Time) (history : List TimedAction)
    (state : SessionState) : Prop extends Consistent sessionId created history state where
  errorMessage : ErrorOnlyOnFailure state

variable (now : Time)

theorem nextState_sub {action : SessionAction} (hreset : action ≠ .sessionReset)
    (hend : action ≠ .sessionEnd) :
    nextState state (now, action) = {
      id := state.id
      auth := (authReducer state.auth now action).getD state.auth
      connection := (connectionReducer state.connection now action).getD state.connection
      terminal := (terminalReducer state.terminal action).getD state.terminal
      metadata := (metadataReducer state.metadata now action).getD state.metadata } := by
  have hreducer : sessionReducer state now action = reduceSubReducers state now action := by
    cases action with
    | sessionReset => exact absurd rfl hreset
    | sessionEnd => exact absurd rfl hend
    | _ => rfl
  unfold nextState
  dsimp only
  rw [hreducer]
  unfold reduceSubReducers
  split
  · rename_i hauth hconnection hterminal hmetadata
    simp [hauth, hconnection, hterminal, hmetadata]
  · rfl

theorem SessionStore.getState_dispatch_self (store : SessionStore) (sessionId : SessionId)
    (action : SessionAction) (now : Time) :
    (store.dispatch sessionId action now).getState sessionId =
      (store.getState sessionId).map fun state => nextState state (now, action) := by
  unfold dispatch getState
  cases hstate : store.states.get sessionId with
  | none => simp [hstate]
  | some state =>
    dsimp only
    cases hnext : sessionReducer state now action with
    | none => simp [nextState, hstate, hnext]
    | some next => simp [recordAction, nextState, hnext]

variable (action : SessionAction)

-- What one action can do to the connection.
theorem connection_nextState :
    let next := (nextState state (now, action)).connection
    (∃ connectionId, action = .connectionEstablished connectionId ∧
      next.status = .connected ∧ next.connectionId = some connectionId) ∨
    ¬ action.Establishes ∧ (
      (next.status = .connecting ∨ next.status = .error) ∨
      ((next.status = .closed ∨ next.status = .disconnected) ∧ next.connectionId = none) ∨
      (next.status = state.connection.status ∧
        next.connectionId = state.connection.connectionId)) := by
  intro next
  cases action with
  | connectionEstablished connectionId =>
    refine Or.inl ⟨connectionId, rfl, ?_⟩
    simp [next, nextState_sub, connectionReducer]
  | sessionReset => simp [next, nextState, sessionReducer, createInitialState,
      SessionAction.Establishes]
  | sessionEnd => simp [next, nextState, sessionReducer, applySessionEnd,
      SessionAction.Establishes]
  | _ => simp [next, nextState_sub, connectionReducer, resetConnectionState,
      SessionAction.Establishes]

-- What one action can do to the login.
theorem auth_nextState :
    let next := (nextState state (now, action)).auth
    (∃ username method userId, action = .authSuccess username method userId ∧
      next.status = .authenticated ∧ next.username = some username) ∨
    next.status ≠ .authenticated ∨
    (¬ action.Authenticates ∧ ¬ action.EndsLogin ∧ next.status = state.auth.status ∧
      next.username = state.auth.username) := by
  intro next
  cases action with
  | authSuccess username method userId =>
    refine Or.inl ⟨username, method, userId, rfl, ?_⟩
    simp [next, nextState_sub, authReducer]
  | connectionError | connectionClosed =>
    refine Or.inr (Or.inl ?_)
    by_cases hstatus : state.auth.status = .authenticated <;>
      simp [next, nextState_sub, authReducer, hstatus]
  | sessionReset => simp [next, nextState, sessionReducer, createInitialState]
  | sessionEnd => simp [next, nextState, sessionReducer, applySessionEnd]
  | _ => simp [next, nextState_sub, authReducer, SessionAction.Authenticates,
      SessionAction.EndsLogin]

theorem id_nextState (input : TimedAction) : (nextState state input).id = state.id := by
  unfold nextState
  cases hnext : sessionReducer state input.1 input.2 with
  | none => rfl
  | some next => exact sessionReducer_id hnext

theorem createdAt_nextState :
    (nextState state (now, action)).metadata.createdAt =
      createdAtAfter state.metadata.createdAt [(now, action)] := by
  cases action with
  | sessionReset => rfl
  | sessionEnd => rfl
  | _ => simp [nextState_sub, metadataReducer, touchMetadata, createdAtAfter]

variable {history : List TimedAction}

theorem latestEstablished_append {connectionId : ConnectionId} {input : TimedAction}
    (h : LatestEstablished connectionId history) (hinput : ¬ input.2.Establishes) :
    LatestEstablished connectionId (history ++ [input]) := by
  obtain ⟨before, time, after, rfl, hafter⟩ := h
  refine ⟨before, time, after ++ [input], by simp, fun later hmem => ?_⟩
  rcases List.mem_append.mp hmem with hmem | hmem
  · exact hafter later hmem
  · rw [List.mem_singleton.mp hmem]
    exact hinput

theorem loggedInAs_append {username : JsString} {input : TimedAction}
    (h : LoggedInAs username history) (hauth : ¬ input.2.Authenticates)
    (hends : ¬ input.2.EndsLogin) : LoggedInAs username (history ++ [input]) := by
  obtain ⟨before, time, method, userId, after, rfl, hafter⟩ := h
  refine ⟨before, time, method, userId, after ++ [input], by simp, fun later hmem => ?_⟩
  rcases List.mem_append.mp hmem with hmem | hmem
  · exact hafter later hmem
  · rw [List.mem_singleton.mp hmem]
    exact ⟨hauth, hends⟩

theorem consistent_initial (sessionId : SessionId) (created : Time) :
    Consistent sessionId created [] (createInitialState sessionId created) where
  connected h := by simp [createInitialState] at h
  closed _ := rfl
  authenticated h := by simp [createInitialState] at h
  id_eq := rfl
  createdAt_eq := rfl

theorem consistent_step {sessionId : SessionId} {created : Time} {state : SessionState}
    (h : Consistent sessionId created history state) (input : TimedAction) :
    Consistent sessionId created (history ++ [input]) (nextState state input) := by
  obtain ⟨now, action⟩ := input
  have hconnection := connection_nextState state now action
  have hauth := auth_nextState state now action
  dsimp only at hconnection hauth
  refine ⟨fun hstatus => ?_, fun hstatus => ?_, fun hstatus => ?_, ?_, ?_⟩
  · rcases hconnection with ⟨connectionId, rfl, _, hid⟩ | ⟨hne, hnext⟩
    · exact ⟨connectionId, hid, history, now, [], rfl, by simp⟩
    · rcases hnext with hnext | ⟨hnext, _⟩ | ⟨hnext, hid⟩
      · simp [hstatus] at hnext
      · simp [hstatus] at hnext
      · obtain ⟨connectionId, hsome, hlatest⟩ := h.connected (hnext ▸ hstatus)
        exact ⟨connectionId, hid.trans hsome, latestEstablished_append hlatest hne⟩
  · rcases hconnection with ⟨connectionId, _, hnext, _⟩ | ⟨_, hnext⟩
    · simp [hnext] at hstatus
    · rcases hnext with hnext | ⟨_, hid⟩ | ⟨hnext, hid⟩
      · rcases hnext with hnext | hnext <;> simp [hnext] at hstatus
      · exact hid
      · exact hid.trans (h.closed (hnext ▸ hstatus))
  · rcases hauth with ⟨username, method, userId, rfl, _, hname⟩ | hnext | ⟨hne, hends, hnext, hname⟩
    · exact ⟨username, hname, history, now, method, userId, [], rfl, by simp⟩
    · exact absurd hstatus hnext
    · obtain ⟨username, hsome, hlogin⟩ := h.authenticated (hnext ▸ hstatus)
      exact ⟨username, hname.trans hsome, loggedInAs_append hlogin hne hends⟩
  · exact (id_nextState state _).trans h.id_eq
  · rw [createdAt_nextState, h.createdAt_eq]
    simp [createdAtAfter]

theorem consistent_run (sessionId : SessionId) (created : Time) (history : List TimedAction) :
    Consistent sessionId created history
      (Run.run nextState (createInitialState sessionId created) history) := by
  induction history using List.reverseRecOn with
  | nil => exact consistent_initial sessionId created
  | append_singleton history input ih =>
    rw [Run.run_append]
    exact consistent_step ih input

-- Only SESSION_END leaves the state `failed` with its message in place.
theorem errorOnlyOnFailure_step {state : SessionState} (h : ErrorOnlyOnFailure state)
    (input : TimedAction) :
    ErrorOnlyOnFailure (nextState state input) ↔
      (input.2 = .sessionEnd → state.auth.errorMessage = none) := by
  obtain ⟨now, action⟩ := input
  unfold ErrorOnlyOnFailure at h ⊢
  have hclear : state.auth.status = .authenticated → state.auth.errorMessage = none := by
    intro hstatus
    by_contra hne
    simp [h hne] at hstatus
  cases action with
  | sessionEnd => simp [nextState, sessionReducer, applySessionEnd]
  | sessionReset => simp [nextState, sessionReducer, createInitialState]
  | connectionError | connectionClosed =>
    by_cases hstatus : state.auth.status = .authenticated
    · simp [nextState_sub, authReducer, hclear hstatus]
    · simpa [nextState_sub, authReducer, hstatus] using h
  | authRequest | authSuccess | authFailure | authLogout | authClearError =>
    simp [nextState_sub, authReducer]
  | _ => simpa [nextState_sub, authReducer] using h

theorem sessionInvariant_iff (sessionId : SessionId) (created : Time)
    (inputs : List TimedAction) :
    (∀ history, history <+: inputs → SessionInvariant sessionId created history
      (Run.run nextState (createInitialState sessionId created) history)) ↔
    Run.Along nextState
      (fun state input => input.2 = .sessionEnd → state.auth.errorMessage = none)
      (createInitialState sessionId created) inputs := by
  have hinit : ErrorOnlyOnFailure (createInitialState sessionId created) := by
    simp [ErrorOnlyOnFailure, createInitialState]
  have hrun := @Run.throughout_iff_along _ _ nextState (fun _ => True) ErrorOnlyOnFailure
    (fun state input => input.2 = .sessionEnd → state.auth.errorMessage = none)
    (fun _ _ _ => trivial) (fun _ input _ h => errorOnlyOnFailure_step h input) _ trivial hinit
    inputs
  rw [← hrun, Run.throughout_iff]
  constructor
  · exact fun h history hpre => (h history hpre).errorMessage
  · exact fun h history hpre => ⟨consistent_run sessionId created history, h history hpre⟩

theorem sessionEnd_keeps_errorMessage :
    ¬ ∀ (sessionId : SessionId) (created : Time) (inputs : List TimedAction),
      SessionInvariant sessionId created inputs
        (Run.run nextState (createInitialState sessionId created) inputs) := by
  intro h
  have hfail := (h [] 0 [(1, .authFailure (js "Access denied") (js "manual")),
    (2, .sessionEnd)]).errorMessage
  have hstatus := hfail (by simp [Run.run, nextState, sessionReducer, reduceSubReducers,
    applySessionEnd, authReducer])
  simp [Run.run, nextState, sessionReducer, applySessionEnd] at hstatus

end WebSsh2.State

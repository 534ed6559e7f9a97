import WebSsh2.State.Types

namespace WebSsh2.State

open WebSsh2.Library

-- A reducer that returns its own argument, the same object, gives `none`.

def authReducer (state : AuthState) (now : Time) : SessionAction → Option AuthState
  | .authRequest method username => some { state with
      status := .pending
      method := some method
      username := username <|> state.username
      errorMessage := none }
  | .authSuccess username method _ => some {
      status := .authenticated
      method := some method
      username := some username
      timestamp := now
      errorMessage := none }
  | .authFailure error method => some { state with
      status := .failed
      method := some method
      errorMessage := some error
      timestamp := now }
  | .authLogout => some {
      status := .pending
      method := none
      username := none
      timestamp := now
      errorMessage := none }
  | .authClearError => some { state with errorMessage := none }
  | .connectionError _ | .connectionClosed _ => some { state with
      status := if state.status = .authenticated then .pending else state.status }
  | _ => none

def resetConnectionState (state : ConnectionState) (now : Time) : ConnectionState where
  status := .disconnected
  connectionId := none
  host := state.host
  port := state.port
  errorMessage := none
  lastActivity := now

def connectionReducer (state : ConnectionState) (now : Time) :
    SessionAction → Option ConnectionState
  | .connectionStart host port => some { state with
      status := .connecting
      host := some host
      port := some port
      errorMessage := none
      lastActivity := now }
  | .connectionEstablished connectionId => some { state with
      status := .connected
      connectionId := some connectionId
      errorMessage := none
      lastActivity := now }
  | .connectionError error => some { state with
      status := .error
      errorMessage := some error
      lastActivity := now }
  | .connectionClosed reason => some { state with
      status := .closed
      connectionId := none
      errorMessage := reason
      lastActivity := now }
  | .connectionActivity => some { state with lastActivity := now }
  | .authFailure _ _ | .authLogout => some (resetConnectionState state now)
  | _ => none

def terminalReducer (state : TerminalState) : SessionAction → Option TerminalState
  | .terminalInit term rows cols environment cwd => some { term, rows, cols, environment, cwd }
  | .terminalResize rows cols => some { state with rows, cols }
  | .terminalSetTerm term => some { state with term }
  | .terminalSetEnv environment => some { state with environment }
  | .terminalUpdateEnv environment => some { state with
      environment := environment.entries.foldl
        (fun merged entry => merged.set entry.1 entry.2) state.environment }
  | .terminalSetCwd cwd => some { state with cwd := some cwd }
  | .terminalDestroy => some initialTerminal
  | _ => none

def touchMetadata (state : SessionMetadata) (now : Time) : SessionMetadata :=
  { state with updatedAt := now }

def metadataReducer (state : SessionMetadata) (now : Time) :
    SessionAction → Option SessionMetadata
  | .metadataSetClient clientIp userAgent => some { state with
      clientIp := some clientIp
      userAgent := some userAgent
      updatedAt := now }
  | .metadataUpdate userId clientIp userAgent updatedAt => some { state with
      userId := userId.getD state.userId
      clientIp := clientIp.getD state.clientIp
      userAgent := userAgent.getD state.userAgent
      updatedAt := updatedAt.getD now }
  | .metadataUpdateTimestamp => some (touchMetadata state now)
  | .connectionActivity | .terminalResize _ _ => some (touchMetadata state now)
  | .authSuccess _ _ userId => some { state with
      userId
      updatedAt := now }
  | _ => none

variable (state : SessionState)

def applySessionEnd : SessionState :=
  { state with
    connection := { state.connection with
      status := .closed
      connectionId := none
      errorMessage := some (js "Session ended") }
    auth := { state.auth with
      status := .pending
      username := none } }

def reduceSubReducers (now : Time) (action : SessionAction) : Option SessionState :=
  match authReducer state.auth now action, connectionReducer state.connection now action,
      terminalReducer state.terminal action, metadataReducer state.metadata now action with
  | none, none, none, none => none
  | newAuth, newConnection, newTerminal, newMetadata => some {
      id := state.id
      auth := newAuth.getD state.auth
      connection := newConnection.getD state.connection
      terminal := newTerminal.getD state.terminal
      metadata := newMetadata.getD state.metadata }

def sessionReducer (now : Time) (action : SessionAction) : Option SessionState :=
  match action with
  | .sessionReset => some (createInitialState state.id now)
  | .sessionEnd => some (applySessionEnd state)
  | action => reduceSubReducers state now action

theorem sessionReducer_id {state next : SessionState} {now : Time} {action : SessionAction}
    (h : sessionReducer state now action = some next) : next.id = state.id := by
  cases action with
  | sessionReset | sessionEnd =>
    simp only [sessionReducer, Option.some.injEq] at h
    rw [← h]
    rfl
  | _ =>
    simp only [sessionReducer, reduceSubReducers] at h
    split at h
    · cases h
    · cases h
      rfl

structure SessionStore where
  states : OrderedMap SessionId SessionState
  actionHistory : OrderedMap SessionId (List SessionAction)
  maxHistorySize : Nat

namespace SessionStore

def new (maxHistorySize : Nat) : SessionStore where
  states := .empty
  actionHistory := .empty
  maxHistorySize

variable (store : SessionStore) (sessionId : SessionId)

def getState : Option SessionState :=
  store.states.get sessionId

variable (now : Time)

def createSession : SessionStore :=
  match store.states.get sessionId with
  | some _ => store
  | none => { store with
      states := store.states.set sessionId (createInitialState sessionId now)
      actionHistory := store.actionHistory.set sessionId [] }

variable (action : SessionAction)

def recordAction : SessionStore :=
  let history := (store.actionHistory.get sessionId).getD [] ++ [action]
  let limited := if store.maxHistorySize < history.length then history.tail else history
  { store with actionHistory := store.actionHistory.set sessionId limited }

def dispatch (now : Time) : SessionStore :=
  match store.states.get sessionId with
  | none => store
  | some currentState =>
    match sessionReducer currentState now action with
    | none => store
    | some newState =>
      { store with states := store.states.set sessionId newState }.recordAction
        sessionId action

def removeSession : SessionStore :=
  match store.states.get sessionId with
  | none => store
  | some _ =>
    let ended := store.dispatch sessionId .sessionEnd now
    { ended with
      states := ended.states.delete sessionId
      actionHistory := ended.actionHistory.delete sessionId }

theorem getState_removeSession : (store.removeSession sessionId now).getState sessionId = none := by
  unfold removeSession
  split
  · assumption
  · simp [getState]

-- A dispatch touches no other session.
theorem getState_dispatch_of_ne {sessionId other : SessionId} (now : Time) (hne : sessionId ≠ other) :
    (store.dispatch sessionId action now).getState other = store.getState other := by
  unfold dispatch
  split
  · rfl
  · split
    · rfl
    · simp [recordAction, getState, hne]

theorem getState_createSession_of_ne {sessionId other : SessionId} (hne : sessionId ≠ other) :
    (store.createSession sessionId now).getState other = store.getState other := by
  unfold createSession
  split
  · rfl
  · simp [getState, hne]

theorem getState_removeSession_of_ne {sessionId other : SessionId} (hne : sessionId ≠ other) :
    (store.removeSession sessionId now).getState other = store.getState other := by
  unfold removeSession
  split
  · rfl
  · have hended := getState_dispatch_of_ne store .sessionEnd now hne
    simpa [getState, hne] using hended

-- A session that is created is there, with the state it had if it was there before.
theorem getState_createSession_self :
    (store.createSession sessionId now).getState sessionId =
      some ((store.getState sessionId).getD (createInitialState sessionId now)) := by
  unfold createSession getState
  cases hstate : store.states.get sessionId with
  | none => simp
  | some state => simpa using hstate

end SessionStore

end WebSsh2.State

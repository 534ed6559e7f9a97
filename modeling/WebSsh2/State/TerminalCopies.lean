import WebSsh2.State.SessionInvariant

namespace WebSsh2.State.TerminalCopies

open Library Library.Run

abbrev Environment := OrderedMap JsString JsString

section TerminalService

structure Terminal where
  id : JsString
  sessionId : SessionId
  term : JsString
  rows : Number
  cols : Number
  env : Environment

structure TerminalOptions where
  sessionId : SessionId
  term : Option JsString := none
  rows : Option Number := none
  cols : Option Number := none
  cwd : Option JsString := none
  env : Option Environment := none

structure TerminalConfig where
  rows : Option Number := none
  cols : Option Number := none
  term : Option JsString := none

-- The registry of the terminal service, and the store that both services write to.
structure Services where
  terminals : OrderedMap SessionId Terminal
  store : SessionStore

-- `{ ...env, ...update }`
def spreadOver (env update : Environment) : Environment :=
  update.entries.foldl (fun merged entry => merged.set entry.1 entry.2) env

def TerminalOptions.terminal (config : TerminalConfig) (options : TerminalOptions) :
    Terminal where
  id := js "term-" ++ options.sessionId
  sessionId := options.sessionId
  term := options.term.getD (config.term.getD (js "xterm-256color"))
  rows := options.rows.getD (config.rows.getD (.ofInt 24))
  cols := options.cols.getD (config.cols.getD (.ofInt 80))
  env := options.env.getD .empty

def createTerminal (config : TerminalConfig) (options : TerminalOptions) (now : Time)
    (services : Services) : Services × Terminal :=
  match services.terminals.get options.sessionId with
  | some existing => (services, existing)
  | none =>
    let terminal := options.terminal config
    ({ terminals := services.terminals.set options.sessionId terminal
       store := services.store.dispatch options.sessionId
         (.terminalInit terminal.term terminal.rows terminal.cols terminal.env options.cwd)
         now }, terminal)

def checkDimensions (rows cols : Number) : Except JsString Unit :=
  if rows.le (.ofInt 0) || cols.le (.ofInt 0) then
    .error (js "Invalid terminal dimensions")
  else if (Number.ofInt 1000).lt rows || (Number.ofInt 1000).lt cols then
    .error (js "Terminal dimensions too large")
  else
    .ok ()

variable (sessionId : SessionId)

def resize (rows cols : Number) (now : Time) (services : Services) :
    Services × Except JsString Unit :=
  match services.terminals.get sessionId with
  | none => (services, .error (js "Terminal not found"))
  | some terminal =>
    match checkDimensions rows cols with
    | .error message => (services, .error message)
    | .ok () =>
      ({ terminals := services.terminals.set sessionId { terminal with rows, cols }
         store := services.store.dispatch sessionId (.terminalResize rows cols) now }, .ok ())

def destroy (now : Time) (services : Services) : Services × Except JsString Unit :=
  match services.terminals.get sessionId with
  | none => (services, .error (js "Terminal not found"))
  | some _ =>
    let terminals := services.terminals.delete sessionId
    match services.store.getState sessionId with
    | none => ({ services with terminals }, .ok ())
    | some _ =>
      ({ terminals
         store := services.store.dispatch sessionId .terminalDestroy now }, .ok ())

def updateEnvironment (env : Environment) (now : Time) (services : Services) :
    Services × Except JsString Unit :=
  match services.terminals.get sessionId with
  | none => (services, .error (js "Terminal not found"))
  | some terminal =>
    let merged := spreadOver terminal.env env
    ({ terminals := services.terminals.set sessionId { terminal with env := merged }
       store := services.store.dispatch sessionId (.terminalUpdateEnv merged) now }, .ok ())

end TerminalService

section SessionService

structure SessionParams where
  id : Option SessionId := none
  userId : Option UserId := none
  clientIp : Option JsString := none
  userAgent : Option JsString := none

structure Session where
  id : SessionId
  state : SessionState
  createdAt : Time
  updatedAt : Time

def sessionOf (id : SessionId) (state : SessionState) : Session where
  id := id
  state := state
  createdAt := state.metadata.createdAt
  updatedAt := state.metadata.updatedAt

def SessionParams.sessionId (params : SessionParams) (randomUUID : SessionId) : SessionId :=
  params.id.getD randomUUID

def createSession (params : SessionParams) (randomUUID : SessionId) (now : Time)
    (store : SessionStore) : SessionStore × Except JsString Session :=
  let sessionId := params.sessionId randomUUID
  match store.getState sessionId with
  | some state => (store, .ok (sessionOf sessionId state))
  | none =>
    let created := store.createSession sessionId now
    let updated :=
      if params.userId ≠ none ∨ params.clientIp ≠ none ∨ params.userAgent ≠ none then
        created.dispatch sessionId (.metadataUpdate (some params.userId) (some params.clientIp)
          (some params.userAgent) (some now)) now
      else
        created
    match updated.getState sessionId with
    | none => (updated, .error (js "Session state missing after metadata update"))
    | some state => (updated, .ok (sessionOf sessionId state))

structure AuthUpdates where
  status : Option AuthStatus := none
  username : Option JsString := none
  method : Option JsString := none
  errorMessage : Option JsString := none

structure ConnectionUpdates where
  status : Option ConnectionStatus := none
  connectionId : Option ConnectionId := none
  host : Option JsString := none
  port : Option Number := none
  errorMessage : Option JsString := none

structure TerminalUpdates where
  rows : Option Number := none
  cols : Option Number := none
  environment : Option Environment := none

-- Each field is absent, or present with a value or null.
structure MetadataUpdates where
  userId : Option (Option UserId) := none
  clientIp : Option (Option JsString) := none
  userAgent : Option (Option JsString) := none

structure SessionUpdates where
  auth : Option AuthUpdates := none
  connection : Option ConnectionUpdates := none
  terminal : Option TerminalUpdates := none
  metadata : Option MetadataUpdates := none

variable (state : SessionState)

def authAction (auth : AuthUpdates) : Option SessionAction :=
  let method := (auth.method.or state.auth.method).getD (js "manual")
  match auth.status with
  | some .authenticated =>
    some (.authSuccess ((auth.username.or state.auth.username).getD []) method none)
  | some .failed => some (.authFailure (auth.errorMessage.getD (js "Authentication failed")) method)
  | _ => none

def connectionAction (connection : ConnectionUpdates) : Option SessionAction :=
  match connection.status with
  | some .connecting => some (.connectionStart
      ((connection.host.or state.connection.host).getD [])
      ((connection.port.or state.connection.port).getD (.ofInt 22)))
  | some .connected => connection.connectionId.map .connectionEstablished
  | some .error => some (.connectionError (connection.errorMessage.getD (js "Connection failed")))
  | some .closed => some (.connectionClosed none)
  | _ => none

def resizeAction (terminal : TerminalUpdates) : Option SessionAction :=
  match terminal.rows, terminal.cols with
  | some rows, some cols => some (.terminalResize rows cols)
  | _, _ => none

def metadataAction (metadata : MetadataUpdates) (now : Time) : SessionAction :=
  .metadataUpdate metadata.userId metadata.clientIp metadata.userAgent (some now)

-- The actions that `update` dispatches, in their order.
def updateActions (updates : SessionUpdates) (now : Time) : List SessionAction :=
  (updates.auth.bind (authAction state)).toList ++
    (updates.connection.bind (connectionAction state)).toList ++
    (updates.terminal.bind resizeAction).toList ++
    (updates.terminal.bind fun terminal => terminal.environment.map .terminalSetEnv).toList ++
    (updates.metadata.map fun metadata => metadataAction metadata now).toList

variable (sessionId : SessionId)

def dispatchAll (now : Time) (store : SessionStore) (actions : List SessionAction) : SessionStore :=
  actions.foldl (fun store action => store.dispatch sessionId action now) store

def updateSession (updates : SessionUpdates) (now : Time) (store : SessionStore) :
    SessionStore × Except JsString Session :=
  match store.getState sessionId with
  | none => (store, .error (js "Session not found"))
  | some state =>
    let updated := dispatchAll sessionId now store (updateActions state updates now)
    (updated, .ok (sessionOf sessionId ((updated.getState sessionId).getD state)))

def deleteSession (now : Time) (store : SessionStore) : SessionStore :=
  store.removeSession sessionId now

end SessionService

section Operations

-- The services, and the sessions that were deleted and not created again.
structure Copies where
  services : Services
  deleted : List SessionId

inductive Operation where
  | createTerminal (options : TerminalOptions) (now : Time)
  | resize (sessionId : SessionId) (rows cols : Number) (now : Time)
  | updateEnvironment (sessionId : SessionId) (env : Environment) (now : Time)
  | destroy (sessionId : SessionId) (now : Time)
  | createSession (params : SessionParams) (randomUUID : SessionId) (now : Time)
  | updateSession (sessionId : SessionId) (updates : SessionUpdates) (now : Time)
  | deleteSession (sessionId : SessionId) (now : Time)

def step (config : TerminalConfig) (copies : Copies) : Operation → Copies
  | .createTerminal options now =>
    { copies with services := (createTerminal config options now copies.services).1 }
  | .resize sessionId rows cols now =>
    { copies with services := (resize sessionId rows cols now copies.services).1 }
  | .updateEnvironment sessionId env now =>
    { copies with services := (updateEnvironment sessionId env now copies.services).1 }
  | .destroy sessionId now =>
    { copies with services := (destroy sessionId now copies.services).1 }
  | .createSession params randomUUID now => {
      services := { copies.services with
        store := (createSession params randomUUID now copies.services.store).1 }
      deleted := copies.deleted.filter (· ≠ params.sessionId randomUUID) }
  | .updateSession sessionId updates now =>
    { copies with services := { copies.services with
        store := (updateSession sessionId updates now copies.services.store).1 } }
  | .deleteSession sessionId now => {
      services := { copies.services with
        store := deleteSession sessionId now copies.services.store }
      deleted :=
        if copies.services.store.getState sessionId = none then copies.deleted
        else sessionId :: copies.deleted }

def initial (maxHistorySize : Nat) : Copies where
  services := { terminals := .empty, store := .new maxHistorySize }
  deleted := []

-- The terminal as the store has it.
def stored (store : SessionStore) (sessionId : SessionId) : Option TerminalState :=
  (store.getState sessionId).map SessionState.terminal

def Agrees (terminal : Terminal) (state : TerminalState) : Prop :=
  terminal.term = state.term ∧ terminal.rows = state.rows ∧ terminal.cols = state.cols ∧
    ∀ key, terminal.env.get key = state.environment.get key

def AgreesOn (registered : Option Terminal) (stored : Option TerminalState) (gone : Prop) : Prop :=
  (∀ terminal state, registered = some terminal → stored = some state →
    Agrees terminal state) ∧ (gone → registered = none)

def AgreesAt (copies : Copies) (sessionId : SessionId) : Prop :=
  AgreesOn (copies.services.terminals.get sessionId) (stored copies.services.store sessionId)
    (sessionId ∈ copies.deleted)

end Operations

section Stored

variable {action : SessionAction} (store : SessionStore) (sessionId key : SessionId)

-- What an action does to the terminal that is stored under an id.
theorem stored_dispatch (hreset : action ≠ .sessionReset) (now : Time) :
    stored (store.dispatch sessionId action now) key =
      if sessionId = key then
        (stored store key).map fun state => (terminalReducer state action).getD state
      else stored store key := by
  unfold stored
  by_cases hkey : sessionId = key
  · subst hkey
    rw [if_pos rfl, SessionStore.getState_dispatch_self, Option.map_map, Option.map_map]
    congr 1
    funext state
    by_cases hend : action = .sessionEnd
    · subst hend
      rfl
    · simp only [Function.comp, nextState_sub state now hreset hend]
  · rw [if_neg hkey, SessionStore.getState_dispatch_of_ne _ _ _ hkey]

def Untouching (action : SessionAction) : Prop :=
  action ≠ .sessionReset ∧ ∀ state, terminalReducer state action = none

theorem stored_dispatch_untouching (h : Untouching action) (now : Time) :
    stored (store.dispatch sessionId action now) key = stored store key := by
  rw [stored_dispatch store sessionId key h.1]
  split
  · have hsame : (fun state => (terminalReducer state action).getD state) = id := by
      funext state
      rw [h.2 state]
      rfl
    rw [hsame, Option.map_id, id]
  · rfl

theorem stored_createSession (now : Time) :
    stored (store.createSession sessionId now) key =
      if sessionId = key then some ((stored store key).getD initialTerminal)
      else stored store key := by
  unfold stored
  by_cases hkey : sessionId = key
  · subst hkey
    rw [if_pos rfl, SessionStore.getState_createSession_self, Option.map_some]
    cases store.getState sessionId with
    | none => rfl
    | some state => rfl
  · rw [if_neg hkey, SessionStore.getState_createSession_of_ne _ _ hkey]

theorem stored_removeSession (now : Time) :
    stored (store.removeSession sessionId now) key =
      if sessionId = key then none else stored store key := by
  unfold stored
  by_cases hkey : sessionId = key
  · subst hkey
    rw [if_pos rfl, SessionStore.getState_removeSession]
    rfl
  · rw [if_neg hkey, SessionStore.getState_removeSession_of_ne _ _ hkey]

theorem get_spreadOver (env update : Environment) (key : JsString) :
    (spreadOver env update).get key = (update.get key).or (env.get key) := by
  have hentries : ∀ (entries : List (JsString × JsString)) (env : Environment),
      (entries.map Prod.fst).Nodup →
      (entries.foldl (fun merged entry => merged.set entry.1 entry.2) env).get key =
        (OrderedMap.lookupEntries key entries).or (env.get key) := by
    intro entries
    induction entries with
    | nil =>
      intro env _
      rfl
    | cons entry rest ih =>
      intro env hnodup
      rcases entry with ⟨k, value⟩
      rw [List.map_cons, List.nodup_cons] at hnodup
      rw [List.foldl_cons, ih _ hnodup.2, OrderedMap.get_set, OrderedMap.lookupEntries]
      by_cases hk : k = key
      · subst hk
        rw [OrderedMap.lookupEntries_eq_none hnodup.1, if_pos rfl, if_pos rfl]
        rfl
      · rw [if_neg hk, if_neg hk]
  exact hentries update.entries env update.nodup

-- The store's terminal after an update of the session.
def applied (terminal : Option TerminalUpdates) (state : TerminalState) : TerminalState :=
  match terminal with
  | none => state
  | some updates =>
    let resized :=
      match updates.rows, updates.cols with
      | some rows, some cols => { state with rows, cols }
      | _, _ => state
    match updates.environment with
    | some environment => { resized with environment }
    | none => resized

theorem stored_dispatchAll (now : Time) (actions : List SessionAction)
    (hreset : ∀ action ∈ actions, action ≠ .sessionReset) (store : SessionStore) :
    stored (dispatchAll sessionId now store actions) key =
      if sessionId = key then
        (stored store key).map fun state =>
          actions.foldl (fun state action => (terminalReducer state action).getD state) state
      else stored store key := by
  induction actions generalizing store with
  | nil =>
    simp only [dispatchAll, List.foldl_nil]
    split
    · exact Option.map_id'.symm
    · rfl
  | cons action rest ih =>
    rw [dispatchAll, List.foldl_cons, ← dispatchAll,
      ih fun other hmem => hreset other (List.mem_cons_of_mem _ hmem),
      stored_dispatch _ _ _ (hreset action List.mem_cons_self)]
    by_cases hkey : sessionId = key
    · rw [if_pos hkey, if_pos hkey, if_pos hkey, Option.map_map]
      rfl
    · rw [if_neg hkey, if_neg hkey, if_neg hkey]

theorem authAction_untouching {state : SessionState} {auth : AuthUpdates}
    (h : authAction state auth = some action) : Untouching action := by
  unfold authAction at h
  dsimp only at h
  split at h
  · obtain rfl := Option.some.inj h
    exact ⟨by simp, fun _ => rfl⟩
  · obtain rfl := Option.some.inj h
    exact ⟨by simp, fun _ => rfl⟩
  · cases h

theorem connectionAction_untouching {state : SessionState} {connection : ConnectionUpdates}
    (h : connectionAction state connection = some action) : Untouching action := by
  unfold connectionAction at h
  split at h
  · obtain rfl := Option.some.inj h
    exact ⟨by simp, fun _ => rfl⟩
  · obtain ⟨connectionId, -, rfl⟩ := Option.map_eq_some_iff.mp h
    exact ⟨by simp, fun _ => rfl⟩
  · obtain rfl := Option.some.inj h
    exact ⟨by simp, fun _ => rfl⟩
  · obtain rfl := Option.some.inj h
    exact ⟨by simp, fun _ => rfl⟩
  · cases h

theorem metadataAction_untouching (metadata : MetadataUpdates) (now : Time) :
    Untouching (metadataAction metadata now) :=
  ⟨by simp [metadataAction], fun _ => rfl⟩

theorem foldl_untouching (actions : List SessionAction)
    (h : ∀ action ∈ actions, Untouching action) (state : TerminalState) :
    actions.foldl (fun state action => (terminalReducer state action).getD state) state =
      state := by
  induction actions with
  | nil => rfl
  | cons action rest ih =>
    rw [List.foldl_cons, (h action List.mem_cons_self).2 state, Option.getD_none]
    exact ih fun other hmem => h other (List.mem_cons_of_mem _ hmem)

theorem resizeAction_eq {terminal : TerminalUpdates} (h : resizeAction terminal = some action) :
    ∃ rows cols, terminal.rows = some rows ∧ terminal.cols = some cols ∧
      action = .terminalResize rows cols := by
  unfold resizeAction at h
  split at h
  · rename_i rows cols hrows hcols
    exact ⟨rows, cols, hrows, hcols, (Option.some.inj h).symm⟩
  · cases h

theorem updateActions_not_reset (state : SessionState) (updates : SessionUpdates) (now : Time) :
    ∀ action ∈ updateActions state updates now, action ≠ .sessionReset := by
  intro action hmem
  simp only [updateActions, List.mem_append, Option.mem_toList,
    Option.bind_eq_some_iff, Option.map_eq_some_iff] at hmem
  obtain (((⟨auth, -, h⟩ | ⟨connection, -, h⟩) | ⟨terminal, -, h⟩) | ⟨terminal, -, _, -, rfl⟩) |
    ⟨metadata, -, rfl⟩ := hmem
  · exact (authAction_untouching h).1
  · exact (connectionAction_untouching h).1
  · obtain ⟨rows, cols, -, -, rfl⟩ := resizeAction_eq h
    simp
  · simp
  · exact (metadataAction_untouching metadata now).1

-- Of an update's actions only those for the terminal reach the terminal.
theorem foldl_updateActions (state : SessionState) (updates : SessionUpdates) (now : Time)
    (terminal : TerminalState) :
    (updateActions state updates now).foldl
      (fun state action => (terminalReducer state action).getD state) terminal =
      applied updates.terminal terminal := by
  have hauth : ∀ action ∈ (updates.auth.bind (authAction state)).toList, Untouching action := by
    intro action hmem
    obtain ⟨auth, -, h⟩ := Option.bind_eq_some_iff.mp (Option.mem_toList.mp hmem)
    exact authAction_untouching h
  have hconnection : ∀ action ∈ (updates.connection.bind (connectionAction state)).toList,
      Untouching action := by
    intro action hmem
    obtain ⟨connection, -, h⟩ := Option.bind_eq_some_iff.mp (Option.mem_toList.mp hmem)
    exact connectionAction_untouching h
  have hmetadata : ∀ action ∈ (updates.metadata.map fun metadata =>
      metadataAction metadata now).toList, Untouching action := by
    intro action hmem
    obtain ⟨metadata, -, rfl⟩ := Option.map_eq_some_iff.mp (Option.mem_toList.mp hmem)
    exact metadataAction_untouching metadata now
  simp only [updateActions, List.foldl_append]
  rw [foldl_untouching _ hauth, foldl_untouching _ hconnection, foldl_untouching _ hmetadata]
  cases updates.terminal with
  | none => rfl
  | some given =>
    rcases given with ⟨rows, cols, environment⟩
    cases rows with
    | none =>
      cases environment with
      | none => rfl
      | some environment => rfl
    | some rows =>
      cases cols with
      | none =>
        cases environment with
        | none => rfl
        | some environment => rfl
      | some cols =>
        cases environment with
        | none => rfl
        | some environment => rfl

theorem stored_updateSession (updates : SessionUpdates) (now : Time) (store : SessionStore) :
    stored (updateSession sessionId updates now store).1 key =
      if sessionId = key then (stored store key).map (applied updates.terminal)
      else stored store key := by
  unfold updateSession
  split
  · rename_i habsent
    split
    · rename_i hkey
      subst hkey
      simp only [stored, habsent]
      rfl
    · rfl
  · rename_i state _
    rw [stored_dispatchAll sessionId key now _ (updateActions_not_reset state updates now)]
    split
    · congr 1
      funext terminal
      exact foldl_updateActions state updates now terminal
    · rfl

theorem stored_createSession_service (params : SessionParams) (randomUUID key : SessionId)
    (now : Time) (store : SessionStore) :
    stored (createSession params randomUUID now store).1 key =
      if params.sessionId randomUUID = key then some ((stored store key).getD initialTerminal)
      else stored store key := by
  unfold createSession
  dsimp only
  split
  · rename_i state hstate
    split
    · rename_i hkey
      rw [← hkey]
      simp only [stored, hstate]
      rfl
    · rfl
  · have hupdated : ∀ updated, updated = (if params.userId ≠ none ∨ params.clientIp ≠ none ∨
        params.userAgent ≠ none then
          (store.createSession (params.sessionId randomUUID) now).dispatch
            (params.sessionId randomUUID) (.metadataUpdate (some params.userId)
              (some params.clientIp) (some params.userAgent) (some now)) now
        else store.createSession (params.sessionId randomUUID) now) →
        stored updated key =
          stored (store.createSession (params.sessionId randomUUID) now) key := by
      intro updated hupdated
      rw [hupdated]
      split
      · exact stored_dispatch_untouching _ _ _ ⟨by simp, fun _ => rfl⟩ _
      · rfl
    rw [← stored_createSession]
    split
    · exact hupdated _ rfl
    · exact hupdated _ rfl

end Stored

section Agreement

-- Wherever a session is in both, the copies are equal, and no deleted session has
-- a terminal.
def TerminalsAgree (copies : Copies) : Prop :=
  ∀ sessionId, AgreesAt copies sessionId

-- The operations that write one copy write what the other one holds.
def KeepsCopies (copies : Copies) : Operation → Prop
  | .createTerminal options _ => options.sessionId ∉ copies.deleted
  | .resize _ _ _ _ | .updateEnvironment _ _ _ | .destroy _ _ => True
  | .createSession params randomUUID _ =>
    copies.services.store.getState (params.sessionId randomUUID) = none →
      ∀ terminal, copies.services.terminals.get (params.sessionId randomUUID) = some terminal →
        Agrees terminal initialTerminal
  | .updateSession sessionId updates _ =>
    ∀ terminal given, copies.services.terminals.get sessionId = some terminal →
      copies.services.store.getState sessionId ≠ none → updates.terminal = some given →
        (∀ rows cols, given.rows = some rows → given.cols = some cols →
          terminal.rows = rows ∧ terminal.cols = cols) ∧
        ∀ environment, given.environment = some environment →
          ∀ key, terminal.env.get key = environment.get key
  | .deleteSession sessionId _ =>
    copies.services.store.getState sessionId ≠ none →
      copies.services.terminals.get sessionId = none

-- An operation on one session is judged at that session.
theorem terminalsAgree_iff_at {copies next : Copies} (sessionId : SessionId)
    (hothers : ∀ key, sessionId ≠ key →
      next.services.terminals.get key = copies.services.terminals.get key ∧
        stored next.services.store key = stored copies.services.store key ∧
        (key ∈ next.deleted ↔ key ∈ copies.deleted))
    (h : TerminalsAgree copies) : TerminalsAgree next ↔ AgreesAt next sessionId := by
  constructor
  · intro hnext
    exact hnext sessionId
  · intro hat key
    by_cases hkey : sessionId = key
    · exact hkey ▸ hat
    · obtain ⟨hterminal, hstored, hdeleted⟩ := hothers key hkey
      have hbefore := h key
      unfold AgreesAt AgreesOn at hbefore ⊢
      rw [hterminal, hstored, hdeleted]
      exact hbefore

theorem stored_eq_none_iff (store : SessionStore) (sessionId : SessionId) :
    stored store sessionId = none ↔ store.getState sessionId = none :=
  Option.map_eq_none_iff

variable {copies : Copies}

variable (config : TerminalConfig)

theorem createTerminal_iff (options : TerminalOptions) (now : Time) (h : TerminalsAgree copies) :
    TerminalsAgree (step config copies (.createTerminal options now)) ↔
      options.sessionId ∉ copies.deleted := by
  cases hget : copies.services.terminals.get options.sessionId with
  | some existing =>
    have hsame : step config copies (.createTerminal options now) = copies := by
      simp only [step, createTerminal, hget]
    rw [hsame]
    refine ⟨fun _ hdeleted => ?_, fun _ => h⟩
    have hnone := (h options.sessionId).2 hdeleted
    rw [hget] at hnone
    cases hnone
  | none =>
    rw [terminalsAgree_iff_at options.sessionId ?_ h]
    · simp only [AgreesAt, step, createTerminal, hget, OrderedMap.get_set_self]
      rw [stored_dispatch _ _ _ (by simp), if_pos rfl]
      constructor
      · intro hat hdeleted
        have hnone := hat.2 hdeleted
        cases hnone
      · intro hdeleted
        refine ⟨fun terminal state hterminal hstate => ?_, fun hgone => absurd hgone hdeleted⟩
        obtain rfl := Option.some.inj hterminal
        obtain ⟨old, -, rfl⟩ := Option.map_eq_some_iff.mp hstate
        exact ⟨rfl, rfl, rfl, fun _ => rfl⟩
    · intro key hkey
      simp only [step, createTerminal, hget]
      rw [OrderedMap.get_set, if_neg hkey, stored_dispatch _ _ _ (by simp), if_neg hkey]
      exact ⟨rfl, rfl, trivial⟩

-- A terminal that is there and its stored state get the same new values.
theorem agrees_after_both {sessionId : SessionId} {terminal terminal' : Terminal}
    {action : SessionAction} (hreset : action ≠ .sessionReset) (now : Time)
    (h : TerminalsAgree copies)
    (hget : copies.services.terminals.get sessionId = some terminal)
    (hboth : ∀ state, Agrees terminal state →
      Agrees terminal' ((terminalReducer state action).getD state)) :
    TerminalsAgree { copies with services := {
      terminals := copies.services.terminals.set sessionId terminal'
      store := copies.services.store.dispatch sessionId action now } } := by
  rw [terminalsAgree_iff_at sessionId ?_ h]
  · simp only [AgreesAt, OrderedMap.get_set_self]
    rw [stored_dispatch _ _ _ hreset, if_pos rfl]
    constructor
    · intro current state hcurrent hstate
      obtain rfl := Option.some.inj hcurrent
      obtain ⟨old, hold, rfl⟩ := Option.map_eq_some_iff.mp hstate
      exact hboth old ((h sessionId).1 terminal old hget hold)
    · intro hgone
      have hnone := (h sessionId).2 hgone
      rw [hget] at hnone
      cases hnone
  · intro key hkey
    dsimp only
    rw [OrderedMap.get_set, if_neg hkey, stored_dispatch _ _ _ hreset, if_neg hkey]
    exact ⟨rfl, rfl, Iff.rfl⟩

theorem resize_agrees (sessionId : SessionId) (rows cols : Number) (now : Time)
    (h : TerminalsAgree copies) :
    TerminalsAgree (step config copies (.resize sessionId rows cols now)) := by
  simp only [step, resize]
  split
  · exact h
  · rename_i terminal hget
    split
    · exact h
    · refine agrees_after_both (by simp) now h hget fun state hagrees => ?_
      exact ⟨hagrees.1, rfl, rfl, hagrees.2.2.2⟩

theorem updateEnvironment_agrees (sessionId : SessionId) (env : Environment) (now : Time)
    (h : TerminalsAgree copies) :
    TerminalsAgree (step config copies (.updateEnvironment sessionId env now)) := by
  simp only [step, updateEnvironment]
  split
  · exact h
  · rename_i terminal hget
    refine agrees_after_both (by simp) now h hget fun state hagrees => ?_
    obtain ⟨hterm, hrows, hcols, henv⟩ := hagrees
    refine ⟨hterm, hrows, hcols, fun key => ?_⟩
    -- the stored environment is spread below one that already contains it
    have hstored : ((terminalReducer state (.terminalUpdateEnv (spreadOver terminal.env env))).getD
        state).environment = spreadOver state.environment (spreadOver terminal.env env) := rfl
    rw [hstored, get_spreadOver, get_spreadOver, get_spreadOver, ← henv key]
    cases env.get key with
    | none => exact Option.or_self.symm
    | some value => rfl

theorem destroy_agrees (sessionId : SessionId) (now : Time) (h : TerminalsAgree copies) :
    TerminalsAgree (step config copies (.destroy sessionId now)) := by
  cases hget : copies.services.terminals.get sessionId with
  | none =>
    simp only [step, destroy, hget]
    exact h
  | some terminal =>
    have hterminals : (step config copies (.destroy sessionId now)).services.terminals =
        copies.services.terminals.delete sessionId := by
      simp only [step, destroy, hget]
      split <;> rfl
    have hstored : ∀ key, sessionId ≠ key →
        stored (step config copies (.destroy sessionId now)).services.store key =
          stored copies.services.store key := by
      intro key hkey
      simp only [step, destroy, hget]
      split
      · rfl
      · rw [stored_dispatch _ _ _ (by simp), if_neg hkey]
    rw [terminalsAgree_iff_at sessionId ?_ h]
    · unfold AgreesAt
      rw [hterminals, OrderedMap.get_delete, if_pos rfl]
      exact ⟨fun _ _ hnone => (by cases hnone), fun _ => rfl⟩
    · intro key hkey
      rw [hterminals, OrderedMap.get_delete, if_neg hkey, hstored key hkey]
      exact ⟨rfl, rfl, Iff.rfl⟩

theorem createSession_iff (params : SessionParams) (randomUUID : SessionId) (now : Time)
    (h : TerminalsAgree copies) :
    TerminalsAgree (step config copies (.createSession params randomUUID now)) ↔
      KeepsCopies copies (.createSession params randomUUID now) := by
  rw [terminalsAgree_iff_at (params.sessionId randomUUID) ?_ h]
  · simp only [AgreesAt, AgreesOn, step, KeepsCopies]
    rw [stored_createSession_service, if_pos rfl, ← stored_eq_none_iff]
    have hnew : params.sessionId randomUUID ∉
        copies.deleted.filter (· ≠ params.sessionId randomUUID) := by simp
    constructor
    · intro hat hnone terminal hterminal
      exact hat.1 terminal initialTerminal hterminal (by rw [hnone]; rfl)
    · intro hdefault
      refine ⟨fun terminal state hterminal hstate => ?_, fun hgone => absurd hgone hnew⟩
      obtain rfl := Option.some.inj hstate
      cases hstored : stored copies.services.store (params.sessionId randomUUID) with
      | none => exact hdefault hstored terminal hterminal
      | some old => exact (h _).1 terminal old hterminal hstored
  · intro key hkey
    dsimp only [step]
    rw [stored_createSession_service, if_neg hkey]
    refine ⟨rfl, rfl, ?_⟩
    rw [List.mem_filter]
    simp [Ne.symm hkey]

theorem applied_fields (given : TerminalUpdates) (state : TerminalState) :
    (applied (some given) state).term = state.term ∧
      (applied (some given) state).environment = given.environment.getD state.environment ∧
      ((∃ rows cols, given.rows = some rows ∧ given.cols = some cols ∧
          (applied (some given) state).rows = rows ∧ (applied (some given) state).cols = cols) ∨
        ((given.rows = none ∨ given.cols = none) ∧
          (applied (some given) state).rows = state.rows ∧
          (applied (some given) state).cols = state.cols)) := by
  rcases given with ⟨rows, cols, environment⟩
  cases environment with
  | none | some =>
    cases rows with
    | none => exact ⟨rfl, rfl, .inr ⟨.inl rfl, rfl, rfl⟩⟩
    | some rows =>
      cases cols with
      | none => exact ⟨rfl, rfl, .inr ⟨.inr rfl, rfl, rfl⟩⟩
      | some cols => exact ⟨rfl, rfl, .inl ⟨rows, cols, rfl, rfl, rfl, rfl⟩⟩

theorem agrees_applied_iff {terminal : Terminal} {state : TerminalState}
    (h : Agrees terminal state) (given : TerminalUpdates) :
    Agrees terminal (applied (some given) state) ↔
      (∀ rows cols, given.rows = some rows → given.cols = some cols →
        terminal.rows = rows ∧ terminal.cols = cols) ∧
      ∀ environment, given.environment = some environment →
        ∀ key, terminal.env.get key = environment.get key := by
  obtain ⟨hterm, hrows, hcols, henv⟩ := h
  obtain ⟨hterm', henv', hsize⟩ := applied_fields given state
  have henvironment : (∀ key, terminal.env.get key =
        (applied (some given) state).environment.get key) ↔
      ∀ environment, given.environment = some environment →
        ∀ key, terminal.env.get key = environment.get key := by
    rw [henv']
    cases given.environment with
    | none => simpa using henv
    | some environment => simp
  have hdimensions : (terminal.rows = (applied (some given) state).rows ∧
        terminal.cols = (applied (some given) state).cols) ↔
      ∀ rows cols, given.rows = some rows → given.cols = some cols →
        terminal.rows = rows ∧ terminal.cols = cols := by
    obtain ⟨rows, cols, hgrows, hgcols, hnrows, hncols⟩ | ⟨habsent, hnrows, hncols⟩ := hsize
    · rw [hnrows, hncols, hgrows, hgcols]
      simp
    · rw [hnrows, hncols]
      refine ⟨fun _ rows cols hgrows hgcols => ?_, fun _ => ⟨hrows, hcols⟩⟩
      rcases habsent with hnone | hnone
      · rw [hgrows] at hnone
        cases hnone
      · rw [hgcols] at hnone
        cases hnone
  unfold Agrees
  rw [hterm', ← henvironment, ← hdimensions]
  simp only [hterm, true_and, and_assoc]

theorem updateSession_iff (sessionId : SessionId) (updates : SessionUpdates) (now : Time)
    (h : TerminalsAgree copies) :
    TerminalsAgree (step config copies (.updateSession sessionId updates now)) ↔
      KeepsCopies copies (.updateSession sessionId updates now) := by
  rw [terminalsAgree_iff_at sessionId ?_ h]
  · simp only [AgreesAt, AgreesOn, step, KeepsCopies]
    rw [stored_updateSession, if_pos rfl]
    have hbefore := h sessionId
    constructor
    · intro hat terminal given hterminal hstate hgiven
      obtain ⟨state, hstored⟩ : ∃ state, stored copies.services.store sessionId = some state := by
        rw [← Option.ne_none_iff_exists', Ne, stored_eq_none_iff]
        exact hstate
      have hafter := hat.1 terminal _ hterminal (by rw [hstored]; rfl)
      rw [hgiven] at hafter
      exact (agrees_applied_iff (hbefore.1 terminal state hterminal hstored) given).mp hafter
    · intro hsame
      refine ⟨fun terminal state' hterminal hstate' => ?_, hbefore.2⟩
      obtain ⟨state, hstored, rfl⟩ := Option.map_eq_some_iff.mp hstate'
      have hagrees := hbefore.1 terminal state hterminal hstored
      cases hgiven : updates.terminal with
      | none => exact hagrees
      | some given =>
        refine (agrees_applied_iff hagrees given).mpr (hsame terminal given hterminal ?_ hgiven)
        rw [Ne, ← stored_eq_none_iff, hstored]
        simp
  · intro key hkey
    dsimp only [step]
    rw [stored_updateSession, if_neg hkey]
    exact ⟨rfl, rfl, Iff.rfl⟩

theorem deleteSession_iff (sessionId : SessionId) (now : Time) (h : TerminalsAgree copies) :
    TerminalsAgree (step config copies (.deleteSession sessionId now)) ↔
      KeepsCopies copies (.deleteSession sessionId now) := by
  rw [terminalsAgree_iff_at sessionId ?_ h]
  · simp only [AgreesAt, AgreesOn, step, KeepsCopies, deleteSession]
    rw [stored_removeSession, if_pos rfl]
    have hbefore := h sessionId
    constructor
    · intro hat hstate
      refine hat.2 ?_
      rw [if_neg hstate]
      exact List.mem_cons_self
    · intro hregistered
      refine ⟨fun terminal state hterminal hstate => (by cases hstate), fun hgone => ?_⟩
      by_cases hstate : copies.services.store.getState sessionId = none
      · rw [if_pos hstate] at hgone
        exact hbefore.2 hgone
      · exact hregistered hstate
  · intro key hkey
    dsimp only [step, deleteSession]
    rw [stored_removeSession, if_neg hkey]
    refine ⟨rfl, rfl, ?_⟩
    split
    · exact Iff.rfl
    · rw [List.mem_cons]
      exact or_iff_right (Ne.symm hkey)

theorem terminalsAgree_step_iff (operation : Operation) (h : TerminalsAgree copies) :
    TerminalsAgree (step config copies operation) ↔ KeepsCopies copies operation := by
  cases operation with
  | createTerminal options now => exact createTerminal_iff config options now h
  | resize sessionId rows cols now =>
    exact iff_of_true (resize_agrees config sessionId rows cols now h) trivial
  | updateEnvironment sessionId env now =>
    exact iff_of_true (updateEnvironment_agrees config sessionId env now h) trivial
  | destroy sessionId now => exact iff_of_true (destroy_agrees config sessionId now h) trivial
  | createSession params randomUUID now => exact createSession_iff config params randomUUID now h
  | updateSession sessionId updates now => exact updateSession_iff config sessionId updates now h
  | deleteSession sessionId now => exact deleteSession_iff config sessionId now h

theorem terminalsAgree_initial (maxHistorySize : Nat) :
    TerminalsAgree (initial maxHistorySize) := by
  intro sessionId
  exact ⟨fun terminal state hterminal => (by cases hterminal), fun hgone => (by cases hgone)⟩

-- The copies agree along a whole run exactly when every operation that writes one of
-- them writes what the other one holds.
theorem terminalsAgree_iff (config : TerminalConfig) (maxHistorySize : Nat)
    (operations : List Operation) :
    Throughout (step config) TerminalsAgree (initial maxHistorySize) operations ↔
      Along (step config) KeepsCopies (initial maxHistorySize) operations := by
  refine @throughout_iff_along _ _ _ (fun _ => True) _ _ (fun _ _ _ => trivial) ?_ _ trivial
    (terminalsAgree_initial maxHistorySize) operations
  intro copies operation _ h
  exact terminalsAgree_step_iff config operation h

-- A session with a terminal is updated to another size.
def resizedBySession : List Operation :=
  [.createSession { id := some (js "s") } [] 0, .createTerminal { sessionId := js "s" } 0,
    .updateSession (js "s") { terminal := some {
      rows := some (.ofInt 50), cols := some (.ofInt 120) } } 0]

theorem terminalsAgree_not_update :
    ¬∀ (config : TerminalConfig) (maxHistorySize : Nat) (operations : List Operation),
      Throughout (step config) TerminalsAgree (initial maxHistorySize) operations := by
  intro hall
  have hlast := throughout_last (step {}) (hall {} 100 resizedBySession) (js "s")
  have hregistered : ((run (step {}) (initial 100) resizedBySession).services.terminals.get
      (js "s")).map Terminal.rows = some (.ofInt 24) := by
    rfl
  have hkept : (stored (run (step {}) (initial 100) resizedBySession).services.store
      (js "s")).map TerminalState.rows = some (.ofInt 50) := by
    rfl
  obtain ⟨terminal, hterminal, hrows⟩ := Option.map_eq_some_iff.mp hregistered
  obtain ⟨state, hstate, hstored⟩ := Option.map_eq_some_iff.mp hkept
  have hsame := (hlast.1 terminal state hterminal hstate).2.1
  rw [hrows, hstored, Number.ofInt_inj] at hsame
  cases hsame

end Agreement

end WebSsh2.State.TerminalCopies

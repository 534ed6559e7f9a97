import WebSsh2.Ssh.ConnectOutcome
import WebSsh2.State.SessionInvariant

namespace WebSsh2.Ssh

open WebSsh2.Library WebSsh2.State

-- The connection of the most recent CONNECTION_ESTABLISHED for the session.
def latestEstablished (effects : List SshEffect) (sessionId : SessionId) : Option ConnectionId :=
  effects.reverse.findSome? fun
    | .dispatched other (.connectionEstablished id) => if other = sessionId then some id else none
    | _ => none

namespace SSHServiceImpl

-- The connection is the latest one of the session, in the pool and without error.
structure Current (service : SSHServiceImpl) (sessionId : SessionId) (id : ConnectionId) :
    Prop where
  latest : latestEstablished service.effects sessionId = some id
  pooled : ∃ ref entry connection, service.pool.get id = some ref ∧
    service.openCall ref.client = some (entry, connection) ∧ connection.status ≠ .error

def Undisturbed (service : SSHServiceImpl) : Prop :=
  ∀ sessionId id, service.Current sessionId id →
    ∀ state, service.store.getState sessionId = some state →
      state.connection.status = .connected ∧ state.connection.connectionId = some id

-- Something is reported for the session while another connection is current in it.
def Disturbed (service : SSHServiceImpl) (sessionId : SessionId) (id : ConnectionId) : Prop :=
  (service.store.getState sessionId).isSome ∧
    ∃ current, current ≠ id ∧ service.Current sessionId current

-- The error, close or disconnect of a connection while another one of its session is
-- current.
def Disturbs (service : SSHServiceImpl) : SshEvent → Prop
  | .error call _ _ | .close call _ => ∃ entry connection,
      service.openCall call = some (entry, connection) ∧
        service.Disturbed entry.config.sessionId connection.id
  | .disconnect id ends _ => ends = true ∧ ∃ ref, service.pool.get id = some ref ∧
      service.Disturbed ref.sessionId id
  | _ => False

end SSHServiceImpl

theorem latestEstablished_append (effects more : List SshEffect) (sessionId : SessionId) :
    latestEstablished (effects ++ more) sessionId =
      (latestEstablished more sessionId).or (latestEstablished effects sessionId) := by
  unfold latestEstablished
  rw [List.reverse_append, List.findSome?_append]

theorem mem_of_latestEstablished {effects : List SshEffect} {sessionId : SessionId}
    {id : ConnectionId} (h : latestEstablished effects sessionId = some id) :
    .dispatched sessionId (.connectionEstablished id) ∈ effects := by
  obtain ⟨effect, hmem, hsome⟩ := List.exists_of_findSome?_eq_some h
  rw [List.mem_reverse] at hmem
  split at hsome
  · split at hsome
    · rename_i hsession
      rw [← Option.some.inj hsome, ← hsession]
      exact hmem
    · cases hsome
  · cases hsome

namespace SSHServiceImpl

variable {randomUUID : Nat → JsString} {service next : SSHServiceImpl}

-- An event that changes no session of the store and makes no connection current.
theorem undisturbed_of_quiet (hcurrent : ∀ sessionId id,
    next.Current sessionId id → service.Current sessionId id)
    (hstore : next.store = service.store) (h : service.Undisturbed) : next.Undisturbed := by
  intro sessionId id hnext state hstate
  rw [hstore] at hstate
  exact h sessionId id (hcurrent sessionId id hnext) state hstate

variable {id : ConnectionId}

-- A report of one connection leaves the others as they are, but not the session.
theorem undisturbed_report {sessionId : SessionId} {action : SessionAction} {now : Time}
    (hcurrent : ∀ other current, next.Current other current ↔ service.Current other current ∧ current ≠ id)
    (hstore : next.store = service.store.dispatch sessionId action now)
    (haction : ∀ state, (nextState state (now, action)).connection.status ≠ .connected)
    (h : service.Undisturbed) : next.Undisturbed ↔ ¬ service.Disturbed sessionId id := by
  constructor
  · rintro hnext ⟨hsome, current, hne, hcur⟩
    obtain ⟨state, hstate⟩ := Option.isSome_iff_exists.mp hsome
    have hafter : next.store.getState sessionId = some (nextState state (now, action)) := by
      rw [hstore, SessionStore.getState_dispatch_self, hstate, Option.map_some]
    exact haction state
      (hnext sessionId current ((hcurrent sessionId current).mpr ⟨hcur, hne⟩) _ hafter).1
  · intro hnot other current hnext state hstate
    obtain ⟨hcur, hne⟩ := (hcurrent other current).mp hnext
    rw [hstore] at hstate
    by_cases hsession : sessionId = other
    · subst hsession
      refine absurd ⟨?_, current, hne, hcur⟩ hnot
      rw [SessionStore.getState_dispatch_self] at hstate
      obtain ⟨before, hbefore, _⟩ := Option.map_eq_some_iff.mp hstate
      rw [hbefore]
      rfl
    · rw [SessionStore.getState_dispatch_of_ne _ _ _ hsession] at hstate
      exact h other current hcur state hstate

theorem connectionError_status (state : SessionState) (now : Time) (message : JsString) :
    (nextState state (now, .connectionError message)).connection.status ≠ .connected := by
  simp [nextState_sub, connectionReducer]

theorem connectionClosed_status (state : SessionState) (now : Time) (reason : Option JsString) :
    (nextState state (now, .connectionClosed reason)).connection.status ≠ .connected := by
  simp [nextState_sub, connectionReducer]

variable {entry : ConnectCall} {connection : SSHConnection} {call : Nat} {ref : ConnectionRef}

-- The pooled connection is the one that the call of its reference made.
theorem Sound.pooled_client (hs : Sound randomUUID service)
    (hopen : service.openCall call = some (entry, connection))
    (hinj : Function.Injective randomUUID) (hpooled : service.pool.get connection.id = some ref) :
    ref.client = call := by
  have hid := (hs.pooled _ ref hpooled).2.1
  rw [(hs.made call entry connection hopen).id] at hid
  exact (hinj hid).symm

theorem openCall_congr (h : next.calls[call]? = service.calls[call]?) :
    next.openCall call = service.openCall call := by
  unfold openCall
  rw [h]

-- A connection that is in the pool belongs to a call that is settled.
theorem Sound.pooled_settled (hs : Sound randomUUID service)
    (hpooled : service.pool.get id = some ref) : Settled service.calls ref.client := by
  by_contra hpending
  have hok := (hs.pooled id ref hpooled).1
  rw [hs.unsettled _ hpending] at hok
  simp at hok

-- What only adds effects of other kinds, takes out of the pool, or writes a call that is
-- still pending makes no connection current.
theorem current_of_pooled (hs : Sound randomUUID service)
    (hlatest : ∀ sessionId, latestEstablished next.effects sessionId =
      latestEstablished service.effects sessionId)
    (hpool : ∀ id ref, next.pool.get id = some ref → service.pool.get id = some ref)
    (hcalls : ∀ call, Settled service.calls call → next.calls[call]? = service.calls[call]?)
    (sessionId : SessionId) (id : ConnectionId) (h : next.Current sessionId id) :
    service.Current sessionId id := by
  obtain ⟨ref, entry, connection, hget, hopen, hstatus⟩ := h.pooled
  have hold := hpool id ref hget
  rw [openCall_congr (hcalls _ (hs.pooled_settled hold))] at hopen
  exact ⟨(hlatest sessionId).symm.trans h.latest, ref, entry, connection, hold, hopen, hstatus⟩

theorem undisturbed_connect (hs : Sound randomUUID service) (h : service.Undisturbed)
    (config : SSHConfig) (validated started : Except JsString Unit) (now : Time) :
    (service.connect randomUUID config validated started now).Undisturbed := by
  have hcalls : ∀ (added : ConnectCall) (call : Nat), Settled service.calls call →
      (service.calls ++ [added])[call]? = service.calls[call]? := by
    intro added call hsettled
    obtain ⟨entry, hentry, _⟩ := hsettled
    exact List.getElem?_append_left (List.getElem?_eq_some_iff.mp hentry).1
  cases validated with
  | error message =>
    refine undisturbed_of_quiet (current_of_pooled hs (fun sessionId => ?_)
      (fun _ _ hget => hget) (hcalls _)) rfl h
    simp [connect, latestEstablished]
  | ok _ =>
    cases started with
    | ok _ =>
      exact undisturbed_of_quiet (current_of_pooled hs (fun _ => rfl)
        (fun _ _ hget => hget) (hcalls _)) rfl h
    | error message =>
      have heq : service.connect randomUUID config (.ok ()) (.error message) now =
          { service with
            calls := service.calls ++ [⟨config, some (newConnection
              (randomUUID service.calls.length) service.calls.length config now),
              false, true⟩]
            effects := service.effects ++
              [.resolved service.calls.length (.error message)] } := by
        simp [connect, settle]
      rw [heq]
      refine undisturbed_of_quiet (current_of_pooled hs (fun sessionId => ?_)
        (fun _ _ hget => hget) (hcalls _)) rfl h
      simp [latestEstablished]

-- The call that an entry is written for is not settled, so nothing pooled changes.
theorem calls_set_of_pending (hentry : service.calls[call]? = some entry)
    (hpending : entry.settled = false) (written : ConnectCall) (other : Nat)
    (hsettled : Settled service.calls other) :
    (service.calls.set call written)[other]? = service.calls[other]? := by
  have hne : call ≠ other := by
    rintro rfl
    obtain ⟨entry', hentry', htrue⟩ := hsettled
    rw [hentry, Option.some.injEq] at hentry'
    rw [← hentry', hpending] at htrue
    cases htrue
  exact List.getElem?_set_ne hne

theorem undisturbed_timeout (hs : Sound randomUUID service) (h : service.Undisturbed)
    (call : Nat) : (service.connectTimeout call).Undisturbed := by
  cases hopen : service.openCall call with
  | none =>
    simp only [connectTimeout, hopen]
    exact h
  | some opened =>
    obtain ⟨entry, connection⟩ := opened
    have hentry := (openCall_eq_some.mp hopen).1
    cases hsettled : entry.settled with
    | true =>
      simp only [connectTimeout, hopen, hsettled, Bool.or_true, if_true]
      exact h
    | false =>
      rw [connectTimeout_eq hopen hsettled (hs.armed call entry hentry hsettled).1]
      refine undisturbed_of_quiet (current_of_pooled hs (fun sessionId => ?_)
        (fun _ _ => ConnectionPool.get_of_get_remove)
        (calls_set_of_pending hentry hsettled _)) rfl h
      simp [latestEstablished]

theorem undisturbed_ready (hinj : Function.Injective randomUUID)
    (hs : Sound randomUUID service) (h : service.Undisturbed) (call : Nat) (now : Time) :
    (service.readyHandler call now).Undisturbed := by
  cases hopen : service.openCall call with
  | none =>
    simp only [readyHandler, hopen]
    exact h
  | some opened =>
    obtain ⟨entry, connection⟩ := opened
    have hentry := (openCall_eq_some.mp hopen).1
    cases hsettled : entry.settled with
    | true =>
      simp only [readyHandler, hopen, hsettled, if_true]
      exact h
    | false =>
      rw [readyHandler_eq hopen hsettled]
      intro sessionId id hcur state hstate
      have hlatest := hcur.latest
      rw [latestEstablished_append] at hlatest
      by_cases hsession : entry.config.sessionId = sessionId
      · simp only [latestEstablished, List.reverse_cons, List.reverse_nil, List.nil_append,
          List.cons_append, List.findSome?_cons, hsession, if_true, Option.some_or,
          Option.some.injEq] at hlatest
        dsimp only at hstate
        rw [hsession, SessionStore.getState_dispatch_self] at hstate
        obtain ⟨before, _, rfl⟩ := Option.map_eq_some_iff.mp hstate
        rw [← hlatest]
        simp [nextState_sub, connectionReducer]
      · dsimp only at hstate
        rw [SessionStore.getState_dispatch_of_ne _ _ _ hsession] at hstate
        have hbefore : latestEstablished service.effects sessionId = some id := by
          simpa [latestEstablished, hsession] using hlatest
        -- It was established before, so it is not the one that is ready only now.
        have hne : connection.id ≠ id := by
          intro hid
          obtain ⟨other, _, _, _, hok⟩ :=
            (hs.established sessionId id).mp (mem_of_latestEstablished hbefore)
          have hown := hs.own other id hok
          rw [← hid, (hs.made call entry connection hopen).id] at hown
          have hcall := hinj hown
          subst hcall
          rw [hs.unsettled call (by simp [Settled, hentry, hsettled])] at hok
          simp at hok
        obtain ⟨ref, entry', connection', hget, hopen', hstatus⟩ := hcur.pooled
        have hold : service.pool.get id = some ref := by simpa [hne] using hget
        have hsame := calls_set_of_pending hentry hsettled { entry with
          connection := some { connection with status := .connected, lastActivity := now }
          settled := true
          timer := false } ref.client (hs.pooled_settled hold)
        refine h sessionId id ⟨hbefore, ref, entry', connection', hold, ?_, hstatus⟩ state
          hstate
        rw [← hopen']
        exact (openCall_congr hsame).symm

theorem undisturbed_error (hinj : Function.Injective randomUUID) (hs : Sound randomUUID service)
    (h : service.Undisturbed) (hopen : service.openCall call = some (entry, connection))
    (error : SSHConnectionError) (now : Time) :
    (service.errorHandler call error now).Undisturbed ↔
      ¬ service.Disturbed entry.config.sessionId connection.id := by
  rw [errorHandler_eq hopen]
  refine undisturbed_report (fun other current => ?_) rfl
    (connectionError_status · now (normalizeSSHErrorMessage error)) h
  have hentry := (openCall_eq_some.mp hopen).1
  have hlt := (List.getElem?_eq_some_iff.mp hentry).1
  have hlatest : latestEstablished (service.effects ++ .dispatched entry.config.sessionId
      (.connectionError (normalizeSSHErrorMessage error)) ::
      if entry.settled then [] else [.resolved call (.error error.message)]) other =
      latestEstablished service.effects other := by
    rw [latestEstablished_append]
    cases entry.settled <;> simp [latestEstablished]
  -- Of the connections in the pool, the call's own one has failed, the others are as before.
  have hother : ∀ ref, service.pool.get current = some ref → current ≠ connection.id →
      call ≠ ref.client := by
    rintro ref hget hne rfl
    have hid := (hs.pooled current ref hget).2.1
    rw [← (hs.made _ entry connection hopen).id] at hid
    exact hne hid
  constructor
  · rintro ⟨hcur, ref, entry', connection', hget, hopen', hstatus⟩
    have hne : current ≠ connection.id := by
      rintro rfl
      have hclient := hs.pooled_client hopen hinj hget
      obtain ⟨hentry', hconnection'⟩ := openCall_eq_some.mp hopen'
      dsimp only at hentry'
      rw [hclient, List.getElem?_set_self hlt, Option.some.injEq] at hentry'
      subst hentry'
      rw [Option.some.injEq] at hconnection'
      rw [← hconnection'] at hstatus
      exact hstatus rfl
    refine ⟨⟨hlatest.symm.trans hcur, ref, entry', connection', hget, ?_, hstatus⟩, hne⟩
    rw [← hopen']
    exact (openCall_congr (List.getElem?_set_ne (hother ref hget hne))).symm
  · rintro ⟨⟨hcur, ref, entry', connection', hget, hopen', hstatus⟩, hne⟩
    refine ⟨hlatest.trans hcur, ref, entry', connection', hget, ?_, hstatus⟩
    rw [← hopen']
    exact openCall_congr (List.getElem?_set_ne (hother ref hget hne))

-- Removing a connection leaves the others in the pool.
theorem current_remove (hcalls : next.calls = service.calls)
    (hpool : next.pool = service.pool.remove id)
    (hlatest : ∀ sessionId, latestEstablished next.effects sessionId = latestEstablished service.effects sessionId)
    (sessionId : SessionId) (current : ConnectionId) :
    next.Current sessionId current ↔ service.Current sessionId current ∧ current ≠ id := by
  have hopen : ∀ call, next.openCall call = service.openCall call :=
    fun call => openCall_congr (by rw [hcalls])
  constructor
  · rintro ⟨hcur, ref, entry, connection, hget, hopen', hstatus⟩
    rw [hpool, ConnectionPool.get_remove] at hget
    split at hget
    · cases hget
    · rename_i hne
      rw [hopen] at hopen'
      exact ⟨⟨(hlatest _).symm.trans hcur, ref, entry, connection, hget, hopen', hstatus⟩,
        Ne.symm hne⟩
  · rintro ⟨⟨hcur, ref, entry, connection, hget, hopen', hstatus⟩, hne⟩
    rw [← hopen] at hopen'
    exact ⟨(hlatest _).trans hcur, ref, entry, connection, by simp [hpool, hne.symm, hget],
      hopen', hstatus⟩

theorem undisturbed_close (h : service.Undisturbed)
    (hopen : service.openCall call = some (entry, connection)) (now : Time) :
    (service.closeHandler call now).Undisturbed ↔
      ¬ service.Disturbed entry.config.sessionId connection.id := by
  rw [closeHandler_eq hopen]
  refine undisturbed_report (current_remove rfl rfl fun sessionId => ?_) rfl
    (connectionClosed_status · now none) h
  simp [latestEstablished]

theorem undisturbed_disconnect (h : service.Undisturbed) (hpooled : service.pool.get id = some ref)
    (now : Time) :
    (service.disconnect id true now).Undisturbed ↔ ¬ service.Disturbed ref.sessionId id := by
  rw [disconnect_eq hpooled]
  refine undisturbed_report (current_remove rfl rfl fun sessionId => ?_) rfl
    (connectionClosed_status · now none) h
  simp [latestEstablished]

theorem undisturbed_step (hinj : Function.Injective randomUUID) (event : SshEvent)
    (hs : Sound randomUUID service) (h : service.Undisturbed) :
    (sshStep randomUUID service event).Undisturbed ↔ ¬ service.Disturbs event := by
  cases event with
  | connect config validated started now =>
    exact iff_of_true (undisturbed_connect hs h config validated started now) id
  | timeout call => exact iff_of_true (undisturbed_timeout hs h call) id
  | ready call now => exact iff_of_true (undisturbed_ready hinj hs h call now) id
  | error call error now =>
    cases hopen : service.openCall call with
    | none =>
      refine iff_of_true ?_ (by simp [Disturbs, hopen])
      simp only [sshStep, errorHandler, hopen]
      exact h
    | some opened =>
      obtain ⟨entry, connection⟩ := opened
      have hiff := undisturbed_error hinj hs h hopen error now
      simpa [Disturbs, hopen, sshStep] using hiff
  | close call now =>
    cases hopen : service.openCall call with
    | none =>
      refine iff_of_true ?_ (by simp [Disturbs, hopen])
      simp only [sshStep, closeHandler, hopen]
      exact h
    | some opened =>
      obtain ⟨entry, connection⟩ := opened
      have hiff := undisturbed_close h hopen now
      simpa [Disturbs, hopen, sshStep] using hiff
  | disconnect id ends now =>
    cases hpooled : service.pool.get id with
    | none =>
      refine iff_of_true ?_ (by simp [Disturbs, hpooled])
      simp only [sshStep, disconnect, hpooled]
      exact h
    | some ref =>
      cases ends with
      | false =>
        refine iff_of_true ?_ (by simp [Disturbs])
        simp only [sshStep, disconnect, hpooled]
        exact h
      | true =>
        have hiff := undisturbed_disconnect h hpooled now
        simpa [Disturbs, hpooled, sshStep] using hiff

theorem undisturbed_new (store : SessionStore) : (new store).Undisturbed := by
  intro sessionId id h
  have hlatest := h.latest
  simp [new, latestEstablished] at hlatest

end SSHServiceImpl

-- In every state of a run the current connection of a session is the one the store shows,
-- exactly when nothing was reported for another one while it was current.
theorem undisturbed_iff {randomUUID : Nat → JsString} (hinj : Function.Injective randomUUID)
    (store : SessionStore) (events : List SshEvent) :
    Run.Throughout (sshStep randomUUID) SSHServiceImpl.Undisturbed (SSHServiceImpl.new store)
      events ↔
    Run.Along (sshStep randomUUID) (fun service event => ¬ service.Disturbs event)
      (SSHServiceImpl.new store) events :=
  @Run.throughout_iff_along _ _ (sshStep randomUUID) (SSHServiceImpl.Sound randomUUID)
    SSHServiceImpl.Undisturbed (fun service event => ¬ service.Disturbs event)
    (fun service event => SSHServiceImpl.sound_change (sshStep_change randomUUID service event))
    (fun _ event => SSHServiceImpl.undisturbed_step hinj event) _
    (SSHServiceImpl.sound_new randomUUID store) (SSHServiceImpl.undisturbed_new store) events

-- Draws are distinct, and the store has the session of both connections.
def exampleUUID (draw : Nat) : JsString :=
  List.replicate draw 48

def exampleStore : SessionStore :=
  (SessionStore.new 100).createSession (js "s") 0

def exampleConfig : SSHConfig where
  sessionId := js "s"
  host := js "host"
  port := .finite 22
  username := js "user"

-- Two calls for one session; the first connection closes after the second one is ready.
def replacedThenClosed : List SshEvent :=
  [.connect exampleConfig (.ok ()) (.ok ()) 1, .connect exampleConfig (.ok ()) (.ok ()) 2,
    .ready 0 3, .ready 1 4, .close 0 5]

theorem undisturbed_not_lateClose :
    ¬ ∀ (randomUUID : Nat → JsString), Function.Injective randomUUID →
      ∀ (store : SessionStore) (events : List SshEvent),
        (Run.run (sshStep randomUUID) (SSHServiceImpl.new store) events).Undisturbed := by
  intro h
  have hrun := h exampleUUID (List.replicate_left_injective 48) exampleStore replacedThenClosed
    (js "s") (exampleUUID 1)
    ⟨by decide, ⟨js "s", 1⟩, _, _, by decide, rfl, by decide⟩ _ rfl
  exact absurd hrun.1 (by decide)

-- The second of two connections of one session closes, which is the current one.
theorem undisturbed_iff_currentCloses :
    Run.Throughout (sshStep exampleUUID) SSHServiceImpl.Undisturbed
      (SSHServiceImpl.new exampleStore)
      [.connect exampleConfig (.ok ()) (.ok ()) 1, .connect exampleConfig (.ok ()) (.ok ()) 2,
        .ready 0 3, .ready 1 4, .close 1 5] := by
  refine (undisturbed_iff (List.replicate_left_injective 48) exampleStore _).mpr
    ⟨id, id, id, id, ?_, trivial⟩
  rintro ⟨entry, connection, hopen, -, current, hne, hcurrent⟩
  cases hopen
  exact hne (Option.some.inj (hcurrent.latest.symm.trans rfl))

end WebSsh2.Ssh

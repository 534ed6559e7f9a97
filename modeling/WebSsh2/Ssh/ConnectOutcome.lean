import WebSsh2.Library.Run
import WebSsh2.Ssh.ConnectionHandlers

namespace WebSsh2.Ssh

open WebSsh2.Library WebSsh2.State

-- What the promise of a call was resolved with, in order.
def resultsOf (effects : List SshEffect) (call : Nat) : List (Except JsString ConnectionId) :=
  effects.filterMap fun
    | .resolved other result => if other = call then some result else none
    | _ => none

@[simp] theorem resultsOf_nil (call : Nat) : resultsOf [] call = [] := rfl

@[simp] theorem resultsOf_append (effects more : List SshEffect) (call : Nat) :
    resultsOf (effects ++ more) call = resultsOf effects call ++ resultsOf more call :=
  List.filterMap_append

@[simp] theorem resultsOf_dispatched (sessionId : SessionId) (action : SessionAction)
    (rest : List SshEffect) (call : Nat) :
    resultsOf (.dispatched sessionId action :: rest) call = resultsOf rest call := rfl

@[simp] theorem resultsOf_pooled (id : ConnectionId) (rest : List SshEffect) (call : Nat) :
    resultsOf (.pooled id :: rest) call = resultsOf rest call := rfl

@[simp] theorem resultsOf_ended (client : Nat) (rest : List SshEffect) (call : Nat) :
    resultsOf (.ended client :: rest) call = resultsOf rest call := rfl

@[simp] theorem resultsOf_resolved (other : Nat) (result : Except JsString ConnectionId)
    (rest : List SshEffect) (call : Nat) :
    resultsOf (.resolved other result :: rest) call =
      if other = call then result :: resultsOf rest call else resultsOf rest call := by
  by_cases h : other = call <;> simp [resultsOf, h]

def Settled (calls : List ConnectCall) (call : Nat) : Prop :=
  ∃ entry, calls[call]? = some entry ∧ entry.settled = true

theorem settled_append (calls : List ConnectCall) (added : ConnectCall) (call : Nat) :
    Settled (calls ++ [added]) call ↔
      Settled calls call ∨ (call = calls.length ∧ added.settled = true) := by
  unfold Settled
  rcases Nat.lt_trichotomy call calls.length with hlt | rfl | hgt
  · rw [List.getElem?_append_left hlt]
    have hne : call ≠ calls.length := by omega
    simp [hne]
  · simp
  · have hnone : (calls ++ [added])[call]? = none := by
      rw [List.getElem?_eq_none_iff, List.length_append, List.length_singleton]
      omega
    have hold : calls[call]? = none := by
      rw [List.getElem?_eq_none_iff]
      omega
    have hne : call ≠ calls.length := by omega
    simp [hnone, hold, hne]

theorem settled_set {calls : List ConnectCall} {other : Nat} {old : ConnectCall}
    (hold : calls[other]? = some old) (written : ConnectCall) (call : Nat) :
    Settled (calls.set other written) call ↔
      if other = call then written.settled = true else Settled calls call := by
  have hlt := (List.getElem?_eq_some_iff.mp hold).1
  unfold Settled
  by_cases hcall : other = call
  · subst hcall
    simp [hlt]
  · simp [hcall]

namespace SSHServiceImpl

-- The connection that a call made.
structure Made (randomUUID : Nat → JsString) (call : Nat) (entry : ConnectCall)
    (connection : SSHConnection) : Prop where
  id : connection.id = randomUUID call
  client : connection.client = call
  session : connection.sessionId = entry.config.sessionId

-- What every event keeps.
structure Sound (randomUUID : Nat → JsString) (service : SSHServiceImpl) : Prop where
  made : ∀ call entry connection, service.openCall call = some (entry, connection) →
    Made randomUUID call entry connection
  armed : ∀ (call : Nat) (entry : ConnectCall), service.calls[call]? = some entry →
    entry.settled = false →
    entry.timer = true ∧ entry.connection.isSome
  settled : ∀ call, Settled service.calls call →
    ∃ result, resultsOf service.effects call = [result]
  unsettled : ∀ call, ¬ Settled service.calls call → resultsOf service.effects call = []
  pooled : ∀ id ref, service.pool.get id = some ref →
    .ok id ∈ resultsOf service.effects ref.client ∧ id = randomUUID ref.client ∧
      ∃ entry, service.calls[ref.client]? = some entry ∧ ref.sessionId = entry.config.sessionId
  own : ∀ call id, .ok id ∈ resultsOf service.effects call → id = randomUUID call
  established : ∀ sessionId id,
    .dispatched sessionId (.connectionEstablished id) ∈ service.effects ↔
      ∃ call entry, service.calls[call]? = some entry ∧ entry.config.sessionId = sessionId ∧
        .ok id ∈ resultsOf service.effects call
  added : ∀ id, .pooled id ∈ service.effects ↔
    ∃ call, .ok id ∈ resultsOf service.effects call

theorem sound_new (randomUUID : Nat → JsString) (store : SessionStore) :
    Sound randomUUID (new store) where
  made call entry connection h := by simp [new, openCall] at h
  armed call entry h := by simp [new] at h
  settled call h := by
    obtain ⟨entry, hentry, _⟩ := h
    simp [new] at hentry
  unsettled call _ := rfl
  pooled id ref h := by simp [new] at h
  own call id h := by simp [new] at h
  established sessionId id := by simp [new]
  added id := by simp [new]

variable {randomUUID : Nat → JsString} {service next : SSHServiceImpl}

variable {call : Nat}

-- No call is forgotten: it keeps its config, and stays settled once it is.
theorem calls_change (h : Change randomUUID service next) {entry : ConnectCall}
    (hentry : service.calls[call]? = some entry) :
    ∃ entry', next.calls[call]? = some entry' ∧ entry'.config = entry.config ∧
      (entry.settled = true → entry'.settled = true) := by
  have hlt := (List.getElem?_eq_some_iff.mp hentry).1
  have happend : ∀ new, (service.calls ++ [new])[call]? = some entry := fun new => by
    rw [List.getElem?_append_left hlt, hentry]
  have hset : ∀ other old new, service.calls[other]? = some old → new.config = old.config →
      new.settled = true → ∃ entry', (service.calls.set other new)[call]? = some entry' ∧
        entry'.config = entry.config ∧ (entry.settled = true → entry'.settled = true) := by
    intro other old new hold hconfig hnew
    by_cases hcall : other = call
    · subst hcall
      refine ⟨new, by simp [hlt], ?_, fun _ => hnew⟩
      rw [hconfig, Option.some.inj (hold.symm.trans hentry)]
    · exact ⟨entry, by simp [hcall, hentry], rfl, id⟩
  cases h with
  | idle | closed | disconnected => exact ⟨entry, hentry, rfl, id⟩
  | refused | opened | broken => exact ⟨entry, happend _, rfl, id⟩
  | timedOut other old _ hopen | ready other old _ _ hopen | errored other old _ _ _ hopen =>
    exact hset other old _ (openCall_eq_some.mp hopen).1 rfl rfl

-- An event settles a call at most once, and records the result as it does so.
theorem results_change (h : Change randomUUID service next) (call : Nat) :
    (resultsOf next.effects call = resultsOf service.effects call ∧
      (Settled next.calls call ↔ Settled service.calls call)) ∨
    (¬ Settled service.calls call ∧ Settled next.calls call ∧ ∃ result,
      resultsOf next.effects call = resultsOf service.effects call ++ [result]) := by
  have hnone : ¬ Settled service.calls service.calls.length := by simp [Settled]
  cases h with
  | idle => exact Or.inl ⟨rfl, Iff.rfl⟩
  | refused config message | broken config now message =>
    dsimp only
    rw [settled_append]
    by_cases hcall : service.calls.length = call
    · subst hcall
      exact Or.inr ⟨hnone, Or.inr ⟨rfl, rfl⟩, .error message, by simp⟩
    · exact Or.inl ⟨by simp [hcall], by simp [Ne.symm hcall]⟩
  | opened config now =>
    dsimp only
    rw [settled_append]
    exact Or.inl ⟨rfl, by simp⟩
  | timedOut other old connection hopen hpending | ready other old connection now hopen hpending =>
    have hold := (openCall_eq_some.mp hopen).1
    dsimp only
    rw [settled_set hold]
    by_cases hcall : other = call
    · subst hcall
      exact Or.inr ⟨by simp [Settled, hold, hpending], by simp, _, by simp; rfl⟩
    · exact Or.inl ⟨by simp [hcall], by simp [hcall]⟩
  | errored other old connection error now hopen =>
    have hold := (openCall_eq_some.mp hopen).1
    dsimp only
    rw [settled_set hold]
    by_cases hcall : other = call
    · subst hcall
      cases hpending : old.settled with
      | true => exact Or.inl ⟨by simp, by simp [Settled, hold, hpending]⟩
      | false => exact Or.inr ⟨by simp [Settled, hold, hpending], by simp, _, by simp; rfl⟩
    · refine Or.inl ⟨?_, by simp [hcall]⟩
      cases old.settled <;> simp [hcall]
  | closed | disconnected => exact Or.inl ⟨by simp, Iff.rfl⟩

-- The connections that an event reports as established: the store is told, the pool
-- takes them, and their calls are settled with them, all three or none.
structure Announces (service next : SSHServiceImpl)
    (announced : Option (Nat × ConnectCall × SSHConnection)) : Prop where
  opened : ∀ call entry connection, announced = some (call, entry, connection) →
    service.openCall call = some (entry, connection)
  established : ∀ sessionId id,
    .dispatched sessionId (.connectionEstablished id) ∈ next.effects ↔
      .dispatched sessionId (.connectionEstablished id) ∈ service.effects ∨
        ∃ call entry connection, announced = some (call, entry, connection) ∧
          entry.config.sessionId = sessionId ∧ connection.id = id
  added : ∀ id, .pooled id ∈ next.effects ↔ .pooled id ∈ service.effects ∨
    ∃ call entry connection, announced = some (call, entry, connection) ∧ connection.id = id
  ok : ∀ call id, .ok id ∈ resultsOf next.effects call ↔
    .ok id ∈ resultsOf service.effects call ∨
      ∃ entry connection, announced = some (call, entry, connection) ∧ connection.id = id
  pooled : ∀ id ref, next.pool.get id = some ref → service.pool.get id = some ref ∨
    ∃ call entry connection, announced = some (call, entry, connection) ∧
      connection.id = id ∧ ref = connection.ref

-- What is not announced only takes out of the pool and adds other effects.
theorem announces_none {more : List SshEffect} (heffects : next.effects = service.effects ++ more)
    (hmore : ∀ effect ∈ more, (∀ id, effect ≠ .pooled id) ∧
      (∀ sessionId id, effect ≠ .dispatched sessionId (.connectionEstablished id)) ∧
      ∀ call id, effect ≠ .resolved call (.ok id))
    (hpool : ∀ id ref, next.pool.get id = some ref → service.pool.get id = some ref) :
    Announces service next none where
  opened call entry connection h := by simp at h
  established sessionId id := by
    have hnot : .dispatched sessionId (.connectionEstablished id) ∉ more :=
      fun hmem => (hmore _ hmem).2.1 sessionId id rfl
    simp [heffects, hnot]
  added id := by
    have hnot : .pooled id ∉ more := fun hmem => (hmore _ hmem).1 id rfl
    simp [heffects, hnot]
  ok call id := by
    have hnot : .ok id ∉ resultsOf more call := by
      intro hmem
      obtain ⟨effect, heffect, hresult⟩ := List.mem_filterMap.mp hmem
      cases effect with
      | resolved other result =>
        dsimp only at hresult
        split at hresult
        · rw [Option.some.inj hresult] at heffect
          exact (hmore _ heffect).2.2 other id rfl
        · simp at hresult
      | _ => simp at hresult
    simp [heffects, hnot]
  pooled id ref h := Or.inl (hpool id ref h)

theorem announces_change (h : Change randomUUID service next) :
    ∃ announced, Announces service next announced := by
  cases h with
  | idle | opened =>
    exact ⟨none, announces_none (List.append_nil _).symm (by simp) fun _ _ h => h⟩
  | refused | broken => exact ⟨none, announces_none rfl (by simp) fun _ _ h => h⟩
  | timedOut | closed | disconnected =>
    exact ⟨none, announces_none rfl (by simp) fun _ _ => ConnectionPool.get_of_get_remove⟩
  | ready call entry connection now hopen =>
    refine ⟨some (call, entry, connection), ⟨?_, ?_, ?_, ?_, ?_⟩⟩
    · intro other entry' connection' heq
      simp only [Option.some.injEq, Prod.mk.injEq] at heq
      obtain ⟨rfl, rfl, rfl⟩ := heq
      exact hopen
    · intro sessionId id
      simp [eq_comm]
    · intro id
      simp [eq_comm]
    · intro other id
      by_cases hcall : call = other
      · simp [hcall, eq_comm]
      · simp [hcall]
    · intro id ref hget
      rw [ConnectionPool.get_add] at hget
      split at hget
      · rename_i hid
        exact Or.inr ⟨call, entry, connection, rfl, hid, (Option.some.inj hget).symm⟩
      · exact Or.inl hget
  | errored call entry connection error now =>
    refine ⟨none, announces_none rfl ?_ fun _ _ h => h⟩
    intro effect hmem
    cases hsettled : entry.settled <;> simp [hsettled] at hmem
    · rcases hmem with rfl | rfl <;> simp
    · simp [hmem]

-- Where the entry of a call comes from: it was there, it was added, or it is what a
-- handler made of the entry that was there.
theorem entry_change (h : Change randomUUID service next) {entry : ConnectCall}
    (hentry : next.calls[call]? = some entry) :
    service.calls[call]? = some entry ∨
    (call = service.calls.length ∧
      (entry.settled = false → entry.timer = true ∧ entry.connection.isSome) ∧
      ∀ connection, entry.connection = some connection →
        Made randomUUID call entry connection) ∨
    ∃ old, service.calls[call]? = some old ∧ entry.config = old.config ∧ entry.settled = true ∧
      ∀ connection, entry.connection = some connection →
        ∃ held, old.connection = some held ∧ connection.id = held.id ∧
          connection.ref = held.ref := by
  have hadded : ∀ added : ConnectCall, (service.calls ++ [added])[call]? = some entry →
      service.calls[call]? = some entry ∨ (call = service.calls.length ∧ entry = added) := by
    intro added hget
    rcases Nat.lt_trichotomy call service.calls.length with hlt | rfl | hgt
    · rw [List.getElem?_append_left hlt] at hget
      exact Or.inl hget
    · simp only [List.getElem?_concat_length, Option.some.injEq] at hget
      exact Or.inr ⟨rfl, hget.symm⟩
    · rw [List.getElem?_eq_none_iff.mpr (by simp; omega)] at hget
      cases hget
  have hset : ∀ other old held (written : ConnectCall),
      service.openCall other = some (old, held) →
      (service.calls.set other written)[call]? = some entry →
      service.calls[call]? = some entry ∨ (other = call ∧ service.calls[call]? = some old ∧
        old.connection = some held ∧ entry = written) := by
    intro other old held written hopen hget
    obtain ⟨hold, hheld⟩ := openCall_eq_some.mp hopen
    have hlt := (List.getElem?_eq_some_iff.mp hold).1
    by_cases hcall : other = call
    · subst hcall
      simp only [List.getElem?_set_self hlt, Option.some.injEq] at hget
      exact Or.inr ⟨rfl, hold, hheld, hget.symm⟩
    · rw [List.getElem?_set_ne hcall] at hget
      exact Or.inl hget
  cases h with
  | idle => exact Or.inl hentry
  | refused config message =>
    rcases hadded _ hentry with hold | ⟨hcall, heq⟩
    · exact Or.inl hold
    · refine Or.inr (Or.inl ⟨hcall, ?_⟩)
      simp [heq]
  | opened | broken =>
    rcases hadded _ hentry with hold | ⟨hcall, heq⟩
    · exact Or.inl hold
    · refine Or.inr (Or.inl ⟨hcall, ?_, ?_⟩)
      · simp [heq]
      · intro connection hnew
        rw [heq, Option.some.injEq] at hnew
        rw [← hnew, heq, hcall]
        exact ⟨rfl, rfl, rfl⟩
  | timedOut other old held hopen =>
    rcases hset other old held _ hopen hentry with hkept | ⟨_, hold, hheld, heq⟩
    · exact Or.inl hkept
    · refine Or.inr (Or.inr ⟨old, hold, by rw [heq], by rw [heq], fun connection hnew => ?_⟩)
      rw [heq] at hnew
      exact ⟨connection, hnew, rfl, rfl⟩
  | ready other old held now hopen | errored other old held error now hopen =>
    rcases hset other old held _ hopen hentry with hkept | ⟨_, hold, hheld, heq⟩
    · exact Or.inl hkept
    · refine Or.inr (Or.inr ⟨old, hold, by rw [heq], by rw [heq], fun connection hnew =>
        ⟨held, hheld, ?_⟩⟩)
      rw [heq, Option.some.injEq] at hnew
      rw [← hnew]
      exact ⟨rfl, rfl⟩
  | closed => exact Or.inl hentry
  | disconnected => exact Or.inl hentry

theorem sound_change (h : Change randomUUID service next) (hs : Sound randomUUID service) :
    Sound randomUUID next := by
  obtain ⟨announced, ha⟩ := announces_change h
  have hmade : ∀ call entry connection, announced = some (call, entry, connection) →
      service.calls[call]? = some entry ∧ Made randomUUID call entry connection := by
    intro call entry connection heq
    have hopen := ha.opened call entry connection heq
    exact ⟨(openCall_eq_some.mp hopen).1, hs.made call entry connection hopen⟩
  refine ⟨?_, ?_, ?_, ?_, ?_, ?_, ?_, ?_⟩
  · intro call entry connection hopen
    obtain ⟨hentry, hconnection⟩ := openCall_eq_some.mp hopen
    rcases entry_change h hentry with hold | ⟨_, _, hnew⟩ | ⟨old, hold, hconfig, _, hheld⟩
    · exact hs.made call entry connection (openCall_eq_some.mpr ⟨hold, hconnection⟩)
    · exact hnew connection hconnection
    · obtain ⟨held, hsome, hid, href⟩ := hheld connection hconnection
      have hm := hs.made call old held (openCall_eq_some.mpr ⟨hold, hsome⟩)
      exact ⟨hid.trans hm.id, (congrArg ConnectionRef.client href).trans hm.client, by
        rw [hconfig, ← hm.session]
        exact congrArg ConnectionRef.sessionId href⟩
  · intro call entry hentry hpending
    rcases entry_change h hentry with hold | ⟨_, hnew, _⟩ | ⟨_, _, _, hsettled, _⟩
    · exact hs.armed call entry hold hpending
    · exact hnew hpending
    · rw [hpending] at hsettled
      cases hsettled
  · intro call hsettled
    rcases results_change h call with ⟨hresults, hiff⟩ | ⟨hbefore, _, result, hresults⟩
    · rw [hresults]
      exact hs.settled call (hiff.mp hsettled)
    · exact ⟨result, by rw [hresults, hs.unsettled call hbefore, List.nil_append]⟩
  · intro call hpending
    rcases results_change h call with ⟨hresults, hiff⟩ | ⟨_, hsettled, _⟩
    · rw [hresults]
      exact hs.unsettled call fun hsettled => hpending (hiff.mpr hsettled)
    · exact absurd hsettled hpending
  · intro id ref hget
    rcases ha.pooled id ref hget with hold | ⟨call, entry, connection, heq, hid, rfl⟩
    · obtain ⟨hok, hown, entry, hentry, hsession⟩ := hs.pooled id ref hold
      obtain ⟨entry', hentry', hconfig, _⟩ := calls_change h hentry
      exact ⟨(ha.ok _ _).mpr (Or.inl hok), hown, entry', hentry', by rw [hconfig, hsession]⟩
    · obtain ⟨hentry, hm⟩ := hmade call entry connection heq
      obtain ⟨entry', hentry', hconfig, _⟩ := calls_change h hentry
      have hclient : connection.ref.client = call := hm.client
      rw [hclient]
      refine ⟨(ha.ok _ _).mpr (Or.inr ⟨entry, connection, heq, hid⟩), ?_, entry', hentry', ?_⟩
      · rw [← hid, hm.id]
      · rw [hconfig]
        exact hm.session
  · intro call id hok
    rcases (ha.ok call id).mp hok with hold | ⟨entry, connection, heq, hid⟩
    · exact hs.own call id hold
    · rw [← hid, (hmade call entry connection heq).2.id]
  · intro sessionId id
    rw [ha.established, hs.established]
    constructor
    · rintro (⟨call, entry, hentry, hsession, hok⟩ | ⟨call, entry, connection, heq, hsession, hid⟩)
      · obtain ⟨entry', hentry', hconfig, _⟩ := calls_change h hentry
        exact ⟨call, entry', hentry', by rw [hconfig, hsession], (ha.ok _ _).mpr (Or.inl hok)⟩
      · obtain ⟨entry', hentry', hconfig, _⟩ := calls_change h (hmade call entry connection heq).1
        exact ⟨call, entry', hentry', by rw [hconfig, hsession],
          (ha.ok _ _).mpr (Or.inr ⟨entry, connection, heq, hid⟩)⟩
    · rintro ⟨call, entry', hentry', hsession, hok⟩
      have hsame : ∀ entry, service.calls[call]? = some entry →
          entry.config.sessionId = sessionId := by
        intro entry hentry
        obtain ⟨other, hother, hconfig, _⟩ := calls_change h hentry
        rw [hentry', Option.some.injEq] at hother
        rw [← hconfig, ← hother, hsession]
      rcases (ha.ok _ _).mp hok with hold | ⟨entry, connection, heq, hid⟩
      · have hsettled : Settled service.calls call := by
          by_contra hpending
          rw [hs.unsettled call hpending] at hold
          simp at hold
        obtain ⟨entry, hentry, _⟩ := hsettled
        exact Or.inl ⟨call, entry, hentry, hsame entry hentry, hold⟩
      · exact Or.inr ⟨call, entry, connection, heq,
          hsame entry (hmade call entry connection heq).1, hid⟩
  · intro id
    rw [ha.added, hs.added]
    constructor
    · rintro (⟨call, hok⟩ | ⟨call, entry, connection, heq, hid⟩)
      · exact ⟨call, (ha.ok _ _).mpr (Or.inl hok)⟩
      · exact ⟨call, (ha.ok _ _).mpr (Or.inr ⟨entry, connection, heq, hid⟩)⟩
    · rintro ⟨call, hok⟩
      rcases (ha.ok _ _).mp hok with hold | ⟨entry, connection, heq, hid⟩
      · exact Or.inl ⟨call, hold⟩
      · exact Or.inr ⟨call, entry, connection, heq, hid⟩

theorem sound_run (store : SessionStore) (events : List SshEvent) :
    Sound randomUUID (Run.run (sshStep randomUUID) (new store) events) :=
  Run.invariant_of_step (sound_new randomUUID store)
    (fun service event => sound_change (sshStep_change randomUUID service event)) events

theorem Sound.results_length_le (hs : Sound randomUUID service) (call : Nat) :
    (resultsOf service.effects call).length ≤ 1 := by
  by_cases hsettled : Settled service.calls call
  · obtain ⟨result, hresult⟩ := hs.settled call hsettled
    simp [hresult]
  · simp [hs.unsettled call hsettled]

-- The timer of a call that is still pending settles it.
theorem Sound.settled_timeout (hs : Sound randomUUID service) (hcall : call < service.calls.length) :
    Settled (service.connectTimeout call).calls call := by
  obtain ⟨entry, hentry⟩ : ∃ entry, service.calls[call]? = some entry :=
    ⟨_, List.getElem?_eq_getElem hcall⟩
  cases hsettled : entry.settled with
  | true =>
    obtain ⟨entry', hentry', _, hkeeps⟩ :=
      calls_change (connectTimeout_change randomUUID service call) hentry
    exact ⟨entry', hentry', hkeeps hsettled⟩
  | false =>
    obtain ⟨htimer, hsome⟩ := hs.armed call entry hentry hsettled
    obtain ⟨connection, hconnection⟩ := Option.isSome_iff_exists.mp hsome
    have hopen := openCall_eq_some.mpr ⟨hentry, hconnection⟩
    have hget := (List.getElem?_eq_some_iff.mp hentry).2
    simp [connectTimeout, hopen, htimer, hsettled, settle, removeFromPool, endClient, hget,
      Settled, hcall]

theorem Change.results_mono (h : Change randomUUID service next)
    {result : Except JsString ConnectionId} (hmem : result ∈ resultsOf service.effects call) :
    result ∈ resultsOf next.effects call := by
  rcases results_change h call with ⟨hsame, _⟩ | ⟨_, _, added, hmore⟩
  · rw [hsame]
    exact hmem
  · rw [hmore]
    exact List.mem_append_left _ hmem

theorem results_mono (service : SSHServiceImpl) (events : List SshEvent)
    {result : Except JsString ConnectionId} (hmem : result ∈ resultsOf service.effects call) :
    result ∈ resultsOf (Run.run (sshStep randomUUID) service events).effects call :=
  @Run.invariant_of_step _ _ (sshStep randomUUID)
    (fun service => result ∈ resultsOf service.effects call) service hmem
    (fun service event => Change.results_mono (sshStep_change randomUUID service event)) events

end SSHServiceImpl

-- How one call of `connect` ends, and that store and pool agree with it.
structure OneOutcome (randomUUID : Nat → JsString) (service : SSHServiceImpl) (call : Nat) :
    Prop where
  once : (resultsOf service.effects call).length ≤ 1
  own : ∀ id, .ok id ∈ resultsOf service.effects call → id = randomUUID call
  established : ∀ sessionId,
    .dispatched sessionId (.connectionEstablished (randomUUID call)) ∈ service.effects ↔
      (∃ entry, service.calls[call]? = some entry ∧ entry.config.sessionId = sessionId) ∧
        .ok (randomUUID call) ∈ resultsOf service.effects call
  added : .pooled (randomUUID call) ∈ service.effects ↔
    .ok (randomUUID call) ∈ resultsOf service.effects call
  gone : ∀ message, .error message ∈ resultsOf service.effects call →
    service.pool.get (randomUUID call) = none

theorem SSHServiceImpl.Sound.oneOutcome {randomUUID : Nat → JsString}
    (hinj : Function.Injective randomUUID) {service : SSHServiceImpl}
    (hs : Sound randomUUID service) (call : Nat) : OneOutcome randomUUID service call where
  once := hs.results_length_le call
  own := hs.own call
  established sessionId := by
    rw [hs.established]
    constructor
    · rintro ⟨other, entry, hentry, hsession, hok⟩
      have hcall := hinj (hs.own other _ hok)
      subst hcall
      exact ⟨⟨entry, hentry, hsession⟩, hok⟩
    · rintro ⟨⟨entry, hentry, hsession⟩, hok⟩
      exact ⟨call, entry, hentry, hsession, hok⟩
  added := by
    rw [hs.added]
    constructor
    · rintro ⟨other, hok⟩
      have hcall := hinj (hs.own other _ hok)
      subst hcall
      exact hok
    · exact fun hok => ⟨call, hok⟩
  gone message herror := by
    cases hget : service.pool.get (randomUUID call) with
    | none => rfl
    | some ref =>
      obtain ⟨hok, hown, _⟩ := hs.pooled _ ref hget
      have hcall := hinj hown
      subst hcall
      have hle := hs.results_length_le ref.client
      obtain ⟨result, hresult⟩ := List.length_eq_one_iff.mp
        (Nat.le_antisymm hle (List.length_pos_of_mem hok))
      rw [hresult, List.mem_singleton] at hok herror
      rw [← hok] at herror
      cases herror

-- Every order of the events of every call: the promise is resolved at most once, and by
-- its timer at the latest; a call that failed never has its connection in the pool.
theorem connect_oneOutcome {randomUUID : Nat → JsString} (hinj : Function.Injective randomUUID)
    (store : SessionStore) (events : List SshEvent) (call : Nat) :
    let service := Run.run (sshStep randomUUID) (SSHServiceImpl.new store) events
    OneOutcome randomUUID service call ∧
      (call < service.calls.length →
        (resultsOf (sshStep randomUUID service (.timeout call)).effects call).length = 1) ∧
      ∀ message later, .error message ∈ resultsOf service.effects call →
        (Run.run (sshStep randomUUID) service later).pool.get (randomUUID call) = none := by
  intro service
  have hs : SSHServiceImpl.Sound randomUUID service := SSHServiceImpl.sound_run store events
  refine ⟨hs.oneOutcome hinj call, fun hcall => ?_, fun message later herror => ?_⟩
  · have hnext := SSHServiceImpl.sound_change (connectTimeout_change randomUUID service call) hs
    obtain ⟨result, hresult⟩ := hnext.settled call (hs.settled_timeout hcall)
    show (resultsOf (service.connectTimeout call).effects call).length = 1
    rw [hresult]
    rfl
  · have hlater : SSHServiceImpl.Sound randomUUID
        (Run.run (sshStep randomUUID) service later) := by
      rw [← Run.run_append]
      exact SSHServiceImpl.sound_run store (events ++ later)
    exact (hlater.oneOutcome hinj call).gone message
      (SSHServiceImpl.results_mono service later herror)

-- The timer fires, and the client is ready after all.
theorem connect_oneOutcome_lateReady :
    let randomUUID := fun draw => List.replicate draw (48 : UInt16)
    let service := Run.run (sshStep randomUUID) (SSHServiceImpl.new (SessionStore.new 100))
      [.connect ⟨js "s", js "host", .finite 22, js "user"⟩ (.ok ()) (.ok ()) 0, .timeout 0,
        .ready 0 20001]
    Function.Injective randomUUID ∧ OneOutcome randomUUID service 0 :=
  ⟨List.replicate_left_injective 48,
    (connect_oneOutcome (List.replicate_left_injective 48) _ _ 0).1⟩

end WebSsh2.Ssh

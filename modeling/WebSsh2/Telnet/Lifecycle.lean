import Mathlib.Data.List.Basic
import Mathlib.Logic.Function.Basic
import WebSsh2.Telnet.Service

namespace WebSsh2.Telnet

open WebSsh2.Library WebSsh2.State

-- What the calls of `connect` and the pool come to, without shells and what they carry.
-- `destroyed` is none where there is no socket.
structure CallCore where
  config : TelnetConnectionConfig
  settled : Bool
  rejected : Bool
  destroyed : Option Bool

structure PooledCore where
  id : ConnectionId
  sessionId : SessionId
  call : Nat

structure Lifecycle where
  count : Nat
  calls : Nat → Option CallCore
  pooled : ConnectionId → Option PooledCore
  configOf : ConnectionId → Option TelnetConnectionConfig
  outcomes : List (Nat × Outcome)

def TelnetCall.core (entry : TelnetCall) : CallCore where
  config := entry.config
  settled := entry.settled
  rejected := entry.rejected
  destroyed := entry.socket.map NetSocket.destroyed

def TelnetConnection.core (connection : TelnetConnection) : PooledCore where
  id := connection.id
  sessionId := connection.sessionId
  call := connection.call

def TelnetServiceImpl.lifecycle (service : TelnetServiceImpl) : Lifecycle where
  count := service.calls.length
  calls call := service.calls[call]?.map TelnetCall.core
  pooled id := (service.pool.get id).map TelnetConnection.core
  configOf id := service.connectionMeta.get id
  outcomes := service.outcomes

-- Everything that an event can do to it.
inductive Lifecycle.Step (randomUUID : Nat → JsString) (old : Lifecycle) : Lifecycle → Prop where
  | idle : Step randomUUID old old
  | refused (config : TelnetConnectionConfig) (message : JsString) :
      Step randomUUID old { old with
        count := old.count + 1
        calls := Function.update old.calls old.count (some ⟨config, true, false, none⟩)
        outcomes := old.outcomes ++ [(old.count, .resolved (.error message))] }
  | opened (config : TelnetConnectionConfig) :
      Step randomUUID old { old with
        count := old.count + 1
        calls := Function.update old.calls old.count (some ⟨config, false, false, some false⟩) }
  | threw (config : TelnetConnectionConfig) (message : JsString) :
      Step randomUUID old { old with
        count := old.count + 1
        calls := Function.update old.calls old.count (some ⟨config, false, true, some false⟩)
        outcomes := old.outcomes ++ [(old.count, .rejected message)] }
  | failed (call : Nat) (entry : CallCore) (message : JsString)
      (hentry : old.calls call = some entry) (hpending : entry.settled = false) :
      Step randomUUID old { old with
        calls := Function.update old.calls call
          (some ⟨entry.config, true, entry.rejected, entry.destroyed.map fun _ => true⟩)
        outcomes := old.outcomes ++
          if entry.rejected then [] else [(call, .resolved (.error message))] }
  | connected (call : Nat) (entry : CallCore) (hentry : old.calls call = some entry)
      (hpending : entry.settled = false) (hstarted : entry.rejected = false) :
      Step randomUUID old { old with
        calls := Function.update old.calls call (some { entry with settled := true })
        pooled := Function.update old.pooled (randomUUID call)
          (some ⟨randomUUID call, entry.config.sessionId, call⟩)
        configOf := Function.update old.configOf (randomUUID call) (some entry.config)
        outcomes := old.outcomes ++ [(call, .resolved (.ok (randomUUID call)))] }
  | broken (call : Nat) (entry : CallCore) (hentry : old.calls call = some entry)
      (hsettled : entry.settled = true) :
      Step randomUUID old { old with
        calls := Function.update old.calls call
          (some { entry with destroyed := entry.destroyed.map fun _ => true }) }
  | disconnected (id : ConnectionId) (connection : PooledCore)
      (hpooled : old.pooled id = some connection) :
      Step randomUUID old { old with
        calls := Function.update old.calls connection.call ((old.calls connection.call).map
          fun entry => { entry with destroyed := entry.destroyed.map fun _ => true })
        pooled := Function.update old.pooled id none
        configOf := Function.update old.configOf id none }

def resultsOf (resolved : List (Nat × Outcome)) (call : Nat) :
    List Outcome :=
  (resolved.filter fun result => result.1 = call).map Prod.snd

@[simp] theorem resultsOf_append (first second : List (Nat × Outcome))
    (call : Nat) :
    resultsOf (first ++ second) call = resultsOf first call ++ resultsOf second call := by
  simp [resultsOf]

@[simp] theorem resultsOf_singleton (other : Nat) (result : Outcome)
    (call : Nat) : resultsOf [(other, result)] call = if other = call then [result] else [] := by
  by_cases h : other = call <;> simp [resultsOf, h]

namespace Lifecycle

-- A call that has a result is settled or rejected, and such a one has one. What is pooled was
-- handed out, and a socket that is still open belongs to a call not settled or to the pool.
structure Sound (randomUUID : Nat → JsString) (state : Lifecycle) : Prop where
  known : ∀ call entry, state.calls call = some entry → call < state.count
  settled : ∀ call entry, state.calls call = some entry →
    (resultsOf state.outcomes call).length = if entry.settled || entry.rejected then 1 else 0
  unknown : ∀ call, state.calls call = none → resultsOf state.outcomes call = []
  pooled : ∀ id connection, state.pooled id = some connection →
    id = randomUUID connection.call ∧ connection.id = id ∧ ∃ entry,
      state.calls connection.call = some entry ∧ entry.settled = true ∧
        entry.rejected = false ∧ connection.sessionId = entry.config.sessionId
  configOf : ∀ id, state.configOf id =
    (state.pooled id).bind fun connection => (state.calls connection.call).map CallCore.config
  held : ∀ call entry, state.calls call = some entry → entry.destroyed = some false →
    entry.settled = false ∨ (state.pooled (randomUUID call)).isSome
  own : ∀ call id, .resolved (.ok id) ∈ resultsOf state.outcomes call → id = randomUUID call

theorem sound_empty (randomUUID : Nat → JsString) :
    Sound randomUUID (TelnetServiceImpl.lifecycle {}) where
  known call entry h := by cases h
  settled call entry h := by cases h
  unknown call _ := rfl
  pooled id connection h := by cases h
  configOf id := rfl
  held call entry h := by cases h
  own call id h := by cases h

variable {randomUUID : Nat → JsString} {old new : Lifecycle}

variable {entry : CallCore}

-- What every step keeps of the calls.
theorem calls_step (h : Step randomUUID old new) {call : Nat} (hentry : old.calls call = some entry)
    (hfresh : old.calls old.count = none) :
    ∃ later, new.calls call = some later ∧ later.config = entry.config ∧
      (entry.settled = true → later.settled = true) ∧
      (entry.destroyed ≠ some false → later.destroyed ≠ some false) := by
  have hne : call ≠ old.count := by
    rintro rfl
    cases hfresh.symm.trans hentry
  have hdead : ∀ destroyed : Option Bool, (destroyed.map fun _ => true) ≠ some false := by
    intro destroyed
    cases destroyed <;> simp
  cases h with
  | idle => exact ⟨entry, hentry, rfl, id, id⟩
  | refused | opened | threw =>
    exact ⟨entry, (Function.update_of_ne hne _ _).trans hentry, rfl, id, id⟩
  | failed other found message hfound hpending =>
    by_cases hcall : call = other
    · subst hcall
      obtain rfl := Option.some.inj (hfound.symm.trans hentry)
      exact ⟨_, Function.update_self _ _ _, rfl, fun _ => rfl, fun _ => hdead _⟩
    · exact ⟨entry, (Function.update_of_ne hcall _ _).trans hentry, rfl, id, id⟩
  | connected other found hfound =>
    by_cases hcall : call = other
    · subst hcall
      obtain rfl := Option.some.inj (hfound.symm.trans hentry)
      exact ⟨_, Function.update_self _ _ _, rfl, fun _ => rfl, id⟩
    · exact ⟨entry, (Function.update_of_ne hcall _ _).trans hentry, rfl, id, id⟩
  | broken other found hfound hsettled =>
    by_cases hcall : call = other
    · subst hcall
      obtain rfl := Option.some.inj (hfound.symm.trans hentry)
      exact ⟨_, Function.update_self _ _ _, rfl, id, fun _ => hdead _⟩
    · exact ⟨entry, (Function.update_of_ne hcall _ _).trans hentry, rfl, id, id⟩
  | disconnected id' connection hpooled =>
    by_cases hcall : call = connection.call
    · subst hcall
      refine ⟨_, (Function.update_self _ _ _).trans (congrArg _ hentry), rfl, id, fun _ => hdead _⟩
    · exact ⟨entry, (Function.update_of_ne hcall _ _).trans hentry, rfl, id, id⟩

theorem Sound.fresh (hs : Sound randomUUID old) : old.calls old.count = none := by
  cases hcall : old.calls old.count with
  | none => rfl
  | some entry => exact absurd (hs.known _ _ hcall) (Nat.lt_irrefl _)

-- A call that was rejected has nothing in the pool.
theorem Sound.pooled_of_rejected (hinj : Function.Injective randomUUID) (hs : Sound randomUUID old)
    {call : Nat} (hentry : old.calls call = some entry) (hrejected : entry.rejected = true) :
    old.pooled (randomUUID call) = none := by
  cases hpooled : old.pooled (randomUUID call) with
  | none => rfl
  | some connection =>
    obtain ⟨hid, _, found, hfound, _, hstarted, _⟩ := hs.pooled _ connection hpooled
    obtain rfl := hinj hid
    obtain rfl := Option.some.inj (hfound.symm.trans hentry)
    cases hrejected.symm.trans hstarted

theorem update_some {calls : Nat → Option CallCore} {call other : Nat} {entry found : CallCore}
    (h : Function.update calls call (some entry) other = some found) :
    (other = call ∧ found = entry) ∨ (other ≠ call ∧ calls other = some found) := by
  rw [Function.update_apply] at h
  split at h
  · exact .inl ⟨‹_›, (Option.some.inj h).symm⟩
  · exact .inr ⟨‹_›, h⟩

theorem update_none {calls : Nat → Option CallCore} {call other : Nat}
    (h : Function.update calls call (some entry) other = none) :
    other ≠ call ∧ calls other = none := by
  rw [Function.update_apply] at h
  split at h
  · cases h
  · exact ⟨‹_›, h⟩

-- A call that is added.
theorem Sound.added (hs : Sound randomUUID old) (entry : CallCore)
    (results : List (Nat × Outcome))
    (hother : ∀ call, call ≠ old.count → resultsOf results call = [])
    (hlength : (resultsOf results old.count).length = if entry.settled || entry.rejected then 1 else 0)
    (hdestroyed : entry.destroyed = some false → entry.settled = false)
    (hown : ∀ id, .resolved (.ok id) ∉ resultsOf results old.count) :
    Sound randomUUID { old with
      count := old.count + 1
      calls := Function.update old.calls old.count (some entry)
      outcomes := old.outcomes ++ results } := by
  have hfresh := hs.fresh
  have hcalls : ∀ call found, old.calls call = some found →
      Function.update old.calls old.count (some entry) call = some found := by
    intro call found hfound
    rw [Function.update_of_ne]
    · exact hfound
    · rintro rfl
      cases hfresh.symm.trans hfound
  have hresults : ∀ call, call ≠ old.count →
      resultsOf (old.outcomes ++ results) call = resultsOf old.outcomes call := by
    intro call hne
    rw [resultsOf_append, hother call hne, List.append_nil]
  have hnew : resultsOf (old.outcomes ++ results) old.count = resultsOf results old.count := by
    rw [resultsOf_append, hs.unknown _ hfresh, List.nil_append]
  refine ⟨fun call found hfound => ?_, fun call found hfound => ?_, fun call hnone => ?_,
    fun id connection hpooled => ?_, fun id => ?_, fun call found hfound hopen => ?_,
    fun call id hok => ?_⟩
  · rcases update_some hfound with ⟨rfl, _⟩ | ⟨_, hold⟩
    · exact Nat.lt_succ_self _
    · exact Nat.lt_succ_of_lt (hs.known call found hold)
  · rcases update_some hfound with ⟨rfl, rfl⟩ | ⟨hne, hold⟩
    · rw [hnew]
      exact hlength
    · rw [hresults call hne]
      exact hs.settled call found hold
  · obtain ⟨hne, hold⟩ := update_none hnone
    rw [hresults call hne]
    exact hs.unknown call hold
  · obtain ⟨hid, hown', found, hfound, hrest⟩ := hs.pooled id connection hpooled
    exact ⟨hid, hown', found, hcalls _ found hfound, hrest⟩
  · refine (hs.configOf id).trans ?_
    cases hpooled : old.pooled id with
    | none => rfl
    | some connection =>
      obtain ⟨_, _, found, hfound, _⟩ := hs.pooled id connection hpooled
      show (old.calls connection.call).map _ =
        (Function.update old.calls old.count (some entry) connection.call).map _
      rw [hfound, hcalls _ found hfound]
  · rcases update_some hfound with ⟨_, rfl⟩ | ⟨_, hold⟩
    · exact .inl (hdestroyed hopen)
    · exact hs.held call found hold hopen
  · by_cases hcall : call = old.count
    · subst hcall
      dsimp only at hok
      rw [hnew] at hok
      exact absurd hok (hown id)
    · dsimp only at hok
      rw [hresults call hcall] at hok
      exact hs.own call id hok

-- A call whose entry changes, and with it what is pooled under its id.
theorem Sound.changed (hs : Sound randomUUID old) {call : Nat} {entry : CallCore}
    (later : CallCore) (hentry : old.calls call = some entry) (hconfig : later.config = entry.config)
    (hkeeps : entry.settled = true → later.settled = true)
    (hrejected : later.rejected = entry.rejected)
    {results : List (Nat × Outcome)}
    (hother : ∀ other, other ≠ call → resultsOf results other = [])
    (hlength : (resultsOf old.outcomes call ++ resultsOf results call).length =
      if later.settled || later.rejected then 1 else 0)
    (hown : ∀ id, .resolved (.ok id) ∈ resultsOf results call → id = randomUUID call)
    {pooled : ConnectionId → Option PooledCore}
    {configOf : ConnectionId → Option TelnetConnectionConfig}
    (hpooled : ∀ id, (pooled id = old.pooled id ∧ configOf id = old.configOf id) ∨
      (id = randomUUID call ∧ pooled id = none ∧ configOf id = none) ∨
      (id = randomUUID call ∧ pooled id = some ⟨id, entry.config.sessionId, call⟩ ∧
        configOf id = some entry.config ∧ later.settled = true ∧ later.rejected = false))
    (hheld : later.destroyed = some false →
      later.settled = false ∨ (pooled (randomUUID call)).isSome)
    (hapart : ∀ other, other ≠ call → (old.pooled (randomUUID other)).isSome →
      (pooled (randomUUID other)).isSome) :
    Sound randomUUID { old with
      calls := Function.update old.calls call (some later)
      pooled
      configOf
      outcomes := old.outcomes ++ results } := by
  have hresults : ∀ other, other ≠ call →
      resultsOf (old.outcomes ++ results) other = resultsOf old.outcomes other := by
    intro other hne
    rw [resultsOf_append, hother other hne, List.append_nil]
  have hcalls : ∀ other found, old.calls other = some found → ∃ next,
      Function.update old.calls call (some later) other = some next ∧
        next.config = found.config ∧ (found.settled = true → next.settled = true) ∧
          next.rejected = found.rejected := by
    intro other found hsome
    by_cases hcall : other = call
    · subst hcall
      obtain rfl := Option.some.inj (hentry.symm.trans hsome)
      exact ⟨later, Function.update_self _ _ _, hconfig, hkeeps, hrejected⟩
    · exact ⟨found, (Function.update_of_ne hcall _ _).trans hsome, rfl, id, rfl⟩
  refine ⟨fun other found hsome => ?_, fun other found hsome => ?_, fun other hnone => ?_,
    fun id connection hsome => ?_, fun id => ?_, fun other found hsome hopen => ?_,
    fun other id hok => ?_⟩
  · rcases update_some hsome with ⟨rfl, _⟩ | ⟨_, hold⟩
    · exact hs.known _ entry hentry
    · exact hs.known other found hold
  · rcases update_some hsome with ⟨rfl, rfl⟩ | ⟨hne, hold⟩
    · rw [resultsOf_append]
      exact hlength
    · rw [hresults other hne]
      exact hs.settled other found hold
  · obtain ⟨hne, hold⟩ := update_none hnone
    rw [hresults other hne]
    exact hs.unknown other hold
  · dsimp only at hsome
    rcases hpooled id with ⟨hsame, _⟩ | ⟨_, hnone, _⟩ | ⟨rfl, hnew, _, hsettled, hstarted⟩
    · obtain ⟨hid, hself, found, hold, hsettled, hstarted, hsession⟩ :=
        hs.pooled id connection (hsame.symm.trans hsome)
      obtain ⟨next, hnext, hnextConfig, hstill, hsameRejected⟩ := hcalls _ found hold
      refine ⟨hid, hself, next, hnext, hstill hsettled, hsameRejected.trans hstarted, ?_⟩
      rw [hsession, hnextConfig]
    · cases hnone.symm.trans hsome
    · obtain rfl := Option.some.inj (hnew.symm.trans hsome)
      exact ⟨rfl, rfl, later, Function.update_self _ _ _, hsettled, hstarted, by rw [hconfig]⟩
  · dsimp only
    rcases hpooled id with ⟨hsame, hsameConfig⟩ | ⟨_, hnone, hnoConfig⟩ | ⟨rfl, hnew, hnewConfig, _⟩
    · rw [hsame, hsameConfig, hs.configOf id]
      cases hold : old.pooled id with
      | none => rfl
      | some connection =>
        obtain ⟨_, _, found, hcall, _⟩ := hs.pooled id connection hold
        obtain ⟨next, hnext, hnextConfig, _⟩ := hcalls _ found hcall
        simp [hcall, hnext, hnextConfig]
    · rw [hnone, hnoConfig]
      rfl
    · rw [hnew, hnewConfig]
      simp [hconfig]
  · rcases update_some hsome with ⟨rfl, rfl⟩ | ⟨hne, hold⟩
    · exact hheld hopen
    · exact (hs.held other found hold hopen).imp_right (hapart other hne)
  · dsimp only at hok
    by_cases hcall : other = call
    · subst hcall
      rw [resultsOf_append, List.mem_append] at hok
      exact hok.elim (hs.own other id) (hown id)
    · rw [hresults other hcall] at hok
      exact hs.own other id hok

theorem Sound.step (hinj : Function.Injective randomUUID) (hs : Sound randomUUID old)
    (h : Step randomUUID old new) : Sound randomUUID new := by
  have hsame : ∀ id, (old.pooled id = old.pooled id ∧ old.configOf id = old.configOf id) :=
    fun _ => ⟨rfl, rfl⟩
  have hdead : ∀ destroyed : Option Bool, (destroyed.map fun _ => true) ≠ some false := by
    intro destroyed
    cases destroyed <;> simp
  cases h with
  | idle => exact hs
  | refused config message =>
    refine hs.added _ _ (fun call hne => ?_) ?_ nofun fun id hok => ?_
    · simp [Ne.symm hne]
    · simp
    · simp at hok
  | opened config =>
    have hadded := hs.added ⟨config, false, false, some false⟩ [] (fun _ _ => rfl) rfl
      (fun _ => rfl) (fun _ => List.not_mem_nil)
    rw [List.append_nil] at hadded
    exact hadded
  | threw config message =>
    refine hs.added _ _ (fun call hne => ?_) ?_ (fun _ => rfl) fun id hok => ?_
    · simp [Ne.symm hne]
    · simp
    · simp at hok
  | failed call entry message hentry hpending =>
    have hlength := hs.settled call entry hentry
    rw [hpending, Bool.false_or] at hlength
    refine hs.changed ⟨entry.config, true, entry.rejected, entry.destroyed.map fun _ => true⟩
      hentry rfl (fun _ => rfl) rfl (fun other hne => ?_) ?_ (fun id hok => ?_)
      (fun id => .inl (hsame id)) (fun hopen => absurd hopen (hdead _)) fun _ _ h => h
    · split
      · rfl
      · simp [Ne.symm hne]
    · rw [List.length_append, hlength]
      cases entry.rejected <;> simp [resultsOf]
    · cases hrejected : entry.rejected <;> simp [hrejected, resultsOf] at hok
  | connected call entry hentry hpending hstarted =>
    have hnone : resultsOf old.outcomes call = [] := by
      refine List.length_eq_zero_iff.mp ((hs.settled call entry hentry).trans ?_)
      rw [hpending, hstarted]
      rfl
    refine hs.changed { entry with settled := true } hentry rfl (fun _ => rfl) rfl
      (fun other hne => ?_) ?_ (fun id hok => ?_) (fun id => ?_) (fun _ => .inr ?_)
      fun other hne hsome => ?_
    · simp [Ne.symm hne]
    · simp [hnone]
    · simpa using hok
    · by_cases hid : id = randomUUID call
      · subst hid
        exact .inr (.inr ⟨rfl, Function.update_self _ _ _, Function.update_self _ _ _, rfl,
          hstarted⟩)
      · exact .inl ⟨Function.update_of_ne hid _ _, Function.update_of_ne hid _ _⟩
    · rw [Function.update_self]
      rfl
    · rw [Function.update_of_ne (fun hid => hne (hinj hid))]
      exact hsome
  | broken call entry hentry hsettled =>
    have hchanged := @Sound.changed randomUUID old hs call entry
      { entry with destroyed := entry.destroyed.map fun _ => true } hentry rfl id rfl []
      (fun _ _ => rfl)
      (by simpa [resultsOf] using hs.settled call entry hentry) nofun old.pooled old.configOf
      (fun id => .inl (hsame id)) (fun hopen => absurd hopen (hdead _)) (fun _ _ h => h)
    rw [List.append_nil] at hchanged
    exact hchanged
  | disconnected id connection hpooled =>
    obtain ⟨hid, _, entry, hentry, hsettled, _⟩ := hs.pooled id connection hpooled
    subst hid
    rw [hentry, Option.map_some]
    have hchanged := @Sound.changed randomUUID old hs connection.call entry
      { entry with destroyed := entry.destroyed.map fun _ => true } hentry rfl id rfl []
      (fun _ _ => rfl)
      (by simpa [resultsOf] using hs.settled connection.call entry hentry) nofun
      (Function.update old.pooled (randomUUID connection.call) none)
      (Function.update old.configOf (randomUUID connection.call) none)
      (fun id => ?_) (fun hopen => absurd hopen (hdead _)) (fun other hne hsome => ?_)
    · rw [List.append_nil] at hchanged
      exact hchanged
    · by_cases hid : id = randomUUID connection.call
      · subst hid
        exact .inr (.inl ⟨rfl, Function.update_self _ _ _, Function.update_self _ _ _⟩)
      · exact .inl ⟨Function.update_of_ne hid _ _, Function.update_of_ne hid _ _⟩
    · rw [Function.update_of_ne (fun hid => hne (hinj hid))]
      exact hsome

end Lifecycle

end WebSsh2.Telnet

import WebSsh2.Library.Nesting
import WebSsh2.Library.Run
import WebSsh2.Values

namespace WebSsh2.Services

open WebSsh2.Library
open WebSsh2.Library.Nesting

-- The container's functions that run a factory, each in a `try` of its own.
inductive Creator where
  | resolve
  | createFromFactory
  | createFromAsyncFactory
deriving DecidableEq

inductive Method where
  | resolve
  | resolveAsync
deriving DecidableEq

def Creator.method : Creator → Method
  | .resolve => .resolve
  | .createFromFactory => .resolveAsync
  | .createFromAsyncFactory => .resolveAsync

inductive ContainerError (ε : Type) where
  | circular (key : JsString)
  | needsAsync (key : JsString)
  | noRegistration (key : JsString)
  | factory (error : ε)

def ContainerError.message {ε : Type} (describe : ε → JsString) : ContainerError ε → JsString
  | .circular key => js "Circular dependency detected for: " ++ key
  | .needsAsync key =>
    js "Token \"" ++ key ++ js "\" requires async resolution. Use resolveAsync() instead."
  | .noRegistration key => js "No registration found for " ++ key
  | .factory error => describe error

-- What a factory ends with. An instance may be null, which is `none`.
abbrev Outcome (ι ε : Type) := Except ε (Option ι)

-- What the promise of `resolveAsync` is settled with, or what `resolve` returns or throws.
structure Answer (ι ε : Type) where
  method : Method
  key : JsString
  outcome : Except (ContainerError ε) (Option ι)

structure Registrations where
  factories : Finset JsString
  asyncFactories : Finset JsString

structure State (ι ε : Type) where
  instances : JsString → Option (Option ι)
  resolving : Finset JsString
  flight : Flight JsString Creator
  -- The asynchronous factories that have returned their promise, and what the promises
  -- of those that have ended are settled with.
  returned : List Nat
  ended : List (Nat × Outcome ι ε)
  answers : List (Answer ι ε)

inductive Event (ι ε : Type) where
  -- The code that runs, of a factory or outside of all, calls the container.
  | call (method : Method) (key : JsString)
  -- The asynchronous factory that runs waits for something.
  | suspend
  | resume (id : Nat)
  -- The factory that runs returns or throws, or so settles the promise it has returned.
  | finish (outcome : Outcome ι ε)
  -- The asynchronous factory that runs throws instead of returning a promise.
  | throwAtOnce (error : ε)
  -- The container goes on behind `await factory()`.
  | settle (id : Nat)

section Container

variable {ι ε : Type}

def State.initial (instances : JsString → Option (Option ι)) : State ι ε :=
  { instances, resolving := ∅, flight := Flight.empty, returned := [], ended := [], answers := [] }

def State.answer (state : State ι ε) (method : Method) (key : JsString)
    (outcome : Except (ContainerError ε) (Option ι)) : State ι ε :=
  { state with answers := state.answers ++ [⟨method, key, outcome⟩] }

-- `this.resolving.add(key)`, and the factory begins.
def State.enter (state : State ι ε) (creator : Creator) (key : JsString) : State ι ε :=
  { state with
    resolving := insert key state.resolving
    flight := state.flight.enter key creator }

-- `this.instances.set(key, instance)`, which `resolve` leaves out.
def State.cache (state : State ι ε) (call : Call JsString Creator) (outcome : Outcome ι ε) :
    JsString → Option (Option ι) :=
  match call.tag, outcome with
  | .resolve, _ => state.instances
  | _, .ok created => Function.update state.instances call.key (some created)
  | _, .error _ => state.instances

-- The rest of the `try`, and its `finally`.
def State.leave (state : State ι ε) (call : Call JsString Creator) (outcome : Outcome ι ε) :
    State ι ε :=
  let left := { state with
    instances := state.cache call outcome
    resolving := state.resolving.erase call.key
    flight := state.flight.close call }
  left.answer call.tag.method call.key (outcome.mapError .factory)

-- Null stands for an instance that is not there, also when it is the instance.
def getCachedInstance (state : State ι ε) (key : JsString) : Option ι :=
  (state.instances key).join

def resolve (registrations : Registrations) (state : State ι ε) (key : JsString) : State ι ε :=
  if key ∈ state.resolving then
    state.answer .resolve key (.error (.circular key))
  else match state.instances key with
    | some cached => state.answer .resolve key (.ok cached)
    | none =>
      if key ∈ registrations.factories then
        state.enter .resolve key
      else if key ∈ registrations.asyncFactories then
        state.answer .resolve key (.error (.needsAsync key))
      else
        state.answer .resolve key (.error (.noRegistration key))

def resolveAsync (registrations : Registrations) (state : State ι ε) (key : JsString) :
    State ι ε :=
  if key ∈ state.resolving then
    state.answer .resolveAsync key (.error (.circular key))
  else match getCachedInstance state key with
    | some cached => state.answer .resolveAsync key (.ok (some cached))
    | none =>
      if key ∈ registrations.asyncFactories then
        state.enter .createFromAsyncFactory key
      else if key ∈ registrations.factories then
        state.enter .createFromFactory key
      else
        state.answer .resolveAsync key (.error (.noRegistration key))

def suspend (state : State ι ε) (call : Call JsString Creator) : State ι ε :=
  if call.tag = .createFromAsyncFactory then
    { state with flight := state.flight.pause, returned := call.id :: state.returned }
  else state

def resume (state : State ι ε) (call : Call JsString Creator) : State ι ε :=
  if state.flight.running = [] ∧ call.id ∈ state.returned ∧
      state.ended.lookup call.id = none then
    { state with flight := state.flight.resume call.id }
  else state

def finish (state : State ι ε) (call : Call JsString Creator) (outcome : Outcome ι ε) :
    State ι ε :=
  let paused := { state with flight := state.flight.pause }
  match call.tag with
  | .createFromAsyncFactory => { paused with ended := (call.id, outcome) :: state.ended }
  | _ => paused.leave call outcome

def throwAtOnce (state : State ι ε) (call : Call JsString Creator) (error : ε) : State ι ε :=
  if call.tag = .createFromAsyncFactory ∧ call.id ∉ state.returned then
    { state with flight := state.flight.pause }.leave call (.error error)
  else state

def settle (state : State ι ε) (call : Call JsString Creator) : State ι ε :=
  match state.ended.lookup call.id with
  | some outcome => if state.flight.running = [] then state.leave call outcome else state
  | none => state

-- What comes about for a factory call, where there is one.
def withCall (state : State ι ε) (call : Option (Call JsString Creator))
    (next : Call JsString Creator → State ι ε) : State ι ε :=
  call.elim state next

-- An event that cannot come about in a state leaves it as it is.
def step (registrations : Registrations) (state : State ι ε) : Event ι ε → State ι ε
  | .call .resolve key => resolve registrations state key
  | .call .resolveAsync key => resolveAsync registrations state key
  | .suspend => withCall state state.flight.current (suspend state)
  | .resume id => withCall state (state.flight.find id) (resume state)
  | .finish outcome => withCall state state.flight.current (finish state · outcome)
  | .throwAtOnce error => withCall state state.flight.current (throwAtOnce state · error)
  | .settle id => withCall state (state.flight.find id) (settle state)

end Container

section Changes

variable {ι ε : Type} {registrations : Registrations} {state : State ι ε}

-- All that a step can do.
inductive Change (registrations : Registrations) (state : State ι ε) :
    Event ι ε → State ι ε → Prop where
  | none (event : Event ι ε) (hevent : ∀ method key, event ≠ .call method key) :
      Change registrations state event state
  | circular (method : Method) (key : JsString) (hkey : key ∈ state.resolving) :
      Change registrations state (.call method key)
        (state.answer method key (.error (.circular key)))
  | cached (method : Method) (key : JsString) (cached : Option ι)
      (hkey : key ∉ state.resolving) (hcached : state.instances key = some cached)
      (hnull : method = .resolveAsync → cached ≠ Option.none) :
      Change registrations state (.call method key) (state.answer method key (.ok cached))
  | refused (method : Method) (key : JsString) (error : ContainerError ε)
      (hkey : key ∉ state.resolving)
      (herror : error = .needsAsync key ∨ error = .noRegistration key) :
      Change registrations state (.call method key) (state.answer method key (.error error))
  | enter (creator : Creator) (key : JsString) (hkey : key ∉ state.resolving)
      (hregistered : key ∈ registrations.factories ∪ registrations.asyncFactories)
      (hcached : (state.instances key).join = Option.none) :
      Change registrations state (.call creator.method key) (state.enter creator key)
  | suspend (call : Call JsString Creator) :
      Change registrations state .suspend
        { state with flight := state.flight.pause, returned := call.id :: state.returned }
  | resume (call : Call JsString Creator) (hcall : call ∈ state.flight.calls)
      (hidle : state.flight.running = []) :
      Change registrations state (.resume call.id)
        { state with flight := state.flight.resume call.id }
  | ended (call : Call JsString Creator) (outcome : Outcome ι ε)
      (hcall : state.flight.current = some call) (htag : call.tag = .createFromAsyncFactory) :
      Change registrations state (.finish outcome)
        { state with flight := state.flight.pause, ended := (call.id, outcome) :: state.ended }
  | finish (call : Call JsString Creator) (outcome : Outcome ι ε)
      (hcall : state.flight.current = some call) :
      Change registrations state (.finish outcome)
        ({ state with flight := state.flight.pause }.leave call outcome)
  | throwAtOnce (call : Call JsString Creator) (error : ε)
      (hcall : state.flight.current = some call) :
      Change registrations state (.throwAtOnce error)
        ({ state with flight := state.flight.pause }.leave call (.error error))
  | settle (call : Call JsString Creator) (outcome : Outcome ι ε)
      (hcall : call ∈ state.flight.calls) (hidle : state.flight.running = [])
      (hended : (call.id, outcome) ∈ state.ended) :
      Change registrations state (.settle call.id) (state.leave call outcome)

theorem resolve_change (key : JsString) :
    Change registrations state (.call .resolve key) (resolve registrations state key) := by
  unfold resolve
  by_cases hkey : key ∈ state.resolving
  · rw [if_pos hkey]
    exact .circular .resolve key hkey
  · rw [if_neg hkey]
    cases hcached : state.instances key with
    | some cached => exact .cached .resolve key cached hkey hcached (fun h => by cases h)
    | none =>
      have hjoin : (state.instances key).join = none := by rw [hcached]; rfl
      dsimp only
      split_ifs with hfactory hasync
      · exact .enter .resolve key hkey (Finset.mem_union_left _ hfactory) hjoin
      · exact .refused .resolve key _ hkey (.inl rfl)
      · exact .refused .resolve key _ hkey (.inr rfl)

theorem resolveAsync_change (key : JsString) :
    Change registrations state (.call .resolveAsync key)
      (resolveAsync registrations state key) := by
  unfold resolveAsync
  by_cases hkey : key ∈ state.resolving
  · rw [if_pos hkey]
    exact .circular .resolveAsync key hkey
  · rw [if_neg hkey]
    cases hjoin : getCachedInstance state key with
    | some cached =>
      exact .cached .resolveAsync key (some cached) hkey (Option.join_eq_some_iff.mp hjoin)
        (fun _ h => by cases h)
    | none =>
      dsimp only
      split_ifs with hasync hfactory
      · exact .enter .createFromAsyncFactory key hkey (Finset.mem_union_right _ hasync) hjoin
      · exact .enter .createFromFactory key hkey (Finset.mem_union_left _ hfactory) hjoin
      · exact .refused .resolveAsync key _ hkey (.inr rfl)

theorem suspend_change (call : Call JsString Creator) :
    Change registrations state .suspend (suspend state call) := by
  unfold suspend
  split_ifs
  · exact .suspend call
  · exact .none _ nofun

variable {call : Call JsString Creator}

theorem resume_change (hcall : call ∈ state.flight.calls) :
    Change registrations state (.resume call.id) (resume state call) := by
  unfold resume
  split_ifs with hmay
  · exact .resume call hcall hmay.1
  · exact .none _ nofun

theorem finish_change (outcome : Outcome ι ε) (hcall : state.flight.current = some call) :
    Change registrations state (.finish outcome) (finish state call outcome) := by
  unfold finish
  dsimp only
  split
  · next htag => exact .ended call outcome hcall htag
  · exact .finish call outcome hcall

theorem throwAtOnce_change (error : ε) (hcall : state.flight.current = some call) :
    Change registrations state (.throwAtOnce error) (throwAtOnce state call error) := by
  unfold throwAtOnce
  split_ifs
  · exact .throwAtOnce call error hcall
  · exact .none _ nofun

theorem settle_change (hcall : call ∈ state.flight.calls) :
    Change registrations state (.settle call.id) (settle state call) := by
  unfold settle
  cases hended : state.ended.lookup call.id with
  | none => exact .none _ nofun
  | some outcome =>
    obtain ⟨_, _, hlist, _⟩ := List.lookup_eq_some_iff.mp hended
    dsimp only
    split_ifs with hidle
    · refine .settle call outcome hcall hidle ?_
      rw [hlist]
      exact List.mem_append_right _ List.mem_cons_self
    · exact .none _ nofun

theorem withCall_change {event : Event ι ε} {call : Option (Call JsString Creator)}
    {next : Call JsString Creator → State ι ε}
    (hevent : ∀ method key, event ≠ .call method key)
    (h : ∀ found, call = some found → Change registrations state event (next found)) :
    Change registrations state event (withCall state call next) := by
  cases call with
  | none => exact .none _ hevent
  | some found => exact h found rfl

theorem step_change (event : Event ι ε) :
    Change registrations state event (step registrations state event) := by
  cases event with
  | call method key =>
    cases method with
    | resolve => exact resolve_change key
    | resolveAsync => exact resolveAsync_change key
  | suspend => exact withCall_change nofun fun call _ => suspend_change call
  | resume id =>
    refine withCall_change nofun fun call hfind => ?_
    obtain ⟨hcall, rfl⟩ := Flight.mem_of_find hfind
    exact resume_change hcall
  | finish outcome => exact withCall_change nofun fun _ hcall => finish_change outcome hcall
  | throwAtOnce error => exact withCall_change nofun fun _ hcall => throwAtOnce_change error hcall
  | settle id =>
    refine withCall_change nofun fun call hfind => ?_
    obtain ⟨hcall, rfl⟩ := Flight.mem_of_find hfind
    exact settle_change hcall

end Changes

section Invariants

variable {ι ε : Type} {registrations : Registrations} {state : State ι ε}

-- The keys that are being resolved are those of the factories in flight, one for each.
structure Coherent (registrations : Registrations) (state : State ι ε) : Prop where
  sound : state.flight.Sound
  resolving_iff : ∀ key, key ∈ state.resolving ↔ key ∈ state.flight.calls.map Call.key
  registered : ∀ call ∈ state.flight.calls,
    call.key ∈ registrations.factories ∪ registrations.asyncFactories
  uncached : ∀ call ∈ state.flight.calls, (state.instances call.key).join = none

theorem coherent_initial (instances : JsString → Option (Option ι)) :
    Coherent registrations (State.initial instances : State ι ε) where
  sound := Flight.sound_empty
  resolving_iff := fun _ => iff_of_false (Finset.notMem_empty _) List.not_mem_nil
  registered := fun _ h => absurd h List.not_mem_nil
  uncached := fun _ h => absurd h List.not_mem_nil

theorem coherent_enter (h : Coherent registrations state) {creator : Creator} {key : JsString}
    (hkey : key ∉ state.resolving)
    (hregistered : key ∈ registrations.factories ∪ registrations.asyncFactories)
    (hcached : (state.instances key).join = none) :
    Coherent registrations (state.enter creator key) where
  sound := h.sound.enter creator (mt (h.resolving_iff key).mpr hkey)
  resolving_iff := by
    intro other
    rw [State.enter, Finset.mem_insert, h.resolving_iff]
    exact List.mem_cons.symm
  registered := List.forall_mem_cons.mpr ⟨hregistered, h.registered⟩
  uncached := List.forall_mem_cons.mpr ⟨hcached, h.uncached⟩

theorem coherent_flight (h : Coherent registrations state) {flight : Flight JsString Creator}
    (hsound : flight.Sound) (hcalls : flight.calls = state.flight.calls) :
    Coherent registrations { state with flight } where
  sound := hsound
  resolving_iff := by
    intro key
    rw [h.resolving_iff, hcalls]
  registered := by
    rw [hcalls]
    exact h.registered
  uncached := by
    rw [hcalls]
    exact h.uncached

variable {call : Call JsString Creator}

theorem cache_of_resolve (htag : call.tag = .resolve) (outcome : Outcome ι ε) :
    state.cache call outcome = state.instances := by
  unfold State.cache
  rw [htag]

theorem cache_error (call : Call JsString Creator) (error : ε) :
    state.cache call (.error error) = state.instances := by
  unfold State.cache
  cases call.tag <;> rfl

theorem cache_ok (htag : call.tag ≠ .resolve) (created : Option ι) :
    state.cache call (.ok created) =
      Function.update state.instances call.key (some created) := by
  unfold State.cache
  cases hcase : call.tag with
  | resolve => exact absurd hcase htag
  | createFromFactory => rfl
  | createFromAsyncFactory => rfl

theorem cache_of_ne {key : JsString} (hkey : key ≠ call.key) (outcome : Outcome ι ε) :
    state.cache call outcome key = state.instances key := by
  by_cases htag : call.tag = .resolve
  · rw [cache_of_resolve htag]
  · cases outcome with
    | ok created => rw [cache_ok htag, Function.update_of_ne hkey]
    | error error => rw [cache_error]

theorem coherent_leave (h : Coherent registrations state) (hcall : call ∈ state.flight.calls)
    (hsound : (state.flight.close call).Sound) (outcome : Outcome ι ε) :
    Coherent registrations (state.leave call outcome) where
  sound := hsound
  resolving_iff := by
    intro key
    refine Finset.mem_erase.trans ?_
    rw [h.resolving_iff]
    exact (h.sound.key_of_close hcall key).symm
  registered := fun other hother => h.registered other (List.mem_of_mem_erase hother)
  uncached := by
    intro other hother
    have hkey : other.key ≠ call.key :=
      ((h.sound.key_of_close hcall other.key).mp (List.mem_map_of_mem hother)).1
    have hcache : state.cache call outcome other.key = state.instances other.key :=
      cache_of_ne hkey outcome
    exact (congrArg Option.join hcache).trans (h.uncached other (List.mem_of_mem_erase hother))

theorem coherent_change {event : Event ι ε} {after : State ι ε}
    (hchange : Change registrations state event after) (h : Coherent registrations state) :
    Coherent registrations after := by
  have hpaused : Coherent registrations { state with flight := state.flight.pause } :=
    coherent_flight h h.sound.pause rfl
  cases hchange with
  | none => exact h
  | circular | cached | refused => exact ⟨h.sound, h.resolving_iff, h.registered, h.uncached⟩
  | enter creator key hkey hregistered hcached => exact coherent_enter h hkey hregistered hcached
  | suspend | ended => exact ⟨hpaused.sound, h.resolving_iff, h.registered, h.uncached⟩
  | resume call hcall hidle => exact coherent_flight h (h.sound.resume hidle hcall) rfl
  | finish call outcome hcall =>
    have hmem := (Flight.mem_of_current hcall).1
    exact coherent_leave hpaused hmem (h.sound.finish hcall) outcome
  | throwAtOnce call error hcall =>
    have hmem := (Flight.mem_of_current hcall).1
    exact coherent_leave hpaused hmem (h.sound.finish hcall) _
  | settle call outcome hcall hidle =>
    refine coherent_leave h hcall (h.sound.close ?_) outcome
    rw [hidle]
    exact List.not_mem_nil

theorem coherent_run (instances : JsString → Option (Option ι)) (events : List (Event ι ε)) :
    Coherent registrations (Run.run (step registrations) (State.initial instances) events) :=
  Run.invariant_of_step (coherent_initial instances)
    (fun _ event h => coherent_change (step_change event) h) events

end Invariants

section Circular

variable {ι ε : Type} {registrations : Registrations} {state : State ι ε}
  {Depends : JsString → JsString → Prop}

-- A factory calls the container for keys that its own key depends on.
def FollowsDepends (Depends : JsString → JsString → Prop) (state : State ι ε) :
    Event ι ε → Prop
  | .call _ key => ∀ call ∈ state.flight.calls,
      state.flight.running.head? = some call.id → Depends call.key key
  | _ => True

-- No factory for the key is in flight but those from which the call comes.
def Apart (state : State ι ε) : Event ι ε → Prop
  | .call _ key => ∀ call ∈ state.flight.calls, call.key = key →
      ∃ runner ∈ state.flight.calls, state.flight.running.head? = some runner.id ∧
        state.flight.Below runner call
  | _ => True

def NoCircularError (state : State ι ε) : Prop :=
  ∀ answer ∈ state.answers, ∀ key, answer.outcome ≠ .error (.circular key)

theorem follows_change {event : Event ι ε} {after : State ι ε}
    (hchange : Change registrations state event after) (h : Coherent registrations state)
    (hevent : FollowsDepends Depends state event) (hfollows : state.flight.Follows Depends) :
    after.flight.Follows Depends := by
  have hclose : ∀ call, (state.flight.close call).Follows Depends := fun call =>
    Flight.follows_of_subset (fun _ hother => List.mem_of_mem_erase hother) hfollows
  cases hchange with
  | none => exact hfollows
  | circular => exact hfollows
  | cached => exact hfollows
  | refused => exact hfollows
  | enter creator key => exact Flight.follows_enter h.sound hfollows creator hevent
  | suspend | resume | ended => exact Flight.follows_of_subset (List.Subset.refl _) hfollows
  | finish call | throwAtOnce call =>
    exact Flight.follows_of_subset (List.Subset.refl _) (hclose call)
  | settle call => exact hclose call

theorem noCircularError_answer {method : Method} {key : JsString}
    {outcome : Except (ContainerError ε) (Option ι)} :
    NoCircularError (state.answer method key outcome) ↔
      NoCircularError state ∧ ∀ other, outcome ≠ .error (.circular other) := by
  unfold NoCircularError
  simp only [State.answer, List.mem_append, List.mem_singleton]
  constructor
  · intro h
    exact ⟨fun answer hin => h answer (.inl hin), h _ (.inr rfl)⟩
  · rintro ⟨hold, hnew⟩ answer (hin | rfl)
    · exact hold answer hin
    · exact hnew

theorem noCircularError_leave {call : Call JsString Creator} {outcome : Outcome ι ε} :
    NoCircularError (state.leave call outcome) ↔ NoCircularError state := by
  unfold State.leave
  dsimp only
  rw [noCircularError_answer]
  refine and_iff_left ?_
  intro other
  cases outcome with
  | ok | error => exact fun h => by cases h

-- A key that is being resolved is that of a factory in flight; where it is none from
-- which the call comes, it is another caller's.
theorem apart_iff (hacyclic : ∀ key, ¬Relation.TransGen Depends key key)
    (h : Coherent registrations state) (hfollows : state.flight.Follows Depends)
    {method : Method} {key : JsString}
    (hevent : FollowsDepends Depends state (.call method key : Event ι ε)) :
    Apart state (.call method key) ↔ key ∉ state.resolving := by
  rw [h.resolving_iff]
  constructor
  · intro hapart hmem
    obtain ⟨call, hcall, rfl⟩ := List.mem_map.mp hmem
    obtain ⟨runner, hrunner, hrunning, hbelow⟩ := hapart call hcall rfl
    exact Flight.key_ne_of_below hacyclic hfollows hrunner hbelow
      (hevent runner hrunner hrunning) rfl
  · intro hnone call hcall hkey
    exact absurd (List.mem_map.mpr ⟨call, hcall, hkey⟩) hnone

theorem noCircularError_change (hacyclic : ∀ key, ¬Relation.TransGen Depends key key)
    {event : Event ι ε} {after : State ι ε} (hchange : Change registrations state event after)
    (h : Coherent registrations state) (hfollows : state.flight.Follows Depends)
    (hevent : FollowsDepends Depends state event) :
    NoCircularError after ↔ NoCircularError state ∧ Apart state event := by
  cases hchange with
  | none event hevent =>
    refine (and_iff_left ?_).symm
    cases event with
    | call method key => exact absurd rfl (hevent method key)
    | _ => trivial
  | circular method key hkey =>
    rw [noCircularError_answer, apart_iff hacyclic h hfollows hevent]
    exact ⟨fun hboth => absurd rfl (hboth.2 key), fun hboth => absurd hkey hboth.2⟩
  | cached method key cached hkey =>
    rw [noCircularError_answer, apart_iff hacyclic h hfollows hevent]
    exact and_congr_right fun _ => iff_of_true (fun _ hcircular => by cases hcircular) hkey
  | refused method key error hkey herror =>
    rw [noCircularError_answer, apart_iff hacyclic h hfollows hevent]
    refine and_congr_right fun _ => iff_of_true (fun other hcircular => ?_) hkey
    rcases herror with rfl | rfl <;> cases hcircular
  | enter creator key hkey =>
    exact (and_iff_left ((apart_iff hacyclic h hfollows hevent).mpr hkey)).symm
  | suspend | resume | ended => exact (and_iff_left trivial).symm
  | finish | throwAtOnce | settle => exact noCircularError_leave.trans (and_iff_left trivial).symm

end Circular

section Instances

variable {ι ε : Type} {registrations : Registrations} {state : State ι ε}

-- A factory whose instance is cached does not make null.
def GivesInstance (state : State ι ε) : Event ι ε → Prop
  | .finish outcome => ∀ call, state.flight.current = some call → call.tag ≠ .resolve →
      outcome ≠ .ok none
  | _ => True

def SameInstance (state : State ι ε) : Prop :=
  ∀ first ∈ state.answers, ∀ second ∈ state.answers, first.method = .resolveAsync →
    second.method = .resolveAsync → first.key = second.key →
      ∀ instance₁ instance₂, first.outcome = .ok instance₁ → second.outcome = .ok instance₂ →
        instance₁ = instance₂

-- What `resolveAsync` has given for a key is what is cached for it.
structure Cached (state : State ι ε) : Prop where
  answered : ∀ answer ∈ state.answers, answer.method = .resolveAsync →
    ∀ created, answer.outcome = .ok created →
      created ≠ none ∧ state.instances answer.key = some created
  ended : ∀ pair ∈ state.ended, pair.2 ≠ .ok none

theorem cached_initial (instances : JsString → Option (Option ι)) :
    Cached (State.initial instances : State ι ε) where
  answered := fun _ h => absurd h List.not_mem_nil
  ended := fun _ h => absurd h List.not_mem_nil

theorem sameInstance_of_cached (h : Cached state) : SameInstance state := by
  intro first hfirst second hsecond hmethod hmethod' hkey created other hcreated hother
  have hone := (h.answered first hfirst hmethod created hcreated).2
  have htwo := (h.answered second hsecond hmethod' other hother).2
  rw [hkey, htwo] at hone
  exact (Option.some.inj hone).symm

theorem cached_answer (h : Cached state) {method : Method} {key : JsString}
    {outcome : Except (ContainerError ε) (Option ι)}
    (hnew : method = .resolveAsync → ∀ created, outcome = .ok created →
      created ≠ none ∧ state.instances key = some created) :
    Cached (state.answer method key outcome) where
  answered := by
    intro answer hin
    rcases List.mem_append.mp hin with hold | hlast
    · exact h.answered answer hold
    · obtain rfl := List.mem_singleton.mp hlast
      exact hnew
  ended := h.ended

-- What is cached now is not in the way of an answer given before: there was none.
theorem cached_leave (h : Cached state) {call : Call JsString Creator} {outcome : Outcome ι ε}
    (huncached : (state.instances call.key).join = none)
    (hnull : call.tag ≠ .resolve → outcome ≠ .ok none) : Cached (state.leave call outcome) := by
  apply cached_answer
  · refine ⟨fun answer hin hmethod created hcreated => ?_, h.ended⟩
    obtain ⟨hne, hinstance⟩ := h.answered answer hin hmethod created hcreated
    have hkey : answer.key ≠ call.key := by
      intro hkey
      rw [hkey] at hinstance
      rw [hinstance] at huncached
      exact hne huncached
    exact ⟨hne, (cache_of_ne hkey outcome).trans hinstance⟩
  · intro hmethod created hcreated
    have htag : call.tag ≠ .resolve := by
      intro htag
      rw [htag] at hmethod
      cases hmethod
    cases outcome with
    | error error => cases hcreated
    | ok instance₁ =>
      cases hcreated
      refine ⟨fun hnone => hnull htag (by rw [hnone]), ?_⟩
      exact (congrFun (cache_ok htag created) call.key).trans (Function.update_self _ _ _)

theorem cached_change {event : Event ι ε} {after : State ι ε}
    (hchange : Change registrations state event after) (h : Coherent registrations state)
    (hevent : GivesInstance state event) (hcached : Cached state) : Cached after := by
  have hpaused : Cached { state with flight := state.flight.pause } :=
    ⟨hcached.answered, hcached.ended⟩
  cases hchange with
  | none => exact hcached
  | circular | refused => exact cached_answer hcached (fun _ _ hok => by cases hok)
  | cached method key created _ hinstance hnull =>
    refine cached_answer hcached fun hmethod other hother => ?_
    cases hother
    exact ⟨hnull hmethod, hinstance⟩
  | enter | suspend | resume => exact ⟨hcached.answered, hcached.ended⟩
  | ended call outcome hcall htag =>
    refine ⟨hcached.answered, List.forall_mem_cons.mpr ⟨hevent call hcall ?_, hcached.ended⟩⟩
    rw [htag]
    exact nofun
  | finish call outcome hcall =>
    have hmem := (Flight.mem_of_current hcall).1
    exact cached_leave hpaused (h.uncached call hmem) (hevent call hcall)
  | throwAtOnce call error hcall =>
    have hmem := (Flight.mem_of_current hcall).1
    exact cached_leave hpaused (h.uncached call hmem) (fun _ hnull => by cases hnull)
  | settle call outcome hcall _ hended =>
    exact cached_leave hcached (h.uncached call hcall) (fun _ => hcached.ended _ hended)

end Instances

section Reports

variable {ι ε : Type} {registrations : Registrations} {state : State ι ε}

-- A call for the key of a factory that waits for the calling one is answered with the
-- error, and calls do not nest deeper than there are keys.
def CyclesReported (registrations : Registrations) (state : State ι ε) : Prop :=
  (∀ runner, state.flight.current = some runner → ∀ above, state.flight.Below runner above →
    ∀ method, step registrations state (.call method above.key) =
      state.answer method above.key (.error (.circular above.key))) ∧
  state.flight.running.length ≤ state.flight.calls.length ∧
  state.flight.calls.length ≤ (registrations.factories ∪ registrations.asyncFactories).card

-- The factory of the key begins when the key is resolved.
def Resolvable (registrations : Registrations) (state : State ι ε) (key : JsString) : Prop :=
  ∃ creator, step registrations state (.call .resolveAsync key) = state.enter creator key

-- A key is resolvable at once after its factory has failed.
def Recovers (registrations : Registrations) (state : State ι ε) : Prop :=
  ∀ event method key error,
    (step registrations state event).answers =
        state.answers ++ [⟨method, key, .error (.factory error)⟩] →
      Resolvable registrations (step registrations state event) key

theorem circular_of_resolving {key : JsString} (hkey : key ∈ state.resolving) (method : Method) :
    step registrations state (.call method key) =
      state.answer method key (.error (.circular key)) := by
  cases method with
  | resolve => exact if_pos hkey
  | resolveAsync => exact if_pos hkey

theorem cyclesReported_of_coherent (h : Coherent registrations state) :
    CyclesReported registrations state := by
  refine ⟨?_, h.sound.length_le h.registered⟩
  intro runner hrunner above hbelow method
  have habove := Flight.mem_of_below (Flight.mem_of_current hrunner).1 hbelow
  exact circular_of_resolving ((h.resolving_iff _).mpr (List.mem_map_of_mem habove)) method

theorem resolvable_of_uncached {key : JsString} (hkey : key ∉ state.resolving)
    (hregistered : key ∈ registrations.factories ∪ registrations.asyncFactories)
    (huncached : (state.instances key).join = none) : Resolvable registrations state key := by
  have hcached : getCachedInstance state key = none := huncached
  unfold Resolvable step resolveAsync
  dsimp only
  rw [if_neg hkey, hcached]
  dsimp only
  by_cases hasync : key ∈ registrations.asyncFactories
  · rw [if_pos hasync]
    exact ⟨_, rfl⟩
  · have hfactory := (Finset.mem_union.mp hregistered).resolve_right hasync
    rw [if_neg hasync, if_pos hfactory]
    exact ⟨_, rfl⟩

theorem resolvable_leave (h : Coherent registrations state) {call : Call JsString Creator}
    (hcall : call ∈ state.flight.calls) (error : ε) :
    Resolvable registrations (state.leave call (.error error)) call.key := by
  refine resolvable_of_uncached (Finset.notMem_erase _ _) (h.registered call hcall) ?_
  have hcache : state.cache call (.error error) call.key = state.instances call.key :=
    congrFun (cache_error call error) call.key
  exact (congrArg Option.join hcache).trans (h.uncached call hcall)

theorem recovers_of_coherent (h : Coherent registrations state) :
    Recovers registrations state := by
  intro event method key error hanswers
  have hchange : Change registrations state event (step registrations state event) :=
    step_change event
  have hpaused : Coherent registrations { state with flight := state.flight.pause } :=
    coherent_flight h h.sound.pause rfl
  have hgrows : ∀ answer : Answer ι ε, state.answers ≠ state.answers ++ [answer] :=
    fun answer heq => by simp at heq
  have hleft : ∀ {before : State ι ε} {call : Call JsString Creator} {outcome : Outcome ι ε},
      Coherent registrations before → call ∈ before.flight.calls →
        (before.leave call outcome).answers =
            before.answers ++ [⟨method, key, .error (.factory error)⟩] →
          Resolvable registrations (before.leave call outcome) key := by
    intro before call outcome hbefore hcall heq
    cases outcome with
    | ok created => cases List.append_cancel_left heq
    | error thrown =>
      cases List.append_cancel_left heq
      exact resolvable_leave hbefore hcall _
  revert hanswers hchange
  generalize step registrations state event = after
  intro hanswers hchange
  cases hchange with
  | none | enter | suspend | resume | ended => exact absurd hanswers (hgrows _)
  | circular | cached => cases List.append_cancel_left hanswers
  | refused method key error' hkey herror =>
    rcases herror with rfl | rfl <;> cases List.append_cancel_left hanswers
  | finish call outcome hcall | throwAtOnce call thrown hcall =>
    exact hleft hpaused (Flight.mem_of_current hcall).1 hanswers
  | settle call outcome hcall => exact hleft h hcall hanswers

end Reports

section Runs

variable {ι ε : Type} {registrations : Registrations} {Depends : JsString → JsString → Prop}

-- Over a run the answers have no circular dependency exactly if every call is apart.
theorem noCircularError_run_iff (hacyclic : ∀ key, ¬Relation.TransGen Depends key key)
    {state : State ι ε} (h : Coherent registrations state)
    (hfollows : state.flight.Follows Depends) (events : List (Event ι ε))
    (halong : Run.Along (step registrations) (FollowsDepends Depends) state events) :
    NoCircularError (Run.run (step registrations) state events) ↔
      NoCircularError state ∧ Run.Along (step registrations) Apart state events := by
  induction events generalizing state with
  | nil => exact (and_iff_left trivial).symm
  | cons event rest ih =>
    have hchange : Change registrations state event (step registrations state event) :=
      step_change event
    rw [Run.run_cons, ih (coherent_change hchange h)
      (follows_change hchange h halong.1 hfollows) halong.2,
      noCircularError_change hacyclic hchange h hfollows halong.1, and_assoc]
    exact Iff.rfl

theorem cached_run {state : State ι ε} (h : Coherent registrations state) (hcached : Cached state)
    (events : List (Event ι ε))
    (halong : Run.Along (step registrations) GivesInstance state events) :
    Cached (Run.run (step registrations) state events) := by
  induction events generalizing state with
  | nil => exact hcached
  | cons event rest ih =>
    have hchange : Change registrations state event (step registrations state event) :=
      step_change event
    exact ih (coherent_change hchange h) (cached_change hchange h halong.1 hcached) halong.2

theorem follows_initial (instances : JsString → Option (Option ι)) :
    (State.initial instances : State ι ε).flight.Follows Depends :=
  fun _ h => absurd h List.not_mem_nil

theorem container_iff (registrations : Registrations)
    (instances : JsString → Option (Option ι)) (events : List (Event ι ε)) :
    (∀ Depends : JsString → JsString → Prop, (∀ key, ¬Relation.TransGen Depends key key) →
      Run.Along (step registrations) (FollowsDepends Depends) (State.initial instances) events →
        (NoCircularError (Run.run (step registrations) (State.initial instances) events) ↔
          Run.Along (step registrations) Apart (State.initial instances) events)) ∧
    (Run.Along (step registrations) GivesInstance (State.initial instances) events →
      SameInstance (Run.run (step registrations) (State.initial instances) events)) ∧
    CyclesReported registrations
      (Run.run (step registrations) (State.initial instances) events) ∧
    Recovers registrations (Run.run (step registrations) (State.initial instances) events) := by
  have hcoherent : Coherent registrations
      (Run.run (step registrations) (State.initial instances) events) :=
    coherent_run instances events
  refine ⟨?_, ?_, cyclesReported_of_coherent hcoherent, recovers_of_coherent hcoherent⟩
  · intro Depends hacyclic halong
    rw [noCircularError_run_iff hacyclic (coherent_initial instances)
      (follows_initial instances) events halong]
    exact and_iff_right fun _ h => absurd h List.not_mem_nil
  · intro hgives
    exact sameInstance_of_cached
      (cached_run (coherent_initial instances) (cached_initial instances) events hgives)

def twoCallers : List (Event Nat Nat) :=
  [.call .resolveAsync (js "a"), .suspend, .call .resolveAsync (js "a")]

-- The second caller comes while the factory waits for something.
theorem container_two_callers :
    (∀ key, ¬Relation.TransGen (fun _ _ : JsString => False) key key) ∧
      Run.Along (step ⟨∅, {js "a"}⟩) (FollowsDepends fun _ _ => False)
        (State.initial fun _ => none) twoCallers ∧
      ¬NoCircularError (Run.run (step ⟨∅, {js "a"}⟩) (State.initial fun _ => none) twoCallers) := by
  refine ⟨fun key h => ?_, ⟨?_, trivial, ?_, trivial⟩, fun h => ?_⟩
  · cases h with
    | single hlast => exact hlast
    | tail _ hlast => exact hlast
  · intro call hcall
    exact absurd hcall List.not_mem_nil
  · intro call _ hrunning
    cases hrunning
  · exact h ⟨.resolveAsync, js "a", .error (.circular (js "a"))⟩ List.mem_cons_self (js "a") rfl

end Runs

end WebSsh2.Services

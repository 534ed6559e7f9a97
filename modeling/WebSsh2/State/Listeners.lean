import WebSsh2.Library.LiveSet
import WebSsh2.Library.Run
import WebSsh2.State.Store

namespace WebSsh2.State.Listening

open WebSsh2.Library WebSsh2.Library.Run

-- A function that was subscribed, told apart from others as an object is.
abbrev Listener := Nat

-- The sets of the sessions. A session whose set has become empty has none, and gets a new
-- one; a loop that is under way goes on in the old one.
structure Listeners where
  sets : List (LiveSet Listener)
  bySession : OrderedMap SessionId Nat
  allocated : ∀ sessionId address, bySession.get sessionId = some address → address < sets.length
  own : ∀ first second address, bySession.get first = some address →
    bySession.get second = some address → first = second

namespace Listeners

def empty : Listeners where
  sets := []
  bySession := .empty
  allocated := fun _ _ h => by cases h
  own := fun _ _ _ h => by cases h

def setAt (listeners : Listeners) (address : Nat) : LiveSet Listener :=
  listeners.sets.getD address .empty

-- The set of a session that has none is a new one.
def allocate (listeners : Listeners) (sessionId : SessionId) : Listeners :=
  if h : (listeners.bySession.get sessionId).isSome then listeners
  else
    { sets := listeners.sets ++ [.empty]
      bySession := listeners.bySession.set sessionId listeners.sets.length
      allocated := by
        intro other address hget
        rw [OrderedMap.get_set] at hget
        rw [List.length_append]
        split at hget
        · cases hget
          exact Nat.lt_succ_self _
        · exact Nat.lt_succ_of_lt (listeners.allocated other address hget)
      own := by
        intro first second address hfirst hsecond
        rw [OrderedMap.get_set] at hfirst hsecond
        split at hfirst <;> split at hsecond
        · rename_i heq hother
          exact heq.symm.trans hother
        · cases hfirst
          exact absurd (listeners.allocated second _ hsecond) (Nat.lt_irrefl _)
        · cases hsecond
          exact absurd (listeners.allocated first _ hfirst) (Nat.lt_irrefl _)
        · exact listeners.own first second address hfirst hsecond }

def put (listeners : Listeners) (address : Nat) (set : LiveSet Listener) : Listeners where
  sets := listeners.sets.set address set
  bySession := listeners.bySession
  allocated := by
    rw [List.length_set]
    exact listeners.allocated
  own := listeners.own

def drop (listeners : Listeners) (sessionId : SessionId) : Listeners where
  sets := listeners.sets
  bySession := listeners.bySession.delete sessionId
  allocated := fun other address h =>
    listeners.allocated other address (OrderedMap.get_of_get_delete h)
  own := fun first second address hfirst hsecond => listeners.own first second address
    (OrderedMap.get_of_get_delete hfirst) (OrderedMap.get_of_get_delete hsecond)

def subscribe (listeners : Listeners) (sessionId : SessionId) (listener : Listener) : Listeners :=
  let allocated := listeners.allocate sessionId
  match allocated.bySession.get sessionId with
  | none => allocated
  | some address => allocated.put address ((allocated.setAt address).add listener)

-- The function that `subscribe` returned.
def unsubscribe (listeners : Listeners) (sessionId : SessionId) (listener : Listener) :
    Listeners :=
  match listeners.bySession.get sessionId with
  | none => listeners
  | some address =>
    let set := (listeners.setAt address).delete listener
    let changed := listeners.put address set
    if set.size = 0 then changed.drop sessionId else changed

def isSubscribed (listeners : Listeners) (sessionId : SessionId) (listener : Listener) : Bool :=
  (listeners.bySession.get sessionId).any fun address => (listeners.setAt address).has listener

end Listeners

-- A loop of `notifyListeners` that is under way, at the listener before `position`.
structure Round where
  sessionId : SessionId
  address : Nat
  position : Nat
  change : Nat
  newState : SessionState
  oldState : SessionState

-- The states of a session are numbered as they become current.
inductive Notice where
  | changed (sessionId : SessionId) (change : Nat) (newState : SessionState)
  | notified (listener : Listener) (sessionId : SessionId) (change : Nat)
      (newState oldState : SessionState)

-- The store with the calls it is in, innermost first.
structure ListeningStore where
  store : SessionStore
  listeners : Listeners
  rounds : List Round := []
  changes : Nat := 0
  log : List Notice := []

-- What the code outside and the listeners do, one after the other. A listener that throws
-- returns as well.
inductive StoreCall where
  | dispatch (sessionId : SessionId) (action : SessionAction) (now : Time)
  | subscribe (sessionId : SessionId) (listener : Listener)
  | unsubscribe (sessionId : SessionId) (listener : Listener)
  | returned

namespace ListeningStore

def getState (state : ListeningStore) (sessionId : SessionId) : Option SessionState :=
  state.store.getState sessionId

-- The innermost loop calls the next listener, or ends where there is none.
def notifyNext (state : ListeningStore) : ListeningStore :=
  match state.rounds with
  | [] => state
  | round :: outer =>
    match (state.listeners.setAt round.address).next round.position with
    | none => { state with rounds := outer }
    | some (listener, position) => { state with
        rounds := { round with position } :: outer
        log := state.log ++ [.notified listener round.sessionId round.change round.newState
          round.oldState] }

def notifyListeners (state : ListeningStore) (sessionId : SessionId) (change : Nat)
    (newState oldState : SessionState) : ListeningStore :=
  match state.listeners.bySession.get sessionId with
  | none => state
  | some address =>
    if (state.listeners.setAt address).size = 0 then
      state
    else
      notifyNext { state with
        rounds := { sessionId, address, position := 0, change, newState, oldState } ::
          state.rounds }

-- The store has the new state and the action in its history.
def becomeCurrent (state : ListeningStore) (sessionId : SessionId) (action : SessionAction)
    (now : Time) (newState : SessionState) : ListeningStore :=
  { state with
    store := state.store.dispatch sessionId action now
    changes := state.changes + 1
    log := state.log ++ [.changed sessionId state.changes newState] }

def dispatch (state : ListeningStore) (sessionId : SessionId) (action : SessionAction)
    (now : Time) : ListeningStore :=
  match state.store.states.get sessionId with
  | none => state
  | some currentState =>
    match sessionReducer currentState now action with
    | none => state
    | some newState =>
      notifyListeners (becomeCurrent state sessionId action now newState) sessionId
        state.changes newState currentState

def step (state : ListeningStore) : StoreCall → ListeningStore
  | .dispatch sessionId action now => state.dispatch sessionId action now
  | .subscribe sessionId listener =>
    { state with listeners := state.listeners.subscribe sessionId listener }
  | .unsubscribe sessionId listener =>
    { state with listeners := state.listeners.unsubscribe sessionId listener }
  | .returned => notifyNext state

-- No call is under way.
def atRest (store : SessionStore) (listeners : Listeners) : ListeningStore where
  store
  listeners

end ListeningStore

def Notice.change (sessionId : SessionId) : Notice → Option (Nat × SessionState)
  | .changed other change newState => if other = sessionId then some (change, newState) else none
  | .notified .. => none

def Notice.delivery (sessionId : SessionId) (listener : Listener) :
    Notice → Option (Nat × SessionState)
  | .changed .. => none
  | .notified called other change newState _ =>
    if other = sessionId ∧ called = listener then some (change, newState) else none

-- The states that became current, and those that the listener was given.
def changesOf (sessionId : SessionId) (log : List Notice) : List (Nat × SessionState) :=
  log.filterMap (Notice.change sessionId)

def deliveredTo (sessionId : SessionId) (listener : Listener) (log : List Notice) :
    List (Nat × SessionState) :=
  log.filterMap (Notice.delivery sessionId listener)

-- The last state the listener was given is the current one, and it was given all of them
-- in the order in which they became current.
structure Informed (sessionId : SessionId) (listener : Listener) (state : ListeningStore) :
    Prop where
  current : changesOf sessionId state.log ≠ [] →
    (deliveredTo sessionId listener state.log).getLast?.map Prod.snd = state.getState sessionId
  ordered : (deliveredTo sessionId listener state.log).Sublist (changesOf sessionId state.log)

-- The loops that have not come to the listener yet.
def awaits (sessionId : SessionId) (listener : Listener) (listeners : Listeners) (round : Round) :
    Bool :=
  round.sessionId = sessionId &&
    (listeners.setAt round.address).isAhead round.position listener

def pending (sessionId : SessionId) (listener : Listener) (state : ListeningStore) :
    List (Nat × SessionState) :=
  (state.rounds.filter (awaits sessionId listener state.listeners)).map fun round =>
    (round.change, round.newState)

def changesState (sessionId : SessionId) (state : ListeningStore) : StoreCall → Bool
  | .dispatch other action now => other = sessionId &&
      (state.getState sessionId).any fun current => (sessionReducer current now action).isSome
  | _ => false

-- A dispatch changes the state of the session before a loop of it has come to the listener.
def overtakes (sessionId : SessionId) (listener : Listener) (state : ListeningStore)
    (call : StoreCall) : Bool :=
  changesState sessionId state call && state.rounds.any (awaits sessionId listener state.listeners)

-- The loops of the session walk through its set.
def Placed (sessionId : SessionId) (state : ListeningStore) : Prop :=
  ∀ round ∈ state.rounds, round.sessionId = sessionId →
    state.listeners.bySession.get sessionId = some round.address

-- What the listener has been given, and what it is still to be given if nothing changes.
def schedule (sessionId : SessionId) (listener : Listener) (state : ListeningStore) :
    List (Nat × SessionState) :=
  deliveredTo sessionId listener state.log ++ pending sessionId listener state

section Listeners

variable {listeners : Listeners} {sessionId other : SessionId} {listener called : Listener}
  {address : Nat}

theorem setAt_put (h : address < listeners.sets.length) (set : LiveSet Listener) (place : Nat) :
    (listeners.put address set).setAt place =
      if address = place then set else listeners.setAt place := by
  unfold Listeners.setAt Listeners.put
  rw [List.getD_eq_getElem?_getD, List.getD_eq_getElem?_getD]
  dsimp only
  rw [List.getElem?_set]
  split
  · rfl
  · rfl

theorem setAt_allocate (place : Nat) :
    (listeners.allocate sessionId).setAt place = listeners.setAt place := by
  unfold Listeners.allocate
  split
  · rfl
  · unfold Listeners.setAt
    dsimp only
    rw [List.getD_eq_getElem?_getD, List.getD_eq_getElem?_getD, List.getElem?_append]
    split
    · rfl
    · rename_i hle
      rw [List.getElem?_eq_none (Nat.le_of_not_lt hle)]
      cases hplace : place - listeners.sets.length with
      | zero => rfl
      | succ count => rfl

theorem get_allocate (h : listeners.bySession.get sessionId = some address) :
    (listeners.allocate other).bySession.get sessionId = some address := by
  unfold Listeners.allocate
  split
  · exact h
  · rename_i hnone
    dsimp only
    rw [OrderedMap.get_set]
    split
    · rename_i heq
      rw [heq, h] at hnone
      exact absurd rfl hnone
    · exact h

theorem isSubscribed_iff : listeners.isSubscribed sessionId listener = true ↔
    ∃ address, listeners.bySession.get sessionId = some address ∧
      (listeners.setAt address).has listener = true := by
  unfold Listeners.isSubscribed
  exact Option.any_eq_true _ _

-- A listener that stays subscribed keeps its place in its set.
structure Stays (sessionId : SessionId) (listener : Listener) (address : Nat)
    (before after : Listeners) : Prop where
  same : after.bySession.get sessionId = some address
  ahead : ∀ position, (after.setAt address).isAhead position listener =
    (before.setAt address).isAhead position listener

theorem stays_subscribe (h : listeners.bySession.get sessionId = some address)
    (hhas : (listeners.setAt address).has listener = true) :
    Stays sessionId listener address listeners (listeners.subscribe other called) := by
  unfold Listeners.subscribe
  dsimp only
  have hget := @get_allocate listeners sessionId other address h
  split
  · exact ⟨hget, fun position => by rw [setAt_allocate]⟩
  · rename_i place hplace
    refine ⟨hget, fun position => ?_⟩
    rw [setAt_put ((listeners.allocate other).allocated _ _ hplace)]
    split
    · rename_i heq
      rw [heq, setAt_allocate]
      exact LiveSet.isAhead_add hhas
    · rw [setAt_allocate]

theorem stays_unsubscribe (h : listeners.bySession.get sessionId = some address)
    (hstill : (listeners.unsubscribe other called).isSubscribed sessionId listener = true) :
    Stays sessionId listener address listeners (listeners.unsubscribe other called) := by
  obtain ⟨place, hplace, hhas⟩ := isSubscribed_iff.mp hstill
  unfold Listeners.unsubscribe at hplace hhas ⊢
  cases hget : listeners.bySession.get other with
  | none => exact ⟨h, fun position => rfl⟩
  | some changed =>
    rw [hget] at hplace hhas
    dsimp only at hplace hhas ⊢
    have hput := @setAt_put listeners changed (listeners.allocated other changed hget)
      ((listeners.setAt changed).delete called)
    by_cases hsize : ((listeners.setAt changed).delete called).size = 0
    · rw [if_pos hsize] at hplace hhas ⊢
      have hne : other ≠ sessionId := by
        rintro rfl
        unfold Listeners.drop at hplace
        dsimp only at hplace
        rw [OrderedMap.get_delete, if_pos rfl] at hplace
        cases hplace
      have hother : changed ≠ address := by
        rintro rfl
        exact hne (listeners.own _ _ _ hget h)
      refine ⟨?_, fun position => ?_⟩
      · unfold Listeners.drop
        dsimp only
        rw [OrderedMap.get_delete, if_neg hne]
        exact h
      · show ((listeners.put changed _).setAt address).isAhead position listener = _
        rw [hput, if_neg hother]
    · rw [if_neg hsize] at hplace hhas ⊢
      refine ⟨h, fun position => ?_⟩
      rw [hput]
      split
      · rename_i heq
        subst heq
        have hsame : place = changed := Option.some.inj (hplace.symm.trans h)
        rw [hsame, hput, if_pos rfl] at hhas
        have hne : listener ≠ called := by
          rintro rfl
          rw [LiveSet.has_delete_self] at hhas
          cases hhas
        exact LiveSet.isAhead_delete hne
      · rfl

end Listeners

section Steps

variable {sessionId : SessionId} {listener : Listener} {state next : ListeningStore}
  {call : StoreCall}

theorem changesOf_append (first second : List Notice) :
    changesOf sessionId (first ++ second) =
      changesOf sessionId first ++ changesOf sessionId second :=
  List.filterMap_append

theorem deliveredTo_append (first second : List Notice) :
    deliveredTo sessionId listener (first ++ second) =
      deliveredTo sessionId listener first ++ deliveredTo sessionId listener second :=
  List.filterMap_append

theorem deliveredTo_notified (log : List Notice) (called : Listener) (round : Round) :
    deliveredTo sessionId listener (log ++ [.notified called round.sessionId round.change
        round.newState round.oldState]) =
      deliveredTo sessionId listener log ++
        if round.sessionId = sessionId ∧ called = listener then [(round.change, round.newState)]
        else [] := by
  rw [deliveredTo_append]
  by_cases hgiven : round.sessionId = sessionId ∧ called = listener
  · simp [deliveredTo, Notice.delivery, hgiven]
  · simp [deliveredTo, Notice.delivery, hgiven]

-- The loop passes the listener it calls, and no other.
theorem awaits_passed {listeners : Listeners} {round : Round} {called : Listener} {position : Nat}
    (hnext : (listeners.setAt round.address).next round.position = some (called, position)) :
    awaits sessionId listener listeners { round with position } =
      (awaits sessionId listener listeners round && decide (listener ≠ called)) := by
  unfold awaits
  dsimp only
  rw [(LiveSet.next_some hnext).2, Bool.and_assoc]

-- The loop that goes on gives the listener what it was to be given next, or passes by.
theorem schedule_notifyNext (state : ListeningStore) :
    schedule sessionId listener state.notifyNext = schedule sessionId listener state := by
  unfold ListeningStore.notifyNext
  cases hrounds : state.rounds with
  | nil => rfl
  | cons round outer =>
    dsimp only
    cases hnext : (state.listeners.setAt round.address).next round.position with
    | none =>
      have hnone : ¬awaits sessionId listener state.listeners round = true := by
        unfold awaits
        rw [LiveSet.next_none hnext, Bool.and_false]
        exact Bool.false_ne_true
      unfold schedule pending
      dsimp only
      rw [hrounds, List.filter_cons_of_neg hnone]
    | some found =>
      obtain ⟨called, position⟩ := found
      have hmoved := @awaits_passed sessionId listener _ _ _ _ hnext
      unfold schedule pending
      dsimp only
      rw [hrounds, deliveredTo_notified]
      by_cases hgiven : round.sessionId = sessionId ∧ called = listener
      · obtain ⟨hsession, rfl⟩ := hgiven
        have hawaits : awaits sessionId called state.listeners round = true := by
          unfold awaits
          rw [(LiveSet.next_some hnext).1, decide_eq_true hsession]
          rfl
        rw [if_pos ⟨hsession, rfl⟩, List.filter_cons_of_pos hawaits,
          List.filter_cons_of_neg (by rw [hmoved]; simp), List.append_assoc]
        rfl
      · have hsame : awaits sessionId listener state.listeners { round with position } =
            awaits sessionId listener state.listeners round := by
          rw [hmoved]
          by_cases hsession : round.sessionId = sessionId
          · have hcall : listener ≠ called := fun heq => hgiven ⟨hsession, heq.symm⟩
            rw [decide_eq_true hcall, Bool.and_true]
          · unfold awaits
            rw [decide_eq_false hsession, Bool.false_and, Bool.false_and]
        rw [if_neg hgiven, List.append_nil, List.filter_cons, List.filter_cons, hsame]
        split
        · rfl
        · rfl

theorem notifyNext_eq (state : ListeningStore) :
    changesOf sessionId state.notifyNext.log = changesOf sessionId state.log ∧
      state.notifyNext.store = state.store ∧ state.notifyNext.listeners = state.listeners ∧
        state.notifyNext.changes = state.changes := by
  unfold ListeningStore.notifyNext
  split
  · exact ⟨rfl, rfl, rfl, rfl⟩
  · split
    · exact ⟨rfl, rfl, rfl, rfl⟩
    · refine ⟨?_, rfl, rfl, rfl⟩
      rw [changesOf_append]
      exact List.append_nil _

theorem placed_notifyNext (h : Placed sessionId state) : Placed sessionId state.notifyNext := by
  unfold ListeningStore.notifyNext
  cases hrounds : state.rounds with
  | nil => exact h
  | cons round outer =>
    unfold Placed at h
    rw [hrounds] at h
    dsimp only
    split
    · exact fun other hmem => h other (List.mem_cons_of_mem _ hmem)
    · intro other hmem hsession
      rcases List.mem_cons.mp hmem with rfl | hmem
      · exact h round List.mem_cons_self hsession
      · exact h other (List.mem_cons_of_mem _ hmem) hsession

-- What a call does to the course of the notices, seen from one listener.
inductive Effect (sessionId : SessionId) (listener : Listener) (state : ListeningStore)
    (call : StoreCall) (next : ListeningStore) : Prop where
  | kept (hcall : changesState sessionId state call = false)
      (hschedule : schedule sessionId listener next = schedule sessionId listener state)
      (hchanges : changesOf sessionId next.log = changesOf sessionId state.log)
      (hstate : next.getState sessionId = state.getState sessionId)
      (hcount : state.changes ≤ next.changes)
  | changed (newState : SessionState) (hcall : changesState sessionId state call = true)
      (hschedule : schedule sessionId listener next = deliveredTo sessionId listener state.log ++
        (state.changes, newState) :: pending sessionId listener state)
      (hchanges : changesOf sessionId next.log =
        changesOf sessionId state.log ++ [(state.changes, newState)])
      (hstate : next.getState sessionId = some newState)
      (hcount : state.changes < next.changes)

theorem effect_subscribed {listeners : Listeners}
    (hplaced : Placed sessionId state)
    (hcall : changesState sessionId state call = false)
    (hstays : ∀ address, state.listeners.bySession.get sessionId = some address →
      Stays sessionId listener address state.listeners listeners) :
    Effect sessionId listener state call { state with listeners } ∧
      Placed sessionId { state with listeners } := by
  refine ⟨.kept hcall ?_ rfl rfl (Nat.le_refl _), fun round hmem hsession =>
    (hstays _ (hplaced round hmem hsession)).same⟩
  have hawaits : ∀ round ∈ state.rounds, awaits sessionId listener listeners round =
      awaits sessionId listener state.listeners round := by
    intro round hmem
    unfold awaits
    by_cases hsession : round.sessionId = sessionId
    · rw [(hstays _ (hplaced round hmem hsession)).ahead]
    · simp [hsession]
  unfold schedule pending
  rw [List.filter_congr hawaits]

-- A new loop over the set of a session begins with the listeners that are in it.
theorem schedule_notifyListeners (state : ListeningStore) (other : SessionId) (change : Nat)
    (newState oldState : SessionState)
    (hsubscribed : state.listeners.isSubscribed sessionId listener = true) :
    schedule sessionId listener (state.notifyListeners other change newState oldState) =
      deliveredTo sessionId listener state.log ++
        ((if other = sessionId then [(change, newState)] else []) ++
          pending sessionId listener state) := by
  obtain ⟨address, haddress, hhas⟩ := isSubscribed_iff.mp hsubscribed
  unfold ListeningStore.notifyListeners
  by_cases heq : other = sessionId
  · subst heq
    rw [haddress, if_pos rfl]
    dsimp only
    rw [if_neg (LiveSet.size_ne_zero hhas), schedule_notifyNext]
    unfold schedule pending
    dsimp only
    rw [List.filter_cons_of_pos (by simp [awaits, LiveSet.isAhead_zero, hhas])]
    rfl
  · rw [if_neg heq]
    split
    · rfl
    · split
      · rfl
      · rw [schedule_notifyNext]
        unfold schedule pending
        dsimp only
        rw [List.filter_cons_of_neg (by simp [awaits, heq])]
        rfl

theorem notifyListeners_eq (state : ListeningStore) (other : SessionId) (change : Nat)
    (newState oldState : SessionState) :
    changesOf sessionId (state.notifyListeners other change newState oldState).log =
        changesOf sessionId state.log ∧
      (state.notifyListeners other change newState oldState).store = state.store ∧
        (state.notifyListeners other change newState oldState).changes = state.changes := by
  unfold ListeningStore.notifyListeners
  split
  · exact ⟨rfl, rfl, rfl⟩
  · split
    · exact ⟨rfl, rfl, rfl⟩
    · obtain ⟨hchanges, hstore, -, hcount⟩ := @notifyNext_eq sessionId { state with
        rounds := ⟨other, _, 0, change, newState, oldState⟩ :: state.rounds }
      exact ⟨hchanges, hstore, hcount⟩

theorem placed_notifyListeners (h : Placed sessionId state) (other : SessionId) (change : Nat)
    (newState oldState : SessionState) :
    Placed sessionId (state.notifyListeners other change newState oldState) := by
  unfold ListeningStore.notifyListeners
  split
  · exact h
  · rename_i address haddress
    split
    · exact h
    · refine placed_notifyNext fun round hmem hsession => ?_
      rcases List.mem_cons.mp hmem with rfl | hmem
      · rw [← hsession]
        exact haddress
      · exact h round hmem hsession

theorem effect_dispatch (hplaced : Placed sessionId state)
    (hsubscribed : state.listeners.isSubscribed sessionId listener = true) (other : SessionId)
    (action : SessionAction) (now : Time) :
    Effect sessionId listener state (.dispatch other action now)
        (state.dispatch other action now) ∧
      Placed sessionId (state.dispatch other action now) := by
  have hsame : changesState sessionId state (.dispatch other action now) = false →
      Effect sessionId listener state (.dispatch other action now) state ∧
        Placed sessionId state :=
    fun hcall => ⟨.kept hcall rfl rfl rfl (Nat.le_refl _), hplaced⟩
  unfold ListeningStore.dispatch
  cases hget : state.store.states.get other with
  | none =>
    refine hsame ?_
    by_cases heq : other = sessionId
    · simp [changesState, ListeningStore.getState, SessionStore.getState, ← heq, hget]
    · simp [changesState, heq]
  | some current =>
    dsimp only
    cases hreducer : sessionReducer current now action with
    | none =>
      refine hsame ?_
      by_cases heq : other = sessionId
      · simp [changesState, ListeningStore.getState, SessionStore.getState, ← heq, hget,
          hreducer]
      · simp [changesState, heq]
    | some newState =>
      dsimp only
      obtain ⟨hchanges, hstore, hcount⟩ := @notifyListeners_eq sessionId
        (state.becomeCurrent other action now newState) other state.changes newState current
      have hschedule := @schedule_notifyListeners sessionId listener
        (state.becomeCurrent other action now newState) other state.changes newState current
        hsubscribed
      have hdelivered : deliveredTo sessionId listener
          (state.becomeCurrent other action now newState).log =
            deliveredTo sessionId listener state.log :=
        (deliveredTo_append _ _).trans (List.append_nil _)
      have hlog : changesOf sessionId (state.becomeCurrent other action now newState).log =
          changesOf sessionId state.log ++
            if other = sessionId then [(state.changes, newState)] else [] := by
        refine (changesOf_append _ _).trans ?_
        by_cases heq : other = sessionId
        · simp [changesOf, Notice.change, heq]
        · simp [changesOf, Notice.change, heq]
      rw [hdelivered] at hschedule
      rw [hlog] at hchanges
      refine ⟨?_, @placed_notifyListeners sessionId
        (state.becomeCurrent other action now newState) hplaced _ _ _ _⟩
      by_cases heq : other = sessionId
      · subst heq
        rw [if_pos rfl] at hschedule hchanges
        refine .changed newState ?_ hschedule hchanges ?_ ?_
        · simp [changesState, ListeningStore.getState, SessionStore.getState, hget, hreducer]
        · unfold ListeningStore.getState
          rw [hstore]
          unfold ListeningStore.becomeCurrent SessionStore.dispatch
          dsimp only
          rw [hget]
          dsimp only
          rw [hreducer]
          simp [SessionStore.getState, SessionStore.recordAction]
        · rw [hcount]
          exact Nat.lt_succ_self _
      · rw [if_neg heq] at hschedule hchanges
        refine .kept ?_ hschedule (hchanges.trans (List.append_nil _)) ?_ ?_
        · simp [changesState, heq]
        · unfold ListeningStore.getState
          rw [hstore]
          exact SessionStore.getState_dispatch_of_ne state.store action now heq
        · rw [hcount]
          exact Nat.le_succ _

theorem step_effect (hplaced : Placed sessionId state)
    (hsubscribed : state.listeners.isSubscribed sessionId listener = true)
    (hnext : (state.step call).listeners.isSubscribed sessionId listener = true) :
    Effect sessionId listener state call (state.step call) ∧
      Placed sessionId (state.step call) := by
  obtain ⟨address, haddress, hhas⟩ := isSubscribed_iff.mp hsubscribed
  cases call with
  | dispatch other action now => exact effect_dispatch hplaced hsubscribed other action now
  | subscribe other called =>
    refine effect_subscribed hplaced rfl fun place hplace => ?_
    rw [haddress] at hplace
    cases hplace
    exact stays_subscribe haddress hhas
  | unsubscribe other called =>
    exact effect_subscribed hplaced rfl fun place hplace => stays_unsubscribe hplace hnext
  | returned =>
    obtain ⟨hchanges, hstore, -, hcount⟩ := @notifyNext_eq sessionId state
    refine ⟨.kept rfl (schedule_notifyNext state) hchanges ?_ (Nat.le_of_eq hcount.symm),
      placed_notifyNext hplaced⟩
    exact congrArg (fun store => store.getState sessionId) hstore

-- What is recorded of a session: every change is given to the listener once, now or later.
structure Recorded (sessionId : SessionId) (listener : Listener) (state : ListeningStore) :
    Prop where
  placed : Placed sessionId state
  given : (schedule sessionId listener state).Perm (changesOf sessionId state.log)
  increasing : (changesOf sessionId state.log).Pairwise fun first second => first.1 < second.1
  numbered : ∀ entry ∈ changesOf sessionId state.log, entry.1 < state.changes
  latest : ∀ entry, (changesOf sessionId state.log).getLast? = some entry →
    state.getState sessionId = some entry.2

theorem recorded_atRest (store : SessionStore) (listeners : Listeners) :
    Recorded sessionId listener (.atRest store listeners) where
  placed := fun round hmem => by cases hmem
  given := List.Perm.refl _
  increasing := List.Pairwise.nil
  numbered := fun entry hmem => by cases hmem
  latest := fun entry hlast => by cases hlast

theorem Effect.recorded (h : Recorded sessionId listener state)
    (heffect : Effect sessionId listener state call next) (hplaced : Placed sessionId next) :
    Recorded sessionId listener next := by
  cases heffect with
  | kept hcall hschedule hchanges hstate hcount =>
    refine ⟨hplaced, ?_, ?_, ?_, ?_⟩
    · rw [hschedule, hchanges]
      exact h.given
    · rw [hchanges]
      exact h.increasing
    · rw [hchanges]
      exact fun entry hmem => Nat.lt_of_lt_of_le (h.numbered entry hmem) hcount
    · rw [hchanges, hstate]
      exact h.latest
  | changed newState hcall hschedule hchanges hstate hcount =>
    refine ⟨hplaced, ?_, ?_, ?_, ?_⟩
    · rw [hschedule, hchanges]
      refine List.perm_middle.trans ((List.Perm.cons _ h.given).trans ?_)
      exact (List.perm_append_singleton _ _).symm
    · rw [hchanges]
      refine List.pairwise_append.mpr ⟨h.increasing, List.pairwise_singleton _ _, ?_⟩
      intro first hfirst second hsecond
      rw [List.mem_singleton.mp hsecond]
      exact h.numbered first hfirst
    · rw [hchanges]
      intro entry hmem
      rcases List.mem_append.mp hmem with hold | hnew
      · exact Nat.lt_trans (h.numbered entry hold) hcount
      · rw [List.mem_singleton.mp hnew]
        exact hcount
    · rw [hchanges]
      intro entry hlast
      rw [List.getLast?_concat] at hlast
      cases hlast
      exact hstate

theorem Effect.schedule_sublist (h : Effect sessionId listener state call next) :
    (schedule sessionId listener state).Sublist (schedule sessionId listener next) := by
  cases h with
  | kept hcall hschedule => rw [hschedule]
  | changed newState hcall hschedule =>
    rw [hschedule]
    exact List.Sublist.append_left (List.sublist_cons_self _ _) _

end Steps

section Runs

variable {sessionId : SessionId} {listener : Listener}

def InOrder (entries : List (Nat × SessionState)) : Prop :=
  entries.Pairwise fun first second => first.1 < second.1

theorem recorded_run {state : ListeningStore} {calls : List StoreCall}
    (h : Recorded sessionId listener state)
    (hsubscribed : Throughout ListeningStore.step
      (fun state => state.listeners.isSubscribed sessionId listener = true) state calls) :
    Recorded sessionId listener (run ListeningStore.step state calls) ∧
      (schedule sessionId listener state).Sublist
        (schedule sessionId listener (run ListeningStore.step state calls)) := by
  induction calls generalizing state with
  | nil => exact ⟨h, List.Sublist.refl _⟩
  | cons call rest ih =>
    obtain ⟨hhere, hrest⟩ := hsubscribed
    have hnext := ((throughout_iff_init ListeningStore.step _ _ _).mp hrest).1
    obtain ⟨heffect, hplaced⟩ := step_effect h.placed hhere hnext
    obtain ⟨hrecorded, hsublist⟩ := ih (heffect.recorded h hplaced) hrest
    exact ⟨hrecorded, heffect.schedule_sublist.trans hsublist⟩

theorem overtakes_iff {state : ListeningStore} {call : StoreCall}
    (hcall : changesState sessionId state call = true) :
    overtakes sessionId listener state call = false ↔ pending sessionId listener state = [] := by
  unfold overtakes pending
  rw [hcall, Bool.true_and, List.map_eq_nil_iff, List.filter_eq_nil_iff, List.any_eq_false]

-- What is to be given comes in order as long as no change overtakes another one.
theorem inOrder_run_iff {state : ListeningStore} {calls : List StoreCall}
    (h : Recorded sessionId listener state)
    (hsubscribed : Throughout ListeningStore.step
      (fun state => state.listeners.isSubscribed sessionId listener = true) state calls)
    (horder : InOrder (schedule sessionId listener state)) :
    InOrder (schedule sessionId listener (run ListeningStore.step state calls)) ↔
      Along ListeningStore.step
        (fun state call => overtakes sessionId listener state call = false) state calls := by
  induction calls generalizing state with
  | nil => exact iff_of_true horder trivial
  | cons call rest ih =>
    obtain ⟨hhere, hrest⟩ := hsubscribed
    have hnext := ((throughout_iff_init ListeningStore.step _ _ _).mp hrest).1
    obtain ⟨heffect, hplaced⟩ := step_effect h.placed hhere hnext
    have hrecorded := heffect.recorded h hplaced
    cases heffect with
    | kept hcall hschedule =>
      have hquiet : overtakes sessionId listener state call = false := by
        unfold overtakes
        rw [hcall, Bool.false_and]
      rw [run_cons, ih hrecorded hrest (by rw [hschedule]; exact horder)]
      exact ⟨fun halong => ⟨hquiet, halong⟩, fun halong => halong.2⟩
    | changed newState hcall hschedule =>
      have hbelow : ∀ entry ∈ schedule sessionId listener state, entry.1 < state.changes :=
        fun entry hmem => h.numbered entry (h.given.mem_iff.mp hmem)
      cases hpending : pending sessionId listener state with
      | nil =>
        have hquiet := (overtakes_iff hcall).mpr hpending
        unfold schedule at horder hbelow
        rw [hpending, List.append_nil] at horder hbelow
        rw [hpending] at hschedule
        have hinOrder : InOrder (schedule sessionId listener (state.step call)) := by
          rw [hschedule]
          refine List.pairwise_append.mpr ⟨horder, List.pairwise_singleton _ _, ?_⟩
          intro first hfirst second hsecond
          rw [List.mem_singleton.mp hsecond]
          exact hbelow first hfirst
        rw [run_cons, ih hrecorded hrest hinOrder]
        exact ⟨fun halong => ⟨hquiet, halong⟩, fun halong => halong.2⟩
      | cons waiting others =>
        refine iff_of_false (fun hinOrder => ?_) (fun halong => ?_)
        · -- The new change is to be given first, and stays before the one that waits.
          have hsublist := (recorded_run hrecorded hrest).2
          rw [hschedule, hpending] at hsublist
          have hpair :=
            (List.pairwise_append.mp (List.Pairwise.sublist hsublist hinOrder)).2.1
          have hlater := (List.pairwise_cons.mp hpair).1 waiting List.mem_cons_self
          have hearlier := hbelow waiting (List.mem_append_right _
            (by rw [hpending]; exact List.mem_cons_self))
          exact Nat.lt_asymm hlater hearlier
        · have hnone := (overtakes_iff hcall).mp halong.1
          rw [hpending] at hnone
          cases hnone

theorem inOrder_eq {first second : List (Nat × SessionState)} (hfirst : InOrder first)
    (hsecond : InOrder second) (hperm : first.Perm second) : first = second :=
  hperm.eq_of_pairwise (fun _ _ _ _ hlt hgt => absurd hgt (Nat.lt_asymm hlt)) hfirst hsecond

-- When all calls have returned, a listener that was subscribed all along is informed
-- exactly when no change of the state overtook a notice on its way to it.
theorem informed_iff (store : SessionStore) (listeners : Listeners) (sessionId : SessionId)
    (listener : Listener) (calls : List StoreCall)
    (hsubscribed : Throughout ListeningStore.step
      (fun state => state.listeners.isSubscribed sessionId listener = true)
      (.atRest store listeners) calls)
    (hreturned : (run ListeningStore.step (.atRest store listeners) calls).rounds = []) :
    Informed sessionId listener (run ListeningStore.step (.atRest store listeners) calls) ↔
      Along ListeningStore.step
        (fun state call => overtakes sessionId listener state call = false)
        (.atRest store listeners) calls := by
  have hstart := @recorded_atRest sessionId listener store listeners
  obtain ⟨hrecorded, -⟩ := recorded_run hstart hsubscribed
  rw [← inOrder_run_iff hstart hsubscribed List.Pairwise.nil]
  have hdelivered : schedule sessionId listener
      (run ListeningStore.step (.atRest store listeners) calls) = deliveredTo sessionId listener
        (run ListeningStore.step (.atRest store listeners) calls).log := by
    unfold schedule pending
    rw [hreturned]
    exact List.append_nil _
  rw [hdelivered]
  have hgiven := hrecorded.given
  rw [hdelivered] at hgiven
  constructor
  · exact fun hinformed => List.Pairwise.sublist hinformed.ordered hrecorded.increasing
  · intro hinOrder
    have hall := inOrder_eq hinOrder hrecorded.increasing hgiven
    refine ⟨fun hne => ?_, by rw [hall]⟩
    obtain ⟨entry, hlast⟩ := Option.ne_none_iff_exists'.mp
      (fun hnone => hne (List.getLast?_eq_none_iff.mp hnone))
    rw [hall, hlast, Option.map_some]
    exact (hrecorded.latest entry hlast).symm

end Runs

section Sample

def sampleSession : SessionId := js "session"

-- A session with the listeners 0 and 1.
def sampleStart : ListeningStore :=
  .atRest ((SessionStore.new 100).createSession sampleSession 0)
    ((Listeners.empty.subscribe sampleSession 0).subscribe sampleSession 1)

def ending : StoreCall := .dispatch sampleSession .connectionActivity 2

-- Listener 1 changes the state again when it is given the first change.
def lastAnswers : List StoreCall :=
  [.dispatch sampleSession .connectionActivity 1, .returned, ending, .returned, .returned,
    .returned]

-- Listener 0 does, and listener 1 is given the second change first.
def firstAnswers : List StoreCall :=
  [.dispatch sampleSession .connectionActivity 1, ending, .returned, .returned, .returned,
    .returned]

theorem lastAnswers_informed :
    (Throughout ListeningStore.step
        (fun state => state.listeners.isSubscribed sampleSession 1 = true) sampleStart lastAnswers ∧
      (run ListeningStore.step sampleStart lastAnswers).rounds = []) ∧
      Informed sampleSession 1 (run ListeningStore.step sampleStart lastAnswers) := by
  have hsubscribed : Throughout ListeningStore.step
      (fun state => state.listeners.isSubscribed sampleSession 1 = true) sampleStart
        lastAnswers := by decide
  have hreturned : (run ListeningStore.step sampleStart lastAnswers).rounds = [] := rfl
  exact ⟨⟨hsubscribed, hreturned⟩, (informed_iff _ _ sampleSession 1 lastAnswers hsubscribed
    hreturned).mpr (by decide)⟩

theorem firstAnswers_not_informed :
    (Throughout ListeningStore.step
        (fun state => state.listeners.isSubscribed sampleSession 1 = true) sampleStart firstAnswers ∧
      (run ListeningStore.step sampleStart firstAnswers).rounds = []) ∧
      ¬Informed sampleSession 1 (run ListeningStore.step sampleStart firstAnswers) := by
  refine ⟨⟨by decide, rfl⟩, fun hinformed => ?_⟩
  have hcurrent := congrArg (Option.map fun state => state.connection.lastActivity)
    (hinformed.current (by intro hnil; cases hnil))
  exact absurd hcurrent (by decide)

end Sample

end WebSsh2.State.Listening

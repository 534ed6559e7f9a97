import WebSsh2.Library.Outbox
import WebSsh2.Library.Run
import WebSsh2.Values

namespace WebSsh2.Logging

open WebSsh2.Library

section Writes

-- What comes of one write to a stream: it returns true, it returns false, which takes
-- the data as well, or it throws.
inductive WriteOutcome where
  | ready
  | full
  | thrown
deriving DecidableEq

-- What a flush has written and what it left, and how it ended.
structure Flushed where
  written : List (JsString × Nat)
  left : List (JsString × Nat)
  last : WriteOutcome

-- The loop over the queue; only a write that returns true takes the head off it. Writes
-- beyond the outcomes that are given return true.
def flushLoop (outcomes : List WriteOutcome) : List (JsString × Nat) → Flushed
  | [] => ⟨[], [], .ready⟩
  | head :: rest =>
    match outcomes.headD .ready with
    | .ready =>
      let flushed := flushLoop outcomes.tail rest
      { flushed with written := head :: flushed.written }
    | .full => ⟨[head], head :: rest, .full⟩
    | .thrown => ⟨[], head :: rest, .thrown⟩

variable (outcomes : List WriteOutcome) (queue : List (JsString × Nat))

theorem flushLoop_splits :
    Outbox.Splits (flushLoop outcomes queue).written (flushLoop outcomes queue).left queue := by
  induction queue generalizing outcomes with
  | nil => exact ⟨List.prefix_refl _, List.suffix_refl _, fun _ h => .inl h⟩
  | cons head rest ih =>
    rw [flushLoop]
    cases outcomes.headD .ready with
    | ready =>
      have hrest := ih outcomes.tail
      refine ⟨List.cons_prefix_cons.mpr ⟨rfl, hrest.written_isPrefix⟩,
        hrest.left_suffix.trans (List.suffix_cons _ _), ?_⟩
      intro entry hentry
      rcases List.mem_cons.mp hentry with rfl | htail
      · exact .inl List.mem_cons_self
      · apply (hrest.covered entry htail).imp_left
        exact List.mem_cons_of_mem _
    | full =>
      exact ⟨List.cons_prefix_cons.mpr ⟨rfl, List.nil_prefix⟩, List.suffix_refl _,
        fun _ h => .inr h⟩
    | thrown => exact ⟨List.nil_prefix, List.suffix_refl _, fun _ h => .inr h⟩

theorem flushLoop_written_iff :
    (flushLoop outcomes queue).written ≠ [] ↔
      queue ≠ [] ∧ outcomes.headD .ready ≠ .thrown := by
  cases queue with
  | nil => simp [flushLoop]
  | cons head rest =>
    rw [flushLoop]
    cases outcomes.headD .ready with
    | ready => simp
    | full => simp
    | thrown => simp

theorem flushLoop_all_ready {outcomes : List WriteOutcome} {queue : List (JsString × Nat)}
    (h : ∀ outcome ∈ outcomes.take queue.length, outcome = .ready) :
    flushLoop outcomes queue = ⟨queue, [], .ready⟩ := by
  induction queue generalizing outcomes with
  | nil => rfl
  | cons head rest ih =>
    cases outcomes with
    | nil =>
      have hrest : flushLoop [] rest = ⟨rest, [], .ready⟩ := by
        apply ih
        simp
      simp [flushLoop, hrest]
    | cons outcome outcomes =>
      rw [List.length_cons, List.take_succ_cons, List.forall_mem_cons] at h
      simp [flushLoop, h.1, ih h.2]

theorem flushLoop_left_length : (flushLoop outcomes queue).left.length ≤ queue.length :=
  (flushLoop_splits outcomes queue).left_suffix.length_le

end Writes

section Transport

structure StdoutTransportOptions where
  lineSeparator : JsString := [10]
  maxQueueSize : Nat := 1000

-- The queue is what waits in the box; `stream` is what the stream has taken, and
-- `published` are the payloads for which `publish` has returned ok.
structure StdoutTransport where
  box : Outbox JsString := {}
  waitingForDrain : Bool := false
  drainListenerAttached : Bool := false
  stream : JsString := []
  published : List JsString := []

inductive TransportFailure where
  | queueFull
  | writeFailed
deriving DecidableEq

def linesText (options : StdoutTransportOptions) (entries : List (JsString × Nat)) : JsString :=
  entries.flatMap fun entry => entry.1 ++ options.lineSeparator

namespace StdoutTransport

def attachDrainListener (state : StdoutTransport) : StdoutTransport :=
  if state.drainListenerAttached then state else { state with drainListenerAttached := true }

-- The state after a write of this payload that the stream took.
def writeNow (options : StdoutTransportOptions) (payload : JsString) (state : StdoutTransport) :
    StdoutTransport :=
  { state with
    box := state.box.pass payload
    stream := state.stream ++ payload ++ options.lineSeparator }

def publish (options : StdoutTransportOptions) (payload : JsString) (outcome : WriteOutcome)
    (state : StdoutTransport) : StdoutTransport × Except TransportFailure Unit :=
  if state.waitingForDrain then
    if options.maxQueueSize ≤ state.box.waiting.length then
      (state, .error .queueFull)
    else
      ({ state with box := state.box.enqueue payload }, .ok ())
  else
    match outcome with
    | .thrown => (state, .error .writeFailed)
    | .full =>
      (attachDrainListener { writeNow options payload state with waitingForDrain := true },
        .ok ())
    | .ready => (writeNow options payload state, .ok ())

def writeQueue (options : StdoutTransportOptions) (flushed : Flushed) (state : StdoutTransport) :
    StdoutTransport :=
  { state with
    box := state.box.hand flushed.written flushed.left
    stream := state.stream ++ linesText options flushed.written }

def flush (options : StdoutTransportOptions) (outcomes : List WriteOutcome)
    (state : StdoutTransport) : StdoutTransport × Except TransportFailure Unit :=
  if state.box.waiting.length = 0 then
    ({ state with waitingForDrain := false }, .ok ())
  else
    let flushed := flushLoop outcomes state.box.waiting
    let after := writeQueue options flushed state
    match flushed.last with
    | .thrown => (after, .error .writeFailed)
    | .full => (attachDrainListener { after with waitingForDrain := true }, .ok ())
    | .ready => ({ after with waitingForDrain := false }, .ok ())

def handleDrain (options : StdoutTransportOptions) (outcomes : List WriteOutcome)
    (state : StdoutTransport) : StdoutTransport :=
  match flush options outcomes state with
  | (state, .ok ()) => state
  | (state, .error _) => { state with waitingForDrain := false }

end StdoutTransport

inductive StdoutEvent where
  | publish (payload : JsString) (outcome : WriteOutcome)
  | flush (outcomes : List WriteOutcome)
  | drain (outcomes : List WriteOutcome)

-- The answer to a call of `publish` goes into the record.
def recordPublished (payload : JsString) :
    StdoutTransport × Except TransportFailure Unit → StdoutTransport
  | (state, .ok ()) => { state with published := state.published ++ [payload] }
  | (state, .error _) => state

-- The listener is called once.
def stdoutStep (options : StdoutTransportOptions) (state : StdoutTransport) :
    StdoutEvent → StdoutTransport
  | .publish payload outcome => recordPublished payload (state.publish options payload outcome)
  | .flush outcomes => (state.flush options outcomes).1
  | .drain outcomes =>
    if state.drainListenerAttached then
      StdoutTransport.handleDrain options outcomes { state with drainListenerAttached := false }
    else
      state

end Transport

section Steps

variable {options : StdoutTransportOptions} {state : StdoutTransport}

theorem attachDrainListener_box (state : StdoutTransport) :
    state.attachDrainListener.box = state.box ∧
      state.attachDrainListener.stream = state.stream ∧
      state.attachDrainListener.published = state.published := by
  unfold StdoutTransport.attachDrainListener
  split
  · exact ⟨rfl, rfl, rfl⟩
  · exact ⟨rfl, rfl, rfl⟩

-- What a step does to the box and to the stream, whatever it does to the flags.
structure Moves (options : StdoutTransportOptions) (before after : StdoutTransport)
    (outcomes : List WriteOutcome) : Prop where
  box : after.box = before.box.hand (flushLoop outcomes before.box.waiting).written
    (flushLoop outcomes before.box.waiting).left
  stream : after.stream =
    before.stream ++ linesText options (flushLoop outcomes before.box.waiting).written
  published : after.published = before.published

theorem flush_moves (outcomes : List WriteOutcome) :
    Moves options state (state.flush options outcomes).1 outcomes := by
  unfold StdoutTransport.flush
  split
  · rename_i hempty
    have hqueue := List.length_eq_zero_iff.mp hempty
    have hloop : flushLoop outcomes state.box.waiting = ⟨[], [], .ready⟩ := by
      rw [hqueue]
      rfl
    constructor
    · rw [hloop, Outbox.hand, List.append_nil, ← hqueue]
    · rw [hloop]
      simp [linesText]
    · rfl
  · dsimp only
    cases (flushLoop outcomes state.box.waiting).last with
    | ready => exact ⟨rfl, rfl, rfl⟩
    | full =>
      obtain ⟨hbox, hstream, hpublished⟩ := attachDrainListener_box
        { StdoutTransport.writeQueue options (flushLoop outcomes state.box.waiting) state with
          waitingForDrain := true }
      exact ⟨hbox, hstream, hpublished⟩
    | thrown => exact ⟨rfl, rfl, rfl⟩

theorem handleDrain_moves (outcomes : List WriteOutcome) :
    Moves options state (StdoutTransport.handleDrain options outcomes state) outcomes := by
  have hflush : Moves options state (state.flush options outcomes).1 outcomes :=
    flush_moves outcomes
  unfold StdoutTransport.handleDrain
  split
  · rename_i heq
    rw [heq] at hflush
    exact hflush
  · rename_i heq
    rw [heq] at hflush
    exact ⟨hflush.box, hflush.stream, hflush.published⟩

-- The outcomes of the flush that an event leads to, if there is one.
def flushOutcomes (state : StdoutTransport) : StdoutEvent → Option (List WriteOutcome)
  | .publish _ _ => none
  | .flush outcomes => some outcomes
  | .drain outcomes => if state.drainListenerAttached then some outcomes else none

theorem step_moves {event : StdoutEvent} {outcomes : List WriteOutcome}
    (h : flushOutcomes state event = some outcomes) :
    Moves options state (stdoutStep options state event) outcomes := by
  cases event with
  | publish payload outcome => cases h
  | flush given =>
    obtain rfl := Option.some.inj h
    exact flush_moves given
  | drain given =>
    simp only [flushOutcomes] at h
    split at h
    · rename_i hattached
      obtain rfl := Option.some.inj h
      simp only [stdoutStep, if_pos hattached]
      have hmoves : Moves options { state with drainListenerAttached := false }
          (StdoutTransport.handleDrain options given
            { state with drainListenerAttached := false }) given :=
        handleDrain_moves given
      exact ⟨hmoves.box, hmoves.stream, hmoves.published⟩
    · cases h

theorem step_unheard {outcomes : List WriteOutcome} (h : state.drainListenerAttached = false) :
    stdoutStep options state (.drain outcomes) = state := by
  simp [stdoutStep, h]

-- A payload is refused, or it waits, or the stream takes it.
inductive Published (options : StdoutTransportOptions) (payload : JsString)
    (before after : StdoutTransport) : Prop where
  | refused (box : after.box = before.box) (stream : after.stream = before.stream)
      (published : after.published = before.published)
  | queued (space : before.box.waiting.length < options.maxQueueSize)
      (box : after.box = before.box.enqueue payload) (stream : after.stream = before.stream)
      (published : after.published = before.published ++ [payload])
  | written (box : after.box = before.box.pass payload)
      (stream : after.stream = before.stream ++ payload ++ options.lineSeparator)
      (published : after.published = before.published ++ [payload])

theorem publish_published (payload : JsString) (outcome : WriteOutcome) :
    Published options payload state
      (recordPublished payload (state.publish options payload outcome)) := by
  unfold StdoutTransport.publish
  split
  · split
    · exact .refused rfl rfl rfl
    · rename_i hspace
      exact .queued (Nat.lt_of_not_le hspace) rfl rfl rfl
  · cases outcome with
    | ready => exact .written rfl rfl rfl
    | full =>
      obtain ⟨hbox, hstream, hpublished⟩ := attachDrainListener_box
        { StdoutTransport.writeNow options payload state with waitingForDrain := true }
      exact .written hbox hstream (congrArg (· ++ [payload]) hpublished)
    | thrown => exact .refused rfl rfl rfl

end Steps

section Delivery

variable (options : StdoutTransportOptions) (state : StdoutTransport)

-- What every run keeps, in order or not.
structure Kept (state : StdoutTransport) : Prop where
  tracked : state.box.Tracked
  published : state.box.accepted = state.published
  lines : state.stream = linesText options state.box.taken
  bounded : state.box.waiting.length ≤ options.maxQueueSize

-- A flush or a drain all of whose writes return true; a drain that nobody hears has none.
def WritesReady : StdoutEvent → Prop
  | .publish _ _ => False
  | .flush outcomes => ∀ outcome ∈ outcomes.take state.box.waiting.length, outcome = .ready
  | .drain outcomes => state.drainListenerAttached = true →
      ∀ outcome ∈ outcomes.take state.box.waiting.length, outcome = .ready

-- The lines of the stream are payloads for which `publish` returned ok, each at most once
-- and in the order of their publication.
structure DeliversOnce (event : StdoutEvent) : Prop where
  published : (stdoutStep options state event).box.accepted =
    (stdoutStep options state event).published
  inOrder : (stdoutStep options state event).box.InOrder
  lines : (stdoutStep options state event).stream =
    linesText options (stdoutStep options state event).box.taken
  complete : WritesReady state event → (stdoutStep options state event).box.Complete
  bounded : (stdoutStep options state event).box.waiting.length ≤ options.maxQueueSize

-- The head of the queue is written when its turn is not over yet, and somebody
-- hears the drain that the payloads wait for.
structure InTime (event : StdoutEvent) : Prop where
  due : ∀ outcomes, flushOutcomes state event = some outcomes → state.box.waiting ≠ [] →
    outcomes.headD .ready ≠ .thrown → ¬state.box.Overdue
  heard : ∀ outcomes, event = .drain outcomes → state.drainListenerAttached = false →
    ∀ entry ∈ state.box.waiting, entry ∈ state.box.taken

variable {options state}

theorem linesText_append (first second : List (JsString × Nat)) :
    linesText options (first ++ second) = linesText options first ++ linesText options second :=
  List.flatMap_append

variable {after : StdoutTransport} {outcomes : List WriteOutcome}

theorem kept_of_moves (h : Kept options state) (hmoves : Moves options state after outcomes) :
    Kept options after where
  tracked := by
    rw [hmoves.box]
    exact Outbox.tracked_hand h.tracked (flushLoop_splits outcomes state.box.waiting)
  published := by
    rw [hmoves.published, hmoves.box]
    exact h.published
  lines := by
    rw [hmoves.stream, hmoves.box, h.lines, ← linesText_append]
    rfl
  bounded := by
    rw [hmoves.box]
    exact (flushLoop_left_length outcomes state.box.waiting).trans h.bounded

theorem kept_of_published {payload : JsString} (h : Kept options state)
    (hpublished : Published options payload state after) : Kept options after := by
  cases hpublished with
  | refused box stream published =>
    constructor
    · rw [box]
      exact h.tracked
    · rw [box, published, h.published]
    · rw [stream, box, h.lines]
    · rw [box]
      exact h.bounded
  | queued space box stream published =>
    constructor
    · rw [box]
      exact Outbox.tracked_enqueue h.tracked payload
    · rw [box, published, Outbox.enqueue, h.published]
    · rw [stream, box, h.lines]
      rfl
    · rw [box, Outbox.enqueue, List.length_append, List.length_singleton]
      exact space
  | written box stream published =>
    constructor
    · rw [box]
      exact Outbox.tracked_pass h.tracked payload
    · rw [box, published, Outbox.pass, h.published]
    · rw [stream, box, h.lines, Outbox.pass, linesText_append]
      simp [linesText]
    · rw [box]
      exact h.bounded

theorem kept_step (event : StdoutEvent) (h : Kept options state) :
    Kept options (stdoutStep options state event) := by
  cases event with
  | publish payload outcome => exact kept_of_published h (publish_published payload outcome)
  | flush outcomes => exact kept_of_moves h (flush_moves outcomes)
  | drain outcomes =>
    cases hattached : state.drainListenerAttached with
    | false =>
      rw [step_unheard hattached]
      exact h
    | true =>
      have hflush : flushOutcomes state (.drain outcomes) = some outcomes := by
        simp [flushOutcomes, hattached]
      exact kept_of_moves h (step_moves hflush)

theorem inOrder_published {payload : JsString} (h : state.box.InOrder)
    (hpublished : Published options payload state after) : after.box.InOrder := by
  cases hpublished with
  | refused box => rwa [box]
  | queued space box =>
    rw [box]
    exact Outbox.inOrder_enqueue h payload
  | written box =>
    rw [box]
    exact Outbox.inOrder_pass h payload

theorem inOrder_moves_iff (hkept : Kept options state) (h : state.box.InOrder)
    (hmoves : Moves options state after outcomes) :
    after.box.InOrder ↔ (state.box.waiting ≠ [] → outcomes.headD .ready ≠ .thrown →
      ¬state.box.Overdue) := by
  rw [hmoves.box, Outbox.inOrder_hand_iff hkept.tracked h
    (flushLoop_splits outcomes state.box.waiting).written_isPrefix, flushLoop_written_iff, and_imp]

theorem complete_moves (hkept : Kept options after) (h : after.box.InOrder)
    (hmoves : Moves options state after outcomes)
    (hready : ∀ outcome ∈ outcomes.take state.box.waiting.length, outcome = .ready) :
    after.box.Complete := by
  have hleft : after.box.waiting = [] := by
    rw [hmoves.box, flushLoop_all_ready hready]
    rfl
  rw [Outbox.complete_iff hkept.tracked h, hleft]
  simp

theorem deliversOnce_iff (event : StdoutEvent) (hkept : Kept options state)
    (h : state.box.InOrder) : DeliversOnce options state event ↔ InTime state event := by
  have hafter := kept_step event hkept
  cases hflush : flushOutcomes state event with
  | some outcomes =>
    have hmoves : Moves options state (stdoutStep options state event) outcomes :=
      step_moves hflush
    have hiff := inOrder_moves_iff hkept h hmoves
    constructor
    · intro hdelivers
      constructor
      · intro given hgiven
        obtain rfl := Option.some.inj (hflush.symm.trans hgiven)
        exact hiff.mp hdelivers.inOrder
      · intro given hevent hunheard
        simp [hevent, flushOutcomes, hunheard] at hflush
    · intro hdue
      have hinOrder := hiff.mpr (hdue.due outcomes hflush)
      refine ⟨hafter.published, hinOrder, hafter.lines, fun hready => ?_, hafter.bounded⟩
      apply complete_moves hafter hinOrder hmoves
      cases event with
      | publish payload outcome => cases hflush
      | flush given =>
        obtain rfl := Option.some.inj hflush
        exact hready
      | drain given =>
        simp only [flushOutcomes] at hflush
        split at hflush
        · rename_i hattached
          obtain rfl := Option.some.inj hflush
          exact hready hattached
        · cases hflush
  | none =>
    cases event with
    | publish payload outcome =>
      have hpublished : Published options payload state
          (recordPublished payload (state.publish options payload outcome)) :=
        publish_published payload outcome
      have hinOrder := inOrder_published h hpublished
      constructor
      · intro _
        refine ⟨fun outcomes houtcomes => ?_, fun outcomes hevent => ?_⟩
        · rw [hflush] at houtcomes
          cases houtcomes
        · cases hevent
      · intro _
        exact ⟨hafter.published, hinOrder, hafter.lines, fun hready => hready.elim, hafter.bounded⟩
    | flush outcomes => cases hflush
    | drain outcomes =>
      have hunheard : state.drainListenerAttached = false := by
        simpa [flushOutcomes] using hflush
      have hsame : stdoutStep options state (.drain outcomes) = state :=
        step_unheard hunheard
      constructor
      · intro hdelivers
        refine ⟨fun given hgiven => ?_, fun given hevent _ => ?_⟩
        · rw [hflush] at hgiven
          cases hgiven
        · have hready : WritesReady state (.drain outcomes) := fun hattached => by
            rw [hunheard] at hattached
            cases hattached
          have hcomplete := hdelivers.complete hready
          rw [hsame] at hcomplete
          exact (Outbox.complete_iff hkept.tracked h).mp hcomplete
      · intro htime
        have hall := htime.heard outcomes rfl hunheard
        refine ⟨hafter.published, ?_, hafter.lines, fun _ => ?_, hafter.bounded⟩
        · rw [hsame]
          exact h
        · rw [hsame]
          exact (Outbox.complete_iff hkept.tracked h).mpr hall

theorem kept_init (options : StdoutTransportOptions) : Kept options {} where
  tracked := Outbox.tracked_empty
  published := rfl
  lines := rfl
  bounded := Nat.zero_le _

theorem stdoutDelivers_iff (options : StdoutTransportOptions) (events : List StdoutEvent) :
    Run.Along (stdoutStep options) (DeliversOnce options) {} events ↔
      Run.Along (stdoutStep options) InTime {} events := by
  apply @Run.along_congr_of_kept _ _ (stdoutStep options)
    fun state : StdoutTransport => Kept options state ∧ state.box.InOrder
  · intro state event h htime
    exact ⟨kept_step event h.1, ((deliversOnce_iff event h.1 h.2).mpr htime).inOrder⟩
  · intro state event h
    exact deliversOnce_iff event h.1 h.2
  · exact ⟨kept_init options, List.Sublist.refl _⟩

-- The second payload waits, and is written again after a write that returned false.
def retriedPayloads : List StdoutEvent :=
  [.publish (js "first") .full, .publish (js "second") .ready, .drain [.full], .drain []]

theorem stdoutDelivers_not_fullFlush : ¬∀ (options : StdoutTransportOptions)
    (events : List StdoutEvent),
    Run.Along (stdoutStep options) (DeliversOnce options) {} events := by
  intro hall
  have hlast := (hall {} retriedPayloads).2.2.2.1.inOrder
  have hnot : ¬(Run.run (stdoutStep {}) {} retriedPayloads).box.taken.Sublist
      (Run.run (stdoutStep {}) {} retriedPayloads).box.accepted.zipIdx := by decide
  exact hnot hlast

end Delivery

end WebSsh2.Logging

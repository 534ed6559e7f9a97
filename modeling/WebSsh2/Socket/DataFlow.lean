import WebSsh2.Library.Run

namespace WebSsh2.Socket

open WebSsh2.Library WebSsh2.Library.Run

abbrev Chunk := List UInt8

def lowWaterMarkDivisor : Int := 4

inductive BackpressureAction where
  | pause
  | resume
  | none
deriving DecidableEq

def lowWaterMark (highWaterMark : Int) : Int :=
  highWaterMark / lowWaterMarkDivisor

-- No number of bytes is given where the transport has none to read.
def computeBackpressureAction (bufferedBytes : Option Nat) (highWaterMark : Int)
    (currentlyPaused : Bool) : BackpressureAction :=
  match bufferedBytes with
  | .none => .none
  | some bytes =>
    if !currentlyPaused ∧ highWaterMark ≤ bytes then .pause
    else if currentlyPaused ∧ (bytes : Int) < lowWaterMark highWaterMark then .resume
    else .none

structure FlowConfig where
  outputRateLimitBytesPerSec : Option Int
  socketHighWaterMark : Option Int

namespace FlowConfig

def rateLimitBytesPerSec (config : FlowConfig) : Int :=
  config.outputRateLimitBytesPerSec.getD 0

def highWaterMark (config : FlowConfig) : Int :=
  config.socketHighWaterMark.getD 16384

end FlowConfig

structure RateLimitState where
  bytesInWindow : Int
  windowStart : Int
  paused : Bool
deriving DecidableEq

-- A timer for the next check runs exactly while its id is kept.
structure BackpressureState where
  paused : Bool
  checkTimer : Bool
deriving DecidableEq

-- What the callbacks share, the pending timers that lift the rate limit with their
-- delays, whether `onDrainCheck` is registered, whether the stream flows, what it
-- gave and what was emitted. A listener is taken away before it is registered
-- again, so there is never a second one.
structure DataFlow where
  rateLimitState : Option RateLimitState
  backpressure : BackpressureState
  drainListener : Bool
  resumeTimers : List Int
  flowing : Bool
  closed : Bool
  chunks : List Chunk
  emitted : List Chunk
deriving DecidableEq

-- What wakes the callbacks up: with the time and the buffered bytes they read then.
inductive FlowEvent where
  | data (chunk : Chunk) (now : Int) (buffered : Option Nat)
  | resumeTimer (index : Nat) (now : Int)
  | drain (buffered : Option Nat)
  | checkTimer (buffered : Option Nat)
  | close
deriving DecidableEq

-- What the event brings from the shell.
def FlowEvent.chunks : FlowEvent → List Chunk
  | .data chunk _ _ => [chunk]
  | _ => []

namespace DataFlow

section Callbacks

variable (config : FlowConfig)

def setupShellDataFlow (now : Int) : DataFlow where
  rateLimitState :=
    if 0 < config.rateLimitBytesPerSec then
      some { bytesInWindow := 0, windowStart := now, paused := false }
    else
      none
  backpressure := { paused := false, checkTimer := false }
  drainListener := false
  resumeTimers := []
  flowing := true
  closed := false
  chunks := []
  emitted := []

variable (flow : DataFlow)

def clearResumeSchedule : DataFlow :=
  { flow with
    backpressure := { flow.backpressure with checkTimer := false }
    drainListener := false }

def scheduleResumeCheck : DataFlow :=
  let cleared := flow.clearResumeSchedule
  { cleared with
    backpressure := { cleared.backpressure with checkTimer := true }
    drainListener := true }

def checkResume (buffered : Option Nat) (flow : DataFlow) : DataFlow :=
  match computeBackpressureAction buffered config.highWaterMark flow.backpressure.paused with
  | .resume =>
    let relieved := { flow with backpressure := { flow.backpressure with paused := false } }
    { relieved.clearResumeSchedule with flowing := true }
  | _ => if flow.backpressure.paused then flow.scheduleResumeCheck else flow

def checkBackpressure (buffered : Option Nat) (flow : DataFlow) : DataFlow :=
  match computeBackpressureAction buffered config.highWaterMark flow.backpressure.paused with
  | .pause =>
    let paused := { flow with
      backpressure := { flow.backpressure with paused := true }
      flowing := false }
    paused.scheduleResumeCheck
  | _ => flow

-- The window that a chunk arriving now is counted in.
def currentWindow (rate : RateLimitState) (now : Int) : RateLimitState :=
  if 1000 ≤ now - rate.windowStart then
    { rate with bytesInWindow := 0, windowStart := now }
  else
    rate

def exceeds (rate : RateLimitState) (chunk : Chunk) (now : Int) : Prop :=
  config.rateLimitBytesPerSec < (currentWindow rate now).bytesInWindow + chunk.length

instance (rate : RateLimitState) (chunk : Chunk) (now : Int) :
    Decidable (exceeds config rate chunk now) :=
  inferInstanceAs (Decidable (_ < _))

def emit (chunk : Chunk) (buffered : Option Nat) (flow : DataFlow) : DataFlow :=
  let sent := { flow with emitted := flow.emitted ++ [chunk] }
  if sent.backpressure.paused then sent else checkBackpressure config buffered sent

def onData (chunk : Chunk) (now : Int) (buffered : Option Nat) (flow : DataFlow) : DataFlow :=
  match flow.rateLimitState with
  | none => emit config chunk buffered flow
  | some rate =>
    let window := currentWindow rate now
    if exceeds config rate chunk now then
      { flow with
        rateLimitState := some { window with paused := true }
        flowing := if window.paused then flow.flowing else false
        resumeTimers := flow.resumeTimers ++ [1000 - (now - rate.windowStart)] }
    else
      emit config chunk buffered { flow with
        rateLimitState := some
          { window with bytesInWindow := window.bytesInWindow + chunk.length } }

def onResumeTimer (now : Int) (flow : DataFlow) : DataFlow :=
  match flow.rateLimitState with
  | none => flow
  | some _ =>
    { flow with
      rateLimitState := some { bytesInWindow := 0, windowStart := now, paused := false }
      flowing := if flow.backpressure.paused then flow.flowing else true }

def onClose : DataFlow :=
  { flow.clearResumeSchedule with rateLimitState := none, closed := true }

-- An event that nothing waits for passes by.
def step : FlowEvent → DataFlow
  | .data chunk now buffered =>
    onData config chunk now buffered { flow with chunks := flow.chunks ++ [chunk] }
  | .resumeTimer index now =>
    if index < flow.resumeTimers.length then
      onResumeTimer now { flow with resumeTimers := flow.resumeTimers.eraseIdx index }
    else
      flow
  | .drain buffered =>
    if flow.drainListener then
      checkResume config buffered { flow with drainListener := false }
    else
      flow
  | .checkTimer buffered =>
    if flow.backpressure.checkTimer then
      checkResume config buffered
        { flow with backpressure := { flow.backpressure with checkTimer := false } }
    else
      flow
  | .close => flow.onClose

end Callbacks

section Delivery

variable {config : FlowConfig}

variable (flow : DataFlow)

def Delivered : Prop :=
  flow.emitted.flatten = flow.chunks.flatten

instance (flow : DataFlow) : Decidable flow.Delivered :=
  inferInstanceAs (Decidable (_ = _))

-- The chunk stays within the budget of the window that it is counted in.
def WithinBudget (config : FlowConfig) (flow : DataFlow) : FlowEvent → Prop
  | .data chunk now _ => ∀ rate ∈ flow.rateLimitState, ¬ exceeds config rate chunk now
  | _ => True

-- No window is over its budget, and there is a budget where bytes are counted.
def Budgeted (config : FlowConfig) (flow : DataFlow) : Prop :=
  ∀ rate ∈ flow.rateLimitState,
    0 ≤ config.rateLimitBytesPerSec ∧ rate.bytesInWindow ≤ config.rateLimitBytesPerSec

theorem checkResume_frame (buffered : Option Nat) (flow : DataFlow) :
    (checkResume config buffered flow).rateLimitState = flow.rateLimitState ∧
      (checkResume config buffered flow).resumeTimers = flow.resumeTimers ∧
      (checkResume config buffered flow).closed = flow.closed ∧
      (checkResume config buffered flow).chunks = flow.chunks ∧
      (checkResume config buffered flow).emitted = flow.emitted := by
  unfold checkResume
  split
  · exact ⟨rfl, rfl, rfl, rfl, rfl⟩
  · split <;> exact ⟨rfl, rfl, rfl, rfl, rfl⟩

theorem emit_frame (chunk : Chunk) (buffered : Option Nat) (flow : DataFlow) :
    (emit config chunk buffered flow).rateLimitState = flow.rateLimitState ∧
      (emit config chunk buffered flow).chunks = flow.chunks ∧
      (emit config chunk buffered flow).emitted = flow.emitted ++ [chunk] := by
  unfold emit checkBackpressure
  dsimp only
  split
  · exact ⟨rfl, rfl, rfl⟩
  · split <;> exact ⟨rfl, rfl, rfl⟩

theorem onResumeTimer_frame (now : Int) (flow : DataFlow) :
    (onResumeTimer now flow).chunks = flow.chunks ∧
      (onResumeTimer now flow).emitted = flow.emitted := by
  unfold onResumeTimer
  split <;> exact ⟨rfl, rfl⟩

theorem currentWindow_bytes_le {limit : Int} {rate : RateLimitState} (now : Int)
    (hlimit : 0 ≤ limit) (h : rate.bytesInWindow ≤ limit) :
    (currentWindow rate now).bytesInWindow ≤ limit := by
  unfold currentWindow
  split
  · exact hlimit
  · exact h

theorem budgeted_setup (config : FlowConfig) (start : Int) :
    Budgeted config (setupShellDataFlow config start) := by
  intro rate hrate
  simp only [setupShellDataFlow, Option.mem_def] at hrate
  split at hrate
  · rename_i hpos
    cases hrate
    exact ⟨Int.le_of_lt hpos, Int.le_of_lt hpos⟩
  · cases hrate

variable (event : FlowEvent)

theorem budgeted_step (h : Budgeted config flow) : Budgeted config (step config flow event) := by
  unfold Budgeted at h ⊢
  cases event with
  | data chunk now buffered =>
    cases hrate : flow.rateLimitState with
    | none => simp [step, onData, hrate, emit_frame]
    | some rate =>
      obtain ⟨hlimit, hbytes⟩ := h rate hrate
      have hwindow := currentWindow_bytes_le now hlimit hbytes
      by_cases hexceeds : exceeds config rate chunk now
      · simp [step, onData, hrate, hexceeds, hlimit, hwindow]
      · have hfits := hexceeds
        unfold exceeds at hfits
        simp [step, onData, hrate, hexceeds, emit_frame, hlimit]
        omega
  | resumeTimer index now =>
    cases hrate : flow.rateLimitState with
    | none =>
      by_cases hindex : index < flow.resumeTimers.length <;>
        simp [step, onResumeTimer, hrate, hindex]
    | some rate =>
      obtain ⟨hlimit, hbytes⟩ := h rate hrate
      by_cases hindex : index < flow.resumeTimers.length <;>
        simp [step, onResumeTimer, hrate, hindex, hlimit, hbytes]
  | drain buffered =>
    by_cases hlistener : flow.drainListener = true
    · simpa [step, hlistener, checkResume_frame] using h
    · simpa [step, hlistener] using h
  | checkTimer buffered =>
    by_cases htimer : flow.backpressure.checkTimer = true
    · simpa [step, htimer, checkResume_frame] using h
    · simpa [step, htimer] using h
  | close => simp [step, onClose]

-- What an event brings is emitted when it is within the budget, and is lost otherwise.
theorem step_emitted [Decidable (WithinBudget config flow event)] :
    (step config flow event).chunks = flow.chunks ++ event.chunks ∧
      (step config flow event).emitted =
        flow.emitted ++ if WithinBudget config flow event then event.chunks else [] := by
  cases event with
  | data chunk now buffered =>
    cases hrate : flow.rateLimitState with
    | none => simp [step, onData, WithinBudget, FlowEvent.chunks, hrate, emit_frame]
    | some rate =>
      by_cases hexceeds : exceeds config rate chunk now <;>
        simp [step, onData, WithinBudget, FlowEvent.chunks, hrate, hexceeds, emit_frame]
  | resumeTimer index now =>
    by_cases hindex : index < flow.resumeTimers.length
    · simp [step, hindex, onResumeTimer_frame, FlowEvent.chunks]
    · simp [step, hindex, FlowEvent.chunks]
  | drain buffered =>
    by_cases hlistener : flow.drainListener = true
    · simp [step, hlistener, checkResume_frame, FlowEvent.chunks]
    · simp [step, hlistener, FlowEvent.chunks]
  | checkTimer buffered =>
    by_cases htimer : flow.backpressure.checkTimer = true
    · simp [step, htimer, checkResume_frame, FlowEvent.chunks]
    · simp [step, htimer, FlowEvent.chunks]
  | close => simp [step, onClose, clearResumeSchedule, FlowEvent.chunks]

-- What is over the budget is not empty, so that its loss shows.
theorem chunks_ne_of_not_withinBudget {flow : DataFlow} {event : FlowEvent}
    (hbudget : Budgeted config flow) (h : ¬ WithinBudget config flow event) :
    event.chunks.flatten ≠ [] := by
  cases event with
  | data chunk now buffered =>
    intro hempty
    apply h
    intro rate hrate
    have hchunk : chunk = [] := by simpa [FlowEvent.chunks] using hempty
    obtain ⟨hlimit, hbytes⟩ := hbudget rate hrate
    have hwindow := currentWindow_bytes_le now hlimit hbytes
    unfold exceeds
    rw [hchunk, List.length_nil]
    omega
  | resumeTimer index now => exact absurd trivial h
  | drain buffered => exact absurd trivial h
  | checkTimer buffered => exact absurd trivial h
  | close => exact absurd trivial h

theorem delivered_step_iff (hbudget : Budgeted config flow) (h : flow.Delivered) :
    (step config flow event).Delivered ↔ WithinBudget config flow event := by
  classical
  obtain ⟨hchunks, hemitted⟩ := step_emitted flow event
  unfold Delivered at h ⊢
  rw [hchunks, hemitted]
  by_cases hwithin : WithinBudget config flow event
  · simp [hwithin, h]
  · have hne := chunks_ne_of_not_withinBudget hbudget hwithin
    rw [if_neg hwithin, List.append_nil, List.flatten_append, h]
    refine iff_of_false ?_ hwithin
    intro heq
    exact hne (List.self_eq_append_right.mp heq)

-- Every byte that the shell gave is emitted, in order, in every state of a run
-- exactly when no chunk arrives over the budget of its window.
theorem delivered_throughout_iff (config : FlowConfig) (start : Int) (events : List FlowEvent) :
    Throughout (step config) Delivered (setupShellDataFlow config start) events ↔
      Along (step config) (WithinBudget config) (setupShellDataFlow config start) events :=
  throughout_iff_along budgeted_step delivered_step_iff (budgeted_setup config start) rfl events

-- The second chunk is over the budget of the first second and is never emitted.
theorem second_chunk_lost :
    ¬ ∀ config start events,
      Throughout (step config) Delivered (setupShellDataFlow config start) events := by
  intro h
  have hrun := h { outputRateLimitBytesPerSec := some 4, socketHighWaterMark := none } 0
    [.data [97, 98, 99] 10 (some 3), .data [100, 101, 102] 20 (some 6), .resumeTimer 0 1000]
  revert hrun
  decide

end Delivery

end DataFlow

end WebSsh2.Socket

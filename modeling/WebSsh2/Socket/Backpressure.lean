import WebSsh2.Socket.DataFlow

namespace WebSsh2.Socket

open WebSsh2.Library

-- The promises that `waitForDrain` returns are numbered in the order they are
-- made, and `resolutions` is the order in which they are resolved.
structure BackpressureController where
  destroyed : Bool
  pendingResolve : Option Nat
  timer : Bool
  listeners : Nat
  promises : Nat
  resolutions : List Nat
deriving DecidableEq

def createBackpressureController : BackpressureController where
  destroyed := false
  pendingResolve := none
  timer := false
  listeners := 0
  promises := 0
  resolutions := []

namespace BackpressureController

def scheduleTimer (controller : BackpressureController) : BackpressureController :=
  { controller with timer := true }

def clearTimer (controller : BackpressureController) : BackpressureController :=
  { controller with timer := false }

def removeListener (controller : BackpressureController) : BackpressureController :=
  { controller with listeners := controller.listeners - 1 }

def resolve (controller : BackpressureController) (promise : Nat) : BackpressureController :=
  { controller with resolutions := controller.resolutions ++ [promise] }

-- The pending waiter is taken out with its timer and its listener, then resolved.
def release (controller : BackpressureController) (promise : Nat) : BackpressureController :=
  ({ controller with pendingResolve := none }.clearTimer.removeListener).resolve promise

section Events

variable (highWaterMark : Int)

variable (buffered : Option Nat)

def checkAndResolve (controller : BackpressureController) : BackpressureController :=
  match controller.pendingResolve with
  | none => controller
  | some promise =>
    if computeBackpressureAction buffered highWaterMark true = .resume ∨ buffered = none then
      controller.release promise
    else
      controller.scheduleTimer

def waitForDrain (controller : BackpressureController) : BackpressureController :=
  let promise := controller.promises
  let controller := { controller with promises := promise + 1 }
  if controller.destroyed then
    controller.resolve promise
  else if computeBackpressureAction buffered highWaterMark false ≠ .pause then
    controller.resolve promise
  else
    let controller :=
      match controller.pendingResolve with
      | none => controller
      | some previous => controller.release previous
    { controller with
      pendingResolve := some promise
      listeners := controller.listeners + 1 }.scheduleTimer

def destroy (controller : BackpressureController) : BackpressureController :=
  let controller := { controller with destroyed := true }
  let controller :=
    match controller.pendingResolve with
    | none => controller
    | some promise => { controller with pendingResolve := none }.resolve promise
  controller.clearTimer.removeListener

-- A listener added with `once` is taken off before it is called.
def drain (controller : BackpressureController) : BackpressureController :=
  Nat.repeat (fun called => checkAndResolve highWaterMark buffered called.removeListener)
    controller.listeners controller

def pollTimer (controller : BackpressureController) : BackpressureController :=
  if controller.timer then checkAndResolve highWaterMark buffered controller.clearTimer
  else controller

-- Each look at the socket finds some bytes buffered, or nothing it can read.
inductive Event where
  | waitForDrain (buffered : Option Nat)
  | drain (buffered : Option Nat)
  | pollTimer (buffered : Option Nat)
  | destroy
deriving DecidableEq

def step (controller : BackpressureController) : Event → BackpressureController
  | .waitForDrain buffered => controller.waitForDrain highWaterMark buffered
  | .drain buffered => controller.drain highWaterMark buffered
  | .pollTimer buffered => controller.pollTimer highWaterMark buffered
  | .destroy => controller.destroy

end Events

-- What a drain event or the poll timer reads, where it reaches the controller.
def observed (controller : BackpressureController) : Event → Option (Option Nat)
  | .drain buffered => if 0 < controller.listeners then some buffered else none
  | .pollTimer buffered => if controller.timer then some buffered else none
  | .waitForDrain _ | .destroy => none

-- In every state: a poll timer while a waiter is pending, no promise resolved
-- twice, and nothing left after `destroy`.
structure Sound (controller : BackpressureController) : Prop where
  scheduled : controller.pendingResolve ≠ none → controller.timer = true
  once : controller.resolutions.Nodup
  cleared : controller.destroyed = true →
    controller.pendingResolve = none ∧ controller.timer = false ∧ controller.listeners = 0

-- A check that finds the buffer empty, or cannot read it, resolves the waiter.
def Releases (highWaterMark : Int) (controller : BackpressureController) (event : Event) : Prop :=
  ∀ promise, controller.pendingResolve = some promise →
    controller.observed event = some (some 0) ∨ controller.observed event = some none →
      promise ∈ (controller.step highWaterMark event).resolutions

-- The check does not find an empty buffer under a mark whose quarter is nothing.
def positiveQuarter (highWaterMark : Int) (controller : BackpressureController) (event : Event) :
    Prop :=
  controller.pendingResolve ≠ none → controller.observed event = some (some 0) → 4 ≤ highWaterMark

section Steps

variable {highWaterMark : Int} {controller : BackpressureController}

-- What every step keeps: timer and listener go with the waiter, and a promise
-- that waits has not been resolved.
structure Kept (controller : BackpressureController) : Prop where
  timer : controller.timer = controller.pendingResolve.isSome
  listeners : controller.listeners ≤ controller.pendingResolve.toList.length
  made : ∀ promise ∈ controller.pendingResolve.toList ++ controller.resolutions,
    promise < controller.promises
  once : (controller.pendingResolve.toList ++ controller.resolutions).Nodup
  closed : controller.destroyed = true → controller.pendingResolve = none

theorem kept_create : Kept createBackpressureController where
  timer := rfl
  listeners := Nat.le_refl 0
  made := fun _ hmem => absurd hmem List.not_mem_nil
  once := List.nodup_nil
  closed := fun _ => rfl

theorem Kept.sound (h : Kept controller) : Sound controller where
  scheduled hpending := by
    rw [h.timer]
    exact Option.isSome_iff_ne_none.mpr hpending
  once := (List.nodup_append.mp h.once).2.1
  cleared hdestroyed := by
    have hnone := h.closed hdestroyed
    have htimer := h.timer
    have hlisteners := h.listeners
    rw [hnone] at htimer hlisteners
    exact ⟨hnone, htimer, Nat.le_zero.mp hlisteners⟩

variable {promise : Nat}

-- The waiter is released in the same way whatever the rest looks like by then.
theorem Kept.release (h : Kept controller) (hpending : controller.pendingResolve = some promise)
    (destroyed timer : Bool) {listeners : Nat} (hlisteners : listeners ≤ 1) :
    Kept ({ controller with destroyed, timer, listeners }.release promise) := by
  obtain ⟨_, _, hmade, honce, _⟩ := h
  rw [hpending] at hmade honce
  have hresolved : (controller.resolutions ++ [promise]).Nodup :=
    List.perm_append_comm.nodup_iff.mp honce
  refine ⟨rfl, ?_, ?_, hresolved, fun _ => rfl⟩
  · show listeners - 1 ≤ 0
    omega
  · intro other hmem
    exact hmade other (List.perm_append_comm.mem_iff.mp hmem)

theorem Kept.checkAndResolve (h : Kept controller)
    (hpending : controller.pendingResolve = some promise) (buffered : Option Nat) (timer : Bool)
    {listeners : Nat} (hlisteners : listeners ≤ 1) :
    Kept ({ controller with timer, listeners }.checkAndResolve highWaterMark buffered) := by
  unfold BackpressureController.checkAndResolve
  dsimp only
  rw [hpending]
  dsimp only
  split
  · rw [← hpending]
    exact h.release hpending controller.destroyed timer hlisteners
  · obtain ⟨_, _, hmade, honce, hclosed⟩ := h
    rw [hpending] at hmade honce hclosed
    exact ⟨rfl, hlisteners, hmade, honce, hclosed⟩

theorem Kept.pending_of_listener (h : Kept controller) (hlisteners : 0 < controller.listeners) :
    ∃ promise, controller.pendingResolve = some promise ∧ controller.listeners = 1 := by
  have hle := h.listeners
  cases hpending : controller.pendingResolve with
  | none =>
    rw [hpending] at hle
    exact absurd hlisteners (Nat.not_lt.mpr hle)
  | some promise =>
    rw [hpending] at hle
    exact ⟨promise, rfl, Nat.le_antisymm hle hlisteners⟩

theorem Kept.pending_of_timer (h : Kept controller) (htimer : controller.timer = true) :
    ∃ promise, controller.pendingResolve = some promise := by
  rw [h.timer] at htimer
  exact Option.isSome_iff_exists.mp htimer

theorem Kept.drain_eq (h : Kept controller) (buffered : Option Nat) :
    controller.drain highWaterMark buffered =
      if 0 < controller.listeners then
        { controller with listeners := 0 }.checkAndResolve highWaterMark buffered
      else controller := by
  unfold BackpressureController.drain
  by_cases hlisteners : 0 < controller.listeners
  · obtain ⟨_, _, hone⟩ := h.pending_of_listener hlisteners
    rw [if_pos hlisteners, hone]
    simp only [Nat.repeat, removeListener, hone]
  · have hzero : controller.listeners = 0 := by omega
    rw [if_neg hlisteners, hzero]
    rfl

theorem Kept.drain (h : Kept controller) (buffered : Option Nat) :
    Kept (controller.drain highWaterMark buffered) := by
  rw [h.drain_eq]
  split
  · rename_i hlisteners
    obtain ⟨promise, hpending, _⟩ := h.pending_of_listener hlisteners
    exact h.checkAndResolve hpending buffered controller.timer (Nat.zero_le 1)
  · exact h

theorem Kept.pollTimer (h : Kept controller) (buffered : Option Nat) :
    Kept (controller.pollTimer highWaterMark buffered) := by
  unfold BackpressureController.pollTimer
  split
  · rename_i htimer
    obtain ⟨promise, hpending⟩ := h.pending_of_timer htimer
    have hlisteners := h.listeners
    rw [hpending] at hlisteners
    exact h.checkAndResolve hpending buffered false hlisteners
  · exact h

theorem Kept.destroy (h : Kept controller) : Kept controller.destroy := by
  have hlisteners := h.listeners
  unfold BackpressureController.destroy
  dsimp only
  cases hpending : controller.pendingResolve with
  | none =>
    obtain ⟨_, _, hmade, honce, _⟩ := h
    rw [hpending] at hlisteners hmade honce
    refine ⟨rfl, ?_, hmade, honce, fun _ => rfl⟩
    exact Nat.le_trans (Nat.sub_le _ 1) hlisteners
  | some promise =>
    rw [hpending] at hlisteners
    have hreleased := h.release hpending true controller.timer hlisteners
    rwa [hpending] at hreleased

theorem Kept.not_mem_new (h : Kept controller) :
    controller.promises ∉ controller.pendingResolve.toList ++ controller.resolutions :=
  fun hmem => Nat.lt_irrefl _ (h.made _ hmem)

-- A new promise that is resolved at once.
theorem Kept.resolve_new (h : Kept controller) :
    Kept ({ controller with promises := controller.promises + 1 }.resolve controller.promises) := by
  have hnew := h.not_mem_new
  obtain ⟨htimer, hlisteners, hmade, honce, hclosed⟩ := h
  refine ⟨htimer, hlisteners, ?_, ?_, hclosed⟩
  · intro promise hmem
    change promise ∈ controller.pendingResolve.toList ++
      (controller.resolutions ++ [controller.promises]) at hmem
    show promise < controller.promises + 1
    rw [← List.append_assoc] at hmem
    rcases List.mem_append.mp hmem with hearlier | hlast
    · have hlt := hmade promise hearlier
      omega
    · rw [List.mem_singleton.mp hlast]
      omega
  · show (controller.pendingResolve.toList ++
      (controller.resolutions ++ [controller.promises])).Nodup
    rw [← List.append_assoc]
    exact List.nodup_append.mpr ⟨honce, List.pairwise_singleton _ _, fun promise hmem other hother =>
      fun heq => hnew (List.mem_singleton.mp hother ▸ heq ▸ hmem)⟩

-- A new promise that has to wait, with no other one waiting.
theorem Kept.enter (h : Kept controller) (hpending : controller.pendingResolve = none)
    (hopen : controller.destroyed = false) :
    Kept { controller with
      promises := controller.promises + 1
      pendingResolve := some controller.promises
      listeners := controller.listeners + 1
      timer := true } := by
  have hnew := h.not_mem_new
  obtain ⟨_, hlisteners, hmade, honce, _⟩ := h
  rw [hpending] at hlisteners hmade honce hnew
  refine ⟨rfl, ?_, ?_, List.nodup_cons.mpr ⟨hnew, honce⟩, ?_⟩
  · exact Nat.succ_le_succ hlisteners
  · intro promise hmem
    show promise < controller.promises + 1
    rcases List.mem_cons.mp hmem with rfl | hearlier
    · exact Nat.lt_succ_self _
    · exact Nat.lt_succ_of_lt (hmade promise hearlier)
  · intro hdestroyed
    exact absurd (hopen.symm.trans hdestroyed) Bool.false_ne_true

-- An earlier waiter is released before the new one is entered.
theorem Kept.waitForDrain (h : Kept controller) (buffered : Option Nat) :
    Kept (controller.waitForDrain highWaterMark buffered) := by
  unfold BackpressureController.waitForDrain
  dsimp only
  by_cases hdestroyed : controller.destroyed = true
  · rw [if_pos hdestroyed]
    exact h.resolve_new
  rw [if_neg hdestroyed]
  split
  · exact h.resolve_new
  · have hopen : controller.destroyed = false := Bool.eq_false_iff.mpr hdestroyed
    cases hpending : controller.pendingResolve with
    | none =>
      exact h.enter hpending hopen
    | some previous =>
      have hlisteners := h.listeners
      rw [hpending] at hlisteners
      have hreleased := h.release hpending controller.destroyed controller.timer hlisteners
      exact hreleased.enter rfl hopen

theorem Kept.step (h : Kept controller) (event : Event) :
    Kept (controller.step highWaterMark event) := by
  cases event with
  | waitForDrain buffered => exact h.waitForDrain buffered
  | drain buffered => exact h.drain buffered
  | pollTimer buffered => exact h.pollTimer buffered
  | destroy => exact h.destroy

-- The lowest mark under which an empty buffer is under a quarter of it.
theorem resumes_empty_iff (highWaterMark : Int) :
    computeBackpressureAction (some 0) highWaterMark true = .resume ↔ 4 ≤ highWaterMark := by
  unfold computeBackpressureAction lowWaterMark lowWaterMarkDivisor
  simp only [Bool.not_true, Bool.false_eq_true, false_and, if_false, true_and]
  split
  · refine iff_of_true rfl ?_
    omega
  · refine iff_of_false (fun h => by cases h) ?_
    omega

-- A check of the waiter resolves it exactly when the action says so.
theorem Kept.mem_check_iff (h : Kept controller)
    (hpending : controller.pendingResolve = some promise) (buffered : Option Nat) (timer : Bool)
    (listeners : Nat) :
    promise ∈ ({ controller with timer, listeners }.checkAndResolve highWaterMark
        buffered).resolutions ↔
      computeBackpressureAction buffered highWaterMark true = .resume ∨ buffered = none := by
  have hwaiting : promise ∉ controller.resolutions := by
    have honce := h.once
    rw [hpending] at honce
    exact (List.nodup_cons.mp honce).1
  unfold BackpressureController.checkAndResolve
  dsimp only
  rw [hpending]
  dsimp only
  split
  · rename_i haction
    refine iff_of_true ?_ haction
    exact List.mem_append_right _ (List.mem_singleton_self promise)
  · rename_i haction
    exact iff_of_false hwaiting haction

theorem Kept.mem_step_iff (h : Kept controller)
    (hpending : controller.pendingResolve = some promise) {event : Event} {buffered : Option Nat}
    (hobserved : controller.observed event = some buffered) :
    promise ∈ (controller.step highWaterMark event).resolutions ↔
      computeBackpressureAction buffered highWaterMark true = .resume ∨ buffered = none := by
  cases event with
  | waitForDrain other => cases hobserved
  | destroy => cases hobserved
  | drain other =>
    by_cases hlisteners : 0 < controller.listeners
    · rw [observed, if_pos hlisteners] at hobserved
      rw [← Option.some.inj hobserved, BackpressureController.step, h.drain_eq,
        if_pos hlisteners]
      exact h.mem_check_iff hpending other controller.timer 0
    · rw [observed, if_neg hlisteners] at hobserved
      cases hobserved
  | pollTimer other =>
    by_cases htimer : controller.timer = true
    · rw [observed, if_pos htimer] at hobserved
      rw [← Option.some.inj hobserved, BackpressureController.step,
        BackpressureController.pollTimer, if_pos htimer]
      exact h.mem_check_iff hpending other false controller.listeners
    · rw [observed, if_neg htimer] at hobserved
      cases hobserved

theorem Kept.releases_iff (h : Kept controller) (event : Event) :
    Releases highWaterMark controller event ↔ positiveQuarter highWaterMark controller event := by
  constructor
  · intro hreleases hwaiting hempty
    obtain ⟨promise, hpending⟩ := Option.ne_none_iff_exists'.mp hwaiting
    have hresolved := hreleases promise hpending (.inl hempty)
    rcases (h.mem_step_iff hpending hempty).mp hresolved with hresume | hnone
    · exact (resumes_empty_iff highWaterMark).mp hresume
    · cases hnone
  · intro hquarter promise hpending hobserved
    have hwaiting : controller.pendingResolve ≠ none := by
      rw [hpending]
      exact Option.some_ne_none promise
    rcases hobserved with hempty | hunreadable
    · have hmark := hquarter hwaiting hempty
      exact (h.mem_step_iff hpending hempty).mpr
        (.inl ((resumes_empty_iff highWaterMark).mpr hmark))
    · exact (h.mem_step_iff hpending hunreadable).mpr (.inr rfl)

end Steps

-- In every run the states are sound, and the checks release a waiter as they
-- should exactly when none of them finds an empty buffer under a mark below 4.
theorem releases_along_iff (highWaterMark : Int) (events : List Event) :
    (Run.Throughout (step highWaterMark) Sound createBackpressureController events ∧
        Run.Along (step highWaterMark) (Releases highWaterMark) createBackpressureController
          events) ↔
      Run.Along (step highWaterMark) (positiveQuarter highWaterMark) createBackpressureController
        events := by
  have hsound : Run.Throughout (step highWaterMark) Sound createBackpressureController events := by
    rw [Run.throughout_iff]
    intro before _
    have hkept : Kept (Run.run (step highWaterMark) createBackpressureController before) :=
      Run.invariant_of_step kept_create (fun _ event h => Kept.step h event) before
    exact hkept.sound
  rw [and_iff_right hsound]
  exact @Run.along_congr _ _ (step highWaterMark) Kept _ _ (fun _ event h => h.step event)
    (fun _ event h => h.releases_iff event) _ kept_create events

-- Under a mark of 1 a waiter is left waiting on a buffer that is empty.
theorem empty_buffer_waits :
    ¬Run.Along (step 1) (Releases 1) createBackpressureController
      [.waitForDrain (some 5), .pollTimer (some 0)] := by
  intro h
  have hreleased := h.2.1 0 rfl (.inl rfl)
  exact absurd hreleased (by decide)

end BackpressureController

end WebSsh2.Socket

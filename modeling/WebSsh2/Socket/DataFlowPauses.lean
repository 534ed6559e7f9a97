import WebSsh2.Socket.DataFlow

namespace WebSsh2.Socket.DataFlow

open WebSsh2.Library WebSsh2.Library.Run

def ratePaused (flow : DataFlow) : Bool :=
  flow.rateLimitState.any (·.paused)

-- What can wake a callback up now.
def Pending (flow : DataFlow) : FlowEvent → Prop
  | .resumeTimer index _ => index < flow.resumeTimers.length
  | .drain _ => flow.drainListener = true
  | .checkTimer _ => flow.backpressure.checkTimer = true
  | _ => False

-- The stream flows while nothing wants it paused, and what wants it paused waits
-- for something that can bring the end of it.
structure PausesCompose (config : FlowConfig) (flow : DataFlow) : Prop where
  flows : flow.flowing = true ↔ flow.ratePaused = false ∧ flow.backpressure.paused = false
  rate : flow.ratePaused = true →
    ∃ event, Pending flow event ∧ (step config flow event).ratePaused = false
  backpressure : flow.backpressure.paused = true →
    ∃ event, Pending flow event ∧ (step config flow event).backpressure.paused = false

def OpenPausesCompose (config : FlowConfig) (flow : DataFlow) : Prop :=
  flow.closed = false → PausesCompose config flow

-- What the callbacks look at relieves the backpressure.
def Relieved (config : FlowConfig) (flow : DataFlow) (buffered : Option Nat) : Prop :=
  flow.backpressure.paused = true ∧
    ∃ bytes ∈ buffered, (bytes : Int) < lowWaterMark config.highWaterMark

-- The chunk is emitted and leaves as much in the buffer as the high-water mark.
def FillsBuffer (config : FlowConfig) (flow : DataFlow) (chunk : Chunk) (now : Int)
    (buffered : Option Nat) : Prop :=
  flow.backpressure.paused = false ∧
    (∀ rate ∈ flow.rateLimitState, ¬ exceeds config rate chunk now) ∧
    ∃ bytes ∈ buffered, config.highWaterMark ≤ (bytes : Int)

-- No relief while the rate limit holds, and no backpressure under a high-water
-- mark of which the buffer cannot fall below a fourth.
def KeepsPauses (config : FlowConfig) (flow : DataFlow) : FlowEvent → Prop
  | .data chunk now buffered =>
    FillsBuffer config flow chunk now buffered → 0 < lowWaterMark config.highWaterMark
  | .drain buffered | .checkTimer buffered =>
    Relieved config flow buffered → flow.ratePaused = false
  | _ => True

def OpenKeepsPauses (config : FlowConfig) (flow : DataFlow) (event : FlowEvent) : Prop :=
  flow.closed = false → KeepsPauses config flow event

-- What waits for an event, in every state of every run.
structure Scheduled (flow : DataFlow) : Prop where
  listener : flow.closed = false → flow.drainListener = flow.backpressure.paused
  timer : flow.closed = false → flow.backpressure.checkTimer = flow.backpressure.paused
  resume : flow.ratePaused = true → flow.resumeTimers ≠ []

section Callbacks

variable {config : FlowConfig}

variable {flow : DataFlow} {buffered : Option Nat}

theorem checkResume_of_relieved (h : Relieved config flow buffered) :
    checkResume config buffered flow =
      { flow with
        backpressure := { paused := false, checkTimer := false }
        drainListener := false
        flowing := true } := by
  obtain ⟨hpaused, bytes, hbytes, hlow⟩ := h
  obtain rfl : buffered = some bytes := hbytes
  simp [checkResume, computeBackpressureAction, hpaused, hlow, clearResumeSchedule]

theorem checkResume_of_not_relieved (h : ¬ Relieved config flow buffered)
    (hpaused : flow.backpressure.paused = true) :
    checkResume config buffered flow =
      { flow with
        backpressure := { paused := true, checkTimer := true }
        drainListener := true } := by
  have haction : computeBackpressureAction buffered config.highWaterMark true ≠ .resume := by
    intro haction
    apply h
    cases buffered with
    | none => cases haction
    | some bytes =>
      refine ⟨hpaused, bytes, rfl, ?_⟩
      by_contra hlow
      simp [computeBackpressureAction, hlow] at haction
  unfold checkResume
  rw [hpaused]
  split
  · rename_i hresume
    exact absurd hresume haction
  · simp [scheduleResumeCheck, clearResumeSchedule, hpaused]

theorem emit_of_fills {bytes : Nat} (chunk : Chunk) (hpaused : flow.backpressure.paused = false)
    (hfull : config.highWaterMark ≤ (bytes : Int)) :
    emit config chunk (some bytes) flow =
      { flow with
        backpressure := { paused := true, checkTimer := true }
        drainListener := true
        flowing := false
        emitted := flow.emitted ++ [chunk] } := by
  simp [emit, checkBackpressure, computeBackpressureAction, hpaused, hfull, scheduleResumeCheck,
    clearResumeSchedule]

theorem emit_of_not_fills (chunk : Chunk)
    (h : ¬ (flow.backpressure.paused = false ∧ ∃ bytes ∈ buffered, config.highWaterMark ≤ (bytes : Int))) :
    emit config chunk buffered flow = { flow with emitted := flow.emitted ++ [chunk] } := by
  unfold emit checkBackpressure
  dsimp only
  by_cases hpaused : flow.backpressure.paused = true
  · rw [if_pos hpaused]
  · rw [if_neg hpaused]
    rw [Bool.not_eq_true] at hpaused
    have haction : computeBackpressureAction buffered config.highWaterMark false ≠ .pause := by
      intro haction
      apply h
      cases buffered with
      | none => cases haction
      | some bytes =>
        refine ⟨hpaused, bytes, rfl, ?_⟩
        by_contra hfull
        simp [computeBackpressureAction, hfull] at haction
    rw [hpaused]
    split
    · rename_i hpause
      exact absurd hpause haction
    · rfl

theorem currentWindow_paused (rate : RateLimitState) (now : Int) :
    (currentWindow rate now).paused = rate.paused := by
  unfold currentWindow
  split <;> rfl

theorem step_data_of_exceeds {rate : RateLimitState} {chunk : Chunk} {now : Int}
    (hrate : flow.rateLimitState = some rate) (h : exceeds config rate chunk now)
    (buffered : Option Nat) :
    step config flow (.data chunk now buffered) =
      { flow with
        chunks := flow.chunks ++ [chunk]
        rateLimitState := some { currentWindow rate now with paused := true }
        flowing := if rate.paused then flow.flowing else false
        resumeTimers := flow.resumeTimers ++ [1000 - (now - rate.windowStart)] } := by
  simp [step, onData, hrate, h, currentWindow_paused]

-- A chunk within the budget is emitted, and the limit stays as it was but for the count.
theorem step_data_of_fits {chunk : Chunk} {now : Int}
    (h : ∀ rate ∈ flow.rateLimitState, ¬ exceeds config rate chunk now) (buffered : Option Nat) :
    ∃ counted : DataFlow, counted.ratePaused = flow.ratePaused ∧
      counted.backpressure = flow.backpressure ∧ counted.flowing = flow.flowing ∧
      counted.closed = flow.closed ∧ counted.drainListener = flow.drainListener ∧
      counted.resumeTimers = flow.resumeTimers ∧
      step config flow (.data chunk now buffered) = emit config chunk buffered counted := by
  cases hrate : flow.rateLimitState with
  | none =>
    refine ⟨{ flow with chunks := flow.chunks ++ [chunk] }, rfl, rfl, rfl, rfl, rfl, rfl, ?_⟩
    simp [step, onData, hrate]
  | some rate =>
    have hfits := h rate hrate
    refine ⟨{ flow with
      chunks := flow.chunks ++ [chunk]
      rateLimitState := some { currentWindow rate now with
        bytesInWindow := (currentWindow rate now).bytesInWindow + chunk.length } },
      ?_, rfl, rfl, rfl, rfl, rfl, ?_⟩
    · simp [ratePaused, hrate, currentWindow_paused]
    · simp [step, onData, hrate, hfits]

theorem onResumeTimer_ratePaused (now : Int) (flow : DataFlow) :
    (onResumeTimer now flow).ratePaused = false := by
  unfold onResumeTimer ratePaused
  split
  · rename_i hrate
    rw [hrate]
    rfl
  · rfl

theorem onResumeTimer_backpressure (now : Int) (flow : DataFlow) :
    (onResumeTimer now flow).backpressure = flow.backpressure ∧
      (onResumeTimer now flow).drainListener = flow.drainListener ∧
      (onResumeTimer now flow).closed = flow.closed := by
  unfold onResumeTimer
  split <;> exact ⟨rfl, rfl, rfl⟩

end Callbacks

section Invariant

variable {config : FlowConfig}

theorem scheduled_setup (config : FlowConfig) (start : Int) :
    Scheduled (setupShellDataFlow config start) where
  listener _ := rfl
  timer _ := rfl
  resume h := by
    unfold ratePaused setupShellDataFlow at h
    dsimp only at h
    split at h <;> cases h

variable {flow : DataFlow}

theorem scheduled_checkResume (buffered : Option Nat)
    (h : flow.ratePaused = true → flow.resumeTimers ≠ [])
    (hpaused : flow.closed = false → flow.backpressure.paused = true) :
    Scheduled (checkResume config buffered flow) := by
  by_cases hclosed : flow.closed = false
  · by_cases hrelieved : Relieved config flow buffered
    · rw [checkResume_of_relieved hrelieved]
      exact ⟨fun _ => rfl, fun _ => rfl, h⟩
    · rw [checkResume_of_not_relieved hrelieved (hpaused hclosed)]
      exact ⟨fun _ => rfl, fun _ => rfl, h⟩
  · obtain ⟨hrate, htimers, hstays, _⟩ := @checkResume_frame config buffered flow
    refine ⟨fun hopen => ?_, fun hopen => ?_, ?_⟩
    · exact absurd (hstays ▸ hopen) hclosed
    · exact absurd (hstays ▸ hopen) hclosed
    · unfold ratePaused at h ⊢
      rw [hrate, htimers]
      exact h

theorem scheduled_emit (chunk : Chunk) (buffered : Option Nat) (h : Scheduled flow) :
    Scheduled (emit config chunk buffered flow) := by
  by_cases hfills : flow.backpressure.paused = false ∧
      ∃ bytes ∈ buffered, config.highWaterMark ≤ (bytes : Int)
  · obtain ⟨hpaused, bytes, hbytes, hfull⟩ := hfills
    obtain rfl : buffered = some bytes := hbytes
    rw [emit_of_fills chunk hpaused hfull]
    exact ⟨fun _ => rfl, fun _ => rfl, h.resume⟩
  · rw [emit_of_not_fills chunk hfills]
    exact ⟨h.listener, h.timer, h.resume⟩

theorem scheduled_step (flow : DataFlow) (event : FlowEvent) (h : Scheduled flow) :
    Scheduled (step config flow event) := by
  cases event with
  | data chunk now buffered =>
    by_cases hfits : ∀ rate ∈ flow.rateLimitState, ¬ exceeds config rate chunk now
    · obtain ⟨counted, hrate, hback, hflowing, hclosed, hlistener, htimers, heq⟩ :=
        step_data_of_fits hfits buffered
      rw [heq]
      apply scheduled_emit
      refine ⟨?_, ?_, ?_⟩
      · rw [hclosed, hlistener, hback]
        exact h.listener
      · rw [hclosed, hback]
        exact h.timer
      · rw [hrate, htimers]
        exact h.resume
    · push Not at hfits
      obtain ⟨rate, hrate, hexceeds⟩ := hfits
      rw [step_data_of_exceeds hrate hexceeds]
      exact ⟨h.listener, h.timer, fun _ => by simp⟩
  | resumeTimer index now =>
    by_cases hindex : index < flow.resumeTimers.length
    · rw [step, if_pos hindex]
      obtain ⟨hback, hlistener, hclosed⟩ := onResumeTimer_backpressure now
        { flow with resumeTimers := flow.resumeTimers.eraseIdx index }
      refine ⟨?_, ?_, fun hpaused => ?_⟩
      · rw [hclosed, hlistener, hback]
        exact h.listener
      · rw [hclosed, hback]
        exact h.timer
      · rw [onResumeTimer_ratePaused] at hpaused
        cases hpaused
    · rw [step, if_neg hindex]
      exact h
  | drain buffered =>
    by_cases hlistener : flow.drainListener = true
    · rw [step, if_pos hlistener]
      refine scheduled_checkResume buffered h.resume fun hopen => ?_
      rw [← h.listener hopen]
      exact hlistener
    · rw [step, if_neg hlistener]
      exact h
  | checkTimer buffered =>
    by_cases htimer : flow.backpressure.checkTimer = true
    · rw [step, if_pos htimer]
      refine scheduled_checkResume buffered h.resume fun hopen => ?_
      exact (h.timer hopen).symm.trans htimer
    · rw [step, if_neg htimer]
      exact h
  | close =>
    refine ⟨fun hopen => ?_, fun hopen => ?_, fun hpaused => ?_⟩
    · cases hopen
    · cases hopen
    · cases hpaused

-- Relief of the backpressure is possible where the buffer can fall low enough for it.
theorem pausesCompose_iff {flow : DataFlow} (h : Scheduled flow) (hopen : flow.closed = false) :
    PausesCompose config flow ↔
      (flow.flowing = true ↔ flow.ratePaused = false ∧ flow.backpressure.paused = false) ∧
        (flow.backpressure.paused = true → 0 < lowWaterMark config.highWaterMark) := by
  constructor
  · intro hcompose
    refine ⟨hcompose.flows, fun hpaused => ?_⟩
    obtain ⟨event, hpending, hcleared⟩ := hcompose.backpressure hpaused
    by_contra hlow
    have hnever : ∀ (state : DataFlow) buffered, ¬ Relieved config state buffered := by
      rintro state buffered ⟨_, bytes, _, hbytes⟩
      omega
    cases event with
    | data chunk now buffered => exact hpending
    | resumeTimer index now =>
      have hindex : index < flow.resumeTimers.length := hpending
      rw [step, if_pos hindex, (onResumeTimer_backpressure _ _).1] at hcleared
      rw [hpaused] at hcleared
      cases hcleared
    | drain buffered =>
      have hlistener : flow.drainListener = true := hpending
      rw [step, if_pos hlistener,
        checkResume_of_not_relieved (hnever _ _) (by exact hpaused)] at hcleared
      cases hcleared
    | checkTimer buffered =>
      have htimer : flow.backpressure.checkTimer = true := hpending
      rw [step, if_pos htimer,
        checkResume_of_not_relieved (hnever _ _) (by exact hpaused)] at hcleared
      cases hcleared
    | close => exact hpending
  · rintro ⟨hflows, hlow⟩
    refine ⟨hflows, fun hpaused => ?_, fun hpaused => ?_⟩
    · have hpending : 0 < flow.resumeTimers.length := List.length_pos_of_ne_nil (h.resume hpaused)
      refine ⟨.resumeTimer 0 0, hpending, ?_⟩
      rw [step, if_pos hpending, onResumeTimer_ratePaused]
    · have htimer : flow.backpressure.checkTimer = true := (h.timer hopen).trans hpaused
      refine ⟨.checkTimer (some 0), htimer, ?_⟩
      rw [step, if_pos htimer, checkResume_of_relieved]
      exact ⟨hpaused, 0, rfl, hlow hpaused⟩

-- The form in which a step keeps it.
def Balanced (config : FlowConfig) (flow : DataFlow) : Prop :=
  (flow.flowing = true ↔ flow.ratePaused = false ∧ flow.backpressure.paused = false) ∧
    (flow.backpressure.paused = true → 0 < lowWaterMark config.highWaterMark)

theorem balanced_data_iff (h : Balanced config flow) (chunk : Chunk) (now : Int)
    (buffered : Option Nat) :
    Balanced config (step config flow (.data chunk now buffered)) ↔
      KeepsPauses config flow (.data chunk now buffered) := by
  obtain ⟨hflows, hlow⟩ := h
  by_cases hfits : ∀ rate ∈ flow.rateLimitState, ¬ exceeds config rate chunk now
  · obtain ⟨counted, hrate, hback, hflowing, _, _, _, heq⟩ := step_data_of_fits hfits buffered
    rw [heq]
    by_cases hfills : flow.backpressure.paused = false ∧
        ∃ bytes ∈ buffered, config.highWaterMark ≤ (bytes : Int)
    · have hpaused := hfills.1
      obtain ⟨bytes, hbytes, hfull⟩ := hfills.2
      obtain rfl : buffered = some bytes := hbytes
      rw [emit_of_fills chunk (by rw [hback]; exact hpaused) hfull]
      have hbuffer : FillsBuffer config flow chunk now (some bytes) :=
        ⟨hpaused, hfits, bytes, rfl, hfull⟩
      simp [Balanced, KeepsPauses, hbuffer]
    · have hbuffer : ¬ FillsBuffer config flow chunk now buffered :=
        fun hbuffer => hfills ⟨hbuffer.1, hbuffer.2.2⟩
      rw [emit_of_not_fills chunk (by rw [hback]; exact hfills)]
      refine iff_of_true ⟨?_, ?_⟩ fun hfull => absurd hfull hbuffer
      · show counted.flowing = true ↔
          counted.ratePaused = false ∧ counted.backpressure.paused = false
        rw [hflowing, hrate, hback]
        exact hflows
      · show counted.backpressure.paused = true → _
        rw [hback]
        exact hlow
  · have hbuffer : ¬ FillsBuffer config flow chunk now buffered := fun hbuffer => hfits hbuffer.2.1
    push Not at hfits
    obtain ⟨rate, hmem, hexceeds⟩ := hfits
    have hrate : flow.rateLimitState = some rate := hmem
    rw [step_data_of_exceeds hrate hexceeds]
    refine iff_of_true ⟨?_, hlow⟩ fun hfull => absurd hfull hbuffer
    by_cases hpaused : rate.paused = true
    · have hstill : flow.ratePaused = true := by simp [ratePaused, hrate, hpaused]
      rw [hstill] at hflows
      simpa [ratePaused, hpaused] using hflows
    · simp [ratePaused, hpaused]

theorem balanced_onResumeTimer (h : Balanced config flow) (now : Int) :
    Balanced config (onResumeTimer now flow) := by
  obtain ⟨hflows, hlow⟩ := h
  refine ⟨?_, ?_⟩
  · rw [onResumeTimer_ratePaused, (onResumeTimer_backpressure now flow).1]
    cases hrate : flow.rateLimitState with
    | none =>
      have hfree : flow.ratePaused = false := by simp [ratePaused, hrate]
      simpa [onResumeTimer, hrate, hfree] using hflows
    | some rate =>
      by_cases hpaused : flow.backpressure.paused = true
      · simpa [onResumeTimer, hrate, hpaused] using hflows
      · simp [onResumeTimer, hrate, hpaused]
  · rw [(onResumeTimer_backpressure now flow).1]
    exact hlow

theorem balanced_checkResume_iff {buffered : Option Nat} (h : Balanced config flow)
    (hpaused : flow.backpressure.paused = true) :
    Balanced config (checkResume config buffered flow) ↔
      (Relieved config flow buffered → flow.ratePaused = false) := by
  obtain ⟨hflows, hlow⟩ := h
  by_cases hrelieved : Relieved config flow buffered
  · rw [checkResume_of_relieved hrelieved]
    simp [Balanced, hrelieved, ratePaused]
  · rw [checkResume_of_not_relieved hrelieved hpaused]
    refine iff_of_true ⟨?_, fun _ => hlow hpaused⟩ fun hrelief => absurd hrelief hrelieved
    rw [hpaused] at hflows
    exact hflows

theorem emit_closed (flow : DataFlow) (chunk : Chunk) (buffered : Option Nat) :
    (emit config chunk buffered flow).closed = flow.closed := by
  by_cases hfills : flow.backpressure.paused = false ∧
      ∃ bytes ∈ buffered, config.highWaterMark ≤ (bytes : Int)
  · obtain ⟨hpaused, bytes, hbytes, hfull⟩ := hfills
    obtain rfl : buffered = some bytes := hbytes
    rw [emit_of_fills chunk hpaused hfull]
  · rw [emit_of_not_fills chunk hfills]

theorem step_closed {flow : DataFlow} {event : FlowEvent} :
    (step config flow event).closed = true ↔ flow.closed = true ∨ event = .close := by
  cases event with
  | data chunk now buffered =>
    by_cases hfits : ∀ rate ∈ flow.rateLimitState, ¬ exceeds config rate chunk now
    · obtain ⟨counted, _, _, _, hclosed, _, _, heq⟩ := step_data_of_fits hfits buffered
      rw [heq, emit_closed, hclosed]
      simp
    · push Not at hfits
      obtain ⟨rate, hrate, hexceeds⟩ := hfits
      rw [step_data_of_exceeds hrate hexceeds]
      simp
  | resumeTimer index now =>
    by_cases hindex : index < flow.resumeTimers.length
    · simp [step, hindex, onResumeTimer_backpressure]
    · simp [step, hindex]
  | drain buffered =>
    by_cases hlistener : flow.drainListener = true
    · simp [step, hlistener, checkResume_frame]
    · simp [step, hlistener]
  | checkTimer buffered =>
    by_cases htimer : flow.backpressure.checkTimer = true
    · simp [step, htimer, checkResume_frame]
    · simp [step, htimer]
  | close => simp [step, onClose]

theorem balanced_step_iff (hscheduled : Scheduled flow) (hopen : flow.closed = false)
    (h : Balanced config flow) (event : FlowEvent) (hclose : event ≠ .close) :
    Balanced config (step config flow event) ↔ KeepsPauses config flow event := by
  cases event with
  | data chunk now buffered => exact balanced_data_iff h chunk now buffered
  | resumeTimer index now =>
    refine iff_of_true ?_ trivial
    by_cases hindex : index < flow.resumeTimers.length
    · rw [step, if_pos hindex]
      refine balanced_onResumeTimer ?_ now
      exact h
    · rw [step, if_neg hindex]
      exact h
  | drain buffered =>
    by_cases hlistener : flow.drainListener = true
    · rw [step, if_pos hlistener]
      exact balanced_checkResume_iff h ((hscheduled.listener hopen).symm.trans hlistener)
    · rw [step, if_neg hlistener]
      refine iff_of_true h fun hrelieved => ?_
      exact absurd ((hscheduled.listener hopen).trans hrelieved.1) hlistener
  | checkTimer buffered =>
    by_cases htimer : flow.backpressure.checkTimer = true
    · rw [step, if_pos htimer]
      exact balanced_checkResume_iff h ((hscheduled.timer hopen).symm.trans htimer)
    · rw [step, if_neg htimer]
      refine iff_of_true h fun hrelieved => ?_
      exact absurd ((hscheduled.timer hopen).trans hrelieved.1) htimer
  | close => exact absurd rfl hclose

theorem openPausesCompose_step_iff (flow : DataFlow) (event : FlowEvent)
    (hscheduled : Scheduled flow) (h : OpenPausesCompose config flow) :
    OpenPausesCompose config (step config flow event) ↔ OpenKeepsPauses config flow event := by
  have hclosed := @step_closed config flow event
  by_cases hopen : flow.closed = false
  · by_cases hclose : event = .close
    · subst hclose
      exact iff_of_true (fun hnext => by cases hnext) fun _ => trivial
    · have hnext : (step config flow event).closed = false := by
        rw [← Bool.not_eq_true, hclosed, hopen]
        simp [hclose]
      have hbalanced := (pausesCompose_iff hscheduled hopen).mp (h hopen)
      have hstep := balanced_step_iff hscheduled hopen hbalanced event hclose
      have hafter := @pausesCompose_iff config _ (scheduled_step flow event hscheduled) hnext
      simp only [OpenPausesCompose, OpenKeepsPauses, hopen, hnext, forall_const]
      exact hafter.trans hstep
  · rw [Bool.not_eq_false] at hopen
    have hnext : (step config flow event).closed = true := hclosed.mpr (.inl hopen)
    simp [OpenPausesCompose, OpenKeepsPauses, hopen, hnext]

-- While the stream is open the two reasons to pause compose in every state of a run
-- exactly when the backpressure is never relieved under the rate limit, and never
-- set in where it could not be relieved.
theorem pauses_compose_throughout_iff (config : FlowConfig) (start : Int)
    (events : List FlowEvent) :
    Throughout (step config) (OpenPausesCompose config) (setupShellDataFlow config start) events ↔
      Along (step config) (OpenKeepsPauses config) (setupShellDataFlow config start) events := by
  refine throughout_iff_along scheduled_step openPausesCompose_step_iff
    (scheduled_setup config start) ?_ events
  intro hopen
  refine (pausesCompose_iff (scheduled_setup config start) hopen).mpr ⟨?_, fun h => by cases h⟩
  have hfree : (setupShellDataFlow config start).ratePaused = false := by
    unfold ratePaused setupShellDataFlow
    dsimp only
    split <;> rfl
  exact iff_of_true rfl ⟨hfree, rfl⟩

-- A limit of four bytes in a second, and a high-water mark of two bytes.
def slow : FlowConfig := { outputRateLimitBytesPerSec := some 4, socketHighWaterMark := some 8 }

def narrow : FlowConfig := { outputRateLimitBytesPerSec := none, socketHighWaterMark := some 2 }

-- A chunk is over the budget while the socket is full; when the socket has drained,
-- the stream flows again under the rate limit. And with the narrow mark a stream that
-- was paused waits for less than no bytes in the buffer.
theorem pauses_do_not_compose :
    ¬ Throughout (step slow) (OpenPausesCompose slow) (setupShellDataFlow slow 0)
        [.data [97, 98] 10 (some 9), .data [99, 100, 101] 20 (some 9), .drain (some 0)] ∧
      ¬ Throughout (step narrow) (OpenPausesCompose narrow) (setupShellDataFlow narrow 0)
        [.data [97, 98] 10 (some 5)] := by
  constructor
  · intro hrun
    have hflows := (throughout_last _ hrun rfl).flows
    revert hflows
    decide
  · intro hrun
    have hscheduled : Scheduled
        (step narrow (setupShellDataFlow narrow 0) (.data [97, 98] 10 (some 5))) :=
      scheduled_step _ _ (scheduled_setup narrow 0)
    have hlow := ((pausesCompose_iff hscheduled rfl).mp (throughout_last _ hrun rfl)).2 rfl
    revert hlow
    decide

end Invariant

end WebSsh2.Socket.DataFlow

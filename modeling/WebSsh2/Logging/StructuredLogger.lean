import WebSsh2.Library.Run
import WebSsh2.Logging.Formatter

namespace WebSsh2.Logging.Structured

open WebSsh2.Library

section Logger

-- `stringify` is `JSON.stringify`, which throws on data that has no text.
structure LoggerSetup extends StructuredLoggerOptions where
  stringify : LogFields → Except JsString JsString

-- What the transport says to a payload. A full queue has an error of a class of its own.
inductive PublishAnswer where
  | accepted
  | queueFull (error : JsString)
  | failed (error : JsString)
deriving DecidableEq

-- An entry with what the clock, the random numbers and the transport say; an invalid date
-- is `none`.
structure LogCall where
  entry : StructuredLogInput
  now : Option Int
  random : ℚ
  answer : PublishAnswer

structure StructuredLogger where
  controlsConfig : Option LoggingControlsConfig
  controlState : LoggingControlState := {}
  queueDropCount : Nat := 0
  lastPublishError : Option JsString := none

structure StructuredLoggerMetrics where
  published : Nat
  droppedBySampling : Nat
  droppedByRateLimit : Nat
  droppedByQueue : Nat
  lastError : Option JsString

structure PreparedLogEntry where
  skip : Bool
  payload : Option JsString := none
  state : LoggingControlState

-- What comes back from `log`, and the payload that the transport was given, if any.
structure LogAttempt where
  result : Except JsString Unit
  published : Option JsString := none

variable (setup : LoggerSetup)

def createStructuredLogger : StructuredLogger where
  controlsConfig := setup.controls

def prepareLogEntry (controls : Option LoggingControlsConfig) (state : LoggingControlState)
    (call : LogCall) : Except JsString PreparedLogEntry :=
  match call.now with
  | none => .error (js "Clock produced invalid date")
  | some now =>
    match evaluateLoggingControls call.entry.event now controls state call.random with
    | (false, state) => .ok { skip := true, state }
    | (true, state) =>
      match formatStructuredLog setup.toStructuredLoggerOptions call.entry now with
      | .error error => .error error
      | .ok record =>
        match setup.stringify record with
        | .error error => .error error
        | .ok payload => .ok { skip := false, payload := some payload, state }

def rollbackPublished (state : LoggingControlState) : LoggingControlState :=
  { state with metrics := { state.metrics with
      published := if 0 < state.metrics.published then state.metrics.published - 1 else 0 } }

def publish (logger : StructuredLogger) (payload : JsString) :
    PublishAnswer → StructuredLogger × LogAttempt
  | .accepted =>
    ({ logger with lastPublishError := none }, { result := .ok (), published := some payload })
  | .queueFull error =>
    ({ logger with
        queueDropCount := logger.queueDropCount + 1
        controlState := rollbackPublished logger.controlState
        lastPublishError := some error },
      { result := .ok (), published := some payload })
  | .failed error =>
    ({ logger with lastPublishError := some error },
      { result := .error error, published := some payload })

def log (logger : StructuredLogger) (call : LogCall) : StructuredLogger × LogAttempt :=
  if shouldLog call.entry.level setup.minimumLevel = false then
    (logger, { result := .ok () })
  else
    match prepareLogEntry setup logger.controlsConfig logger.controlState call with
    | .error error => (logger, { result := .error error })
    | .ok prepared =>
      let updated := { logger with controlState := prepared.state }
      match prepared.skip, prepared.payload with
      | false, some payload => publish updated payload call.answer
      | _, _ => (updated, { result := .ok () })

def updateControls (logger : StructuredLogger) (config : Option LoggingControlsConfig) :
    StructuredLogger :=
  { logger with controlsConfig := config, controlState := {} }

def snapshotMetrics (logger : StructuredLogger) : StructuredLoggerMetrics where
  published := logger.controlState.metrics.published
  droppedBySampling := logger.controlState.metrics.droppedBySampling
  droppedByRateLimit := logger.controlState.metrics.droppedByRateLimit
  droppedByQueue := logger.queueDropCount
  lastError := logger.lastPublishError

end Logger

section Tally

-- `flush` asks the transport alone.
inductive LoggerEvent where
  | log (call : LogCall)
  | flush (answer : Except JsString Unit)
  | updateControls (config : Option LoggingControlsConfig)

-- What somebody counts who sees the entries, the answers and the results.
structure Tally where
  entries : Nat := 0
  accepted : Nat := 0
  errors : Nat := 0

def isError : Except JsString Unit → Bool
  | .ok _ => false
  | .error _ => true

def Tally.count (tally : Tally) (minimum : LogLevel) (call : LogCall) (attempt : LogAttempt) :
    Tally where
  entries := tally.entries + if shouldLog call.entry.level minimum = true then 1 else 0
  accepted := tally.accepted +
    if attempt.published.isSome = true ∧ call.answer = .accepted then 1 else 0
  errors := tally.errors + if isError attempt.result = true then 1 else 0

structure Monitored where
  logger : StructuredLogger
  tally : Tally := {}

-- The counting begins anew with each change of the controls.
def step (setup : LoggerSetup) (state : Monitored) : LoggerEvent → Monitored
  | .log call =>
    let (logger, attempt) := log setup state.logger call
    { logger, tally := state.tally.count setup.minimumLevel call attempt }
  | .flush _ => state
  | .updateControls config => { logger := updateControls state.logger config }

def initial (setup : LoggerSetup) : Monitored where
  logger := createStructuredLogger setup

structure Accounts (state : Monitored) : Prop where
  published : (snapshotMetrics state.logger).published = state.tally.accepted
  entries : (snapshotMetrics state.logger).published +
    (snapshotMetrics state.logger).droppedBySampling +
    (snapshotMetrics state.logger).droppedByRateLimit +
    (snapshotMetrics state.logger).droppedByQueue + state.tally.errors = state.tally.entries

-- The entry comes as far as the transport.
def ReachesTransport (setup : LoggerSetup) (logger : StructuredLogger) (call : LogCall) : Prop :=
  shouldLog call.entry.level setup.minimumLevel = true ∧
    ∃ payload state, prepareLogEntry setup logger.controlsConfig logger.controlState call =
      .ok { skip := false, payload := some payload, state }

-- No answer of the transport is an error but that of a full queue, and the controls are not
-- changed once an entry was lost to a full queue.
def KeepsAccounts (setup : LoggerSetup) (state : Monitored) : LoggerEvent → Prop
  | .log call => ReachesTransport setup state.logger call → ∀ error, call.answer ≠ .failed error
  | .flush _ => True
  | .updateControls _ => state.logger.queueDropCount = 0

end Tally

section Controls

variable {event : LogEventName} {now : Int} {config : Option LoggingControlsConfig}
  {state after : LoggingControlState} {random : ℚ}

theorem metrics_of_allowed
    (h : evaluateLoggingControls event now config state random = (true, after)) :
    after.metrics = { state.metrics with published := state.metrics.published + 1 } := by
  unfold evaluateLoggingControls at h
  dsimp only at h
  split at h
  · rw [← (Prod.mk.inj h).2]
  · split at h
    · split at h
      · rw [← (Prod.mk.inj h).2]
      · cases (Prod.mk.inj h).1
    · cases (Prod.mk.inj h).1

-- One of the two counters of what is dropped goes up.
theorem metrics_of_dropped
    (h : evaluateLoggingControls event now config state random = (false, after)) :
    after.metrics.published = state.metrics.published ∧
      after.metrics.droppedBySampling + after.metrics.droppedByRateLimit =
        state.metrics.droppedBySampling + state.metrics.droppedByRateLimit + 1 := by
  unfold evaluateLoggingControls at h
  dsimp only at h
  split at h
  · cases (Prod.mk.inj h).1
  · split at h
    · split at h
      · cases (Prod.mk.inj h).1
      · rw [← (Prod.mk.inj h).2]
        exact ⟨rfl, by dsimp only; omega⟩
    · rw [← (Prod.mk.inj h).2]
      exact ⟨rfl, by dsimp only; omega⟩

end Controls

section Steps

variable {setup : LoggerSetup} {logger : StructuredLogger} {call : LogCall}

theorem prepareLogEntry_ok {prepared : PreparedLogEntry}
    (h : prepareLogEntry setup logger.controlsConfig logger.controlState call = .ok prepared) :
    (prepared.skip = true ∧
      prepared.state.metrics.published = logger.controlState.metrics.published ∧
      prepared.state.metrics.droppedBySampling + prepared.state.metrics.droppedByRateLimit =
        logger.controlState.metrics.droppedBySampling +
          logger.controlState.metrics.droppedByRateLimit + 1) ∨
    ∃ payload, prepared.skip = false ∧ prepared.payload = some payload ∧
      prepared.state.metrics = { logger.controlState.metrics with
        published := logger.controlState.metrics.published + 1 } := by
  unfold prepareLogEntry at h
  split at h
  · cases h
  · split at h
    · next after hdropped =>
        rw [← Except.ok.inj h]
        exact .inl ⟨rfl, metrics_of_dropped hdropped⟩
    · next after hallowed =>
        split at h
        · cases h
        · split at h
          · cases h
          · next payload _ =>
              rw [← Except.ok.inj h]
              exact .inr ⟨payload, rfl, rfl, metrics_of_allowed hallowed⟩

-- What may become of an entry, with what the logger counts of it.
theorem log_cases (setup : LoggerSetup) (logger : StructuredLogger) (call : LogCall) :
    (shouldLog call.entry.level setup.minimumLevel = false ∧
      log setup logger call = (logger, { result := .ok () })) ∨
    (shouldLog call.entry.level setup.minimumLevel = true ∧
      ((∃ error, ¬ ReachesTransport setup logger call ∧
          log setup logger call = (logger, { result := .error error })) ∨
        (∃ state : LoggingControlState, ¬ ReachesTransport setup logger call ∧
          state.metrics.published = logger.controlState.metrics.published ∧
          state.metrics.droppedBySampling + state.metrics.droppedByRateLimit =
            logger.controlState.metrics.droppedBySampling +
              logger.controlState.metrics.droppedByRateLimit + 1 ∧
          log setup logger call =
            ({ logger with controlState := state }, { result := .ok () })) ∨
        (∃ (state : LoggingControlState) (payload : JsString),
          ReachesTransport setup logger call ∧
          state.metrics = { logger.controlState.metrics with
            published := logger.controlState.metrics.published + 1 } ∧
          log setup logger call =
            publish { logger with controlState := state } payload call.answer))) := by
  unfold log
  by_cases hlevel : shouldLog call.entry.level setup.minimumLevel = false
  · rw [if_pos hlevel]
    exact .inl ⟨hlevel, rfl⟩
  · rw [if_neg hlevel]
    refine .inr ⟨eq_true_of_ne_false hlevel, ?_⟩
    cases hprepared : prepareLogEntry setup logger.controlsConfig logger.controlState call with
    | error error =>
      refine .inl ⟨error, ?_, rfl⟩
      rintro ⟨_, payload, state, hok⟩
      rw [hprepared] at hok
      cases hok
    | ok prepared =>
      rcases prepared with ⟨skip, payload, state⟩
      rcases prepareLogEntry_ok hprepared with ⟨hskip, hpublished, hdropped⟩ |
        ⟨text, hskip, hpayload, hmetrics⟩
      · dsimp only at hskip
        refine .inr (.inl ⟨state, ?_, hpublished, hdropped, by rw [hskip]⟩)
        rintro ⟨_, payload, other, hok⟩
        rw [hprepared, hskip] at hok
        cases hok
      · dsimp only at hskip hpayload
        subst hskip hpayload
        exact .inr (.inr ⟨state, text, ⟨eq_true_of_ne_false hlevel, text, state, hprepared⟩,
          hmetrics, rfl⟩)

end Steps

section Accounting

variable {setup : LoggerSetup} {state : Monitored}

theorem accounts_log (call : LogCall) (h : Accounts state) :
    Accounts (step setup state (.log call)) ↔
      (ReachesTransport setup state.logger call → ∀ error, call.answer ≠ .failed error) := by
  obtain ⟨hpublished, hentries⟩ := h
  unfold snapshotMetrics at hpublished hentries
  dsimp only at hpublished hentries
  unfold step
  dsimp only
  rcases log_cases setup state.logger call with ⟨hlevel, hlog⟩ | ⟨hlevel, ⟨error, hnot, hlog⟩ |
    ⟨after, hnot, hafter, hdropped, hlog⟩ | ⟨after, payload, hreaches, hafter, hlog⟩⟩
  · have hnot : ¬ ReachesTransport setup state.logger call := by
      intro hreaches
      rw [hreaches.1] at hlevel
      cases hlevel
    rw [hlog]
    refine iff_of_true ⟨?_, ?_⟩ fun hreaches => absurd hreaches hnot
    · simp [Tally.count, snapshotMetrics, hpublished]
    · simp [Tally.count, snapshotMetrics, isError, hlevel, hentries]
  · rw [hlog]
    refine iff_of_true ⟨?_, ?_⟩ fun hreaches => absurd hreaches hnot
    · simp [Tally.count, snapshotMetrics, hpublished]
    · simp only [Tally.count, snapshotMetrics, isError, hlevel, if_pos]
      omega
  · rw [hlog]
    refine iff_of_true ⟨?_, ?_⟩ fun hreaches => absurd hreaches hnot
    · simp [Tally.count, snapshotMetrics, hafter, hpublished]
    · simp only [Tally.count, snapshotMetrics, isError, hlevel, hafter, if_pos,
        Bool.false_eq_true, if_false]
      omega
  · rw [hlog]
    cases hanswer : call.answer with
    | accepted =>
      refine iff_of_true ⟨?_, ?_⟩ fun _ => nofun
      · simp [Tally.count, snapshotMetrics, publish, hanswer, hafter, hpublished]
      · simp only [Tally.count, snapshotMetrics, publish, isError, hlevel, hafter, if_pos,
          Bool.false_eq_true, if_false]
        omega
    | queueFull error =>
      refine iff_of_true ⟨?_, ?_⟩ fun _ => nofun
      · simp [Tally.count, snapshotMetrics, publish, rollbackPublished, hanswer, hafter,
          hpublished]
      · simp [Tally.count, snapshotMetrics, publish, rollbackPublished, isError, hlevel, hafter]
        omega
    | failed error =>
      refine iff_of_false ?_ fun hkeeps => hkeeps hreaches error rfl
      rintro ⟨hcounted, _⟩
      simp [Tally.count, snapshotMetrics, publish, hanswer, hafter, hpublished] at hcounted

theorem accounts_updateControls (config : Option LoggingControlsConfig) :
    Accounts (step setup state (.updateControls config)) ↔ state.logger.queueDropCount = 0 := by
  unfold step updateControls
  constructor
  · rintro ⟨_, hentries⟩
    simpa [snapshotMetrics] using hentries
  · intro hnone
    exact ⟨rfl, by simp [snapshotMetrics, hnone]⟩

-- A step keeps the accounts exactly where the condition is met.
theorem accounts_step (event : LoggerEvent) (h : Accounts state) :
    Accounts (step setup state event) ↔ KeepsAccounts setup state event := by
  cases event with
  | log call => exact accounts_log call h
  | flush _ => exact iff_of_true h trivial
  | updateControls config => exact accounts_updateControls config

theorem accounts_initial (setup : LoggerSetup) : Accounts (initial setup) :=
  ⟨rfl, rfl⟩

-- The metrics account for every entry in every state of a run exactly when no step of it
-- goes wrong.
theorem accounts_throughout_iff (setup : LoggerSetup) (events : List LoggerEvent) :
    Run.Throughout (step setup) Accounts (initial setup) events ↔
      Run.Along (step setup) (KeepsAccounts setup) (initial setup) events :=
  @Run.throughout_iff_along Monitored LoggerEvent (step setup) (fun _ => True) Accounts
    (KeepsAccounts setup) (fun _ _ _ => trivial) (fun _ event _ h => accounts_step event h)
    (initial setup) trivial (accounts_initial setup) events

end Accounting

section Samples

-- The text of a record of plain texts.
def plainRecordText (record : LogFields) : JsString :=
  let quoted : JsString → JsString := fun text => 34 :: text ++ [34]
  123 :: (js ",").intercalate (record.map fun entry =>
    quoted entry.1 ++ 58 :: (match entry.2 with
      | .string text => quoted text
      | _ => js "null")) ++ [125]

def plainSetup : LoggerSetup where
  isoString _ := js "1970-01-01T00:00:00.000Z"
  stringify record := .ok (plainRecordText record)

def sessionStart (answer : PublishAnswer) : LogCall where
  entry := { level := .info, event := .sessionStart, message := js "start", context := [] }
  now := some 0
  random := 0
  answer

-- An entry that the transport refuses is counted as published, and an entry that was lost to
-- a full queue is still counted after the counting has begun anew.
theorem accounts_not_kept :
    ¬ Accounts (Run.run (step plainSetup) (initial plainSetup)
        [.log (sessionStart (.failed (js "EPIPE")))]) ∧
      ¬ Accounts (Run.run (step plainSetup) (initial plainSetup)
        [.log (sessionStart (.queueFull (js "Stdout transport queue is full"))),
          .updateControls none]) := by
  constructor
  · rintro ⟨hpublished, _⟩
    revert hpublished
    decide
  · rintro ⟨_, hentries⟩
    revert hentries
    decide

end Samples

end WebSsh2.Logging.Structured

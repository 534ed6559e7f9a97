import WebSsh2.Library.OrderedMap
import WebSsh2.Values

namespace WebSsh2.Logging

open WebSsh2.Library

section Events

inductive LogLevel where
  | debug | info | warn | error
deriving DecidableEq

def getLevelPriority : LogLevel → Nat
  | .debug => 10
  | .info => 20
  | .warn => 30
  | .error => 40

def shouldLog (level minimum : LogLevel) : Bool :=
  getLevelPriority minimum ≤ getLevelPriority level

def LogLevel.name : LogLevel → String
  | .debug => "debug"
  | .info => "info"
  | .warn => "warn"
  | .error => "error"

inductive LogEventName where
  | authAttempt | authSuccess | authFailure | connectionFailure
  | sessionInit | sessionStart | sessionEnd | sshCommand | ptyResize | idleTimeout
  | policyBlock | cspViolation | error | credentialReplay
  | sftpList | sftpStat | sftpMkdir | sftpDelete
  | sftpUploadStart | sftpUploadChunk | sftpUploadComplete | sftpUploadCancel
  | sftpDownloadStart | sftpDownloadChunk | sftpDownloadComplete | sftpDownloadCancel
  | promptSent | promptResponse | promptTimeout | promptError
  | themingConfigInvalid | transportConfigInvalid | securityPosture
  | envVarDeprecated | sessionSecretGenerated
deriving DecidableEq

def LogEventName.name : LogEventName → String
  | .authAttempt => "auth_attempt"
  | .authSuccess => "auth_success"
  | .authFailure => "auth_failure"
  | .connectionFailure => "connection_failure"
  | .sessionInit => "session_init"
  | .sessionStart => "session_start"
  | .sessionEnd => "session_end"
  | .sshCommand => "ssh_command"
  | .ptyResize => "pty_resize"
  | .idleTimeout => "idle_timeout"
  | .policyBlock => "policy_block"
  | .cspViolation => "csp_violation"
  | .error => "error"
  | .credentialReplay => "credential_replay"
  | .sftpList => "sftp_list"
  | .sftpStat => "sftp_stat"
  | .sftpMkdir => "sftp_mkdir"
  | .sftpDelete => "sftp_delete"
  | .sftpUploadStart => "sftp_upload_start"
  | .sftpUploadChunk => "sftp_upload_chunk"
  | .sftpUploadComplete => "sftp_upload_complete"
  | .sftpUploadCancel => "sftp_upload_cancel"
  | .sftpDownloadStart => "sftp_download_start"
  | .sftpDownloadChunk => "sftp_download_chunk"
  | .sftpDownloadComplete => "sftp_download_complete"
  | .sftpDownloadCancel => "sftp_download_cancel"
  | .promptSent => "prompt_sent"
  | .promptResponse => "prompt_response"
  | .promptTimeout => "prompt_timeout"
  | .promptError => "prompt_error"
  | .themingConfigInvalid => "theming_config_invalid"
  | .transportConfigInvalid => "transport_config_invalid"
  | .securityPosture => "security_posture"
  | .envVarDeprecated => "env_var_deprecated"
  | .sessionSecretGenerated => "session_secret_generated"

-- What a rule is about: `*`, or one event.
inductive LoggingEventTarget where
  | any
  | event (name : LogEventName)
deriving DecidableEq

end Events

section Rules

structure LoggingSamplingRule where
  target : LoggingEventTarget
  sampleRate : ℚ

structure LoggingSamplingConfig where
  defaultSampleRate : Option ℚ := none
  rules : List LoggingSamplingRule := []

structure LoggingRateLimitRule where
  target : LoggingEventTarget
  limit : Nat
  intervalMs : Nat
  burst : Option Nat := none
  intervalMs_pos : 0 < intervalMs

structure LoggingControlsConfig where
  sampling : Option LoggingSamplingConfig := none
  rateLimit : Option (List LoggingRateLimitRule) := none

-- The first rule for the event itself, else the first one for all events.
def selectRule {ρ : Type} (target : ρ → LoggingEventTarget) (rules : List ρ)
    (event : LogEventName) : Option ρ :=
  (rules.find? fun rule => target rule = .event event).or
    (rules.find? fun rule => target rule = .any)

def selectSamplingRule (rules : List LoggingSamplingRule) (event : LogEventName) :
    Option LoggingSamplingRule :=
  selectRule LoggingSamplingRule.target rules event

def selectRateLimitRule (rules : List LoggingRateLimitRule) (event : LogEventName) :
    Option LoggingRateLimitRule :=
  selectRule LoggingRateLimitRule.target rules event

end Rules

section Evaluation

structure RateLimitBucketState where
  tokens : Int
  lastRefillMs : Int

structure LoggingControlMetrics where
  published : Nat := 0
  droppedBySampling : Nat := 0
  droppedByRateLimit : Nat := 0

structure LoggingControlState where
  rateLimitBuckets : OrderedMap LoggingEventTarget RateLimitBucketState := .empty
  metrics : LoggingControlMetrics := {}

variable (event : LogEventName)

-- `random` is the number that is drawn where the rate leaves the decision open.
def evaluateSampling (config : Option LoggingSamplingConfig) (random : ℚ) : Bool :=
  match config with
  | none => true
  | some config =>
    let rate := (((selectSamplingRule config.rules event).map
      LoggingSamplingRule.sampleRate).or config.defaultSampleRate).getD 1
    if 1 ≤ rate then true
    else if rate ≤ 0 then false
    else decide (random < rate)

def refillBucket (previous : Option RateLimitBucketState) (rule : LoggingRateLimitRule)
    (nowMs : Int) (capacity : Nat) : RateLimitBucketState :=
  match previous with
  | none => { tokens := capacity, lastRefillMs := nowMs }
  | some previous =>
    if nowMs ≤ previous.lastRefillMs then
      previous
    else
      let intervals := (nowMs - previous.lastRefillMs) / rule.intervalMs
      if intervals ≤ 0 then previous
      else {
        tokens := min (previous.tokens + intervals * rule.limit) capacity
        lastRefillMs := previous.lastRefillMs + intervals * rule.intervalMs }

def evaluateRateLimit (nowMs : Int) (config : Option (List LoggingRateLimitRule))
    (buckets : OrderedMap LoggingEventTarget RateLimitBucketState) :
    Bool × OrderedMap LoggingEventTarget RateLimitBucketState :=
  match selectRateLimitRule (config.getD []) event with
  | none => (true, buckets)
  | some rule =>
    let bucketKey := if rule.target = .any then .any else .event event
    let capacity := rule.limit + rule.burst.getD 0
    if capacity = 0 then
      (false, buckets.set bucketKey { tokens := 0, lastRefillMs := nowMs })
    else
      let refilled := refillBucket (buckets.get bucketKey) rule nowMs capacity
      if refilled.tokens ≤ 0 then
        (false, buckets.set bucketKey refilled)
      else
        (true, buckets.set bucketKey { refilled with tokens := refilled.tokens - 1 })

-- Whether an event passes, and the state to go on with.
def evaluateLoggingControls (nowMs : Int) (config : Option LoggingControlsConfig)
    (state : LoggingControlState) (random : ℚ) : Bool × LoggingControlState :=
  let metrics := state.metrics
  match config with
  | none => (true, { state with metrics := { metrics with published := metrics.published + 1 } })
  | some config =>
    if evaluateSampling event config.sampling random then
      match evaluateRateLimit event nowMs config.rateLimit state.rateLimitBuckets with
      | (true, rateLimitBuckets) => (true, {
          rateLimitBuckets
          metrics := { metrics with published := metrics.published + 1 } })
      | (false, rateLimitBuckets) => (false, {
          rateLimitBuckets
          metrics := { metrics with droppedByRateLimit := metrics.droppedByRateLimit + 1 } })
    else
      (false, { state with
        metrics := { metrics with droppedBySampling := metrics.droppedBySampling + 1 } })

-- Every event that is asked for is counted once.
theorem evaluateLoggingControls_counts (nowMs : Int) (config : Option LoggingControlsConfig)
    (state : LoggingControlState) (random : ℚ) :
    let after := (evaluateLoggingControls event nowMs config state random).2.metrics
    after.published + after.droppedBySampling + after.droppedByRateLimit =
      state.metrics.published + state.metrics.droppedBySampling +
        state.metrics.droppedByRateLimit + 1 := by
  dsimp only
  unfold evaluateLoggingControls
  dsimp only
  split
  · dsimp only
    omega
  · split
    · split
      · dsimp only
        omega
      · dsimp only
        omega
    · dsimp only
      omega

end Evaluation

end WebSsh2.Logging

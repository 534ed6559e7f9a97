import Mathlib.Algebra.Order.Floor.Semifield
import Mathlib.Data.Rat.Floor
import Mathlib.Tactic.Linarith
import WebSsh2.Library.Run
import WebSsh2.Logging.Controls

namespace WebSsh2.Logging

open Library Library.Run

section Calls

structure ControlCall where
  event : LogEventName
  nowMs : Int
  random : ℚ

-- The state that a call gives back as `updatedState`.
def evaluateStep (config : LoggingControlsConfig) (state : LoggingControlState)
    (call : ControlCall) : LoggingControlState :=
  (evaluateLoggingControls call.event call.nowMs (some config) state call.random).2

def LoggingControlsConfig.rateLimitRules (config : LoggingControlsConfig) :
    List LoggingRateLimitRule :=
  config.rateLimit.getD []

def LoggingRateLimitRule.capacity (rule : LoggingRateLimitRule) : Nat :=
  rule.limit + rule.burst.getD 0

def bucketKey (rule : LoggingRateLimitRule) (event : LogEventName) : LoggingEventTarget :=
  if rule.target = .any then .any else .event event

-- The rule that fills the bucket: the first one with its target.
def ruleOf (rules : List LoggingRateLimitRule) (bucket : LoggingEventTarget) :
    Option LoggingRateLimitRule :=
  rules.find? fun rule => rule.target = bucket

-- The bucket an event is charged to, where it has one.
def bucketOf (config : LoggingControlsConfig) (event : LogEventName) :
    Option LoggingEventTarget :=
  (selectRateLimitRule config.rateLimitRules event).map fun rule => bucketKey rule event

-- The times of the calls that the bucket let through, in their order.
def passedAt (config : LoggingControlsConfig) (bucket : LoggingEventTarget) :
    LoggingControlState → List ControlCall → List Int
  | _, [] => []
  | state, call :: rest =>
    if bucketOf config call.event = some bucket ∧
        (evaluateLoggingControls call.event call.nowMs (some config) state call.random).1 = true
    then
      call.nowMs :: passedAt config bucket (evaluateStep config state call) rest
    else
      passedAt config bucket (evaluateStep config state call) rest

end Calls

section Precedence

variable {ρ : Type} (target : ρ → LoggingEventTarget)

-- A rule for the event itself is taken wherever it stands among the rules.
theorem selectRule_exact {rules : List ρ} {event : LogEventName}
    (h : ∃ rule ∈ rules, target rule = .event event) :
    ∃ rule, selectRule target rules event = some rule ∧ target rule = .event event := by
  obtain ⟨exact, hmem, htarget⟩ := h
  have hfound : (rules.find? fun rule => target rule = .event event).isSome := by
    rw [List.find?_isSome]
    exact ⟨exact, hmem, by simpa using htarget⟩
  obtain ⟨rule, hrule⟩ := Option.isSome_iff_exists.mp hfound
  refine ⟨rule, ?_, by simpa using List.find?_some hrule⟩
  rw [selectRule, hrule, Option.some_or]

end Precedence

section OneBucket

theorem ruleOf_of_selected {rules : List LoggingRateLimitRule} {event : LogEventName}
    {rule : LoggingRateLimitRule} (h : selectRateLimitRule rules event = some rule) :
    ruleOf rules (bucketKey rule event) = some rule := by
  rw [selectRateLimitRule, selectRule, Option.or_eq_some_iff] at h
  obtain hexact | ⟨-, hany⟩ := h
  · have htarget : rule.target = .event event := by simpa using List.find?_some hexact
    rw [bucketKey, htarget, if_neg (by simp)]
    exact hexact
  · have htarget : rule.target = .any := by simpa using List.find?_some hany
    rw [bucketKey, htarget, if_pos rfl]
    exact hany

-- One charge: whether the event passes, and the bucket after it.
def charge (rule : LoggingRateLimitRule) (previous : Option RateLimitBucketState)
    (nowMs : Int) : Bool × RateLimitBucketState :=
  if rule.capacity = 0 then
    (false, { tokens := 0, lastRefillMs := nowMs })
  else
    let refilled := refillBucket previous rule nowMs rule.capacity
    if refilled.tokens ≤ 0 then (false, refilled)
    else (true, { refilled with tokens := refilled.tokens - 1 })

theorem evaluateRateLimit_charge {config : LoggingControlsConfig} {event : LogEventName}
    {rule : LoggingRateLimitRule}
    (h : selectRateLimitRule config.rateLimitRules event = some rule) (nowMs : Int)
    (buckets : OrderedMap LoggingEventTarget RateLimitBucketState) :
    let charged := charge rule (buckets.get (bucketKey rule event)) nowMs
    evaluateRateLimit event nowMs config.rateLimit buckets =
      (charged.1, buckets.set (bucketKey rule event) charged.2) := by
  rw [LoggingControlsConfig.rateLimitRules] at h
  dsimp only
  by_cases hcapacity : rule.capacity = 0
  · have hzero : rule.limit + rule.burst.getD 0 = 0 := hcapacity
    rw [charge, if_pos hcapacity]
    simp only [evaluateRateLimit, h, if_pos hzero]
    rfl
  · have hsome : ¬rule.limit + rule.burst.getD 0 = 0 := hcapacity
    rw [charge, if_neg hcapacity]
    simp only [evaluateRateLimit, h, if_neg hsome]
    by_cases hempty : (refillBucket (buckets.get (bucketKey rule event)) rule nowMs
        rule.capacity).tokens ≤ 0
    · rw [if_pos hempty]
      exact if_pos hempty
    · rw [if_neg hempty]
      exact if_neg hempty

-- What a call does: it leaves the buckets, or charges the bucket of its event.
theorem evaluate_cases (config : LoggingControlsConfig) (state : LoggingControlState)
    (call : ControlCall) :
    ((evaluateStep config state call).rateLimitBuckets = state.rateLimitBuckets ∧
      ∀ bucket, bucketOf config call.event = some bucket →
        (evaluateLoggingControls call.event call.nowMs (some config) state call.random).1 =
          false) ∨
    ∃ bucket rule, bucketOf config call.event = some bucket ∧
      ruleOf config.rateLimitRules bucket = some rule ∧
      (evaluateLoggingControls call.event call.nowMs (some config) state call.random).1 =
        (charge rule (state.rateLimitBuckets.get bucket) call.nowMs).1 ∧
      (evaluateStep config state call).rateLimitBuckets = state.rateLimitBuckets.set bucket
        (charge rule (state.rateLimitBuckets.get bucket) call.nowMs).2 := by
  unfold evaluateStep evaluateLoggingControls
  dsimp only
  by_cases hsampled : evaluateSampling call.event config.sampling call.random = true
  · rw [if_pos hsampled]
    cases hrule : selectRateLimitRule config.rateLimitRules call.event with
    | none =>
      left
      have hpass : evaluateRateLimit call.event call.nowMs config.rateLimit
          state.rateLimitBuckets = (true, state.rateLimitBuckets) := by
        rw [LoggingControlsConfig.rateLimitRules] at hrule
        simp only [evaluateRateLimit, hrule]
      rw [hpass]
      refine ⟨rfl, fun bucket hbucket => ?_⟩
      simp [bucketOf, hrule] at hbucket
    | some rule =>
      right
      refine ⟨bucketKey rule call.event, rule, by rw [bucketOf, hrule]; rfl,
        ruleOf_of_selected hrule, ?_⟩
      have hcharge := evaluateRateLimit_charge hrule call.nowMs state.rateLimitBuckets
      dsimp only at hcharge
      rw [hcharge]
      cases (charge rule (state.rateLimitBuckets.get (bucketKey rule call.event))
        call.nowMs).1 with
      | true => exact ⟨rfl, rfl⟩
      | false => exact ⟨rfl, rfl⟩
  · left
    rw [if_neg hsampled]
    exact ⟨rfl, fun _ _ => rfl⟩

end OneBucket

section Tokens

-- What a bucket can still pay for up to the time `finish`.
def RateLimitBucketState.worth (bucket : RateLimitBucketState) (rule : LoggingRateLimitRule)
    (finish : Int) : Int :=
  bucket.tokens + rule.limit * ((finish - bucket.lastRefillMs) / rule.intervalMs)

theorem worth_nonneg {bucket : RateLimitBucketState} {rule : LoggingRateLimitRule} {finish : Int}
    (htokens : 0 ≤ bucket.tokens) (hpast : bucket.lastRefillMs ≤ finish) :
    0 ≤ bucket.worth rule finish := by
  have hpos : (0 : Int) < rule.intervalMs := by exact_mod_cast rule.intervalMs_pos
  have hspan : 0 ≤ (finish - bucket.lastRefillMs) / rule.intervalMs :=
    Int.ediv_nonneg (by omega) hpos.le
  exact add_nonneg htokens (mul_nonneg (Int.natCast_nonneg _) hspan)

def paid (passed : Bool) : Int :=
  if passed then 1 else 0

-- A refill moves whole intervals from the time to come into the tokens.
theorem refillBucket_cases (previous : RateLimitBucketState) (rule : LoggingRateLimitRule)
    (nowMs : Int) (capacity : Nat) :
    refillBucket (some previous) rule nowMs capacity = previous ∧
        nowMs < previous.lastRefillMs + rule.intervalMs ∨
      ∃ intervals : Int, 0 < intervals ∧
        intervals = (nowMs - previous.lastRefillMs) / rule.intervalMs ∧
        refillBucket (some previous) rule nowMs capacity = {
          tokens := min (previous.tokens + intervals * rule.limit) capacity
          lastRefillMs := previous.lastRefillMs + intervals * rule.intervalMs } := by
  have hpos : (0 : Int) < rule.intervalMs := by exact_mod_cast rule.intervalMs_pos
  simp only [refillBucket]
  by_cases hback : nowMs ≤ previous.lastRefillMs
  · rw [if_pos hback]
    exact .inl ⟨rfl, by omega⟩
  · rw [if_neg hback]
    by_cases hnone : (nowMs - previous.lastRefillMs) / rule.intervalMs ≤ 0
    · rw [if_pos hnone]
      refine .inl ⟨rfl, ?_⟩
      have hshort : nowMs - previous.lastRefillMs < rule.intervalMs := by
        have := Int.lt_ediv_add_one_mul_self (nowMs - previous.lastRefillMs) hpos
        nlinarith
      omega
    · rw [if_neg hnone]
      exact .inr ⟨_, by omega, rfl, rfl⟩

theorem refillBucket_worth_le (previous : RateLimitBucketState) (rule : LoggingRateLimitRule)
    (nowMs finish : Int) (capacity : Nat) :
    (refillBucket (some previous) rule nowMs capacity).worth rule finish ≤
      previous.worth rule finish := by
  have hpos : (0 : Int) < rule.intervalMs := by exact_mod_cast rule.intervalMs_pos
  obtain ⟨hsame, -⟩ | ⟨intervals, -, -, hrefill⟩ :=
    refillBucket_cases previous rule nowMs capacity
  · rw [hsame]
  · rw [hrefill]
    simp only [RateLimitBucketState.worth]
    have hshift : (finish - (previous.lastRefillMs + intervals * rule.intervalMs)) /
        rule.intervalMs = (finish - previous.lastRefillMs) / rule.intervalMs - intervals := by
      rw [← Int.sub_sub, Int.sub_mul_ediv_right _ _ hpos.ne']
    rw [hshift, mul_sub]
    have hmin := min_le_left (previous.tokens + intervals * rule.limit) (capacity : Int)
    linarith [mul_comm intervals (rule.limit : Int)]

variable {previous : Option RateLimitBucketState}

theorem refillBucket_tokens (rule : LoggingRateLimitRule) (nowMs : Int) {capacity : Nat}
    (h : ∀ bucket, previous = some bucket → 0 ≤ bucket.tokens ∧ bucket.tokens ≤ capacity) :
    0 ≤ (refillBucket previous rule nowMs capacity).tokens ∧
      (refillBucket previous rule nowMs capacity).tokens ≤ capacity := by
  cases previous with
  | none => exact ⟨Int.natCast_nonneg _, le_rfl⟩
  | some bucket =>
    obtain ⟨hnonneg, hle⟩ := h bucket rfl
    obtain ⟨hsame, -⟩ | ⟨intervals, hpositive, -, hrefill⟩ :=
      refillBucket_cases bucket rule nowMs capacity
    · rw [hsame]
      exact ⟨hnonneg, hle⟩
    · rw [hrefill]
      refine ⟨le_min ?_ (Int.natCast_nonneg _), min_le_right _ _⟩
      have : 0 ≤ intervals * rule.limit :=
        mul_nonneg hpositive.le (Int.natCast_nonneg _)
      omega

-- The refill leaves less than an interval since the last one.
theorem refillBucket_lastRefill (rule : LoggingRateLimitRule) (nowMs : Int) (capacity : Nat)
    (h : ∀ bucket, previous = some bucket → bucket.lastRefillMs ≤ nowMs) :
    (refillBucket previous rule nowMs capacity).lastRefillMs ≤ nowMs ∧
      nowMs < (refillBucket previous rule nowMs capacity).lastRefillMs + rule.intervalMs := by
  have hpos : (0 : Int) < rule.intervalMs := by exact_mod_cast rule.intervalMs_pos
  cases previous with
  | none =>
    simp only [refillBucket]
    omega
  | some bucket =>
    have hpast := h bucket rfl
    obtain ⟨hsame, hshort⟩ | ⟨intervals, -, hintervals, hrefill⟩ :=
      refillBucket_cases bucket rule nowMs capacity
    · rw [hsame]
      exact ⟨hpast, hshort⟩
    · rw [hrefill]
      have hlow := Int.ediv_mul_le (nowMs - bucket.lastRefillMs) hpos.ne'
      have hhigh := Int.lt_ediv_add_one_mul_self (nowMs - bucket.lastRefillMs) hpos
      rw [← hintervals] at hlow hhigh
      constructor
      · simp only
        omega
      · simp only
        linarith

theorem charge_tokens (rule : LoggingRateLimitRule) {previous : Option RateLimitBucketState}
    (nowMs : Int)
    (h : ∀ bucket, previous = some bucket → 0 ≤ bucket.tokens ∧ bucket.tokens ≤ rule.capacity) :
    0 ≤ (charge rule previous nowMs).2.tokens ∧
      (charge rule previous nowMs).2.tokens ≤ rule.capacity := by
  obtain ⟨hnonneg, hle⟩ := refillBucket_tokens rule nowMs h
  unfold charge
  dsimp only
  split
  · exact ⟨le_rfl, Int.natCast_nonneg _⟩
  · split
    · exact ⟨hnonneg, hle⟩
    · simp only
      omega

theorem charge_lastRefill (rule : LoggingRateLimitRule)
    {previous : Option RateLimitBucketState} (nowMs : Int)
    (h : ∀ bucket, previous = some bucket → bucket.lastRefillMs ≤ nowMs) :
    (charge rule previous nowMs).2.lastRefillMs ≤ nowMs ∧
      nowMs < (charge rule previous nowMs).2.lastRefillMs + rule.intervalMs := by
  have hpos := rule.intervalMs_pos
  have hrefill := refillBucket_lastRefill rule nowMs rule.capacity h
  unfold charge
  dsimp only
  split
  · simp only
    omega
  · split
    · exact hrefill
    · exact hrefill

-- What passes is paid out of the tokens there are after the refill.
theorem paid_charge_le_capacity (rule : LoggingRateLimitRule) (nowMs : Int)
    (h : ∀ bucket, previous = some bucket → 0 ≤ bucket.tokens ∧ bucket.tokens ≤ rule.capacity) :
    paid (charge rule previous nowMs).1 + (charge rule previous nowMs).2.tokens ≤
      rule.capacity := by
  obtain ⟨-, hle⟩ := refillBucket_tokens rule nowMs h
  unfold charge
  dsimp only
  split
  · simp [paid]
  · split
    · simpa [paid] using hle
    · simpa [paid] using hle

theorem paid_charge_worth_le (rule : LoggingRateLimitRule) {bucket : RateLimitBucketState}
    (hnonneg : 0 ≤ bucket.tokens) (nowMs finish : Int) :
    paid (charge rule (some bucket) nowMs).1 +
        (charge rule (some bucket) nowMs).2.worth rule finish ≤
      bucket.worth rule finish := by
  have hrefill := refillBucket_worth_le bucket rule nowMs finish rule.capacity
  unfold charge
  dsimp only
  split
  · rename_i hcapacity
    have hlimit : rule.limit = 0 := by
      rw [LoggingRateLimitRule.capacity] at hcapacity
      omega
    simpa [paid, RateLimitBucketState.worth, hlimit] using hnonneg
  · split
    · simpa [paid] using hrefill
    · simp only [RateLimitBucketState.worth, paid, if_true] at hrefill ⊢
      omega

end Tokens

theorem ediv_le_ceil {interval span : Nat} (hinterval : 0 < interval) {rest : Int}
    (h : rest < span + interval) :
    rest / interval ≤ (⌈(span : ℚ) / interval⌉₊ : Int) := by
  have hpos : (0 : ℚ) < interval := by exact_mod_cast hinterval
  have hceil : (span : ℚ) ≤ ⌈(span : ℚ) / interval⌉₊ * interval :=
    (div_le_iff₀ hpos).mp (Nat.le_ceil _)
  have hspan : (span : Int) ≤ ⌈(span : ℚ) / interval⌉₊ * interval := by exact_mod_cast hceil
  refine Int.lt_add_one_iff.mp (Int.ediv_lt_of_lt_mul (by exact_mod_cast hinterval) ?_)
  rw [add_mul, one_mul]
  omega

section Spans

variable {config : LoggingControlsConfig} {bucket : LoggingEventTarget}
  {rule : LoggingRateLimitRule}

-- A call seen from one bucket: it stays as it is, or is charged.
theorem bucket_cases (hrule : ruleOf config.rateLimitRules bucket = some rule)
    (state : LoggingControlState) (call : ControlCall) (rest : List ControlCall) :
    ((evaluateStep config state call).rateLimitBuckets.get bucket =
        state.rateLimitBuckets.get bucket ∧
      passedAt config bucket state (call :: rest) =
        passedAt config bucket (evaluateStep config state call) rest) ∨
    ((evaluateStep config state call).rateLimitBuckets.get bucket =
        some (charge rule (state.rateLimitBuckets.get bucket) call.nowMs).2 ∧
      passedAt config bucket state (call :: rest) =
        (if (charge rule (state.rateLimitBuckets.get bucket) call.nowMs).1 then [call.nowMs]
          else []) ++ passedAt config bucket (evaluateStep config state call) rest) := by
  obtain ⟨hbuckets, hno⟩ | ⟨other, rule', hof, hrule', hpass, hset⟩ :=
    evaluate_cases config state call
  · left
    refine ⟨by rw [hbuckets], if_neg ?_⟩
    rintro ⟨hof, hpassed⟩
    rw [hno bucket hof] at hpassed
    cases hpassed
  · by_cases hsame : other = bucket
    · right
      subst hsame
      obtain rfl : rule' = rule := Option.some.inj (hrule'.symm.trans hrule)
      refine ⟨by rw [hset, OrderedMap.get_set_self], ?_⟩
      rw [passedAt, hpass]
      cases (charge rule' (state.rateLimitBuckets.get other) call.nowMs).1 with
      | true => simp [hof]
      | false => simp
    · left
      refine ⟨by rw [hset, OrderedMap.get_set, if_neg hsame], if_neg ?_⟩
      rintro ⟨hof', -⟩
      exact hsame (Option.some.inj (hof.symm.trans hof'))

variable {state : LoggingControlState}

theorem mem_passedAt {time : Int} (calls : List ControlCall)
    (h : time ∈ passedAt config bucket state calls) : time ∈ calls.map ControlCall.nowMs := by
  induction calls generalizing state with
  | nil => simp [passedAt] at h
  | cons call rest ih =>
    rw [List.map_cons, List.mem_cons]
    rw [passedAt] at h
    split at h
    · rw [List.mem_cons] at h
      exact h.imp_right ih
    · exact .inr (ih h)

theorem countP_passedAt_late {finish : Int} (calls : List ControlCall)
    (state : LoggingControlState) (hlate : ∀ time ∈ calls.map ControlCall.nowMs, finish < time) :
    (passedAt config bucket state calls).countP (· ≤ finish) = 0 := by
  rw [List.countP_eq_zero]
  intro time hmem
  have := hlate time (mem_passedAt calls hmem)
  simp only [decide_eq_true_eq]
  omega

-- From a bucket's state on, what it lets through up to `finish` is paid for by
-- what it is worth; later calls do not count.
theorem countP_passedAt_le_worth (hrule : ruleOf config.rateLimitRules bucket = some rule)
    (finish : Int) (calls : List ControlCall)
    (hsorted : (calls.map ControlCall.nowMs).Pairwise (· ≤ ·)) {current : RateLimitBucketState}
    (hget : state.rateLimitBuckets.get bucket = some current)
    (htokens : 0 ≤ current.tokens ∧ current.tokens ≤ rule.capacity)
    (hpast : current.lastRefillMs ≤ finish)
    (hcalls : ∀ call ∈ calls, current.lastRefillMs ≤ call.nowMs) :
    ((passedAt config bucket state calls).countP (· ≤ finish) : Int) ≤
      current.worth rule finish := by
  have hworth : 0 ≤ current.worth rule finish := worth_nonneg htokens.1 hpast
  induction calls generalizing state current with
  | nil => simpa [passedAt] using hworth
  | cons call rest ih =>
    rw [List.map_cons, List.pairwise_cons] at hsorted
    obtain ⟨hfirst, hrest⟩ := hsorted
    by_cases hlate : call.nowMs ≤ finish
    · obtain ⟨hsame, hpassed⟩ | ⟨hcharged, hpassed⟩ := bucket_cases hrule state call rest
      · rw [hpassed]
        exact ih hrest (hsame.trans hget) htokens hpast
          (fun other hmem => hcalls other (List.mem_cons_of_mem _ hmem)) hworth
      · have hprevious : ∀ old, state.rateLimitBuckets.get bucket = some old →
            old = current := fun old hold => Option.some.inj (hold.symm.trans hget)
        have hnext := @charge_tokens rule (state.rateLimitBuckets.get bucket)
          call.nowMs (fun old hold => hprevious old hold ▸ htokens)
        have hrefilled := (@charge_lastRefill rule (state.rateLimitBuckets.get bucket)
          call.nowMs (fun old hold => hprevious old hold ▸ hcalls call List.mem_cons_self)).1
        have hpaid := paid_charge_worth_le rule htokens.1 call.nowMs finish
        rw [← hget] at hpaid
        have hmore := ih hrest hcharged hnext (hrefilled.trans hlate)
          (fun other hmem => hrefilled.trans
            (hfirst other.nowMs (List.mem_map_of_mem hmem)))
          (worth_nonneg hnext.1 (hrefilled.trans hlate))
        rw [hpassed, List.countP_append]
        cases hpasses : (charge rule (state.rateLimitBuckets.get bucket) call.nowMs).1 with
        | true =>
          rw [hpasses] at hpaid
          simp only [paid, if_true, List.countP_cons, List.countP_nil, hlate, decide_true]
            at hpaid ⊢
          push_cast
          omega
        | false =>
          rw [hpasses] at hpaid
          simp only [paid, Bool.false_eq_true, if_false, List.countP_nil] at hpaid ⊢
          push_cast
          omega
    · have hnone : (passedAt config bucket state (call :: rest)).countP (· ≤ finish) = 0 := by
        apply countP_passedAt_late
        intro time htime
        rw [List.map_cons, List.mem_cons] at htime
        rcases htime with rfl | hlater
        · omega
        · have := hfirst time hlater
          omega
      rw [hnone]
      exact hworth

-- What a charged call adds to the count of a span is at most what it paid.
theorem countP_charge_le (rule : LoggingRateLimitRule) (previous : Option RateLimitBucketState)
    (nowMs start finish : Int) :
    ((if (charge rule previous nowMs).1 then [nowMs] else []).countP
        (fun time => start ≤ time ∧ time ≤ finish) : Int) ≤
      paid (charge rule previous nowMs).1 := by
  refine (Int.ofNat_le.mpr List.countP_le_length).trans ?_
  unfold paid
  split
  · simp
  · simp

theorem countP_charge_early (rule : LoggingRateLimitRule)
    (previous : Option RateLimitBucketState) {nowMs start : Int} (finish : Int)
    (hearly : nowMs < start) :
    (if (charge rule previous nowMs).1 then [nowMs] else []).countP
      (fun time => start ≤ time ∧ time ≤ finish) = 0 := by
  rw [List.countP_eq_zero]
  intro time hmem
  have htime : time = nowMs := by
    split at hmem
    · exact List.mem_singleton.mp hmem
    · cases hmem
  simp only [decide_eq_true_eq]
  omega

-- After a charge in the span, its tokens and the intervals that the span still holds
-- pay for what passes.
theorem countP_passedAt_after (hrule : ruleOf config.rateLimitRules bucket = some rule)
    {start nowMs : Int} (span : Nat) (calls : List ControlCall)
    (hsorted : (calls.map ControlCall.nowMs).Pairwise (· ≤ ·))
    (hlater : ∀ time ∈ calls.map ControlCall.nowMs, nowMs ≤ time) (hstart : start ≤ nowMs)
    {current : RateLimitBucketState} (hget : state.rateLimitBuckets.get bucket = some current)
    (htokens : 0 ≤ current.tokens ∧ current.tokens ≤ rule.capacity)
    (hrefilled : current.lastRefillMs ≤ nowMs ∧ nowMs < current.lastRefillMs + rule.intervalMs) :
    ((passedAt config bucket state calls).countP
        (fun time => start ≤ time ∧ time ≤ start + span) : Int) ≤
      current.tokens + rule.limit * ⌈(span : ℚ) / rule.intervalMs⌉₊ := by
  have hmono : (passedAt config bucket state calls).countP
        (fun time => start ≤ time ∧ time ≤ start + span) ≤
      (passedAt config bucket state calls).countP (· ≤ start + span) := by
    apply List.countP_mono_left
    intro time _ htime
    simp only [decide_eq_true_eq] at htime ⊢
    exact htime.2
  by_cases hlate : nowMs ≤ start + span
  · have hworth := countP_passedAt_le_worth hrule (start + span) calls hsorted hget htokens
      (hrefilled.1.trans hlate) (fun call hmem =>
        hrefilled.1.trans (hlater call.nowMs (List.mem_map_of_mem hmem)))
    have hintervals : (start + span - current.lastRefillMs) / (rule.intervalMs : Int) ≤
        (⌈(span : ℚ) / rule.intervalMs⌉₊ : Int) :=
      ediv_le_ceil rule.intervalMs_pos (by omega)
    have hlimit := mul_le_mul_of_nonneg_left hintervals (Int.natCast_nonneg rule.limit)
    rw [RateLimitBucketState.worth] at hworth
    omega
  · have hnone : (passedAt config bucket state calls).countP (· ≤ start + span) = 0 := by
      apply countP_passedAt_late
      intro time htime
      have := hlater time htime
      omega
    have hnonneg : (0 : Int) ≤ rule.limit * ⌈(span : ℚ) / rule.intervalMs⌉₊ :=
      mul_nonneg (Int.natCast_nonneg _) (Int.natCast_nonneg _)
    omega

-- Of the times before `start` nothing is asked; the first charge from then on finds
-- at most the capacity, and less than an interval since the last refill.
theorem countP_passedAt_span (hrule : ruleOf config.rateLimitRules bucket = some rule) (start : Int)
    (span : Nat) (calls : List ControlCall)
    (hsorted : (calls.map ControlCall.nowMs).Pairwise (· ≤ ·))
    (htokens : ∀ current, state.rateLimitBuckets.get bucket = some current → 0 ≤ current.tokens ∧ current.tokens ≤ rule.capacity)
    (hpast : ∀ current, state.rateLimitBuckets.get bucket = some current → ∀ call ∈ calls, current.lastRefillMs ≤ call.nowMs) :
    (passedAt config bucket state calls).countP (fun time => start ≤ time ∧ time ≤ start + span) ≤
      rule.capacity + rule.limit * ⌈(span : ℚ) / rule.intervalMs⌉₊ := by
  induction calls generalizing state with
  | nil => simp [passedAt]
  | cons call rest ih =>
    rw [List.map_cons, List.pairwise_cons] at hsorted
    obtain ⟨hfirst, hrest⟩ := hsorted
    obtain ⟨hsame, hpassed⟩ | ⟨hcharged, hpassed⟩ := bucket_cases hrule state call rest
    · rw [hpassed]
      refine ih hrest (fun current hget => htokens current (hsame ▸ hget)) ?_
      intro current hget other hmem
      exact hpast current (hsame ▸ hget) other (List.mem_cons_of_mem _ hmem)
    · have hnext := charge_tokens rule call.nowMs htokens
      have hrefilled := charge_lastRefill rule call.nowMs
        (fun current hget => hpast current hget call List.mem_cons_self)
      rw [hpassed, List.countP_append]
      by_cases hearly : call.nowMs < start
      · have hafter : ∀ other ∈ rest, (charge rule (state.rateLimitBuckets.get bucket)
            call.nowMs).2.lastRefillMs ≤ other.nowMs := fun other hmem =>
          hrefilled.1.trans (hfirst other.nowMs (List.mem_map_of_mem hmem))
        have hmore := ih hrest
          (fun current hget => Option.some.inj (hcharged.symm.trans hget) ▸ hnext)
          (fun current hget => Option.some.inj (hcharged.symm.trans hget) ▸ hafter)
        rw [countP_charge_early rule _ _ hearly]
        omega
      · have hpaid := paid_charge_le_capacity rule call.nowMs htokens
        have hhead := countP_charge_le rule (state.rateLimitBuckets.get bucket) call.nowMs
          start (start + span)
        have hmore := countP_passedAt_after hrule span rest hrest hfirst
          (Int.not_lt.mp hearly) hcharged hnext hrefilled
        zify
        omega

end Spans

section Controls

-- Every bucket holds a number of tokens that its rule allows.
def BucketsWithin (config : LoggingControlsConfig) (state : LoggingControlState) : Prop :=
  ∀ bucket current, state.rateLimitBuckets.get bucket = some current →
    ∃ rule, ruleOf config.rateLimitRules bucket = some rule ∧
      0 ≤ current.tokens ∧ current.tokens ≤ rule.limit + rule.burst.getD 0

theorem evaluateStep_within {config : LoggingControlsConfig} {state : LoggingControlState}
    (h : BucketsWithin config state) (call : ControlCall) :
    BucketsWithin config (evaluateStep config state call) := by
  obtain ⟨hbuckets, -⟩ | ⟨charged, rule, -, hrule, -, hset⟩ := evaluate_cases config state call
  · intro bucket current hget
    rw [hbuckets] at hget
    exact h bucket current hget
  · intro bucket current hget
    rw [hset, OrderedMap.get_set] at hget
    by_cases hsame : charged = bucket
    · subst hsame
      rw [if_pos rfl] at hget
      obtain rfl := Option.some.inj hget
      refine ⟨rule, hrule, ?_⟩
      refine charge_tokens rule call.nowMs fun old hold => ?_
      obtain ⟨rule', hrule', htokens⟩ := h charged old hold
      obtain rfl : rule' = rule := Option.some.inj (hrule'.symm.trans hrule)
      exact htokens
    · rw [if_neg hsame] at hget
      exact h bucket current hget

theorem evaluateStep_of_sampled_out {config : LoggingControlsConfig}
    {state : LoggingControlState} {call : ControlCall}
    (h : evaluateSampling call.event config.sampling call.random = false) :
    (evaluateStep config state call).rateLimitBuckets = state.rateLimitBuckets := by
  simp only [evaluateStep, evaluateLoggingControls, h, Bool.false_eq_true, if_false]

def LoggingControlMetrics.total (metrics : LoggingControlMetrics) : Nat :=
  metrics.published + metrics.droppedBySampling + metrics.droppedByRateLimit

theorem total_run (config : LoggingControlsConfig) (calls : List ControlCall)
    (state : LoggingControlState) :
    (run (evaluateStep config) state calls).metrics.total = state.metrics.total + calls.length := by
  induction calls generalizing state with
  | nil => rfl
  | cons call rest ih =>
    have hcounted : (evaluateStep config state call).metrics.total =
        state.metrics.total + 1 :=
      evaluateLoggingControls_counts call.event call.nowMs (some config) state call.random
    rw [run_cons, ih, hcounted, List.length_cons]
    omega

-- One configuration over any calls from the empty state: the tokens, what a bucket
-- lets through in a span of time, which rule counts, and what is counted.
theorem evaluateLoggingControls_tokenBucket (config : LoggingControlsConfig)
    (calls : List ControlCall) :
    Throughout (evaluateStep config) (BucketsWithin config) {} calls ∧
    ((calls.map ControlCall.nowMs).Pairwise (· ≤ ·) →
      ∀ bucket rule, ruleOf config.rateLimitRules bucket = some rule →
        ∀ (start : Int) (span : Nat),
          (passedAt config bucket {} calls).countP
              (fun time => start ≤ time ∧ time ≤ start + span) ≤
            rule.limit + rule.burst.getD 0 +
              rule.limit * ⌈(span : ℚ) / rule.intervalMs⌉₊) ∧
    (∀ (rules : List LoggingSamplingRule) (event : LogEventName),
      (∃ rule ∈ rules, rule.target = .event event) →
        ∃ rule, selectSamplingRule rules event = some rule ∧ rule.target = .event event) ∧
    (∀ (rules : List LoggingRateLimitRule) (event : LogEventName),
      (∃ rule ∈ rules, rule.target = .event event) →
        ∃ rule, selectRateLimitRule rules event = some rule ∧ rule.target = .event event) ∧
    Along (evaluateStep config) (fun state call =>
      evaluateSampling call.event config.sampling call.random = false →
        (evaluateStep config state call).rateLimitBuckets = state.rateLimitBuckets) {} calls ∧
    let metrics := (run (evaluateStep config) {} calls).metrics
    metrics.published + metrics.droppedBySampling + metrics.droppedByRateLimit =
      calls.length := by
  refine ⟨?_, ?_, ?_, ?_, ?_, ?_⟩
  · refine throughout_of_step (P := fun _ _ => True) ?_ ?_
      (along_of_forall_mem _ _ _ fun _ _ _ => trivial)
    · intro bucket current hget
      cases hget
    · intro state call h _
      exact evaluateStep_within h call
  · intro hsorted bucket rule hrule start span
    refine countP_passedAt_span hrule start span calls hsorted ?_ ?_
    · intro current hget
      cases hget
    · intro current hget
      cases hget
  · intro rules event h
    exact selectRule_exact LoggingSamplingRule.target h
  · intro rules event h
    exact selectRule_exact LoggingRateLimitRule.target h
  · exact along_of_forall_mem _ _ _ fun _ _ _ h => evaluateStep_of_sampled_out h
  · have htotal := total_run config calls {}
    simpa [LoggingControlMetrics.total] using htotal

end Controls

end WebSsh2.Logging

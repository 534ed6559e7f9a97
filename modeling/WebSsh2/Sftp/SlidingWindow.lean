import WebSsh2.Library.TimedLog
import WebSsh2.Sftp.TransferRate
import Mathlib.Algebra.Order.Group.Int
import Mathlib.Tactic.Linarith
import Mathlib.Tactic.NormNum.Basic

namespace WebSsh2.Sftp

open WebSsh2.Library WebSsh2.State

structure RateLimiterConfig where
  bytesPerSecond : Number
  windowMs : Option Number

namespace RateLimiterConfig

-- `config.windowMs ?? 1000`
def window (config : RateLimiterConfig) : Number :=
  config.windowMs.getD (.finite 1000)

end RateLimiterConfig

namespace RateLimiter

def new (config : RateLimiterConfig) (now : Time) : RateLimiter where
  bytesPerSecond := config.bytesPerSecond
  windowMs := config.window
  bytesInWindow := .ofInt 0
  windowStart := now
  paused := false
  totalBytes := .ofInt 0
  startTime := now

def expired (limiter : RateLimiter) (now : Time) : Bool :=
  limiter.windowMs.le (.ofInt (now - limiter.windowStart))

variable {limiter : RateLimiter}

theorem wouldAllow_of_expired {now : Time} (h : limiter.expired now = true) {bytes : Nat}
    (hbytes : (Number.ofInt bytes).le limiter.bytesPerSecond = true) :
    limiter.wouldAllow bytes now = true := by
  unfold wouldAllow
  unfold expired at h
  rw [if_pos h, hbytes]
  exact ite_self _

-- A refusal inside the window leaves the limiter as it was.
theorem checkAndUpdate_refused {bytes : Nat} {now : Time} (hopen : limiter.expired now = false)
    (h : limiter.wouldAllow bytes now = false) :
    (limiter.checkAndUpdate bytes now).1 = limiter ∧
      (limiter.checkAndUpdate bytes now).2.waitMs =
        Number.max (.ofInt 1) (limiter.windowMs.add (.ofInt (-(now - limiter.windowStart)))) := by
  unfold expired at hopen
  unfold wouldAllow at h
  unfold checkAndUpdate
  by_cases hunlimited : limiter.bytesPerSecond.le (.ofInt 0) = true
  · rw [if_pos hunlimited] at h
    cases h
  · rw [if_neg hunlimited, if_neg (by simp [hopen])] at h
    simp only [hunlimited, hopen, h, if_false, Bool.false_eq_true, and_self]

-- The limiter as a check finds it, a window that is over begun anew.
def renewed (limiter : RateLimiter) (now : Time) : RateLimiter :=
  if limiter.expired now then { limiter with bytesInWindow := .ofInt 0, windowStart := now }
  else limiter

theorem checkAndUpdate_limited (hlimited : limiter.bytesPerSecond.le (.ofInt 0) = false)
    (bytes : Nat) (now : Time) :
    (limiter.checkAndUpdate bytes now).1 =
      if limiter.wouldAllow bytes now then
        { limiter.renewed now with
          bytesInWindow := (limiter.renewed now).bytesInWindow.add (.ofInt bytes)
          totalBytes := limiter.totalBytes.add (.ofInt bytes) }
      else limiter.renewed now := by
  unfold checkAndUpdate wouldAllow renewed expired
  by_cases hexpired : limiter.windowMs.le (.ofInt (now - limiter.windowStart)) = true
  · simp only [hlimited, hexpired, if_true, if_false, Bool.false_eq_true, Number.ofInt_add,
      Int.zero_add]
    cases (Number.ofInt bytes).le limiter.bytesPerSecond <;> rfl
  · simp only [hlimited, hexpired, if_false, Bool.false_eq_true]
    cases (limiter.bytesInWindow.add (.ofInt bytes)).le limiter.bytesPerSecond <;> rfl

theorem finite_le {left right : ℚ} :
    (Number.finite left).le (.finite right) = true ↔ left ≤ right := by
  simp [Number.le, Number.lt]

theorem finite_max_le {left right bound : ℚ} :
    ((Number.finite left).max (.finite right)).le (.finite bound) = true ↔
      left ≤ bound ∧ right ≤ bound := by
  by_cases hlt : left < right
  · simp only [Number.max, Number.lt, hlt, decide_true, if_true, finite_le]
    exact ⟨fun h => ⟨le_trans hlt.le h, h⟩, And.right⟩
  · simp only [Number.max, Number.lt, hlt, decide_false, Bool.false_eq_true, if_false, finite_le]
    exact ⟨fun h => ⟨h, le_trans (not_lt.mp hlt) h⟩, And.left⟩

-- A wait that reaches past the hint reaches past the end of the window.
theorem le_of_hint_le {windowMs : Number} {elapsed waited : Int}
    (h : (Number.max (.ofInt 1) (windowMs.add (.ofInt (-elapsed)))).le (.ofInt waited) = true) :
    windowMs.le (.ofInt (elapsed + waited)) = true := by
  cases windowMs with
  | nan => cases h
  | infinity negative =>
    cases negative with
    | true => rfl
    | false => cases h
  | finite width =>
    have hwaited := (finite_max_le.mp h).2
    simp only [Number.ofInt, finite_le] at hwaited ⊢
    push_cast at hwaited ⊢
    linarith

-- The preview is the answer, and a refused amount that fits into a whole
-- window is let through once the wait that the refusal names is over.
structure HintSound (limiter : RateLimiter) (bytes : Nat) (now : Time) : Prop where
  preview : limiter.wouldAllow bytes now = (limiter.checkAndUpdate bytes now).2.allowed
  retry : (limiter.checkAndUpdate bytes now).2.allowed = false →
    (Number.ofInt bytes).le limiter.bytesPerSecond = true →
    ∀ later : Time, (limiter.checkAndUpdate bytes now).2.waitMs.le (.ofInt (later - now)) = true →
      ((limiter.checkAndUpdate bytes now).1.checkAndUpdate bytes later).2.allowed = true

theorem checkAndUpdate_hintSound (limiter : RateLimiter) (bytes : Nat) (now : Time) :
    limiter.HintSound bytes now := by
  refine ⟨(limiter.checkAndUpdate_allowed bytes now).symm, ?_⟩
  intro hrefused hbytes later hwait
  rw [checkAndUpdate_allowed] at hrefused
  -- a window that has ended would have been reset, and the amount would have fit
  have hopen : limiter.expired now = false := by
    by_contra hexpired
    rw [Bool.not_eq_false] at hexpired
    rw [wouldAllow_of_expired hexpired hbytes] at hrefused
    cases hrefused
  obtain ⟨hlimiter, hhint⟩ := checkAndUpdate_refused hopen hrefused
  rw [hhint] at hwait
  have hended := le_of_hint_le hwait
  rw [hlimiter, checkAndUpdate_allowed]
  refine wouldAllow_of_expired ?_ hbytes
  unfold expired
  rwa [sub_add_sub_cancel'] at hended

end RateLimiter

namespace SlidingWindow

abbrev Admission := TimedLog.Entry Time

inductive Operation where
  | checkAndUpdate (bytes : Nat)
  | pause
  | resume
deriving DecidableEq

-- A call, made so many milliseconds after the one before it.
structure Call where
  after : Nat
  operation : Operation
deriving DecidableEq

-- The limiter, with what it let through: in the windows that are over, and in
-- the one it counts.
structure Meter where
  limiter : RateLimiter
  now : Time
  closed : List Admission
  current : List Admission

namespace Meter

def new (config : RateLimiterConfig) (now : Time) : Meter where
  limiter := .new config now
  now
  closed := []
  current := []

def admitted (meter : Meter) : List Admission :=
  meter.closed ++ meter.current

-- What a check at the given time finds closed, and what it still counts.
def closedAt (meter : Meter) (now : Time) : List Admission :=
  if meter.limiter.expired now then meter.admitted else meter.closed

def currentAt (meter : Meter) (now : Time) : List Admission :=
  if meter.limiter.expired now then [] else meter.current

def call (meter : Meter) (made : Call) : Meter :=
  let now := meter.now + made.after
  match made.operation with
  | .checkAndUpdate bytes =>
    let checked := meter.limiter.checkAndUpdate bytes now
    { limiter := checked.1
      now
      closed := meter.closedAt now
      current := meter.currentAt now ++ if checked.2.allowed then [⟨now, bytes⟩] else [] }
  | .pause => { meter with limiter := meter.limiter.pause, now }
  | .resume =>
    { limiter := meter.limiter.resume now, now, closed := meter.admitted, current := [] }

-- The bytes let through in the last `windowMs`, in windows that are over.
def carriedAt (meter : Meter) (windowMs : Number) (now : Time) : Nat :=
  TimedLog.total ((meter.closedAt now).filter fun entry =>
    (Number.ofInt (now - entry.time)).lt windowMs)

-- What is let through comes when nothing was let through shortly before its window began,
-- or that much less of the limit is used in this window.
def fits (config : RateLimiterConfig) (meter : Meter) (made : Call) : Bool :=
  let now := meter.now + made.after
  match made.operation with
  | .checkAndUpdate bytes =>
    !meter.limiter.wouldAllow bytes now || meter.carriedAt config.window now = 0 ||
      (Number.ofInt (meter.carriedAt config.window now + TimedLog.total (meter.currentAt now) +
        bytes : Nat)).le config.bytesPerSecond
  | .pause | .resume => true

end Meter

-- The bytes let through from `start` on, for `windowMs`.
def admittedWithin (windowMs : Number) (start : Time) (admitted : List Admission) : Nat :=
  TimedLog.total (admitted.filter fun entry =>
    decide (start ≤ entry.time) && (Number.ofInt (entry.time - start)).lt windowMs)

def Bounded (config : RateLimiterConfig) (meter : Meter) : Prop :=
  ∀ start : Time,
    (Number.ofInt (admittedWithin config.window start meter.admitted)).le
      config.bytesPerSecond = true

section Bound

variable {config : RateLimiterConfig} {meter : Meter}

-- What every call keeps: the limiter counts the bytes of the current window,
-- and no admission lies in the future.
structure Kept (config : RateLimiterConfig) (meter : Meter) : Prop where
  limit : meter.limiter.bytesPerSecond = config.bytesPerSecond
  window : meter.limiter.windowMs = config.window
  counted : meter.limiter.bytesInWindow = .ofInt (TimedLog.total meter.current)
  started : meter.limiter.windowStart ≤ meter.now
  begun : ∀ entry ∈ meter.current, meter.limiter.windowStart ≤ entry.time
  past : ∀ entry ∈ meter.admitted, entry.time ≤ meter.now

theorem kept_new (config : RateLimiterConfig) (now : Time) : Kept config (.new config now) where
  limit := rfl
  window := rfl
  counted := rfl
  started := Int.le_refl now
  begun := fun _ hmem => absurd hmem List.not_mem_nil
  past := fun _ hmem => absurd hmem List.not_mem_nil

theorem Meter.closedAt_append_currentAt (meter : Meter) (now : Time) :
    meter.closedAt now ++ meter.currentAt now = meter.admitted := by
  unfold Meter.closedAt Meter.currentAt
  by_cases hexpired : meter.limiter.expired now = true
  · rw [if_pos hexpired, if_pos hexpired, List.append_nil]
  · rw [if_neg hexpired, if_neg hexpired]
    rfl

theorem le_after {time now : Time} (h : time ≤ now) (after : Nat) : time ≤ now + after :=
  Int.le_trans h (Int.le_add_of_nonneg_right (Int.natCast_nonneg after))

theorem Kept.past_after (h : Kept config meter) (after : Nat) :
    ∀ entry ∈ meter.admitted, entry.time ≤ meter.now + after := by
  intro entry hmem
  exact le_after (h.past entry hmem) after

-- What a check finds in the limiter is what the meter counts at that time.
theorem Kept.renewed (h : Kept config meter) (after : Nat) :
    let now := meter.now + after
    let limiter := meter.limiter.renewed now
    limiter.bytesPerSecond = config.bytesPerSecond ∧ limiter.windowMs = config.window ∧
      limiter.bytesInWindow = .ofInt (TimedLog.total (meter.currentAt now)) ∧
      limiter.windowStart ≤ now ∧
      ∀ entry ∈ meter.currentAt now, limiter.windowStart ≤ entry.time := by
  dsimp only
  unfold RateLimiter.renewed Meter.currentAt
  by_cases hexpired : meter.limiter.expired (meter.now + after) = true
  · rw [if_pos hexpired, if_pos hexpired]
    exact ⟨h.limit, h.window, rfl, Int.le_refl _, fun _ hmem => absurd hmem List.not_mem_nil⟩
  · rw [if_neg hexpired, if_neg hexpired]
    exact ⟨h.limit, h.window, h.counted, le_after h.started after, h.begun⟩

-- A check that is let through is added to the current window, another one
-- changes nothing that was admitted.
theorem Meter.admitted_check (meter : Meter) (after bytes : Nat) :
    (meter.call ⟨after, .checkAndUpdate bytes⟩).admitted =
      if meter.limiter.wouldAllow bytes (meter.now + after) then
        meter.admitted ++ [⟨meter.now + after, bytes⟩]
      else meter.admitted := by
  rw [← meter.closedAt_append_currentAt (meter.now + after),
    ← RateLimiter.checkAndUpdate_allowed]
  unfold Meter.call Meter.admitted
  dsimp only
  split
  · rw [List.append_assoc]
  · rw [List.append_nil]

theorem Kept.check (hlimit : (Number.ofInt 0).lt config.bytesPerSecond = true)
    (h : Kept config meter) (after bytes : Nat) :
    Kept config (meter.call ⟨after, .checkAndUpdate bytes⟩) := by
  have hlimited : meter.limiter.bytesPerSecond.le (.ofInt 0) = false := by
    rw [h.limit]
    exact TransferRate.le_zero_of_lt hlimit
  have hlimiter := RateLimiter.checkAndUpdate_limited hlimited bytes (meter.now + after)
  have hallowed := meter.limiter.checkAndUpdate_allowed bytes (meter.now + after)
  have hadmitted := meter.admitted_check after bytes
  have hpast := h.past_after after
  obtain ⟨hrate, hwindow, hcounted, hstarted, hbegun⟩ := h.renewed after
  cases hwould : meter.limiter.wouldAllow bytes (meter.now + after) with
  | false =>
    rw [hwould, if_neg Bool.false_ne_true] at hlimiter hadmitted
    rw [hwould] at hallowed
    have hcall : meter.call ⟨after, .checkAndUpdate bytes⟩ =
        ⟨meter.limiter.renewed (meter.now + after), meter.now + after,
          meter.closedAt (meter.now + after), meter.currentAt (meter.now + after)⟩ := by
      simp [Meter.call, hlimiter, hallowed]
    rw [hcall] at hadmitted ⊢
    refine ⟨hrate, hwindow, hcounted, hstarted, hbegun, ?_⟩
    rw [hadmitted]
    exact hpast
  | true =>
    rw [hwould, if_pos rfl] at hlimiter hadmitted
    rw [hwould] at hallowed
    have hcall : meter.call ⟨after, .checkAndUpdate bytes⟩ =
        ⟨{ meter.limiter.renewed (meter.now + after) with
            bytesInWindow := (meter.limiter.renewed (meter.now + after)).bytesInWindow.add
              (.ofInt bytes)
            totalBytes := meter.limiter.totalBytes.add (.ofInt bytes) },
          meter.now + after, meter.closedAt (meter.now + after),
          meter.currentAt (meter.now + after) ++ [⟨meter.now + after, bytes⟩]⟩ := by
      simp [Meter.call, hlimiter, hallowed]
    rw [hcall] at hadmitted ⊢
    refine ⟨hrate, hwindow, ?_, hstarted, ?_, ?_⟩
    · simp [hcounted]
    · intro entry hmem
      rcases List.mem_append.mp hmem with hmem | hmem
      · exact hbegun entry hmem
      · rw [List.mem_singleton.mp hmem]
        exact hstarted
    · intro entry hmem
      rw [hadmitted] at hmem
      rcases List.mem_append.mp hmem with hmem | hmem
      · exact hpast entry hmem
      · rw [List.mem_singleton.mp hmem]

theorem Kept.call (hlimit : (Number.ofInt 0).lt config.bytesPerSecond = true)
    (h : Kept config meter) (made : Call) : Kept config (meter.call made) := by
  obtain ⟨after, operation⟩ := made
  have hpast := h.past_after after
  cases operation with
  | checkAndUpdate bytes => exact h.check hlimit after bytes
  | pause =>
    exact ⟨h.limit, h.window, h.counted, le_after h.started after, h.begun, hpast⟩
  | resume =>
    refine ⟨h.limit, h.window, rfl, Int.le_refl _, ?_, ?_⟩
    · exact fun _ hmem => absurd hmem List.not_mem_nil
    · intro entry hmem
      rw [Meter.call, Meter.admitted, List.append_nil] at hmem
      exact hpast entry hmem

variable {bound : Number}

theorem lt_of_shorter {short long : Int} (h : short ≤ long)
    (hlong : (Number.ofInt long).lt bound = true) : (Number.ofInt short).lt bound = true := by
  cases bound with
  | nan => cases hlong
  | infinity negative => exact hlong
  | finite value =>
    simp only [Number.ofInt, Number.lt, decide_eq_true_eq] at hlong ⊢
    have hcast : (short : ℚ) ≤ long := Int.cast_le.mpr h
    linarith

theorem le_of_less {small large : Nat} (h : small ≤ large)
    (hlarge : (Number.ofInt large).le bound = true) : (Number.ofInt small).le bound = true := by
  cases bound with
  | nan => cases hlarge
  | infinity negative => exact hlarge
  | finite value =>
    simp only [Number.ofInt, RateLimiter.finite_le] at hlarge ⊢
    push_cast at hlarge ⊢
    have hcast : (small : ℚ) ≤ large := Nat.cast_le.mpr h
    linarith

theorem le_of_lt {value : Int} (h : (Number.ofInt value).lt bound = true) :
    (Number.ofInt value).le bound = true := by
  cases bound with
  | nan => cases h
  | infinity negative =>
    cases negative with
    | true => cases h
    | false => rfl
  | finite limit => exact RateLimiter.finite_le.mpr (of_decide_eq_true h).le

theorem lt_of_not_le {duration : Int} (hbound : (Number.ofInt 0).lt bound = true)
    (h : bound.le (.ofInt duration) = false) : (Number.ofInt duration).lt bound = true := by
  cases bound with
  | nan => cases hbound
  | infinity negative => exact hbound
  | finite value =>
    rw [Bool.eq_false_iff, Number.ofInt, ne_eq, RateLimiter.finite_le, not_le] at h
    exact decide_eq_true h

def width (config : RateLimiterConfig) (h : (Number.ofInt 0).lt config.window = true) :
    TimedLog.Width Time where
  covers duration := (Number.ofInt duration).lt config.window
  zero := h
  shorter := lt_of_shorter

def budget (config : RateLimiterConfig) : TimedLog.Budget where
  allows bytes := (Number.ofInt bytes).le config.bytesPerSecond
  less := le_of_less

-- While a window lasts, everything counted in it is recent.
theorem Kept.current_recent (hwindow : (Number.ofInt 0).lt config.window = true)
    (h : Kept config meter) (after : Nat) :
    ∀ entry ∈ meter.currentAt (meter.now + after),
      (Number.ofInt (meter.now + after - entry.time)).lt config.window = true := by
  intro entry hmem
  unfold Meter.currentAt at hmem
  by_cases hexpired : meter.limiter.expired (meter.now + after) = true
  · rw [if_pos hexpired] at hmem
    exact absurd hmem List.not_mem_nil
  · rw [if_neg hexpired] at hmem
    rw [Bool.not_eq_true, RateLimiter.expired, h.window] at hexpired
    have hopen := lt_of_not_le hwindow hexpired
    exact lt_of_shorter (Int.sub_le_sub_left (h.begun entry hmem) _) hopen

theorem Kept.recent_eq (hwindow : (Number.ofInt 0).lt config.window = true)
    (h : Kept config meter) (after : Nat) :
    TimedLog.total
        (TimedLog.recent (width config hwindow) (meter.now + after) meter.admitted) =
      meter.carriedAt config.window (meter.now + after) +
        TimedLog.total (meter.currentAt (meter.now + after)) := by
  have hcurrent : TimedLog.recent (width config hwindow) (meter.now + after)
      (meter.currentAt (meter.now + after)) = meter.currentAt (meter.now + after) :=
    TimedLog.recent_eq_self (h.current_recent hwindow after)
  rw [← meter.closedAt_append_currentAt (meter.now + after), TimedLog.recent_append,
    TimedLog.total_append, hcurrent]
  rfl

-- The limiter's own bound: what it counts never exceeds the limit.
theorem Kept.counted_le (hlimit : (Number.ofInt 0).lt config.bytesPerSecond = true)
    (h : Kept config meter) {after bytes : Nat}
    (hwould : meter.limiter.wouldAllow bytes (meter.now + after) = true) :
    (Number.ofInt (TimedLog.total (meter.currentAt (meter.now + after)) + bytes : Nat)).le
      config.bytesPerSecond = true := by
  unfold RateLimiter.wouldAllow at hwould
  rw [h.limit, TransferRate.le_zero_of_lt hlimit, if_neg Bool.false_ne_true] at hwould
  unfold Meter.currentAt RateLimiter.expired
  by_cases hexpired : meter.limiter.windowMs.le
      (.ofInt (meter.now + after - meter.limiter.windowStart)) = true
  · rw [if_pos hexpired] at hwould ⊢
    simpa [TimedLog.total] using hwould
  · rw [if_neg hexpired] at hwould ⊢
    rwa [h.counted, Number.ofInt_add] at hwould

-- Where nothing is carried over from the windows before, the limiter's own bound is enough.
theorem Kept.fits_iff (hlimit : (Number.ofInt 0).lt config.bytesPerSecond = true)
    (h : Kept config meter) {after bytes : Nat}
    (hwould : meter.limiter.wouldAllow bytes (meter.now + after) = true) :
    meter.fits config ⟨after, .checkAndUpdate bytes⟩ = true ↔
      (Number.ofInt (meter.carriedAt config.window (meter.now + after) +
        TimedLog.total (meter.currentAt (meter.now + after)) + bytes : Nat)).le
          config.bytesPerSecond = true := by
  unfold Meter.fits
  dsimp only
  rw [hwould, Bool.not_true, Bool.false_or, Bool.or_eq_true, decide_eq_true_eq]
  refine or_iff_right_of_imp fun hnothing => ?_
  rw [hnothing, Nat.zero_add]
  exact h.counted_le hlimit hwould

theorem Kept.bounded_call_iff (hlimit : (Number.ofInt 0).lt config.bytesPerSecond = true)
    (hwindow : (Number.ofInt 0).lt config.window = true) (h : Kept config meter) (hbounded : Bounded config meter) (made : Call) :
    Bounded config (meter.call made) ↔ meter.fits config made = true := by
  obtain ⟨after, operation⟩ := made
  cases operation with
  | checkAndUpdate bytes =>
    unfold Bounded
    rw [Meter.admitted_check]
    cases hwould : meter.limiter.wouldAllow bytes (meter.now + after) with
    | false =>
      refine iff_of_true hbounded ?_
      simp [Meter.fits, hwould]
    | true =>
      rw [if_pos rfl, h.fits_iff hlimit hwould]
      have hconcat := TimedLog.bounded_concat_iff (width config hwindow) (budget config)
        (h.past_after after) bytes
      rw [h.recent_eq hwindow after] at hconcat
      exact hconcat.trans (and_iff_right hbounded)
  | pause => exact iff_of_true hbounded rfl
  | resume =>
    refine iff_of_true ?_ rfl
    unfold Bounded Meter.admitted Meter.call
    dsimp only
    rw [List.append_nil]
    exact hbounded

theorem Bounded.of_call (hwindow : (Number.ofInt 0).lt config.window = true) {made : Call}
    (h : Bounded config (meter.call made)) :
    Bounded config meter := by
  obtain ⟨after, operation⟩ := made
  unfold Bounded at h
  cases operation with
  | checkAndUpdate bytes =>
    rw [Meter.admitted_check] at h
    split at h
    · have hlonger : TimedLog.Bounded (width config hwindow) (budget config) (_ ++ _) := h
      exact TimedLog.Bounded.of_append hlonger
    · exact h
  | pause => exact h
  | resume =>
    unfold Meter.admitted Meter.call at h
    dsimp only at h
    rwa [List.append_nil] at h

end Bound

-- No stretch of `windowMs` sees more than the limit exactly when every check that is let
-- through comes with nothing, or with room for it, from the windows before.
theorem bounded_iff_fits (config : RateLimiterConfig)
    (hlimit : (Number.ofInt 0).lt config.bytesPerSecond = true)
    (hwindow : (Number.ofInt 0).lt config.window = true) (start : Time) (calls : List Call) :
    Bounded config (Run.run Meter.call (.new config start) calls) ↔
      Run.Along Meter.call (fun meter made => meter.fits config made = true)
        (.new config start) calls := by
  have hempty : Bounded config (.new config start) := by
    intro _
    exact le_of_lt hlimit
  have hlast : Run.Throughout Meter.call (Bounded config) (.new config start) calls ↔ _ :=
    Run.throughout_iff_last (fun meter made => Bounded.of_call hwindow) _ _
  refine hlast.symm.trans ?_
  exact Run.throughout_iff_along (fun meter made h => h.call hlimit made)
    (fun meter made h hbounded => h.bounded_call_iff hlimit hwindow hbounded made)
    (kept_new config start) hempty calls

-- One byte at the end of a window, one more in the next millisecond: the first
-- window is over, and both are within a thousand milliseconds.
theorem bounded_iff_fits_spread :
    Bounded ⟨.ofInt 3, none⟩ (Run.run Meter.call (.new ⟨.ofInt 3, none⟩ 0)
      [⟨999, .checkAndUpdate 1⟩, ⟨1, .checkAndUpdate 2⟩, ⟨10, .resume⟩]) :=
  (bounded_iff_fits ⟨.ofInt 3, none⟩ (by decide) (by decide) 0 _).mpr (by decide +kernel)

theorem bounded_window_turn :
    (Number.ofInt 0).lt (Number.ofInt 1) = true ∧
      (Number.ofInt 0).lt (RateLimiterConfig.window ⟨.ofInt 1, none⟩) = true ∧
      ¬ Bounded ⟨.ofInt 1, none⟩ (Run.run Meter.call (.new ⟨.ofInt 1, none⟩ 0)
        [⟨999, .checkAndUpdate 1⟩, ⟨1, .checkAndUpdate 1⟩]) := by
  refine ⟨by decide, by decide, ?_⟩
  intro h
  exact absurd (h 999) (by decide +kernel)

end SlidingWindow

end WebSsh2.Sftp

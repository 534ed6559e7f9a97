import Mathlib.Algebra.GroupWithZero.Nat
import Mathlib.Algebra.Order.BigOperators.Group.List
import Mathlib.Algebra.Order.Group.Defs
import Mathlib.Algebra.Order.Sub.Defs

namespace WebSsh2.Library.TimedLog

structure Entry (τ : Type*) where
  time : τ
  amount : Nat
deriving DecidableEq, Repr

-- The width of a window, given by the durations it covers.
structure Width (τ : Type*) [Zero τ] [LE τ] where
  covers : τ → Bool
  zero : covers 0 = true
  shorter : ∀ {short long : τ}, short ≤ long → covers long = true → covers short = true

-- What may be spent in one window.
structure Budget where
  allows : Nat → Bool
  less : ∀ {small large : Nat}, small ≤ large → allows large = true → allows small = true

def total {τ : Type*} (log : List (Entry τ)) : Nat :=
  (log.map Entry.amount).sum

@[simp] theorem total_nil {τ : Type*} : total ([] : List (Entry τ)) = 0 := rfl

@[simp] theorem total_append {τ : Type*} (first second : List (Entry τ)) :
    total (first ++ second) = total first + total second := by
  simp [total]

@[simp] theorem total_singleton {τ : Type*} (entry : Entry τ) : total [entry] = entry.amount := by
  simp [total]

theorem total_filter_le {τ : Type*} {p q : Entry τ → Bool} {log : List (Entry τ)}
    (h : ∀ entry ∈ log, p entry = true → q entry = true) :
    total (log.filter p) ≤ total (log.filter q) := by
  induction log with
  | nil => exact Nat.le_refl 0
  | cons entry rest ih =>
    have hrest := ih fun other hmem => h other (List.mem_cons_of_mem _ hmem)
    have hentry := h entry List.mem_cons_self
    by_cases hp : p entry = true
    · rw [List.filter_cons_of_pos hp, List.filter_cons_of_pos (hentry hp)]
      simpa [total] using hrest
    · rw [List.filter_cons_of_neg hp]
      by_cases hq : q entry = true
      · rw [List.filter_cons_of_pos hq]
        simp only [total, List.map_cons, List.sum_cons] at hrest ⊢
        omega
      · rw [List.filter_cons_of_neg hq]
        exact hrest

section Windows

variable {τ : Type*} [AddCommGroup τ] [LinearOrder τ]

-- The entries of the window that begins at `start`, its end left out.
def within (width : Width τ) (start : τ) (log : List (Entry τ)) : List (Entry τ) :=
  log.filter fun entry => decide (start ≤ entry.time) && width.covers (entry.time - start)

-- The entries that are younger than the width of the window.
def recent (width : Width τ) (now : τ) (log : List (Entry τ)) : List (Entry τ) :=
  log.filter fun entry => width.covers (now - entry.time)

def Bounded (width : Width τ) (budget : Budget) (log : List (Entry τ)) : Prop :=
  ∀ start, budget.allows (total (within width start log)) = true

variable {width : Width τ} {budget : Budget} {log : List (Entry τ)} {now : τ}

theorem recent_append (first second : List (Entry τ)) :
    recent width now (first ++ second) = recent width now first ++ recent width now second :=
  List.filter_append ..

theorem recent_eq_self (h : ∀ entry ∈ log, width.covers (now - entry.time) = true) :
    recent width now log = log :=
  List.filter_eq_self.mpr h

theorem within_append (start : τ) (first second : List (Entry τ)) :
    within width start (first ++ second) =
      within width start first ++ within width start second :=
  List.filter_append ..

theorem Bounded.of_append {second : List (Entry τ)} (h : Bounded width budget (log ++ second)) :
    Bounded width budget log := by
  intro start
  refine budget.less ?_ (h start)
  rw [within_append, total_append]
  exact Nat.le_add_right _ _

-- Some window that reaches until now holds every recent entry.
theorem exists_start (width : Width τ) (now : τ) (log : List (Entry τ)) :
    ∃ start, start ≤ now ∧ width.covers (now - start) = true ∧
      ∀ entry ∈ log, width.covers (now - entry.time) = true → start ≤ entry.time := by
  induction log with
  | nil =>
    refine ⟨now, le_refl now, ?_, fun entry hmem => absurd hmem List.not_mem_nil⟩
    rw [sub_self]
    exact width.zero
  | cons entry rest ih =>
    obtain ⟨start, hstart, hcovers, hrest⟩ := ih
    by_cases hentry : width.covers (now - entry.time) = true ∧ entry.time ≤ start
    · refine ⟨entry.time, le_trans hentry.2 hstart, hentry.1, ?_⟩
      intro other hmem hother
      rcases List.mem_cons.mp hmem with rfl | hmem
      · exact le_refl _
      · exact le_trans hentry.2 (hrest other hmem hother)
    · refine ⟨start, hstart, hcovers, ?_⟩
      intro other hmem hother
      rcases List.mem_cons.mp hmem with rfl | hmem
      · by_contra hlt
        exact hentry ⟨hother, le_of_not_ge hlt⟩
      · exact hrest other hmem hother

variable [IsOrderedAddMonoid τ]

theorem total_within_le_recent {start : τ}
    (hcovers : width.covers (now - start) = true) (log : List (Entry τ)) :
    total (within width start log) ≤ total (recent width now log) := by
  refine total_filter_le fun entry _ hentry => ?_
  have hle : start ≤ entry.time := of_decide_eq_true ((Bool.and_eq_true _ _).mp hentry).1
  exact width.shorter (sub_le_sub_left hle now) hcovers

theorem total_recent_le_within {start : τ} (hpast : ∀ entry ∈ log, entry.time ≤ now)
    (hcovers : width.covers (now - start) = true)
    (hrecent : ∀ entry ∈ log, width.covers (now - entry.time) = true → start ≤ entry.time) :
    total (recent width now log) ≤ total (within width start log) := by
  refine total_filter_le fun entry hmem hentry => ?_
  rw [Bool.and_eq_true]
  have hshort : entry.time - start ≤ now - start := sub_le_sub_right (hpast entry hmem) start
  exact ⟨decide_eq_true (hrecent entry hmem hentry), width.shorter hshort hcovers⟩

-- One more entry keeps every window within the budget when it still fits
-- together with the recent ones.
theorem bounded_concat_iff (width : Width τ) (budget : Budget)
    (hpast : ∀ entry ∈ log, entry.time ≤ now) (amount : Nat) :
    Bounded width budget (log ++ [⟨now, amount⟩]) ↔
      Bounded width budget log ∧
        budget.allows (total (recent width now log) + amount) = true := by
  constructor
  · intro h
    constructor
    · exact h.of_append
    · obtain ⟨start, hstart, hcovers, hrecent⟩ := exists_start width now log
      refine budget.less ?_ (h start)
      have hlast : within width start [⟨now, amount⟩] = [⟨now, amount⟩] := by
        simp [within, hstart, hcovers]
      rw [within_append, total_append, hlast, total_singleton]
      exact Nat.add_le_add_right (total_recent_le_within hpast hcovers hrecent) amount
  · rintro ⟨hlog, hfits⟩ start
    rw [within_append, total_append]
    by_cases hlast : start ≤ now ∧ width.covers (now - start) = true
    · refine budget.less ?_ hfits
      have hnew : within width start [⟨now, amount⟩] = [⟨now, amount⟩] := by
        simp [within, hlast.1, hlast.2]
      rw [hnew, total_singleton]
      exact Nat.add_le_add_right (total_within_le_recent hlast.2 log) amount
    · have hnew : within width start [⟨now, amount⟩] = [] := by
        simp only [within, List.filter_eq_nil_iff, List.mem_singleton]
        rintro entry rfl
        simpa using hlast
      rw [hnew, total_nil, Nat.add_zero]
      exact hlog start

end Windows

end WebSsh2.Library.TimedLog

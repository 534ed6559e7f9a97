import WebSsh2.Library.Interaction

namespace WebSsh2.Library.Prog

variable {ρ ε : Type} {Answer : ρ → Type} {α β : Type}

variable (program : Prog ρ Answer (Except ε α)) (next : α → Prog ρ Answer (Except ε β))

-- The next program runs only when the one before it does not fail.
def andThen : Prog ρ Answer (Except ε β) :=
  program.bind fun
    | .ok value => next value
    | .error failure => .done (.error failure)

theorem runs_andThen_ok_iff (events : List (Event ρ Answer)) (result : β) :
    Runs (program.andThen next) events (.ok result) ↔
      ∃ first value second, events = first ++ second ∧ Runs program first (.ok value) ∧
        Runs (next value) second (.ok result) := by
  unfold andThen
  rw [runs_bind_iff]
  constructor
  · rintro ⟨first, middle, second, hevents, hfirst, hsecond⟩
    cases middle with
    | ok value => exact ⟨first, value, second, hevents, hfirst, hsecond⟩
    | error failure => cases ((runs_done_iff _ _ _).mp hsecond).2
  · rintro ⟨first, value, second, hevents, hfirst, hsecond⟩
    exact ⟨first, .ok value, second, hevents, hfirst, hsecond⟩

theorem runs_andThen_error_iff (events : List (Event ρ Answer)) (failure : ε) :
    Runs (program.andThen next) events (.error failure) ↔
      Runs program events (.error failure) ∨
        ∃ first value second, events = first ++ second ∧ Runs program first (.ok value) ∧
          Runs (next value) second (.error failure) := by
  unfold andThen
  rw [runs_bind_iff]
  constructor
  · rintro ⟨first, middle, second, hevents, hfirst, hsecond⟩
    cases middle with
    | ok value => exact .inr ⟨first, value, second, hevents, hfirst, hsecond⟩
    | error other =>
      obtain ⟨hnone, hsame⟩ := (runs_done_iff _ _ _).mp hsecond
      rw [hevents, hnone, List.append_nil, Except.error.inj hsame]
      exact .inl hfirst
  · rintro (hfirst | ⟨first, value, second, hevents, hfirst, hsecond⟩)
    · exact ⟨events, .error failure, [], (List.append_nil _).symm, hfirst, .done _⟩
    · exact ⟨first, .ok value, second, hevents, hfirst, hsecond⟩

-- One request, and what is made of the answer.
def once (request : ρ) (judge : Answer request → Except ε α) : Prog ρ Answer (Except ε α) :=
  .ask request fun answer => .done (judge answer)

theorem runs_once_iff (request : ρ) (judge : Answer request → Except ε α)
    (events : List (Event ρ Answer)) (result : Except ε α) :
    Runs (once request judge) events result ↔
      ∃ answer, events = [⟨request, answer⟩] ∧ judge answer = result := by
  unfold once
  rw [runs_ask_iff]
  constructor
  · rintro ⟨answer, later, hevents, hdone⟩
    obtain ⟨rfl, rfl⟩ := (runs_done_iff _ _ _).mp hdone
    exact ⟨answer, hevents, rfl⟩
  · rintro ⟨answer, hevents, rfl⟩
    exact ⟨answer, [], hevents, .done _⟩

theorem runs_once_andThen_ok_iff (request : ρ) (judge : Answer request → Except ε α)
    (next : α → Prog ρ Answer (Except ε β)) (events : List (Event ρ Answer)) (result : β) :
    Runs ((once request judge).andThen next) events (.ok result) ↔
      ∃ answer value later, events = ⟨request, answer⟩ :: later ∧ judge answer = .ok value ∧
        Runs (next value) later (.ok result) := by
  rw [runs_andThen_ok_iff]
  constructor
  · rintro ⟨first, value, later, hevents, hfirst, hlater⟩
    obtain ⟨answer, hanswer, hvalue⟩ := (runs_once_iff _ _ _ _).mp hfirst
    rw [hanswer] at hevents
    exact ⟨answer, value, later, hevents, hvalue, hlater⟩
  · rintro ⟨answer, value, later, hevents, hvalue, hlater⟩
    exact ⟨[⟨request, answer⟩], value, later, hevents,
      (runs_once_iff _ _ _ _).mpr ⟨answer, rfl, hvalue⟩, hlater⟩

section Retry

variable (operation : Prog ρ Answer (Except ε α)) (pause : Nat → Prog ρ Answer Unit)
  (shouldRetry : ε → Bool)

-- `attempt` is the number of the attempt, and `further` how many may follow it.
def retry : Nat → Nat → Prog ρ Answer (Except ε α)
  | 0, _ => operation
  | further + 1, attempt => operation.bind fun
      | .ok value => .done (.ok value)
      | .error failure =>
        if shouldRetry failure then
          (pause attempt).bind fun _ => retry further (attempt + 1)
        else .done (.error failure)

-- Attempts that failed, each with the pause after it.
inductive Retried : Nat → Nat → List (Event ρ Answer) → Prop where
  | none (attempt : Nat) : Retried attempt 0 []
  | more {attempt count : Nat} {failure : ε} {failed paused later : List (Event ρ Answer)}
      (hfailed : Runs operation failed (.error failure)) (hretry : shouldRetry failure = true)
      (hpaused : Runs (pause attempt) paused ()) (hlater : Retried (attempt + 1) count later) :
      Retried attempt (count + 1) (failed ++ paused ++ later)

variable {operation pause shouldRetry}

-- Every run is some attempts that failed and one more. That one succeeds, fails for good,
-- or is the last there is.
theorem runs_retry_iff (further attempt : Nat) (events : List (Event ρ Answer))
    (result : Except ε α) :
    Runs (retry operation pause shouldRetry further attempt) events result ↔
      ∃ count before last, count ≤ further ∧ events = before ++ last ∧
        Retried operation pause shouldRetry attempt count before ∧ Runs operation last result ∧
        ∀ failure, result = .error failure → shouldRetry failure = true → count = further := by
  induction further generalizing attempt events with
  | zero =>
    unfold retry
    constructor
    · intro h
      exact ⟨0, [], events, Nat.le_refl 0, rfl, .none attempt, h, fun _ _ _ => rfl⟩
    · rintro ⟨count, before, last, hcount, hevents, hretried, hlast, _⟩
      obtain rfl := Nat.le_zero.mp hcount
      cases hretried
      rw [hevents]
      exact hlast
  | succ further ih =>
    unfold retry
    rw [runs_bind_iff]
    constructor
    · rintro ⟨first, middle, second, hevents, hfirst, hsecond⟩
      cases middle with
      | ok value =>
        obtain ⟨hnone, hsame⟩ := (runs_done_iff _ _ _).mp hsecond
        rw [hnone, List.append_nil] at hevents
        rw [hsame]
        exact ⟨0, [], first, Nat.zero_le _, hevents, .none attempt, hfirst, nofun⟩
      | error failure =>
        dsimp only at hsecond
        split at hsecond
        · rename_i hretry
          obtain ⟨paused, _, later, hsplit, hpaused, hlater⟩ := (runs_bind_iff _ _ _ _).mp hsecond
          obtain ⟨count, before, last, hcount, hlaterEvents, hretried, hlast, hspent⟩ :=
            (ih (attempt + 1) later).mp hlater
          refine ⟨count + 1, first ++ paused ++ before, last, Nat.succ_le_succ hcount, ?_,
            .more hfirst hretry hpaused hretried, hlast, fun other hother hagain => ?_⟩
          · rw [hevents, hsplit, hlaterEvents]
            simp only [List.append_assoc]
          · rw [hspent other hother hagain]
        · rename_i hfinal
          obtain ⟨hnone, hsame⟩ := (runs_done_iff _ _ _).mp hsecond
          rw [hnone, List.append_nil] at hevents
          rw [hsame]
          refine ⟨0, [], first, Nat.zero_le _, hevents, .none attempt, hfirst, ?_⟩
          intro other hother hagain
          rw [← Except.error.inj hother] at hagain
          exact absurd hagain hfinal
    · rintro ⟨count, before, last, hcount, hevents, hretried, hlast, hspent⟩
      cases hretried with
      | none =>
        refine ⟨last, result, [], ?_, hlast, ?_⟩
        · rw [hevents, List.nil_append, List.append_nil]
        · cases result with
          | ok value => exact .done _
          | error failure =>
            dsimp only
            rw [if_neg fun hagain => absurd (hspent failure rfl hagain) (Nat.succ_ne_zero _).symm]
            exact .done _
      | @more _ fewer failure failed paused later hfailed hretry hpaused hlater =>
        refine ⟨failed, .error failure, paused ++ (later ++ last), ?_, hfailed, ?_⟩
        · rw [hevents]
          simp only [List.append_assoc]
        · dsimp only
          rw [if_pos hretry, runs_bind_append_iff hpaused]
          refine (ih (attempt + 1) _).mpr ⟨fewer, later, last, Nat.le_of_succ_le_succ hcount, rfl,
            hlater, hlast, fun other hother hagain => ?_⟩
          exact Nat.succ.inj (hspent other hother hagain)

end Retry

end WebSsh2.Library.Prog

import Mathlib.Data.List.Basic

namespace WebSsh2.Library.Requests

-- Something that was asked for, newest first in a list. An entry with a call waits
-- for the answer as long as that call is pending.
structure Entry (κ α : Type*) where
  call : Option κ
  value : α

section Newest

variable {κ α : Type*}

def Entry.waits (pending : κ → Bool) (entry : Entry κ α) : Bool :=
  entry.call.any pending

-- The newest entry that does not wait carries the current value, as soon as the
-- value counts (`live`) or may come to count by an older call.
def NewestIs (pending : κ → Bool) (live : Prop) (current : Option α) : List (Entry κ α) → Prop
  | [] => ¬ live
  | entry :: rest =>
    if entry.waits pending then
      NewestIs pending live current rest
    else
      (live ∨ ∃ older ∈ rest, older.waits pending = true) → current = some entry.value

variable {entries : List (Entry κ α)}

theorem newestIs_congr {pending pending' : κ → Bool} {live : Prop} {current : Option α}
    (hsame : ∀ entry ∈ entries, entry.waits pending = entry.waits pending')
    (h : NewestIs pending live current entries) : NewestIs pending' live current entries := by
  induction entries with
  | nil => exact h
  | cons entry rest ih =>
    have hrest : ∀ older ∈ rest, older.waits pending = older.waits pending' :=
      fun older holder => hsame older (List.mem_cons_of_mem _ holder)
    unfold NewestIs at h ⊢
    rw [← hsame entry List.mem_cons_self]
    split
    · rename_i hwaits
      rw [if_pos hwaits] at h
      exact ih hrest h
    · rename_i hwaits
      rw [if_neg hwaits] at h
      intro hlive
      refine h (hlive.imp_right ?_)
      rintro ⟨older, holder, hpending⟩
      exact ⟨older, holder, by rw [hrest older holder]; exact hpending⟩

-- As long as nothing counts and nothing waits, any value is current.
theorem newestIs_of_idle {pending : κ → Bool} {live : Prop} (hlive : ¬ live)
    (hidle : ∀ entry ∈ entries, entry.waits pending = false) (current : Option α) :
    NewestIs pending live current entries := by
  cases entries with
  | nil => exact hlive
  | cons entry rest =>
    have hwaits := hidle entry List.mem_cons_self
    unfold NewestIs
    rw [hwaits, if_neg (by decide)]
    rintro (h | ⟨older, holder, hpending⟩)
    · exact absurd h hlive
    · rw [hidle older (List.mem_cons_of_mem _ holder)] at hpending
      cases hpending

-- With nothing pending the newest entry of all carries the current value.
theorem newestIs_quiet {pending : κ → Bool} {live : Prop} {current : Option α}
    (hquiet : ∀ call, pending call = false) (hlive : live)
    (h : NewestIs pending live current entries) :
    ∃ entry, entries.head? = some entry ∧ current = some entry.value := by
  cases entries with
  | nil => exact absurd hlive h
  | cons entry rest =>
    have hwaits : entry.waits pending = false := by
      unfold Entry.waits
      cases entry.call with
      | none => rfl
      | some call => exact hquiet call
    unfold NewestIs at h
    rw [hwaits, if_neg (by decide)] at h
    exact ⟨entry, rfl, h (.inl hlive)⟩

end Newest

section Answers

variable {κ α : Type*} [DecidableEq κ]

-- The entries that remain once a call was refused.
def withdraw (call : κ) (entries : List (Entry κ α)) : List (Entry κ α) :=
  entries.filter fun entry => entry.call ≠ some call

def answered (pending : κ → Bool) (call : κ) : κ → Bool :=
  fun other => pending other && other ≠ call

variable {pending : κ → Bool} {call : κ}

theorem waits_answered (entry : Entry κ α) :
    entry.waits (answered pending call) = (entry.waits pending && entry.call ≠ some call) := by
  unfold Entry.waits answered
  cases entry.call with
  | none => rfl
  | some other => simp [Option.any]

theorem waits_of_answered {entry : Entry κ α} (h : entry.waits (answered pending call) = true) :
    entry.waits pending = true := by
  rw [waits_answered, Bool.and_eq_true] at h
  exact h.1

-- A call is answered with the current value; from then on the value counts.
theorem newestIs_answered {live : Prop} {current : Option α} {entries : List (Entry κ α)}
    (hcall : pending call = true) (hasked : ∃ entry ∈ entries, entry.call = some call)
    (hvalue : ∀ entry ∈ entries, entry.call = some call → current = some entry.value)
    (h : NewestIs pending live current entries) :
    NewestIs (answered pending call) True current entries := by
  induction entries with
  | nil =>
    obtain ⟨entry, hentry, -⟩ := hasked
    cases hentry
  | cons entry rest ih =>
    unfold NewestIs at h ⊢
    rw [waits_answered]
    by_cases heq : entry.call = some call
    · have hnow := hvalue entry List.mem_cons_self heq
      simp only [heq, ne_eq, not_true_eq_false, decide_false, Bool.and_false,
        Bool.false_eq_true, if_false]
      exact fun _ => hnow
    · have hrest : ∃ older ∈ rest, older.call = some call := by
        obtain ⟨older, holder, holdercall⟩ := hasked
        rcases List.mem_cons.mp holder with rfl | hmem
        · exact absurd holdercall heq
        · exact ⟨older, hmem, holdercall⟩
      simp only [heq, ne_eq, not_false_eq_true, decide_true, Bool.and_true]
      split
      · rename_i hwaits
        rw [if_pos hwaits] at h
        exact ih hrest (fun older holder => hvalue older (List.mem_cons_of_mem _ holder)) h
      · rename_i hwaits
        rw [if_neg hwaits] at h
        intro _
        obtain ⟨older, holder, holdercall⟩ := hrest
        refine h (.inr ⟨older, holder, ?_⟩)
        unfold Entry.waits
        rw [holdercall]
        exact hcall

theorem newestIs_withdraw {live : Prop} {current : Option α} {entries : List (Entry κ α)}
    (hcall : pending call = true) (h : NewestIs pending live current entries) :
    NewestIs (answered pending call) live current (withdraw call entries) := by
  induction entries with
  | nil => exact h
  | cons entry rest ih =>
    unfold NewestIs at h
    unfold withdraw
    by_cases heq : entry.call = some call
    · have hwaits : entry.waits pending = true := by
        unfold Entry.waits
        rw [heq]
        exact hcall
      rw [if_pos hwaits] at h
      rw [List.filter_cons_of_neg (by simp [heq])]
      exact ih h
    · rw [List.filter_cons_of_pos (by simp [heq])]
      unfold NewestIs
      rw [waits_answered]
      simp only [heq, ne_eq, not_false_eq_true, decide_true, Bool.and_true]
      split
      · rename_i hwaits
        rw [if_pos hwaits] at h
        exact ih h
      · rename_i hwaits
        rw [if_neg hwaits] at h
        intro hlive
        refine h (hlive.imp_right ?_)
        rintro ⟨older, holder, hpending⟩
        exact ⟨older, List.mem_of_mem_filter holder, waits_of_answered hpending⟩

end Answers

end WebSsh2.Library.Requests

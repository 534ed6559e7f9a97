import Mathlib.Data.List.Basic
import Mathlib.Data.List.Count
import Mathlib.Data.List.Induction

namespace WebSsh2.Library.Trace

variable {α : Type*}

-- After a marked entry no loud one follows.
def QuietAfter (mark loud : α → Bool) : List α → Prop
  | [] => True
  | entry :: rest =>
    (mark entry = true → ∀ later ∈ rest, loud later = false) ∧ QuietAfter mark loud rest

instance QuietAfter.decidable (mark loud : α → Bool) :
    ∀ log, Decidable (QuietAfter mark loud log)
  | [] => inferInstanceAs (Decidable True)
  | entry :: rest =>
    have := QuietAfter.decidable mark loud rest
    inferInstanceAs (Decidable ((mark entry = true → ∀ later ∈ rest, loud later = false) ∧
      QuietAfter mark loud rest))

variable {mark loud : α → Bool} {log : List α}

theorem quietAfter_iff :
    QuietAfter mark loud log ↔
      ∀ before entry after, log = before ++ entry :: after → mark entry = true →
        ∀ later ∈ after, loud later = false := by
  induction log with
  | nil => simp [QuietAfter]
  | cons head rest ih =>
    constructor
    · rintro ⟨hhead, hrest⟩ before entry after hlog
      cases before with
      | nil =>
        obtain ⟨rfl, rfl⟩ := List.cons.inj hlog
        exact hhead
      | cons first before =>
        obtain ⟨rfl, htail⟩ := List.cons.inj hlog
        exact ih.mp hrest before entry after htail
    · intro h
      refine ⟨h [] head rest rfl, ih.mpr ?_⟩
      intro before entry after hlog
      exact h (head :: before) entry after (by rw [hlog, List.cons_append])

theorem quietAfter_of_unmarked (h : ∀ entry ∈ log, mark entry = false) :
    QuietAfter mark loud log := by
  induction log with
  | nil => trivial
  | cons head rest ih =>
    refine ⟨fun hmark => ?_, ih fun entry hin => h entry (List.mem_cons_of_mem _ hin)⟩
    cases hmark.symm.trans (h head List.mem_cons_self)

theorem quietAfter_singleton (mark loud : α → Bool) (entry : α) :
    QuietAfter mark loud [entry] :=
  ⟨fun _ => nofun, trivial⟩

-- What is added to a quiet log must be quiet where the log has a mark already.
theorem quietAfter_append {log more : List α} :
    QuietAfter mark loud (log ++ more) ↔
      QuietAfter mark loud log ∧ QuietAfter mark loud more ∧
        (log.any mark = true → ∀ later ∈ more, loud later = false) := by
  induction log with
  | nil => simp [QuietAfter]
  | cons head rest ih =>
    simp only [List.cons_append, QuietAfter, ih, List.any_cons, Bool.or_eq_true]
    constructor
    · rintro ⟨hhead, hrest, hmore, hlater⟩
      refine ⟨⟨fun hmark later hin => hhead hmark later (List.mem_append_left _ hin), hrest⟩,
        hmore, ?_⟩
      rintro (hmark | hany)
      · exact fun later hin => hhead hmark later (List.mem_append_right _ hin)
      · exact hlater hany
    · rintro ⟨⟨hhead, hrest⟩, hmore, hlater⟩
      refine ⟨fun hmark later hin => ?_, hrest, hmore, fun hany => hlater (.inr hany)⟩
      rcases List.mem_append.mp hin with hold | hnew
      · exact hhead hmark later hold
      · exact hlater (.inl hmark) later hnew

-- No loud entry stands before the first marked one.
def Preceded (mark loud : α → Bool) : List α → Prop
  | [] => True
  | entry :: rest => mark entry = true ∨ (loud entry = false ∧ Preceded mark loud rest)

theorem preceded_append {log more : List α} (h : Preceded mark loud log)
    (hmore : log.any mark = true ∨ Preceded mark loud more) : Preceded mark loud (log ++ more) := by
  induction log with
  | nil => exact hmore.resolve_left (by simp)
  | cons head rest ih =>
    rcases h with hmark | ⟨hquiet, hrest⟩
    · exact .inl hmark
    · cases hhead : mark head with
      | true => exact .inl hhead
      | false =>
        refine .inr ⟨hquiet, ih hrest ?_⟩
        rwa [List.any_cons, hhead, Bool.false_or] at hmore

theorem preceded_of_quiet (h : ∀ entry ∈ log, loud entry = false) : Preceded mark loud log := by
  induction log with
  | nil => trivial
  | cons head rest ih =>
    exact .inr ⟨h head List.mem_cons_self,
      ih fun entry hin => h entry (List.mem_cons_of_mem _ hin)⟩

-- A part that has no mark yet is not loud either.
theorem quiet_of_preceded {before after : List α} (h : Preceded mark loud (before ++ after))
    (hmark : before.any mark = false) : ∀ entry ∈ before, loud entry = false := by
  induction before with
  | nil => exact nofun
  | cons head rest ih =>
    rw [List.any_cons, Bool.or_eq_false_iff] at hmark
    rcases h with hhead | ⟨hquiet, hrest⟩
    · cases hmark.1.symm.trans hhead
    · intro entry hin
      rcases List.mem_cons.mp hin with rfl | hmem
      · exact hquiet
      · exact ih hrest hmark.2 entry hmem

-- In every part of the log from its start, what goes up is at most `bound` ahead of
-- what goes down.
def Within (up down : α → Bool) (bound : Nat) (log : List α) : Prop :=
  ∀ before, before <+: log → before.countP up ≤ before.countP down + bound

theorem within_nil (up down : α → Bool) (bound : Nat) : Within up down bound [] := by
  intro before hpre
  rw [List.prefix_nil.mp hpre]
  simp

theorem within_concat {up down : α → Bool} {bound : Nat} {entry : α} (h : Within up down bound log)
    (hentry : (log ++ [entry]).countP up ≤ (log ++ [entry]).countP down + bound) :
    Within up down bound (log ++ [entry]) := by
  intro before hpre
  rcases List.prefix_concat_iff.mp hpre with rfl | hold
  · exact hentry
  · exact h before hold

-- An entry that does not go up cannot break the bound.
theorem within_concat_of_not_up {up down : α → Bool} {bound : Nat} {entry : α}
    (h : Within up down bound log) (hentry : up entry = false) :
    Within up down bound (log ++ [entry]) := by
  refine within_concat h ?_
  have hlog := h log (List.prefix_refl log)
  simp only [List.countP_append, List.countP_singleton, hentry, Bool.false_eq_true, if_false]
  omega

-- Every entry is as it should be after what is before it.
def History (P : List α → α → Prop) (log : List α) : Prop :=
  ∀ before entry after, log = before ++ entry :: after → P before entry

theorem history_nil (P : List α → α → Prop) : History P [] := by
  intro before entry after hlog
  cases before <;> cases hlog

theorem history_concat {P : List α → α → Prop} {entry : α} :
    History P (log ++ [entry]) ↔ History P log ∧ P log entry := by
  constructor
  · intro h
    refine ⟨fun before earlier after hlog => ?_, h log entry [] rfl⟩
    exact h before earlier (after ++ [entry]) (by rw [hlog, List.append_assoc, List.cons_append])
  · rintro ⟨hlog, hentry⟩ before other after hsplit
    rcases List.eq_nil_or_concat after with rfl | ⟨after, last, rfl⟩
    · obtain ⟨rfl, hlast⟩ := List.append_inj' hsplit rfl
      obtain rfl := List.singleton_inj.mp hlast
      exact hentry
    · have hinit : log ++ [entry] = (before ++ other :: after) ++ [last] := by
        rw [hsplit, List.append_assoc, List.cons_append, List.concat_eq_append]
      exact hlog before other after (List.append_inj' hinit rfl).1

theorem history_mono {P Q : List α → α → Prop}
    (hmono : ∀ before entry, P before entry → Q before entry) (h : History P log) : History Q log :=
  fun before entry after hlog => hmono before entry (h before entry after hlog)

-- What comes only where it did not come before comes once.
theorem countP_le_one {mark : α → Bool}
    (h : History (fun before entry => mark entry = true → ∀ earlier ∈ before, mark earlier = false) log) :
    log.countP mark ≤ 1 := by
  induction log using List.reverseRecOn with
  | nil => exact Nat.zero_le 1
  | append_singleton log entry ih =>
    obtain ⟨hlog, hentry⟩ := history_concat.mp h
    rw [List.countP_append, List.countP_singleton]
    by_cases hmark : mark entry = true
    · have hnone : log.countP mark = 0 :=
        List.countP_eq_zero.mpr fun earlier hmem => by simp [hentry hmark earlier hmem]
      have hone : log.countP mark + (if mark entry = true then 1 else 0) = 1 := by
        rw [hnone, if_pos hmark]
      exact Nat.le_of_eq hone
    · rw [if_neg hmark]
      exact ih hlog

-- What follows the first marked entry.
def since (mark : α → Bool) : List α → List α
  | [] => []
  | entry :: rest => if mark entry then rest else since mark rest

theorem since_concat (mark : α → Bool) (log : List α) (entry : α) :
    since mark (log ++ [entry]) = if log.any mark then since mark log ++ [entry] else [] := by
  induction log with
  | nil => simp [since]
  | cons head rest ih =>
    rw [List.cons_append, since, since, List.any_cons]
    by_cases hmark : mark head = true
    · rw [if_pos hmark, if_pos hmark, hmark, Bool.true_or, if_pos rfl]
    · rw [if_neg hmark, if_neg hmark, Bool.eq_false_iff.mpr hmark, Bool.false_or]
      exact ih

end WebSsh2.Library.Trace

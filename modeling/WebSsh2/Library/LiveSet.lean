import Mathlib.Data.List.ReduceOption

namespace WebSsh2.Library

-- A set in the order its items came in, which a loop may walk through while it changes.
-- What is deleted leaves its slot empty, so that a position means the same before and after.
structure LiveSet (α : Type*) where
  slots : List (Option α)
  nodup : slots.reduceOption.Nodup

namespace LiveSet

variable {α : Type*} [DecidableEq α]

def empty : LiveSet α where
  slots := []
  nodup := List.nodup_nil

def has (set : LiveSet α) (item : α) : Bool :=
  some item ∈ set.slots

def size (set : LiveSet α) : Nat :=
  set.slots.reduceOption.length

def add (set : LiveSet α) (item : α) : LiveSet α where
  slots := if some item ∈ set.slots then set.slots else set.slots ++ [some item]
  nodup := by
    split
    · exact set.nodup
    · rename_i hnew
      rw [List.reduceOption_append, List.nodup_append]
      refine ⟨set.nodup, List.pairwise_singleton _ item, ?_⟩
      intro first hfirst second hsecond heq
      rw [List.mem_singleton.mp hsecond] at heq
      exact hnew (List.reduceOption_mem_iff.mp (heq ▸ hfirst))

def emptied (item : α) (slot : Option α) : Option α :=
  if slot = some item then none else slot

theorem reduceOption_emptied (item : α) (slots : List (Option α)) :
    (slots.map (emptied item)).reduceOption = slots.reduceOption.filter (· ≠ item) := by
  induction slots with
  | nil => rfl
  | cons slot rest ih =>
    cases slot with
    | none => simpa [emptied] using ih
    | some other =>
      by_cases heq : other = item
      · simpa [emptied, heq] using ih
      · simpa [emptied, heq] using ih

def delete (set : LiveSet α) (item : α) : LiveSet α where
  slots := set.slots.map (emptied item)
  nodup := by
    rw [reduceOption_emptied]
    exact set.nodup.filter _

-- The first item at the position or behind it, with the position after it.
def firstFrom (position : Nat) : List (Option α) → Option (α × Nat)
  | [] => none
  | some item :: _ => some (item, position + 1)
  | none :: rest => firstFrom (position + 1) rest

def next (set : LiveSet α) (position : Nat) : Option (α × Nat) :=
  firstFrom position (set.slots.drop position)

-- A loop that has come to the position has the item before it.
def isAhead (set : LiveSet α) (position : Nat) (item : α) : Bool :=
  some item ∈ set.slots.drop position

variable {set : LiveSet α} {item other : α} {position : Nat}

omit [DecidableEq α] in
theorem firstFrom_none {slots : List (Option α)} (h : firstFrom position slots = none) :
    some item ∉ slots := by
  induction slots generalizing position with
  | nil => exact List.not_mem_nil
  | cons slot rest ih =>
    cases slot with
    | none =>
      intro hmem
      exact ih h (List.mem_of_ne_of_mem (by simp) hmem)
    | some other => cases h

omit [DecidableEq α] in
theorem firstFrom_some {slots : List (Option α)} {after : Nat}
    (h : firstFrom position slots = some (other, after)) :
    ∃ gap, slots = List.replicate gap none ++ some other :: slots.drop (gap + 1) ∧
      after = position + gap + 1 := by
  induction slots generalizing position with
  | nil => cases h
  | cons slot rest ih =>
    cases slot with
    | none =>
      obtain ⟨gap, hslots, hafter⟩ := ih h
      refine ⟨gap + 1, ?_, by omega⟩
      rw [List.replicate_succ, List.cons_append, List.drop_succ_cons, ← hslots]
    | some first =>
      cases h
      exact ⟨0, rfl, rfl⟩

theorem isAhead_zero : set.isAhead 0 item = set.has item := rfl

theorem size_ne_zero (h : set.has item = true) : set.size ≠ 0 := by
  have hmem := List.reduceOption_mem_iff.mpr (of_decide_eq_true h)
  exact Nat.ne_of_gt (List.length_pos_of_mem hmem)

-- What is in the set already is ahead of the same positions after another item is added.
theorem isAhead_add (h : set.has item = true) :
    (set.add other).isAhead position item = set.isAhead position item := by
  have hmem := of_decide_eq_true h
  unfold isAhead add
  split
  · rfl
  · rename_i hnew
    have hne : item ≠ other := by
      rintro rfl
      exact hnew hmem
    rw [List.drop_append]
    cases position - set.slots.length with
    | zero => simp [hne]
    | succ count => simp

theorem isAhead_delete (hne : item ≠ other) :
    (set.delete other).isAhead position item = set.isAhead position item := by
  unfold isAhead delete
  rw [← List.map_drop]
  simp only [decide_eq_decide, List.mem_map]
  constructor
  · rintro ⟨slot, hmem, heq⟩
    unfold emptied at heq
    split at heq
    · cases heq
    · rwa [heq] at hmem
  · intro hmem
    exact ⟨some item, hmem, by simp [emptied, hne]⟩

theorem has_delete_self : (set.delete item).has item = false := by
  unfold has delete
  simp only [decide_eq_false_iff_not, List.mem_map]
  rintro ⟨slot, -, heq⟩
  unfold emptied at heq
  split at heq
  · cases heq
  · contradiction

theorem next_none (h : set.next position = none) : set.isAhead position item = false :=
  decide_eq_false (firstFrom_none h)

-- The step of the loop passes the item it finds, and no other.
theorem next_some {after : Nat} (h : set.next position = some (other, after)) :
    set.isAhead position other = true ∧
      ∀ item, set.isAhead after item = (set.isAhead position item && decide (item ≠ other)) := by
  obtain ⟨gap, hslots, hafter⟩ := firstFrom_some h
  have hnodup : (set.slots.drop position).reduceOption.Nodup :=
    set.nodup.sublist (List.Sublist.filterMap _ (List.drop_sublist position set.slots))
  have hrest : (set.slots.drop position).drop (gap + 1) = set.slots.drop after := by
    rw [List.drop_drop, hafter, Nat.add_assoc]
  rw [hrest] at hslots
  rw [hslots, List.reduceOption_append, List.reduceOption_cons_of_some, List.nodup_append] at hnodup
  have hpassed : some other ∉ set.slots.drop after := fun hmem =>
    (List.nodup_cons.mp hnodup.2.1).1 (List.reduceOption_mem_iff.mpr hmem)
  unfold isAhead
  rw [hslots]
  refine ⟨by simp, fun item => ?_⟩
  by_cases heq : item = other
  · subst heq
    simp [hpassed]
  · simp [heq]

end LiveSet

end WebSsh2.Library

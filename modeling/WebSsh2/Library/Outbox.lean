import Mathlib.Data.List.Sort

-- Items that are accepted in some order, wait, and are taken. Each has its number
-- beside it, so that equal items are told apart.
namespace WebSsh2.Library

structure Outbox (α : Type) where
  accepted : List α := []
  waiting : List (α × Nat) := []
  taken : List (α × Nat) := []

namespace Outbox

section Operations

variable {α : Type}

def enqueue (item : α) (box : Outbox α) : Outbox α :=
  { box with
    accepted := box.accepted ++ [item]
    waiting := box.waiting ++ [(item, box.accepted.length)] }

-- An item that is taken at once.
def pass (item : α) (box : Outbox α) : Outbox α :=
  { box with
    accepted := box.accepted ++ [item]
    taken := box.taken ++ [(item, box.accepted.length)] }

-- Some of the first items that wait are taken, and others are left.
def hand (written left : List (α × Nat)) (box : Outbox α) : Outbox α :=
  { box with waiting := left, taken := box.taken ++ written }

-- What was taken was accepted, each item once and in this order.
def InOrder (box : Outbox α) : Prop :=
  box.taken.Sublist box.accepted.zipIdx

def Complete (box : Outbox α) : Prop :=
  box.taken = box.accepted.zipIdx

-- The first item that waits was taken before, or one behind it was.
def Overdue (box : Outbox α) : Prop :=
  ∃ head ∈ box.waiting.head?, ∃ entry ∈ box.taken, head.2 ≤ entry.2

structure Tracked (box : Outbox α) : Prop where
  waiting : box.waiting.Sublist box.accepted.zipIdx
  taken : ∀ entry ∈ box.taken, entry ∈ box.accepted.zipIdx
  covered : ∀ entry ∈ box.accepted.zipIdx, entry ∈ box.waiting ∨ entry ∈ box.taken

end Operations

section Numbers

variable {α : Type}

def Before (first second : α × Nat) : Prop :=
  first.2 < second.2

instance : Std.Irrefl (Before (α := α)) where
  irrefl entry := Nat.lt_irrefl entry.2

instance : Std.Antisymm (Before (α := α)) where
  antisymm _ _ hfirst hsecond := absurd hfirst (Nat.lt_asymm hsecond)

theorem zipIdx_append_singleton (items : List α) (item : α) :
    (items ++ [item]).zipIdx = items.zipIdx ++ [(item, items.length)] := by
  simp [List.zipIdx_append]

theorem zipIdx_pairwise (items : List α) : items.zipIdx.Pairwise Before := by
  rw [List.pairwise_iff_getElem]
  intro i j hi hj hij
  simpa [Before] using hij

-- Numbered items that only go up are a sublist of all of them.
theorem sublist_zipIdx_iff {entries : List (α × Nat)} {items : List α} :
    entries.Sublist items.zipIdx ↔
      (∀ entry ∈ entries, entry ∈ items.zipIdx) ∧ entries.Pairwise Before := by
  constructor
  · intro h
    exact ⟨fun entry hentry => h.subset hentry, (zipIdx_pairwise items).sublist h⟩
  · rintro ⟨hmem, hpairwise⟩
    exact List.sublist_of_subperm_of_pairwise (List.subperm_of_subset hpairwise.nodup hmem)
      hpairwise (zipIdx_pairwise items)

end Numbers

section Steps

variable {α : Type} {box : Outbox α}

theorem tracked_empty : Tracked ({} : Outbox α) where
  waiting := List.Sublist.refl _
  taken _ hentry := absurd hentry List.not_mem_nil
  covered _ hentry := absurd hentry List.not_mem_nil

theorem tracked_enqueue (h : Tracked box) (item : α) : Tracked (enqueue item box) where
  waiting := by
    rw [enqueue, zipIdx_append_singleton]
    exact h.waiting.append (List.Sublist.refl _)
  taken entry hentry := by
    rw [enqueue, zipIdx_append_singleton]
    exact List.mem_append_left _ (h.taken entry hentry)
  covered entry hentry := by
    rw [enqueue, zipIdx_append_singleton] at hentry
    rcases List.mem_append.mp hentry with hold | hnew
    · apply (h.covered entry hold).imp_left
      exact List.mem_append_left _
    · exact .inl (List.mem_append_right _ hnew)

theorem tracked_pass (h : Tracked box) (item : α) : Tracked (pass item box) where
  waiting := by
    rw [pass, zipIdx_append_singleton]
    exact h.waiting.trans (List.sublist_append_left _ _)
  taken entry hentry := by
    rw [pass, zipIdx_append_singleton]
    rcases List.mem_append.mp hentry with hold | hnew
    · exact List.mem_append_left _ (h.taken entry hold)
    · exact List.mem_append_right _ hnew
  covered entry hentry := by
    rw [pass, zipIdx_append_singleton] at hentry
    rcases List.mem_append.mp hentry with hold | hnew
    · apply (h.covered entry hold).imp_right
      exact List.mem_append_left _
    · exact .inr (List.mem_append_right _ hnew)

-- Nothing is lost between what is written and what is left.
structure Splits (written left waiting : List (α × Nat)) : Prop where
  written_isPrefix : written <+: waiting
  left_suffix : left <:+ waiting
  covered : ∀ entry ∈ waiting, entry ∈ written ∨ entry ∈ left

theorem tracked_hand {written left : List (α × Nat)} (h : Tracked box)
    (hsplit : Splits written left box.waiting) : Tracked (hand written left box) where
  waiting := hsplit.left_suffix.sublist.trans h.waiting
  taken entry hentry := by
    rcases List.mem_append.mp hentry with hold | hnew
    · exact h.taken entry hold
    · exact h.waiting.subset (hsplit.written_isPrefix.subset hnew)
  covered entry hentry := by
    rcases h.covered entry hentry with hwaiting | htaken
    · rcases hsplit.covered entry hwaiting with hwritten | hleft
      · exact .inr (List.mem_append_right _ hwritten)
      · exact .inl hleft
    · exact .inr (List.mem_append_left _ htaken)

theorem inOrder_enqueue (h : InOrder box) (item : α) : InOrder (enqueue item box) := by
  rw [InOrder, enqueue, zipIdx_append_singleton]
  exact h.trans (List.sublist_append_left _ _)

theorem inOrder_pass (h : InOrder box) (item : α) : InOrder (pass item box) := by
  rw [InOrder, pass, zipIdx_append_singleton]
  exact h.append (List.Sublist.refl _)

theorem inOrder_hand_iff {written left : List (α × Nat)} (htracked : Tracked box)
    (h : InOrder box) (hleads : written <+: box.waiting) :
    InOrder (hand written left box) ↔ (written ≠ [] → ¬Overdue box) := by
  have hwaiting := (sublist_zipIdx_iff.mp htracked.waiting).2
  have hwritten : written.Pairwise Before := hwaiting.sublist hleads.sublist
  have htaken := sublist_zipIdx_iff.mp h
  rw [InOrder, sublist_zipIdx_iff]
  simp only [hand, List.pairwise_append]
  constructor
  · rintro ⟨-, -, -, hall⟩ hne ⟨head, hhead, entry, hentry, hle⟩
    obtain ⟨first, rest, rfl⟩ := List.exists_cons_of_ne_nil hne
    obtain ⟨later, hlater⟩ := hleads
    rw [← hlater, List.cons_append, List.head?_cons, Option.mem_some_iff] at hhead
    subst hhead
    have hlt : entry.2 < first.2 := hall entry hentry first List.mem_cons_self
    omega
  · intro hdue
    refine ⟨?_, htaken.2, hwritten, ?_⟩
    · intro entry hentry
      rcases List.mem_append.mp hentry with hold | hnew
      · exact htracked.taken entry hold
      · exact htracked.waiting.subset (hleads.subset hnew)
    · intro entry hentry next hnext
      by_contra hnot
      have hne : written ≠ [] := List.ne_nil_of_mem hnext
      obtain ⟨first, rest, rfl⟩ := List.exists_cons_of_ne_nil hne
      obtain ⟨later, hlater⟩ := hleads
      refine hdue hne ⟨first, by rw [← hlater]; rfl, entry, hentry, ?_⟩
      have hfirst : first.2 ≤ next.2 := by
        rcases List.mem_cons.mp hnext with rfl | hrest
        · exact le_refl _
        · exact Nat.le_of_lt (List.rel_of_pairwise_cons hwritten hrest)
      simp only [Before] at hnot
      omega

theorem complete_iff (htracked : Tracked box) (h : InOrder box) :
    Complete box ↔ ∀ entry ∈ box.waiting, entry ∈ box.taken := by
  constructor
  · intro hcomplete entry hentry
    rw [hcomplete]
    exact htracked.waiting.subset hentry
  · intro hall
    apply List.Subset.antisymm_of_pairwise (sublist_zipIdx_iff.mp h).2 (zipIdx_pairwise _) h.subset
    intro entry hentry
    rcases htracked.covered entry hentry with hwaiting | htaken
    · exact hall entry hwaiting
    · exact htaken

end Steps

end Outbox

end WebSsh2.Library

import Mathlib.Data.List.Nodup
import Mathlib.Logic.Function.Basic

namespace WebSsh2.Library

-- One place for each key, and a record of what was ever made and of what was released.
structure Slots (κ ρ : Type*) where
  stored : κ → Option ρ
  made : List (κ × ρ)
  released : List ρ

namespace Slots

section Operations

variable {κ ρ : Type*}

-- Nothing that was made is lost: it is in its place, or it was released.
def Accounted (slots : Slots κ ρ) : Prop :=
  ∀ key resource, (key, resource) ∈ slots.made →
    slots.stored key = some resource ∨ resource ∈ slots.released

structure Sound (slots : Slots κ ρ) : Prop where
  made : ∀ key resource, slots.stored key = some resource → (key, resource) ∈ slots.made
  held : ∀ key resource, slots.stored key = some resource → resource ∉ slots.released
  released : ∀ resource ∈ slots.released, resource ∈ slots.made.map Prod.snd
  distinct : (slots.made.map Prod.snd).Nodup

variable {resource : ρ}

theorem Sound.key_eq {slots : Slots κ ρ} (h : slots.Sound) {key other : κ}
    (hkey : (key, resource) ∈ slots.made) (hother : (other, resource) ∈ slots.made) : key = other :=
  congrArg Prod.fst (List.inj_on_of_nodup_map h.distinct hkey hother rfl)

variable [DecidableEq κ]

-- The new resource takes the place, whatever was there.
def fill (slots : Slots κ ρ) (key : κ) (resource : ρ) : Slots κ ρ where
  stored := Function.update slots.stored key (some resource)
  made := slots.made ++ [(key, resource)]
  released := slots.released

-- The place is emptied, and what was there is released, unless that fails.
def clear (slots : Slots κ ρ) (key : κ) (releases : Bool) : Slots κ ρ where
  stored := Function.update slots.stored key none
  made := slots.made
  released := if releases then (slots.stored key).toList ++ slots.released else slots.released

variable {slots : Slots κ ρ} {key : κ}

@[simp] theorem stored_fill (resource : ρ) :
    (slots.fill key resource).stored = Function.update slots.stored key (some resource) := rfl

@[simp] theorem made_fill (resource : ρ) :
    (slots.fill key resource).made = slots.made ++ [(key, resource)] := rfl

@[simp] theorem stored_clear (releases : Bool) :
    (slots.clear key releases).stored = Function.update slots.stored key none := rfl

theorem stored_fill_cases {resource other : ρ} {k : κ}
    (h : (slots.fill key resource).stored k = some other) :
    (k = key ∧ other = resource) ∨ (k ≠ key ∧ slots.stored k = some other) := by
  by_cases hkey : k = key
  · subst hkey
    rw [stored_fill, Function.update_self] at h
    exact .inl ⟨rfl, (Option.some.inj h).symm⟩
  · rw [stored_fill, Function.update_of_ne hkey] at h
    exact .inr ⟨hkey, h⟩

theorem stored_of_clear {releases : Bool} {other : ρ} {k : κ}
    (h : (slots.clear key releases).stored k = some other) :
    k ≠ key ∧ slots.stored k = some other := by
  by_cases hkey : k = key
  · subst hkey
    rw [stored_clear, Function.update_self] at h
    cases h
  · rw [stored_clear, Function.update_of_ne hkey] at h
    exact ⟨hkey, h⟩

theorem mem_released_clear {releases : Bool} :
    resource ∈ (slots.clear key releases).released ↔
      (releases = true ∧ slots.stored key = some resource) ∨ resource ∈ slots.released := by
  cases releases with
  | true =>
    show resource ∈ (slots.stored key).toList ++ slots.released ↔ _
    rw [List.mem_append, Option.mem_toList, and_iff_right rfl]
  | false => simp [clear]

theorem Sound.fill (h : slots.Sound) (hfresh : resource ∉ slots.made.map Prod.snd) :
    (slots.fill key resource).Sound := by
  constructor
  · intro k other hstored
    rcases stored_fill_cases hstored with ⟨rfl, rfl⟩ | ⟨-, hstored⟩
    · exact List.mem_append_right _ (List.mem_singleton.mpr rfl)
    · exact List.mem_append_left _ (h.made k other hstored)
  · intro k other hstored hreleased
    rcases stored_fill_cases hstored with ⟨rfl, rfl⟩ | ⟨-, hstored⟩
    · exact hfresh (h.released other hreleased)
    · exact h.held k other hstored hreleased
  · intro other hreleased
    rw [made_fill, List.map_append]
    exact List.mem_append_left _ (h.released other hreleased)
  · rw [made_fill, List.map_append]
    refine List.nodup_append.mpr ⟨h.distinct, List.nodup_singleton _, ?_⟩
    intro other hother last hlast heq
    obtain rfl := List.mem_singleton.mp hlast
    subst heq
    exact hfresh hother

theorem Sound.clear (h : slots.Sound) (releases : Bool) : (slots.clear key releases).Sound := by
  constructor
  · intro k other hstored
    exact h.made k other (stored_of_clear hstored).2
  · intro k other hstored hreleased
    obtain ⟨hne, hstored⟩ := stored_of_clear hstored
    rcases mem_released_clear.mp hreleased with ⟨-, hkey⟩ | hreleased
    · exact hne (h.key_eq (h.made k other hstored) (h.made key other hkey))
    · exact h.held k other hstored hreleased
  · intro other hreleased
    rcases mem_released_clear.mp hreleased with ⟨-, hkey⟩ | hreleased
    · exact List.mem_map_of_mem (h.made key other hkey)
    · exact h.released other hreleased
  · exact h.distinct

-- A new resource is accounted for, and the others still are, exactly if its place was empty.
theorem accounted_fill_iff (hsound : slots.Sound) (haccounted : slots.Accounted)
    (hfresh : resource ∉ slots.made.map Prod.snd) :
    (slots.fill key resource).Accounted ↔ slots.stored key = none := by
  constructor
  · intro h
    cases hstored : slots.stored key with
    | none => rfl
    | some old =>
      have hmade := hsound.made key old hstored
      rcases h key old (List.mem_append_left _ hmade) with hafter | hreleased
      · rw [stored_fill, Function.update_self] at hafter
        obtain rfl := Option.some.inj hafter
        exact absurd (List.mem_map_of_mem hmade) hfresh
      · exact absurd hreleased (hsound.held key old hstored)
  · intro hempty k other hmade
    rcases List.mem_append.mp hmade with hmade | hmade
    · rcases haccounted k other hmade with hstored | hreleased
      · have hne : k ≠ key := by
          rintro rfl
          rw [hempty] at hstored
          cases hstored
        refine .inl ?_
        rw [stored_fill, Function.update_of_ne hne]
        exact hstored
      · exact .inr hreleased
    · obtain ⟨rfl, rfl⟩ := Prod.mk.inj (List.mem_singleton.mp hmade)
      exact .inl (Function.update_self ..)

theorem accounted_clear_iff (hsound : slots.Sound) (haccounted : slots.Accounted)
    (releases : Bool) :
    (slots.clear key releases).Accounted ↔ (releases = false → slots.stored key = none) := by
  constructor
  · rintro h rfl
    cases hstored : slots.stored key with
    | none => rfl
    | some old =>
      rcases h key old (hsound.made key old hstored) with hafter | hreleased
      · exact absurd rfl (stored_of_clear hafter).1
      · exact absurd hreleased (hsound.held key old hstored)
  · intro hreleases k other hmade
    rcases haccounted k other hmade with hstored | hreleased
    · by_cases hkey : k = key
      · subst hkey
        refine .inr (mem_released_clear.mpr (.inl ⟨?_, hstored⟩))
        by_contra hfalse
        rw [hreleases (Bool.not_eq_true _ ▸ hfalse)] at hstored
        cases hstored
      · refine .inl ?_
        rw [stored_clear, Function.update_of_ne hkey]
        exact hstored
    · exact .inr (mem_released_clear.mpr (.inr hreleased))

-- What was made for a key and is not released.
def live [DecidableEq ρ] (slots : Slots κ ρ) (key : κ) : List (κ × ρ) :=
  slots.made.filter fun pair => pair.1 = key ∧ pair.2 ∉ slots.released

theorem live_length_le_one [DecidableEq ρ] (hsound : slots.Sound) (haccounted : slots.Accounted)
    (key : κ) : (slots.live key).length ≤ 1 := by
  have hnodup : (slots.live key).Nodup := (List.Nodup.of_map _ hsound.distinct).filter _
  have hstored : ∀ pair ∈ slots.live key, pair.1 = key ∧ slots.stored key = some pair.2 := by
    intro pair hmem
    obtain ⟨hmade, hlive⟩ := List.mem_filter.mp hmem
    obtain ⟨hkey, hheld⟩ := of_decide_eq_true hlive
    exact ⟨hkey, hkey ▸ (haccounted pair.1 pair.2 hmade).resolve_right hheld⟩
  cases hlive : slots.live key with
  | nil => exact Nat.zero_le 1
  | cons first rest =>
    cases rest with
    | nil => exact Nat.le_refl 1
    | cons second rest =>
      rw [hlive] at hnodup hstored
      obtain ⟨hfirstKey, hfirst⟩ := hstored first List.mem_cons_self
      obtain ⟨hsecondKey, hsecond⟩ :=
        hstored second (List.mem_cons_of_mem _ List.mem_cons_self)
      have heq : first = second :=
        Prod.ext (hfirstKey.trans hsecondKey.symm)
          (Option.some.inj (hfirst.symm.trans hsecond))
      exact absurd (heq ▸ List.mem_cons_self) (List.nodup_cons.mp hnodup).1

end Operations

end Slots

end WebSsh2.Library

import Mathlib.Data.List.Nodup
import Mathlib.Data.Finset.Card
import Mathlib.Logic.Relation

-- Calls that call each other and wait: those in flight, and those whose code runs,
-- where one that waits gives way to any other.
namespace WebSsh2.Library.Nesting

structure Call (κ τ : Type) where
  id : Nat
  key : κ
  caller : Option Nat
  tag : τ
deriving DecidableEq

structure Flight (κ τ : Type) where
  calls : List (Call κ τ)
  -- The innermost one comes first.
  running : List Nat
  next : Nat

namespace Flight

variable {κ τ : Type}

def empty : Flight κ τ :=
  { calls := [], running := [], next := 0 }

def enter (flight : Flight κ τ) (key : κ) (tag : τ) : Flight κ τ :=
  { calls := ⟨flight.next, key, flight.running.head?, tag⟩ :: flight.calls
    running := flight.next :: flight.running
    next := flight.next + 1 }

def pause (flight : Flight κ τ) : Flight κ τ :=
  { flight with running := flight.running.tail }

def resume (flight : Flight κ τ) (id : Nat) : Flight κ τ :=
  { flight with running := id :: flight.running }

def close [DecidableEq κ] [DecidableEq τ] (flight : Flight κ τ) (call : Call κ τ) :
    Flight κ τ :=
  { flight with calls := flight.calls.erase call }

def find (flight : Flight κ τ) (id : Nat) : Option (Call κ τ) :=
  flight.calls.find? fun call => call.id = id

-- The call whose code runs; none when that is outside code.
def current (flight : Flight κ τ) : Option (Call κ τ) :=
  flight.running.head?.bind flight.find

structure Sound (flight : Flight κ τ) : Prop where
  keys_nodup : (flight.calls.map Call.key).Nodup
  ids_nodup : (flight.calls.map Call.id).Nodup
  ids_lt : ∀ call ∈ flight.calls, call.id < flight.next
  callers_lt : ∀ call ∈ flight.calls, ∀ id ∈ call.caller, id < flight.next
  running_nodup : flight.running.Nodup
  running_sub : flight.running ⊆ flight.calls.map Call.id

theorem mem_of_find {flight : Flight κ τ} {id : Nat} {call : Call κ τ}
    (h : flight.find id = some call) : call ∈ flight.calls ∧ call.id = id := by
  have hid := List.find?_some h
  exact ⟨List.mem_of_find?_eq_some h, of_decide_eq_true hid⟩

theorem mem_of_current {flight : Flight κ τ} {call : Call κ τ}
    (h : flight.current = some call) :
    call ∈ flight.calls ∧ ∃ rest, flight.running = call.id :: rest := by
  unfold current at h
  cases hrunning : flight.running with
  | nil =>
    rw [hrunning] at h
    cases h
  | cons id rest =>
    rw [hrunning] at h
    obtain ⟨hmem, hid⟩ := mem_of_find (show flight.find id = some call from h)
    exact ⟨hmem, rest, by rw [hid]⟩

section Rules

variable {flight : Flight κ τ}

theorem sound_empty : (empty : Flight κ τ).Sound where
  keys_nodup := List.nodup_nil
  ids_nodup := List.nodup_nil
  ids_lt := fun _ h => absurd h List.not_mem_nil
  callers_lt := fun _ h => absurd h List.not_mem_nil
  running_nodup := List.nodup_nil
  running_sub := List.nil_subset _

theorem Sound.lt_of_running (h : flight.Sound) {id : Nat} (hid : id ∈ flight.running) :
    id < flight.next := by
  obtain ⟨call, hcall, rfl⟩ := List.mem_map.mp (h.running_sub hid)
  exact h.ids_lt call hcall

theorem Sound.enter (h : flight.Sound) {key : κ} (tag : τ)
    (hkey : key ∉ flight.calls.map Call.key) : (flight.enter key tag).Sound where
  keys_nodup := List.nodup_cons.mpr ⟨hkey, h.keys_nodup⟩
  ids_nodup := by
    refine List.nodup_cons.mpr ⟨fun hmem => ?_, h.ids_nodup⟩
    obtain ⟨call, hcall, hid⟩ := List.mem_map.mp hmem
    exact absurd hid (Nat.ne_of_lt (h.ids_lt call hcall))
  ids_lt := by
    refine List.forall_mem_cons.mpr ⟨Nat.lt_succ_self _, fun call hcall => ?_⟩
    exact Nat.lt_succ_of_lt (h.ids_lt call hcall)
  callers_lt := by
    refine List.forall_mem_cons.mpr ⟨fun id hid => ?_, fun call hcall id hid => ?_⟩
    · exact Nat.lt_succ_of_lt (h.lt_of_running (List.mem_of_mem_head? hid))
    · exact Nat.lt_succ_of_lt (h.callers_lt call hcall id hid)
  running_nodup := by
    refine List.nodup_cons.mpr ⟨fun hmem => ?_, h.running_nodup⟩
    exact absurd (h.lt_of_running hmem) (Nat.lt_irrefl _)
  running_sub := by
    refine List.cons_subset.mpr ⟨List.mem_cons_self, fun id hid => ?_⟩
    exact List.mem_cons_of_mem _ (h.running_sub hid)

theorem Sound.pause (h : flight.Sound) : flight.pause.Sound where
  keys_nodup := h.keys_nodup
  ids_nodup := h.ids_nodup
  ids_lt := h.ids_lt
  callers_lt := h.callers_lt
  running_nodup := h.running_nodup.sublist (List.tail_sublist _)
  running_sub := fun _ hid => h.running_sub (List.mem_of_mem_tail hid)

variable {call : Call κ τ}

theorem Sound.resume (h : flight.Sound) (hidle : flight.running = []) (hcall : call ∈ flight.calls) :
    (flight.resume call.id).Sound where
  keys_nodup := h.keys_nodup
  ids_nodup := h.ids_nodup
  ids_lt := h.ids_lt
  callers_lt := h.callers_lt
  running_nodup := by
    rw [Flight.resume, hidle]
    exact List.nodup_singleton _
  running_sub := by
    rw [Flight.resume, hidle]
    exact List.cons_subset.mpr ⟨List.mem_map_of_mem hcall, List.nil_subset _⟩

variable [DecidableEq κ] [DecidableEq τ]

theorem Sound.mem_close_iff (h : flight.Sound) {call other : Call κ τ} :
    other ∈ (flight.close call).calls ↔ other ≠ call ∧ other ∈ flight.calls :=
  (List.Nodup.of_map _ h.keys_nodup).mem_erase_iff

theorem Sound.close (h : flight.Sound) (hcall : call.id ∉ flight.running) :
    (flight.close call).Sound where
  keys_nodup := h.keys_nodup.sublist (List.erase_sublist.map _)
  ids_nodup := h.ids_nodup.sublist (List.erase_sublist.map _)
  ids_lt := fun other hother => h.ids_lt other (List.mem_of_mem_erase hother)
  callers_lt := fun other hother => h.callers_lt other (List.mem_of_mem_erase hother)
  running_nodup := h.running_nodup
  running_sub := by
    intro id hid
    obtain ⟨other, hother, rfl⟩ := List.mem_map.mp (h.running_sub hid)
    refine List.mem_map_of_mem (h.mem_close_iff.mpr ⟨?_, hother⟩)
    rintro rfl
    exact hcall hid

-- The code of a call that ends is the one that ran.
theorem Sound.finish (h : flight.Sound) (hcall : flight.current = some call) :
    (flight.pause.close call).Sound := by
  obtain ⟨_, rest, hrunning⟩ := mem_of_current hcall
  have hnodup := h.running_nodup
  rw [hrunning] at hnodup
  apply h.pause.close
  rw [Flight.pause, hrunning]
  exact (List.nodup_cons.mp hnodup).1

theorem Sound.key_of_close (h : flight.Sound) (hcall : call ∈ flight.calls) (key : κ) :
    key ∈ (flight.close call).calls.map Call.key ↔
      key ≠ call.key ∧ key ∈ flight.calls.map Call.key := by
  have hunique := List.inj_on_of_nodup_map h.keys_nodup
  constructor
  · intro hmem
    obtain ⟨other, hother, rfl⟩ := List.mem_map.mp hmem
    obtain ⟨hne, hin⟩ := h.mem_close_iff.mp hother
    exact ⟨fun heq => hne (hunique hin hcall heq), List.mem_map_of_mem hin⟩
  · rintro ⟨hne, hmem⟩
    obtain ⟨other, hother, rfl⟩ := List.mem_map.mp hmem
    exact List.mem_map_of_mem (h.mem_close_iff.mpr ⟨fun heq => hne (by rw [heq]), hother⟩)

end Rules

section Bounds

variable {flight : Flight κ τ}

-- Calls of different keys are no more than there are keys, however they are nested.
theorem Sound.length_le (h : flight.Sound) {keys : Finset κ}
    (hkeys : ∀ call ∈ flight.calls, call.key ∈ keys) :
    flight.running.length ≤ flight.calls.length ∧ flight.calls.length ≤ keys.card := by
  classical
  constructor
  · have hle := h.running_nodup.subperm h.running_sub
    exact hle.length_le.trans (List.length_map _).le
  · have hcard := List.toFinset_card_of_nodup h.keys_nodup
    rw [List.length_map] at hcard
    rw [← hcard]
    apply Finset.card_le_card
    intro key hkey
    obtain ⟨call, hcall, rfl⟩ := List.mem_map.mp (List.mem_toFinset.mp hkey)
    exact hkeys call hcall

end Bounds

section Callers

def CalledBy (flight : Flight κ τ) (call caller : Call κ τ) : Prop :=
  caller ∈ flight.calls ∧ call.caller = some caller.id

-- The second call is the first one, or waits for it through others.
def Below (flight : Flight κ τ) : Call κ τ → Call κ τ → Prop :=
  Relation.ReflTransGen (CalledBy flight)

-- Every call was made by one that depends on its key.
def Follows (Depends : κ → κ → Prop) (flight : Flight κ τ) : Prop :=
  ∀ call ∈ flight.calls, ∀ caller, CalledBy flight call caller → Depends caller.key call.key

variable {flight : Flight κ τ} {Depends : κ → κ → Prop}

theorem follows_enter (hsound : flight.Sound) (h : flight.Follows Depends) {key : κ} (tag : τ)
    (hcaller : ∀ call ∈ flight.calls, flight.running.head? = some call.id →
      Depends call.key key) : (flight.enter key tag).Follows Depends := by
  intro call hcall caller ⟨hmem, hid⟩
  have hlt : ∀ id ∈ call.caller, id < flight.next := by
    rcases List.mem_cons.mp hcall with rfl | hold
    · exact fun id hid => hsound.lt_of_running (List.mem_of_mem_head? hid)
    · exact hsound.callers_lt call hold
  have hold : caller ∈ flight.calls := by
    refine (List.mem_cons.mp hmem).resolve_left ?_
    rintro rfl
    exact absurd (hlt _ hid) (Nat.lt_irrefl _)
  rcases List.mem_cons.mp hcall with rfl | hmade
  · exact hcaller caller hold hid
  · exact h call hmade caller ⟨hold, hid⟩

theorem follows_of_subset {other : Flight κ τ} (hsub : other.calls ⊆ flight.calls)
    (h : flight.Follows Depends) : other.Follows Depends :=
  fun call hcall caller hcaller => h call (hsub hcall) caller ⟨hsub hcaller.1, hcaller.2⟩

variable {call above : Call κ τ}

theorem mem_of_below (hcall : call ∈ flight.calls) (h : flight.Below call above) :
    above ∈ flight.calls := by
  cases h with
  | refl => exact hcall
  | tail _ hlast => exact hlast.1

theorem depends_of_below (h : flight.Follows Depends) (hcall : call ∈ flight.calls)
    (hbelow : flight.Below call above) : Relation.ReflTransGen Depends above.key call.key := by
  induction hbelow with
  | refl => exact .refl
  | tail hbelow hlast ih => exact .head (h _ (mem_of_below hcall hbelow) _ hlast) ih

-- Where keys do not depend on themselves, no call is for a key further up.
theorem key_ne_of_below (hacyclic : ∀ key, ¬Relation.TransGen Depends key key)
    (h : flight.Follows Depends) {key : κ} (hcall : call ∈ flight.calls)
    (hbelow : flight.Below call above) (hkey : Depends call.key key) : above.key ≠ key := by
  rintro rfl
  exact hacyclic _ (Relation.TransGen.tail' (depends_of_below h hcall hbelow) hkey)

end Callers

end Flight

end WebSsh2.Library.Nesting

import Mathlib.Data.List.Dedup
import Mathlib.Data.List.DropRight

namespace WebSsh2.Library.RecentlyUsed

variable {κ : Type*} [DecidableEq κ]

-- A use moves its key to the end, where the keys used last stand.
def touch (key : κ) (keys : List κ) : List κ :=
  keys.filter (· ≠ key) ++ [key]

-- `dedup` keeps every key at its last use: it lists the keys from the one used
-- longest ago to the one used last.
theorem dedup_append_singleton (uses : List κ) (key : κ) :
    (uses ++ [key]).dedup = touch key uses.dedup := by
  induction uses with
  | nil => simp [touch]
  | cons head rest ih =>
    rw [List.cons_append]
    by_cases hrest : head ∈ rest
    · rw [List.dedup_cons_of_mem (List.mem_append_left _ hrest), ih,
        List.dedup_cons_of_mem hrest]
    · rw [List.dedup_cons_of_notMem hrest]
      by_cases hkey : head = key
      · subst hkey
        rw [List.dedup_cons_of_mem (List.mem_append_right _ List.mem_cons_self), ih]
        simp [touch]
      · have hnot : head ∉ rest ++ [key] := by simp [hrest, hkey]
        rw [List.dedup_cons_of_notMem hnot, ih]
        simp [touch, hkey]

theorem length_filter_ne_ge {keys : List κ} (hnodup : keys.Nodup) (key : κ) :
    keys.length ≤ (keys.filter (· ≠ key)).length + 1 := by
  have herase : keys.filter (· ≠ key) = keys.erase key := by
    rw [hnodup.erase_eq_filter key]
    exact List.filter_congr fun k _ => by simp [bne, beq_eq_decide]
  have hlength : keys.length - 1 ≤ (keys.erase key).length := by
    rw [List.length_erase]
    split <;> omega
  rw [herase]
  omega

omit [DecidableEq κ] in
theorem rtake_append_of_le {first second : List κ} {room : ℕ} (h : room ≤ second.length) :
    (first ++ second).rtake room = second.rtake room := by
  simp only [List.rtake, List.length_append]
  rw [show first.length + second.length - room = first.length + (second.length - room) by omega]
  exact List.drop_length_add_append _

omit [DecidableEq κ] in
theorem map_rtake {α : Type*} (f : α → κ) (items : List α) (room : ℕ) :
    (items.rtake room).map f = (items.map f).rtake room := by
  simp only [List.rtake, List.map_drop, List.length_map]

-- Keys given up earlier would not be kept after another use either.
theorem rtake_touch_rtake {keys : List κ} (hnodup : keys.Nodup) (key : κ) {room : ℕ}
    (hroom : 0 < room) :
    (touch key (keys.rtake room)).rtake room = (touch key keys).rtake room := by
  obtain ⟨rest, rfl⟩ : ∃ rest, room = rest + 1 := ⟨room - 1, by omega⟩
  simp only [touch, List.rtake_concat_succ]
  congr 1
  by_cases hshort : keys.length ≤ rest + 1
  · have hall : keys.rtake (rest + 1) = keys := by
      simp [List.rtake, Nat.sub_eq_zero_of_le hshort]
    rw [hall]
  · have hsplit : keys = keys.take (keys.length - (rest + 1)) ++ keys.rtake (rest + 1) :=
      (List.take_append_drop _ keys).symm
    have hkept : (keys.rtake (rest + 1)).Nodup := hnodup.sublist (List.drop_sublist _ _)
    have hlen : (keys.rtake (rest + 1)).length = rest + 1 := by
      simp only [List.rtake, List.length_drop]
      omega
    have hmost := length_filter_ne_ge hkept key
    conv_rhs => rw [hsplit, List.filter_append]
    exact (rtake_append_of_le (by omega)).symm

end WebSsh2.Library.RecentlyUsed

import Mathlib.Data.List.Basic
import Mathlib.Data.List.Nodup
import Mathlib.Data.List.Induction

namespace WebSsh2.Library

-- A map that lists its entries in the order in which their keys were first set.
structure OrderedMap (κ ν : Type*) where
  entries : List (κ × ν)
  nodup : (entries.map Prod.fst).Nodup

namespace OrderedMap

section Entries

variable {κ ν : Type*} [DecidableEq κ]

def lookupEntries (key : κ) : List (κ × ν) → Option ν
  | [] => none
  | (k, value) :: rest => if k = key then some value else lookupEntries key rest

-- An existing key keeps its position; a new key goes to the end.
def setEntries (key : κ) (value : ν) : List (κ × ν) → List (κ × ν)
  | [] => [(key, value)]
  | (k, old) :: rest =>
    if k = key then (k, value) :: rest else (k, old) :: setEntries key value rest

def deleteEntries (key : κ) (entries : List (κ × ν)) : List (κ × ν) :=
  entries.filter fun entry => entry.1 ≠ key

theorem mem_keys_setEntries (key k : κ) (value : ν) (entries : List (κ × ν)) :
    k ∈ (setEntries key value entries).map Prod.fst ↔ k = key ∨ k ∈ entries.map Prod.fst := by
  induction entries with
  | nil => simp [setEntries]
  | cons head rest ih =>
    rcases head with ⟨k', old⟩
    by_cases h : k' = key
    · subst h
      simp [setEntries]
    · simp only [setEntries, if_neg h, List.map_cons, List.mem_cons, ih]
      tauto

variable (key : κ)

theorem keys_setEntries_congr (value other : ν) {first second : List (κ × ν)}
    (h : first.map Prod.fst = second.map Prod.fst) :
    (setEntries key value first).map Prod.fst = (setEntries key other second).map Prod.fst := by
  induction first generalizing second with
  | nil =>
    rw [List.map_nil, eq_comm, List.map_eq_nil_iff] at h
    simp [h, setEntries]
  | cons head rest ih =>
    cases second with
    | nil => simp at h
    | cons next others =>
      rcases head with ⟨k, old⟩
      rcases next with ⟨k', old'⟩
      simp only [List.map_cons, List.cons.injEq] at h
      obtain ⟨hkey, hrest⟩ := h
      rw [← hkey]
      by_cases heq : k = key
      · simp [setEntries, heq, hrest]
      · simp [setEntries, heq, ih hrest]

theorem mem_setEntries {key : κ} {value : ν} {entries : List (κ × ν)} {entry : κ × ν}
    (h : entry ∈ setEntries key value entries) : entry = (key, value) ∨ entry ∈ entries := by
  induction entries with
  | nil => exact .inl (List.mem_singleton.mp h)
  | cons head rest ih =>
    rcases head with ⟨k, old⟩
    unfold setEntries at h
    split at h
    · rename_i heq
      rcases List.mem_cons.mp h with rfl | hmem
      · exact .inl (by rw [heq])
      · exact .inr (List.mem_cons_of_mem _ hmem)
    · rcases List.mem_cons.mp h with rfl | hmem
      · exact .inr List.mem_cons_self
      · exact (ih hmem).imp_right (List.mem_cons_of_mem _)

theorem length_setEntries_le (value : ν) (entries : List (κ × ν)) :
    (setEntries key value entries).length ≤ entries.length + 1 := by
  induction entries with
  | nil => simp [setEntries]
  | cons head rest ih =>
    rcases head with ⟨k, old⟩
    unfold setEntries
    split
    · simp
    · simp only [List.length_cons]
      omega

theorem nodup_setEntries (value : ν) (entries : List (κ × ν))
    (hnodup : (entries.map Prod.fst).Nodup) :
    ((setEntries key value entries).map Prod.fst).Nodup := by
  induction entries with
  | nil => simp [setEntries]
  | cons head rest ih =>
    rcases head with ⟨k, old⟩
    simp only [List.map_cons, List.nodup_cons] at hnodup
    by_cases h : k = key
    · simp only [setEntries, if_pos h, List.map_cons, List.nodup_cons]
      exact hnodup
    · simp only [setEntries, if_neg h, List.map_cons, List.nodup_cons, mem_keys_setEntries]
      exact ⟨fun hk => hk.elim h hnodup.1, ih hnodup.2⟩

theorem nodup_deleteEntries (entries : List (κ × ν)) (hnodup : (entries.map Prod.fst).Nodup) :
    ((deleteEntries key entries).map Prod.fst).Nodup :=
  hnodup.sublist (List.filter_sublist.map Prod.fst)

theorem lookupEntries_setEntries (key k : κ) (value : ν) (entries : List (κ × ν)) :
    lookupEntries k (setEntries key value entries) =
      if key = k then some value else lookupEntries k entries := by
  induction entries with
  | nil => simp [setEntries, lookupEntries]
  | cons head rest ih =>
    rcases head with ⟨k', old⟩
    by_cases h : k' = key
    · subst h
      by_cases hk : k' = k <;> simp [setEntries, lookupEntries, hk]
    · by_cases hk : k' = k
      · subst hk
        simp [setEntries, lookupEntries, h, Ne.symm h]
      · simp [setEntries, lookupEntries, h, hk, ih]

theorem lookupEntries_eq_none {key : κ} {entries : List (κ × ν)}
    (h : key ∉ entries.map Prod.fst) : lookupEntries key entries = none := by
  induction entries with
  | nil => rfl
  | cons head rest ih =>
    obtain ⟨hhead, hrest⟩ := not_or.mp (mt List.mem_cons.mpr h)
    rw [lookupEntries, if_neg (Ne.symm hhead)]
    exact ih hrest

-- Entries with the same distinct keys in the same order are told apart by a look-up.
theorem eq_of_lookupEntries {first second : List (κ × ν)}
    (hkeys : first.map Prod.fst = second.map Prod.fst) (hnodup : (first.map Prod.fst).Nodup)
    (h : ∀ key, lookupEntries key first = lookupEntries key second) : first = second := by
  induction first generalizing second with
  | nil =>
    rw [List.map_nil, eq_comm, List.map_eq_nil_iff] at hkeys
    exact hkeys.symm
  | cons head rest ih =>
    cases second with
    | nil => simp at hkeys
    | cons next others =>
      rcases head with ⟨k, value⟩
      rcases next with ⟨k', other⟩
      simp only [List.map_cons, List.cons.injEq] at hkeys
      obtain ⟨rfl, hrest⟩ := hkeys
      rw [List.map_cons, List.nodup_cons] at hnodup
      have hvalue : value = other := by
        have hhead := h k
        simpa [lookupEntries] using hhead
      have htail : rest = others := by
        apply ih hrest hnodup.2
        intro key
        by_cases hkey : k = key
        · rw [← hkey, lookupEntries_eq_none hnodup.1,
            lookupEntries_eq_none (hrest ▸ hnodup.1)]
        · have hother := h key
          simpa [lookupEntries, hkey] using hother
      rw [hvalue, htail]

theorem setEntries_of_absent {key : κ} (value : ν) {entries : List (κ × ν)}
    (h : key ∉ entries.map Prod.fst) :
    setEntries key value entries = entries ++ [(key, value)] := by
  induction entries with
  | nil => rfl
  | cons head rest ih =>
    rcases head with ⟨k, old⟩
    rw [List.map_cons, List.mem_cons, not_or] at h
    rw [setEntries, if_neg (Ne.symm h.1), ih h.2, List.cons_append]

theorem keys_deleteEntries (entries : List (κ × ν)) :
    (deleteEntries key entries).map Prod.fst = (entries.map Prod.fst).filter (· ≠ key) := by
  rw [deleteEntries, List.filter_map]
  rfl

theorem setEntries_setEntries (first second : ν) (entries : List (κ × ν)) :
    setEntries key second (setEntries key first entries) = setEntries key second entries := by
  induction entries with
  | nil => simp [setEntries]
  | cons head rest ih =>
    rcases head with ⟨k, old⟩
    by_cases h : k = key
    · simp [setEntries, h]
    · simp [setEntries, h, ih]

theorem lookupEntries_deleteEntries (key k : κ) (entries : List (κ × ν)) :
    lookupEntries k (deleteEntries key entries) =
      if key = k then none else lookupEntries k entries := by
  induction entries with
  | nil => simp [deleteEntries, lookupEntries]
  | cons head rest ih =>
    rcases head with ⟨k', old⟩
    simp only [deleteEntries] at ih
    by_cases h : k' = key
    · subst h
      by_cases hk : k' = k
      · simpa [deleteEntries, lookupEntries, hk] using ih
      · simpa [deleteEntries, lookupEntries, hk] using ih
    · by_cases hk : k' = k
      · subst hk
        simp [deleteEntries, lookupEntries, h, Ne.symm h]
      · simpa [deleteEntries, lookupEntries, h, hk] using ih

def filterEntries (keep : κ → ν → Bool) (entries : List (κ × ν)) : List (κ × ν) :=
  entries.filter fun entry => keep entry.1 entry.2

omit [DecidableEq κ] in
theorem nodup_filterEntries (keep : κ → ν → Bool) (entries : List (κ × ν))
    (hnodup : (entries.map Prod.fst).Nodup) :
    ((filterEntries keep entries).map Prod.fst).Nodup :=
  hnodup.sublist (List.filter_sublist.map Prod.fst)

-- Setting a key exchanges what was counted of its old value for what counts of the new.
theorem countP_setEntries (counted : κ × ν → Bool) (key : κ) (value : ν)
    (entries : List (κ × ν)) :
    (setEntries key value entries).countP counted +
        ((lookupEntries key entries).map fun old => if counted (key, old) then 1 else 0).getD 0 =
      entries.countP counted + if counted (key, value) then 1 else 0 := by
  induction entries with
  | nil => simp [setEntries, lookupEntries, List.countP_cons]
  | cons head rest ih =>
    rcases head with ⟨k, old⟩
    by_cases h : k = key
    · subst h
      simp only [setEntries, lookupEntries, if_true, List.countP_cons, Option.map_some,
        Option.getD_some]
      omega
    · simp only [setEntries, lookupEntries, if_neg h, List.countP_cons]
      omega

omit [DecidableEq κ] in
theorem countP_filterEntries_le (counted : κ × ν → Bool) (keep : κ → ν → Bool)
    (entries : List (κ × ν)) :
    (filterEntries keep entries).countP counted ≤ entries.countP counted :=
  List.filter_sublist.countP_le

theorem lookupEntries_eq_some_iff (value : ν) (entries : List (κ × ν))
    (hnodup : (entries.map Prod.fst).Nodup) :
    lookupEntries key entries = some value ↔ (key, value) ∈ entries := by
  induction entries with
  | nil => simp [lookupEntries]
  | cons head rest ih =>
    rcases head with ⟨k, old⟩
    simp only [List.map_cons, List.nodup_cons] at hnodup
    by_cases h : k = key
    · subst h
      have habsent : (k, value) ∉ rest := fun hmem =>
        hnodup.1 (List.mem_map.mpr ⟨(k, value), hmem, rfl⟩)
      simp [lookupEntries, habsent, eq_comm]
    · simp [lookupEntries, h, Ne.symm h, ih hnodup.2]

end Entries

section Operations

variable {κ ν : Type*} [DecidableEq κ]

def empty : OrderedMap κ ν := ⟨[], List.nodup_nil⟩

def get (map : OrderedMap κ ν) (key : κ) : Option ν :=
  lookupEntries key map.entries

def set (map : OrderedMap κ ν) (key : κ) (value : ν) : OrderedMap κ ν :=
  ⟨setEntries key value map.entries, nodup_setEntries key value map.entries map.nodup⟩

def delete (map : OrderedMap κ ν) (key : κ) : OrderedMap κ ν :=
  ⟨deleteEntries key map.entries, nodup_deleteEntries key map.entries map.nodup⟩

omit [DecidableEq κ] in
def filter (map : OrderedMap κ ν) (keep : κ → ν → Bool) : OrderedMap κ ν :=
  ⟨filterEntries keep map.entries, nodup_filterEntries keep map.entries map.nodup⟩

omit [DecidableEq κ] in
@[ext] theorem ext {first second : OrderedMap κ ν} (h : first.entries = second.entries) :
    first = second := by
  cases first
  cases second
  cases h
  rfl

@[simp] theorem get_empty (key : κ) : (empty : OrderedMap κ ν).get key = none := rfl

variable (map : OrderedMap κ ν)

@[simp] theorem get_set (key k : κ) (value : ν) :
    (map.set key value).get k = if key = k then some value else map.get k :=
  lookupEntries_setEntries key k value map.entries

theorem get_set_self (key : κ) (value : ν) :
    (map.set key value).get key = some value := by simp

@[simp] theorem set_set (key : κ) (first second : ν) :
    (map.set key first).set key second = map.set key second :=
  ext (setEntries_setEntries key first second map.entries)

@[simp] theorem get_delete (key k : κ) :
    (map.delete key).get k = if key = k then none else map.get k :=
  lookupEntries_deleteEntries key k map.entries

theorem get_eq_some_iff (key : κ) (value : ν) :
    map.get key = some value ↔ (key, value) ∈ map.entries :=
  lookupEntries_eq_some_iff key value map.entries map.nodup

@[simp] theorem get_filter (keep : κ → ν → Bool) (k : κ) :
    (map.filter keep).get k = (map.get k).filter (keep k) := by
  ext value
  rw [get_eq_some_iff, Option.filter_eq_some_iff, get_eq_some_iff]
  exact List.mem_filter

theorem delete_of_get_none {map : OrderedMap κ ν} {key : κ} (h : map.get key = none) :
    map.delete key = map := by
  refine ext (List.filter_eq_self.mpr fun entry hmem => ?_)
  rw [decide_eq_true_iff]
  rintro rfl
  cases h.symm.trans ((get_eq_some_iff map entry.1 entry.2).mpr hmem)

theorem get_of_get_delete {map : OrderedMap κ ν} {key k : κ} {value : ν}
    (h : (map.delete key).get k = some value) : map.get k = some value := by
  rw [get_delete] at h
  split at h
  · cases h
  · exact h

-- Entries with new keys, each of them once, are listed in the order in which they are set.
theorem entries_foldl_set (pairs : List (κ × ν)) (map : OrderedMap κ ν)
    (h : ((map.entries ++ pairs).map Prod.fst).Nodup) :
    (pairs.foldl (fun map (key, value) => map.set key value) map).entries =
      map.entries ++ pairs := by
  induction pairs generalizing map with
  | nil => simp
  | cons pair rest ih =>
    have habsent : pair.1 ∉ map.entries.map Prod.fst := by
      rw [List.map_append, List.nodup_append] at h
      intro hmem
      exact h.2.2 pair.1 hmem pair.1 (by simp) rfl
    have hset : (map.set pair.1 pair.2).entries = map.entries ++ [pair] :=
      setEntries_of_absent pair.2 habsent
    have hnext := ih (map.set pair.1 pair.2) (by rw [hset]; simpa using h)
    rw [hset, List.append_assoc, List.singleton_append] at hnext
    exact hnext

-- Of the entries that are set one after the other, the last one of a key stays.
theorem get_foldl_set {α : Type*} (key : α → κ) (value : α → ν) (items : List α) (k : κ) :
    (items.foldl (fun map item => map.set (key item) (value item)) empty).get k =
      (items.reverse.find? fun item => decide (key item = k)).map value := by
  induction items using List.reverseRecOn with
  | nil => rfl
  | append_singleton items item ih =>
    rw [List.foldl_append, List.foldl_cons, List.foldl_nil, get_set, ih, List.reverse_append,
      List.reverse_singleton, List.singleton_append, List.find?_cons]
    by_cases h : key item = k
    · simp [h]
    · simp [h]

end Operations

end OrderedMap

end WebSsh2.Library

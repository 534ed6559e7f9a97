import WebSsh2.Library.Json
import WebSsh2.Library.OrderedMap

namespace WebSsh2.Library.Json

section Paths

variable {ν : Type}

def isObject : Json ν → Bool
  | .object _ => true
  | _ => false

-- The value that a chain of field names leads to.
def atPath : List (List UInt16) → Json ν → Option (Json ν)
  | [], value => some value
  | key :: path, value => (field key value).bind (atPath path)

end Paths

section Overlay

variable {ν : Type}

mutual

-- What stands where one value is laid over another: two objects are joined field by
-- field, and anything else covers what was there.
def overlay (below : Option (Json ν)) : Json ν → Json ν
  | .object fields =>
    match below with
    | some (.object base) => .object (overlayFields base fields)
    | _ => .object fields
  | value => value

def overlayFields (base : List (List UInt16 × Json ν)) :
    List (List UInt16 × Json ν) → List (List UInt16 × Json ν)
  | [] => base
  | (key, value) :: rest =>
    overlayFields (OrderedMap.setEntries key (overlay (lookup key base) value) base) rest

end

theorem lookup_eq_lookupEntries (key : List UInt16) (fields : List (List UInt16 × Json ν)) :
    lookup key fields = OrderedMap.lookupEntries key fields := by
  induction fields with
  | nil => rfl
  | cons head rest ih => rw [lookup, OrderedMap.lookupEntries, ih]

variable {fields : List (List UInt16 × Json ν)}

theorem lookup_eq_none {key : List UInt16} (h : key ∉ fields.map Prod.fst) :
    lookup key fields = none := by
  rw [lookup_eq_lookupEntries]
  exact OrderedMap.lookupEntries_eq_none h

theorem lookup_setEntries (key name : List UInt16) (value : Json ν)
    (fields : List (List UInt16 × Json ν)) :
    lookup name (OrderedMap.setEntries key value fields) =
      if key = name then some value else lookup name fields := by
  rw [lookup_eq_lookupEntries, OrderedMap.lookupEntries_setEntries, ← lookup_eq_lookupEntries]

theorem distinct_lookup {key : List UInt16} {value : Json ν} (h : distinctFields fields = true)
    (hvalue : lookup key fields = some value) : value.distinct = true := by
  induction fields with
  | nil => cases hvalue
  | cons head rest ih =>
    obtain ⟨hhead, hrest⟩ := Bool.and_eq_true_iff.mp h
    rw [lookup] at hvalue
    split at hvalue
    · cases hvalue
      exact hhead
    · exact ih hrest hvalue

-- The fields of one name are joined once, since the upper object names a field once.
theorem lookup_overlayFields (key : List UInt16) (base : List (List UInt16 × Json ν))
    (h : (fields.map Prod.fst).Nodup) :
    lookup key (overlayFields base fields) =
      match lookup key fields with
      | some value => some (overlay (lookup key base) value)
      | none => lookup key base := by
  induction fields generalizing base with
  | nil => rfl
  | cons head rest ih =>
    rcases head with ⟨name, value⟩
    obtain ⟨hname, hrest⟩ := List.nodup_cons.mp h
    rw [overlayFields, ih _ hrest, lookup]
    by_cases hkey : name = key
    · subst hkey
      simp only [lookup_eq_none hname, lookup_setEntries, if_pos]
    · simp only [lookup_setEntries, if_neg hkey]

-- A value that is no object comes from above, or from below where nothing is above it.
theorem atPath_overlay {path : List (List UInt16)} {below : Option (Json ν)} {value leaf : Json ν}
    (hdistinct : value.distinct = true) (hleaf : leaf.isObject = false)
    (h : (overlay below value).atPath path = some leaf) :
    value.atPath path = some leaf ∨
      value.atPath path = none ∧ below.bind (atPath path) = some leaf := by
  induction path generalizing below value with
  | nil =>
    left
    cases value with
    | object fields =>
      have hobject : (overlay below (.object fields)).isObject = true := by
        unfold overlay
        split <;> rfl
      cases h
      rw [hobject] at hleaf
      cases hleaf
    | null | bool _ | number _ | string _ | array _ => exact h
  | cons key path ih =>
    cases value with
    | object fields =>
      rw [distinct, Bool.and_eq_true, decide_eq_true_eq] at hdistinct
      unfold overlay at h
      split at h
      · rename_i base
        simp only [atPath, field, lookup_overlayFields key base hdistinct.1] at h
        simp only [atPath, field, Option.bind_some]
        cases hvalue : lookup key fields with
        | none =>
          rw [hvalue] at h
          exact .inr ⟨rfl, h⟩
        | some inner =>
          rw [hvalue] at h
          exact ih (distinct_lookup hdistinct.2 hvalue) h
      · exact .inl h
    | null | bool _ | number _ | string _ | array _ => exact .inl h

end Overlay

end WebSsh2.Library.Json

namespace WebSsh2.Library

-- A value as it lies in memory, where an object is known by its place.
inductive Slot (ν : Type) where
  | plain (value : Json ν)
  | object (place : Nat)

abbrev Record (ν : Type) := List (List UInt16 × Slot ν)

-- The objects by their places, in the order in which they were made.
abbrev Heap (ν : Type) := List (Record ν)

namespace Heap

section Holding

variable {ν : Type}

def alloc (heap : Heap ν) (record : Record ν) : Heap ν × Nat :=
  (heap ++ [record], heap.length)

mutual

-- The value that a slot stands for. Objects may have parts in common.
inductive Holds (heap : Heap ν) : Slot ν → Json ν → Prop
  | plain {value : Json ν} (hplain : value.isObject = false) : Holds heap (.plain value) value
  | object {place : Nat} {record : Record ν} {fields : List (List UInt16 × Json ν)}
      (hread : heap[place]? = some record) (hfields : HoldsFields heap record fields) :
      Holds heap (.object place) (.object fields)

inductive HoldsFields (heap : Heap ν) : Record ν → List (List UInt16 × Json ν) → Prop
  | nil : HoldsFields heap [] []
  | cons {key : List UInt16} {slot : Slot ν} {value : Json ν} {record : Record ν}
      {fields : List (List UInt16 × Json ν)} (hvalue : Holds heap slot value)
      (hrest : HoldsFields heap record fields) :
      HoldsFields heap ((key, slot) :: record) ((key, value) :: fields)

end

variable {heap : Heap ν}

mutual

-- New objects change nothing of what the old ones stand for.
theorem Holds.extend {slot : Slot ν} {value : Json ν} (h : Holds heap slot value)
    (new : Heap ν) : Holds (heap ++ new) slot value := by
  cases h with
  | plain hplain => exact .plain hplain
  | object hread hfields =>
    obtain ⟨hplace, -⟩ := List.getElem?_eq_some_iff.mp hread
    exact .object ((List.getElem?_append_left hplace).trans hread) (hfields.extend new)

theorem HoldsFields.extend {record : Record ν} {fields : List (List UInt16 × Json ν)}
    (h : HoldsFields heap record fields) (new : Heap ν) :
    HoldsFields (heap ++ new) record fields := by
  cases h with
  | nil => exact .nil
  | cons hvalue hrest => exact .cons (hvalue.extend new) (hrest.extend new)

end

variable {fields : List (List UInt16 × Json ν)} {record : Record ν}

theorem holds_alloc (h : HoldsFields heap record fields) :
    Holds (heap ++ [record]) (.object heap.length) (.object fields) :=
  .object List.getElem?_concat_length (h.extend [record])

theorem HoldsFields.lookup (h : HoldsFields heap record fields) (key : List UInt16) :
    (OrderedMap.lookupEntries key record = none ∧ Json.lookup key fields = none) ∨
      ∃ slot value, OrderedMap.lookupEntries key record = some slot ∧
        Json.lookup key fields = some value ∧ Holds heap slot value := by
  induction record generalizing fields with
  | nil =>
    cases h
    exact .inl ⟨rfl, rfl⟩
  | cons head record ih =>
    cases h with
    | @cons name slot value _ fields hvalue hrest =>
      rw [OrderedMap.lookupEntries, Json.lookup]
      by_cases hname : name = key
      · rw [if_pos hname, if_pos hname]
        exact .inr ⟨slot, value, rfl, rfl, hvalue⟩
      · rw [if_neg hname, if_neg hname]
        exact ih hrest

theorem HoldsFields.set {slot : Slot ν} {value : Json ν} (h : HoldsFields heap record fields)
    (hvalue : Holds heap slot value) (key : List UInt16) :
    HoldsFields heap (OrderedMap.setEntries key slot record)
      (OrderedMap.setEntries key value fields) := by
  induction record generalizing fields with
  | nil =>
    cases h
    exact .cons hvalue .nil
  | cons head record ih =>
    cases h with
    | @cons name old other _ fields hold hrest =>
      rw [OrderedMap.setEntries, OrderedMap.setEntries]
      by_cases hname : name = key
      · rw [if_pos hname, if_pos hname]
        exact .cons hvalue hrest
      · rw [if_neg hname, if_neg hname]
        exact .cons hold (ih hrest)

end Holding

end Heap

end WebSsh2.Library

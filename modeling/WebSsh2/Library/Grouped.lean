import Mathlib.Data.List.Basic
import Mathlib.Data.Option.Basic
import WebSsh2.Library.OrderedMap

namespace WebSsh2.Library

-- Items under keys, and beside them an index: the keys of each group, in the order in
-- which they came. A group without items has no entry.
structure Grouped (κ γ ν : Type*) where
  items : OrderedMap κ ν
  groups : OrderedMap γ (List κ)

namespace Grouped

variable {κ γ ν : Type*} [DecidableEq κ] [DecidableEq γ]

def empty : Grouped κ γ ν where
  items := .empty
  groups := .empty

-- Adds to a set that keeps the order of insertion.
def addKey (keys : List κ) (key : κ) : List κ :=
  if key ∈ keys then keys else keys ++ [key]

def get (pool : Grouped κ γ ν) (key : κ) : Option ν :=
  pool.items.get key

def add (group : ν → γ) (pool : Grouped κ γ ν) (key : κ) (value : ν) : Grouped κ γ ν where
  items := pool.items.set key value
  groups := pool.groups.set (group value) (addKey ((pool.groups.get (group value)).getD []) key)

def remove (group : ν → γ) (pool : Grouped κ γ ν) (key : κ) : Grouped κ γ ν :=
  match pool.get key with
  | none => pool
  | some value => {
      items := pool.items.delete key
      groups :=
        match pool.groups.get (group value) with
        | none => pool.groups
        | some keys =>
          if keys.erase key = [] then pool.groups.delete (group value)
          else pool.groups.set (group value) (keys.erase key) }

-- The item under the key is changed in place.
def update (pool : Grouped κ γ ν) (key : κ) (change : ν → ν) : Grouped κ γ ν :=
  match pool.get key with
  | none => pool
  | some value => { pool with items := pool.items.set key (change value) }

section Get

variable {group : ν → γ} {pool : Grouped κ γ ν}

omit [DecidableEq γ] in
@[simp] theorem get_empty (key : κ) : (empty : Grouped κ γ ν).get key = none := rfl

@[simp] theorem get_add (key other : κ) (value : ν) :
    (pool.add group key value).get other = if key = other then some value else pool.get other :=
  OrderedMap.get_set pool.items key other value

@[simp] theorem get_remove (key other : κ) :
    (pool.remove group key).get other = if key = other then none else pool.get other := by
  unfold remove
  cases hget : pool.get key with
  | none =>
    by_cases hkey : key = other
    · subst hkey
      simp [hget]
    · simp [hkey]
  | some value => simp [get]

omit [DecidableEq γ] in
@[simp] theorem get_update (key other : κ) (change : ν → ν) :
    (pool.update key change).get other =
      if key = other then (pool.get other).map change else pool.get other := by
  unfold update
  cases hget : pool.get key with
  | none =>
    by_cases hkey : key = other
    · subst hkey
      simp [hget]
    · simp [hkey]
  | some value =>
    by_cases hkey : key = other
    · subst hkey
      simp only [get] at hget
      simp [get, hget]
    · simp [get, hkey]

end Get

end Grouped

end WebSsh2.Library

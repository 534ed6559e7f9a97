import Mathlib.Data.List.Basic

namespace WebSsh2.Library

-- A JSON value over a type of numbers. Strings are sequences of UTF-16 code
-- units, and an object lists its fields in order.
inductive Json (ν : Type) where
  | null
  | bool (value : Bool)
  | number (value : ν)
  | string (value : List UInt16)
  | array (items : List (Json ν))
  | object (fields : List (List UInt16 × Json ν))

namespace Json

section Values

variable {ν : Type}

mutual

def decEq [DecidableEq ν] : (first second : Json ν) → Decidable (first = second)
  | .null, .null => isTrue rfl
  | .bool a, .bool b => decidable_of_iff (a = b) (by simp)
  | .number a, .number b => decidable_of_iff (a = b) (by simp)
  | .string a, .string b => decidable_of_iff (a = b) (by simp)
  | .array a, .array b =>
    have := decEqItems a b
    decidable_of_iff (a = b) (by simp)
  | .object a, .object b =>
    have := decEqFields a b
    decidable_of_iff (a = b) (by simp)
  | .null, .bool _ | .null, .number _ | .null, .string _ | .null, .array _ | .null, .object _
  | .bool _, .null | .bool _, .number _ | .bool _, .string _ | .bool _, .array _
  | .bool _, .object _ | .number _, .null | .number _, .bool _ | .number _, .string _
  | .number _, .array _ | .number _, .object _ | .string _, .null | .string _, .bool _
  | .string _, .number _ | .string _, .array _ | .string _, .object _ | .array _, .null
  | .array _, .bool _ | .array _, .number _ | .array _, .string _ | .array _, .object _
  | .object _, .null | .object _, .bool _ | .object _, .number _ | .object _, .string _
  | .object _, .array _ => isFalse (by simp)

def decEqItems [DecidableEq ν] : (first second : List (Json ν)) → Decidable (first = second)
  | [], [] => isTrue rfl
  | [], _ :: _ | _ :: _, [] => isFalse (by simp)
  | a :: first, b :: second =>
    have := decEq a b
    have := decEqItems first second
    decidable_of_iff (a = b ∧ first = second) (by simp)

def decEqFields [DecidableEq ν] :
    (first second : List (List UInt16 × Json ν)) → Decidable (first = second)
  | [], [] => isTrue rfl
  | [], _ :: _ | _ :: _, [] => isFalse (by simp)
  | (key, a) :: first, (other, b) :: second =>
    have := decEq a b
    have := decEqFields first second
    decidable_of_iff ((key = other ∧ a = b) ∧ first = second) (by simp)

end

instance [DecidableEq ν] : DecidableEq (Json ν) := decEq

def lookup (key : List UInt16) : List (List UInt16 × Json ν) → Option (Json ν)
  | [] => none
  | (name, value) :: rest => if name = key then some value else lookup key rest

mutual

-- No object inside has two fields of one name.
def distinct : Json ν → Bool
  | .array items => distinctItems items
  | .object fields => decide (fields.map Prod.fst).Nodup && distinctFields fields
  | _ => true

def distinctItems : List (Json ν) → Bool
  | [] => true
  | item :: rest => item.distinct && distinctItems rest

def distinctFields : List (List UInt16 × Json ν) → Bool
  | [] => true
  | (_, value) :: rest => value.distinct && distinctFields rest

end

mutual

-- The strings inside a value, names of fields included.
def texts : Json ν → List (List UInt16)
  | .string text => [text]
  | .array items => textsOfItems items
  | .object fields => textsOfFields fields
  | _ => []

def textsOfItems : List (Json ν) → List (List UInt16)
  | [] => []
  | item :: rest => item.texts ++ textsOfItems rest

def textsOfFields : List (List UInt16 × Json ν) → List (List UInt16)
  | [] => []
  | (key, value) :: rest => key :: value.texts ++ textsOfFields rest

end

-- The own property of an object; nothing for other values.
def field (key : List UInt16) : Json ν → Option (Json ν)
  | .object fields => lookup key fields
  | _ => none

end Values

end Json

end WebSsh2.Library

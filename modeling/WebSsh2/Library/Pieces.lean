import Mathlib.Data.List.Basic
import Mathlib.Data.List.Forall2

namespace WebSsh2.Library.Pieces

variable {α : Type*}

variable (size : Nat) (items : List α)

-- The piece of a list that begins at `index * size`.
def piece (index : Nat) : List α :=
  (items.drop (index * size)).take size

theorem length_piece (index : Nat) :
    (piece size items index).length = min size (items.length - index * size) := by
  unfold piece
  rw [List.length_take, List.length_drop]

-- The first pieces together are the beginning of the list.
theorem flatten_pieces (count : Nat) :
    ((List.range count).map (piece size items)).flatten = items.take (count * size) := by
  induction count with
  | zero => simp
  | succ count ih =>
    rw [List.range_succ, List.map_append, List.flatten_append, ih]
    simp only [List.map_cons, List.map_nil, List.flatten_cons, List.flatten_nil,
      List.append_nil]
    unfold piece
    rw [Nat.succ_mul, List.take_add]

-- A piece that is whole stays what it is when the list grows.
theorem piece_append {size : Nat} {items : List α} {index : Nat}
    (h : (index + 1) * size ≤ items.length) (more : List α) :
    piece size (items ++ more) index = piece size items index := by
  rw [Nat.succ_mul] at h
  unfold piece
  rw [List.drop_append_of_le_length (by omega), List.take_append_of_le_length]
  rw [List.length_drop]
  omega

-- As many items as there are in pieces that are whole, and what is left behind them.
def wholeCount : Nat :=
  items.length / size

def remainder : List α :=
  items.drop (wholeCount size items * size)

theorem length_piece_of_whole {size : Nat} {items : List α} {index : Nat}
    (h : index < wholeCount size items) : (piece size items index).length = size := by
  have hle := Nat.mul_le_mul_right size (Nat.succ_le_of_lt h)
  have hlength := Nat.div_mul_le_self items.length size
  unfold wholeCount at hle
  rw [Nat.succ_mul] at hle
  rw [length_piece]
  omega

theorem flatten_pieces_remainder :
    ((List.range (wholeCount size items)).map (piece size items)).flatten ++
      remainder size items = items := by
  rw [flatten_pieces]
  exact List.take_append_drop _ items

theorem forall₂_concat_iff {β : Type*} {R : α → β → Prop} {first : List α} {second : List β}
    {a : α} {b : β} :
    List.Forall₂ R (first ++ [a]) (second ++ [b]) ↔ List.Forall₂ R first second ∧ R a b := by
  rw [← List.forall₂_reverse_iff, List.reverse_concat, List.reverse_concat, List.forall₂_cons,
    List.forall₂_reverse_iff, and_comm]

theorem sum_length_le {parts wholes : List (List α)}
    (h : List.Forall₂ (· <+: ·) parts wholes) :
    parts.flatten.length ≤ wholes.flatten.length := by
  induction h with
  | nil => exact Nat.le_refl 0
  | cons hhead _ ih =>
    rw [List.flatten_cons, List.flatten_cons, List.length_append, List.length_append]
    exact Nat.add_le_add hhead.length_le ih

-- Beginnings of several lists make up the same as the lists only where each is whole.
theorem flatten_eq_iff {parts wholes : List (List α)}
    (h : List.Forall₂ (· <+: ·) parts wholes) :
    parts.flatten = wholes.flatten ↔ parts = wholes := by
  constructor
  · intro heq
    induction h with
    | nil => rfl
    | cons hhead htail ih =>
      rename_i part whole parts wholes
      have hrest := sum_length_le htail
      have hlength := congrArg List.length heq
      rw [List.flatten_cons, List.flatten_cons, List.length_append,
        List.length_append] at hlength
      have hwhole : part = whole := hhead.eq_of_length (by have := hhead.length_le; omega)
      subst hwhole
      rw [List.flatten_cons, List.flatten_cons, List.append_cancel_left_eq] at heq
      rw [ih heq]
  · rintro rfl
    rfl

end WebSsh2.Library.Pieces

import Mathlib.Data.List.Basic
import Mathlib.Data.List.Induction
import Mathlib.Data.List.Perm.Basic

namespace WebSsh2.Library.Writes

variable {α : Type*}

-- A write at an offset. What lies between the end of the file and the offset is filled with
-- `hole`; a write of nothing leaves the file as it is.
def writeAt (hole : α) (file : List α) (write : Nat × List α) : List α :=
  if write.2 = [] then
    file
  else
    (file ++ List.replicate (write.1 - file.length) hole).take write.1 ++ write.2 ++
      file.drop (write.1 + write.2.length)

def writeAll (hole : α) (writes : List (Nat × List α)) : List α :=
  writes.foldl (writeAt hole) []

-- The parts of a list, each with the offset where it begins.
def placed (start : Nat) : List (List α) → List (Nat × List α)
  | [] => []
  | part :: rest => (start, part) :: placed (start + part.length) rest

-- The write brings what the list has in its place.
def Matches (whole : List α) (write : Nat × List α) : Prop :=
  ∀ index, index < write.2.length → write.2[index]? = whole[write.1 + index]?

def Covers (write : Nat × List α) (index : Nat) : Prop :=
  write.1 ≤ index ∧ index < write.1 + write.2.length

variable {write : Nat × List α}

theorem length_writeAt (hole : α) (file : List α) (h : write.2 ≠ []) :
    (writeAt hole file write).length = max file.length (write.1 + write.2.length) := by
  unfold writeAt
  rw [if_neg h]
  simp only [List.length_append, List.length_take, List.length_replicate, List.length_drop]
  omega

theorem getElem?_writeAt_covered (hole : α) (file : List α) {index : Nat} (h : Covers write index) :
    (writeAt hole file write)[index]? = write.2[index - write.1]? := by
  obtain ⟨hle, hlt⟩ := h
  have hne : write.2 ≠ [] := by
    rintro hnil
    rw [hnil, List.length_nil] at hlt
    omega
  have hlength : ((file ++ List.replicate (write.1 - file.length) hole).take write.1).length =
      write.1 := by
    rw [List.length_take, List.length_append, List.length_replicate]
    omega
  unfold writeAt
  rw [if_neg hne, List.append_assoc, List.getElem?_append_right (by omega), hlength,
    List.getElem?_append_left (by omega)]

-- What a write does not cover stays.
theorem getElem?_writeAt_of_lt (hole : α) (file : List α) {index : Nat} (h : ¬Covers write index)
    (hindex : index < file.length) : (writeAt hole file write)[index]? = file[index]? := by
  unfold writeAt
  split
  · rfl
  · have hlength : ((file ++ List.replicate (write.1 - file.length) hole).take write.1).length =
        write.1 := by
      rw [List.length_take, List.length_append, List.length_replicate]
      omega
    by_cases hlt : index < write.1
    · rw [List.append_assoc, List.getElem?_append_left (by omega), List.getElem?_take_of_lt hlt,
        List.getElem?_append_left hindex]
    · have hbehind : write.1 + write.2.length ≤ index := by
        by_contra hnot
        exact h ⟨by omega, by omega⟩
      rw [List.append_assoc, List.getElem?_append_right (by omega), hlength,
        List.getElem?_append_right (by omega), List.getElem?_drop]
      congr 1
      omega

theorem Matches.le_length {whole : List α} (h : Matches whole write) (hne : write.2 ≠ []) :
    write.1 + write.2.length ≤ whole.length := by
  have hpos : 0 < write.2.length := List.length_pos_of_ne_nil hne
  have hlast := h (write.2.length - 1) (by omega)
  rw [List.getElem?_eq_getElem (by omega)] at hlast
  obtain ⟨hlt, -⟩ := List.getElem?_eq_some_iff.mp hlast.symm
  omega

theorem Matches.lt_length {whole : List α} (h : Matches whole write) {index : Nat}
    (hcovers : Covers write index) : index < whole.length := by
  obtain ⟨hle, hlt⟩ := hcovers
  have hne : write.2 ≠ [] := by
    intro hnil
    rw [hnil, List.length_nil] at hlt
    omega
  have hend := h.le_length hne
  omega

-- Writes that match a list make up as much of it as they cover, whatever their order.
theorem writeAll_matches (hole : α) (whole : List α) (writes : List (Nat × List α))
    (h : ∀ write ∈ writes, Matches whole write) :
    (writeAll hole writes).length ≤ whole.length ∧
      ∀ index, (∃ write ∈ writes, Covers write index) →
        (writeAll hole writes)[index]? = whole[index]? := by
  induction writes using List.reverseRecOn with
  | nil =>
    refine ⟨Nat.zero_le _, ?_⟩
    rintro index ⟨write, hmem, -⟩
    cases hmem
  | append_singleton writes write ih =>
    obtain ⟨hlength, hcovered⟩ := ih fun other hmem => h other (List.mem_append_left _ hmem)
    have hmatches := h write (by simp)
    have hstep : writeAll hole (writes ++ [write]) =
        writeAt hole (writeAll hole writes) write := by
      unfold writeAll
      rw [List.foldl_append, List.foldl_cons, List.foldl_nil]
    rw [hstep]
    constructor
    · by_cases hnil : write.2 = []
      · unfold writeAt
        rw [if_pos hnil]
        exact hlength
      · have hend := hmatches.le_length hnil
        rw [length_writeAt hole _ hnil]
        omega
    · rintro index ⟨other, hmem, hcovers⟩
      by_cases hnew : Covers write index
      · have hle := hnew.1
        have hlt := hnew.2
        rw [getElem?_writeAt_covered hole _ hnew, hmatches _ (by omega)]
        congr 1
        omega
      · have hold : other ∈ writes := by
          rcases List.mem_append.mp hmem with hold | hlast
          · exact hold
          · rw [List.mem_singleton.mp hlast] at hcovers
            exact absurd hcovers hnew
        have hsame := hcovered index ⟨other, hold, hcovers⟩
        have hlt := (h other hmem).lt_length hcovers
        rw [List.getElem?_eq_getElem hlt] at hsame
        obtain ⟨hindex, -⟩ := List.getElem?_eq_some_iff.mp hsame
        rw [getElem?_writeAt_of_lt hole _ hnew hindex, hsame, List.getElem?_eq_getElem hlt]

theorem writeAll_eq (hole : α) (whole : List α) (writes : List (Nat × List α))
    (hmatches : ∀ write ∈ writes, Matches whole write)
    (hcovers : ∀ index, index < whole.length → ∃ write ∈ writes, Covers write index) :
    writeAll hole writes = whole := by
  obtain ⟨hlength, hcovered⟩ := writeAll_matches hole whole writes hmatches
  apply List.ext_getElem?
  intro index
  by_cases hlt : index < whole.length
  · exact hcovered index (hcovers index hlt)
  · rw [List.getElem?_eq_none (by omega), List.getElem?_eq_none (by omega)]

theorem placed_append (start : Nat) (first second : List (List α)) :
    placed start (first ++ second) =
      placed start first ++ placed (start + first.flatten.length) second := by
  induction first generalizing start with
  | nil => rfl
  | cons part rest ih =>
    rw [List.cons_append, placed, placed, ih, List.cons_append, List.flatten_cons,
      List.length_append, Nat.add_assoc]

theorem matches_of_mem_placed {start : Nat} {before : List α} {parts : List (List α)}
    (hstart : before.length = start) {write : Nat × List α} (hmem : write ∈ placed start parts) :
    Matches (before ++ parts.flatten) write := by
  induction parts generalizing start before with
  | nil => cases hmem
  | cons part rest ih =>
    rw [List.flatten_cons]
    rcases List.mem_cons.mp hmem with rfl | hrest
    · intro index hindex
      dsimp only at hindex ⊢
      rw [List.getElem?_append_right (by omega), List.getElem?_append_left (by omega)]
      congr 1
      omega
    · rw [← List.append_assoc]
      exact ih (by rw [List.length_append, hstart]) hrest

theorem covers_of_lt {start : Nat} {parts : List (List α)} {index : Nat} (hle : start ≤ index)
    (hlt : index < start + parts.flatten.length) :
    ∃ write ∈ placed start parts, Covers write index := by
  induction parts generalizing start with
  | nil =>
    rw [List.flatten_nil, List.length_nil] at hlt
    omega
  | cons part rest ih =>
    rw [List.flatten_cons, List.length_append] at hlt
    by_cases hhead : index < start + part.length
    · exact ⟨(start, part), List.mem_cons_self, hle, hhead⟩
    · obtain ⟨write, hmem, hcovers⟩ := @ih (start + part.length) (by omega) (by omega)
      exact ⟨write, List.mem_cons_of_mem _ hmem, hcovers⟩

-- The parts of a list, written in any order, make up the list.
theorem writeAll_placed (hole : α) (parts : List (List α)) {writes : List (Nat × List α)}
    (h : writes.Perm (placed 0 parts)) : writeAll hole writes = parts.flatten := by
  apply writeAll_eq
  · intro write hmem
    exact @matches_of_mem_placed α 0 [] parts rfl write (h.mem_iff.mp hmem)
  · intro index hlt
    obtain ⟨write, hmem, hcovers⟩ :=
      @covers_of_lt α 0 parts index (Nat.zero_le _) (by rwa [Nat.zero_add])
    exact ⟨write, h.mem_iff.mpr hmem, hcovers⟩

end WebSsh2.Library.Writes

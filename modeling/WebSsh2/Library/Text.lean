import Mathlib.Data.List.Infix

namespace WebSsh2.Library.Text

-- What holds of the units in a text is decided on the text, whatever else is known
-- of the type of units.
instance (priority := 2000) decidableForallMem {α : Type*} {P : α → Prop} [DecidablePred P]
    (text : List α) : Decidable (∀ unit ∈ text, P unit) :=
  List.decidableBAll P text

instance (priority := 2000) decidableMem {α : Type*} [DecidableEq α] (unit : α) (text : List α) :
    Decidable (unit ∈ text) :=
  inferInstanceAs (Decidable (unit ∈ text))

instance (priority := 2000) decidableExistsMem {α : Type*} {P : α → Prop} [DecidablePred P]
    (text : List α) : Decidable (∃ unit ∈ text, P unit) :=
  List.decidableBEx P text

instance (priority := 2000) decidableForallHead {α : Type*} {P : α → Prop} [DecidablePred P]
    (unit : Option α) : Decidable (∀ other ∈ unit, P other) :=
  Option.decidableForallMem unit

section Splitting

variable {α : Type*} [DecidableEq α]

omit [DecidableEq α] in
theorem intercalate_append {separator : List α} {first second : List (List α)}
    (hfirst : first ≠ []) (hsecond : second ≠ []) :
    separator.intercalate (first ++ second) =
      separator.intercalate first ++ separator ++ separator.intercalate second := by
  induction first with
  | nil => exact absurd rfl hfirst
  | cons head rest ih =>
    cases rest with
    | nil => simp [List.intercalate_cons_of_ne_nil hsecond]
    | cons next rest =>
      simp only [List.cons_append, List.intercalate_cons_cons, List.append_assoc]
      rw [← List.cons_append, ih (by simp)]
      simp only [List.append_assoc]

-- Pieces are a prefix of pieces exactly when the text ends there or goes on
-- with the separator.
theorem splitOn_prefix_iff (separator : α) (first second : List α) :
    first.splitOn separator <+: second.splitOn separator ↔
      first = second ∨ first ++ [separator] <+: second := by
  constructor
  · rintro ⟨rest, heq⟩
    have hsecond : [separator].intercalate (second.splitOn separator) = second :=
      List.intercalate_splitOn separator
    rw [← heq] at hsecond
    by_cases hrest : rest = []
    · left
      rw [← hsecond, hrest, List.append_nil, List.intercalate_splitOn]
    · right
      rw [intercalate_append (List.splitOn_ne_nil _ _) hrest, List.intercalate_splitOn] at hsecond
      exact ⟨_, hsecond⟩
  · rintro (rfl | ⟨rest, rfl⟩)
    · exact List.prefix_refl _
    · rw [List.append_assoc, List.singleton_append, List.splitOn_append_cons_self]
      exact List.prefix_append _ _

theorem mem_splitOn (separator : α) (text : List α) :
    ∀ piece ∈ text.splitOn separator, separator ∉ piece ∧ ∀ a ∈ piece, a ∈ text := by
  induction text with
  | nil => simp
  | cons head rest ih =>
    intro piece hpiece
    rw [List.splitOn_cons_eq_if_modifyHead] at hpiece
    split at hpiece
    · rcases List.mem_cons.mp hpiece with rfl | hmem
      · simp
      · obtain ⟨hsep, hsub⟩ := ih piece hmem
        exact ⟨hsep, fun a ha => List.mem_cons_of_mem _ (hsub a ha)⟩
    · rename_i hhead
      obtain ⟨first, others, hsplit⟩ :=
        List.exists_cons_of_ne_nil (List.splitOn_ne_nil separator rest)
      rw [hsplit, List.modifyHead_cons] at hpiece
      rcases List.mem_cons.mp hpiece with rfl | hmem
      · obtain ⟨hsep, hsub⟩ := ih first (by rw [hsplit]; exact List.mem_cons_self)
        refine ⟨?_, fun a ha => ?_⟩
        · intro hmem
          rcases List.mem_cons.mp hmem with heq | hfirst
          · exact hhead (by rw [heq]; exact beq_self_eq_true head)
          · exact hsep hfirst
        · rcases List.mem_cons.mp ha with rfl | hfirst
          · exact List.mem_cons_self
          · exact List.mem_cons_of_mem _ (hsub a hfirst)
      · obtain ⟨hsep, hsub⟩ := ih piece (by rw [hsplit]; exact List.mem_cons_of_mem _ hmem)
        exact ⟨hsep, fun a ha => List.mem_cons_of_mem _ (hsub a ha)⟩

theorem length_splitOn (separator : α) (text : List α) :
    (text.splitOn separator).length = text.count separator + 1 := by
  induction text with
  | nil => simp
  | cons head rest ih =>
    rw [List.splitOn_cons_eq_if_modifyHead, List.count_cons]
    by_cases hhead : head = separator
    · simp [hhead, ih]
    · simp [hhead, ih]

-- Units that are replaced one by one, the separator alone by the separator.
theorem splitOn_map {f : α → α} {separator : α} (hf : ∀ unit, f unit = separator ↔ unit = separator)
    (text : List α) :
    (text.map f).splitOn separator = (text.splitOn separator).map (List.map f) := by
  induction text with
  | nil => simp
  | cons head rest ih =>
    rw [List.map_cons, List.splitOn_cons_eq_if_modifyHead, List.splitOn_cons_eq_if_modifyHead, ih]
    by_cases hhead : head = separator
    · simp [hhead, (hf separator).mpr rfl]
    · obtain ⟨first, others, hsplit⟩ :=
        List.exists_cons_of_ne_nil (List.splitOn_ne_nil separator rest)
      simp [hhead, mt (hf head).mp hhead, hsplit]

omit [DecidableEq α] in
theorem append_cons_inj {separator : α} {first second after later : List α}
    (hfirst : separator ∉ first) (hsecond : separator ∉ second)
    (h : first ++ separator :: after = second ++ separator :: later) :
    first = second ∧ after = later := by
  induction first generalizing second with
  | nil =>
    cases second with
    | nil => exact ⟨rfl, (List.cons.inj h).2⟩
    | cons head rest => exact absurd (List.cons.inj h).1 (List.ne_of_not_mem_cons hsecond)
  | cons head rest ih =>
    cases second with
    | nil => exact absurd (List.cons.inj h).1.symm (List.ne_of_not_mem_cons hfirst)
    | cons next others =>
      obtain ⟨rfl, htail⟩ := List.cons.inj h
      obtain ⟨rfl, rfl⟩ := ih (List.not_mem_of_not_mem_cons hfirst)
        (List.not_mem_of_not_mem_cons hsecond) htail
      exact ⟨rfl, rfl⟩

omit [DecidableEq α] in
theorem mem_intercalate {separator : List α} {pieces : List (List α)} {a : α}
    (h : a ∈ separator.intercalate pieces) : a ∈ separator ∨ ∃ piece ∈ pieces, a ∈ piece := by
  induction pieces with
  | nil => simp at h
  | cons head rest ih =>
    by_cases hrest : rest = []
    · subst hrest
      rw [List.intercalate_singleton] at h
      exact .inr ⟨head, List.mem_cons_self, h⟩
    · rw [List.intercalate_cons_of_ne_nil hrest] at h
      rcases List.mem_append.mp h with h | hlater
      · rcases List.mem_append.mp h with hhead | hsep
        · exact .inr ⟨head, List.mem_cons_self, hhead⟩
        · exact .inl hsep
      · rcases ih hlater with hsep | ⟨piece, hpiece, ha⟩
        · exact .inl hsep
        · exact .inr ⟨piece, List.mem_cons_of_mem _ hpiece, ha⟩

end Splitting

section Search

variable {α : Type*} [DecidableEq α]

-- The text before and after the first occurrence of the pattern.
def cut (pattern : List α) : List α → Option (List α × List α)
  | [] => if pattern = [] then some ([], []) else none
  | head :: rest =>
    if pattern.isPrefixOf (head :: rest) then
      some ([], (head :: rest).drop pattern.length)
    else
      (cut pattern rest).map fun (before, after) => (head :: before, after)

theorem cut_eq_some {pattern text before after : List α}
    (h : cut pattern text = some (before, after)) : text = before ++ pattern ++ after := by
  induction text generalizing before after with
  | nil =>
    unfold cut at h
    split at h
    · rename_i hpattern
      obtain ⟨rfl, rfl⟩ := Prod.mk.inj (Option.some.inj h)
      rw [hpattern]
      rfl
    · cases h
  | cons head rest ih =>
    unfold cut at h
    split at h
    · rename_i hpre
      obtain ⟨rfl, rfl⟩ := Prod.mk.inj (Option.some.inj h)
      obtain ⟨later, hlater⟩ := List.isPrefixOf_iff_prefix.mp hpre
      rw [← hlater, List.drop_left, List.nil_append]
    · obtain ⟨⟨first, second⟩, hcut, heq⟩ := Option.map_eq_some_iff.mp h
      obtain ⟨rfl, rfl⟩ := Prod.mk.inj heq
      rw [ih hcut]
      rfl

theorem cut_isSome_iff (pattern text : List α) :
    (cut pattern text).isSome ↔ pattern <:+: text := by
  induction text with
  | nil =>
    rw [List.infix_nil]
    unfold cut
    split <;> simp_all
  | cons head rest ih =>
    rw [List.infix_cons_iff]
    unfold cut
    split
    · rename_i hpre
      simp [List.isPrefixOf_iff_prefix.mp hpre]
    · rename_i hpre
      rw [List.isPrefixOf_iff_prefix] at hpre
      simp [hpre, ih]

variable {pattern : List α}

theorem isPrefixOf_map {f : α → α} (hf : ∀ mark ∈ pattern, ∀ unit, f unit = mark ↔ unit = mark)
    (text : List α) : pattern.isPrefixOf (text.map f) = pattern.isPrefixOf text := by
  induction pattern generalizing text with
  | nil => simp
  | cons mark rest ih =>
    cases text with
    | nil => rfl
    | cons head text =>
      have hhead : (mark == f head) = (mark == head) := by
        rw [Bool.eq_iff_iff, beq_iff_eq, beq_iff_eq, eq_comm,
          hf mark List.mem_cons_self, eq_comm]
      rw [List.map_cons, List.isPrefixOf_cons_cons, List.isPrefixOf_cons_cons, hhead,
        ih fun other hother => hf other (List.mem_cons_of_mem _ hother)]

-- Units that are replaced one by one, those of the pattern alone by themselves.
theorem cut_map {f : α → α} (hf : ∀ mark ∈ pattern, ∀ unit, f unit = mark ↔ unit = mark)
    (text : List α) :
    cut pattern (text.map f) = (cut pattern text).map (Prod.map (List.map f) (List.map f)) := by
  induction text with
  | nil =>
    unfold cut
    rw [List.map_nil]
    by_cases hpattern : pattern = [] <;> simp [hpattern]
  | cons head rest ih =>
    have hpre := isPrefixOf_map hf (head :: rest)
    rw [List.map_cons] at hpre
    rw [List.map_cons, cut, cut, hpre, ih]
    split
    · simp
    · cases cut pattern rest with
      | none => rfl
      | some sides => simp

theorem cut_append {pattern text before after : List α}
    (h : cut pattern text = some (before, after)) (rest : List α) :
    cut pattern (text ++ rest) = some (before, after ++ rest) := by
  induction text generalizing before after with
  | nil =>
    unfold cut at h
    split at h
    · rename_i hpattern
      obtain ⟨rfl, rfl⟩ := Prod.mk.inj (Option.some.inj h)
      subst hpattern
      cases rest <;> simp [cut]
    · cases h
  | cons head tail ih =>
    have hlength := congrArg List.length (cut_eq_some h)
    simp only [List.length_append, List.length_cons] at hlength
    unfold cut at h
    split at h
    · rename_i hpre
      obtain ⟨rfl, rfl⟩ := Prod.mk.inj (Option.some.inj h)
      rw [List.isPrefixOf_iff_prefix] at hpre
      have hlonger : pattern.isPrefixOf (head :: (tail ++ rest)) = true :=
        List.isPrefixOf_iff_prefix.mpr (hpre.trans (List.prefix_append _ rest))
      rw [List.cons_append, cut, if_pos hlonger, ← List.cons_append,
        List.drop_append_of_le_length hpre.length_le]
    · rename_i hpre
      obtain ⟨⟨first, second⟩, hcut, heq⟩ := Option.map_eq_some_iff.mp h
      obtain ⟨rfl, rfl⟩ := Prod.mk.inj heq
      have hlonger : ¬ pattern.isPrefixOf (head :: (tail ++ rest)) = true := by
        rw [List.isPrefixOf_iff_prefix] at hpre ⊢
        intro hlong
        refine hpre (List.prefix_of_prefix_length_le hlong
          (List.prefix_append (head :: tail) rest) ?_)
        simp only [List.length_cons]
        omega
      rw [List.cons_append, cut, if_neg hlonger, ih hcut]
      rfl

-- The first occurrence is the one with no other starting in front of it.
theorem cut_eq_of_first {pattern before : List α} (after : List α) (hne : pattern ≠ [])
    (hfirst : ¬ pattern <:+: before ++ pattern.dropLast) :
    cut pattern (before ++ pattern ++ after) = some (before, after) := by
  induction before with
  | nil =>
    obtain ⟨unit, rest, rfl⟩ := List.exists_cons_of_ne_nil hne
    have hpre : (unit :: rest).isPrefixOf (unit :: rest ++ after) = true :=
      List.isPrefixOf_iff_prefix.mpr (List.prefix_append _ _)
    rw [List.nil_append, List.cons_append, cut, ← List.cons_append, if_pos hpre,
      List.drop_left]
  | cons head rest ih =>
    have hpre : ¬ pattern.isPrefixOf (head :: (rest ++ pattern ++ after)) = true := by
      rw [List.isPrefixOf_iff_prefix]
      intro h
      apply hfirst
      have hshort : head :: rest ++ pattern.dropLast <+: head :: (rest ++ pattern ++ after) := by
        refine List.cons_prefix_cons.mpr ⟨rfl, ?_⟩
        rw [List.append_assoc]
        refine (List.prefix_append_right_inj rest).mpr ?_
        exact (List.dropLast_prefix pattern).trans (List.prefix_append _ _)
      have hpos := List.length_pos_of_ne_nil hne
      refine (List.prefix_of_prefix_length_le h hshort ?_).isInfix
      simp only [List.length_append, List.length_cons, List.length_dropLast]
      omega
    have hrest := ih fun h => hfirst (List.infix_cons h)
    rw [List.cons_append, List.cons_append, cut, if_neg hpre, hrest]
    rfl

variable {separator : α}

omit [DecidableEq α] in
theorem infix_append_cons_iff (h : separator ∉ pattern) (first second : List α) :
    pattern <:+: first ++ separator :: second ↔ pattern <:+: first ∨ pattern <:+: second := by
  constructor
  · rintro ⟨before, after, heq⟩
    rcases List.append_eq_append_iff.mp heq with ⟨middle, hleft, rfl⟩ | ⟨middle, hleft, hright⟩
    · exact .inl ⟨before, middle, hleft.symm⟩
    · cases middle with
      | nil => exact .inl ⟨before, [], by simpa using hleft⟩
      | cons unit middle =>
        obtain ⟨rfl, rfl⟩ := List.cons.inj hright
        rcases List.append_eq_append_iff.mp hleft with ⟨gap, _, hgap⟩ | ⟨gap, _, hgap⟩
        · rw [hgap] at h
          exact absurd (List.mem_append_right gap List.mem_cons_self) h
        · cases gap with
          | nil =>
            rw [List.nil_append] at hgap
            exact absurd (hgap ▸ List.mem_cons_self) h
          | cons unit gap =>
            obtain ⟨_, rfl⟩ := List.cons.inj hgap
            exact .inr ⟨gap, after, rfl⟩
  · rintro (hfirst | hsecond)
    · exact hfirst.trans (List.prefix_append _ _).isInfix
    · exact hsecond.trans ((List.suffix_cons _ _).trans (List.suffix_append _ _)).isInfix

omit [DecidableEq α] in
theorem infix_cons_iff_of_head {unit : α} (hne : pattern ≠ []) (h : pattern.head? ≠ some unit)
    (text : List α) : pattern <:+: unit :: text ↔ pattern <:+: text := by
  rw [List.infix_cons_iff]
  refine or_iff_right fun hpre => h ?_
  obtain ⟨head, rest, rfl⟩ := List.exists_cons_of_ne_nil hne
  rw [List.head?_cons, (List.cons_prefix_cons.mp hpre).1]

-- The number of places at which the pattern occurs in the text.
-- The text before and after the last separator.
def cutLast (separator : α) : List α → Option (List α × List α)
  | [] => none
  | head :: rest =>
    match cutLast separator rest with
    | some (before, after) => some (head :: before, after)
    | none => if head = separator then some ([], rest) else none

theorem cutLast_eq_none_iff {text : List α} : cutLast separator text = none ↔ separator ∉ text := by
  induction text with
  | nil => simp [cutLast]
  | cons head rest ih =>
    rw [cutLast]
    cases hrest : cutLast separator rest with
    | some sides =>
      have hmem : separator ∈ rest := by
        by_contra hnot
        rw [ih.mpr hnot] at hrest
        cases hrest
      simp [hmem]
    | none =>
      have hnot := ih.mp hrest
      by_cases hhead : head = separator
      · simp [hhead]
      · simp [hhead, Ne.symm hhead, hnot]

theorem cutLast_append (before : List α) {after : List α} (h : separator ∉ after) :
    cutLast separator (before ++ separator :: after) = some (before, after) := by
  induction before with
  | nil =>
    rw [List.nil_append, cutLast, cutLast_eq_none_iff.mpr h]
    exact if_pos rfl
  | cons head rest ih => rw [List.cons_append, cutLast, ih]

theorem cutLast_eq_some {text before after : List α}
    (h : cutLast separator text = some (before, after)) :
    text = before ++ separator :: after ∧ separator ∉ after := by
  induction text generalizing before with
  | nil => cases h
  | cons head rest ih =>
    rw [cutLast] at h
    cases hrest : cutLast separator rest with
    | some sides =>
      rw [hrest] at h
      obtain ⟨rfl, rfl⟩ := Prod.mk.inj (Option.some.inj h)
      obtain ⟨hsplit, hlast⟩ := ih hrest
      exact ⟨by rw [hsplit, List.cons_append], hlast⟩
    | none =>
      rw [hrest] at h
      dsimp only at h
      split at h
      · rename_i hhead
        obtain ⟨rfl, rfl⟩ := Prod.mk.inj (Option.some.inj h)
        exact ⟨by rw [hhead, List.nil_append], cutLast_eq_none_iff.mp hrest⟩
      · cases h

def occurrences (pattern text : List α) : Nat :=
  text.tails.countP pattern.isPrefixOf

theorem occurrences_cons (pattern : List α) (head : α) (rest : List α) :
    occurrences pattern (head :: rest) =
      occurrences pattern rest + if pattern.isPrefixOf (head :: rest) then 1 else 0 := by
  rw [occurrences, List.tails_cons, List.countP_cons]
  rfl

theorem occurrences_le_append (pattern first second : List α) :
    occurrences pattern second ≤ occurrences pattern (first ++ second) := by
  induction first with
  | nil => exact Nat.le_refl _
  | cons head rest ih =>
    rw [List.cons_append, occurrences_cons]
    omega

theorem occurrences_pos_iff (pattern text : List α) :
    0 < occurrences pattern text ↔ pattern <:+: text := by
  rw [occurrences, List.countP_pos_iff, List.infix_iff_prefix_suffix]
  simp only [List.mem_tails, List.isPrefixOf_iff_prefix]
  exact exists_congr fun _ => And.comm

-- A pattern that occurs once does not occur any earlier.
theorem first_of_occurs_once {pattern before after : List α} (hne : pattern ≠ [])
    (honce : occurrences pattern (before ++ pattern ++ after) = 1) :
    ¬ pattern <:+: before ++ pattern.dropLast := by
  rintro ⟨front, back, heq⟩
  have hpos := List.length_pos_of_ne_nil hne
  have hlength := congrArg List.length heq
  simp only [List.length_append, List.length_dropLast] at hlength
  -- the later occurrence stands behind the first unit of the earlier one
  obtain ⟨unit, rest, hpattern⟩ := List.exists_cons_of_ne_nil hne
  have htext : before ++ pattern ++ after = front ++ (pattern ++ (back ++
      [pattern.getLast hne] ++ after)) := by
    have hlast := List.dropLast_append_getLast hne
    calc before ++ pattern ++ after
        = before ++ (pattern.dropLast ++ [pattern.getLast hne]) ++ after := by rw [hlast]
      _ = (before ++ pattern.dropLast) ++ [pattern.getLast hne] ++ after := by
          simp only [List.append_assoc]
      _ = _ := by rw [← heq]; simp only [List.append_assoc]
  have hfront : front <+: before ++ pattern ++ after := ⟨_, htext.symm⟩
  have hbefore : before <+: before ++ pattern ++ after := by
    rw [List.append_assoc]
    exact List.prefix_append _ _
  obtain ⟨gap, rfl⟩ := List.prefix_of_prefix_length_le hfront hbefore (by omega)
  have hgap : gap ≠ [] := by
    rintro rfl
    simp only [List.append_nil] at hlength
    omega
  obtain ⟨head, gap, rfl⟩ := List.exists_cons_of_ne_nil hgap
  have hpre : pattern.isPrefixOf (head :: (gap ++ pattern ++ after)) = true := by
    rw [List.isPrefixOf_iff_prefix]
    refine ⟨back ++ [pattern.getLast hne] ++ after, ?_⟩
    have hcancel : front ++ (head :: (gap ++ pattern ++ after)) = front ++ (pattern ++ (back ++
        [pattern.getLast hne] ++ after)) := by
      rw [← htext]
      simp only [List.append_assoc, List.cons_append]
    exact (List.append_cancel_left hcancel).symm
  have hlater : 0 < occurrences pattern (gap ++ pattern ++ after) :=
    (occurrences_pos_iff _ _).mpr ⟨gap, after, rfl⟩
  have hwhole := occurrences_le_append pattern front (head :: (gap ++ pattern ++ after))
  rw [occurrences_cons, if_pos hpre] at hwhole
  simp only [List.append_assoc, List.cons_append] at honce hwhole hlater
  omega

theorem cut_of_occurs_once {pattern before after : List α} (hne : pattern ≠ [])
    (honce : occurrences pattern (before ++ pattern ++ after) = 1) :
    cut pattern (before ++ pattern ++ after) = some (before, after) :=
  cut_eq_of_first after hne (first_of_occurs_once hne honce)

end Search

section Replacement

variable {α : Type*} [DecidableEq α]

-- The text from where so many units of a match are still to be passed over.
def replaceFrom (pattern replacement : List α) : Nat → List α → List α
  | _, [] => []
  | skipped + 1, _ :: rest => replaceFrom pattern replacement skipped rest
  | 0, head :: rest =>
    if pattern.isPrefixOf (head :: rest) then
      replacement ++ replaceFrom pattern replacement (pattern.length - 1) rest
    else
      head :: replaceFrom pattern replacement 0 rest

-- Every match of a nonempty pattern replaced, from the left.
def replaceAll (pattern replacement text : List α) : List α :=
  replaceFrom pattern replacement 0 text

theorem replaceAll_singleton (unit : α) (replacement text : List α) :
    replaceAll [unit] replacement text =
      text.flatMap fun head => if head = unit then replacement else [head] := by
  have hfrom : replaceFrom [unit] replacement 0 text =
      text.flatMap fun head => if head = unit then replacement else [head] := by
    induction text with
    | nil => rfl
    | cons head rest ih =>
      rw [replaceFrom, List.length_singleton, Nat.sub_self, ih, List.flatMap_cons]
      by_cases hhead : head = unit
      · simp [hhead]
      · simp [hhead, Ne.symm hhead]
  exact hfrom

theorem replaceAll_match {pattern : List α} (hne : pattern ≠ []) (replacement rest : List α) :
    replaceAll pattern replacement (pattern ++ rest) =
      replacement ++ replaceAll pattern replacement rest := by
  have hskip : ∀ (passed : List α), replaceFrom pattern replacement passed.length
      (passed ++ rest) = replaceFrom pattern replacement 0 rest := by
    intro passed
    induction passed with
    | nil => rfl
    | cons head passed ih =>
      rw [List.length_cons, List.cons_append, replaceFrom]
      exact ih
  obtain ⟨head, tail, rfl⟩ := List.exists_cons_of_ne_nil hne
  have hleads : (head :: tail).isPrefixOf (head :: (tail ++ rest)) = true :=
    List.isPrefixOf_iff_prefix.mpr (List.prefix_append (head :: tail) rest)
  rw [replaceAll, List.cons_append, replaceFrom, if_pos hleads, List.length_cons,
    Nat.add_sub_cancel, hskip tail, replaceAll]

theorem replaceAll_cons {pattern : List α} {head : α} {rest : List α}
    (h : ¬pattern <+: head :: rest) (replacement : List α) :
    replaceAll pattern replacement (head :: rest) =
      head :: replaceAll pattern replacement rest := by
  rw [replaceAll, replaceFrom, if_neg (mt List.isPrefixOf_iff_prefix.mp h), replaceAll]

end Replacement

end WebSsh2.Library.Text

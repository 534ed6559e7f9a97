import WebSsh2.Library.Text

namespace WebSsh2.Library.Text

section Expansion

variable (before matched after : List UInt16)

-- What `$$`, `$&`, `` $` `` and `$'` stand for in a replacement text: a dollar
-- sign, the match, the text before it and the text after it.
def expansion (unit : UInt16) : Option (List UInt16) :=
  if unit = 36 then some [36]
  else if unit = 38 then some matched
  else if unit = 96 then some before
  else if unit = 39 then some after
  else none

def substitute : List UInt16 → List UInt16
  | [] => []
  | 36 :: next :: rest =>
    match expansion before matched after next with
    | some text => text ++ substitute rest
    | none => 36 :: substitute (next :: rest)
  | unit :: rest => unit :: substitute rest

end Expansion

-- `text.replace(pattern, replacement)`, for a pattern that is a string.
def replace (pattern replacement text : List UInt16) : List UInt16 :=
  match cut pattern text with
  | none => text
  | some (before, after) => before ++ substitute before pattern after replacement ++ after

def dollarPatterns : List (List UInt16) :=
  [[36, 36], [36, 38], [36, 96], [36, 39]]

-- The replacement text has something to substitute.
def Special (replacement : List UInt16) : Prop :=
  ∃ pattern ∈ dollarPatterns, pattern <:+: replacement

instance (replacement : List UInt16) : Decidable (Special replacement) :=
  inferInstanceAs (Decidable (∃ pattern ∈ dollarPatterns, pattern <:+: replacement))

section Substitution

variable {before matched after : List UInt16}

theorem dollarPattern_iff {next : UInt16} :
    [36, next] ∈ dollarPatterns ↔ next = 36 ∨ next = 38 ∨ next = 96 ∨ next = 39 := by
  simp [dollarPatterns]

theorem expansion_eq_none_iff {next : UInt16} :
    expansion before matched after next = none ↔ [36, next] ∉ dollarPatterns := by
  rw [dollarPattern_iff]
  unfold expansion
  split_ifs with h₁ h₂ h₃ h₄ <;> simp [*]

theorem dollarPattern_of_expansion {next : UInt16} {text : List UInt16}
    (h : expansion before matched after next = some text) : [36, next] ∈ dollarPatterns := by
  by_contra hnone
  rw [expansion_eq_none_iff.mpr hnone] at h
  cases h

theorem expansion_cases {next : UInt16} {text : List UInt16}
    (h : expansion before matched after next = some text) :
    (next = 36 ∧ text = [36]) ∨ text = matched ∨ text = before ∨ text = after := by
  unfold expansion at h
  split_ifs at h with h₁ h₂ h₃ h₄ <;> simp_all

theorem special_cons_iff {unit : UInt16} {rest : List UInt16} :
    Special (unit :: rest) ↔
      (∃ next tail, unit = 36 ∧ rest = next :: tail ∧ [36, next] ∈ dollarPatterns) ∨
        Special rest := by
  constructor
  · rintro ⟨pattern, hpattern, hin⟩
    rcases List.infix_cons_iff.mp hin with hpre | hrest
    · left
      obtain ⟨next, rfl⟩ : ∃ next, pattern = [36, next] := by
        simp only [dollarPatterns, List.mem_cons, List.not_mem_nil, or_false] at hpattern
        rcases hpattern with rfl | rfl | rfl | rfl <;> exact ⟨_, rfl⟩
      obtain ⟨heq, tail, htail⟩ := List.cons_prefix_cons.mp hpre
      exact ⟨next, tail, heq.symm, htail.symm, hpattern⟩
    · exact .inr ⟨pattern, hpattern, hrest⟩
  · rintro (⟨next, tail, rfl, rfl, hpattern⟩ | ⟨pattern, hpattern, hrest⟩)
    · exact ⟨_, hpattern, (List.prefix_append [36, next] tail).isInfix⟩
    · exact ⟨pattern, hpattern, List.infix_cons hrest⟩

theorem substitute_of_plain {replacement : List UInt16} (h : ¬ Special replacement) :
    substitute before matched after replacement = replacement := by
  fun_induction substitute before matched after replacement with
  | case1 => rfl
  | case2 next rest text hexpansion ih =>
    exact absurd (special_cons_iff.mpr
      (.inl ⟨next, rest, rfl, rfl, dollarPattern_of_expansion hexpansion⟩)) h
  | case3 next rest hexpansion ih =>
    rw [ih fun hspecial => h (special_cons_iff.mpr (.inr hspecial))]
  | case4 unit rest hunit ih =>
    rw [ih fun hspecial => h (special_cons_iff.mpr (.inr hspecial))]

-- A unit that plays no part in the patterns never becomes rarer.
theorem count_le_substitute {unit : UInt16} (hdollar : unit ≠ 36)
    (hnext : [36, unit] ∉ dollarPatterns) (replacement : List UInt16) :
    replacement.count unit ≤ (substitute before matched after replacement).count unit := by
  fun_induction substitute before matched after replacement with
  | case1 => exact Nat.le_refl _
  | case2 next rest text hexpansion ih =>
    have hne : next ≠ unit := fun heq => hnext (heq ▸ dollarPattern_of_expansion hexpansion)
    rw [List.count_append, List.count_cons_of_ne hdollar.symm, List.count_cons_of_ne hne]
    omega
  | case3 next rest hexpansion ih =>
    rw [List.count_cons_of_ne hdollar.symm, List.count_cons_of_ne hdollar.symm]
    exact ih
  | case4 other rest hother ih =>
    rw [List.count_cons, List.count_cons]
    omega

-- Where no surrounding text came in, only dollar signs went away.
theorem substitute_quiet {unit : UInt16} (hdollar : unit ≠ 36)
    (hnext : [36, unit] ∉ dollarPatterns) (hbefore : unit ∈ before) (hmatched : unit ∈ matched)
    (hafter : unit ∈ after) {replacement : List UInt16}
    (h : (substitute before matched after replacement).count unit ≤ replacement.count unit) :
    (∀ before' matched' after', substitute before' matched' after' replacement =
      substitute before matched after replacement) ∧
    (substitute before matched after replacement).length ≤ replacement.length ∧
    (Special replacement →
      (substitute before matched after replacement).length < replacement.length) := by
  have hgrows := fun text => @count_le_substitute before matched after _ hdollar hnext text
  fun_induction substitute before matched after replacement with
  | case1 =>
    exact ⟨fun _ _ _ => rfl, Nat.le_refl _, fun ⟨_, _, hin⟩ => by simp_all [dollarPatterns]⟩
  | case2 next rest text hexpansion ih =>
    have hne : next ≠ unit := fun heq => hnext (heq ▸ dollarPattern_of_expansion hexpansion)
    rw [List.count_append, List.count_cons_of_ne hdollar.symm, List.count_cons_of_ne hne] at h
    rcases expansion_cases hexpansion with ⟨rfl, rfl⟩ | hothers
    · obtain ⟨hsame, hlength, _⟩ := ih (by omega)
      refine ⟨fun before' matched' after' => ?_, ?_, fun _ => ?_⟩
      · rw [← hsame before' matched' after']
        rfl
      · simp only [List.length_append, List.length_cons, List.length_nil]
        omega
      · simp only [List.length_append, List.length_cons, List.length_nil]
        omega
    · have hmem : unit ∈ text := by rcases hothers with rfl | rfl | rfl <;> assumption
      have hpos := List.count_pos_iff.mpr hmem
      have hrest := hgrows rest
      omega
  | case3 next rest hexpansion ih =>
    rw [List.count_cons_of_ne hdollar.symm, List.count_cons_of_ne hdollar.symm] at h
    obtain ⟨hsame, hlength, hless⟩ := ih h
    have hplain := expansion_eq_none_iff.mp hexpansion
    refine ⟨fun before' matched' after' => ?_, ?_, fun hspecial => ?_⟩
    · rw [substitute, expansion_eq_none_iff.mpr hplain, ← hsame before' matched' after']
    · simp only [List.length_cons] at hlength ⊢
      omega
    · rcases special_cons_iff.mp hspecial with ⟨_, _, _, heq, hpattern⟩ | hrest
      · obtain ⟨rfl, rfl⟩ := List.cons.inj heq
        exact absurd hpattern hplain
      · have hshort := hless hrest
        simp only [List.length_cons] at hshort ⊢
        omega
  | case4 other rest hother ih =>
    rw [List.count_cons, List.count_cons] at h
    obtain ⟨hsame, hlength, hless⟩ := ih (by omega)
    refine ⟨fun before' matched' after' => ?_, ?_, fun hspecial => ?_⟩
    · rw [substitute.eq_3 _ _ _ _ _ hother, hsame]
    · simp only [List.length_cons]
      omega
    · rcases special_cons_iff.mp hspecial with ⟨next, tail, hunit, hrest, _⟩ | hrest
      · exact absurd hrest (hother next tail hunit)
      · have hshort := hless hrest
        simp only [List.length_cons]
        omega

theorem substitute_cons_of_ne {unit : UInt16} (h : unit ≠ 36) (rest : List UInt16) :
    substitute before matched after (unit :: rest) =
      unit :: substitute before matched after rest :=
  substitute.eq_3 _ _ _ _ _ fun _ _ heq => absurd heq h

-- A text without dollar signs is left alone, in front of the rest or behind it.
theorem substitute_append_left {first : List UInt16} (h : 36 ∉ first) (second : List UInt16) :
    substitute before matched after (first ++ second) =
      first ++ substitute before matched after second := by
  induction first with
  | nil => rfl
  | cons unit rest ih =>
    rw [List.mem_cons, not_or] at h
    rw [List.cons_append, substitute_cons_of_ne (Ne.symm h.1), ih h.2, List.cons_append]

theorem substitute_append_right {second : List UInt16} (h : 36 ∉ second)
    (hhead : ∀ unit ∈ second.head?, [36, unit] ∉ dollarPatterns) (first : List UInt16) :
    substitute before matched after (first ++ second) =
      substitute before matched after first ++ second := by
  have hsecond : substitute before matched after second = second := by
    have := @substitute_append_left before matched after _ h []
    simpa [substitute] using this
  fun_induction substitute before matched after first with
  | case1 => exact hsecond
  | case2 next rest text hexpansion ih =>
    rw [List.cons_append, List.cons_append, substitute, hexpansion, ih, List.append_assoc]
  | case3 next rest hexpansion ih =>
    rw [List.cons_append, List.cons_append, substitute, hexpansion]
    exact congrArg (36 :: ·) ih
  | case4 other rest hother ih =>
    by_cases hdollar : other = 36
    · subst hdollar
      cases rest with
      | cons next tail => exact absurd rfl (hother next tail rfl)
      | nil =>
        cases second with
        | nil => rfl
        | cons unit tail =>
          have hnone := (@expansion_eq_none_iff before matched after _).mpr (hhead unit rfl)
          rw [List.cons_append, List.nil_append, substitute.eq_2, hnone, hsecond]
          rfl
    · rw [List.cons_append, substitute_cons_of_ne hdollar, ih, List.cons_append]

theorem replace_of_cut {pattern text : List UInt16} {around : List UInt16 × List UInt16}
    (h : cut pattern text = some around) (replacement : List UInt16) :
    replace pattern replacement text =
      around.1 ++ substitute around.1 pattern around.2 replacement ++ around.2 := by
  rw [replace, h]

end Substitution

end WebSsh2.Library.Text

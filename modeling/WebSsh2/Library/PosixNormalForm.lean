import WebSsh2.Library.PosixPath

namespace WebSsh2.Library.PosixPath

open WebSsh2.Library.Text

section NormalForms

variable {α : Type*} [DecidableEq α] {alphabet : Alphabet α}

theorem push_up_cons (allowAboveRoot : Bool) {top : List α} (htop : top ≠ alphabet.up)
    (below : List (List α)) :
    push alphabet allowAboveRoot (top :: below) alphabet.up = below := by
  have hup := @up_named _ alphabet
  simp only [push, hup.1, hup.2.1, or_self, if_false, if_true, if_neg htop]

theorem push_name (allowAboveRoot : Bool) (stack : List (List α)) {component : List α}
    (hne : component ≠ []) (hhere : component ≠ alphabet.here) (hup : component ≠ alphabet.up) :
    push alphabet allowAboveRoot stack component = component :: stack := by
  simp only [push, hne, hhere, or_self, if_false, if_neg hup]

theorem push_skip (allowAboveRoot : Bool) (stack : List (List α)) {component : List α}
    (h : component = [] ∨ component = alphabet.here) :
    push alphabet allowAboveRoot stack component = stack := by
  simp only [push, if_pos h]

variable {stack : List (List α)}

-- What is kept is pushed as it is.
theorem foldl_push_kept {allowAboveRoot : Bool} (h : Kept alphabet allowAboveRoot stack) :
    stack.reverse.foldl (push alphabet allowAboveRoot) [] = stack := by
  induction stack with
  | nil => rfl
  | cons top below ih =>
    rw [List.reverse_cons, List.foldl_append, ih h.tail, List.foldl_cons, List.foldl_nil]
    obtain ⟨hne, hhere, -⟩ := h.named top List.mem_cons_self
    by_cases hup : top = alphabet.up
    · have hallow : allowAboveRoot = true := by
        by_contra hnot
        exact h.root (Bool.eq_false_iff.mpr hnot) (hup ▸ List.mem_cons_self)
      have hskip : ¬(alphabet.up = [] ∨ alphabet.up = alphabet.here) :=
        not_or.mpr ⟨up_named.1, up_named.2.1⟩
      rw [hup, hallow]
      unfold push
      rw [if_neg hskip, if_pos rfl]
      cases below with
      | nil => rfl
      | cons other rest =>
        have hother := (List.pairwise_cons.mp h.ups).1 other List.mem_cons_self hup
        dsimp only
        rw [if_pos hother, if_pos rfl]
    · exact push_name allowAboveRoot below hne hhere hup

-- Components that are kept with their `..` in front do to any stack what all of them do.
theorem foldl_push_relative {parts : List (List α)} (hslash : ∀ part ∈ parts, alphabet.slash ∉ part)
    (stack : List (List α)) :
    parts.foldl (push alphabet false) stack =
      (parts.foldl (push alphabet true) []).reverse.foldl (push alphabet false) stack := by
  induction parts using List.reverseRecOn with
  | nil => rfl
  | append_singleton parts part ih =>
    have hparts := fun other hmem => hslash other (List.mem_append_left _ hmem)
    have hkept := @kept_foldl _ _ alphabet true _ parts (kept_nil true) hparts
    rw [List.foldl_append, List.foldl_append, ih hparts, List.foldl_cons, List.foldl_nil,
      List.foldl_cons, List.foldl_nil]
    generalize parts.foldl (push alphabet true) [] = kept at hkept
    by_cases hskip : part = [] ∨ part = alphabet.here
    · rw [push_skip _ _ hskip, push_skip _ _ hskip]
    obtain ⟨hne, hhere⟩ := not_or.mp hskip
    by_cases hup : part = alphabet.up
    · subst hup
      cases kept with
      | nil =>
        have hpush : push alphabet true [] alphabet.up = [alphabet.up] := by
          simp only [push, hne, hhere, or_self, if_false, if_true]
        rw [hpush]
        rfl
      | cons top below =>
        by_cases htop : top = alphabet.up
        · have hpush : push alphabet true (top :: below) alphabet.up =
              alphabet.up :: top :: below := by
            simp only [push, hne, hhere, or_self, if_false, if_true, if_pos htop]
          have hreverse : (alphabet.up :: top :: below).reverse =
              (top :: below).reverse ++ [alphabet.up] := List.reverse_cons
          rw [hpush, hreverse, List.foldl_append, List.foldl_cons, List.foldl_nil]
        · obtain ⟨htopne, htophere, -⟩ := hkept.named top List.mem_cons_self
          rw [push_up_cons true htop, List.reverse_cons, List.foldl_append, List.foldl_cons,
            List.foldl_nil, push_name false _ htopne htophere htop, push_up_cons false htop]
    · rw [push_name true _ hne hhere hup, List.reverse_cons, List.foldl_append,
        List.foldl_cons, List.foldl_nil]

theorem foldl_push_frame (allowAboveRoot absolute trailing : Bool) (kept stack : List (List α)) :
    (frame alphabet absolute trailing kept).foldl (push alphabet allowAboveRoot) stack =
      kept.foldl (push alphabet allowAboveRoot) stack := by
  have hempty : ∀ other : List (List α), push alphabet allowAboveRoot other [] = other :=
    fun other => push_skip _ _ (.inl rfl)
  have hhere : ∀ other : List (List α),
      push alphabet allowAboveRoot other alphabet.here = other :=
    fun other => push_skip _ _ (.inr rfl)
  cases kept with
  | nil => cases absolute <;> cases trailing <;> simp [frame, hempty, hhere]
  | cons head rest =>
    cases absolute <;> cases trailing <;> simp [frame, hempty, List.foldl_append]

theorem slash_notMem_components (path : List α) :
    ∀ part ∈ components alphabet path, alphabet.slash ∉ part :=
  fun part hmem => (mem_splitOn _ path part hmem).1

theorem isAbsolute_render (absolute trailing : Bool) {kept : List (List α)}
    (hkept : ∀ component ∈ kept, component ≠ [] ∧ alphabet.slash ∉ component) :
    isAbsolute alphabet (render alphabet absolute trailing kept) = absolute := by
  cases absolute with
  | true =>
    unfold render
    dsimp only
    split <;> simp [isAbsolute]
  | false =>
    cases kept with
    | nil => cases trailing <;> simp [render, isAbsolute, alphabet.dot_ne_slash]
    | cons head rest =>
      obtain ⟨hne, hslash⟩ := hkept head List.mem_cons_self
      obtain ⟨first, later, rfl⟩ := List.exists_cons_of_ne_nil hne
      have hfirst : first ≠ alphabet.slash := by
        rintro rfl
        exact hslash List.mem_cons_self
      have hbody : ∃ text, [alphabet.slash].intercalate ((first :: later) :: rest) =
          first :: text := by
        cases rest with
        | nil => exact ⟨later, by simp⟩
        | cons next others => exact ⟨_, by rw [List.intercalate_cons_cons]; rfl⟩
      obtain ⟨text, htext⟩ := hbody
      unfold render
      dsimp only
      rw [htext, if_neg (List.cons_ne_nil _ _)]
      simp [isAbsolute, hfirst]

theorem normalizeString_named (allowAboveRoot : Bool) (path : List α) :
    ∀ component ∈ normalizeString alphabet allowAboveRoot path,
      component ≠ [] ∧ component ≠ alphabet.here ∧ alphabet.slash ∉ component := by
  intro component hmem
  exact (kept_normalizeString allowAboveRoot path).named component (List.mem_reverse.mpr hmem)

theorem isAbsolute_normalize_eq (path : List α) :
    isAbsolute alphabet (normalize alphabet path) = isAbsolute alphabet path := by
  refine isAbsolute_render _ _ fun component hmem => ?_
  obtain ⟨hne, -, hslash⟩ := normalizeString_named _ path component hmem
  exact ⟨hne, hslash⟩

theorem hasTrailingSlash_render (absolute trailing : Bool) {kept : List (List α)}
    (hkept : ∀ component ∈ kept, component ≠ [] ∧ alphabet.slash ∉ component)
    (hne : kept ≠ []) :
    hasTrailingSlash alphabet (render alphabet absolute trailing kept) = trailing := by
  obtain ⟨init, last, rfl⟩ := (List.eq_nil_or_concat kept).resolve_left hne
  rw [List.concat_eq_append] at hkept hne ⊢
  obtain ⟨hlast, hslash⟩ := hkept last (List.mem_append_right _ List.mem_cons_self)
  obtain ⟨stem, final, rfl⟩ := (List.eq_nil_or_concat last).resolve_left hlast
  rw [List.concat_eq_append] at hlast hslash ⊢
  have hfinal : final ≠ alphabet.slash := by
    rintro rfl
    exact hslash (List.mem_append_right _ List.mem_cons_self)
  have hbody : ∃ text, [alphabet.slash].intercalate (init ++ [stem ++ [final]]) =
      text ++ [final] := by
    cases init with
    | nil => exact ⟨stem, by simp⟩
    | cons head rest =>
      rw [intercalate_append (List.cons_ne_nil _ _) (by simp)]
      exact ⟨[alphabet.slash].intercalate (head :: rest) ++ [alphabet.slash] ++ stem,
        by simp⟩
  obtain ⟨text, htext⟩ := hbody
  unfold render
  dsimp only
  rw [htext, if_neg (by simp)]
  cases trailing <;> simp [hasTrailingSlash, hfinal]

theorem normalizeString_normalize (path : List α) :
    normalizeString alphabet (!isAbsolute alphabet path) (normalize alphabet path) =
      normalizeString alphabet (!isAbsolute alphabet path) path := by
  have hkept := @kept_normalizeString _ _ alphabet (!isAbsolute alphabet path) path
  have hfold := foldl_push_kept hkept
  rw [List.reverse_reverse] at hfold
  rw [normalizeString, components_normalize, foldl_push_frame, hfold, List.reverse_reverse]

theorem normalize_normalize (path : List α) :
    normalize alphabet (normalize alphabet path) = normalize alphabet path := by
  have hnamed : ∀ component ∈ normalizeString alphabet (!isAbsolute alphabet path) path,
      component ≠ [] ∧ alphabet.slash ∉ component := by
    intro component hmem
    obtain ⟨hne, -, hslash⟩ := normalizeString_named _ path component hmem
    exact ⟨hne, hslash⟩
  have hkept := @normalizeString_normalize _ _ alphabet path
  rw [normalize, isAbsolute_normalize_eq, hkept]
  unfold normalize
  dsimp only
  by_cases hempty : normalizeString alphabet (!isAbsolute alphabet path) path = []
  · rw [hempty]
    cases isAbsolute alphabet path with
    | true => rfl
    | false =>
      cases hasTrailingSlash alphabet path with
      | true => simp [render, hasTrailingSlash]
      | false => simp [render, hasTrailingSlash, alphabet.dot_ne_slash]
  · rw [hasTrailingSlash_render _ _ hnamed hempty]

-- A path and its normal form name the same place.
theorem resolve_normalize (base : List (List α)) (path : List α) :
    resolve alphabet base (normalize alphabet path) = resolve alphabet base path := by
  unfold resolve
  rw [isAbsolute_normalize_eq, components_normalize, foldl_push_frame]
  cases habsolute : isAbsolute alphabet path with
  | true =>
    have hkept := @kept_normalizeString _ _ alphabet false path
    have hfold := foldl_push_kept hkept
    rw [List.reverse_reverse] at hfold
    rw [if_pos rfl, Bool.not_true, hfold, List.reverse_reverse]
    rfl
  | false =>
    rw [if_neg (by simp), Bool.not_false]
    rw [foldl_push_relative (slash_notMem_components path) base.reverse]
    rfl

-- Without `..` the components that are no slashes go on from the stack.
theorem foldl_push_down {parts : List (List α)} (hup : alphabet.up ∉ parts)
    (hhere : alphabet.here ∉ parts) (allowAboveRoot : Bool) (stack : List (List α)) :
    parts.foldl (push alphabet allowAboveRoot) stack =
      (parts.filter (· ≠ [])).reverse ++ stack := by
  induction parts generalizing stack with
  | nil => rfl
  | cons part rest ih =>
    simp only [List.mem_cons, not_or] at hup hhere
    rw [List.foldl_cons, ih hup.2 hhere.2]
    by_cases hne : part = []
    · rw [push_skip _ _ (.inl hne), List.filter_cons_of_neg (by simp [hne])]
    · rw [push_name _ _ hne (Ne.symm hhere.1) (Ne.symm hup.1),
        List.filter_cons_of_pos (by simp [hne]), List.reverse_cons, List.append_assoc]
      rfl

theorem foldl_push_ups (hup : alphabet.up ∉ stack) (count : Nat) :
    (List.replicate count alphabet.up).foldl (push alphabet false) stack = stack.drop count := by
  induction count generalizing stack with
  | zero => rfl
  | succ count ih =>
    rw [List.replicate_succ, List.foldl_cons]
    cases stack with
    | nil =>
      have hpush : push alphabet false [] alphabet.up = [] := by
        simp [push, up_named.1, up_named.2.1]
      rw [hpush, ih hup, List.drop_nil, List.drop_nil]
    | cons top below =>
      simp only [List.mem_cons, not_or] at hup
      rw [push_up_cons false (Ne.symm hup.1), ih hup.2, List.drop_succ_cons]

omit [DecidableEq α] in
theorem Kept.reverse (h : Kept alphabet false stack) : Kept alphabet false stack.reverse := by
  refine ⟨fun component hmem => h.named component (List.mem_reverse.mp hmem), ?_,
    fun hroot hmem => h.root hroot (List.mem_reverse.mp hmem)⟩
  refine List.pairwise_of_forall_mem_list fun later hlater earlier _ heq => ?_
  exact absurd (List.mem_reverse.mp (heq ▸ hlater)) (h.root rfl)

-- Where `..` stands in front only, it leads up from the stack, and the rest down again.
theorem up_notMem_dropWhile {parts : List (List α)}
    (hups : parts.Pairwise fun earlier later => later = alphabet.up → earlier = alphabet.up) :
    alphabet.up ∉ parts.dropWhile (· = alphabet.up) := by
  induction parts with
  | nil => exact List.not_mem_nil
  | cons part rest ih =>
    obtain ⟨hpart, hrest⟩ := List.pairwise_cons.mp hups
    by_cases hup : part = alphabet.up
    · rw [List.dropWhile_cons_of_pos (by simp [hup])]
      exact ih hrest
    · rw [List.dropWhile_cons_of_neg (by simp [hup])]
      intro hmem
      rcases List.mem_cons.mp hmem with heq | hmem
      · exact hup heq.symm
      · exact hup (hpart _ hmem rfl)

theorem takeWhile_up (parts : List (List α)) :
    parts.takeWhile (· = alphabet.up) =
      List.replicate (parts.takeWhile (· = alphabet.up)).length alphabet.up := by
  refine List.eq_replicate_iff.mpr ⟨rfl, fun part hmem => ?_⟩
  exact of_decide_eq_true (List.all_eq_true.mp List.all_takeWhile part hmem)

theorem foldl_push_climb {parts stack : List (List α)}
    (hups : parts.Pairwise fun earlier later => later = alphabet.up → earlier = alphabet.up)
    (hhere : alphabet.here ∉ parts) (hstack : alphabet.up ∉ stack) :
    parts.foldl (push alphabet false) stack =
      ((parts.dropWhile (· = alphabet.up)).filter (· ≠ [])).reverse ++
        stack.drop (parts.takeWhile (· = alphabet.up)).length := by
  have hrest : alphabet.here ∉ parts.dropWhile (· = alphabet.up) :=
    fun hmem => hhere ((List.dropWhile_sublist _).mem hmem)
  calc parts.foldl (push alphabet false) stack
      = (parts.takeWhile (· = alphabet.up) ++ parts.dropWhile (· = alphabet.up)).foldl
          (push alphabet false) stack := by rw [List.takeWhile_append_dropWhile]
    _ = _ := by
        rw [List.foldl_append, takeWhile_up, foldl_push_ups hstack,
          foldl_push_down (up_notMem_dropWhile hups) hrest, ← takeWhile_up]

-- All of a path, read from any place: up first, then down by names.
theorem foldl_push_components (path : List α) {stack : List (List α)}
    (hstack : alphabet.up ∉ stack) :
    (components alphabet path).foldl (push alphabet false) stack =
      ((normalizeString alphabet true path).dropWhile (· = alphabet.up)).reverse ++
        stack.drop ((normalizeString alphabet true path).takeWhile (· = alphabet.up)).length := by
  have hkept := @kept_normalizeString _ _ alphabet true path
  have hnamed := @normalizeString_named _ _ alphabet true path
  have hhere : alphabet.here ∉ normalizeString alphabet true path :=
    fun hmem => (hnamed _ hmem).2.1 rfl
  have hfilter : ((normalizeString alphabet true path).dropWhile (· = alphabet.up)).filter
      (· ≠ []) = (normalizeString alphabet true path).dropWhile (· = alphabet.up) :=
    List.filter_eq_self.mpr fun part hmem =>
      decide_eq_true (hnamed part ((List.dropWhile_sublist _).mem hmem)).1
  have hclimb := foldl_push_climb (List.pairwise_reverse.mp hkept.ups) hhere hstack
  rw [hfilter] at hclimb
  exact (foldl_push_relative (slash_notMem_components path) stack).trans hclimb

-- A normal form that has `.` in it is nothing else.
theorem head_of_here_mem {path : List α}
    (h : alphabet.here ∈ components alphabet (normalize alphabet path)) :
    (components alphabet (normalize alphabet path)).head? = some alphabet.here := by
  have hnamed := @normalizeString_named _ _ alphabet (!isAbsolute alphabet path) path
  have hne : alphabet.here ≠ [] := by simp [Alphabet.here]
  rw [components_normalize] at h ⊢
  generalize normalizeString alphabet (!isAbsolute alphabet path) path = kept at h hnamed ⊢
  generalize isAbsolute alphabet path = absolute at h ⊢
  generalize hasTrailingSlash alphabet path = trailing at h ⊢
  cases kept with
  | nil =>
    cases absolute with
    | false => rfl
    | true => simp [frame, hne] at h
  | cons head rest =>
    have hkept : alphabet.here ∉ head :: rest :=
      fun hmem => (hnamed alphabet.here hmem).2.1 rfl
    simp only [frame, List.mem_append] at h
    rcases h with hlead | hmem | htrail
    · cases absolute <;> simp [hne] at hlead
    · exact absurd hmem hkept
    · cases trailing <;> simp [hne] at htrail

end NormalForms

end WebSsh2.Library.PosixPath

import WebSsh2.Library.Text

namespace WebSsh2.Library.PosixPath

open WebSsh2.Library.Text

-- The two characters that mean something in a path.
structure Alphabet (α : Type*) where
  slash : α
  dot : α
  dot_ne_slash : dot ≠ slash

section Paths

variable {α : Type*} [DecidableEq α] (alphabet : Alphabet α)

def Alphabet.here : List α := [alphabet.dot]

def Alphabet.up : List α := [alphabet.dot, alphabet.dot]

variable (path : List α)

def components : List (List α) :=
  path.splitOn alphabet.slash

def isAbsolute : Bool :=
  path.head? = some alphabet.slash

def hasTrailingSlash : Bool :=
  path.getLast? = some alphabet.slash

-- One component moves the stack of kept components, top first.
def push (allowAboveRoot : Bool) (stack : List (List α)) (component : List α) : List (List α) :=
  if component = [] ∨ component = alphabet.here then
    stack
  else if component = alphabet.up then
    match stack with
    | [] => if allowAboveRoot then [alphabet.up] else []
    | top :: below =>
      if top = alphabet.up then
        if allowAboveRoot then alphabet.up :: stack else stack
      else below
  else
    component :: stack

def normalizeString (allowAboveRoot : Bool) (path : List α) : List (List α) :=
  ((components alphabet path).foldl (push alphabet allowAboveRoot) []).reverse

variable (absolute trailing : Bool)

-- The text of a normal form, from the components it keeps.
def render (kept : List (List α)) : List α :=
  let body := [alphabet.slash].intercalate kept
  if body = [] then
    if absolute then [alphabet.slash]
    else if trailing then [alphabet.dot, alphabet.slash]
    else [alphabet.dot]
  else
    (if absolute then [alphabet.slash] else []) ++ body ++
      if trailing then [alphabet.slash] else []

def normalize : List α :=
  let absolute := isAbsolute alphabet path
  render alphabet absolute (hasTrailingSlash alphabet path)
    (normalizeString alphabet (!absolute) path)

-- The components of the directory or file a path names, seen from `base`.
def resolve (base : List (List α)) (path : List α) : List (List α) :=
  ((components alphabet path).foldl (push alphabet false)
    (if isAbsolute alphabet path then [] else base.reverse)).reverse

-- A kept component is a name or `..`, and `..` stands on other `..` only.
structure Kept (allowAboveRoot : Bool) (stack : List (List α)) : Prop where
  named : ∀ component ∈ stack,
    component ≠ [] ∧ component ≠ alphabet.here ∧ alphabet.slash ∉ component
  ups : stack.Pairwise fun later earlier => later = alphabet.up → earlier = alphabet.up
  root : allowAboveRoot = false → alphabet.up ∉ stack

variable {alphabet}

omit [DecidableEq α] in
theorem kept_nil (allowAboveRoot : Bool) : Kept alphabet allowAboveRoot [] :=
  ⟨by simp, List.Pairwise.nil, by simp⟩

omit [DecidableEq α] in
theorem Kept.tail {allowAboveRoot : Bool} {top : List α} {below : List (List α)}
    (h : Kept alphabet allowAboveRoot (top :: below)) : Kept alphabet allowAboveRoot below :=
  ⟨fun component hmem => h.named component (List.mem_cons_of_mem _ hmem),
    (List.pairwise_cons.mp h.ups).2,
    fun hroot hmem => h.root hroot (List.mem_cons_of_mem _ hmem)⟩

omit [DecidableEq α] in
theorem up_named :
    alphabet.up ≠ [] ∧ alphabet.up ≠ alphabet.here ∧ alphabet.slash ∉ alphabet.up := by
  refine ⟨by simp [Alphabet.up], by simp [Alphabet.up, Alphabet.here], ?_⟩
  simp [Alphabet.up, alphabet.dot_ne_slash.symm]

variable {component : List α} {stack : List (List α)} {allowAboveRoot : Bool}

theorem kept_push (h : Kept alphabet allowAboveRoot stack) (hslash : alphabet.slash ∉ component) :
    Kept alphabet allowAboveRoot (push alphabet allowAboveRoot stack component) := by
  unfold push
  by_cases hskip : component = [] ∨ component = alphabet.here
  · rw [if_pos hskip]
    exact h
  rw [if_neg hskip]
  push Not at hskip
  by_cases hup : component = alphabet.up
  · rw [if_pos hup]
    cases stack with
    | nil =>
      cases allowAboveRoot with
      | false => exact h
      | true =>
        exact ⟨by simpa using up_named, List.pairwise_singleton _ _, by simp⟩
    | cons top below =>
      by_cases htop : top = alphabet.up
      · cases allowAboveRoot with
        | false => simpa [htop] using h
        | true =>
          simp only [if_pos htop, if_true]
          refine ⟨?_, ?_, by simp⟩
          · intro other hmem
            rcases List.mem_cons.mp hmem with rfl | hmem
            · exact up_named
            · exact h.named other hmem
          · refine List.pairwise_cons.mpr ⟨fun other hmem _ => ?_, h.ups⟩
            rcases List.mem_cons.mp hmem with rfl | hmem
            · exact htop
            · exact (List.pairwise_cons.mp h.ups).1 other hmem htop
      · simp only [if_neg htop]
        exact h.tail
  · rw [if_neg hup]
    refine ⟨?_, ?_, ?_⟩
    · intro other hmem
      rcases List.mem_cons.mp hmem with rfl | hmem
      · exact ⟨hskip.1, hskip.2, hslash⟩
      · exact h.named other hmem
    · exact List.pairwise_cons.mpr ⟨fun _ _ heq => absurd heq hup, h.ups⟩
    · intro hroot hmem
      rcases List.mem_cons.mp hmem with heq | hmem
      · exact hup heq.symm
      · exact h.root hroot hmem

theorem kept_foldl {allowAboveRoot : Bool} {stack : List (List α)} (parts : List (List α))
    (h : Kept alphabet allowAboveRoot stack) (hslash : ∀ part ∈ parts, alphabet.slash ∉ part) :
    Kept alphabet allowAboveRoot (parts.foldl (push alphabet allowAboveRoot) stack) := by
  induction parts generalizing stack with
  | nil => exact h
  | cons part rest ih =>
    have hpart := kept_push h (hslash part List.mem_cons_self)
    exact ih hpart fun other hmem => hslash other (List.mem_cons_of_mem _ hmem)

theorem kept_normalizeString (allowAboveRoot : Bool) (path : List α) :
    Kept alphabet allowAboveRoot (normalizeString alphabet allowAboveRoot path).reverse := by
  rw [normalizeString, List.reverse_reverse]
  exact kept_foldl _ (kept_nil allowAboveRoot) fun part hmem => (mem_splitOn _ path part hmem).1

-- Without `..` the stack only grows.
theorem push_suffix (hup : component ≠ alphabet.up) (allowAboveRoot : Bool) (stack : List (List α)) :
    stack <:+ push alphabet allowAboveRoot stack component := by
  unfold push
  split
  · exact List.suffix_refl _
  · exact List.suffix_cons _ _

theorem foldl_push_suffix {parts : List (List α)} (hup : alphabet.up ∉ parts)
    (allowAboveRoot : Bool) (stack : List (List α)) :
    stack <:+ parts.foldl (push alphabet allowAboveRoot) stack := by
  induction parts generalizing stack with
  | nil => exact List.suffix_refl _
  | cons part rest ih =>
    simp only [List.mem_cons, not_or] at hup
    exact (push_suffix (Ne.symm hup.1) allowAboveRoot stack).trans (ih hup.2 _)

-- The components of a normal form: those of `.`, `./` and `/` where nothing is
-- kept, otherwise what is kept, with an empty one for a slash at either end.
def frame (alphabet : Alphabet α) (absolute trailing : Bool) :
    List (List α) → List (List α)
  | [] => (if absolute then [] else alphabet.here) :: if absolute || trailing then [[]] else []
  | kept => (if absolute then [[]] else []) ++ (kept ++ if trailing then [[]] else [])

omit [DecidableEq α] in
theorem mem_frame {absolute trailing : Bool} {kept : List (List α)}
    (h : component ∈ frame alphabet absolute trailing kept) :
    component = [] ∨ component = alphabet.here ∨ component ∈ kept := by
  cases kept with
  | nil => cases absolute <;> cases trailing <;> simp [frame] at h ⊢ <;> tauto
  | cons head rest =>
    simp only [frame, List.mem_append] at h
    rcases h with hfirst | hmem | hlast
    · cases absolute <;> simp_all
    · exact .inr (.inr hmem)
    · cases trailing <;> simp_all

omit [DecidableEq α] in
theorem render_eq {kept : List (List α)} (hnamed : [] ∉ kept) :
    render alphabet absolute trailing kept =
      [alphabet.slash].intercalate (frame alphabet absolute trailing kept) := by
  cases kept with
  | nil => cases absolute <;> cases trailing <;> rfl
  | cons head rest =>
    have hhead : head ≠ [] := fun heq => hnamed (by simp [heq])
    have hbody : [alphabet.slash].intercalate (head :: rest) ≠ [] := by
      cases rest <;> simp [hhead]
    have htail : (head :: rest) ++ (if trailing then [[]] else []) ≠ [] := by simp
    have hrendered : [alphabet.slash].intercalate (head :: rest) ++
        (if trailing then [alphabet.slash] else []) =
        [alphabet.slash].intercalate ((head :: rest) ++ if trailing then [[]] else []) := by
      cases trailing with
      | false => simp
      | true =>
        rw [if_pos rfl, if_pos rfl, intercalate_append (by simp) (by simp)]
        simp
    simp only [render, if_neg hbody, frame, List.append_assoc, hrendered]
    cases absolute with
    | false => rfl
    | true =>
      rw [if_pos rfl, if_pos rfl, intercalate_append (by simp) htail]
      simp

omit [DecidableEq α] in
theorem render_ne_nil (kept : List (List α)) : render alphabet absolute trailing kept ≠ [] := by
  simp only [render]
  split
  · cases absolute <;> cases trailing <;> simp
  · rename_i hbody
    simp [hbody]

theorem normalize_ne_nil : normalize alphabet path ≠ [] :=
  render_ne_nil _ _ _

theorem isAbsolute_normalize {path : List α} (h : isAbsolute alphabet path = true) :
    isAbsolute alphabet (normalize alphabet path) = true := by
  simp only [normalize, render, h]
  split <;> simp [isAbsolute]

theorem components_normalize (path : List α) :
    components alphabet (normalize alphabet path) =
      frame alphabet (isAbsolute alphabet path) (hasTrailingSlash alphabet path)
        (normalizeString alphabet (!isAbsolute alphabet path) path) := by
  have hkept := @kept_normalizeString _ _ alphabet (!isAbsolute alphabet path) path
  simp only [normalize]
  generalize normalizeString alphabet (!isAbsolute alphabet path) path = kept at hkept ⊢
  have hnamed : [] ∉ kept := fun hmem => (hkept.named [] (by simpa using hmem)).1 rfl
  rw [render_eq _ _ hnamed, components, List.splitOn_intercalate]
  · intro component hmem
    rcases mem_frame hmem with rfl | rfl | hmem
    · simp
    · simp [Alphabet.here, alphabet.dot_ne_slash.symm]
    · exact (hkept.named component (by simpa using hmem)).2.2
  · cases kept <;> simp [frame]

-- In a normal form `..` stands at the front or nowhere.
theorem normalize_ups (path : List α) :
    (components alphabet (normalize alphabet path)).Pairwise
      fun earlier later => later = alphabet.up → earlier = alphabet.up := by
  have hkept := @kept_normalizeString _ _ alphabet (!isAbsolute alphabet path) path
  have hup : ([] : List α) ≠ alphabet.up := by simp [Alphabet.up]
  rw [components_normalize]
  generalize hasTrailingSlash alphabet path = trailing
  generalize normalizeString alphabet (!isAbsolute alphabet path) path = kept at hkept ⊢
  generalize isAbsolute alphabet path = absolute at hkept ⊢
  cases kept with
  | nil => cases absolute <;> cases trailing <;> simp [frame, hup]
  | cons head rest =>
    have hlast : ((head :: rest) ++ if trailing then [[]] else []).Pairwise
        fun earlier later => later = alphabet.up → earlier = alphabet.up := by
      refine List.pairwise_append.mpr ⟨List.pairwise_reverse.mp hkept.ups, ?_, ?_⟩
      · cases trailing <;> simp
      · intro earlier _ later hmem heq
        cases trailing <;> simp_all
    refine List.pairwise_append.mpr ⟨?_, hlast, ?_⟩
    · cases absolute <;> simp
    · intro earlier hmem later hlater heq
      cases absolute with
      | false => simp at hmem
      | true =>
        have hroot : alphabet.up ∉ head :: rest := by
          simpa only [List.mem_reverse] using hkept.root rfl
        rcases List.mem_append.mp hlater with hlater | hlater
        · exact absurd (heq ▸ hlater) hroot
        · cases trailing <;> simp_all

-- A normal form that does not start with `..` does not contain it.
theorem up_notMem_tail {first : List α} {rest : List (List α)} {path : List α}
    (h : components alphabet (normalize alphabet path) = first :: rest)
    (hfirst : first ≠ alphabet.up) : alphabet.up ∉ rest := by
  have hups := @normalize_ups _ _ alphabet path
  rw [h] at hups
  intro hmem
  exact hfirst ((List.pairwise_cons.mp hups).1 _ hmem rfl)

theorem mem_push {part component : List α} (h : component ∈ push alphabet allowAboveRoot stack part) :
    component ∈ stack ∨ component = part ∨ component = alphabet.up := by
  unfold push at h
  split at h
  · exact .inl h
  split at h
  · cases stack with
    | nil => cases allowAboveRoot <;> simp_all
    | cons top below =>
      simp only at h
      split at h
      · cases allowAboveRoot <;> simp_all
      · exact .inl (List.mem_cons_of_mem _ h)
  · rcases List.mem_cons.mp h with heq | hmem
    · exact .inr (.inl heq)
    · exact .inl hmem

theorem mem_foldl_push (parts : List (List α))
    (h : component ∈ parts.foldl (push alphabet allowAboveRoot) stack) :
    component ∈ stack ∨ component ∈ parts ∨ component = alphabet.up := by
  induction parts generalizing stack with
  | nil => exact .inl h
  | cons part rest ih =>
    rcases ih h with hpush | hrest | hup
    · rcases mem_push hpush with hstack | heq | hup
      · exact .inl hstack
      · exact .inr (.inl (heq ▸ List.mem_cons_self))
      · exact .inr (.inr hup)
    · exact .inr (.inl (List.mem_cons_of_mem _ hrest))
    · exact .inr (.inr hup)

theorem mem_normalize {path : List α} {a : α} (h : a ∈ normalize alphabet path) :
    a ∈ path ∨ a = alphabet.slash ∨ a = alphabet.dot := by
  have hwhole : [alphabet.slash].intercalate (components alphabet (normalize alphabet path)) =
      normalize alphabet path := List.intercalate_splitOn alphabet.slash
  rw [← hwhole] at h
  rw [components_normalize] at h
  rcases mem_intercalate h with hslash | ⟨component, hmem, ha⟩
  · exact .inr (.inl (List.mem_singleton.mp hslash))
  rcases mem_frame hmem with rfl | rfl | hkept
  · cases ha
  · exact .inr (.inr (List.mem_singleton.mp ha))
  rcases mem_foldl_push _ (List.mem_reverse.mp hkept) with hnil | hpart | rfl
  · cases hnil
  · exact .inl ((mem_splitOn _ _ _ hpart).2 a ha)
  · exact .inr (.inr (by simpa [Alphabet.up] using ha))

theorem isAbsolute_of_prefix {first second : List α} (hne : first ≠ [])
    (h : components alphabet first <+: components alphabet second) :
    isAbsolute alphabet first = isAbsolute alphabet second := by
  cases first with
  | nil => exact absurd rfl hne
  | cons head rest =>
    rcases (splitOn_prefix_iff _ _ _).mp h with rfl | ⟨later, rfl⟩
    · rfl
    · rfl

-- A path whose components go on from those of another, never upwards, leads
-- to a place below the other's.
theorem resolve_prefix (base : List (List α)) {first second : List α} {rest : List (List α)}
    (hne : first ≠ []) (h : components alphabet second = components alphabet first ++ rest)
    (hup : alphabet.up ∉ rest) : resolve alphabet base first <+: resolve alphabet base second := by
  have habsolute : isAbsolute alphabet first = isAbsolute alphabet second :=
    isAbsolute_of_prefix hne (h ▸ List.prefix_append _ _)
  unfold resolve
  rw [h, habsolute, List.foldl_append]
  exact List.reverse_prefix.mpr (foldl_push_suffix hup false _)

end Paths

end WebSsh2.Library.PosixPath

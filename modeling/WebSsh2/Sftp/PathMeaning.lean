import WebSsh2.Library.PosixNormalForm
import WebSsh2.Sftp.Confinement

namespace WebSsh2.Sftp

open WebSsh2.Library

-- What a path denotes as it is written: a leading `~` is the home directory, and every
-- other component a name.
def denotes (base : List JsString) (homeDir path : JsString) : List JsString :=
  PosixPath.resolve PathPosix.alphabet base (expandHome homeDir path)

structure PreservesMeaning (base : List JsString) (homeDir path : JsString) : Prop where
  idempotent : normalizePath (normalizePath path) = normalizePath path
  meaning : denotes base homeDir (normalizePath path) = denotes base homeDir path

instance (base : List JsString) (homeDir path : JsString) :
    Decidable (PreservesMeaning base homeDir path) :=
  decidable_of_iff (normalizePath (normalizePath path) = normalizePath path ∧
    denotes base homeDir (normalizePath path) = denotes base homeDir path)
    ⟨fun h => ⟨h.1, h.2⟩, fun h => ⟨h.idempotent, h.meaning⟩⟩

-- The components of a path without those that `..` takes back.
def keptParts (path : JsString) : List JsString :=
  PosixPath.normalizeString PathPosix.alphabet (!PosixPath.isAbsolute PathPosix.alphabet path) path

def homeLocation (base : List JsString) (homeDir : JsString) : List JsString :=
  denotes base homeDir (js "~/")

-- A relative path whose first component is `~` once `.` and `..` are gone names the home
-- directory only where that is the directory `~`, and not with a slash alone behind it.
def KeepsPlain (base : List JsString) (homeDir path : JsString) : Prop :=
  PosixPath.isAbsolute PathPosix.alphabet path = false →
    (keptParts path).head? = some (js "~") →
      homeLocation base homeDir = base ++ [js "~"] ∧
        ¬(keptParts path = [js "~"] ∧ PosixPath.hasTrailingSlash PathPosix.alphabet path = true)

-- Behind `~/`, a second slash stops `..` at the home directory. The home directory itself
-- is `~` only if it has a name.
def KeepsHome (base : List JsString) (homeDir rest : JsString) : Prop :=
  if PosixPath.isAbsolute PathPosix.alphabet rest then
    (PosixPath.normalizeString PathPosix.alphabet true rest).head? = some (js "..") →
      homeLocation base homeDir = []
  else
    keptParts rest = [] → PosixPath.hasTrailingSlash PathPosix.alphabet rest = false →
      homeDir ≠ [] ∨ base = []

def KeepsMeaning (base : List JsString) (homeDir path : JsString) : Prop :=
  if isTildePath path then path ≠ js "~" → KeepsHome base homeDir (path.drop 2)
  else KeepsPlain base homeDir path

instance (base : List JsString) (homeDir path : JsString) :
    Decidable (KeepsPlain base homeDir path) :=
  inferInstanceAs (Decidable (_ → _))

instance (base : List JsString) (homeDir rest : JsString) :
    Decidable (KeepsHome base homeDir rest) :=
  inferInstanceAs (Decidable (ite _ _ _))

instance (base : List JsString) (homeDir path : JsString) :
    Decidable (KeepsMeaning base homeDir path) :=
  inferInstanceAs (Decidable (ite _ _ _))

section Tilde

variable {path rest : JsString}

theorem PathPosix.normalize_normalize (path : JsString) :
    PathPosix.normalize (PathPosix.normalize path) = PathPosix.normalize path :=
  PosixPath.normalize_normalize path

theorem isAbsolute_normalize_iff (path : JsString) :
    PosixPath.isAbsolute PathPosix.alphabet (PathPosix.normalize path) =
      PosixPath.isAbsolute PathPosix.alphabet path :=
  PosixPath.isAbsolute_normalize_eq path

theorem normalizePath_below (rest : JsString) :
    normalizePath (js "~/" ++ rest) =
      if PathPosix.normalize rest = js "." then js "~"
      else js "~/" ++ PathPosix.normalize rest := by
  have hdrop : (js "~/" ++ rest).drop 2 = rest := rfl
  have hpre : (js "~/").isPrefixOf (js "~/" ++ rest) = true :=
    List.isPrefixOf_iff_prefix.mpr (List.prefix_append _ _)
  have hdot : ¬(js "~/" ++ rest = [] ∨ js "~/" ++ rest = js ".") := by simp [js, utf16]
  unfold normalizePath
  rw [if_neg hdot]
  by_cases hempty : rest = []
  · subst hempty
    decide
  · have hlonger : ¬(js "~/" ++ rest = js "~" ∨ js "~/" ++ rest = js "~/") := by
      simp [js, utf16, hempty]
    rw [if_neg hlonger, if_pos hpre, hdrop]

theorem pathComponents_tilde (rest : JsString) :
    pathComponents (js "~/" ++ rest) = js "~" :: pathComponents rest :=
  pathComponents_append (js "~") rest

-- Below the tilde a normal form goes on with a name.
theorem not_absolute_of_normal (hnormal : PathPosix.normalize path = path)
    (heq : path = js "~/" ++ rest) : PosixPath.isAbsolute PathPosix.alphabet rest = false := by
  by_contra habsolute
  rw [Bool.not_eq_false] at habsolute
  have hrelative : PosixPath.isAbsolute PathPosix.alphabet path = false := by
    rw [heq]
    rfl
  have hcomponents := @PosixPath.components_normalize _ _ PathPosix.alphabet path
  have hnamed := @PosixPath.normalizeString_named _ _ PathPosix.alphabet
    (!PosixPath.isAbsolute PathPosix.alphabet path) path
  change PosixPath.components PathPosix.alphabet (PathPosix.normalize path) = _ at hcomponents
  rw [hnormal] at hcomponents
  generalize PosixPath.normalizeString PathPosix.alphabet
    (!PosixPath.isAbsolute PathPosix.alphabet path) path = kept at hcomponents hnamed
  obtain ⟨later, hlater⟩ : ∃ later, rest = 47 :: later := by
    cases rest with
    | nil => cases habsolute
    | cons head later =>
      have hhead : head = 47 := by
        simpa [PosixPath.isAbsolute, PathPosix.alphabet] using habsolute
      exact ⟨later, by rw [hhead]⟩
  have hsplit : PosixPath.components PathPosix.alphabet path =
      js "~" :: [] :: pathComponents later := by
    have hrest : pathComponents rest = [] :: pathComponents later := by
      rw [hlater]
      exact pathComponents_append [] later
    rw [heq, ← hrest]
    exact pathComponents_tilde rest
  obtain ⟨next, others, hnext⟩ := List.exists_cons_of_ne_nil (pathComponents_ne_nil later)
  rw [hsplit, hrelative, hnext] at hcomponents
  generalize PosixPath.hasTrailingSlash PathPosix.alphabet path = trailing at hcomponents
  cases kept with
  | nil => cases trailing <;> cases hcomponents
  | cons head tail =>
    have htail : [] :: next :: others = tail ++ if trailing then [[]] else [] :=
      (List.cons.inj hcomponents).2
    cases tail with
    | nil => cases trailing <;> simp at htail
    | cons first more =>
      have hfirst : [] = first := (List.cons.inj htail).1
      exact (hnamed first (List.mem_cons_of_mem _ List.mem_cons_self)).1 hfirst.symm

end Tilde

section Home

variable {base : List JsString} {homeDir path rest : JsString}

theorem normalizePath_plain (h : isTildePath path = false) :
    normalizePath path = PathPosix.normalize path := by
  rcases normalizePath_cases path with ⟨htilde, -⟩ | ⟨-, heq⟩
  · rw [h] at htilde
    cases htilde
  · exact heq

theorem denotes_plain (h : isTildePath path = false) :
    denotes base homeDir path = PosixPath.resolve PathPosix.alphabet base path := by
  rw [denotes, expandHome_of_not_tilde h]

-- What stands behind `~/` goes on from the home directory.
theorem denotes_below (base : List JsString) (homeDir rest : JsString) :
    denotes base homeDir (js "~/" ++ rest) = ((pathComponents rest).foldl
      (PosixPath.push PathPosix.alphabet false) (homeLocation base homeDir).reverse).reverse := by
  obtain ⟨stem, hstem⟩ := expandHome_below homeDir
  have habsolute : ∀ text : JsString, PosixPath.isAbsolute PathPosix.alphabet (stem ++ 47 :: text) =
      PosixPath.isAbsolute PathPosix.alphabet (stem ++ [47]) := by
    intro text
    cases stem <;> rfl
  have hcomponents : ∀ text : JsString, PosixPath.components PathPosix.alphabet
      (stem ++ 47 :: text) = PosixPath.components PathPosix.alphabet stem ++ pathComponents text :=
    fun text => pathComponents_append stem text
  have hhome : homeLocation base homeDir =
      PosixPath.resolve PathPosix.alphabet base (stem ++ [47]) := by
    unfold homeLocation denotes
    rw [← hstem []]
    rfl
  rw [hhome, denotes, hstem]
  unfold PosixPath.resolve
  rw [habsolute, hcomponents, hcomponents, List.foldl_append, List.foldl_append,
    List.reverse_reverse]
  rfl

theorem denotes_home_of_ne (h : homeDir ≠ []) :
    denotes base homeDir (js "~") = homeLocation base homeDir := by
  have htilde : expandHome homeDir (js "~") = homeDir := rfl
  have hbelow : expandHome homeDir (js "~/") =
      if homeDir.getLast? = some 47 then homeDir else homeDir ++ js "/" := by
    unfold expandHome
    exact List.append_nil _
  unfold homeLocation denotes
  rw [htilde, hbelow]
  split
  · rfl
  · have hcomponents : PosixPath.components PathPosix.alphabet (homeDir ++ js "/") =
        PosixPath.components PathPosix.alphabet homeDir ++ [[]] := pathComponents_append homeDir []
    have habsolute : PosixPath.isAbsolute PathPosix.alphabet (homeDir ++ js "/") =
        PosixPath.isAbsolute PathPosix.alphabet homeDir := by
      cases homeDir with
      | nil => exact absurd rfl h
      | cons head later => rfl
    unfold PosixPath.resolve
    rw [hcomponents, habsolute, List.foldl_append]
    rfl

theorem denotes_home_iff :
    denotes base homeDir (js "~") = homeLocation base homeDir ↔ homeDir ≠ [] ∨ base = [] := by
  by_cases hne : homeDir = []
  · subst hne
    have hroot : homeLocation base [] = [] := rfl
    have hbase : denotes base [] (js "~") = base := List.reverse_reverse base
    rw [hroot, hbase]
    simp
  · exact iff_of_true (denotes_home_of_ne hne) (.inl hne)

end Home

section Kept

variable {path : JsString}

theorem keptParts_relative (h : PosixPath.isAbsolute PathPosix.alphabet path = false) :
    keptParts path = PosixPath.normalizeString PathPosix.alphabet true path := by
  rw [keptParts, h, Bool.not_false]

theorem keptParts_named (path : JsString) :
    ∀ part ∈ keptParts path, part ≠ [] ∧ part ≠ js "." ∧ 47 ∉ part :=
  PosixPath.normalizeString_named _ path

theorem pathComponents_normalize (path : JsString) :
    pathComponents (PathPosix.normalize path) =
      PosixPath.frame PathPosix.alphabet (PosixPath.isAbsolute PathPosix.alphabet path)
        (PosixPath.hasTrailingSlash PathPosix.alphabet path) (keptParts path) :=
  PosixPath.components_normalize path

theorem normalize_dot_iff (h : PosixPath.isAbsolute PathPosix.alphabet path = false) :
    PathPosix.normalize path = js "." ↔
      keptParts path = [] ∧ PosixPath.hasTrailingSlash PathPosix.alphabet path = false := by
  have hcomponents := pathComponents_normalize path
  have hnamed := keptParts_named path
  rw [h] at hcomponents
  constructor
  · intro heq
    have hdot : pathComponents (js ".") = [js "."] := by decide
    rw [heq, hdot] at hcomponents
    cases hkept : keptParts path with
    | nil =>
      rw [hkept] at hcomponents
      refine ⟨rfl, ?_⟩
      by_contra htrailing
      rw [Bool.not_eq_false] at htrailing
      rw [htrailing] at hcomponents
      cases hcomponents
    | cons head rest =>
      rw [hkept] at hcomponents hnamed
      have hhead : js "." = head := (List.cons.inj hcomponents).1
      exact absurd hhead.symm (hnamed head List.mem_cons_self).2.1
  · rintro ⟨hkept, htrailing⟩
    show PosixPath.render PathPosix.alphabet (PosixPath.isAbsolute PathPosix.alphabet path)
      (PosixPath.hasTrailingSlash PathPosix.alphabet path) (keptParts path) = js "."
    rw [h, hkept, htrailing]
    decide

end Kept

section Behind

variable {base : List JsString} {homeDir path rest : JsString}

theorem normalizePath_below_idempotent (rest : JsString) :
    normalizePath (normalizePath (js "~/" ++ rest)) = normalizePath (js "~/" ++ rest) := by
  rw [normalizePath_below]
  split
  · rfl
  · rename_i hdot
    rw [normalizePath_below, PathPosix.normalize_normalize, if_neg hdot]

theorem kept_homeLocation (hbase : PosixPath.Kept PathPosix.alphabet false base) :
    PosixPath.Kept PathPosix.alphabet false (homeLocation base homeDir) := by
  unfold homeLocation denotes PosixPath.resolve
  refine PosixPath.Kept.reverse (PosixPath.kept_foldl _ ?_
    (PosixPath.slash_notMem_components _))
  split
  · exact PosixPath.kept_nil false
  · exact hbase.reverse

-- A relative rest leads to the same place from anywhere, normalised or not.
theorem denotes_below_relative (h : PosixPath.isAbsolute PathPosix.alphabet rest = false) :
    denotes base homeDir (js "~/" ++ PathPosix.normalize rest) =
      denotes base homeDir (js "~/" ++ rest) := by
  have hsame := @PosixPath.resolve_normalize _ _ PathPosix.alphabet (homeLocation base homeDir) rest
  have hnormal : PosixPath.isAbsolute PathPosix.alphabet
      (PosixPath.normalize PathPosix.alphabet rest) = false :=
    (isAbsolute_normalize_iff rest).trans h
  unfold PosixPath.resolve at hsame
  rw [h, hnormal] at hsame
  rw [denotes_below, denotes_below]
  exact hsame

theorem head_up_iff (parts : List JsString) :
    parts.head? = some (js "..") ↔ (parts.takeWhile (· = js "..")).length ≠ 0 := by
  cases parts with
  | nil => simp
  | cons head rest =>
    rw [List.head?_cons, Option.some.injEq]
    by_cases heq : head = js ".."
    · simp [heq]
    · simp [heq]

-- The second slash keeps the rest below the home directory.
theorem denotes_below_absolute (hbase : PosixPath.Kept PathPosix.alphabet false base)
    (h : PosixPath.isAbsolute PathPosix.alphabet rest = true) :
    denotes base homeDir (js "~/" ++ PathPosix.normalize rest) =
        denotes base homeDir (js "~/" ++ rest) ↔
      ((PosixPath.normalizeString PathPosix.alphabet true rest).head? = some (js "..") →
        homeLocation base homeDir = []) := by
  have hup := (@kept_homeLocation base homeDir hbase).reverse.root rfl
  have hfold := @PosixPath.foldl_push_components _ _ PathPosix.alphabet rest
  have hkept : keptParts rest =
      (PosixPath.normalizeString PathPosix.alphabet true rest).dropWhile (· = js "..") := by
    have hroot := @hfold [] List.not_mem_nil
    rw [List.drop_nil, List.append_nil] at hroot
    unfold keptParts PosixPath.normalizeString
    rw [h, Bool.not_true]
    exact (congrArg List.reverse hroot).trans (List.reverse_reverse _)
  have hnames : js ".." ∉ keptParts rest := by
    rw [hkept]
    exact @PosixPath.up_notMem_dropWhile _ _ PathPosix.alphabet _ (List.pairwise_reverse.mp
      (PosixPath.kept_normalizeString true rest).ups)
  have hnormal : (pathComponents (PathPosix.normalize rest)).foldl
      (PosixPath.push PathPosix.alphabet false) (homeLocation base homeDir).reverse =
        (keptParts rest).reverse ++ (homeLocation base homeDir).reverse := by
    have hfilter : (keptParts rest).filter (· ≠ []) = keptParts rest :=
      List.filter_eq_self.mpr fun part hmem => decide_eq_true (keptParts_named rest part hmem).1
    have hdown := @PosixPath.foldl_push_down _ _ PathPosix.alphabet (keptParts rest) hnames
      (fun hmem => (keptParts_named rest _ hmem).2.1 rfl) false (homeLocation base homeDir).reverse
    rw [hfilter] at hdown
    rw [pathComponents_normalize, PosixPath.foldl_push_frame]
    exact hdown
  have hrest : (pathComponents rest).foldl (PosixPath.push PathPosix.alphabet false)
      (homeLocation base homeDir).reverse = (keptParts rest).reverse ++
        (homeLocation base homeDir).reverse.drop ((PosixPath.normalizeString PathPosix.alphabet
          true rest).takeWhile (· = js "..")).length := by
    rw [hkept]
    exact hfold hup
  rw [denotes_below, denotes_below, hnormal, hrest, List.reverse_inj, List.append_cancel_left_eq,
    head_up_iff]
  generalize ((PosixPath.normalizeString PathPosix.alphabet true rest).takeWhile
    (· = js "..")).length = count
  constructor
  · intro heq hcount
    have hlength := congrArg List.length heq
    rw [List.length_drop, List.length_reverse] at hlength
    exact List.eq_nil_of_length_eq_zero (by omega)
  · intro hroot
    by_cases hcount : count = 0
    · rw [hcount, List.drop_zero]
    · rw [hroot hcount, List.reverse_nil, List.drop_nil]

end Behind

section Plain

variable {base : List JsString} {homeDir path rest : JsString}

theorem components_injective {first second : JsString}
    (h : pathComponents first = pathComponents second) : first = second := by
  have hwhole : ∀ text : JsString, [(47 : UInt16)].intercalate (pathComponents text) = text :=
    fun _ => List.intercalate_splitOn 47
  rw [← hwhole first, h, hwhole]

variable {names : List JsString}

-- A normal form that begins with `~` names what follows, with a slash behind it or not.
theorem components_literal (hrelative : PosixPath.isAbsolute PathPosix.alphabet path = false)
    (hkept : keptParts path = js "~" :: names) :
    pathComponents (PathPosix.normalize path) = js "~" ::
      (names ++ if PosixPath.hasTrailingSlash PathPosix.alphabet path then [[]] else []) := by
  rw [pathComponents_normalize, hrelative, hkept]
  rfl

theorem components_rest (hrelative : PosixPath.isAbsolute PathPosix.alphabet path = false)
    (hkept : keptParts path = js "~" :: names)
    (hnormal : PathPosix.normalize path = js "~/" ++ rest) :
    pathComponents rest =
      names ++ if PosixPath.hasTrailingSlash PathPosix.alphabet path then [[]] else [] := by
  have hcomponents := components_literal hrelative hkept
  rw [hnormal, pathComponents_tilde] at hcomponents
  exact (List.cons.inj hcomponents).2

-- From where `~` stands for, what follows it leads down.
theorem foldl_rest (hnormal : PathPosix.normalize path = js "~/" ++ rest) (allowAboveRoot : Bool)
    (stack : List JsString) :
    (pathComponents rest).foldl (PosixPath.push PathPosix.alphabet allowAboveRoot) stack =
      ((pathComponents rest).filter (· ≠ [])).reverse ++ stack := by
  have hcomponents : pathComponents (PathPosix.normalize path) = js "~" :: pathComponents rest := by
    rw [hnormal, pathComponents_tilde]
  refine @PosixPath.foldl_push_down _ _ PathPosix.alphabet _
    (up_notMem_of_head hcomponents (by decide)) (fun hmem => ?_) allowAboveRoot stack
  have hhere := @PosixPath.head_of_here_mem _ _ PathPosix.alphabet path
  change js "." ∈ pathComponents (PathPosix.normalize path) →
    (pathComponents (PathPosix.normalize path)).head? = some (js ".") at hhere
  rw [hcomponents] at hhere
  have hhead := Option.some.inj (hhere (List.mem_cons_of_mem _ hmem))
  exact absurd hhead (by decide)

theorem filter_rest (hrelative : PosixPath.isAbsolute PathPosix.alphabet path = false)
    (hkept : keptParts path = js "~" :: names)
    (hnormal : PathPosix.normalize path = js "~/" ++ rest) :
    (pathComponents rest).filter (· ≠ []) = names := by
  have hnamed := keptParts_named path
  rw [hkept] at hnamed
  have hnames : names.filter (· ≠ []) = names :=
    List.filter_eq_self.mpr fun part hmem =>
      decide_eq_true (hnamed part (List.mem_cons_of_mem _ hmem)).1
  rw [components_rest hrelative hkept hnormal, List.filter_append, hnames]
  cases PosixPath.hasTrailingSlash PathPosix.alphabet path <;> simp

-- The rest of a normal form behind its `~/` is a normal form, unless it is empty.
theorem normalize_rest (hrelative : PosixPath.isAbsolute PathPosix.alphabet path = false)
    (hkept : keptParts path = js "~" :: names)
    (hnormal : PathPosix.normalize path = js "~/" ++ rest) (hne : rest ≠ []) :
    PathPosix.normalize rest = rest := by
  have hrest := components_rest hrelative hkept hnormal
  have hnames : names ≠ [] := by
    rintro rfl
    cases htrailing : PosixPath.hasTrailingSlash PathPosix.alphabet path with
    | false =>
      rw [htrailing] at hrest
      exact pathComponents_ne_nil rest hrest
    | true =>
      rw [htrailing] at hrest
      exact hne (components_injective hrest)
  have habsolute : PosixPath.isAbsolute PathPosix.alphabet rest = false := by
    refine not_absolute_of_normal ?_ hnormal
    exact PathPosix.normalize_normalize path
  have hparts : keptParts rest = names := by
    rw [keptParts_relative habsolute]
    unfold PosixPath.normalizeString
    have hfold := foldl_rest hnormal true []
    rw [List.append_nil, filter_rest hrelative hkept hnormal] at hfold
    exact (congrArg List.reverse hfold).trans (List.reverse_reverse names)
  have htrailing : PosixPath.hasTrailingSlash PathPosix.alphabet rest =
      PosixPath.hasTrailingSlash PathPosix.alphabet path := by
    have hwhole : PosixPath.hasTrailingSlash PathPosix.alphabet (PathPosix.normalize path) =
        PosixPath.hasTrailingSlash PathPosix.alphabet path := by
      refine PosixPath.hasTrailingSlash_render _ _ (fun component hmem => ?_) ?_
      · obtain ⟨hnonempty, -, hslash⟩ := keptParts_named path component hmem
        exact ⟨hnonempty, hslash⟩
      · show keptParts path ≠ []
        rw [hkept]
        exact List.cons_ne_nil _ _
    rw [← hwhole, hnormal]
    unfold PosixPath.hasTrailingSlash
    rw [List.getLast?_append_of_ne_nil _ hne]
  apply components_injective
  rw [pathComponents_normalize, habsolute, hparts, htrailing, hrest]
  cases names with
  | nil => exact absurd rfl hnames
  | cons head later => rfl

theorem preserves_of_not_tilde (hplain : isTildePath path = false)
    (hnormal : isTildePath (PathPosix.normalize path) = false) :
    PreservesMeaning base homeDir path := by
  have heq := normalizePath_plain hplain
  refine ⟨?_, ?_⟩
  · rw [heq, normalizePath_plain hnormal, PathPosix.normalize_normalize]
  · rw [heq, denotes_plain hnormal, denotes_plain hplain]
    exact PosixPath.resolve_normalize base path

theorem isTildePath_normalize_iff :
    isTildePath (PathPosix.normalize path) = true ↔
      PosixPath.isAbsolute PathPosix.alphabet path = false ∧
        (keptParts path).head? = some (js "~") := by
  rw [isTildePath_iff_head, pathComponents_normalize]
  generalize PosixPath.isAbsolute PathPosix.alphabet path = absolute
  generalize PosixPath.hasTrailingSlash PathPosix.alphabet path = trailing
  cases keptParts path with
  | nil => cases absolute <;> simp [PosixPath.frame, PosixPath.Alphabet.here, js, utf16,
      PathPosix.alphabet]
  | cons head rest => cases absolute <;> simp [PosixPath.frame, js, utf16]

-- The location of what `~` names literally is the one of the home directory only where
-- the two are one.
theorem denotes_literal_iff (hplain : isTildePath path = false)
    (hrelative : PosixPath.isAbsolute PathPosix.alphabet path = false)
    (htilde : isTildePath (PathPosix.normalize path) = true) :
    denotes base homeDir (PathPosix.normalize path) = denotes base homeDir path ↔
      homeLocation base homeDir = base ++ [js "~"] := by
  have hpush : PosixPath.push PathPosix.alphabet false base.reverse (js "~") =
      js "~" :: base.reverse :=
    PosixPath.push_name false base.reverse (by decide) (by decide) (by decide)
  have hplace : denotes base homeDir path =
      PosixPath.resolve PathPosix.alphabet base (PathPosix.normalize path) := by
    rw [denotes_plain hplain]
    exact (PosixPath.resolve_normalize base path).symm
  have habsolute : PosixPath.isAbsolute PathPosix.alphabet (PathPosix.normalize path) = false :=
    (isAbsolute_normalize_iff path).trans hrelative
  rw [hplace]
  unfold PosixPath.resolve
  rw [habsolute, if_neg Bool.false_ne_true]
  rcases isTildePath_iff.mp htilde with hhome | ⟨rest, hrest⟩
  · have hliteral : (PosixPath.components PathPosix.alphabet (js "~")).foldl
        (PosixPath.push PathPosix.alphabet false) base.reverse = js "~" :: base.reverse := hpush
    rw [hhome, hliteral, List.reverse_cons, List.reverse_reverse]
    by_cases hne : homeDir = []
    · subst hne
      have hroot : homeLocation base [] = [] := rfl
      have hbase : denotes base [] (js "~") = base := List.reverse_reverse base
      rw [hroot, hbase]
      simp
    · rw [denotes_home_of_ne hne]
  · have hcomponents : PosixPath.components PathPosix.alphabet (js "~/" ++ rest) =
        js "~" :: pathComponents rest := pathComponents_tilde rest
    rw [hrest, denotes_below, hcomponents, List.foldl_cons, hpush, foldl_rest hrest,
      foldl_rest hrest, List.reverse_inj, List.append_cancel_left_eq]
    refine ⟨fun heq => ?_, fun heq => ?_⟩
    · have hreverse := congrArg List.reverse heq
      rwa [List.reverse_reverse, List.reverse_cons, List.reverse_reverse] at hreverse
    · rw [heq, List.reverse_append]
      rfl

-- Only `~/` has a normal form of its own.
theorem idempotent_literal_iff (hrelative : PosixPath.isAbsolute PathPosix.alphabet path = false)
    (hhead : (keptParts path).head? = some (js "~")) :
    normalizePath (PathPosix.normalize path) = PathPosix.normalize path ↔
      ¬(keptParts path = [js "~"] ∧
        PosixPath.hasTrailingSlash PathPosix.alphabet path = true) := by
  obtain ⟨names, hkept⟩ := List.head?_eq_some_iff.mp hhead
  have hnamed := keptParts_named path
  have htilde := isTildePath_normalize_iff.mpr ⟨hrelative, hhead⟩
  rcases isTildePath_iff.mp htilde with hhome | ⟨rest, hrest⟩
  · refine iff_of_true (by rw [hhome]; rfl) ?_
    rintro ⟨hnothing, htrailing⟩
    have hcomponents := components_literal hrelative hnothing
    rw [hhome, htrailing] at hcomponents
    exact absurd hcomponents (by decide)
  · have hcomponents := components_rest hrelative hkept hrest
    by_cases hne : rest = []
    · subst hne
      have hempty : pathComponents [] = [[]] := by decide
      refine iff_of_false ?_ (not_not_intro ?_)
      · rw [hrest]
        decide
      · rw [hempty] at hcomponents
        rw [hkept]
        rw [hkept] at hnamed
        cases names with
        | nil =>
          refine ⟨rfl, ?_⟩
          by_contra htrailing
          rw [if_neg htrailing] at hcomponents
          cases hcomponents
        | cons head more =>
          have hhead : [] = head := (List.cons.inj hcomponents).1
          exact absurd hhead.symm (hnamed head (by simp)).1
    · have hnormal := normalize_rest hrelative hkept hrest hne
      refine iff_of_true ?_ ?_
      · have hdot : PathPosix.normalize rest ≠ js "." := by
          rw [hnormal]
          rintro rfl
          have hnames := filter_rest hrelative hkept hrest
          rw [hkept, ← hnames] at hnamed
          exact (hnamed (js ".") (by decide)).2.1 rfl
        rw [hrest, normalizePath_below, if_neg hdot, hnormal]
      · rintro ⟨hnothing, htrailing⟩
        have hrestComponents := components_rest hrelative hnothing hrest
        rw [htrailing] at hrestComponents
        exact hne (components_injective hrestComponents)

theorem preserves_plain_iff (hplain : isTildePath path = false) :
    PreservesMeaning base homeDir path ↔ KeepsPlain base homeDir path := by
  unfold KeepsPlain
  by_cases htilde : isTildePath (PathPosix.normalize path) = true
  · obtain ⟨hrelative, hhead⟩ := isTildePath_normalize_iff.mp htilde
    have hmeaning := @denotes_literal_iff base homeDir path hplain hrelative htilde
    have hidempotent := idempotent_literal_iff hrelative hhead
    rw [← normalizePath_plain hplain] at hmeaning hidempotent
    constructor
    · exact fun h _ _ => ⟨hmeaning.mp h.meaning, hidempotent.mp h.idempotent⟩
    · intro h
      obtain ⟨hhome, hslash⟩ := h hrelative hhead
      exact ⟨hidempotent.mpr hslash, hmeaning.mpr hhome⟩
  · refine iff_of_true (preserves_of_not_tilde hplain (Bool.eq_false_iff.mpr htilde)) ?_
    exact fun hrelative hhead => absurd (isTildePath_normalize_iff.mpr ⟨hrelative, hhead⟩) htilde

theorem preserves_below_iff (hbase : PosixPath.Kept PathPosix.alphabet false base)
    (rest : JsString) :
    PreservesMeaning base homeDir (js "~/" ++ rest) ↔ KeepsHome base homeDir rest := by
  have hmeaning : PreservesMeaning base homeDir (js "~/" ++ rest) ↔
      denotes base homeDir (normalizePath (js "~/" ++ rest)) =
        denotes base homeDir (js "~/" ++ rest) :=
    ⟨fun h => h.meaning, fun h => ⟨normalizePath_below_idempotent rest, h⟩⟩
  rw [hmeaning, normalizePath_below]
  unfold KeepsHome
  by_cases habsolute : PosixPath.isAbsolute PathPosix.alphabet rest = true
  · have hdot : PathPosix.normalize rest ≠ js "." := by
      intro heq
      have hnormal := isAbsolute_normalize_iff rest
      rw [heq, habsolute] at hnormal
      exact absurd hnormal (by decide)
    rw [if_neg hdot, if_pos habsolute]
    exact denotes_below_absolute hbase habsolute
  · have hrelative := Bool.eq_false_iff.mpr habsolute
    rw [if_neg habsolute, ← denotes_below_relative hrelative]
    by_cases hdot : PathPosix.normalize rest = js "."
    · obtain ⟨hkept, htrailing⟩ := (normalize_dot_iff hrelative).mp hdot
      have hhere : denotes base homeDir (js "~/" ++ js ".") = homeLocation base homeDir := by
        rw [denotes_below]
        exact List.reverse_reverse _
      rw [if_pos hdot, hdot, hhere, denotes_home_iff]
      exact ⟨fun h _ _ => h, fun h => h hkept htrailing⟩
    · rw [if_neg hdot]
      exact iff_of_true rfl fun hkept htrailing =>
        absurd ((normalize_dot_iff hrelative).mpr ⟨hkept, htrailing⟩) hdot

-- A path keeps its meaning, and its normal form stays as it is.
theorem preservesMeaning_iff (hbase : PosixPath.Kept PathPosix.alphabet false base)
    (homeDir path : JsString) :
    PreservesMeaning base homeDir path ↔ KeepsMeaning base homeDir path := by
  unfold KeepsMeaning
  by_cases htilde : isTildePath path = true
  · rw [if_pos htilde]
    rcases isTildePath_iff.mp htilde with rfl | ⟨rest, rfl⟩
    · exact iff_of_true ⟨rfl, rfl⟩ fun hne => absurd rfl hne
    · rw [preserves_below_iff hbase]
      have hne : js "~/" ++ rest ≠ js "~" := by simp [js, utf16]
      exact ⟨fun h _ => h, fun h => h hne⟩
  · rw [if_neg htilde]
    exact preserves_plain_iff (Bool.eq_false_iff.mpr htilde)

end Plain

section Sample

-- The names `~` and `..` inside a path leave its meaning alone.
theorem documents_preserved :
    PosixPath.Kept PathPosix.alphabet false [js "home", js "alice"] ∧
      PreservesMeaning [js "home", js "alice"] (js "/home/alice") (js "docs/./~/../../~b") := by
  have hbase : PosixPath.Kept PathPosix.alphabet false [js "home", js "alice"] :=
    ⟨by decide, by decide, by decide⟩
  exact ⟨hbase, (preservesMeaning_iff hbase (js "/home/alice") (js "docs/./~/../../~b")).mpr
    (by decide)⟩

-- The directory `~` becomes the home directory.
theorem literal_tilde_lost :
    ¬PreservesMeaning [js "home", js "alice"] (js "/home/alice") (js "./~") := by
  decide

-- With a slash behind it a second normalisation changes the path again.
example : normalizePath (js "./~/") = js "~/" ∧ normalizePath (js "~/") = js "~" := by
  decide

end Sample

end WebSsh2.Sftp

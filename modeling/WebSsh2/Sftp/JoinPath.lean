import WebSsh2.Sftp.PathMeaning

namespace WebSsh2.Sftp

open WebSsh2.Library

def PathPosix.join (parts : List JsString) : JsString :=
  let joined := [PathPosix.alphabet.slash].intercalate (parts.filter (· ≠ []))
  if joined = [] then PathPosix.alphabet.here else PathPosix.normalize joined

def joinPathSafely (basePath relativePath : JsString) : Except PathValidationError JsString :=
  let normalizedBase := normalizePath basePath
  let normalizedRelative := normalizePath relativePath
  if (js "/").isPrefixOf normalizedRelative ∨ (js "..").isPrefixOf normalizedRelative then
    .error ⟨.pathTraversal, js "Cannot use absolute or parent paths", relativePath⟩
  else
    let joined := PathPosix.join [normalizedBase, normalizedRelative]
    let normalizedJoined := normalizePath joined
    if normalizedBase ≠ js "." ∧ normalizedBase ≠ js "~" then
      if !normalizedBase.isPrefixOf normalizedJoined then
        .error ⟨.pathTraversal, js "Path escapes base directory", relativePath⟩
      else
        .ok normalizedJoined
    else
      .ok normalizedJoined

-- What a path denotes from a working directory, with `~` as a name like any other.
def plainLocation (start : List JsString) (path : JsString) : List JsString :=
  PosixPath.resolve PathPosix.alphabet start path

-- From every working directory the path leads to the base or to a place below it.
def StaysWithin (basePath path : JsString) : Prop :=
  ∀ start, PosixPath.Kept PathPosix.alphabet false start →
    Below (plainLocation start path) (plainLocation start basePath)

-- What stands behind `~/..` in the normal form of the relative path: a climb out of
-- the base, and a descent from there.
def beyondTilde (relativePath : JsString) : List JsString :=
  let parts := pathComponents (normalizePath relativePath)
  if [js "~", js ".."].isPrefixOf parts then parts.drop 2 else []

def climb (relativePath : JsString) : Nat :=
  ((beyondTilde relativePath).takeWhile (· = js "..")).length

def descent (relativePath : JsString) : List JsString :=
  ((beyondTilde relativePath).dropWhile (· = js "..")).filter (· ≠ [])

-- The climb leaves nothing of the base that the descent does not enter again.
def ReturnsTo (basePath relativePath : JsString) : Prop :=
  (PosixPath.isAbsolute PathPosix.alphabet basePath = true ∨
    climb relativePath ≤ (keptParts basePath).length) ∧
  (keptParts basePath).drop ((keptParts basePath).length - climb relativePath) <+:
    descent relativePath

instance (basePath relativePath : JsString) : Decidable (ReturnsTo basePath relativePath) :=
  inferInstanceAs (Decidable (_ ∧ _))

section Plain

variable {path rest : JsString} {start : List JsString}

theorem plainLocation_normalize (start : List JsString) (path : JsString) :
    plainLocation start (PathPosix.normalize path) = plainLocation start path :=
  PosixPath.resolve_normalize start path

theorem plainLocation_tilde (hrelative : PosixPath.isAbsolute PathPosix.alphabet rest = false) :
    plainLocation start (js "~/" ++ rest) = plainLocation (start ++ [js "~"]) rest := by
  have habsolute : PosixPath.isAbsolute PathPosix.alphabet (js "~/" ++ rest) = false := rfl
  have hpush := @PosixPath.push_name _ _ PathPosix.alphabet false start.reverse (js "~")
    (by decide) (by decide) (by decide)
  have hcomponents : PosixPath.components PathPosix.alphabet (js "~/" ++ rest) =
      js "~" :: PosixPath.components PathPosix.alphabet rest := pathComponents_tilde rest
  unfold plainLocation PosixPath.resolve
  rw [habsolute, hrelative, hcomponents, List.foldl_cons, if_neg Bool.false_ne_true,
    if_neg Bool.false_ne_true, hpush, List.reverse_append]
  rfl

-- The normal form of a path is at its place, unless the tilde hides a slash behind it.
theorem plainLocation_normalizePath (start : List JsString)
    (h : ∀ rest, path = js "~/" ++ rest →
      PosixPath.isAbsolute PathPosix.alphabet rest = false) :
    plainLocation start (normalizePath path) = plainLocation start path := by
  by_cases htilde : isTildePath path = true
  · rcases isTildePath_iff.mp htilde with rfl | ⟨rest, rfl⟩
    · rfl
    · have hrelative := h rest rfl
      have hnormal := plainLocation_normalize (start ++ [js "~"]) rest
      rw [normalizePath_below, plainLocation_tilde hrelative, ← hnormal]
      split
      · rename_i hdot
        rw [hdot]
        have hplain : ∀ base : List JsString, plainLocation base (js ".") = base := by
          intro base
          exact List.reverse_reverse base
        have hhome : plainLocation start (js "~") = start ++ [js "~"] := by
          show (js "~" :: start.reverse).reverse = start ++ [js "~"]
          rw [List.reverse_cons, List.reverse_reverse]
        rw [hplain, hhome]
      · exact plainLocation_tilde (by rw [isAbsolute_normalize_iff, hrelative])
  · rcases normalizePath_cases path with ⟨hhome, -⟩ | ⟨-, heq⟩
    · exact absurd hhome htilde
    · rw [heq, plainLocation_normalize]

end Plain

section Joined

variable {basePath relativePath joined : JsString}

theorem joinPathSafely_ok (h : joinPathSafely basePath relativePath = .ok joined) :
    (¬js "/" <+: normalizePath relativePath ∧ ¬js ".." <+: normalizePath relativePath) ∧
      joined = normalizePath (PathPosix.join [normalizePath basePath, normalizePath relativePath]) ∧
      (normalizePath basePath = js "." ∨ normalizePath basePath = js "~" ∨
        normalizePath basePath <+: joined) := by
  unfold joinPathSafely at h
  dsimp only at h
  split at h
  · cases h
  rename_i hrelative
  simp only [List.isPrefixOf_iff_prefix, not_or] at hrelative
  split at h
  · split at h
    · cases h
    · rename_i hpre
      have heq := Except.ok.inj h
      rw [heq] at hpre
      refine ⟨hrelative, heq.symm, .inr (.inr (List.isPrefixOf_iff_prefix.mp ?_))⟩
      simpa using hpre
  · rename_i hexempt
    refine ⟨hrelative, (Except.ok.inj h).symm, ?_⟩
    by_cases hdot : normalizePath basePath = js "."
    · exact .inl hdot
    · exact .inr (.inl (not_not.mp fun hne => hexempt ⟨hdot, hne⟩))

theorem join_pair (first second : JsString) (hfirst : first ≠ []) (hsecond : second ≠ []) :
    PathPosix.join [first, second] = PathPosix.normalize (first ++ 47 :: second) := by
  have hjoined : [PathPosix.alphabet.slash].intercalate ([first, second].filter (· ≠ [])) =
      first ++ 47 :: second := by
    simp [hfirst, hsecond, PathPosix.alphabet]
  unfold PathPosix.join
  dsimp only
  rw [hjoined, if_neg (by simp)]

theorem not_absolute_iff {path : JsString} :
    PosixPath.isAbsolute PathPosix.alphabet path = false ↔ ¬js "/" <+: path := by
  cases path with
  | nil => simp [PosixPath.isAbsolute, js, utf16]
  | cons head rest =>
    have hslash : js "/" = [47] := by decide
    simp [PosixPath.isAbsolute, hslash, PathPosix.alphabet, eq_comm]

-- Two slashes behind a tilde are not in what is joined.
theorem joined_not_doubled (h : joinPathSafely basePath relativePath = .ok joined) :
    ¬js "~//" <+: joined := by
  obtain ⟨-, heq, -⟩ := joinPathSafely_ok h
  rw [join_pair _ _ (normalizePath_ne_nil _) (normalizePath_ne_nil _)] at heq
  have hnormal := PathPosix.normalize_normalize
    (normalizePath basePath ++ 47 :: normalizePath relativePath)
  generalize PathPosix.normalize (normalizePath basePath ++ 47 :: normalizePath relativePath) =
    path at heq hnormal
  have hrelative : ∀ rest, path = js "~/" ++ rest → ¬js "/" <+: rest := by
    intro rest hrest
    exact not_absolute_iff.mp (not_absolute_of_normal hnormal hrest)
  have hsplit : js "~//" = js "~/" ++ js "/" := by decide
  rw [heq]
  rintro ⟨more, hmore⟩
  rw [hsplit, List.append_assoc] at hmore
  rcases normalizePath_cases path with ⟨-, hhome | ⟨rest, hrest, hbelow⟩⟩ | ⟨htilde, hplain⟩
  · rw [hhome] at hmore
    exact absurd hmore (by simp [js, utf16])
  · rw [hbelow] at hmore
    have habsolute : js "/" <+: PathPosix.normalize rest :=
      ⟨more, List.append_cancel_left hmore⟩
    have hrest := not_absolute_iff.mpr (hrelative rest hrest)
    rw [← isAbsolute_normalize_iff] at hrest
    exact not_absolute_iff.mp hrest habsolute
  · rw [hplain, hnormal] at hmore
    exact hrelative _ hmore.symm ⟨more, rfl⟩

-- The base is at the place of its normal form.
theorem plainLocation_base (h : joinPathSafely basePath relativePath = .ok joined)
    (start : List JsString) :
    plainLocation start (normalizePath basePath) = plainLocation start basePath := by
  obtain ⟨-, -, haccepted⟩ := joinPathSafely_ok h
  refine plainLocation_normalizePath start fun rest hrest => ?_
  by_contra habsolute
  rw [Bool.not_eq_false, ← isAbsolute_normalize_iff] at habsolute
  have hslash : js "/" <+: PathPosix.normalize rest := by
    by_contra hnot
    rw [not_absolute_iff.mpr hnot] at habsolute
    cases habsolute
  have hbase : normalizePath basePath = js "~/" ++ PathPosix.normalize rest := by
    have hdot : PathPosix.normalize rest ≠ js "." := by
      intro heq
      rw [heq] at hslash
      exact absurd hslash (by decide)
    rw [hrest, normalizePath_below, if_neg hdot]
  obtain ⟨more, hmore⟩ := hslash
  rw [hbase, ← hmore] at haccepted
  rcases haccepted with hdot | hhome | hpre
  · exact absurd hdot (by simp [js, utf16])
  · exact absurd hhome (by simp [js, utf16])
  · refine joined_not_doubled h (List.IsPrefix.trans ⟨more, ?_⟩ hpre)
    rw [← List.append_assoc]
    rfl

-- From the place of the base the components of the relative path lead to the result.
theorem plainLocation_joined (h : joinPathSafely basePath relativePath = .ok joined)
    (start : List JsString) :
    plainLocation start joined =
      ((pathComponents (normalizePath relativePath)).foldl
      (PosixPath.push PathPosix.alphabet false) (plainLocation start basePath).reverse).reverse := by
  obtain ⟨-, heq, -⟩ := joinPathSafely_ok h
  rw [join_pair _ _ (normalizePath_ne_nil _) (normalizePath_ne_nil _)] at heq
  have hnormal := PathPosix.normalize_normalize
    (normalizePath basePath ++ 47 :: normalizePath relativePath)
  have hsplit : PosixPath.components PathPosix.alphabet
      (normalizePath basePath ++ 47 :: normalizePath relativePath) =
        PosixPath.components PathPosix.alphabet (normalizePath basePath) ++
          pathComponents (normalizePath relativePath) := pathComponents_append _ _
  have habsolute : PosixPath.isAbsolute PathPosix.alphabet
      (normalizePath basePath ++ 47 :: normalizePath relativePath) =
        PosixPath.isAbsolute PathPosix.alphabet (normalizePath basePath) := by
    cases hbase : normalizePath basePath with
    | nil => exact absurd hbase (normalizePath_ne_nil basePath)
    | cons head rest => rfl
  rw [← plainLocation_base h start, heq, plainLocation_normalizePath start
    (fun rest hrest => not_absolute_of_normal hnormal hrest), plainLocation_normalize]
  unfold plainLocation PosixPath.resolve
  rw [hsplit, habsolute, List.foldl_append, List.reverse_reverse]

end Joined

section Climb

variable {basePath relativePath joined : JsString} {start : List JsString}

theorem up_notMem_of_not_beyond
    (hup : ¬js ".." <+: normalizePath relativePath)
    (hbeyond : ¬[js "~", js ".."] <+: pathComponents (normalizePath relativePath)) :
    js ".." ∉ pathComponents (normalizePath relativePath) := by
  have hhead : ∀ text : JsString, ¬js ".." <+: text →
      ∀ first rest, pathComponents text = first :: rest → first ≠ js ".." := by
    intro text hnot first rest hcomponents heq
    exact hnot (up_prefix_of_head (by rw [hcomponents, heq, List.head?_cons]))
  have hnormal : ∀ text first rest, pathComponents (PathPosix.normalize text) = first :: rest →
      first ≠ js ".." → js ".." ∉ first :: rest := by
    intro text first rest hcomponents hfirst hmem
    rcases List.mem_cons.mp hmem with heq | hmem
    · exact hfirst heq.symm
    · exact up_notMem_of_head hcomponents hfirst hmem
  rcases normalizePath_cases relativePath with ⟨-, heq | ⟨rest, -, heq⟩⟩ | ⟨-, heq⟩
  · rw [heq]
    decide
  · rw [heq, pathComponents_tilde] at hbeyond ⊢
    obtain ⟨first, later, hfirst⟩ :=
      List.exists_cons_of_ne_nil (pathComponents_ne_nil (PathPosix.normalize rest))
    rw [hfirst] at hbeyond ⊢
    have hne : first ≠ js ".." := by
      rintro rfl
      exact hbeyond ⟨later, rfl⟩
    intro hmem
    rcases List.mem_cons.mp hmem with htilde | hmem
    · exact absurd htilde (by decide)
    · exact hnormal rest first later hfirst hne hmem
  · obtain ⟨first, later, hfirst⟩ :=
      List.exists_cons_of_ne_nil (pathComponents_ne_nil (normalizePath relativePath))
    have hne := hhead _ hup first later hfirst
    rw [hfirst]
    rw [heq] at hfirst
    exact hnormal relativePath first later hfirst hne

-- Behind `~/..` the normal form of the rest goes on, with its `..` in front.
theorem beyond_parts {parts : List JsString}
    (h : pathComponents (normalizePath relativePath) = js "~" :: js ".." :: parts) :
    js "." ∉ parts ∧
      parts.Pairwise fun earlier later => later = js ".." → earlier = js ".." := by
  rcases normalizePath_cases relativePath with ⟨-, heq | ⟨rest, -, heq⟩⟩ | ⟨-, heq⟩
  · rw [heq] at h
    cases h
  · rw [heq, pathComponents_tilde] at h
    have hrest : pathComponents (PathPosix.normalize rest) = js ".." :: parts :=
      (List.cons.inj h).2
    have hups := @PosixPath.normalize_ups _ _ PathPosix.alphabet rest
    have hhere := @PosixPath.head_of_here_mem _ _ PathPosix.alphabet rest
    change (pathComponents (PathPosix.normalize rest)).Pairwise _ at hups
    change js "." ∈ pathComponents (PathPosix.normalize rest) →
      (pathComponents (PathPosix.normalize rest)).head? = some (js ".") at hhere
    rw [hrest] at hups hhere
    refine ⟨fun hmem => ?_, (List.pairwise_cons.mp hups).2⟩
    have hhead := Option.some.inj (hhere (List.mem_cons_of_mem _ hmem))
    exact absurd hhead (by decide)
  · rw [heq] at h
    exact absurd List.mem_cons_self (up_notMem_of_head h (by decide))

theorem foldl_relative {stack : List JsString} (hstack : js ".." ∉ stack)
    (h : [js "~", js ".."] <+: pathComponents (normalizePath relativePath)) :
    (pathComponents (normalizePath relativePath)).foldl (PosixPath.push PathPosix.alphabet false)
        stack =
      (descent relativePath).reverse ++ stack.drop (climb relativePath) := by
  obtain ⟨parts, hparts⟩ := h
  have hcomponents : pathComponents (normalizePath relativePath) = js "~" :: js ".." :: parts :=
    hparts.symm
  have hbeyond : beyondTilde relativePath = parts := by
    unfold beyondTilde
    dsimp only
    rw [hcomponents]
    rfl
  obtain ⟨hhere, hups⟩ := beyond_parts hcomponents
  have htilde : PosixPath.push PathPosix.alphabet false stack (js "~") = js "~" :: stack :=
    PosixPath.push_name false stack (by decide) (by decide) (by decide)
  have hback : PosixPath.push PathPosix.alphabet false (js "~" :: stack) (js "..") = stack :=
    @PosixPath.push_up_cons _ _ PathPosix.alphabet false (js "~") (by decide) stack
  have hclimb := @PosixPath.foldl_push_climb _ _ PathPosix.alphabet parts stack hups hhere hstack
  unfold descent climb
  rw [hcomponents, List.foldl_cons, List.foldl_cons, htilde, hback, hbeyond]
  exact hclimb

theorem below_iff (below : List JsString) (count : Nat) (base : List JsString) :
    Below ((below.reverse ++ base.reverse.drop count).reverse) base ↔
      base.drop (base.length - count) <+: below := by
  rw [List.reverse_append, List.reverse_reverse, List.drop_reverse, List.reverse_reverse, Below]
  conv_lhs => lhs; rw [← List.take_append_drop (base.length - count) base]
  exact List.prefix_append_right_inj _

end Climb

section Base

variable {basePath : JsString} {start : List JsString}

theorem kept_plainLocation (hstart : PosixPath.Kept PathPosix.alphabet false start)
    (path : JsString) : PosixPath.Kept PathPosix.alphabet false (plainLocation start path) := by
  refine PosixPath.Kept.reverse (PosixPath.kept_foldl _ ?_
    (PosixPath.slash_notMem_components path))
  split
  · exact PosixPath.kept_nil false
  · exact hstart.reverse

theorem plainLocation_absolute (h : PosixPath.isAbsolute PathPosix.alphabet basePath = true) :
    plainLocation start basePath = keptParts basePath := by
  unfold plainLocation keptParts PosixPath.resolve PosixPath.normalizeString
  rw [h, if_pos rfl, Bool.not_true]

-- A relative base leads up from the working directory, and down again by its names.
theorem plainLocation_relative
    (h : PosixPath.isAbsolute PathPosix.alphabet basePath = false) :
    ∃ ups names, keptParts basePath = List.replicate ups (js "..") ++ names ∧
      ∀ start, PosixPath.Kept PathPosix.alphabet false start →
        plainLocation start basePath = start.take (start.length - ups) ++ names := by
  have hups : (keptParts basePath).takeWhile (· = js "..") =
      List.replicate ((keptParts basePath).takeWhile (· = js "..")).length (js "..") :=
    @PosixPath.takeWhile_up _ _ PathPosix.alphabet (keptParts basePath)
  refine ⟨((keptParts basePath).takeWhile (· = js "..")).length,
    (keptParts basePath).dropWhile (· = js ".."), ?_, fun start hstart => ?_⟩
  · rw [← hups, List.takeWhile_append_dropWhile]
  · have hfold : (PosixPath.components PathPosix.alphabet basePath).foldl
        (PosixPath.push PathPosix.alphabet false) start.reverse =
      ((keptParts basePath).dropWhile (· = js "..")).reverse ++
        start.reverse.drop ((keptParts basePath).takeWhile (· = js "..")).length := by
      rw [keptParts_relative h]
      exact PosixPath.foldl_push_components basePath (hstart.reverse.root rfl)
    unfold plainLocation PosixPath.resolve
    rw [h, if_neg Bool.false_ne_true, hfold, List.reverse_append, List.reverse_reverse,
      List.drop_reverse, List.reverse_reverse]

theorem drop_last_of_le {α : Type} (front : List α) {names : List α} {count : Nat}
    (h : count ≤ names.length) :
    (front ++ names).drop ((front ++ names).length - count) =
      names.drop (names.length - count) := by
  have hlength : (front ++ names).length - count = front.length + (names.length - count) := by
    rw [List.length_append]
    omega
  rw [hlength, List.drop_length_add_append]

theorem mem_drop_last_of_lt {α : Type} {front names : List α} {count : Nat} {item : α}
    (hfront : ∀ other ∈ front, other = item) (h : names.length < count)
    (hle : count ≤ front.length + names.length) :
    item ∈ (front ++ names).drop ((front ++ names).length - count) := by
  have hlt : (front ++ names).length - count < front.length := by
    rw [List.length_append]
    omega
  rw [List.drop_append_of_le_length (Nat.le_of_lt hlt), List.drop_eq_getElem_cons hlt]
  refine List.mem_append_left _ ?_
  rw [hfront _ (List.getElem_mem hlt)]
  exact List.mem_cons_self

-- A name that is longer than all of these.
theorem exists_fresh (names : List JsString) : ∃ fresh, fresh ∉ names ∧
    ∀ count, PosixPath.Kept PathPosix.alphabet false (List.replicate count fresh) := by
  refine ⟨List.replicate (names.flatten.length + 1) 120, fun hmem => ?_, fun count => ?_⟩
  · have hlength := (List.sublist_flatten_of_mem hmem).length_le
    rw [List.length_replicate] at hlength
    omega
  · have hup : List.replicate (names.flatten.length + 1) (120 : UInt16) ≠ js ".." := by
      rw [List.replicate_succ]
      exact fun heq => absurd (List.cons.inj heq).1 (by decide)
    refine ⟨fun component hmem => ?_, ?_, fun _ hmem => hup (List.eq_of_mem_replicate hmem).symm⟩
    · rw [List.eq_of_mem_replicate hmem]
      refine ⟨by simp, ?_, ?_⟩
      · rw [List.replicate_succ]
        exact fun heq => absurd (List.cons.inj heq).1 (by decide)
      · exact fun hslash => absurd (List.eq_of_mem_replicate hslash) (by decide)
    · refine List.pairwise_of_forall_mem_list fun later hlater earlier _ heq => ?_
      exact absurd (heq ▸ List.eq_of_mem_replicate hlater).symm hup

end Base

section Within

variable {basePath relativePath joined : JsString}

theorem up_notMem_descent (relativePath : JsString)
    (h : (beyondTilde relativePath).Pairwise fun earlier later =>
      later = js ".." → earlier = js "..") : js ".." ∉ descent relativePath :=
  fun hmem => @PosixPath.up_notMem_dropWhile _ _ PathPosix.alphabet _ h
    (List.mem_of_mem_filter hmem)

-- What a climb of `count` leaves of every place of a relative base is entered again,
-- exactly when it is names of the base alone.
theorem climbs_back_iff {ups count : Nat} {names below : List JsString}
    (hbelow : js ".." ∉ below) :
    (∀ start, PosixPath.Kept PathPosix.alphabet false start →
      (start.take (start.length - ups) ++ names).drop
        ((start.take (start.length - ups) ++ names).length - count) <+: below) ↔
      count ≤ ups + names.length ∧
        (List.replicate ups (js "..") ++ names).drop (ups + names.length - count) <+: below := by
  have hlength : ups + names.length = (List.replicate ups (js "..") ++ names).length := by
    rw [List.length_append, List.length_replicate]
  by_cases hnames : count ≤ names.length
  · rw [hlength, drop_last_of_le _ hnames]
    simp only [drop_last_of_le _ hnames]
    refine ⟨fun h => ⟨by rw [← hlength]; omega, h [] (PosixPath.kept_nil false)⟩, ?_⟩
    exact fun h start _ => h.2
  · refine ⟨fun h => ?_, fun ⟨hle, hpre⟩ => ?_⟩
    · obtain ⟨fresh, hfresh, hkept⟩ := exists_fresh below
      have hstart := h _ (hkept (ups + count))
      rw [List.take_replicate, List.length_replicate, Nat.add_sub_cancel_left,
        Nat.min_eq_left (Nat.le_add_left _ _)] at hstart
      have hmem := @mem_drop_last_of_lt _ (List.replicate count fresh) names count fresh
        (fun other => List.eq_of_mem_replicate) (Nat.lt_of_not_le hnames)
        (by rw [List.length_replicate]; omega)
      exact absurd (hstart.subset hmem) hfresh
    · rw [hlength] at hpre
      have hmem := @mem_drop_last_of_lt _ (List.replicate ups (js "..")) names count (js "..")
        (fun other => List.eq_of_mem_replicate) (Nat.lt_of_not_le hnames)
        (by rw [List.length_replicate]; exact hle)
      exact absurd (hpre.subset hmem) hbelow

theorem within_of_not_beyond (h : joinPathSafely basePath relativePath = .ok joined)
    (hbeyond : ¬[js "~", js ".."] <+: pathComponents (normalizePath relativePath)) :
    StaysWithin basePath joined := by
  obtain ⟨⟨-, hup⟩, -⟩ := joinPathSafely_ok h
  have hnotMem := up_notMem_of_not_beyond hup hbeyond
  intro start hstart
  rw [plainLocation_joined h]
  have hsuffix := @PosixPath.foldl_push_suffix _ _ PathPosix.alphabet _ hnotMem false
    (plainLocation start basePath).reverse
  have hpre := List.reverse_prefix.mpr hsuffix
  rwa [List.reverse_reverse] at hpre

-- The base that `~/..` and a climb behind it leave is exactly the base that the descent
-- has to enter again.
theorem joinPathSafely_within_iff (h : joinPathSafely basePath relativePath = .ok joined) :
    StaysWithin basePath joined ↔ ReturnsTo basePath relativePath := by
  by_cases hbeyond : [js "~", js ".."] <+: pathComponents (normalizePath relativePath)
  · have hwithin : StaysWithin basePath joined ↔
        ∀ start, PosixPath.Kept PathPosix.alphabet false start →
          (plainLocation start basePath).drop
            ((plainLocation start basePath).length - climb relativePath) <+:
              descent relativePath := by
      refine forall_congr' fun start => forall_congr' fun hstart => ?_
      rw [plainLocation_joined h, foldl_relative
        ((kept_plainLocation hstart basePath).reverse.root rfl) hbeyond, below_iff]
    obtain ⟨parts, hparts⟩ := hbeyond
    have hdescent : js ".." ∉ descent relativePath := by
      obtain ⟨-, hups⟩ := @beyond_parts relativePath parts hparts.symm
      refine up_notMem_descent relativePath ?_
      have hbeyond : beyondTilde relativePath = parts := by
        unfold beyondTilde
        dsimp only
        rw [← hparts]
        rfl
      rw [hbeyond]
      exact hups
    rw [hwithin]
    unfold ReturnsTo
    cases habsolute : PosixPath.isAbsolute PathPosix.alphabet basePath with
    | true =>
      simp only [plainLocation_absolute habsolute, true_or, true_and]
      exact ⟨fun hall => hall [] (PosixPath.kept_nil false), fun hback start _ => hback⟩
    | false =>
      obtain ⟨ups, names, hbase, hlocation⟩ := plainLocation_relative habsolute
      have hback := @climbs_back_iff ups (climb relativePath) names _ hdescent
      have hplaces : (∀ start, PosixPath.Kept PathPosix.alphabet false start →
          (plainLocation start basePath).drop
            ((plainLocation start basePath).length - climb relativePath) <+:
              descent relativePath) ↔ _ :=
        forall_congr' fun start => forall_congr' fun hstart => by rw [hlocation start hstart]
      rw [hplaces, hback, hbase, List.length_append, List.length_replicate]
      simp only [Bool.false_eq_true, false_or]
  · refine iff_of_true (within_of_not_beyond h hbeyond) ?_
    have hnone : beyondTilde relativePath = [] := by
      unfold beyondTilde
      dsimp only
      rw [if_neg fun hpre => hbeyond (List.isPrefixOf_iff_prefix.mp hpre)]
    have hclimb : climb relativePath = 0 := by
      rw [climb, hnone]
      rfl
    unfold ReturnsTo
    rw [hclimb, Nat.sub_zero, List.drop_length]
    exact ⟨.inr (Nat.zero_le _), List.nil_prefix⟩

end Within

section Sample

-- The way leads through a directory of the name of the home directory, out of the base
-- and back into it.
theorem returns_within :
    joinPathSafely (js "/srv/app") (js "~/../../app/docs") = .ok (js "/srv/app/docs") ∧
      StaysWithin (js "/srv/app") (js "/srv/app/docs") :=
  ⟨by decide, (@joinPathSafely_within_iff (js "/srv/app") (js "~/../../app/docs")
    (js "/srv/app/docs") (by decide)).mpr (by decide)⟩

-- A sibling that begins with the text of the base is taken for a part of it.
theorem sibling_escapes :
    joinPathSafely (js "/srv/app") (js "~/../../app2") = .ok (js "/srv/app2") ∧
      ¬StaysWithin (js "/srv/app") (js "/srv/app2") := by
  refine ⟨by decide, fun hwithin => ?_⟩
  have hroot := hwithin [] (PosixPath.kept_nil false)
  exact absurd hroot (by decide)

end Sample

end WebSsh2.Sftp

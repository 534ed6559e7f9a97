import WebSsh2.Sftp.HomePath

namespace WebSsh2.Sftp

open WebSsh2.Library

-- The path is written, component by component, below the entry.
def WrittenBelow (path entry : JsString) : Prop :=
  pathComponents (normalizePath entry) <+: pathComponents (normalizePath path)

-- An entry that lets every path starting in the home directory through.
def OpensHome (entry : JsString) : Prop :=
  isTildePath entry = true ∨ normalizePath entry = js "~"

instance (path entry : JsString) : Decidable (WrittenBelow path entry) :=
  inferInstanceAs (Decidable (_ <+: _))

instance (entry : JsString) : Decidable (OpensHome entry) :=
  inferInstanceAs (Decidable (_ ∨ _))

theorem isWithin_iff {path entry : JsString} :
    isWithin (normalizePath path) entry = true ↔ WrittenBelow path entry := by
  simp only [isWithin, WrittenBelow, Bool.or_eq_true, decide_eq_true_eq,
    List.isPrefixOf_iff_prefix, pathComponents_prefix_iff]
  exact or_congr eq_comm Iff.rfl

variable {path : JsString}

theorem isTildePath_normalizePath_of_tilde (h : isTildePath path = true) :
    isTildePath (normalizePath path) = true := by
  rcases normalizePath_cases path with ⟨_, heq | ⟨rest, _, heq⟩⟩ | ⟨hnot, _⟩
  · rw [heq]
    decide
  · rw [heq]
    exact isTildePath_iff.mpr (.inr ⟨_, rfl⟩)
  · rw [h] at hnot
    cases hnot

theorem up_prefix_of_head (h : (pathComponents path).head? = some (js "..")) :
    js ".." <+: path := by
  have hup : pathComponents (js "..") = [js ".."] := by decide
  have hpre : pathComponents (js "..") <+: pathComponents path := by
    rw [hup]
    cases hpath : pathComponents path with
    | nil => simp [hpath] at h
    | cons head rest =>
      rw [hpath, List.head?_cons, Option.some.injEq] at h
      rw [h]
      exact List.prefix_append [js ".."] rest
  rcases pathComponents_prefix_iff.mp hpre with heq | hslash
  · exact heq ▸ List.prefix_refl _
  · exact (List.prefix_append _ _).trans hslash

theorem up_notMem_of_head {path : JsString} {first : JsString} {rest : List JsString}
    (h : pathComponents (PathPosix.normalize path) = first :: rest) (hfirst : first ≠ js "..") :
    js ".." ∉ rest :=
  PosixPath.up_notMem_tail h hfirst

variable (base : List JsString)

-- Outside the home directory a written component stays a step down.
theorem below_of_written_plain (homeDir : JsString) {path entry : JsString}
    (hplain : isTildePath (normalizePath path) = false) (hup : ¬ js ".." <+: normalizePath path)
    (hwritten : WrittenBelow path entry) :
    Below (location base homeDir path) (location base homeDir entry) := by
  obtain ⟨rest, hrest⟩ := hwritten
  obtain ⟨first, tail, hfirst⟩ :=
    List.exists_cons_of_ne_nil (pathComponents_ne_nil (normalizePath entry))
  have hcomponents : pathComponents (normalizePath path) = first :: (tail ++ rest) := by
    rw [← hrest, hfirst, List.cons_append]
  have hentry : isTildePath (normalizePath entry) = false := by
    rw [Bool.eq_false_iff] at hplain ⊢
    rw [Ne, isTildePath_iff_head] at hplain ⊢
    simpa [hfirst, hcomponents] using hplain
  have hnormal : normalizePath path = PathPosix.normalize path := by
    rcases normalizePath_cases path with ⟨htilde, _⟩ | ⟨_, heq⟩
    · rw [isTildePath_normalizePath_of_tilde htilde] at hplain
      cases hplain
    · exact heq
  have hfirstUp : first ≠ js ".." := by
    intro heq
    exact hup (up_prefix_of_head (by rw [hcomponents, heq, List.head?_cons]))
  have hnotMem : js ".." ∉ tail ++ rest := up_notMem_of_head (hnormal ▸ hcomponents) hfirstUp
  rw [Below, location, location, expandHome_of_not_tilde hplain, expandHome_of_not_tilde hentry]
  refine PosixPath.resolve_prefix base (normalizePath_ne_nil entry) hrest.symm ?_
  exact fun hmem => hnotMem (List.mem_append_right _ hmem)

-- Below `~` the entry must name a component of its own, so that the path
-- cannot step out behind the tilde.
theorem below_of_written_home (homeDir : JsString) {path entry : JsString}
    (hhome : isTildePath (normalizePath path) = true) (hopens : ¬ OpensHome entry)
    (hwritten : WrittenBelow path entry) :
    Below (location base homeDir path) (location base homeDir entry) := by
  have hsplit : ∀ text, pathComponents (js "~/" ++ text) = js "~" :: pathComponents text :=
    fun text => pathComponents_append (js "~") text
  simp only [OpensHome, not_or, Bool.not_eq_true] at hopens
  obtain ⟨hraw, hnot⟩ := hopens
  have hnormalEntry : normalizePath entry = PathPosix.normalize entry := by
    rcases normalizePath_cases entry with ⟨htilde, _⟩ | ⟨_, heq⟩
    · rw [htilde] at hraw
      cases hraw
    · exact heq
  obtain ⟨rest, hrest⟩ := hwritten
  have hentry : isTildePath (normalizePath entry) = true := by
    rw [isTildePath_iff_head] at hhome ⊢
    obtain ⟨first, tail, hfirst⟩ :=
      List.exists_cons_of_ne_nil (pathComponents_ne_nil (normalizePath entry))
    rw [← hrest, hfirst] at hhome
    rw [hfirst]
    exact hhome
  obtain ⟨below, hbelow⟩ := (isTildePath_iff.mp hentry).resolve_left hnot
  obtain ⟨first, tail, hfirst⟩ := List.exists_cons_of_ne_nil (pathComponents_ne_nil below)
  have hcomponents : pathComponents (normalizePath path) = js "~" :: first :: (tail ++ rest) := by
    rw [← hrest, hbelow, hsplit, hfirst, List.cons_append, List.cons_append]
  have hpath : ∃ inner, normalizePath path = js "~/" ++ inner := by
    refine (isTildePath_iff.mp hhome).resolve_left fun heq => ?_
    have : pathComponents (js "~") = [js "~"] := by decide
    rw [heq, this] at hcomponents
    simp at hcomponents
  obtain ⟨inner, hinner⟩ := hpath
  have hinnerComponents : pathComponents inner = first :: (tail ++ rest) := by
    rw [hinner, hsplit] at hcomponents
    exact (List.cons.inj hcomponents).2
  -- `first` belongs to a normal form that starts with `~`, so it is not `..`.
  have hfirstUp : first ≠ js ".." := by
    have hnotMem : js ".." ∉ pathComponents below := by
      refine @up_notMem_of_head entry (js "~") _ ?_ (by decide)
      rw [← hnormalEntry, hbelow, hsplit]
    rw [hfirst] at hnotMem
    exact fun heq => hnotMem (heq ▸ List.mem_cons_self)
  have hnotMem : js ".." ∉ tail ++ rest := by
    rcases normalizePath_cases path with ⟨_, heq | ⟨raw, _, heq⟩⟩ | ⟨_, heq⟩
    · rw [heq] at hinner
      exact absurd hinner (by simp [js, utf16])
    · rw [heq] at hinner
      rw [← List.append_cancel_left hinner] at hinnerComponents
      exact up_notMem_of_head hinnerComponents hfirstUp
    · have := up_notMem_of_head (heq ▸ hcomponents) (by decide)
      exact fun hmem => this (List.mem_cons_of_mem _ hmem)
  obtain ⟨stem, hstem⟩ := expandHome_below homeDir
  rw [Below, location, location, hinner, hbelow, hstem, hstem]
  refine PosixPath.resolve_prefix base (by simp) ?_
    (fun hmem => hnotMem (List.mem_append_right tail hmem))
  show pathComponents _ = pathComponents _ ++ rest
  rw [pathComponents_append, pathComponents_append, hinnerComponents, hfirst,
    List.append_assoc, List.cons_append]

-- What the checks overlook: they let the whole of `~/…` through once an entry
-- opens the home directory, and otherwise read how a path is written, not
-- where it leads.
def SeenByChecks (homeDir : JsString) (allowedPaths : List JsString) (path : JsString) : Prop :=
  if isTildePath (normalizePath path) = true ∧ ∃ entry ∈ allowedPaths, OpensHome entry then
    Confined base homeDir allowedPaths path
  else
    Confined base homeDir allowedPaths path →
      ¬ js ".." <+: normalizePath path ∧ ∃ entry ∈ allowedPaths, WrittenBelow path entry

instance (base : List JsString) (homeDir : JsString) (allowedPaths : List JsString)
    (path : JsString) : Decidable (SeenByChecks base homeDir allowedPaths path) :=
  inferInstanceAs (Decidable (ite _ _ _))

theorem not_up_of_tilde (h : isTildePath path = true) : ¬ js ".." <+: path := by
  rintro ⟨rest, rfl⟩
  rcases isTildePath_iff.mp h with heq | ⟨other, heq⟩ <;> simp [js, utf16] at heq

theorem accepts_of_opensHome (toLowerCase : JsString → JsString) {options : PathValidationOptions}
    {allowedPaths : List JsString} (hnul : 0 ∉ path) (hlength : path.length ≤ maxPathLength)
    (hallowed : options.allowedPaths = some allowedPaths) (hne : allowedPaths ≠ [])
    (hextension : options.checkExtension ≠ some true)
    (hhome : isTildePath (normalizePath path) = true)
    (hopens : ∃ entry ∈ allowedPaths, OpensHome entry) :
    accepts toLowerCase path options = true := by
  rw [accepts_iff toLowerCase hnul hlength hallowed hne hextension]
  refine ⟨not_up_of_tilde hhome, ?_⟩
  obtain ⟨entry, hmem, hraw | hnormal⟩ := hopens
  · exact .inl ⟨hhome, List.any_eq_true.mpr ⟨entry, hmem, hraw⟩⟩
  · refine .inr ⟨entry, hmem, ?_⟩
    rw [isWithin_iff, WrittenBelow, hnormal]
    have htilde : pathComponents (js "~") = [js "~"] := by decide
    rw [htilde]
    rw [isTildePath_iff_head] at hhome
    cases hcomponents : pathComponents (normalizePath path) with
    | nil => simp [hcomponents] at hhome
    | cons head rest =>
      rw [hcomponents, List.head?_cons, Option.some.injEq] at hhome
      rw [hhome]
      exact List.prefix_append [js "~"] rest

theorem validatePath_confines_iff (toLowerCase : JsString → JsString) (base : List JsString)
    (homeDir path : JsString) (options : PathValidationOptions) (allowedPaths : List JsString)
    (hnul : 0 ∉ path) (hlength : path.length ≤ maxPathLength)
    (hallowed : options.allowedPaths = some allowedPaths) (hne : allowedPaths ≠ [])
    (hextension : options.checkExtension ≠ some true) :
    (accepts toLowerCase path options = true ↔ Confined base homeDir allowedPaths path) ↔
      SeenByChecks base homeDir allowedPaths path := by
  unfold SeenByChecks
  split
  · rename_i hopen
    have haccepts := accepts_of_opensHome toLowerCase hnul hlength hallowed hne hextension
      hopen.1 hopen.2
    simp [haccepts]
  · rename_i hclosed
    rw [accepts_iff toLowerCase hnul hlength hallowed hne hextension]
    have hwritten : (isTildePath (normalizePath path) = true ∧
          allowedPaths.any isTildePath = true ∨
          ∃ entry ∈ allowedPaths, isWithin (normalizePath path) entry = true) ↔
        ∃ entry ∈ allowedPaths, WrittenBelow path entry := by
      simp only [isWithin_iff]
      refine or_iff_right fun ⟨hhome, hany⟩ => ?_
      obtain ⟨entry, hmem, hraw⟩ := List.any_eq_true.mp hany
      exact hclosed ⟨hhome, entry, hmem, .inl hraw⟩
    rw [hwritten]
    refine ⟨fun h => h.mpr, fun h => ⟨fun ⟨hup, entry, hmem, hbelow⟩ => ⟨entry, hmem, ?_⟩, h⟩⟩
    by_cases hhome : isTildePath (normalizePath path) = true
    · have hopens : ¬ OpensHome entry := fun hopens => hclosed ⟨hhome, entry, hmem, hopens⟩
      exact below_of_written_home base homeDir hhome hopens hbelow
    · rw [Bool.not_eq_true] at hhome
      exact below_of_written_plain base homeDir hhome hup hbelow

def allowing (allowedPaths : List JsString) : PathValidationOptions where
  allowedPaths := some allowedPaths
  blockedExtensions := []
  checkExtension := none

-- `~` is allowed, and the request climbs out behind it.
theorem tilde_escapes :
    ¬ (accepts id (js "~/../etc/passwd") (allowing [js "~"]) = true ↔
      Confined [js "home", js "alice"] (js "/home/alice") [js "~"] (js "~/../etc/passwd")) := by
  decide

theorem plain_entry_confines :
    accepts id (js "/data/reports/../q1.csv") (allowing [js "/data"]) = true ↔
      Confined [js "home", js "alice"] (js "/home/alice") [js "/data"]
        (js "/data/reports/../q1.csv") :=
  (validatePath_confines_iff id [js "home", js "alice"] (js "/home/alice")
    (js "/data/reports/../q1.csv") (allowing [js "/data"]) [js "/data"] (by decide) (by decide) rfl
    (by decide) (by decide)).mpr (by decide)

-- An entry with a trailing slash refuses what lies inside it.
example : accepts id (js "/data/q1.csv") (allowing [js "/data/"]) = false ∧
    Confined [] (js "/home/alice") [js "/data/"] (js "/data/q1.csv") := by
  decide

end WebSsh2.Sftp

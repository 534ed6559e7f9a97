import WebSsh2.Sftp.PathValidator

namespace WebSsh2.Sftp

open WebSsh2.Library

-- `expandTildePath`, once the SFTP server has named the home directory.
def expandHome (homeDir path : JsString) : JsString :=
  if path = js "~" then
    homeDir
  else if (js "~/").isPrefixOf path then
    (if homeDir.getLast? = some 47 then homeDir else homeDir ++ js "/") ++ path.drop 2
  else
    path

-- `resolveTildePath` of the shell backend, with the home directory it cached.
def expandShellHome (homeDir path : JsString) : JsString :=
  if path = js "~" then
    homeDir
  else if (js "~/").isPrefixOf path then
    homeDir ++ js "/" ++ path.drop 2
  else
    path

-- The directory or file a path of a request or of the configuration denotes,
-- for a session whose home is `homeDir` and whose working directory is `base`.
def location (base : List JsString) (homeDir path : JsString) : List JsString :=
  PosixPath.resolve PathPosix.alphabet base (expandHome homeDir (normalizePath path))

def Below (inner outer : List JsString) : Prop :=
  outer <+: inner

instance (inner outer : List JsString) : Decidable (Below inner outer) :=
  inferInstanceAs (Decidable (outer <+: inner))

def Confined (base : List JsString) (homeDir : JsString) (allowedPaths : List JsString)
    (path : JsString) : Prop :=
  ∃ entry ∈ allowedPaths, Below (location base homeDir path) (location base homeDir entry)

instance (base : List JsString) (homeDir : JsString) (allowedPaths : List JsString)
    (path : JsString) : Decidable (Confined base homeDir allowedPaths path) :=
  inferInstanceAs (Decidable (∃ entry ∈ allowedPaths, _))

def pathComponents (path : JsString) : List JsString :=
  PosixPath.components PathPosix.alphabet path

theorem pathComponents_append (first rest : JsString) :
    pathComponents (first ++ 47 :: rest) = pathComponents first ++ pathComponents rest :=
  List.splitOn_append_cons_self _ _

theorem pathComponents_ne_nil (path : JsString) : pathComponents path ≠ [] :=
  List.splitOn_ne_nil _ _

theorem pathComponents_prefix_iff {first second : JsString} :
    pathComponents first <+: pathComponents second ↔
      first = second ∨ first ++ js "/" <+: second :=
  Text.splitOn_prefix_iff 47 first second

theorem isTildePath_iff_head {path : JsString} :
    isTildePath path = true ↔ (pathComponents path).head? = some (js "~") := by
  have htilde : pathComponents (js "~") = [js "~"] := by decide
  have hslash : js "~" ++ js "/" = js "~/" := by decide
  have hpre := @pathComponents_prefix_iff (js "~") path
  rw [htilde, hslash] at hpre
  simp only [isTildePath, Bool.or_eq_true, decide_eq_true_eq, List.isPrefixOf_iff_prefix]
  rw [eq_comm, ← hpre]
  cases pathComponents path with
  | nil => simp
  | cons head rest => simp [eq_comm]

theorem expandHome_of_not_tilde {homeDir path : JsString} (h : isTildePath path = false) :
    expandHome homeDir path = path := by
  simp only [isTildePath, Bool.or_eq_false_iff, decide_eq_false_iff_not] at h
  simp [expandHome, h.1, h.2]

-- The text in front of what follows `~/` depends on the home directory only.
theorem expandHome_below (homeDir : JsString) :
    ∃ stem, ∀ rest, expandHome homeDir (js "~/" ++ rest) = stem ++ 47 :: rest := by
  have hexpand : ∀ rest, expandHome homeDir (js "~/" ++ rest) =
      (if homeDir.getLast? = some 47 then homeDir else homeDir ++ js "/") ++ rest := by
    intro rest
    have hne : js "~/" ++ rest ≠ js "~" := by simp [js, utf16]
    have hpre : (js "~/").isPrefixOf (js "~/" ++ rest) = true :=
      List.isPrefixOf_iff_prefix.mpr (List.prefix_append _ _)
    have hdrop : (js "~/" ++ rest).drop 2 = rest := rfl
    simp only [expandHome, if_neg hne, if_pos hpre, hdrop]
  by_cases hlast : homeDir.getLast? = some 47
  · obtain ⟨stem, hstem⟩ := List.getLast?_eq_some_iff.mp hlast
    refine ⟨stem, fun rest => ?_⟩
    rw [hexpand, if_pos hlast, hstem, List.append_assoc]
    rfl
  · refine ⟨homeDir, fun rest => ?_⟩
    rw [hexpand, if_neg hlast, List.append_assoc]
    rfl

end WebSsh2.Sftp

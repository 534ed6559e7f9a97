import WebSsh2.Config.EnvMapper
import WebSsh2.Config.InMemory

namespace WebSsh2.Config

open WebSsh2.Library WebSsh2.HostKey

section Paths

def presetPath : String := "ssh.algorithms"

def bespokePaths : List String :=
  ["options.theming.themes", "options.theming.defaultTheme", "options.theming.headerBackground",
    "options.theming.additionalThemes", "options.transport"]

def allPaths : List String := envVarMapping.map EnvVarMap.path ++ bespokePaths

def presetIndex : Nat := 26

-- Which paths lead through which: each through itself, the two of the port through each
-- other, and the five of the algorithms through that of the preset.
def allowed (i j : Nat) : Bool :=
  i == j || (i == 0 && j == 2) || (i == 2 && j == 0) || (i == presetIndex && 21 ≤ j && j ≤ 25)

def textCode (text : JsString) : Nat :=
  text.foldl (fun code unit => 65536 * code + unit.toNat) 0

def pathCodes (units : List Char) : List Nat :=
  ((units.flatMap utf16).splitOn 46).map textCode

def separate (paths : List (List Char)) : Bool :=
  let codes := (paths.map pathCodes).zipIdx
  codes.all fun first => codes.all fun second =>
    !first.1.isPrefixOf second.1 || allowed first.2 second.2

-- The characters of literals, which are not computed from their encoding.
def Spelled (texts : List String) (units : List (List Char)) : Prop :=
  texts.map String.toList = units

theorem spelled_nil : Spelled [] [] := rfl

theorem spelled_cons {texts : List String} {units : List (List Char)} (first : List Char)
    (h : Spelled texts units) : Spelled (String.ofList first :: texts) (first :: units) := by
  rw [Spelled, List.map_cons, String.toList_ofList, show texts.map String.toList = units from h]

theorem allPaths_separate : ∃ units, Spelled allPaths units ∧ separate units = true := by
  apply Exists.intro
  apply And.intro
  · simp only [allPaths, envVarMapping, bespokePaths, List.map_cons, List.map_nil,
      List.cons_append, List.nil_append]
    repeat' first
      | exact spelled_nil
      | apply spelled_cons
  · decide +kernel

theorem allowed_of_leads {i j : Nat} {first second : String} (hfirst : allPaths[i]? = some first)
    (hsecond : allPaths[j]? = some second)
    (h : safePathToKeys first <+: safePathToKeys second) : allowed i j = true := by
  obtain ⟨units, hspelled, hseparate⟩ := allPaths_separate
  have hmem : ∀ {k : Nat} {path : String}, allPaths[k]? = some path →
      (pathCodes path.toList, k) ∈ (units.map pathCodes).zipIdx := by
    intro k path hpath
    rw [List.mk_mem_zipIdx_iff_getElem?, ← show allPaths.map String.toList = units from hspelled,
      List.getElem?_map, List.getElem?_map, hpath]
    rfl
  have hall := List.all_eq_true.mp hseparate _ (hmem hfirst)
  have hcheck := List.all_eq_true.mp hall _ (hmem hsecond)
  have hleads : (pathCodes first.toList).isPrefixOf (pathCodes second.toList) = true :=
    List.isPrefixOf_iff_prefix.mpr (h.map textCode)
  rw [hleads] at hcheck
  simpa using hcheck

-- The path of a variable that is written as it is parsed.
def Ordinary (path : String) : Prop :=
  ∃ i, i ≠ presetIndex ∧ allPaths[i]? = some path

theorem eq_of_leads {first second : String} (hfirst : Ordinary first) (hsecond : Ordinary second)
    (h : safePathToKeys first <+: safePathToKeys second) : first = second := by
  obtain ⟨i, hi, hfirst⟩ := hfirst
  obtain ⟨j, hj, hsecond⟩ := hsecond
  have hallowed := allowed_of_leads hfirst hsecond h
  simp only [allowed, Bool.or_eq_true, Bool.and_eq_true, beq_iff_eq] at hallowed
  have hport : allPaths[0]? = allPaths[2]? := rfl
  rcases hallowed with ((rfl | ⟨rfl, rfl⟩) | ⟨rfl, rfl⟩) | ⟨⟨hpreset, -⟩, -⟩
  · exact Option.some.inj (hfirst.symm.trans hsecond)
  · exact Option.some.inj (hfirst.symm.trans (hport.trans hsecond))
  · exact Option.some.inj (hfirst.symm.trans (hport.symm.trans hsecond))
  · exact absurd hpreset hi

variable {path : String}

-- Only the port has two variables.
theorem index_cases {i j : Nat} (hi : allPaths[i]? = some path) (hj : allPaths[j]? = some path) :
    i = j ∨ (i = 0 ∧ j = 2) ∨ i = 2 ∧ j = 0 := by
  have hforth := allowed_of_leads hi hj List.prefix_rfl
  have hback := allowed_of_leads hj hi List.prefix_rfl
  simp only [allowed, presetIndex, Bool.or_eq_true, Bool.and_eq_true, beq_iff_eq,
    decide_eq_true_eq] at hforth hback
  omega

theorem allPaths_preset : allPaths[presetIndex]? = some presetPath := rfl

theorem not_prefix_preset (hpath : Ordinary path) :
    ¬safePathToKeys path <+: safePathToKeys presetPath := by
  intro h
  obtain ⟨i, hi, hpath⟩ := hpath
  have hallowed := allowed_of_leads hpath allPaths_preset h
  simp only [allowed, Bool.or_eq_true, Bool.and_eq_true, beq_iff_eq] at hallowed
  simp only [presetIndex] at hallowed hi
  omega

structure AlgorithmCategory where
  key : String
  name : String
  index : Nat
  algorithms : Algorithms → List JsString

def algorithmCategories : List AlgorithmCategory :=
  [⟨"cipher", "WEBSSH2_SSH_ALGORITHMS_CIPHER", 21, Algorithms.cipher⟩,
    ⟨"kex", "WEBSSH2_SSH_ALGORITHMS_KEX", 22, Algorithms.kex⟩,
    ⟨"hmac", "WEBSSH2_SSH_ALGORITHMS_HMAC", 23, Algorithms.hmac⟩,
    ⟨"compress", "WEBSSH2_SSH_ALGORITHMS_COMPRESS", 24, Algorithms.compress⟩,
    ⟨"serverHostKey", "WEBSSH2_SSH_ALGORITHMS_SERVER_HOST_KEY", 25, Algorithms.serverHostKey⟩]

def AlgorithmCategory.mapping (category : AlgorithmCategory) : EnvVarMap :=
  ⟨category.name, "ssh.algorithms." ++ category.key, .array⟩

theorem envVarMapping_category : ∀ category ∈ algorithmCategories,
    envVarMapping[category.index]? = some category.mapping := by
  simp only [algorithmCategories, List.forall_mem_cons, List.not_mem_nil, false_implies,
    implies_true, and_true]
  exact ⟨rfl, rfl, rfl, rfl, rfl⟩

def presetKeys : List JsString := [js "ssh", js "algorithms"]

theorem safePathToKeys_preset : safePathToKeys presetPath = presetKeys := by
  decide

theorem safePathToKeys_category : ∀ category ∈ algorithmCategories,
    safePathToKeys category.mapping.path = presetKeys ++ [js category.key] := by
  decide

variable {mapping : EnvVarMap}

theorem allPaths_of_mapping {i : Nat} (h : envVarMapping[i]? = some mapping) :
    allPaths[i]? = some mapping.path := by
  obtain ⟨hi, -⟩ := List.getElem?_eq_some_iff.mp h
  rw [allPaths, List.getElem?_append_left (by simpa using hi), List.getElem?_map, h]
  rfl

theorem ordinary_of_mapping (hmem : mapping ∈ envVarMapping) (htype : mapping.type ≠ .preset) :
    Ordinary mapping.path := by
  obtain ⟨i, hi⟩ := List.mem_iff_getElem?.mp hmem
  refine ⟨i, ?_, allPaths_of_mapping hi⟩
  rintro rfl
  have hpreset : (envVarMapping[presetIndex]?).map EnvVarMap.type = some .preset := rfl
  rw [hi] at hpreset
  exact htype (Option.some.inj hpreset)

theorem allPaths_of_bespoke (h : path ∈ bespokePaths) : ∃ i, 96 ≤ i ∧ allPaths[i]? = some path := by
  obtain ⟨i, hi⟩ := List.mem_iff_getElem?.mp h
  have hlength : envVarMapping.length = 96 := rfl
  refine ⟨96 + i, by omega, ?_⟩
  rw [allPaths, List.getElem?_append_right (by simp [hlength]), List.length_map, hlength,
    Nat.add_sub_cancel_left, hi]

theorem ordinary_of_bespoke (h : path ∈ bespokePaths) : Ordinary path := by
  obtain ⟨i, hi, hpath⟩ := allPaths_of_bespoke h
  refine ⟨i, ?_, hpath⟩
  simp only [presetIndex]
  omega

theorem ne_mapping_of_bespoke (h : path ∈ bespokePaths) (hmem : mapping ∈ envVarMapping) :
    path ≠ mapping.path := by
  rintro rfl
  obtain ⟨i, hi, hpath⟩ := allPaths_of_bespoke h
  obtain ⟨j, hj⟩ := List.mem_iff_getElem?.mp hmem
  have hlength : envVarMapping.length = 96 := rfl
  obtain ⟨hbound, -⟩ := List.getElem?_eq_some_iff.mp hj
  rcases index_cases hpath (allPaths_of_mapping hj) with h | h | h
  · omega
  · omega
  · omega

-- No two variables have the path of a category.
theorem eq_category {category : AlgorithmCategory} (hcategory : category ∈ algorithmCategories)
    {j : Nat} (hmapping : envVarMapping[j]? = some mapping)
    (hpath : mapping.path = category.mapping.path) :
    j = category.index ∧ mapping = category.mapping := by
  have hown := envVarMapping_category category hcategory
  have hcases := index_cases (hpath ▸ allPaths_of_mapping hmapping) (allPaths_of_mapping hown)
  have hindex : 21 ≤ category.index := by
    revert category
    simp only [algorithmCategories, List.forall_mem_cons, List.not_mem_nil, false_implies,
      implies_true, and_true]
    omega
  have heq : j = category.index := by omega
  subst heq
  exact ⟨rfl, Option.some.inj (hmapping.symm.trans hown)⟩

-- What leads through the path of the preset is that of one of the categories.
theorem category_of_leads (hpath : Ordinary path)
    (h : safePathToKeys presetPath <+: safePathToKeys path) :
    ∃ category ∈ algorithmCategories, path = category.mapping.path := by
  obtain ⟨i, hi, hpath⟩ := hpath
  have hallowed := allowed_of_leads allPaths_preset hpath h
  simp only [allowed, Bool.or_eq_true, Bool.and_eq_true, beq_iff_eq, decide_eq_true_eq]
    at hallowed
  simp only [presetIndex] at hallowed hi
  have hindex : ∃ category ∈ algorithmCategories, category.index = i := by
    simp only [algorithmCategories, List.exists_mem_cons_iff, List.not_mem_nil, false_and,
      exists_false, or_false]
    omega
  obtain ⟨category, hmem, rfl⟩ := hindex
  have hcategory := allPaths_of_mapping (envVarMapping_category category hmem)
  exact ⟨category, hmem, Option.some.inj (hpath.symm.trans hcategory)⟩

end Paths

section Entries

variable (host : EnvHost) (env : Environment)

def bespokeEntries : List ConfigEntry :=
  collectThemeNamesEntries env ++ collectDefaultThemeEntries env ++
    collectHeaderBackgroundEntries env ++ additionalThemesEntries host env ++
    transportEntries host env

-- What is written after the preset, in the order of writing.
def settings : List ConfigEntry :=
  collectMappedEntries host env ++ bespokeEntries host env

def keyed (entries : List ConfigEntry) : List (List JsString × JsonValue) :=
  entries.map fun entry => (safePathToKeys entry.1, entry.2)

variable {host env}

theorem configEntries_eq :
    configEntries host env = collectPresetEntries host env ++ settings host env := by
  simp only [configEntries, settings, bespokeEntries, List.append_assoc]

theorem mapEnvironmentVariables_eq :
    mapEnvironmentVariables host env = Json.assignAll (keyed (configEntries host env)) := by
  rw [Json.assignAll, keyed, List.foldl_map]
  rfl

variable {entry : ConfigEntry}

theorem mem_collectMappedEntries (h : entry ∈ collectMappedEntries host env) :
    ∃ mapping ∈ envVarMapping, mapping.type ≠ .preset ∧
      ∃ text, env mapping.name = some text ∧
        entry = (mapping.path, parseEnvValue host text mapping.type) := by
  obtain ⟨mapping, hmem, hentry⟩ := List.mem_filterMap.mp h
  unfold mappedEntry at hentry
  split at hentry
  · cases hentry
  · rename_i htype
    obtain ⟨text, htext, rfl⟩ := Option.map_eq_some_iff.mp hentry
    exact ⟨mapping, hmem, htype, text, htext, rfl⟩

theorem collectPresetEntries_eq :
    collectPresetEntries host env =
      (((env presetVariable).bind (getAlgorithmPreset host)).map fun preset =>
        (presetPath, presetClone preset)).toList := by
  have hfind : (envVarMapping.find? fun mapping => mapping.name = presetVariable).map
      EnvVarMap.path = some presetPath := by
    decide
  obtain ⟨mapping, hmapping, hpath⟩ := Option.map_eq_some_iff.mp hfind
  unfold collectPresetEntries
  cases (env presetVariable).bind (getAlgorithmPreset host) with
  | none => rfl
  | some preset =>
    simp only [hmapping, hpath]
    rfl

theorem mem_collectPresetEntries (h : entry ∈ collectPresetEntries host env) :
    ∃ preset, entry = (presetPath, presetClone preset) := by
  rw [collectPresetEntries_eq, Option.mem_toList] at h
  obtain ⟨preset, -, rfl⟩ := Option.map_eq_some_iff.mp h
  exact ⟨preset, rfl⟩

theorem distinctItems_strings (items : List JsString) :
    Json.distinctItems (items.map fun item => (.string item : JsonValue)) = true := by
  induction items with
  | nil => rfl
  | cons item rest ih => simpa [Json.distinctItems, Json.distinct] using ih

theorem stringArray_distinct (items : List JsString) : (stringArray items).distinct = true := by
  simp only [stringArray, Json.distinct]
  exact distinctItems_strings items

variable (preset : Algorithms)

theorem presetClone_distinct : (presetClone preset).distinct = true := by
  have hkeys : [js "cipher", js "kex", js "hmac", js "compress", js "serverHostKey"].Nodup := by
    decide
  simp [presetClone, Json.distinct, Json.distinctFields, stringArray_distinct] at hkeys ⊢
  exact hkeys

variable (text : JsString)

theorem parseArrayValue_distinct : (parseArrayValue host text).distinct = true := by
  unfold parseArrayValue
  dsimp only
  split
  · rfl
  · split
    · split
      · rename_i parsed _
        split
        · rename_i items hitems
          have hdistinct := parsed.distinct
          rw [hitems] at hdistinct
          exact hdistinct
        · rfl
      · exact distinctItems_strings _
    · exact distinctItems_strings _

theorem parseJsonValue_distinct : (parseJsonValue host text).distinct = true := by
  have hparsed : ∀ value, (host.parseJson text).map PartialConfig.value = some value →
      value.distinct = true := by
    intro value hvalue
    obtain ⟨parsed, -, rfl⟩ := Option.map_eq_some_iff.mp hvalue
    exact parsed.distinct
  unfold parseJsonValue
  split
  · exact hparsed _ ‹_›
  · exact hparsed _ ‹_›
  · rfl

theorem parseEnvValue_distinct (type : EnvValueType) :
    (parseEnvValue host text type).distinct = true := by
  unfold parseEnvValue
  split
  · rfl
  · split
    · split
      · rfl
      · rfl
    · cases type with
      | array => exact parseArrayValue_distinct text
      | json => exact parseJsonValue_distinct text
      | string | number | boolean | preset => rfl

-- What the variables of themes and transports are read to.
theorem mem_bespokeEntries (h : entry ∈ bespokeEntries host env) :
    entry.1 ∈ bespokePaths ∧ entry.2.distinct = true := by
  simp only [bespokeEntries, List.mem_append] at h
  rcases h with (((h | h) | h) | h) | h
  · unfold collectThemeNamesEntries at h
    split at h
    · cases h
    · cases List.mem_singleton.mp h
      exact ⟨by simp [bespokePaths], stringArray_distinct _⟩
  · unfold collectDefaultThemeEntries at h
    split at h
    · cases h
    · cases List.mem_singleton.mp h
      exact ⟨by simp [bespokePaths], rfl⟩
  · unfold collectHeaderBackgroundEntries at h
    split at h
    · cases h
    · split at h
      · cases List.mem_singleton.mp h
        exact ⟨by simp [bespokePaths], rfl⟩
      · cases h
  · unfold additionalThemesEntries at h
    split at h
    · cases h
    · rename_i raw _
      cases List.mem_singleton.mp h
      exact ⟨by simp [bespokePaths], (host.additionalThemes raw).distinct⟩
  · unfold transportEntries at h
    split at h
    · cases h
    · cases List.mem_singleton.mp h
      exact ⟨by simp [bespokePaths], stringArray_distinct _⟩

theorem mem_settings (h : entry ∈ settings host env) :
    Ordinary entry.1 ∧ entry.2.distinct = true := by
  rcases List.mem_append.mp h with hmapped | hbespoke
  · obtain ⟨mapping, hmem, htype, text, -, rfl⟩ := mem_collectMappedEntries hmapped
    exact ⟨ordinary_of_mapping hmem htype, parseEnvValue_distinct text mapping.type⟩
  · obtain ⟨hpath, hdistinct⟩ := mem_bespokeEntries hbespoke
    exact ⟨ordinary_of_bespoke hpath, hdistinct⟩

theorem mem_configEntries (h : entry ∈ configEntries host env) :
    (∃ preset, entry = (presetPath, presetClone preset)) ∨ entry ∈ settings host env := by
  rw [configEntries_eq, List.mem_append] at h
  exact h.imp_left mem_collectPresetEntries

-- One entry leads through the path of another only if they have the same path, or from the
-- preset to one of the categories.
theorem prefix_cases {first second : ConfigEntry} (hfirst : first ∈ configEntries host env)
    (hsecond : second ∈ configEntries host env)
    (h : safePathToKeys first.1 <+: safePathToKeys second.1) :
    first.1 = second.1 ∨ (∃ preset, first = (presetPath, presetClone preset)) ∧
      ∃ category ∈ algorithmCategories, second.1 = category.mapping.path := by
  rcases mem_configEntries hfirst with ⟨preset, rfl⟩ | hfirst
  · rcases mem_configEntries hsecond with ⟨other, rfl⟩ | hsecond
    · exact .inl rfl
    · exact .inr ⟨⟨preset, rfl⟩, category_of_leads (mem_settings hsecond).1 h⟩
  · have hordinary := (mem_settings hfirst).1
    rcases mem_configEntries hsecond with ⟨other, rfl⟩ | hsecond
    · exact absurd h (not_prefix_preset hordinary)
    · exact .inl (eq_of_leads hordinary (mem_settings hsecond).1 h)

theorem presetClone_eq :
    presetClone preset = .object (algorithmCategories.map fun category =>
      (js category.key, stringArray (category.algorithms preset))) := rfl

theorem found_presetClone {category : AlgorithmCategory} (hmem : category ∈ algorithmCategories)
    (rest : List JsString) :
    Json.found (js category.key :: rest) (presetClone preset) =
      Json.found rest (stringArray (category.algorithms preset)) := by
  have hdistinct := presetClone_distinct preset
  rw [presetClone_eq, Json.distinct, Bool.and_eq_true, decide_eq_true_eq] at hdistinct
  rw [presetClone_eq, Json.found_cons_object, Json.lookup_eq_lookupEntries,
    (OrderedMap.lookupEntries_eq_some_iff _ _ _ hdistinct.1).mpr (List.mem_map_of_mem hmem)]

theorem safePathToKeys_ne_nil (path : String) : safePathToKeys path ≠ [] :=
  List.splitOn_ne_nil 46 (js path)

theorem unhindered : Json.Unhindered (keyed (configEntries host env)) := by
  intro before entry after heq
  have hmem : ∀ {other}, other ∈ before ++ [entry] →
      ∃ source ∈ configEntries host env, other = (safePathToKeys source.1, source.2) := by
    intro other hother
    have hother : other ∈ keyed (configEntries host env) := by
      rw [heq, List.append_cons]
      exact List.mem_append_left _ hother
    obtain ⟨source, hsource, rfl⟩ := List.mem_map.mp hother
    exact ⟨source, hsource, rfl⟩
  obtain ⟨second, hsecond, rfl⟩ := hmem (List.mem_append_right _ List.mem_cons_self)
  refine ⟨safePathToKeys_ne_nil second.1, Json.foundIn_ne_hidden ?_⟩
  intro other hother hleads
  obtain ⟨first, hfirst, rfl⟩ := hmem (List.mem_append_left _ hother)
  dsimp only at hleads ⊢
  rcases prefix_cases hfirst hsecond hleads with hsame | ⟨⟨preset, rfl⟩, category, hcategory, hpath⟩
  · rw [hsame, List.drop_length]
    exact Json.found_nil_ne_hidden first.2
  · rw [hpath, safePathToKeys_preset, safePathToKeys_category category hcategory,
      List.drop_left, found_presetClone preset hcategory]
    exact Json.found_nil_ne_hidden _

theorem found_mapEnvironmentVariables (path : List JsString) :
    Json.found path (.object (mapEnvironmentVariables host env)) =
      Json.foundIn (keyed (configEntries host env)) path := by
  rw [mapEnvironmentVariables_eq]
  exact Json.found_assignAll unhindered path

theorem mapEnvironmentVariables_distinct :
    (Json.object (mapEnvironmentVariables host env)).distinct = true := by
  rw [mapEnvironmentVariables_eq]
  apply Json.distinct_assignAll
  intro entry hentry
  obtain ⟨source, hsource, rfl⟩ := List.mem_map.mp hentry
  rcases mem_configEntries hsource with ⟨preset, rfl⟩ | hsetting
  · exact presetClone_distinct preset
  · exact (mem_settings hsetting).2

end Entries

section Law

variable (host : EnvHost) (env : Environment)

-- What the environment says at each path. A preset speaks for the categories that have no
-- variable of their own.
structure EnvironmentLaw (config : Fields) : Prop where
  written : ∀ before entry after rest, settings host env = before ++ entry :: after →
    (∀ later ∈ after, later.1 ≠ entry.1) →
    Json.found (safePathToKeys entry.1 ++ rest) (.object config) = Json.found rest entry.2
  preset : ∀ preset rest, (env presetVariable).bind (getAlgorithmPreset host) = some preset →
    (∀ entry ∈ settings host env, ¬safePathToKeys entry.1 <+: presetKeys ++ rest) →
    Json.found (presetKeys ++ rest) (.object config) = Json.found rest (presetClone preset)
  above : ∀ entry ∈ configEntries host env, ∀ path, path <+: safePathToKeys entry.1 →
    path ≠ safePathToKeys entry.1 → Json.found path (.object config) = .object
  unwritten : ∀ path, path ≠ [] →
    (∀ entry ∈ configEntries host env,
      ¬safePathToKeys entry.1 <+: path ∧ ¬path <+: safePathToKeys entry.1) →
    Json.found path (.object config) = .missing

variable {host env}

theorem found_written {before after : List ConfigEntry} {entry : ConfigEntry}
    (heq : settings host env = before ++ entry :: after)
    (hlast : ∀ later ∈ after, later.1 ≠ entry.1) (rest : List JsString) :
    Json.found (safePathToKeys entry.1 ++ rest) (.object (mapEnvironmentVariables host env)) =
      Json.found rest entry.2 := by
  have hentries : keyed (configEntries host env) =
      keyed (collectPresetEntries host env ++ before) ++
        (safePathToKeys entry.1, entry.2) :: keyed after := by
    rw [configEntries_eq, heq, ← List.append_assoc]
    simp [keyed]
  have hordinary : ∀ other ∈ entry :: after, Ordinary other.1 := by
    intro other hother
    have hmem : other ∈ settings host env := by
      rw [heq]
      exact List.mem_append_right _ hother
    exact (mem_settings hmem).1
  have hentry := hordinary entry List.mem_cons_self
  rw [found_mapEnvironmentVariables, hentries, Json.foundIn_of_last (List.prefix_append _ rest),
    List.drop_left]
  intro other hother
  obtain ⟨later, hlater, rfl⟩ := List.mem_map.mp hother
  have hother := hordinary later (List.mem_cons_of_mem _ hlater)
  have hne := hlast later hlater
  dsimp only
  constructor
  · intro hleads
    rcases List.prefix_or_prefix_of_prefix hleads (List.prefix_append _ rest) with h | h
    · exact hne (eq_of_leads hother hentry h)
    · exact hne (eq_of_leads hentry hother h).symm
  · intro hleads
    have h := (List.prefix_append _ rest).trans hleads
    exact hne (eq_of_leads hentry hother h).symm

theorem found_above {entry : ConfigEntry} (hentry : entry ∈ configEntries host env)
    {path : List JsString} (habove : path <+: safePathToKeys entry.1)
    (hne : path ≠ safePathToKeys entry.1) :
    Json.found path (.object (mapEnvironmentVariables host env)) = .object := by
  rw [found_mapEnvironmentVariables]
  apply Json.foundIn_object
  · exact ⟨_, List.mem_map_of_mem hentry, habove, hne⟩
  · intro other hother hleads
    obtain ⟨first, hfirst, rfl⟩ := List.mem_map.mp hother
    dsimp only at hleads ⊢
    rcases prefix_cases hfirst hentry (hleads.trans habove) with
      hsame | ⟨⟨preset, rfl⟩, category, hcategory, hpath⟩
    · rw [hsame] at hleads
      exact absurd (habove.eq_of_length_le hleads.length_le) hne
    · rw [hpath, safePathToKeys_category category hcategory] at habove hne
      rw [safePathToKeys_preset] at hleads ⊢
      have hlength := habove.length_le
      have hshort : path.length ≤ presetKeys.length := by
        by_contra hlong
        apply hne
        apply habove.eq_of_length_le
        rw [List.length_append, List.length_singleton]
        omega
      rw [← hleads.eq_of_length_le hshort, List.drop_length]
      rfl

theorem found_preset {preset : Algorithms}
    (hpreset : (env presetVariable).bind (getAlgorithmPreset host) = some preset)
    {rest : List JsString}
    (hopen : ∀ entry ∈ settings host env, ¬safePathToKeys entry.1 <+: presetKeys ++ rest) :
    Json.found (presetKeys ++ rest) (.object (mapEnvironmentVariables host env)) =
      Json.found rest (presetClone preset) := by
  have heq : configEntries host env = (presetPath, presetClone preset) :: settings host env := by
    rw [configEntries_eq, collectPresetEntries_eq, hpreset]
    rfl
  by_cases hbelow : ∃ entry ∈ settings host env, presetKeys ++ rest <+: safePathToKeys entry.1
  · obtain ⟨entry, hentry, hleads⟩ := hbelow
    have hmem : entry ∈ configEntries host env := by
      rw [heq]
      exact List.mem_cons_of_mem _ hentry
    have hne : presetKeys ++ rest ≠ safePathToKeys entry.1 := by
      intro hsame
      exact hopen entry hentry (hsame ▸ List.prefix_rfl)
    have hrest : rest = [] := by
      have hthrough := (List.prefix_append presetKeys rest).trans hleads
      rw [← safePathToKeys_preset] at hthrough
      obtain ⟨category, hcategory, hpath⟩ := category_of_leads (mem_settings hentry).1 hthrough
      rw [hpath, safePathToKeys_category category hcategory] at hleads hne
      have hshort := (List.prefix_append_right_inj presetKeys).mp hleads
      rcases List.prefix_cons_iff.mp hshort with hnil | ⟨beyond, hrest, hbeyond⟩
      · exact hnil
      · rw [List.prefix_nil.mp hbeyond] at hrest
        exact absurd (congrArg (presetKeys ++ ·) hrest) hne
    subst hrest
    rw [found_above hmem hleads hne]
    rfl
  · have hkeyed : keyed (configEntries host env) =
        [] ++ (presetKeys, presetClone preset) :: keyed (settings host env) := by
      rw [heq, ← safePathToKeys_preset]
      rfl
    rw [found_mapEnvironmentVariables, hkeyed,
      Json.foundIn_of_last (List.prefix_append presetKeys rest), List.drop_left]
    intro other hother
    obtain ⟨entry, hentry, rfl⟩ := List.mem_map.mp hother
    exact ⟨hopen entry hentry, fun hleads => hbelow ⟨entry, hentry, hleads⟩⟩

theorem found_unwritten {path : List JsString} (hpath : path ≠ [])
    (hopen : ∀ entry ∈ configEntries host env,
      ¬safePathToKeys entry.1 <+: path ∧ ¬path <+: safePathToKeys entry.1) :
    Json.found path (.object (mapEnvironmentVariables host env)) = .missing := by
  rw [found_mapEnvironmentVariables]
  apply Json.foundIn_missing hpath
  intro other hother
  obtain ⟨entry, hentry, rfl⟩ := List.mem_map.mp hother
  exact hopen entry hentry

end Law

section Layers

variable (host : EnvHost) (env : Environment)

structure JsonObject where
  fields : Fields
  distinct : (Json.object fields).distinct = true

def JsonObject.config (object : JsonObject) : PartialConfig :=
  ⟨.object object.fields, object.distinct⟩

def environmentObject : JsonObject :=
  ⟨mapEnvironmentVariables host env, mapEnvironmentVariables_distinct⟩

def loadedConfig (defaultConfig : Fields) (fileConfig : Option JsonObject) : Fields :=
  mergeConfigs defaultConfig (fileConfig.map JsonObject.config)
    (some (environmentObject host env).config)

def fileFound (fileConfig : Option JsonObject) (path : List JsString) : Json.Found Number :=
  (fileConfig.map fun file => Json.found path (.object file.fields)).getD .missing

-- The precedence of the environment over the file over the defaults, what the environment
-- says, and that nothing that is merged is changed by it.
structure FollowsPrecedence (defaultConfig : Fields) (fileConfig : Option JsonObject) : Prop where
  layers : ∀ path, Json.look path (.object (loadedConfig host env defaultConfig fileConfig)) =
    (Json.found path (.object (mapEnvironmentVariables host env))).over
      ((fileFound fileConfig path).over (Json.look path (.object defaultConfig)))
  environment : EnvironmentLaw host env (mapEnvironmentVariables host env)
  mapped : ∀ (i : Nat) (mapping : EnvVarMap) text rest, envVarMapping[i]? = some mapping →
    mapping.type ≠ .preset → env mapping.name = some text →
    (∀ (j : Nat) (later : EnvVarMap), i < j → envVarMapping[j]? = some later →
      later.path = mapping.path → env later.name = none) →
    Json.found (safePathToKeys mapping.path ++ rest) (.object (mapEnvironmentVariables host env)) =
      Json.found rest (parseEnvValue host text mapping.type)
  categories : ∀ preset, (env presetVariable).bind (getAlgorithmPreset host) = some preset →
    ∀ category ∈ algorithmCategories,
      Json.look (presetKeys ++ [js category.key])
          (.object (loadedConfig host env defaultConfig fileConfig)) =
        .value (((env category.name).map fun text => parseEnvValue host text .array).getD
          (stringArray (category.algorithms preset)))
  unmutated : ∀ heap place fileSlot envSlot,
    Heap.Holds heap (.object place) (.object defaultConfig) →
    Option.Rel (Heap.Holds heap) fileSlot (fileConfig.map fun file => .object file.fields) →
    Heap.Holds heap envSlot (.object (mapEnvironmentVariables host env)) →
    InMemory.Allocates heap
      (fun fuel => InMemory.mergeConfigs fuel heap place fileSlot (some envSlot))
      fun after result => Heap.Holds after (.object result)
        (.object (loadedConfig host env defaultConfig fileConfig))

variable {host env}

theorem look_deepMerge (base : Fields) (object : JsonObject) (path : List JsString) :
    Json.look path (.object (deepMerge base object.config.value)) =
      (Json.found path (.object object.fields)).over (Json.look path (.object base)) := by
  have hlook := Json.look_overlay path (some (.object base)) object.distinct
  rw [Json.overlay] at hlook
  exact hlook

theorem look_loadedConfig (defaultConfig : Fields) (fileConfig : Option JsonObject)
    (path : List JsString) :
    Json.look path (.object (loadedConfig host env defaultConfig fileConfig)) =
      (Json.found path (.object (mapEnvironmentVariables host env))).over
        ((fileFound fileConfig path).over (Json.look path (.object defaultConfig))) := by
  cases fileConfig with
  | none => exact look_deepMerge defaultConfig (environmentObject host env) path
  | some file =>
    have hfile := look_deepMerge defaultConfig file path
    have hlook := look_deepMerge (deepMerge defaultConfig file.config.value)
      (environmentObject host env) path
    rw [hfile] at hlook
    exact hlook

theorem found_mapped {i : Nat} {mapping : EnvVarMap} {text : JsString}
    (hmapping : envVarMapping[i]? = some mapping) (htype : mapping.type ≠ .preset)
    (htext : env mapping.name = some text)
    (hlast : ∀ j (later : EnvVarMap), i < j → envVarMapping[j]? = some later →
      later.path = mapping.path → env later.name = none) (rest : List JsString) :
    Json.found (safePathToKeys mapping.path ++ rest)
        (.object (mapEnvironmentVariables host env)) =
      Json.found rest (parseEnvValue host text mapping.type) := by
  obtain ⟨hi, hget⟩ := List.getElem?_eq_some_iff.mp hmapping
  have hentry : mappedEntry host env mapping =
      some (mapping.path, parseEnvValue host text mapping.type) := by
    rw [mappedEntry, if_neg htype, htext]
    rfl
  have hsplit : envVarMapping =
      envVarMapping.take i ++ mapping :: envVarMapping.drop (i + 1) := by
    rw [← hget, List.getElem_cons_drop, List.take_append_drop]
  have hsettings : settings host env =
      (envVarMapping.take i).filterMap (mappedEntry host env) ++
        (mapping.path, parseEnvValue host text mapping.type) ::
          ((envVarMapping.drop (i + 1)).filterMap (mappedEntry host env) ++
            bespokeEntries host env) := by
    rw [settings, collectMappedEntries]
    conv_lhs => rw [hsplit]
    rw [List.filterMap_append, List.filterMap_cons_some hentry, List.append_assoc,
      List.cons_append]
  apply found_written hsettings
  intro entry hlater
  rcases List.mem_append.mp hlater with hmapped | hbespoke
  · obtain ⟨later, hmem, hsome⟩ := List.mem_filterMap.mp hmapped
    obtain ⟨k, hk⟩ := List.mem_iff_getElem?.mp hmem
    rw [List.getElem?_drop] at hk
    unfold mappedEntry at hsome
    split at hsome
    · cases hsome
    · obtain ⟨other, hother, rfl⟩ := Option.map_eq_some_iff.mp hsome
      intro hpath
      rw [hlast _ later (by omega) hk hpath] at hother
      cases hother
  · exact ne_mapping_of_bespoke (mem_bespokeEntries hbespoke).1 (List.mem_of_getElem? hmapping)

theorem parseEnvValue_array (text : JsString) :
    (parseEnvValue host text .array).isObject = false := by
  unfold parseEnvValue
  split
  · rfl
  · split
    · rfl
    · dsimp only
      unfold parseArrayValue
      dsimp only
      split
      · rfl
      · split
        · split
          · split
            · rfl
            · rfl
          · rfl
        · rfl

-- A category that has no variable is written by none of the others.
theorem not_mem_settings {category : AlgorithmCategory} (hcategory : category ∈ algorithmCategories)
    (hunset : env category.name = none) {entry : ConfigEntry} (hentry : entry ∈ settings host env) :
    ¬safePathToKeys entry.1 <+: safePathToKeys category.mapping.path := by
  intro hleads
  have hown := List.mem_of_getElem? (envVarMapping_category category hcategory)
  have htype : category.mapping.type ≠ .preset := by
    simp [AlgorithmCategory.mapping]
  have hpath := eq_of_leads (mem_settings hentry).1 (ordinary_of_mapping hown htype) hleads
  rcases List.mem_append.mp hentry with hmapped | hbespoke
  · obtain ⟨mapping, hmem, -, text, htext, rfl⟩ := mem_collectMappedEntries hmapped
    obtain ⟨j, hj⟩ := List.mem_iff_getElem?.mp hmem
    obtain ⟨-, rfl⟩ := eq_category hcategory hj hpath
    exact absurd (hunset.symm.trans htext) (by simp)
  · exact ne_mapping_of_bespoke (mem_bespokeEntries hbespoke).1 hown hpath

theorem found_category {preset : Algorithms}
    (hpreset : (env presetVariable).bind (getAlgorithmPreset host) = some preset)
    {category : AlgorithmCategory} (hcategory : category ∈ algorithmCategories) :
    Json.found (presetKeys ++ [js category.key]) (.object (mapEnvironmentVariables host env)) =
      .value (((env category.name).map fun text => parseEnvValue host text .array).getD
        (stringArray (category.algorithms preset))) := by
  cases htext : env category.name with
  | none =>
    have hopen : ∀ entry ∈ settings host env,
        ¬safePathToKeys entry.1 <+: presetKeys ++ [js category.key] := by
      intro entry hentry
      rw [← safePathToKeys_category category hcategory]
      exact not_mem_settings hcategory htext hentry
    rw [found_preset hpreset hopen, found_presetClone preset hcategory]
    rfl
  | some text =>
    have hmapping := envVarMapping_category category hcategory
    have hlast : ∀ (j : Nat) (later : EnvVarMap), category.index < j →
        envVarMapping[j]? = some later → later.path = category.mapping.path →
          env later.name = none := by
      intro j later hj hlater hpath
      obtain ⟨rfl, -⟩ := eq_category hcategory hlater hpath
      omega
    have htype : category.mapping.type ≠ .preset := by
      simp [AlgorithmCategory.mapping]
    rw [← safePathToKeys_category category hcategory, ← List.append_nil (safePathToKeys _),
      found_mapped hmapping htype htext hlast]
    exact Json.found_nil_of_not_object (parseEnvValue_array text)

theorem mergeConfigs_followsPrecedence (host : EnvHost) (env : Environment)
    (defaultConfig : Fields) (fileConfig : Option JsonObject) :
    FollowsPrecedence host env defaultConfig fileConfig := by
  constructor
  case layers => exact look_loadedConfig defaultConfig fileConfig
  case environment =>
    constructor
    case written =>
      intro before entry after rest heq hlast
      exact found_written heq hlast rest
    case preset =>
      intro preset rest hpreset hopen
      exact found_preset hpreset hopen
    case above =>
      intro entry hentry path habove hne
      exact found_above hentry habove hne
    case unwritten =>
      intro path hpath hopen
      exact found_unwritten hpath hopen
  case mapped =>
    intro i mapping text rest hmapping htype htext hlast
    exact found_mapped hmapping htype htext hlast rest
  case categories =>
    intro preset hpreset category hcategory
    rw [look_loadedConfig, found_category hpreset hcategory]
    rfl
  case unmutated =>
    intro heap place fileSlot envSlot hdefault hfile henv
    apply InMemory.mergeConfigs_holds hdefault
    · rw [Option.map_map]
      exact hfile
    · exact .some henv

end Layers

end WebSsh2.Config

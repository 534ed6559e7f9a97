import WebSsh2.Config.Loading

namespace WebSsh2.Config

open WebSsh2.Library WebSsh2.HostKey WebSsh2.Validation

section Alike

def secretVariables : List String :=
  ["WEBSSH2_USER_PASSWORD", "WEBSSH2_USER_PRIVATE_KEY", "WEBSSH2_USER_PASSPHRASE",
    "WEBSSH2_SESSION_SECRET"]

-- The first one is mapped into the configuration as well.
def seedVariables : List String :=
  ["WEBSSH2_SESSION_SECRET", "WEBSSH_SESSION_SECRET"]

-- Environments that differ in the values of secrets at most, filled or not alike wherever
-- they are read.
structure AlikeEnvironment (host : EnvHost) (first second : Environment) : Prop where
  others : ∀ name, name ∉ secretVariables → name ∉ seedVariables → first name = second name
  values : ∀ name ∈ secretVariables,
    (first name).map (fun text => filledView (parseEnvValue host text .string)) =
      (second name).map (fun text => filledView (parseEnvValue host text .string))
  seeds : ∀ name ∈ seedVariables,
    (normalizeSessionSecret (first name)).isSome = (normalizeSessionSecret (second name)).isSome

inductive AlikeFile : ConfigFile → ConfigFile → Prop where
  | absent : AlikeFile .absent .absent
  | gone : AlikeFile .gone .gone
  | unreadable (first second : JsString) : AlikeFile (.unreadable first) (.unreadable second)
  | malformed (first second : JsString) : AlikeFile (.malformed first) (.malformed second)
  | parsed (first second : PartialConfig) (h : SameButSecrets first.value second.value) :
      AlikeFile (.parsed first) (.parsed second)

structure Alike (host : EnvHost) (first second : Source) : Prop where
  file : AlikeFile first.file second.file
  env : AlikeEnvironment host first.env second.env

end Alike

section Environment

-- Texts that are filled are told apart no further.
def blankedView : JsonValue → JsonValue
  | .string text => if text = [] then .string [] else .string stars
  | value => value

def blanked : Json.LeafView Number where
  view := blankedView
  isObject_view value h := by
    cases value with
    | string text =>
      rw [blankedView]
      split <;> rfl
    | object fields => cases h
    | _ => rfl

theorem stars_ne_nil : stars ≠ [] := by decide

theorem filledView_blankedView (value : JsonValue) :
    filledView (blankedView value) = filledView value := by
  cases value with
  | string text =>
    rw [blankedView]
    by_cases htext : text = []
    · rw [if_pos htext, htext]
    · rw [if_neg htext, filledView, filledView, if_neg stars_ne_nil, if_neg htext]
  | _ => rfl

theorem blankedView_parseEnvValue (host : EnvHost) (text : JsString) :
    blankedView (parseEnvValue host text .string) =
      filledView (parseEnvValue host text .string) := by
  unfold parseEnvValue
  split
  · rfl
  · split
    · rfl
    · next hfilled => rw [blankedView, filledView, if_neg hfilled, if_neg hfilled]

theorem isObject_parseEnvValue (host : EnvHost) (text : JsString) :
    (parseEnvValue host text .string).isObject = false := by
  unfold parseEnvValue
  split
  · rfl
  · split <;> rfl

def maskEntry (leaf : Json.LeafView Number) (entry : ConfigEntry) : ConfigEntry :=
  (entry.1, Json.mask leaf (secret.after (safePathToKeys entry.1)) entry.2)

theorem maskFields_foldl (leaf : Json.LeafView Number) (entries : List ConfigEntry)
    (config : Fields) :
    Json.maskFields leaf secret
        (entries.foldl (fun config entry => setNestedProperty config entry.1 entry.2) config) =
      (entries.map (maskEntry leaf)).foldl
        (fun config entry => setNestedProperty config entry.1 entry.2)
        (Json.maskFields leaf secret config) := by
  induction entries generalizing config with
  | nil => rfl
  | cons entry rest ih =>
    rw [List.foldl_cons, ih, List.map_cons, List.foldl_cons]
    exact congrArg (List.foldl _ · _) (Json.maskFields_setNested leaf secret _ _ _)

theorem secretVariables_mapped : ∀ mapping ∈ envVarMapping, mapping.name ∈ secretVariables →
    mapping.type = .string ∧ safePathToKeys mapping.path ∈ secretPaths := by
  decide +kernel

theorem seedVariables_mapped : ∀ mapping ∈ envVarMapping, mapping.name ∈ seedVariables →
    mapping.name ∈ secretVariables := by
  decide +kernel

variable {host : EnvHost} {first second : Environment}

theorem maskedEntry_eq (h : AlikeEnvironment host first second) {mapping : EnvVarMap}
    (hmapping : mapping ∈ envVarMapping) :
    (mappedEntry host first mapping).map (maskEntry blanked) =
      (mappedEntry host second mapping).map (maskEntry blanked) := by
  by_cases hsecret : mapping.name ∈ secretVariables
  · obtain ⟨htype, hpath⟩ := secretVariables_mapped mapping hmapping hsecret
    have hsome : secret.after (safePathToKeys mapping.path) [] = true := by
      refine decide_eq_true ?_
      rw [List.append_nil]
      exact hpath
    have hvalue : ∀ text, Json.mask blanked (secret.after (safePathToKeys mapping.path))
        (parseEnvValue host text .string) = filledView (parseEnvValue host text .string) := by
      intro text
      rw [Json.mask_of_not_object _ _ (isObject_parseEnvValue host text), hsome, if_pos rfl]
      exact blankedView_parseEnvValue host text
    have hnot : mapping.type ≠ .preset := by
      rw [htype]
      exact nofun
    rw [mappedEntry, mappedEntry, if_neg hnot, if_neg hnot, htype, Option.map_map, Option.map_map]
    have hentry : ∀ env : Environment, (env mapping.name).map (maskEntry blanked ∘ fun text =>
        (mapping.path, parseEnvValue host text .string)) = ((env mapping.name).map fun text =>
          filledView (parseEnvValue host text .string)).map fun value => (mapping.path, value) := by
      intro env
      rw [Option.map_map]
      exact congrArg (Option.map · _) (funext fun text => congrArg (Prod.mk _) (hvalue text))
    rw [hentry, hentry, h.values mapping.name hsecret]
  · rw [mappedEntry, mappedEntry, h.others mapping.name hsecret
      (mt (seedVariables_mapped mapping hmapping) hsecret)]

theorem configEntries_alike (h : AlikeEnvironment host first second) :
    (configEntries host first).map (maskEntry blanked) =
      (configEntries host second).map (maskEntry blanked) := by
  have hopen : ∀ name, name ∉ secretVariables ++ seedVariables → first name = second name := by
    intro name hname
    rw [List.mem_append, not_or] at hname
    exact h.others name hname.1 hname.2
  have hmapped : (collectMappedEntries host first).map (maskEntry blanked) =
      (collectMappedEntries host second).map (maskEntry blanked) := by
    rw [collectMappedEntries, collectMappedEntries, List.map_filterMap, List.map_filterMap]
    exact List.filterMap_congr fun mapping hmapping => maskedEntry_eq h hmapping
  have hpreset : collectPresetEntries host first = collectPresetEntries host second := by
    rw [collectPresetEntries, collectPresetEntries, hopen presetVariable (by decide)]
  have hthemes : collectThemeNamesEntries first = collectThemeNamesEntries second := by
    rw [collectThemeNamesEntries, collectThemeNamesEntries, hopen _ (by decide)]
  have hdefault : collectDefaultThemeEntries first = collectDefaultThemeEntries second := by
    rw [collectDefaultThemeEntries, collectDefaultThemeEntries, hopen _ (by decide)]
  have hheader : collectHeaderBackgroundEntries first = collectHeaderBackgroundEntries second := by
    rw [collectHeaderBackgroundEntries, collectHeaderBackgroundEntries, hopen _ (by decide)]
  have hadditional : additionalThemesEntries host first = additionalThemesEntries host second := by
    rw [additionalThemesEntries, additionalThemesEntries, hopen _ (by decide)]
  have htransport : transportEntries host first = transportEntries host second := by
    rw [transportEntries, transportEntries, hopen _ (by decide)]
  rw [configEntries, configEntries, hpreset, hthemes, hdefault, hheader, hadditional, htransport]
  simp only [List.map_append, hmapped]

theorem mapEnvironmentVariables_alike (h : AlikeEnvironment host first second) :
    Json.maskFields blanked secret (mapEnvironmentVariables host first) =
      Json.maskFields blanked secret (mapEnvironmentVariables host second) := by
  rw [mapEnvironmentVariables, mapEnvironmentVariables, maskFields_foldl, maskFields_foldl,
    configEntries_alike h]

theorem blankedView_eq_null_iff (value : JsonValue) :
    blankedView value = .null ↔ value = .null := by
  cases value with
  | string text =>
    rw [blankedView]
    split
    · exact iff_of_false nofun nofun
    · exact iff_of_false nofun nofun
  | _ => exact Iff.rfl

variable (paths : Json.Paths)

theorem blanked_eq_null_iff (value : JsonValue) :
    Json.mask blanked paths value = .null ↔ value = .null := by
  cases hvalue : value.isObject with
  | true =>
    cases value with
    | object fields =>
      rw [Json.mask]
      exact iff_of_false nofun nofun
    | _ => cases hvalue
  | false =>
    rw [Json.mask_of_not_object blanked paths hvalue]
    split
    · exact blankedView_eq_null_iff value
    · exact Iff.rfl

theorem lookup_eq_null_iff (key : JsString) (fields : Fields) :
    Json.lookup key (Json.maskFields blanked paths fields) = some .null ↔
      Json.lookup key fields = some .null := by
  rw [Json.lookup_maskFields]
  cases Json.lookup key fields with
  | none => exact Iff.rfl
  | some value =>
    rw [Option.map_some, Option.some.injEq, Option.some.injEq]
    exact blanked_eq_null_iff _ value

theorem maskFields_eq_nil_iff (fields : Fields) :
    Json.maskFields blanked paths fields = [] ↔ fields = [] := by
  cases fields with
  | nil => exact Iff.rfl
  | cons head rest => exact iff_of_false nofun nofun

theorem filter_maskFields (key : JsString) (fields : Fields) :
    Json.maskFields blanked paths (fields.filter fun entry => entry.1 ≠ key) =
      (Json.maskFields blanked paths fields).filter fun entry => entry.1 ≠ key :=
  Json.maskFields_filter blanked paths (fun name => name ≠ key) fields

theorem withoutNullSessionSecret_of_not_object {config : Fields} {value : JsonValue}
    (hlookup : Json.lookup (js "session") config = some value) (hvalue : value.isObject = false) :
    withoutNullSessionSecret config = config := by
  rw [withoutNullSessionSecret, hlookup]
  cases value with
  | object fields => cases hvalue
  | _ => rfl

-- Null is seen through the mask, and the other fields are left out by their names.
theorem maskFields_withoutNullSessionSecret (config : Fields) :
    Json.maskFields blanked secret (withoutNullSessionSecret config) =
      withoutNullSessionSecret (Json.maskFields blanked secret config) := by
  have hmasked := Json.lookup_maskFields blanked secret (js "session") config
  cases hlookup : Json.lookup (js "session") config with
  | none =>
    rw [hlookup] at hmasked
    rw [withoutNullSessionSecret, hlookup, withoutNullSessionSecret, hmasked]
    rfl
  | some value =>
    rw [hlookup, Option.map_some] at hmasked
    cases hvalue : value.isObject with
    | false =>
      rw [withoutNullSessionSecret_of_not_object hlookup hvalue,
        withoutNullSessionSecret_of_not_object hmasked]
      rw [Json.isObject_mask, hvalue]
    | true =>
      cases value with
      | object session =>
        rw [Json.mask] at hmasked
        rw [withoutNullSessionSecret, hlookup, withoutNullSessionSecret, hmasked]
        dsimp only
        rw [if_congr (lookup_eq_null_iff _ _ _) rfl rfl, ← filter_maskFields,
          if_congr (maskFields_eq_nil_iff _ _) rfl rfl]
        split_ifs with hnull hempty
        · exact filter_maskFields secret (js "session") config
        · rw [Json.maskFields_setEntries, Json.mask]
        · rfl
      | _ => cases hvalue

theorem sameButSecrets_of_blanked {first second : Fields}
    (h : Json.maskFields blanked secret first = Json.maskFields blanked secret second) :
    Json.maskFields filled secret first = Json.maskFields filled secret second := by
  have hview : ∀ value : JsonValue, value.isObject = false →
      filled.view (blanked.view value) = filled.view value :=
    fun value _ => filledView_blankedView value
  rw [← Json.maskFields_maskFields hview, h, Json.maskFields_maskFields hview]

end Environment

section Merge

theorem maskFields_deepMerge (leaf : Json.LeafView Number) (paths : Json.Paths) (target : Fields)
    (value : JsonValue) : Json.maskFields leaf paths (deepMerge target value) =
      deepMerge (Json.maskFields leaf paths target) (Json.mask leaf paths value) := by
  cases hvalue : value.isObject with
  | true =>
    cases value with
    | object fields =>
      rw [Json.mask]
      exact Json.maskFields_overlayFields leaf paths target fields
    | _ => cases hvalue
  | false =>
    have hkeep : ∀ {base : Fields} {other : JsonValue}, other.isObject = false →
        deepMerge base other = base := by
      intro base other hother
      cases other with
      | object fields => cases hother
      | _ => rfl
    rw [hkeep hvalue, hkeep]
    rw [Json.isObject_mask, hvalue]

variable {text : JsString}

theorem ne_nil_of_normalizeSessionSecret {value : Option JsString}
    (h : normalizeSessionSecret value = some text) : text ≠ [] := by
  rintro rfl
  unfold normalizeSessionSecret at h
  split at h
  · cases h
  · next hne => exact hne h

theorem ne_nil_of_resolveSessionSecretFromEnv {env : Environment}
    (h : resolveSessionSecretFromEnv env = some text) : text ≠ [] := by
  rcases Option.or_eq_some_iff.mp h with hfirst | ⟨_, hsecond⟩
  · exact ne_nil_of_normalizeSessionSecret hfirst
  · exact ne_nil_of_normalizeSessionSecret hsecond

theorem isSome_resolveSessionSecretFromEnv {host : EnvHost} {first second : Environment}
    (h : AlikeEnvironment host first second) :
    (resolveSessionSecretFromEnv first).isSome = (resolveSessionSecretFromEnv second).isSome := by
  unfold resolveSessionSecretFromEnv
  rw [Option.isSome_or, Option.isSome_or, h.seeds _ (by decide),
    h.seeds "WEBSSH_SESSION_SECRET" (by decide)]

theorem maskFields_defaultConfig (host : LoadHost) (htext : text ≠ []) :
    Json.maskFields filled secret (defaultConfig host (some text)) =
      Json.setNested [js "session", js "secret"] (.string stars)
        (Json.maskFields filled secret defaultConfigBase) := by
  have hsecret : secret.after [js "session", js "secret"] [] = true := by decide
  rw [defaultConfig, Json.maskFields_setNested, Json.mask_of_not_object _ _ rfl, hsecret,
    if_pos rfl]
  exact congrArg (Json.setNested _ · _) (if_neg htext)

theorem defaultConfig_eq {host : LoadHost} {first second : Environment}
    (h : AlikeEnvironment host.env first second) :
    Json.maskFields filled secret (defaultConfig host (resolveSessionSecretFromEnv first)) =
      Json.maskFields filled secret (defaultConfig host (resolveSessionSecretFromEnv second)) := by
  have hsome := isSome_resolveSessionSecretFromEnv h
  cases hfirst : resolveSessionSecretFromEnv first with
  | none =>
    rw [hfirst] at hsome
    rw [Option.isSome_eq_false_iff.mp hsome.symm |> Option.isNone_iff_eq_none.mp]
  | some text =>
    rw [hfirst] at hsome
    obtain ⟨other, hsecond⟩ := Option.isSome_iff_exists.mp hsome.symm
    rw [hsecond, maskFields_defaultConfig host (ne_nil_of_resolveSessionSecretFromEnv hfirst),
      maskFields_defaultConfig host (ne_nil_of_resolveSessionSecretFromEnv hsecond)]

theorem eq_of_sameButSecrets {first second : JsonValue} (h : SameButSecrets first second)
    (hfirst : first.isObject = false) : first = second := by
  have hsecond : second.isObject = false := (Json.isObject_eq_of_mask h).symm.trans hfirst
  have hopen : secret [] = false := by decide
  rwa [SameButSecrets, Json.mask_of_not_object _ _ hfirst, Json.mask_of_not_object _ _ hsecond,
    hopen, if_neg Bool.false_ne_true, if_neg Bool.false_ne_true] at h

theorem sameButSecrets_object {first second : Fields} : SameButSecrets (.object first)
    (.object second) ↔
      Json.maskFields filled secret first = Json.maskFields filled secret second := by
  rw [SameButSecrets, Json.mask, Json.mask, Json.object.injEq]

theorem lookup_eq_of_open {first second : Fields}
    (h : Json.maskFields filled secret first = Json.maskFields filled secret second) {name : String}
    (hopen : OpenSection name) : Json.lookup (js name) first = Json.lookup (js name) second := by
  have hsetting := setting_eq (sameButSecrets_object.mpr h) hopen []
  have hfield : ∀ fields : Fields,
      setting [name] (.object fields) = Json.lookup (js name) fields := by
    intro fields
    unfold setting
    rw [List.map_cons, Json.atPath, Json.field]
    cases Json.lookup (js name) fields <;> rfl
  rwa [hfield, hfield] at hsetting

theorem normalizeFileConfigTransport_rel (host : EnvHost) {first second : JsonValue}
    (h : SameButSecrets first second) : Option.Rel SameButSecrets
      (normalizeFileConfigTransport host first) (normalizeFileConfigTransport host second) := by
  have hrefl : ∀ value : Option JsonValue, Option.Rel SameButSecrets value value := by
    intro value
    cases value with
    | none => exact .none
    | some value => exact .some rfl
  cases hfirst : first.isObject with
  | false =>
    rw [eq_of_sameButSecrets h hfirst]
    exact hrefl _
  | true =>
    cases first with
    | object fields =>
      cases second with
      | object others =>
        have hfields := sameButSecrets_object.mp h
        have hoptions : OpenSection "options" := by decide
        rw [normalizeFileConfigTransport, normalizeFileConfigTransport,
          lookup_eq_of_open hfields hoptions]
        split
        · exact .some h
        · exact .some h
        · split
          · exact .some h
          · refine .some (sameButSecrets_object.mpr ?_)
            rw [Json.maskFields_setEntries, Json.maskFields_setEntries, hfields]
        · exact .none
      | _ => cases Json.isObject_eq_of_mask h
    | _ => cases hfirst

theorem envConfig_eq {host : LoadHost} {env other : Environment}
    (h : AlikeEnvironment host.env env other) :
    SameButSecrets (.object (withoutNullSessionSecret (mapEnvironmentVariables host.env env)))
      (.object (withoutNullSessionSecret (mapEnvironmentVariables host.env other))) := by
  apply sameButSecrets_object.mpr
  apply sameButSecrets_of_blanked
  rw [maskFields_withoutNullSessionSecret, maskFields_withoutNullSessionSecret,
    mapEnvironmentVariables_alike h]

theorem mergedConfig_eq {host : LoadHost} {first second : Environment}
    (h : AlikeEnvironment host.env first second) {file other : Option JsonValue}
    (hfile : Option.Rel SameButSecrets file other) :
    Json.maskFields filled secret (mergedConfig host first file) =
      Json.maskFields filled secret (mergedConfig host second other) := by
  have henv := sameButSecrets_object.mp (envConfig_eq h)
  have hdefault := defaultConfig_eq h
  unfold mergedConfig mergeLayers
  rw [maskFields_deepMerge, maskFields_deepMerge, Json.mask, Json.mask, henv]
  congr 1
  cases hfile with
  | none => exact hdefault
  | some hvalue =>
    dsimp only
    rw [maskFields_deepMerge, maskFields_deepMerge, hdefault, hvalue]

end Merge

section Schema

mutual

-- No secret is rewritten by the schema, or in a list that the schema goes through.
def Shape.fits (paths : Json.Paths) : Shape → Bool
  | .value => true
  | .reportUri => !paths []
  | .items _ => !paths []
  | .object shapes => fieldsFit paths shapes

def fieldsFit (paths : Json.Paths) : List (String × Shape) → Bool
  | [] => true
  | (name, shape) :: rest => shape.fits (paths.below (js name)) && fieldsFit paths rest

end

theorem configFields_fit : fieldsFit secret configFields = true := by
  decide

theorem parse_object_of_not_object (shapes : List (String × Shape)) {value : JsonValue}
    (h : value.isObject = false) : (Shape.object shapes).parse value = value := by
  cases value with
  | object fields => cases h
  | _ => rfl

variable (leaf : Json.LeafView Number)

theorem mask_of_public {paths : Json.Paths} {value : JsonValue}
    (hvalue : value.isObject = false) (hpaths : (!paths []) = true) :
    Json.mask leaf paths value = value := by
  have hopen : paths [] = false := by simpa using hpaths
  rw [Json.mask_of_not_object leaf paths hvalue, hopen, if_neg Bool.false_ne_true]

-- Texts and lists stay what they are at a path without a secret, and objects are let alone.
theorem mask_parse_public {paths : Json.Paths} {shape : Shape}
    (hobject : ∀ fields, shape.parse (.object fields) = .object fields)
    (hleaf : ∀ value, (shape.parse value).isObject = value.isObject)
    (hpaths : (!paths []) = true) (value : JsonValue) :
    Json.mask leaf paths (shape.parse value) = shape.parse (Json.mask leaf paths value) := by
  cases hvalue : value.isObject with
  | true =>
    cases value with
    | object fields => rw [hobject, Json.mask, hobject]
    | _ => cases hvalue
  | false =>
    have hparse : (shape.parse value).isObject = false := (hleaf value).trans hvalue
    rw [mask_of_public leaf hvalue hpaths, mask_of_public leaf hparse hpaths]

mutual

theorem mask_parse : ∀ (paths : Json.Paths) (shape : Shape) (value : JsonValue),
    shape.fits paths = true →
      Json.mask leaf paths (shape.parse value) = shape.parse (Json.mask leaf paths value)
  | _, .value, _, _ => rfl
  | paths, .reportUri, value, h =>
    mask_parse_public leaf (fun _ => rfl) (fun value => by cases value <;> rfl) h value
  | paths, .items _, value, h =>
    mask_parse_public leaf (fun _ => rfl) (fun value => by cases value <;> rfl) h value
  | paths, .object shapes, value, h => by
    cases hvalue : value.isObject with
    | true =>
      cases value with
      | object fields =>
        rw [Shape.parse, Json.mask, Json.mask, Shape.parse,
          maskFields_parseFields paths shapes fields h]
      | _ => cases hvalue
    | false =>
      rw [parse_object_of_not_object shapes hvalue, parse_object_of_not_object shapes]
      rw [Json.isObject_mask, hvalue]

theorem maskFields_parseFields : ∀ (paths : Json.Paths) (shapes : List (String × Shape))
    (fields : Fields), fieldsFit paths shapes = true →
      Json.maskFields leaf paths (parseFields fields shapes) =
        parseFields (Json.maskFields leaf paths fields) shapes
  | _, [], _, _ => rfl
  | paths, (name, shape) :: rest, fields, h => by
    rw [fieldsFit, Bool.and_eq_true] at h
    rw [parseFields, parseFields, Json.lookup_maskFields]
    cases Json.lookup (js name) fields with
    | none => exact maskFields_parseFields paths rest fields h.2
    | some value =>
      rw [Option.map_some]
      dsimp only
      rw [Json.maskFields, mask_parse (paths.below (js name)) shape value h.1,
        maskFields_parseFields paths rest fields h.2]

end

theorem maskFields_withAuthMethods (paths : Json.Paths) (config : Fields)
    (methods : List JsString) :
    Json.maskFields leaf paths (withAuthMethods config methods) =
      Json.setNested [js "ssh", js "allowedAuthMethods"]
        (Json.mask leaf (paths.after [js "ssh", js "allowedAuthMethods"]) (stringArray methods))
        (Json.maskFields leaf paths config) :=
  Json.maskFields_setNested leaf paths _ _ config

end Schema

section Lines

variable {host : LoadHost} {first second : JsonValue}

theorem algorithmsField_eq (h : SameButSecrets first second) :
    algorithmsField first = algorithmsField second := by
  have hssh : OpenSection "ssh" := by decide
  unfold algorithmsField
  rw [copied_eq h hssh]

variable {env other : Environment}

theorem startLines_eq (h : AlikeEnvironment host.env env other) :
    startLines host (resolveSessionSecretFromEnv env) =
      startLines host (resolveSessionSecretFromEnv other) := by
  unfold startLines
  rw [algorithmsField_eq (sameButSecrets_object.mpr (defaultConfig_eq h))]

theorem rawVariable_eq (h : AlikeEnvironment host.env env other) {name : String}
    (hname : name ∉ secretVariables ++ seedVariables) :
    rawVariable env name = rawVariable other name := by
  rw [List.mem_append, not_or] at hname
  rw [rawVariable, rawVariable, h.others name hname.1 hname.2]

theorem environmentLine_eq (h : AlikeEnvironment host.env env other) :
    environmentLine host env
        (withoutNullSessionSecret (mapEnvironmentVariables host.env env)) =
      environmentLine host other
        (withoutNullSessionSecret (mapEnvironmentVariables host.env other)) := by
  have hssh : OpenSection "ssh" := by decide
  unfold environmentLine
  rw [setting_eq (envConfig_eq h) hssh, rawVariable_eq h (by decide), rawVariable_eq h (by decide),
    rawVariable_eq h (by decide), rawVariable_eq h (by decide), rawVariable_eq h (by decide)]

theorem finalLine_eq (h : SameButSecrets first second) :
    finalLine host first = finalLine host second := by
  unfold finalLine
  rw [algorithmsField_eq h]

theorem loadedLines_eq {file other : ConfigFile} (hfile : AlikeFile file other)
    (h : SameButSecrets first second) :
    loadedLines host file first = loadedLines host other second := by
  have hexists : fileExists file = fileExists other := by
    cases hfile <;> rfl
  unfold loadedLines
  rw [maskSensitiveConfig_eq h, hexists]

theorem deprecationWarnings_eq (h : AlikeEnvironment host.env env other) :
    deprecationWarnings env = deprecationWarnings other := by
  have hnone : ∀ name ∈ seedVariables, normalizeSessionSecret (env name) = none ↔
      normalizeSessionSecret (other name) = none := by
    intro name hname
    rw [← Option.not_isSome_iff_eq_none, ← Option.not_isSome_iff_eq_none, h.seeds name hname]
  unfold deprecationWarnings
  exact if_congr (and_congr (hnone _ (by decide)) (not_congr (hnone _ (by decide)))) rfl rfl

theorem isSessionSecretGenerated_eq (h : AlikeEnvironment host.env env other)
    {file fileOther : Option JsonValue} (hfile : Option.Rel SameButSecrets file fileOther) :
    isSessionSecretGenerated (resolveSessionSecretFromEnv env) env file =
      isSessionSecretGenerated (resolveSessionSecretFromEnv other) other fileOther := by
  have hnone : ∀ {value value' : Option JsString}, value.isSome = value'.isSome →
      value.isNone = value'.isNone := by
    intro value value' hsome
    rw [← Option.not_isSome, ← Option.not_isSome, hsome]
  have hsecret : (file.bind (setting ["session", "secret"])).isNone =
      (fileOther.bind (setting ["session", "secret"])).isNone := by
    cases hfile with
    | none => rfl
    | some hvalue =>
      rw [Option.bind_some, Option.bind_some, Bool.eq_iff_iff, Option.isNone_iff_eq_none,
        Option.isNone_iff_eq_none]
      exact setting_eq_none_iff hvalue _
  unfold isSessionSecretGenerated
  rw [hnone (isSome_resolveSessionSecretFromEnv h), hnone (h.seeds _ (by decide)), hsecret]

end Lines

end WebSsh2.Config

import WebSsh2.Theming.StableThemes

namespace WebSsh2.Theming

open WebSsh2.Library

structure ThemeValidationWarning where
  source : JsString
  path : JsString
  reason : JsString

structure LoadAdditionalThemesResult where
  valid : List AdditionalTheme
  warnings : List ThemeValidationWarning

structure LoadAdditionalThemesOptions where
  source : JsString
  builtinNames : List JsString

section Loader

variable (runtime : ThemeRuntime) (options : LoadAdditionalThemesOptions)

def errorWarning (index : Nat) (err : ThemeValidationError) : ThemeValidationWarning where
  source := options.source
  path := js "[" ++ decimal index ++ js "]" ++ if err.path = [] then [] else js "." ++ err.path
  reason := err.reason

def duplicateWarning (index : Nat) : ThemeValidationWarning where
  source := options.source
  path := js "[" ++ decimal index ++ js "].name"
  reason := js "duplicate name within additionalThemes"

-- One turn of the loop.
def loadEntry (loaded : LoadAdditionalThemesResult) (entry : JsonValue × Nat) :
    LoadAdditionalThemesResult :=
  match validateTheme runtime entry.1 .additional options.builtinNames with
  | .ok theme =>
    let canonical := runtime.toLowerCase theme.name
    if loaded.valid.any fun t => runtime.toLowerCase t.name = canonical then
      { loaded with warnings := loaded.warnings ++ [duplicateWarning options entry.2] }
    else
      { loaded with valid := loaded.valid ++ [theme] }
  | .error errors =>
    { loaded with warnings := loaded.warnings ++ errors.map (errorWarning options entry.2) }

def loadAdditionalThemes (raw : List JsonValue) : LoadAdditionalThemesResult :=
  raw.zipIdx.foldl (loadEntry runtime options) { valid := [], warnings := [] }

-- What the loop has let in: themes of the validator, with names of their own.
structure Loaded (loaded : LoadAdditionalThemesResult) : Prop where
  accepted : ∀ theme ∈ loaded.valid, ∃ entry,
    validateTheme runtime entry .additional options.builtinNames = .ok theme
  distinct : (loaded.valid.map fun theme => runtime.toLowerCase theme.name).Nodup

-- Names that no two themes share, that are not reserved and that no builtin has.
structure NamesSound (valid : List AdditionalTheme) : Prop where
  distinct : (valid.map fun theme => canonicalizeThemeName runtime theme.name).Nodup
  unreserved : ∀ theme ∈ valid, isReservedThemeName runtime theme.name = false
  fresh : ∀ theme ∈ valid, ∀ builtin ∈ options.builtinNames,
    canonicalizeThemeName runtime theme.name ≠ canonicalizeThemeName runtime builtin

variable {runtime options}

theorem loaded_loadEntry {loaded : LoadAdditionalThemesResult} (entry : JsonValue × Nat)
    (h : Loaded runtime options loaded) :
    Loaded runtime options (loadEntry runtime options loaded entry) := by
  unfold loadEntry
  cases hentry : validateTheme runtime entry.1 .additional options.builtinNames with
  | error errors => exact ⟨h.accepted, h.distinct⟩
  | ok theme =>
    dsimp only
    split
    · exact ⟨h.accepted, h.distinct⟩
    · rename_i hfresh
      refine ⟨fun other hother => ?_, ?_⟩
      · rcases List.mem_append.mp hother with hold | hnew
        · exact h.accepted other hold
        · obtain rfl := List.mem_singleton.mp hnew
          exact ⟨entry.1, hentry⟩
      · rw [List.map_append, List.nodup_append]
        refine ⟨h.distinct, by simp, ?_⟩
        intro name hname other hother heq
        obtain ⟨old, hold, rfl⟩ := List.mem_map.mp hname
        rw [List.map_singleton, List.mem_singleton] at hother
        apply hfresh
        rw [List.any_eq_true]
        exact ⟨old, hold, decide_eq_true (heq.trans hother)⟩

theorem loaded_loadAdditionalThemes (raw : List JsonValue) :
    Loaded runtime options (loadAdditionalThemes runtime options raw) := by
  have hrun : ∀ (entries : List (JsonValue × Nat)) (loaded : LoadAdditionalThemesResult),
      Loaded runtime options loaded →
        Loaded runtime options (entries.foldl (loadEntry runtime options) loaded) := by
    intro entries
    induction entries with
    | nil => exact fun _ h => h
    | cons entry rest ih => exact fun loaded h => ih _ (loaded_loadEntry entry h)
  exact hrun _ _ ⟨fun theme hmem => absurd hmem List.not_mem_nil, List.nodup_nil⟩

-- The name of an accepted theme is canonical up to the letter case, and it was checked.
theorem name_of_accepted (hascii : KeepsAscii runtime) {entry : JsonValue} {theme : AdditionalTheme}
    (h : validateTheme runtime entry .additional options.builtinNames = .ok theme) :
    canonicalizeThemeName runtime theme.name = runtime.toLowerCase theme.name ∧
      isReservedThemeName runtime theme.name = false ∧
      collidesWithBuiltin runtime theme.name options.builtinNames = false := by
  cases entry with
  | object fields =>
    have hname := (validateTheme_ok_iff.mp h).name
    obtain ⟨raw, _, hvalid, hvalue, hadditional⟩ :=
      validateName_spec (congrArg FieldResult.errors hname)
    rw [hname] at hvalue
    change theme.name = _ at hvalue
    have hcanonical := canonical_again hascii hvalid
    have hnone := hadditional rfl
    rw [← hvalue] at hcanonical hnone
    refine ⟨by rw [canonicalizeThemeName, hcanonical], ?_⟩
    unfold collectAdditionalNameErrors at hnone
    split at hnone
    · cases hnone
    · rename_i hreserved
      split at hnone
      · cases hnone
      · rename_i hcollides
        exact ⟨by simpa using hreserved, by simpa using hcollides⟩
  | null | bool _ | number _ | string _ | array _ => cases h

theorem namesSound_loadAdditionalThemes (hascii : KeepsAscii runtime) (raw : List JsonValue) :
    NamesSound runtime options (loadAdditionalThemes runtime options raw).valid := by
  have hloaded := @loaded_loadAdditionalThemes runtime options raw
  have hnames : ∀ theme ∈ (loadAdditionalThemes runtime options raw).valid,
      canonicalizeThemeName runtime theme.name = runtime.toLowerCase theme.name ∧
        isReservedThemeName runtime theme.name = false ∧
        collidesWithBuiltin runtime theme.name options.builtinNames = false := by
    intro theme hmem
    obtain ⟨entry, hentry⟩ := hloaded.accepted theme hmem
    exact name_of_accepted hascii hentry
  refine ⟨?_, fun theme hmem => (hnames theme hmem).2.1, ?_⟩
  · rw [List.map_congr_left fun theme hmem => (hnames theme hmem).1]
    exact hloaded.distinct
  · intro theme hmem builtin hbuiltin heq
    have hcollides := (hnames theme hmem).2.2
    unfold collidesWithBuiltin at hcollides
    dsimp only at hcollides
    rw [List.any_eq_false] at hcollides
    exact hcollides builtin hbuiltin (decide_eq_true heq.symm)

end Loader

-- An accepted theme is stable exactly where its source keeps the limits as it is written
-- out; the names that are loaded are sound in any case.
theorem validatedThemes_iff {runtime : ThemeRuntime} (hascii : KeepsAscii runtime)
    (hurls : RereadsUrls runtime) :
    (∀ (input : JsonValue) (context : ThemeValidationContext) (builtinNames : List JsString)
      (theme : AdditionalTheme), validateTheme runtime input context builtinNames = .ok theme →
        (StableTheme runtime context builtinNames theme ↔ SourceFits runtime input)) ∧
      ∀ (options : LoadAdditionalThemesOptions) (raw : List JsonValue),
        NamesSound runtime options (loadAdditionalThemes runtime options raw).valid :=
  ⟨fun _ _ _ _ h => stableTheme_iff hascii hurls h,
    fun _ raw => namesSound_loadAdditionalThemes hascii raw⟩

-- Addresses that need no more than their spaces written out.
def spacesEncoded (text : JsString) : JsString :=
  text.flatMap fun unit => if unit = 32 then js "%20" else [unit]

def asciiThemeRuntime : ThemeRuntime where
  normalize := id
  toLowerCase := asciiRuntime.toLowerCase
  parseUrl text :=
    if (js "https://").isPrefixOf text then
      some { protocol := js "https:", href := spacesEncoded text }
    else
      none

theorem keepsAscii_asciiThemeRuntime : KeepsAscii asciiThemeRuntime := fun _ _ => rfl

theorem rereadsUrls_asciiThemeRuntime : RereadsUrls asciiThemeRuntime := by
  have htwice : ∀ text : JsString, spacesEncoded (spacesEncoded text) = spacesEncoded text := by
    intro text
    unfold spacesEncoded
    rw [List.flatMap_assoc]
    apply List.flatMap_congr
    intro unit _
    by_cases hspace : unit = 32
    · rw [if_pos hspace]
      rfl
    · simp [hspace]
  intro text url h
  unfold asciiThemeRuntime at h ⊢
  dsimp only at h ⊢
  split at h
  · rename_i hstart
    obtain rfl := Option.some.inj h
    obtain ⟨rest, rfl⟩ := List.isPrefixOf_iff_prefix.mp hstart
    have hencoded :
        spacesEncoded (js "https://" ++ rest) = js "https://" ++ spacesEncoded rest := by
      unfold spacesEncoded
      rw [List.flatMap_append]
      rfl
    have hagain : (js "https://").isPrefixOf (spacesEncoded (js "https://" ++ rest)) = true := by
      rw [hencoded]
      exact List.isPrefixOf_iff_prefix.mpr (List.prefix_append _ _)
    rw [if_pos hagain, htwice]
  · cases h

def sampleTheme (source : JsString) : JsonValue :=
  .object [(js "name", .string (js "Acme Dark")),
    (js "colors", .object [(js "background", .string (js "#101010"))]),
    (js "source", .string source)]

theorem validatedThemes_iff_sample :
    StableTheme asciiThemeRuntime .additional []
      { name := js "Acme Dark"
        colors := [(js "background", js "#101010")]
        license := none
        source := some (js "https://example.com/a") } := by
  refine ((validatedThemes_iff keepsAscii_asciiThemeRuntime rereadsUrls_asciiThemeRuntime).1
    (sampleTheme (js "https://example.com/a")) .additional [] _ (by decide +kernel)).mpr ?_
  intro source url hsource hurl
  obtain rfl := Json.string.inj (Option.some.inj hsource)
  obtain rfl := Option.some.inj hurl
  exact ⟨by decide, by decide⟩

def spacedSource : JsString :=
  js "https://example.com/" ++ List.replicate 80 32 ++ js "x"

set_option maxRecDepth 20000 in
-- Eighty spaces are three times as many units when they are written out.
theorem validatedThemes_not_stable :
    validateTheme asciiThemeRuntime (sampleTheme spacedSource) .additional [] = .ok
        { name := js "Acme Dark"
          colors := [(js "background", js "#101010")]
          license := none
          source := some (spacesEncoded spacedSource) } ∧
      ¬StableTheme asciiThemeRuntime .additional []
        { name := js "Acme Dark"
          colors := [(js "background", js "#101010")]
          license := none
          source := some (spacesEncoded spacedSource) } := by
  refine ⟨by decide +kernel, fun h => ?_⟩
  exact absurd (h.source _ rfl).1 (by decide)

end WebSsh2.Theming

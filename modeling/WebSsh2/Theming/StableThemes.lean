import WebSsh2.Decimal
import WebSsh2.Theming.ThemeValidator

namespace WebSsh2.Theming

open WebSsh2.Library WebSsh2.Prompt

section Blanks

theorem head_foldBlanks {text : JsString} (h : ∀ unit ∈ text.head?, isWhiteSpace unit = false) :
    (foldBlanks text).head? = text.head? := by
  cases text with
  | nil => rfl
  | cons unit rest =>
    rw [foldBlanks, h unit rfl]
    rfl

variable (text : JsString)

theorem foldBlanks_foldBlanks : foldBlanks (foldBlanks text) = foldBlanks text := by
  induction text with
  | nil => rfl
  | cons unit rest ih =>
    rw [foldBlanks]
    cases hblank : isWhiteSpace unit with
    | false =>
      have hunit :
          foldBlanks (unit :: foldBlanks rest) = unit :: foldBlanks (foldBlanks rest) := by
        rw [foldBlanks, hblank]
        rfl
      rw [if_neg Bool.false_ne_true, hunit, ih]
    | true =>
      rw [if_pos rfl]
      cases hnext : rest.head?.any isWhiteSpace with
      | true =>
        rw [if_pos rfl]
        exact ih
      | false =>
        -- the unit behind the run is ink, and stays in front
        have hhead : ∀ unit ∈ rest.head?, isWhiteSpace unit = false := by
          intro other hother
          rw [Option.mem_def.mp hother] at hnext
          exact hnext
        have hspace : isWhiteSpace 32 = true := by decide
        rw [if_neg Bool.false_ne_true, foldBlanks, if_pos hspace, head_foldBlanks hhead,
          hnext, if_neg Bool.false_ne_true, ih]

theorem last_foldBlanks {text : JsString}
    (h : ∀ unit ∈ text.getLast?, isWhiteSpace unit = false) :
    (foldBlanks text).getLast? = text.getLast? := by
  induction text with
  | nil => rfl
  | cons unit rest ih =>
    cases rest with
    | nil =>
      have hunit := h unit rfl
      rw [foldBlanks, hunit]
      rfl
    | cons next others =>
      have hlast : (unit :: next :: others).getLast? = (next :: others).getLast? :=
        List.getLast?_cons_cons
      rw [hlast] at h ⊢
      have hrest := ih h
      have hne : foldBlanks (next :: others) ≠ [] := by
        intro hnil
        rw [hnil, List.getLast?_nil, eq_comm, List.getLast?_eq_none_iff] at hrest
        cases hrest
      obtain ⟨first, tail, hfold⟩ := List.exists_cons_of_ne_nil hne
      rw [foldBlanks]
      split
      · split
        · exact hrest
        · rw [hfold, List.getLast?_cons_cons, ← hfold]
          exact hrest
      · rw [hfold, List.getLast?_cons_cons, ← hfold]
        exact hrest

theorem head_dropWhile_ink :
    ∀ unit ∈ (text.dropWhile isWhiteSpace).head?, isWhiteSpace unit = false := by
  intro unit hunit
  have hhead := List.head?_dropWhile_not isWhiteSpace text
  rw [Option.mem_def.mp hunit] at hhead
  exact hhead

theorem trim_trim : trim (trim text) = trim text := by
  apply trim_of_ends
  · -- what trimming the end leaves begins as the text did
    have hstart : trim text <+: text.dropWhile isWhiteSpace := by
      rw [← List.reverse_suffix]
      unfold trim
      rw [List.reverse_reverse]
      exact List.dropWhile_suffix isWhiteSpace
    intro unit hunit
    apply head_dropWhile_ink text unit
    obtain ⟨rest, hrest⟩ := hstart
    rw [← hrest, List.head?_append, Option.mem_def.mp hunit]
    rfl
  · unfold trim
    rw [List.reverse_reverse]
    exact head_dropWhile_ink _

-- A name that was folded is trimmed as well.
theorem trim_foldBlanks : trim (foldBlanks (trim text)) = foldBlanks (trim text) := by
  obtain ⟨hhead, hlast⟩ := ends_of_trim_eq (trim_trim text)
  have hlast' : ∀ unit ∈ (trim text).getLast?, isWhiteSpace unit = false := by
    intro unit hunit
    rw [← List.head?_reverse] at hunit
    exact hlast unit hunit
  apply trim_of_ends
  · rw [head_foldBlanks hhead]
    exact hhead
  · rw [List.head?_reverse, last_foldBlanks hlast']
    exact hlast'

end Blanks

section Lists

-- What a walk over keys has written down under a key.
theorem lookup_filterMap {ν : Type} (keys : List JsString) (value : JsString → Option JsString)
    (key : JsString) :
    Json.lookup (ν := ν) key ((keys.filterMap fun key => (value key).map (key, ·)).map
        fun entry => (entry.1, .string entry.2)) =
      if key ∈ keys then (value key).map .string else none := by
  induction keys with
  | nil => rfl
  | cons head rest ih =>
    cases hvalue : value head with
    | none =>
      rw [List.filterMap_cons_none (by rw [hvalue]; rfl), ih]
      by_cases hkey : key = head
      · subst hkey
        simp [hvalue]
      · simp [hkey]
    | some text =>
      rw [List.filterMap_cons_some (b := (head, text)) (by rw [hvalue]; rfl), List.map_cons,
        Json.lookup, ih]
      by_cases hkey : head = key
      · subst hkey
        simp [hvalue]
      · simp [hkey, Ne.symm hkey]

end Lists

section Fields

variable {runtime : ThemeRuntime}

-- Normalisation leaves text of ASCII alone.
def KeepsAscii (runtime : ThemeRuntime) : Prop :=
  ∀ text : JsString, (∀ unit ∈ text, unit < 128) → runtime.normalize text = text

-- An address that was written out is written out again as it is.
def RereadsUrls (runtime : ThemeRuntime) : Prop :=
  ∀ text url, runtime.parseUrl text = some url → runtime.parseUrl url.href = some url

theorem lt_of_isThemeNameUnit {unit : UInt16} (h : isThemeNameUnit unit = true) : unit < 128 := by
  have hsigns : ∀ unit ∈ js " .-()", unit < 128 := by decide
  have hlt : ∀ bound : UInt16, unit ≤ bound → bound < 128 → unit < 128 :=
    fun _ => UInt16.lt_of_le_of_lt
  simp only [isThemeNameUnit, isWordUnit, isLetter, isDigit, Bool.or_eq_true, Bool.and_eq_true,
    decide_eq_true_eq] at h
  rcases h with (((⟨_, hupper⟩ | ⟨_, hlower⟩) | ⟨_, hdigit⟩) | rfl) | hsign
  · exact hlt 90 hupper (by decide)
  · exact hlt 122 hlower (by decide)
  · exact hlt 57 hdigit (by decide)
  · decide
  · exact hsigns unit hsign

theorem normalize_isThemeName (hascii : KeepsAscii runtime) {name : JsString}
    (h : isThemeName name = true) : runtime.normalize name = name := by
  unfold isThemeName at h
  rw [Bool.and_eq_true, List.all_eq_true] at h
  exact hascii name fun unit hunit => lt_of_isThemeNameUnit (h.2 unit hunit)

-- An accepted name is its own canonical form, the letter case apart.
theorem canonical_again (hascii : KeepsAscii runtime) {raw : JsString}
    (h : isThemeName (foldBlanks (trim raw)) = true) :
    foldBlanks (trim (runtime.normalize (foldBlanks (trim raw)))) = foldBlanks (trim raw) := by
  rw [normalize_isThemeName hascii h, trim_foldBlanks, foldBlanks_foldBlanks]

theorem validateName_spec {rawName : Option JsonValue} {context : ThemeValidationContext}
    {builtinNames : List JsString}
    (h : (validateName runtime rawName context builtinNames).errors = []) :
    ∃ raw, rawName = some (.string raw) ∧
      isThemeName (foldBlanks (trim (runtime.normalize raw))) = true ∧
      (validateName runtime rawName context builtinNames).value =
        foldBlanks (trim (runtime.normalize raw)) ∧
      (context = .additional → collectAdditionalNameErrors runtime
        (foldBlanks (trim (runtime.normalize raw))) builtinNames = []) := by
  unfold validateName at h ⊢
  split at h
  · rename_i raw
    dsimp only at h ⊢
    refine ⟨raw, rfl, ?_⟩
    cases hname : isThemeName (foldBlanks (trim (runtime.normalize raw))) with
    | false =>
      rw [hname] at h
      cases h
    | true =>
      rw [hname] at h
      by_cases hcontext : context = .additional
      · simp only [hcontext] at h ⊢
        simpa using h
      · simp [hcontext]
  · cases h

theorem validateName_again (hascii : KeepsAscii runtime) {rawName : Option JsonValue}
    {context : ThemeValidationContext} {builtinNames : List JsString}
    (h : (validateName runtime rawName context builtinNames).errors = []) :
    validateName runtime
        (some (.string (validateName runtime rawName context builtinNames).value)) context
        builtinNames =
      { value := (validateName runtime rawName context builtinNames).value, errors := [] } := by
  obtain ⟨raw, _, hname, hvalue, hadditional⟩ := validateName_spec h
  rw [hvalue]
  unfold validateName
  dsimp only
  rw [canonical_again hascii hname, hname]
  by_cases hcontext : context = .additional
  · simp [hcontext, hadditional hcontext]
  · simp [hcontext]

theorem colorKeyError_eq_none {pathStart key : JsString} (h : key ∈ themeColorKeys) :
    colorKeyError pathStart key = none := by
  have hforbidden : ∀ key ∈ themeColorKeys, key ∉ forbiddenPrototypeKeys := by decide
  unfold colorKeyError
  rw [if_neg (hforbidden key h), if_neg (not_not.mpr h)]

def colorFields {ν : Type} (colors : List (JsString × JsString)) : List (JsString × Json ν) :=
  colors.map fun color => (color.1, .string color.2)

theorem isHexColor_of_colorOf {input : Fields} {key value : JsString}
    (h : colorOf input key = some value) : isHexColor value = true := by
  unfold colorOf at h
  split at h
  · split at h
    · rename_i hhex
      obtain rfl := Option.some.inj h
      exact hhex
    · cases h
  · cases h

-- The colours that were kept are read again as they are.
theorem colorOf_again (input : Fields) {key : JsString} (h : key ∈ themeColorKeys) :
    colorOf (colorFields
        (themeColorKeys.filterMap fun key => (colorOf input key).map (key, ·))) key =
        colorOf input key ∧
      ∀ pathStart, colorError (colorFields (themeColorKeys.filterMap fun key =>
        (colorOf input key).map (key, ·))) pathStart key = none := by
  have hlookup := lookup_filterMap (ν := Number) themeColorKeys (colorOf input) key
  rw [if_pos h] at hlookup
  have hsame : colorOf (colorFields (themeColorKeys.filterMap fun key =>
      (colorOf input key).map (key, ·))) key = colorOf input key := by
    unfold colorFields
    rw [colorOf, hlookup]
    cases hcolor : colorOf input key with
    | none => rfl
    | some value =>
      dsimp only [Option.map_some]
      rw [if_pos (isHexColor_of_colorOf hcolor)]
  refine ⟨hsame, fun pathStart => ?_⟩
  unfold colorError
  rw [hsame]
  unfold colorFields
  rw [hlookup]
  cases colorOf input key <;> rfl

theorem rebuildColors_again {input : Option JsonValue} {pathStart : JsString}
    (h : (rebuildColors input pathStart).errors = []) :
    rebuildColors (some (.object (colorFields (rebuildColors input pathStart).value))) pathStart =
        { value := (rebuildColors input pathStart).value, errors := [] } ∧
      ∀ color ∈ (rebuildColors input pathStart).value,
        color.1 ∈ themeColorKeys ∧ isHexColor color.2 = true := by
  unfold rebuildColors at h
  split at h
  · rename_i fields
    have hvalue : (rebuildColors (some (.object fields)) pathStart).value =
        themeColorKeys.filterMap fun key => (colorOf fields key).map (key, ·) := rfl
    have hmem : ∀ color ∈ themeColorKeys.filterMap fun key => (colorOf fields key).map (key, ·),
        color.1 ∈ themeColorKeys ∧ isHexColor color.2 = true := by
      intro color hcolor
      obtain ⟨key, hkey, hentry⟩ := List.mem_filterMap.mp hcolor
      obtain ⟨value, hread, rfl⟩ := Option.map_eq_some_iff.mp hentry
      exact ⟨hkey, isHexColor_of_colorOf hread⟩
    rw [hvalue]
    refine ⟨?_, hmem⟩
    have hkept : (themeColorKeys.filterMap fun key => (colorOf (colorFields
        (themeColorKeys.filterMap fun key => (colorOf fields key).map (key, ·))) key).map (key, ·)) =
        themeColorKeys.filterMap fun key => (colorOf fields key).map (key, ·) := by
      apply List.filterMap_congr
      intro key hkey
      rw [(colorOf_again fields hkey).1]
    have hkeys : collectColorKeyErrors (colorFields
        (themeColorKeys.filterMap fun key => (colorOf fields key).map (key, ·))) pathStart = [] := by
      apply List.filterMap_eq_nil_iff.mpr
      intro field hfield
      obtain ⟨color, hcolor, rfl⟩ := List.mem_map.mp hfield
      exact colorKeyError_eq_none (hmem color hcolor).1
    have hcolors : themeColorKeys.filterMap (colorError (colorFields
        (themeColorKeys.filterMap fun key => (colorOf fields key).map (key, ·))) pathStart) = [] := by
      apply List.filterMap_eq_nil_iff.mpr
      intro key hkey
      exact (colorOf_again fields hkey).2 pathStart
    unfold rebuildColors
    dsimp only
    rw [hkept, hkeys, hcolors]
    rfl
  · cases h

theorem validateLicense_again {input again : Fields} (h : (validateLicense input).errors = [])
    (hagain : Json.lookup (js "license") again =
      (validateLicense input).value.map .string) :
    validateLicense again = { value := (validateLicense input).value, errors := [] } := by
  unfold validateLicense at h
  split at h
  · rename_i hinput
    have hvalue : (validateLicense input).value = none := by
      unfold validateLicense
      rw [hinput]
    rw [hvalue] at hagain ⊢
    unfold validateLicense
    rw [hagain]
    rfl
  · rename_i license hinput
    split at h
    · cases h
    · rename_i hvalid
      split at h
      · cases h
      · rename_i hbait
        have hvalue : (validateLicense input).value = some license := by
          unfold validateLicense
          rw [hinput]
          dsimp only
          rw [if_neg hvalid, if_neg hbait]
        rw [hvalue] at hagain ⊢
        unfold validateLicense
        rw [hagain]
        dsimp only [Option.map_some]
        rw [if_neg hvalid, if_neg hbait]
  · cases h

-- A source that was accepted: none, or an https address by what it is written out as.
theorem validateSource_cases {input : Fields} (h : (validateSource runtime input).errors = []) :
    (Json.lookup (js "source") input = none ∧ (validateSource runtime input).value = none) ∨
      ∃ source url, Json.lookup (js "source") input = some (.string source) ∧
        runtime.parseUrl source = some url ∧ url.protocol = js "https:" ∧
        (validateSource runtime input).value = some url.href := by
  unfold validateSource at h ⊢
  cases hinput : Json.lookup (js "source") input with
  | none => exact .inl ⟨rfl, rfl⟩
  | some value =>
    right
    rw [hinput] at h
    cases value with
    | string source =>
      dsimp only at h ⊢
      split at h
      · cases h
      · rename_i hlength
        split at h
        · cases h
        · rename_i hbait
          rw [if_neg hlength, if_neg hbait]
          unfold validateSourceUrl at h ⊢
          cases hurl : runtime.parseUrl source with
          | none =>
            rw [hurl] at h
            cases h
          | some url =>
            rw [hurl] at h
            dsimp only at h ⊢
            split at h
            · rename_i hprotocol
              rw [if_pos hprotocol]
              exact ⟨source, url, rfl, hurl, hprotocol, rfl⟩
            · cases h
    | null | bool _ | number _ | array _ | object _ => cases h

-- An address as it is written out keeps the limits.
def HrefFits (href : JsString) : Prop :=
  href.length ≤ maxSourceLength ∧ scriptBait href = false

-- The condition on the input: what its source is written out as keeps the limits.
def SourceFits (runtime : ThemeRuntime) (input : JsonValue) : Prop :=
  ∀ source url, input.field (js "source") = some (.string source) →
    runtime.parseUrl source = some url → HrefFits url.href

theorem validateSource_again (hurls : RereadsUrls runtime) {source : JsString} {url : UrlRecord}
    {again : Fields} (hurl : runtime.parseUrl source = some url)
    (hprotocol : url.protocol = js "https:")
    (hagain : Json.lookup (js "source") again = some (.string url.href)) :
    validateSource runtime again = { value := some url.href, errors := [] } ↔
      HrefFits url.href := by
  unfold validateSource validateSourceUrl HrefFits
  rw [hagain]
  dsimp only
  rw [hurls source url hurl]
  dsimp only
  rw [if_pos hprotocol]
  by_cases hlength : maxSourceLength < url.href.length
  · simp [hlength]
  · have hle : url.href.length ≤ maxSourceLength := by omega
    cases hbait : scriptBait url.href with
    | true => simp [hlength]
    | false => simp [hlength, hle]

end Fields

section Themes

variable {runtime : ThemeRuntime} {context : ThemeValidationContext}
  {builtinNames : List JsString}

-- What was accepted: the fields, each without an error, and the size.
structure Accepted (runtime : ThemeRuntime) (fields : Fields) (context : ThemeValidationContext)
    (builtinNames : List JsString) (theme : AdditionalTheme) : Prop where
  noForbidden : collectForbiddenEntryKeyErrors fields = []
  name : validateName runtime (Json.lookup (js "name") fields) context builtinNames =
    { value := theme.name, errors := [] }
  colors : rebuildColors (Json.lookup (js "colors") fields) (js "colors") =
    { value := theme.colors, errors := [] }
  license : validateLicense fields = { value := theme.license, errors := [] }
  source : validateSource runtime fields = { value := theme.source, errors := [] }
  size : (serialized theme).length ≤ maxThemeBytes

theorem FieldResult.eq_of_errors {α : Type} {result : FieldResult α} (h : result.errors = []) :
    result = { value := result.value, errors := [] } := by
  cases result
  dsimp only at h
  rw [h]

theorem validateTheme_ok_iff {fields : Fields} {theme : AdditionalTheme} :
    validateTheme runtime (.object fields) context builtinNames = .ok theme ↔
      Accepted runtime fields context builtinNames theme := by
  unfold validateTheme
  dsimp only
  constructor
  · intro h
    split at h
    · cases h
    · rename_i herrors
      split at h
      · cases h
      · rename_i hsize
        rw [List.length_pos_iff, not_not] at herrors
        simp only [List.append_eq_nil_iff] at herrors
        obtain ⟨⟨⟨⟨hforbidden, hname⟩, hcolors⟩, hlicense⟩, hsource⟩ := herrors
        obtain rfl := Except.ok.inj h
        exact ⟨hforbidden, FieldResult.eq_of_errors hname, FieldResult.eq_of_errors hcolors,
          FieldResult.eq_of_errors hlicense, FieldResult.eq_of_errors hsource, by omega⟩
  · intro h
    have hsize := h.size
    rw [h.noForbidden, h.name, h.colors, h.license, h.source]
    simp only [List.append_nil, List.length_nil, Nat.lt_irrefl, if_false]
    rw [if_neg (Nat.not_lt.mpr hsize)]

-- The fields of a theme as an object.
def themeFields (theme : AdditionalTheme) : Fields :=
  [(js "name", .string theme.name), (js "colors", .object (colorFields theme.colors))] ++
    (theme.license.map fun license => (js "license", .string license)).toList ++
    (theme.source.map fun source => (js "source", .string source)).toList

theorem lookup_themeFields (theme : AdditionalTheme) :
    collectForbiddenEntryKeyErrors (themeFields theme) = [] ∧
      Json.lookup (js "name") (themeFields theme) = some (.string theme.name) ∧
      Json.lookup (js "colors") (themeFields theme) =
        some (.object (colorFields theme.colors)) ∧
      Json.lookup (js "license") (themeFields theme) = theme.license.map .string ∧
      Json.lookup (js "source") (themeFields theme) = theme.source.map .string := by
  rcases theme with ⟨name, colors, license, source⟩
  cases license with
  | none | some => cases source <;> exact ⟨rfl, rfl, rfl, rfl, rfl⟩

-- An accepted theme that goes through the validator again.
structure StableTheme (runtime : ThemeRuntime) (context : ThemeValidationContext)
    (builtinNames : List JsString) (theme : AdditionalTheme) : Prop where
  again : validateTheme runtime theme.toJson context builtinNames = .ok theme
  colors : ∀ color ∈ theme.colors, color.1 ∈ themeColorKeys ∧ isHexColor color.2 = true
  source : ∀ source ∈ theme.source, source.length ≤ maxSourceLength ∧
    ∃ url, runtime.parseUrl source = some url ∧ url.protocol = js "https:"
  size : (serialized theme).length ≤ maxThemeBytes

theorem stableTheme_iff (hascii : KeepsAscii runtime) (hurls : RereadsUrls runtime)
    {input : JsonValue} {theme : AdditionalTheme}
    (h : validateTheme runtime input context builtinNames = .ok theme) :
    StableTheme runtime context builtinNames theme ↔ SourceFits runtime input := by
  cases input with
  | object fields =>
    have haccepted := validateTheme_ok_iff.mp h
    obtain ⟨hforbidden, hname, hcolors, hlicense, hsource⟩ := lookup_themeFields theme
    have hnameAgain := validateName_again hascii (congrArg FieldResult.errors haccepted.name)
    have hcolorsAgain := rebuildColors_again (congrArg FieldResult.errors haccepted.colors)
    have hlicenseAgain : validateLicense (themeFields theme) =
        { value := (validateLicense fields).value, errors := [] } :=
      validateLicense_again (congrArg FieldResult.errors haccepted.license)
        (by rw [hlicense, haccepted.license])
    rw [haccepted.name] at hnameAgain
    rw [haccepted.colors] at hcolorsAgain
    rw [haccepted.license] at hlicenseAgain
    have hagain : validateTheme runtime theme.toJson context builtinNames = .ok theme ↔
        validateSource runtime (themeFields theme) =
          { value := theme.source, errors := [] } := by
      show validateTheme runtime (.object (themeFields theme)) context builtinNames = _ ↔ _
      rw [validateTheme_ok_iff]
      constructor
      · exact Accepted.source
      · intro hfield
        exact ⟨hforbidden, by rw [hname]; exact hnameAgain,
          by rw [hcolors]; exact hcolorsAgain.1, hlicenseAgain, hfield, haccepted.size⟩
    have hrest : validateTheme runtime theme.toJson context builtinNames = .ok theme →
        (∀ source ∈ theme.source, source.length ≤ maxSourceLength ∧
          ∃ url, runtime.parseUrl source = some url ∧ url.protocol = js "https:") →
        StableTheme runtime context builtinNames theme := fun hvalid hkept =>
      ⟨hvalid, hcolorsAgain.2, hkept, haccepted.size⟩
    have hvalue := congrArg FieldResult.value haccepted.source
    rcases validateSource_cases (congrArg FieldResult.errors haccepted.source) with
      ⟨hinput, hnone⟩ | ⟨source, url, hinput, hurl, hprotocol, hsome⟩
    · rw [hnone] at hvalue
      change none = theme.source at hvalue
      rw [← hvalue] at hsource hagain hrest
      constructor
      · intro _ source _ hfield
        rw [Json.field, hinput] at hfield
        cases hfield
      · intro _
        refine hrest (hagain.mpr ?_) (fun source hmem => by cases hmem)
        unfold validateSource
        rw [hsource]
        rfl
    · rw [hsome] at hvalue
      change some url.href = theme.source at hvalue
      rw [← hvalue] at hsource hagain hrest
      have hfits : SourceFits runtime (.object fields) ↔ HrefFits url.href := by
        constructor
        · exact fun hall => hall source url hinput hurl
        · intro hhref other record hfield hrecord
          rw [Json.field, hinput] at hfield
          obtain rfl : source = other := by simpa using hfield
          rw [hurl] at hrecord
          obtain rfl := Option.some.inj hrecord
          exact hhref
      rw [hfits]
      have hrevalid := hagain.trans (validateSource_again hurls hurl hprotocol hsource)
      constructor
      · exact fun hstable => hrevalid.mp hstable.again
      · intro hhref
        refine hrest (hrevalid.mpr hhref) ?_
        intro other hother
        obtain rfl := Option.some.inj (Option.mem_def.mp hother)
        exact ⟨hhref.1, url, hurls source url hurl, hprotocol⟩
  | null | bool _ | number _ | string _ | array _ => cases h

end Themes

end WebSsh2.Theming

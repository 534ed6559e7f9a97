import WebSsh2.Page.TempConfig

namespace WebSsh2.Page

open WebSsh2.Library WebSsh2.Auth WebSsh2.Auth.HeaderProcessor WebSsh2.Validation

section Reads

-- The values that a request is read for: those of a body go before those of a query.
def textRead (source : Source) : JsValue :=
  if hasOwn source "header.name" || hasOwn source "header.background" then
    property source "header.name"
  else property source "header"

def backgroundRead (source : Source) : JsValue :=
  if hasOwn source "header.name" || hasOwn source "header.background" then
    property source "header.background"
  else property source "headerBackground"

def requestText (source : Option Source) : Option JsString :=
  source.bind fun source => getNonEmptyString (textRead source)

def requestBackground (source : Option Source) : Option JsString :=
  source.bind fun source => getNonEmptyString (backgroundRead source)

-- What is kept of a text.
def keptText (text : JsString) : JsString :=
  (((characters text).take 100).filter isPrintable).flatten

theorem validateHeaderValue_eq (value : JsValue) :
    validateHeaderValue value = (getNonEmptyString value).map keptText := by
  cases value with
  | none => rfl
  | some value =>
    cases value with
    | string text =>
      rw [validateHeaderValue, getNonEmptyString, Auth.textOf]
      by_cases hempty : text = []
      · rw [if_pos hempty, hempty]
        rfl
      · rw [if_neg hempty, Option.filter_some, if_pos (decide_eq_true hempty)]
        rfl
    | _ => rfl

theorem property_of_not_own {source : Source} {key : String} (h : ¬ hasOwn source key = true) :
    property source key = none := by
  unfold hasOwn at h
  rw [Option.not_isSome_iff_eq_none] at h
  rw [property, h]
  rfl

theorem processHeaderParams_eq (source : Option Source) :
    processHeaderParams source =
      if requestText source = none ∧ requestBackground source = none then none
      else some { text := (requestText source).map keptText
                  background := (requestBackground source).map keptText } := by
  have hcreate : ∀ own : Source, createHeaderOverride ⟨textRead own, backgroundRead own⟩ =
      if requestText (some own) = none ∧ requestBackground (some own) = none then none
      else some { text := (requestText (some own)).map keptText
                  background := (requestBackground (some own)).map keptText } := by
    intro own
    unfold createHeaderOverride
    dsimp only
    rw [validateHeaderValue_eq, validateHeaderValue_eq]
    exact if_congr (and_congr Option.map_eq_none_iff Option.map_eq_none_iff) rfl rfl
  cases source with
  | none => rfl
  | some own =>
    rw [← hcreate]
    unfold processHeaderParams detectSourceType textRead backgroundRead
    dsimp only
    by_cases hpost : (hasOwn own "header.name" || hasOwn own "header.background") = true
    · simp only [if_pos hpost]
      rw [if_neg (by decide)]
      rfl
    · simp only [if_neg hpost]
      by_cases hget : (hasOwn own "header" || hasOwn own "headerBackground") = true
      · simp only [if_pos hget]
        rw [if_neg (by decide)]
        rfl
      · simp only [if_neg hget]
        rw [Bool.or_eq_true, not_or] at hget
        rw [if_pos trivial, property_of_not_own hget.1, property_of_not_own hget.2]
        rfl

end Reads

section Colors

variable (text : JsString)

def isPlainText : Bool :=
  text.all isColorUnit

-- Absent, or a text over the alphabet of colors, which may be empty.
def isPlain : JsValue → Bool
  | none => true
  | some .null => true
  | some (.string text) => isPlainText text
  | some _ => false

theorem isPlain_nonNull (value : JsValue) : isPlain (nonNull value) = isPlain value := by
  cases value with
  | none => rfl
  | some value =>
    cases value with
    | null => rfl
    | _ => rfl

-- Of the first hundred characters those that are no control characters are plain.
def KeepsPlain : Prop :=
  ∀ char ∈ (characters text).take 100, isPrintable char = true → isPlainText char = true

theorem isPlainText_keptText : isPlainText (keptText text) = true ↔ KeepsPlain text := by
  unfold isPlainText keptText KeepsPlain isPlainText
  simp only [List.all_eq_true, List.mem_flatten, List.mem_filter]
  constructor
  · intro h char hchar hprintable unit hunit
    exact h unit ⟨char, ⟨hchar, hprintable⟩, hunit⟩
  · rintro h unit ⟨char, ⟨hchar, hprintable⟩, hunit⟩
    exact h char hchar hprintable unit hunit

-- The check of the background finds nothing, whatever the background is.
theorem checkHeaderBackground_eq (config : JsonValue) (errors : List ConfigValidationError) :
    checkHeaderBackground config errors = errors := by
  unfold checkHeaderBackground
  dsimp only
  split <;> rfl

variable (runtime : Runtime)

-- The errors of all other checks.
def otherErrors (config : JsonValue) : List ConfigValidationError :=
  checkSessionSecret config
    (checkAuthConfiguration config
      (checkPort runtime ["listen", "port"] "listen.port" config
        (checkLocalPort runtime config
          (checkPort runtime ["ssh", "port"] "ssh.port" config (checkSshHost config [])))))

theorem businessErrors_eq_otherErrors (config : JsonValue) :
    businessErrors runtime config = otherErrors runtime config := by
  unfold businessErrors otherErrors
  rw [checkHeaderBackground_eq]

theorem validateBusinessRules_eq_ok_iff (config : JsonValue) :
    validateBusinessRules runtime config = .ok config ↔ otherErrors runtime config = [] := by
  rw [← businessErrors_eq_otherErrors]
  unfold validateBusinessRules
  by_cases h : businessErrors runtime config = []
  · rw [if_pos h]
    exact iff_of_true rfl h
  · rw [if_neg h]
    exact iff_of_false nofun h

end Colors

section Background

variable {source : Option Source} {session : HeaderSession} {config : JsonValue}

theorem isPlain_headerBackground (config : JsonValue) (session : HeaderSession) :
    isPlain (headerBackground config (some session)) = isPlain (orElse
      (session.headerOverride.bind HeaderOverride.background)
        (setting ["header", "background"] config)) := by
  rw [headerBackground, isPlain_nonNull]
  rfl

-- The backgrounds that a page may take its own from, besides that of the configuration.
def PlainOverride (source : Option Source) (session : HeaderSession) : Prop :=
  (∀ text ∈ requestBackground source, KeepsPlain text) ∧
    (requestText source = none → requestBackground source = none → hasAnyHeaderKey source = true →
      ∀ override ∈ session.headerOverride, ∀ text ∈ override.background, isPlainText text = true)

theorem override_of_request (h : ¬(requestText source = none ∧ requestBackground source = none)) :
    (processHeaderParameters source session).headerOverride.bind HeaderOverride.background =
      (requestBackground source).map keptText := by
  have hparams := processHeaderParams_eq source
  rw [if_neg h] at hparams
  rw [processHeaderParameters_some hparams]
  rfl

theorem override_of_no_request (htext : requestText source = none)
    (hbackground : requestBackground source = none) :
    (processHeaderParameters source session).headerOverride.bind HeaderOverride.background =
      if hasAnyHeaderKey source = true then
        session.headerOverride.bind HeaderOverride.background
      else none := by
  have hparams := processHeaderParams_eq source
  rw [if_pos ⟨htext, hbackground⟩] at hparams
  rw [processHeaderParameters_none hparams]
  split <;> rfl

theorem isPlain_orElse (override : Option JsString) {value : JsValue}
    (h : isPlain value = true) :
    isPlain (orElse override value) = true ↔ ∀ text ∈ override, isPlainText text = true := by
  cases override with
  | none => exact iff_of_true h nofun
  | some text =>
    constructor
    · intro hplain other hother
      rw [← Option.some.inj hother]
      exact hplain
    · exact fun hall => hall text rfl

theorem isPlain_requested_iff (h : isPlain (setting ["header", "background"] config) = true) :
    isPlain (headerBackground config (some (processHeaderParameters source session))) = true ↔
      PlainOverride source session := by
  rw [isPlain_headerBackground, isPlain_orElse _ h]
  by_cases hnone : requestText source = none ∧ requestBackground source = none
  · obtain ⟨htext, hbackground⟩ := hnone
    rw [override_of_no_request htext hbackground]
    unfold PlainOverride
    rw [hbackground]
    by_cases hkey : hasAnyHeaderKey source = true
    · rw [if_pos hkey]
      constructor
      · intro hplain
        refine ⟨nofun, fun _ _ _ override hoverride text htext => hplain text ?_⟩
        rw [hoverride]
        exact htext
      · intro hplain text hmem
        obtain ⟨override, hoverride, hbackground⟩ := Option.bind_eq_some_iff.mp hmem
        exact hplain.2 htext rfl hkey override hoverride text hbackground
    · rw [if_neg hkey]
      exact iff_of_true nofun ⟨nofun, fun _ _ hsome => absurd hsome hkey⟩
  · rw [override_of_request hnone]
    unfold PlainOverride
    constructor
    · intro hplain
      refine ⟨fun text htext => ?_, fun htext hbackground => absurd ⟨htext, hbackground⟩ hnone⟩
      apply (isPlainText_keptText text).mp
      apply hplain
      rw [htext]
      rfl
    · intro hplain kept hkept
      obtain ⟨text, htext, rfl⟩ := Option.map_eq_some_iff.mp hkept
      exact (isPlainText_keptText text).mpr (hplain.1 text htext)

-- A configuration is accepted without its background being plain, and a page shows the
-- background that it was requested with.
theorem buildTempConfig_background_iff (runtime : Runtime) (config : JsonValue)
    (request : PageRequest) (source : Option Source) (session : HeaderSession)
    (options : Http.ConnectionOptions) :
    (validateBusinessRules runtime config = .ok config →
      isPlain (setting ["header", "background"] config) = true ∧
      isPlain (setting ["header", "background"] (.object (buildTempConfig
        { request with session := some (processHeaderParameters source session) } config
          options))) = true) ↔
    (otherErrors runtime config = [] →
      isPlain (setting ["header", "background"] config) = true ∧ PlainOverride source session) := by
  rw [validateBusinessRules_eq_ok_iff, background_buildTempConfig]
  apply imp_congr_right
  intro _
  apply and_congr_right
  exact isPlain_requested_iff

-- The defaults with a background and a secret of 32 units.
def configWith (background : JsonValue) : JsonValue :=
  .object (Json.setNested [js "header", js "background"] background
    (Json.setNested [js "session", js "secret"]
      (Config.jsonText "0123456789abcdef0123456789abcdef") Config.defaultConfigBase))

def injected : JsString := js "red;top:0"

def injectedQuery : Source :=
  (OrderedMap.empty : Source).set (js "headerBackground") (some (.string injected))

def pageRequest (source : Option Source) : PageRequest where
  protocol := js "https"
  host := some (js "localhost")
  path := js "/"
  session := some (processHeaderParameters source {})

-- On both ways more than a color comes into the page.
theorem buildTempConfig_background_not_plain :
    (validateBusinessRules asciiRuntime (configWith (.string injected)) =
        .ok (configWith (.string injected)) ∧
      setting ["header", "background"] (.object (buildTempConfig (pageRequest none)
        (configWith (.string injected)) {})) = some (.string injected)) ∧
    (validateBusinessRules asciiRuntime (configWith .null) = .ok (configWith .null) ∧
      setting ["header", "background"] (.object (buildTempConfig (pageRequest (some injectedQuery))
        (configWith .null) {})) = some (.string injected)) ∧
    isPlain (some (.string injected)) = false := by
  rw [validateBusinessRules_eq_ok_iff, validateBusinessRules_eq_ok_iff, background_buildTempConfig,
    background_buildTempConfig]
  exact ⟨⟨by decide +kernel, by decide⟩, ⟨by decide +kernel, by decide⟩, by decide⟩

end Background

end WebSsh2.Page

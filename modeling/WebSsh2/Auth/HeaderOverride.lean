import WebSsh2.Auth.Session
import WebSsh2.Library.OrderedMap

namespace WebSsh2.Auth.HeaderProcessor

open WebSsh2.Library

section Source

-- A query or a body: its own properties, each of which may be `undefined`.
abbrev Source := OrderedMap JsString JsValue

def hasOwn (source : Source) (key : String) : Bool :=
  (source.get (js key)).isSome

def property (source : Source) (key : String) : JsValue :=
  (source.get (js key)).join

structure HeaderOverride where
  text : Option JsString := none
  background : Option JsString := none
deriving DecidableEq

structure HeaderValues where
  header : JsValue := none
  background : JsValue := none

inductive SourceType where
  | get | post | none
deriving DecidableEq

def detectSourceType (source : Option Source) : SourceType :=
  match source with
  | .none => .none
  | some source =>
    if hasOwn source "header.name" || hasOwn source "header.background" then .post
    else if hasOwn source "header" || hasOwn source "headerBackground" then .get
    else .none

end Source

section Values

-- `Array.from(value)`: a pair of surrogates is one character.
def characters : JsString → List JsString
  | [] => []
  | [unit] => [[unit]]
  | unit :: next :: rest =>
    if 0xd800 ≤ unit ∧ unit < 0xdc00 ∧ 0xdc00 ≤ next ∧ next < 0xe000 then
      [unit, next] :: characters rest
    else
      [unit] :: characters (next :: rest)

-- `char.codePointAt(0)`
def codePointAt : JsString → Option Nat
  | [] => none
  | [unit] => some unit.toNat
  | unit :: next :: _ =>
    some (0x10000 + (unit.toNat - 0xd800) * 0x400 + (next.toNat - 0xdc00))

def isPrintable (char : JsString) : Bool :=
  match codePointAt char with
  | none => false
  | some codePoint => 0x1f < codePoint && codePoint ≠ 0x7f

def validateHeaderValue (value : JsValue) : Option JsString :=
  match value with
  | some (.string text) =>
    if text = [] then none else some (((characters text).take 100).filter isPrintable).flatten
  | _ => none

def hasAnyHeaderKey (source : Option Source) : Bool :=
  match source with
  | none => false
  | some source =>
    if hasOwn source "header" || hasOwn source "headerBackground" ||
        hasOwn source "header.name" || hasOwn source "header.background" then true
    else hasOwn source "headerStyle" || hasOwn source "header.color"

def extractHeaderValues (source : Source) (sourceType : SourceType) : HeaderValues :=
  match sourceType with
  | .get => { header := property source "header", background := property source "headerBackground" }
  | .post =>
    { header := property source "header.name", background := property source "header.background" }
  | .none => {}

def createHeaderOverride (values : HeaderValues) : Option HeaderOverride :=
  let text := validateHeaderValue values.header
  let background := validateHeaderValue values.background
  if text = none ∧ background = none then none
  else some { text := text, background := background }

def processHeaderParams (source : Option Source) : Option HeaderOverride :=
  let sourceType := detectSourceType source
  if sourceType = .none then none
  else createHeaderOverride (extractHeaderValues (source.getD .empty) sourceType)

end Values

section Sessions

-- A session with what the pages show in their header.
structure HeaderSession extends AuthSession where
  headerOverride : Option HeaderOverride := none
deriving DecidableEq

variable (source : Option Source)

def processHeaderParameters (session : HeaderSession) : HeaderSession :=
  match processHeaderParams source with
  | some headerOverride => { session with headerOverride := some headerOverride }
  | none =>
    if session.headerOverride ≠ none ∧ hasAnyHeaderKey source = false then
      { session with headerOverride := none }
    else session

-- What a source carries, as it names its keys.
def Carries (keys : List String) : Prop :=
  ∃ own, source = some own ∧ ∃ key ∈ keys, hasOwn own key = true

def currentKeys : List String :=
  ["header", "headerBackground", "header.name", "header.background"]

def legacyKeys : List String :=
  ["headerStyle", "header.color"]

def LegacyOnly : Prop :=
  Carries source legacyKeys ∧ ¬Carries source currentKeys

-- Sessions that differ in the override alone are equal after the request.
def FromRequestAlone : Prop :=
  ∀ first second : HeaderSession, first.toAuthSession = second.toAuthSession →
    processHeaderParameters source first = processHeaderParameters source second

-- The values that are read: those of a body go before those of a query.
def valuesRead (source : Source) : List JsValue :=
  if hasOwn source "header.name" || hasOwn source "header.background" then
    [property source "header.name", property source "header.background"]
  else
    [property source "header", property source "headerBackground"]

def ReadsText : Prop :=
  ∃ own, source = some own ∧ ∃ value ∈ valuesRead own, getNonEmptyString value ≠ none

end Sessions

section Overrides

theorem validateHeaderValue_eq_none_iff (value : JsValue) :
    validateHeaderValue value = none ↔ getNonEmptyString value = none := by
  unfold validateHeaderValue getNonEmptyString textOf
  split
  · rename_i text
    by_cases hempty : text = []
    · simp [hempty]
    · simp [hempty]
  · simp

theorem createHeaderOverride_eq_none_iff (values : HeaderValues) :
    createHeaderOverride values = none ↔
      getNonEmptyString values.header = none ∧ getNonEmptyString values.background = none := by
  rw [← validateHeaderValue_eq_none_iff, ← validateHeaderValue_eq_none_iff]
  unfold createHeaderOverride
  dsimp only
  split
  · rename_i h
    exact ⟨fun _ => h, fun _ => rfl⟩
  · rename_i h
    exact ⟨fun hsome => (Option.some_ne_none _ hsome).elim, fun hnone => absurd hnone h⟩

theorem carries_some_iff (source : Source) (keys : List String) :
    Carries (some source) keys ↔ ∃ key ∈ keys, hasOwn source key = true := by
  constructor
  · rintro ⟨own, hown, h⟩
    rw [Option.some.inj hown]
    exact h
  · exact fun h => ⟨source, rfl, h⟩

theorem carries_currentKeys_iff (source : Source) :
    Carries (some source) currentKeys ↔
      (hasOwn source "header.name" || hasOwn source "header.background") = true ∨
        (hasOwn source "header" || hasOwn source "headerBackground") = true := by
  rw [carries_some_iff, currentKeys]
  simp only [List.mem_cons, List.not_mem_nil, or_false, exists_eq_or_imp, exists_eq_left]
  generalize hasOwn source "header" = header
  generalize hasOwn source "headerBackground" = headerBackground
  generalize hasOwn source "header.name" = name
  generalize hasOwn source "header.background" = background
  simp only [Bool.or_eq_true]
  tauto

theorem readsText_iff (source : Source) :
    ReadsText (some source) ↔
      ∃ value ∈ valuesRead source, getNonEmptyString value ≠ none := by
  constructor
  · rintro ⟨own, hown, h⟩
    rw [Option.some.inj hown]
    exact h
  · exact fun h => ⟨source, rfl, h⟩

variable (source : Option Source)

-- An override comes of a request with a key of today and with a text under it.
theorem processHeaderParams_eq_none_iff :
    processHeaderParams source = none ↔ ¬(Carries source currentKeys ∧ ReadsText source) := by
  cases source with
  | none =>
    refine ⟨fun _ => ?_, fun _ => rfl⟩
    rintro ⟨⟨own, hown, _⟩, _⟩
    cases hown
  | some source =>
    rw [carries_currentKeys_iff, readsText_iff]
    unfold processHeaderParams detectSourceType valuesRead
    dsimp only
    by_cases hpost : (hasOwn source "header.name" || hasOwn source "header.background") = true
    · rw [if_pos hpost, if_pos hpost, if_neg (by decide), createHeaderOverride_eq_none_iff]
      simp [hpost, extractHeaderValues]
    · rw [if_neg hpost, if_neg hpost]
      by_cases hget : (hasOwn source "header" || hasOwn source "headerBackground") = true
      · rw [if_pos hget, if_neg (by decide), createHeaderOverride_eq_none_iff]
        simp [hget, extractHeaderValues]
      · rw [if_neg hget, if_pos rfl]
        simp [hpost, hget]

theorem hasAnyHeaderKey_iff :
    hasAnyHeaderKey source = true ↔ Carries source currentKeys ∨ Carries source legacyKeys := by
  cases source with
  | none =>
    constructor
    · intro h
      cases h
    · rintro (⟨own, hown, _⟩ | ⟨own, hown, _⟩)
      · cases hown
      · cases hown
  | some source =>
    rw [carries_some_iff, carries_some_iff, hasAnyHeaderKey, currentKeys, legacyKeys]
    simp only [List.mem_cons, List.not_mem_nil, or_false, exists_eq_or_imp, exists_eq_left]
    generalize hasOwn source "header" = header
    generalize hasOwn source "headerBackground" = headerBackground
    generalize hasOwn source "header.name" = name
    generalize hasOwn source "header.background" = background
    generalize hasOwn source "headerStyle" = style
    generalize hasOwn source "header.color" = color
    cases header <;> cases headerBackground <;> cases name <;> cases background <;> simp

theorem processHeaderParameters_some {source : Option Source} {override : HeaderOverride}
    (h : processHeaderParams source = some override) (session : HeaderSession) :
    processHeaderParameters source session = { session with headerOverride := some override } := by
  rw [processHeaderParameters, h]

-- A request without an override: the session loses its own, or is left as it is where the
-- request names a key of the header.
theorem processHeaderParameters_none {source : Option Source}
    (h : processHeaderParams source = none) (session : HeaderSession) :
    processHeaderParameters source session =
      if hasAnyHeaderKey source = true then session
      else { session with headerOverride := none } := by
  rw [processHeaderParameters, h]
  dsimp only
  by_cases hkey : hasAnyHeaderKey source = true
  · rw [if_neg (fun hclear => by rw [hkey] at hclear; cases hclear.2), if_pos hkey]
  · rw [if_neg hkey]
    have hfree : hasAnyHeaderKey source = false := by simpa using hkey
    by_cases hstale : session.headerOverride = none
    · rw [if_neg (fun hclear => hclear.1 hstale), ← hstale]
    · rw [if_pos ⟨hstale, hfree⟩]

theorem fromRequestAlone_iff :
    FromRequestAlone source ↔
      processHeaderParams source ≠ none ∨ hasAnyHeaderKey source = false := by
  constructor
  · intro h
    by_contra hneither
    rw [not_or, not_not] at hneither
    obtain ⟨hnone, hkey⟩ := hneither
    have hequal := h { headerOverride := none } { headerOverride := some {} } rfl
    rw [processHeaderParameters_none hnone, processHeaderParameters_none hnone,
      if_pos (by simpa using hkey), if_pos (by simpa using hkey)] at hequal
    cases congrArg HeaderSession.headerOverride hequal
  · rintro h ⟨first, firstOverride⟩ ⟨second, secondOverride⟩ hsame
    dsimp only at hsame
    subst hsame
    cases hparams : processHeaderParams source with
    | some override =>
      rw [processHeaderParameters_some hparams, processHeaderParameters_some hparams]
    | none =>
      rw [hparams] at h
      have hfree : hasAnyHeaderKey source = false := h.resolve_left (fun hne => hne rfl)
      rw [processHeaderParameters_none hparams, processHeaderParameters_none hparams, hfree]
      rfl

-- Only legacy keys apart, the override comes from the request alone exactly when a request
-- with a key of today has a text under one of those that are read.
theorem processHeaderParameters_iff (source : Option Source) :
    (¬LegacyOnly source → FromRequestAlone source) ↔
      (Carries source currentKeys → ReadsText source) := by
  rw [fromRequestAlone_iff, Ne, processHeaderParams_eq_none_iff, ← Bool.not_eq_true,
    hasAnyHeaderKey_iff, LegacyOnly]
  tauto

-- A query with an empty title.
def emptyTitle : Source :=
  (OrderedMap.empty : Source).set (js "header") (some (.string []))

-- It keeps the title that an earlier request has set.
theorem processHeaderParameters_not_empty :
    ¬∀ source : Option Source, ¬LegacyOnly source → FromRequestAlone source := by
  intro hall
  have hcurrent : ¬LegacyOnly (some emptyTitle) := fun hlegacy =>
    hlegacy.2 ⟨emptyTitle, rfl, "header", by decide, by decide⟩
  have hequal := hall (some emptyTitle) hcurrent {}
    { headerOverride := some { text := some (js "maintenance") } } rfl
  have hkept : processHeaderParameters (some emptyTitle)
      { headerOverride := some { text := some (js "maintenance") } } ≠
        processHeaderParameters (some emptyTitle) {} := by
    decide
  exact hkept hequal.symm

end Overrides

end WebSsh2.Auth.HeaderProcessor

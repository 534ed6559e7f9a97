import WebSsh2.Decimal
import WebSsh2.Library.Directives

namespace WebSsh2.Security.ContentSecurityPolicy

open WebSsh2.Library WebSsh2.Library.Directives

inductive CspMode where
  | off | reportOnly | enforce
deriving DecidableEq

structure CspConfig where
  mode : CspMode
  reportUri : JsString
  connectSrc : List JsString
  frameAncestors : List JsString

structure HttpConfig where
  origins : List JsString

structure Config where
  http : HttpConfig
  csp : CspConfig

structure ConnectSrcResult where
  sources : List JsString
  wildcard : Bool
deriving DecidableEq

section ConnectSrc

def isHostUnit (unit : UInt16) : Bool :=
  (65 ≤ unit && unit ≤ 90) || (97 ≤ unit && unit ≤ 122) || isDigit unit ||
    unit ∈ ([46, 45, 58, 91, 93] : List UInt16)

variable (origin : JsString)

-- `HOST_TOKEN_RE.test(origin)`
def isHostToken : Bool :=
  origin ≠ [] && origin.all isHostUnit

def allowedSchemes : List JsString :=
  [js "http://", js "https://", js "ws://", js "wss://"]

def isWildcard : Bool :=
  includes (js "*") origin

def hasScheme : Bool :=
  includes (js "://") origin

-- No code point beyond the first plane is one, so that units do for code points.
def hasControlChars (value : JsString) : Bool :=
  value.any fun unit => unit ≤ 0x1f || unit = 0x7f

def isAllowedSchemeOrigin (runtime : Runtime) (origin : JsString) : Bool :=
  if hasControlChars origin then false
  else
    let lower := runtime.toLowerCase origin
    allowedSchemes.any fun scheme => scheme.isPrefixOf lower

def expandHostToken (token : JsString) (secure : Bool) : List JsString :=
  let out := [js "https://" ++ token, js "wss://" ++ token]
  if secure then out else out ++ [js "http://" ++ token, js "ws://" ++ token]

-- One pass of the loop over the origins.
def addOrigin (runtime : Runtime) (secure : Bool) (result : ConnectSrcResult)
    (origin : JsString) : ConnectSrcResult :=
  if trim origin = [] then result
  else if isWildcard origin then { result with wildcard := true }
  else if hasScheme origin then
    if isAllowedSchemeOrigin runtime origin then
      { result with sources := result.sources ++ [origin] }
    else result
  else if isHostToken origin then
    { result with sources := result.sources ++ expandHostToken origin secure }
  else result

def addExtra (result : ConnectSrcResult) (extra : JsString) : ConnectSrcResult :=
  if trim extra = [] then result
  else { result with sources := result.sources ++ [trim extra] }

def deriveConnectSrc (runtime : Runtime) (corsOrigins extras : List JsString) (secure : Bool) :
    ConnectSrcResult :=
  let derived := corsOrigins.foldl (addOrigin runtime secure) ⟨[js "'self'"], false⟩
  let extended := extras.foldl addExtra derived
  { extended with sources := extended.sources.eraseDups }

end ConnectSrc

section Headers

def normalizeAncestor (value : JsString) : JsString :=
  if value = js "none" ∨ value = js "self" then js "'" ++ value ++ js "'" else value

-- The entries of the record in the order in which they are added.
def buildCspDirectives (runtime : Runtime) (config : Config) (secure : Bool) :
    List (JsString × List JsString) :=
  let csp := config.csp
  let connect := deriveConnectSrc runtime config.http.origins csp.connectSrc secure
  let frameAncestors := if 0 < csp.frameAncestors.length then csp.frameAncestors else [js "none"]
  let directives :=
    [(js "default-src", [js "'self'"]),
      (js "script-src", [js "'self'"]),
      (js "style-src", [js "'self'", js "'unsafe-inline'"]),
      (js "img-src", [js "'self'", js "data:"]),
      (js "font-src", [js "'self'"]),
      (js "connect-src", connect.sources),
      (js "object-src", [js "'none'"]),
      (js "base-uri", [js "'none'"]),
      (js "frame-ancestors", frameAncestors.map normalizeAncestor),
      (js "form-action", [js "'self'"])]
  if csp.mode ≠ .off then
    directives ++ [(js "report-uri", [csp.reportUri]), (js "report-to", [js "csp-endpoint"])]
  else directives

def cspHeaderValue (directives : List (JsString × List JsString)) : JsString :=
  (js "; ").intercalate (directives.map fun (d, v) =>
    if 0 < v.length then d ++ js " " ++ (js " ").intercalate v else d)

end Headers

section Reading

-- The grammar by which a browser reads the header.
def cspGrammar : Grammar UInt16 where
  blank unit := unit ∈ ([9, 10, 12, 13, 32] : List UInt16)
  space := 32
  stop := 59
  blank_space := by decide
  blank_stop := by decide

def IsToken (text : JsString) : Prop :=
  text ≠ [] ∧ ∀ unit ∈ text, isWhiteSpace unit = false ∧ unit ≠ 59 ∧ unit ≠ 44

instance (text : JsString) : Decidable (IsToken text) :=
  inferInstanceAs (Decidable (text ≠ [] ∧
    ∀ unit ∈ text, isWhiteSpace unit = false ∧ unit ≠ 59 ∧ unit ≠ 44))

def IsSourceExpression (text : JsString) : Prop :=
  IsToken text ∧ 42 ∉ text

instance (text : JsString) : Decidable (IsSourceExpression text) :=
  inferInstanceAs (Decidable (IsToken text ∧ 42 ∉ text))

-- What the operator writes into the policy.
structure OperatorTokens (csp : CspConfig) : Prop where
  connectSrc : ∀ extra ∈ csp.connectSrc, IsToken extra
  frameAncestors : ∀ ancestor ∈ csp.frameAncestors, IsToken ancestor
  reportUri : IsToken csp.reportUri

-- The sources that come from the origins are single ones, and the header says what the
-- directives say.
structure DerivedSafely (runtime : Runtime) (config : Config) (secure : Bool) : Prop where
  single : ∀ source ∈ (deriveConnectSrc runtime config.http.origins [] secure).sources,
    IsSourceExpression source
  readBack : cspGrammar.parse (cspHeaderValue (buildCspDirectives runtime config secure)) =
    buildCspDirectives runtime config secure
  script : (cspGrammar.parse (cspHeaderValue (buildCspDirectives runtime config secure))).filter
    (fun directive => decide (directive.1 = js "script-src")) =
      [(js "script-src", [js "'self'"])]

-- The origin is taken over as it is written.
def PassedVerbatim (runtime : Runtime) (origin : JsString) : Prop :=
  trim origin ≠ [] ∧ isWildcard origin = false ∧ hasScheme origin = true ∧
    isAllowedSchemeOrigin runtime origin = true

end Reading

section Sources

variable {runtime : Runtime} {secure : Bool}

-- What one origin adds to the sources.
def originSources (runtime : Runtime) (secure : Bool) (origin : JsString) : List JsString :=
  (addOrigin runtime secure ⟨[], false⟩ origin).sources

theorem addOrigin_sources (result : ConnectSrcResult) (origin : JsString) :
    (addOrigin runtime secure result origin).sources =
      result.sources ++ originSources runtime secure origin := by
  unfold originSources addOrigin
  split
  · simp
  split
  · simp
  split
  · split <;> simp
  split <;> simp

theorem foldl_addOrigin_sources (origins : List JsString) (result : ConnectSrcResult) :
    (origins.foldl (addOrigin runtime secure) result).sources =
      result.sources ++ origins.flatMap (originSources runtime secure) := by
  induction origins generalizing result with
  | nil => simp
  | cons origin rest ih =>
    rw [List.foldl_cons, ih, addOrigin_sources, List.flatMap_cons, List.append_assoc]

theorem foldl_addExtra_sources (extras : List JsString) (result : ConnectSrcResult) :
    (extras.foldl addExtra result).sources =
      result.sources ++ (extras.map trim).filter (fun extra => decide (extra ≠ [])) := by
  induction extras generalizing result with
  | nil => simp
  | cons extra rest ih =>
    rw [List.foldl_cons, ih, addExtra, List.map_cons]
    by_cases hblank : trim extra = []
    · rw [if_pos hblank, List.filter_cons_of_neg (by simp [hblank])]
    · rw [if_neg hblank, List.filter_cons_of_pos (by simp [hblank])]
      simp

theorem mem_deriveConnectSrc_iff (origins extras : List JsString) (source : JsString) :
    source ∈ (deriveConnectSrc runtime origins extras secure).sources ↔
      source = js "'self'" ∨ (∃ origin ∈ origins, source ∈ originSources runtime secure origin) ∨
        ∃ extra ∈ extras, trim extra ≠ [] ∧ source = trim extra := by
  unfold deriveConnectSrc
  dsimp only
  rw [List.mem_eraseDups, foldl_addExtra_sources, foldl_addOrigin_sources, List.mem_append,
    List.mem_append, List.mem_singleton, List.mem_flatMap, or_assoc]
  have hextras : source ∈ (extras.map trim).filter (fun extra => decide (extra ≠ [])) ↔
      ∃ extra ∈ extras, trim extra ≠ [] ∧ source = trim extra := by
    constructor
    · intro h
      obtain ⟨hmem, hne⟩ := List.mem_filter.mp h
      obtain ⟨extra, hextra, rfl⟩ := List.mem_map.mp hmem
      exact ⟨extra, hextra, of_decide_eq_true hne, rfl⟩
    · rintro ⟨extra, hextra, hne, rfl⟩
      exact List.mem_filter.mpr ⟨List.mem_map_of_mem hextra, decide_eq_true hne⟩
  rw [hextras]

theorem isWildcard_iff (origin : JsString) : isWildcard origin = true ↔ 42 ∈ origin := by
  rw [isWildcard, includes, Text.cut_isSome_iff]
  exact List.singleton_infix_iff 42 origin

theorem isSourceExpression_append {first second : JsString} (hfirst : IsSourceExpression first)
    (hsecond : ∀ unit ∈ second, isHostUnit unit = true) :
    IsSourceExpression (first ++ second) := by
  have hunit : ∀ unit, isHostUnit unit = true →
      (isWhiteSpace unit = false ∧ unit ≠ 59 ∧ unit ≠ 44) ∧ unit ≠ 42 := by
    intro unit h
    have hrange : 45 ≤ unit.toNat ∧ unit.toNat ≤ 122 ∧ unit.toNat ≠ 59 := by
      simp [isHostUnit, isDigit, UInt16.le_iff_toNat_le, ← UInt16.toNat_inj] at h
      omega
    refine ⟨⟨isWhiteSpace_of_printable (by omega), ?_⟩, ?_⟩
    · simp only [ne_eq, ← UInt16.toNat_inj]
      show unit.toNat ≠ 59 ∧ unit.toNat ≠ 44
      omega
    · rintro rfl
      simp at hrange
  obtain ⟨⟨hne, htoken⟩, hwild⟩ := hfirst
  refine ⟨⟨List.append_ne_nil_of_left_ne_nil hne second, fun unit hmem => ?_⟩, ?_⟩
  · rcases List.mem_append.mp hmem with h | h
    · exact htoken unit h
    · exact (hunit unit (hsecond unit h)).1
  · intro hmem
    rcases List.mem_append.mp hmem with h | h
    · exact hwild h
    · exact (hunit 42 (hsecond 42 h)).2 rfl

theorem isSourceExpression_expandHostToken {token source : JsString}
    (htoken : isHostToken token = true) (h : source ∈ expandHostToken token secure) :
    IsSourceExpression source := by
  have hunits : ∀ unit ∈ token, isHostUnit unit = true := by
    rw [isHostToken, Bool.and_eq_true, List.all_eq_true] at htoken
    exact htoken.2
  have hscheme : ∀ scheme ∈ allowedSchemes, IsSourceExpression scheme := by
    decide
  have hsource : ∃ scheme ∈ allowedSchemes, source = scheme ++ token := by
    unfold expandHostToken at h
    cases secure with
    | true =>
      simp only [if_true, List.mem_cons, List.not_mem_nil, or_false] at h
      rcases h with rfl | rfl
      · exact ⟨js "https://", by decide, rfl⟩
      · exact ⟨js "wss://", by decide, rfl⟩
    | false =>
      simp only [Bool.false_eq_true, if_false, List.cons_append, List.nil_append,
        List.mem_cons, List.not_mem_nil, or_false] at h
      rcases h with rfl | rfl | rfl | rfl
      · exact ⟨js "https://", by decide, rfl⟩
      · exact ⟨js "wss://", by decide, rfl⟩
      · exact ⟨js "http://", by decide, rfl⟩
      · exact ⟨js "ws://", by decide, rfl⟩
  obtain ⟨scheme, hmem, rfl⟩ := hsource
  exact isSourceExpression_append (hscheme scheme hmem) hunits

theorem mem_originSources {origin source : JsString}
    (h : source ∈ originSources runtime secure origin) :
    PassedVerbatim runtime origin ∧ source = origin ∨ IsSourceExpression source := by
  unfold originSources addOrigin at h
  by_cases hblank : trim origin = []
  · simp [hblank] at h
  rw [if_neg hblank] at h
  by_cases hwild : isWildcard origin = true
  · simp [hwild] at h
  rw [if_neg hwild] at h
  by_cases hscheme : hasScheme origin = true
  · rw [if_pos hscheme] at h
    by_cases hallowed : isAllowedSchemeOrigin runtime origin = true
    · rw [if_pos hallowed] at h
      exact .inl ⟨⟨hblank, by simpa using hwild, hscheme, hallowed⟩, by simpa using h⟩
    · simp [hallowed] at h
  · rw [if_neg hscheme] at h
    by_cases htoken : isHostToken origin = true
    · rw [if_pos htoken] at h
      exact .inr (isSourceExpression_expandHostToken htoken (by simpa using h))
    · simp [htoken] at h

theorem originSources_of_verbatim {origin : JsString} (h : PassedVerbatim runtime origin) :
    originSources runtime secure origin = [origin] := by
  obtain ⟨hblank, hwild, hscheme, hallowed⟩ := h
  unfold originSources addOrigin
  rw [if_neg hblank, hwild, if_neg Bool.false_ne_true, if_pos hscheme, if_pos hallowed]
  rfl

-- The sources of the origins are source expressions exactly when those taken over are.
theorem derived_single_iff (origins : List JsString) :
    (∀ source ∈ (deriveConnectSrc runtime origins [] secure).sources, IsSourceExpression source) ↔
      ∀ origin ∈ origins, PassedVerbatim runtime origin →
        ∀ unit ∈ origin, isWhiteSpace unit = false ∧ unit ≠ 59 ∧ unit ≠ 44 := by
  constructor
  · intro h origin hmem hverbatim
    have hsource : origin ∈ (deriveConnectSrc runtime origins [] secure).sources := by
      refine (mem_deriveConnectSrc_iff origins [] origin).mpr (.inr (.inl ⟨origin, hmem, ?_⟩))
      rw [originSources_of_verbatim hverbatim]
      exact List.mem_singleton_self origin
    exact (h origin hsource).1.2
  · intro h source hsource
    rcases (mem_deriveConnectSrc_iff origins [] source).mp hsource with
      rfl | ⟨origin, hmem, hin⟩ | ⟨extra, hextra, _⟩
    · decide
    · rcases mem_originSources hin with ⟨hverbatim, rfl⟩ | hexpression
      · have hne : source ≠ [] := by
          rintro rfl
          exact hverbatim.1 rfl
        have hwild : 42 ∉ source := by
          rw [← isWildcard_iff, hverbatim.2.1]
          exact Bool.false_ne_true
        exact ⟨⟨hne, h source hmem hverbatim⟩, hwild⟩
      · exact hexpression
    · cases hextra

end Sources

section Policy

variable {runtime : Runtime} {config : Config} {secure : Bool}

theorem isToken_trim {text : JsString} (h : IsToken text) (hne : trim text ≠ []) :
    IsToken (trim text) := by
  refine ⟨hne, fun unit hmem => h.2 unit ?_⟩
  have hback := (List.dropWhile_suffix isWhiteSpace).mem (List.mem_reverse.mp hmem)
  exact (List.dropWhile_suffix isWhiteSpace).mem (List.mem_reverse.mp hback)

theorem isToken_normalizeAncestor {value : JsString} (h : IsToken value) :
    IsToken (normalizeAncestor value) := by
  unfold normalizeAncestor
  split
  · rename_i hquoted
    rcases hquoted with rfl | rfl
    · decide
    · decide
  · exact h

theorem IsToken.isWord {text : JsString} (h : IsToken text) : cspGrammar.IsWord text := by
  refine ⟨h.1, fun unit hmem => ?_⟩
  obtain ⟨hink, hstop, _⟩ := h.2 unit hmem
  refine ⟨?_, hstop⟩
  rw [Bool.eq_false_iff]
  intro hblank
  have hspace : ∀ blank ∈ ([9, 10, 12, 13, 32] : List UInt16), isWhiteSpace blank = true := by
    decide
  rw [hspace unit (of_decide_eq_true hblank)] at hink
  cases hink

theorem cspHeaderValue_eq_serialize (directives : List (JsString × List JsString)) :
    cspHeaderValue directives = cspGrammar.serialize directives := by
  have hrender : ∀ directive : JsString × List JsString,
      (if 0 < directive.2.length then
        directive.1 ++ js " " ++ (js " ").intercalate directive.2 else directive.1) =
        cspGrammar.render directive := by
    intro directive
    by_cases hvalues : directive.2 = []
    · rw [if_neg (by simp [hvalues]), Grammar.render, hvalues, List.intercalate_singleton]
    · rw [if_pos (List.length_pos_of_ne_nil hvalues), Grammar.render,
        List.intercalate_cons_of_ne_nil hvalues]
      rfl
  have hmap := List.map_congr_left fun directive (_ : directive ∈ directives) => hrender directive
  unfold cspHeaderValue Grammar.serialize
  rw [← hmap]
  rfl

-- The name and the values of the directive are tokens.
def SpelledInTokens (directive : JsString × List JsString) : Prop :=
  ∀ word ∈ directive.1 :: directive.2, IsToken word

instance (directive : JsString × List JsString) : Decidable (SpelledInTokens directive) :=
  inferInstanceAs (Decidable (∀ word ∈ directive.1 :: directive.2, IsToken word))

theorem spelledInTokens_iff (name : JsString) (values : List JsString) :
    SpelledInTokens (name, values) ↔ IsToken name ∧ ∀ value ∈ values, IsToken value :=
  List.forall_mem_cons

theorem spelledInTokens_connectSrc (hop : OperatorTokens config.csp)
    (hderived : ∀ source ∈ (deriveConnectSrc runtime config.http.origins [] secure).sources,
      IsSourceExpression source) :
    SpelledInTokens (js "connect-src", (deriveConnectSrc runtime config.http.origins
      config.csp.connectSrc secure).sources) := by
  refine (spelledInTokens_iff _ _).mpr ⟨by decide, fun word hsource => ?_⟩
  rcases (mem_deriveConnectSrc_iff _ _ word).mp hsource with
    hself | horigin | ⟨extra, hextra, hne, rfl⟩
  · exact (hderived word ((mem_deriveConnectSrc_iff _ _ word).mpr (.inl hself))).1
  · exact (hderived word ((mem_deriveConnectSrc_iff _ _ word).mpr (.inr (.inl horigin)))).1
  · exact isToken_trim (hop.connectSrc extra hextra) hne

theorem spelledInTokens_frameAncestors (hop : OperatorTokens config.csp) :
    SpelledInTokens (js "frame-ancestors", (if 0 < config.csp.frameAncestors.length then
      config.csp.frameAncestors else [js "none"]).map normalizeAncestor) := by
  refine (spelledInTokens_iff _ _).mpr ⟨by decide, fun word hancestor => ?_⟩
  obtain ⟨value, hvalue, rfl⟩ := List.mem_map.mp hancestor
  apply isToken_normalizeAncestor
  split at hvalue
  · exact hop.frameAncestors value hvalue
  · rw [List.mem_singleton.mp hvalue]
    decide

theorem spelledInTokens_reportUri (hop : OperatorTokens config.csp) :
    SpelledInTokens (js "report-uri", [config.csp.reportUri]) := by
  refine (spelledInTokens_iff _ _).mpr ⟨by decide, fun word huri => ?_⟩
  rw [List.mem_singleton.mp huri]
  exact hop.reportUri

theorem spelledInTokens_buildCspDirectives (hop : OperatorTokens config.csp)
    (hderived : ∀ source ∈ (deriveConnectSrc runtime config.http.origins [] secure).sources,
      IsSourceExpression source) :
    ∀ directive ∈ buildCspDirectives runtime config secure, SpelledInTokens directive := by
  have hconnect := spelledInTokens_connectSrc hop hderived
  have hancestors := spelledInTokens_frameAncestors hop
  have huri := spelledInTokens_reportUri hop
  have hbefore : ∀ directive ∈ [(js "default-src", [js "'self'"]),
      (js "script-src", [js "'self'"]),
      (js "style-src", [js "'self'", js "'unsafe-inline'"]),
      (js "img-src", [js "'self'", js "data:"]),
      (js "font-src", [js "'self'"])], SpelledInTokens directive := by
    decide +kernel
  have hbetween : ∀ directive ∈ [(js "object-src", [js "'none'"]),
      (js "base-uri", [js "'none'"])], SpelledInTokens directive := by
    decide +kernel
  have hafter : ∀ directive ∈ [(js "form-action", [js "'self'"]),
      (js "report-to", [js "csp-endpoint"])], SpelledInTokens directive := by
    decide +kernel
  simp only [List.forall_mem_cons] at hbefore hbetween hafter
  obtain ⟨hdefault, hscript, hstyle, himg, hfont, hnil⟩ := hbefore
  obtain ⟨hobject, hbase, _⟩ := hbetween
  obtain ⟨hform, hreportTo, _⟩ := hafter
  unfold buildCspDirectives
  dsimp only
  split
  · simp only [List.forall_mem_append, List.forall_mem_cons]
    exact ⟨⟨hdefault, hscript, hstyle, himg, hfont, hconnect, hobject, hbase, hancestors, hform,
      hnil⟩, huri, hreportTo, hnil⟩
  · simp only [List.forall_mem_cons]
    exact ⟨hdefault, hscript, hstyle, himg, hfont, hconnect, hobject, hbase, hancestors, hform,
      hnil⟩

theorem buildCspDirectives_script :
    (buildCspDirectives runtime config secure).filter
      (fun directive => decide (directive.1 = js "script-src")) =
        [(js "script-src", [js "'self'"])] := by
  unfold buildCspDirectives
  dsimp only
  split
  · rfl
  · rfl

-- What the origins add to the policy stays in its place exactly when no origin that is
-- taken over as it is written has a blank, a semicolon or a comma in it.
theorem derivedSafely_iff (runtime : Runtime) (config : Config) (secure : Bool)
    (hop : OperatorTokens config.csp) :
    DerivedSafely runtime config secure ↔
      ∀ origin ∈ config.http.origins, PassedVerbatim runtime origin →
        ∀ unit ∈ origin, isWhiteSpace unit = false ∧ unit ≠ 59 ∧ unit ≠ 44 := by
  constructor
  · intro h
    exact (derived_single_iff config.http.origins).mp h.single
  · intro h
    have hsingle : ∀ source ∈ (deriveConnectSrc runtime config.http.origins [] secure).sources,
        IsSourceExpression source := (derived_single_iff config.http.origins).mpr h
    have hread : cspGrammar.parse (cspHeaderValue (buildCspDirectives runtime config secure)) =
        buildCspDirectives runtime config secure := by
      rw [cspHeaderValue_eq_serialize, Grammar.parse_serialize_iff]
      intro directive hmem word hword
      exact (spelledInTokens_buildCspDirectives hop hsingle directive hmem word hword).isWord
    refine ⟨hsingle, hread, ?_⟩
    rw [hread]
    exact buildCspDirectives_script

def defaultCsp : CspConfig where
  mode := .reportOnly
  reportUri := js "/ssh/csp-report"
  connectSrc := []
  frameAncestors := [js "none"]

theorem operatorTokens_defaultCsp : OperatorTokens defaultCsp := by
  refine ⟨fun extra hextra => ?_, ?_, ?_⟩
  · cases hextra
  · decide
  · decide

theorem derivedSafely_iff_default :
    DerivedSafely asciiRuntime ⟨⟨[js "gw.example:8443", js "https://gw.example"]⟩, defaultCsp⟩
        true ↔
      ∀ origin ∈ [js "gw.example:8443", js "https://gw.example"],
        PassedVerbatim asciiRuntime origin →
          ∀ unit ∈ origin, isWhiteSpace unit = false ∧ unit ≠ 59 ∧ unit ≠ 44 :=
  derivedSafely_iff asciiRuntime ⟨⟨[js "gw.example:8443", js "https://gw.example"]⟩, defaultCsp⟩
    true operatorTokens_defaultCsp

-- An origin with a directive of its own behind the host.
theorem derivedSafely_not_directive :
    ¬∀ (config : Config) (secure : Bool), OperatorTokens config.csp →
      DerivedSafely asciiRuntime config secure := by
  intro hall
  have hsafe := hall ⟨⟨[js "https://gw.example; sandbox"]⟩, defaultCsp⟩ true
    operatorTokens_defaultCsp
  have hsource := hsafe.single (js "https://gw.example; sandbox") (by decide)
  exact absurd (hsource.1.2 59 (by decide)).2.1 (by decide)

end Policy

end WebSsh2.Security.ContentSecurityPolicy

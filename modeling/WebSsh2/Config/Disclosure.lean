import WebSsh2.Config.Secrecy

namespace WebSsh2.Config

open WebSsh2.Library WebSsh2.HostKey WebSsh2.Validation

section Errors

-- The paths of a value's secrets, seen from the error that it is attached to.
def errorPaths (paths : Json.Paths) : Json.Paths
  | key :: rest => decide (key = js "value") && paths rest
  | [] => false

theorem maskFields_errorObject (leaf : Json.LeafView Number) (paths : Json.Paths)
    (path message : JsString) (value : JsonValue) :
    Json.mask leaf (errorPaths paths) (errorObject { path, message, value := some value }) =
      errorObject { path, message, value := some (Json.mask leaf paths value) } := by
  have hopen : ∀ key, key ≠ js "value" → ∀ path, (errorPaths paths).below key path = false := by
    intro key hkey path
    rw [Json.Paths.below, errorPaths, decide_eq_false hkey, Bool.false_and]
  have hvalue : (errorPaths paths).below (js "value") = paths := by
    funext path
    rw [Json.Paths.below, errorPaths, decide_eq_true rfl, Bool.true_and]
  have hobject : ∀ one : JsonValue, errorObject { path, message, value := some one } =
      .object [(js "path", .string path), (js "message", .string message), (js "value", one)] :=
    fun _ => rfl
  rw [hobject, hobject, Json.mask, Json.maskFields, Json.maskFields, Json.maskFields,
    Json.maskFields, hvalue, Json.mask_of_open leaf _ _ (hopen (js "path") (by decide)),
    Json.mask_of_open leaf _ _ (hopen (js "message") (by decide))]

theorem tellsNonTexts_filled : Json.TellsNonTexts filled := by
  have htext : ∀ {value : JsonValue}, value.isText = false → filledView value = value := by
    intro value hvalue
    cases value with
    | string _ => cases hvalue
    | _ => rfl
  have hview : ∀ {value : JsonValue}, value.isText = true → (filledView value).isText = true := by
    intro value hvalue
    cases value with
    | null => rfl
    | string text =>
      rw [filledView]
      split <;> rfl
    | _ => cases hvalue
  intro one other h
  have hsame : filledView one = filledView other := h
  cases hone : one.isText with
  | true =>
    cases hother : other.isText with
    | true => exact .inr ⟨rfl, rfl⟩
    | false =>
      have hshown := hview hone
      rw [hsame, htext hother, hother] at hshown
      cases hshown
  | false =>
    cases hother : other.isText with
    | true =>
      have hshown := hview hother
      rw [← hsame, htext hone, hone] at hshown
      cases hshown
    | false => exact .inl (by rwa [htext hone, htext hother] at hsame)

-- The item of a printed list is not cut off, and leaves so far down are printed.
def Visible (options : Json.InspectOptions) (index length : Nat) : Prop :=
  index < options.maxArrayLength ∧ Json.Reaches options.depth length

theorem length_of_errorPaths {paths : Json.Paths} {length : Nat}
    (hlength : ∀ path, paths path = true → path.length = length) (path : List JsString)
    (h : errorPaths paths path = true) : path.length = length + 1 := by
  cases path with
  | nil => cases h
  | cons key rest =>
    rw [errorPaths, Bool.and_eq_true] at h
    rw [List.length_cons, hlength rest h.2]

theorem errorLine_eq_iff (host : LoadHost) {paths : Json.Paths} {length : Nat}
    (hlength : ∀ path, paths path = true → path.length = length)
    (before after : List ConfigValidationError) (path message : JsString)
    {one other : JsonValue} (h : Json.mask filled paths one = Json.mask filled paths other) :
    errorLine host (before ++ { path, message, value := some one } :: after) =
        errorLine host (before ++ { path, message, value := some other } :: after) ↔
      (Visible host.inspect before.length (length + 2) →
        Json.mask (Json.printed host.inspect) paths one =
          Json.mask (Json.printed host.inspect) paths other) := by
  have hmask : ∀ leaf : Json.LeafView Number,
      Json.mask leaf (errorPaths paths) (errorObject { path, message, value := some one }) =
          Json.mask leaf (errorPaths paths) (errorObject { path, message, value := some other }) ↔
        Json.mask leaf paths one = Json.mask leaf paths other := by
    intro leaf
    rw [maskFields_errorObject, maskFields_errorObject]
    exact ⟨fun heq => by injection heq with hfields; simpa using hfields,
      fun heq => by rw [heq]⟩
  have hobject : ∀ value : JsonValue, ∃ fields,
      errorObject { path, message, value := some value } = .object fields := fun _ => ⟨_, rfl⟩
  obtain ⟨fields, hfields⟩ := hobject one
  obtain ⟨others, hothers⟩ := hobject other
  have hfilled := (hmask filled).mpr h
  have hprinted := hmask (Json.printed host.inspect)
  have hmember := @Json.shownMember_eq_iff _ host.inspect filled tellsNonTexts_filled
    (errorPaths paths) host.inspect.depth fields others length (length_of_errorPaths hlength)
  rw [hfields, hothers, Json.mask, Json.mask, Json.object.injEq] at hfilled hprinted
  unfold errorLine debugObject
  rw [DebugLine.mk.injEq, and_iff_right rfl, List.cons.injEq, and_iff_left rfl,
    DebugArg.shown.injEq, List.map_append, List.map_append, List.map_cons, List.map_cons,
    Json.shown_array_eq_iff, List.length_map, hfields, hothers, hmember hfilled, hprinted]
  exact ⟨fun hline hvisible => hline hvisible.1 hvisible.2,
    fun hline hindex hreaches => hline ⟨hindex, hreaches⟩⟩

end Errors

section Rules

variable (runtime : Runtime) {first second : JsonValue}

theorem lacksAuthentication_eq (h : SameButSecrets first second) :
    lacksAuthentication first = lacksAuthentication second := by
  unfold lacksAuthentication
  rw [isFilled_setting h, isFilled_setting h, isFilled_setting h, isFilled_setting h]

theorem earlierErrors_eq (h : SameButSecrets first second) :
    earlierErrors runtime first = earlierErrors runtime second := by
  have hssh : OpenSection "ssh" := by decide
  have hlisten : OpenSection "listen" := by decide
  have hheader : OpenSection "header" := by decide
  unfold earlierErrors checkPort checkLocalPort checkHeaderBackground checkSshHost checkPort
  simp only [setting_eq h hssh, setting_eq h hlisten, setting_eq h hheader]

def reason (error : ConfigValidationError) : JsString × JsString :=
  (error.path, error.message)

theorem secretErrors_eq (h : (secretErrors first).map reason = (secretErrors second).map reason) :
    secretErrors first = secretErrors second := by
  rcases secretErrors_cases first with hfirst | hfirst
  · rcases secretErrors_cases second with hsecond | hsecond
    · rw [hfirst, hsecond]
    · rw [hfirst, hsecond] at h
      cases h
  · rcases secretErrors_cases second with hsecond | hsecond
    · rw [hfirst, hsecond] at h
      cases h
    · rw [hfirst, hsecond]

theorem authenticationErrors_reasons (h : SameButSecrets first second) :
    (authenticationErrors first).map reason = (authenticationErrors second).map reason := by
  unfold authenticationErrors checkAuthConfiguration
  rw [lacksAuthentication_eq h]
  split <;> rfl

-- Errors of one kind differ in what the authentication's error has with it.
theorem secretErrors_eq_of_reasons (h : SameButSecrets first second)
    (hreasons : (businessErrors runtime first).map reason =
      (businessErrors runtime second).map reason) :
    secretErrors first = secretErrors second := by
  rw [businessErrors_eq, businessErrors_eq, earlierErrors_eq runtime h, List.map_append,
    List.map_append, List.map_append, List.map_append, authenticationErrors_reasons h] at hreasons
  exact secretErrors_eq (List.append_cancel_left hreasons)

-- Somebody who is shown the user of the configuration learns no more than the mask lets.
def UserUnseen (host : LoadHost) (first second : JsonValue) : Prop :=
  lacksAuthentication first = true →
    Visible host.inspect (earlierErrors host.env.toRuntime first).length 3 →
      (setting ["user"] first).map
          (Json.mask (Json.printed host.inspect) (secret.below (js "user"))) =
        (setting ["user"] second).map
          (Json.mask (Json.printed host.inspect) (secret.below (js "user")))

theorem user_of_lacksAuthentication (h : lacksAuthentication first = true) :
    ∃ user, setting ["user"] first = some user := by
  unfold lacksAuthentication at h
  rw [Bool.and_eq_true, Bool.and_eq_true] at h
  cases huser : setting ["user"] first with
  | some user => exact ⟨user, rfl⟩
  | none =>
    have hname : setting ["user", "name"] first = none := by
      unfold setting at huser ⊢
      rw [List.map_cons, List.map_nil, Json.atPath] at huser
      rw [List.map_cons, Json.atPath]
      cases hfield : Json.field (js "user") first with
      | none => rfl
      | some user =>
        rw [hfield] at huser
        cases huser
    rw [hname] at h
    cases h.1.2

theorem length_of_userSecret (path : List JsString)
    (h : secret.below (js "user") path = true) : path.length = 1 := by
  have hmem : js "user" :: path ∈ secretPaths := of_decide_eq_true h
  have htwo : ∀ other ∈ secretPaths, other.length = 2 := by decide
  exact Nat.succ.inj (htwo _ hmem)

theorem authenticationErrors_of_lacks (h : lacksAuthentication first = true) {user : JsonValue}
    (huser : setting ["user"] first = some user) : authenticationErrors first =
      [{ path := js "user", message := authenticationMessage, value := some user }] := by
  unfold authenticationErrors checkAuthConfiguration
  rw [if_pos h, huser]
  rfl

theorem businessErrors_line_iff (host : LoadHost) (h : SameButSecrets first second)
    (hreasons : (businessErrors host.env.toRuntime first).map reason =
      (businessErrors host.env.toRuntime second).map reason) :
    errorLine host (businessErrors host.env.toRuntime first) =
        errorLine host (businessErrors host.env.toRuntime second) ↔
      UserUnseen host first second := by
  have hsecret := secretErrors_eq_of_reasons host.env.toRuntime h hreasons
  have hlacks := lacksAuthentication_eq h
  rw [businessErrors_eq, businessErrors_eq, earlierErrors_eq host.env.toRuntime h, hsecret]
  cases hfirst : lacksAuthentication first with
  | false =>
    have hnone : ∀ {config : JsonValue}, lacksAuthentication config = false →
        authenticationErrors config = [] := by
      intro config hconfig
      unfold authenticationErrors checkAuthConfiguration
      rw [hconfig, if_neg Bool.false_ne_true]
    rw [hnone hfirst, hnone (hlacks.symm.trans hfirst)]
    exact iff_of_true rfl fun hsome => by rw [hfirst] at hsome; cases hsome
  | true =>
    have hsecond := hlacks.symm.trans hfirst
    obtain ⟨user, huser⟩ := user_of_lacksAuthentication hfirst
    obtain ⟨other, hother⟩ := user_of_lacksAuthentication hsecond
    have hmask : Json.mask filled (secret.below (js "user")) user =
        Json.mask filled (secret.below (js "user")) other := by
      have hpath := congrArg (setting ["user"]) h
      unfold setting at hpath huser hother
      rw [Json.atPath_mask, Json.atPath_mask, huser, hother] at hpath
      exact Option.some.inj hpath
    rw [authenticationErrors_of_lacks hfirst huser, authenticationErrors_of_lacks hsecond hother,
      List.append_assoc, List.append_assoc, List.singleton_append, List.singleton_append,
      errorLine_eq_iff host length_of_userSecret _ _ _ _ hmask]
    unfold UserUnseen
    rw [huser, hother, Option.map_some, Option.map_some, Option.some.injEq,
      earlierErrors_eq host.env.toRuntime h]
    exact ⟨fun hline _ => hline, fun hline => hline hfirst⟩

end Rules

section Reports

-- Both accepted, or both refused for the same reason.
inductive SameVerdict : LoadResult → LoadResult → Prop where
  | thrown : SameVerdict .thrown .thrown
  | errors (errors others : List ConfigValidationError)
      (h : errors.map reason = others.map reason) : SameVerdict (.errors errors) (.errors others)
  | ok (config other : JsonValue) : SameVerdict (.ok config) (.ok other)

variable {errors others : List ConfigValidationError}

theorem SameVerdict.reasons (h : SameVerdict (.errors errors) (.errors others)) :
    errors.map reason = others.map reason := by
  cases h with
  | errors _ _ h => exact h

theorem SameVerdict.symm {first second : LoadResult} (h : SameVerdict first second) :
    SameVerdict second first := by
  cases h with
  | thrown => exact .thrown
  | errors _ _ h => exact .errors _ _ h.symm
  | ok _ _ => exact .ok _ _

inductive SameOutcome : ConfigOutcome → ConfigOutcome → Prop where
  | typeError : SameOutcome .typeError .typeError
  | configError (message : JsString) : SameOutcome (.configError message) (.configError message)
  | config (config other : JsonValue) (h : SameButSecrets config other) :
      SameOutcome (.config config) (.config other)

variable (host : LoadHost)

def SameReport (file other : ConfigFile) (first second : LoadResult) : Prop :=
  (report host file first).1 = (report host other second).1 ∧
    SameOutcome (report host file first).2 (report host other second).2

variable {file other : ConfigFile}

theorem hasRealError_eq (h : errors.map reason = others.map reason) :
    hasRealError errors = hasRealError others := by
  have hreasons : ∀ list : List ConfigValidationError, hasRealError list =
      (list.map reason).any fun reason =>
        !includes (js "config.json") reason.1 || !includes (js "ENOENT") reason.2 := by
    intro list
    rw [List.any_map]
    rfl
  rw [hreasons, hreasons, h]

theorem failureMessage_eq (h : errors.map reason = others.map reason) :
    failureMessage errors = failureMessage others := by
  have hmessages : ∀ list : List ConfigValidationError,
      list.map ConfigValidationError.message = (list.map reason).map Prod.snd := by
    intro list
    rw [List.map_map]
    rfl
  rw [failureMessage, failureMessage, hmessages, hmessages, h]

theorem report_real (file : ConfigFile) {errors : List ConfigValidationError}
    (h : hasRealError errors = true) : report host file (.errors errors) =
      ([errorLine host errors], .configError (failureMessage errors)) := by
  rw [report, if_pos h]

theorem report_unreal (file : ConfigFile) {errors : List ConfigValidationError}
    (h : ¬ hasRealError errors = true) : report host file (.errors errors) =
      ([⟨js "Config returned an unexpected result, check the implementation", []⟩],
        .configError (js "Configuration loading failed unexpectedly")) := by
  rw [report, if_neg h]

theorem sameReport_real_iff (h : errors.map reason = others.map reason)
    (hreal : hasRealError errors = true) :
    SameReport host file other (.errors errors) (.errors others) ↔
      errorLine host errors = errorLine host others := by
  have hother : hasRealError others = true := (hasRealError_eq h).symm.trans hreal
  rw [SameReport, report_real host file hreal, report_real host other hother, List.cons.injEq,
    and_iff_left rfl]
  apply and_iff_left
  rw [failureMessage_eq h]
  exact .configError _

theorem sameReport_unreal (h : errors.map reason = others.map reason)
    (hreal : ¬ hasRealError errors = true) :
    SameReport host file other (.errors errors) (.errors others) := by
  have hother : ¬ hasRealError others = true := by rwa [← hasRealError_eq h]
  rw [SameReport, report_unreal host file hreal, report_unreal host other hother]
  exact ⟨rfl, .configError _⟩

theorem sameReport_errors (errors : List ConfigValidationError) :
    SameReport host file other (.errors errors) (.errors errors) := by
  by_cases hreal : hasRealError errors = true
  · exact (sameReport_real_iff host rfl hreal).mpr rfl
  · exact sameReport_unreal host rfl hreal

theorem sameReport_ok (hfile : AlikeFile file other) {first second : JsonValue}
    (h : SameButSecrets first second) : SameReport host file other (.ok first) (.ok second) :=
  ⟨loadedLines_eq hfile h, .config _ _ h⟩

theorem hasRealError_of_mem {errors : List ConfigValidationError} {error : ConfigValidationError}
    (h : error ∈ errors) (hpath : includes (js "config.json") error.path = false) :
    hasRealError errors = true := by
  refine List.any_eq_true.mpr ⟨error, h, ?_⟩
  rw [hpath]
  rfl

theorem authenticationError_mem {runtime : Runtime} {config : JsonValue}
    (h : lacksAuthentication config = true) :
    ∃ error ∈ businessErrors runtime config, error.path = js "user" := by
  obtain ⟨user, huser⟩ := user_of_lacksAuthentication h
  refine ⟨{ path := js "user", message := authenticationMessage, value := some user }, ?_, rfl⟩
  rw [businessErrors_eq, authenticationErrors_of_lacks h huser]
  simp only [List.mem_append, List.mem_singleton, or_true, true_or]

theorem sameReport_business_iff {first second : JsonValue} (h : SameButSecrets first second)
    (hreasons : (businessErrors host.env.toRuntime first).map reason =
      (businessErrors host.env.toRuntime second).map reason) :
    SameReport host file other (.errors (businessErrors host.env.toRuntime first))
        (.errors (businessErrors host.env.toRuntime second)) ↔
      UserUnseen host first second := by
  by_cases hreal : hasRealError (businessErrors host.env.toRuntime first) = true
  · rw [sameReport_real_iff host hreasons hreal, businessErrors_line_iff host h hreasons]
  · refine iff_of_true (sameReport_unreal host hreasons hreal) fun hlacks => ?_
    obtain ⟨error, herror, hpath⟩ := authenticationError_mem hlacks
    refine absurd (hasRealError_of_mem herror ?_) hreal
    rw [hpath]
    decide

end Reports

section Checked

variable (host : LoadHost)

-- What the business rules are asked about.
def ruledConfig (merged : Fields) : Option JsonValue :=
  let processed := parseFields merged configFields
  match resolveAllowedAuthMethods host.env.toRuntime
      (setting ["ssh", "allowedAuthMethods"] (.object processed)) with
  | .error _ => none
  | .ok resolved =>
    if host.issues merged = [] then some (.object (withAuthMethods processed resolved.methods))
    else none

-- What of two merged configurations is printed with an error differs in nothing else.
structure Unseen (first second : Fields) : Prop where
  refused : host.issues first ≠ [] → Visible host.inspect 0 4 →
    Json.mask (Json.printed host.inspect) secret (.object first) =
      Json.mask (Json.printed host.inspect) secret (.object second)
  unauthenticated : ∀ config ∈ ruledConfig host first, ∀ other ∈ ruledConfig host second,
    UserUnseen host config other

variable {host} {merged : Fields}

theorem checkMerged_refused (h : host.issues merged ≠ []) : checkMerged host merged =
    ([], .errors [{ path := [], message := schemaMessage (host.issues merged)
                    value := some (.object merged) }]) := by
  rw [checkMerged, if_pos h]

variable {message : JsString}

theorem checkMerged_error (h : host.issues merged = [])
    (hmethods : resolveAllowedAuthMethods host.env.toRuntime (setting ["ssh", "allowedAuthMethods"] (.object (parseFields merged configFields))) = .error message) :
    checkMerged host merged =
      ([finalLine host (.object (parseFields merged configFields))],
        .errors [{ path := js "ssh.allowedAuthMethods", message, value := none }]) := by
  rw [checkMerged, if_neg (not_not.mpr h)]
  dsimp only
  rw [hmethods]

theorem checkMerged_ok (h : host.issues merged = []) {resolved : ResolvedAuthMethods}
    (hmethods : resolveAllowedAuthMethods host.env.toRuntime
      (setting ["ssh", "allowedAuthMethods"] (.object (parseFields merged configFields))) =
        .ok resolved) : checkMerged host merged =
      (finalLine host (.object (parseFields merged configFields)) ::
          resolved.warnings.map tokenLine,
        enhanceConfig host
          (.object (withAuthMethods (parseFields merged configFields) resolved.methods))) := by
  rw [checkMerged, if_neg (not_not.mpr h)]
  dsimp only
  rw [hmethods]

theorem ruledConfig_ok (h : host.issues merged = []) {resolved : ResolvedAuthMethods}
    (hmethods : resolveAllowedAuthMethods host.env.toRuntime
      (setting ["ssh", "allowedAuthMethods"] (.object (parseFields merged configFields))) =
        .ok resolved) : ruledConfig host merged =
      some (.object (withAuthMethods (parseFields merged configFields) resolved.methods)) := by
  unfold ruledConfig
  dsimp only
  rw [hmethods]
  exact if_pos h

theorem ruledConfig_none (h : host.issues merged ≠ []) : ruledConfig host merged = none := by
  unfold ruledConfig
  dsimp only
  split
  · rfl
  · exact if_neg h

theorem ruledConfig_error
    (hmethods : resolveAllowedAuthMethods host.env.toRuntime (setting ["ssh", "allowedAuthMethods"] (.object (parseFields merged configFields))) = .error message) :
    ruledConfig host merged = none := by
  unfold ruledConfig
  dsimp only
  rw [hmethods]

theorem enhanceConfig_cases (host : LoadHost) (config : JsonValue) :
    (businessErrors host.env.toRuntime config = [] ∧ enhanceConfig host config = .ok config) ∨
      (businessErrors host.env.toRuntime config ≠ [] ∧ enhanceConfig host config =
        .errors (businessErrors host.env.toRuntime config)) := by
  unfold enhanceConfig validateBusinessRules
  by_cases h : businessErrors host.env.toRuntime config = []
  · exact .inl ⟨h, by rw [if_pos h]⟩
  · exact .inr ⟨h, by rw [if_neg h]⟩

-- Only the schema's error is about no field.
theorem paths_of_accepted (h : host.issues merged = []) {errors : List ConfigValidationError}
    (herrors : (checkMerged host merged).2 = .errors errors) : NamesField errors := by
  cases hmethods : resolveAllowedAuthMethods host.env.toRuntime
      (setting ["ssh", "allowedAuthMethods"] (.object (parseFields merged configFields))) with
  | error message =>
    rw [checkMerged_error h hmethods] at herrors
    rw [← LoadResult.errors.inj herrors]
    intro error herror
    rw [List.mem_singleton.mp herror]
    show js "ssh.allowedAuthMethods" ≠ []
    decide
  | ok resolved =>
    rw [checkMerged_ok h hmethods] at herrors
    dsimp only at herrors
    rcases enhanceConfig_cases host (.object (withAuthMethods
      (parseFields merged configFields) resolved.methods)) with ⟨_, hresult⟩ | ⟨_, hresult⟩
    · rw [hresult] at herrors
      cases herrors
    · rw [hresult] at herrors
      rw [← LoadResult.errors.inj herrors]
      exact businessErrors_namesField _ _

-- A refusal by the schema is told from all others by its reason.
theorem refused_of_sameVerdict {first second : Fields} (h : host.issues first ≠ [])
    (hverdict : SameVerdict (checkMerged host first).2 (checkMerged host second).2) :
    host.issues second ≠ [] := by
  intro haccepted
  rw [checkMerged_refused h] at hverdict
  cases hsecond : (checkMerged host second).2 with
  | thrown | ok =>
    rw [hsecond] at hverdict
    cases hverdict
  | errors errors =>
    rw [hsecond] at hverdict
    have hnames := paths_of_accepted haccepted hsecond
    cases errors with
    | nil => cases hverdict.reasons
    | cons error rest =>
      have hpath : [] = error.path :=
        (Prod.mk.inj (List.cons.inj hverdict.reasons).1).1
      exact hnames error List.mem_cons_self hpath.symm

theorem processed_eq {first second : Fields}
    (h : Json.maskFields filled secret first = Json.maskFields filled secret second) :
    SameButSecrets (.object (parseFields first configFields))
      (.object (parseFields second configFields)) := by
  apply sameButSecrets_object.mpr
  rw [maskFields_parseFields filled secret _ _ configFields_fit,
    maskFields_parseFields filled secret _ _ configFields_fit, h]

theorem withAuthMethods_eq {first second : Fields}
    (h : Json.maskFields filled secret first = Json.maskFields filled secret second)
    (methods : List JsString) :
    SameButSecrets (.object (withAuthMethods first methods))
      (.object (withAuthMethods second methods)) := by
  apply sameButSecrets_object.mpr
  rw [maskFields_withAuthMethods, maskFields_withAuthMethods, h]

theorem enhanceConfig_iff {file other : ConfigFile} (hfile : AlikeFile file other)
    {first second : JsonValue} (h : SameButSecrets first second)
    (hverdict : SameVerdict (enhanceConfig host first) (enhanceConfig host second)) :
    SameReport host file other (enhanceConfig host first) (enhanceConfig host second) ↔
      UserUnseen host first second := by
  rcases enhanceConfig_cases host first with ⟨hnone, hfirst⟩ | ⟨_, hfirst⟩
  · rcases enhanceConfig_cases host second with ⟨_, hsecond⟩ | ⟨_, hsecond⟩
    · rw [hfirst, hsecond]
      refine iff_of_true (sameReport_ok host hfile h) fun hlacks => ?_
      obtain ⟨error, herror, _⟩ := @authenticationError_mem host.env.toRuntime first hlacks
      rw [hnone] at herror
      cases herror
    · rw [hfirst, hsecond] at hverdict
      cases hverdict
  · rcases enhanceConfig_cases host second with ⟨_, hsecond⟩ | ⟨_, hsecond⟩
    · rw [hfirst, hsecond] at hverdict
      cases hverdict
    · rw [hfirst, hsecond] at hverdict ⊢
      exact sameReport_business_iff host h hverdict.reasons

theorem length_of_secret (path : List JsString) (h : secret path = true) : path.length = 2 := by
  have htwo : ∀ other ∈ secretPaths, other.length = 2 := by decide
  exact htwo path (of_decide_eq_true h)

theorem refused_iff {file other : ConfigFile} {first second : Fields}
    (h : Json.maskFields filled secret first = Json.maskFields filled secret second) :
    SameReport host file other
        (.errors [{ path := [], message, value := some (.object first) }])
        (.errors [{ path := [], message, value := some (.object second) }]) ↔
      (Visible host.inspect 0 4 →
        Json.mask (Json.printed host.inspect) secret (.object first) =
          Json.mask (Json.printed host.inspect) secret (.object second)) := by
  have hline := errorLine_eq_iff host length_of_secret [] [] [] message
    (sameButSecrets_object.mpr h)
  refine (sameReport_real_iff host ?_ ?_).trans hline
  · rfl
  · exact hasRealError_of_mem List.mem_cons_self
      (show includes (js "config.json") [] = false by decide)

theorem checkMerged_iff {file other : ConfigFile} (hfile : AlikeFile file other)
    {first second : Fields}
    (h : Json.maskFields filled secret first = Json.maskFields filled secret second)
    (hverdict : SameVerdict (checkMerged host first).2 (checkMerged host second).2) :
    (checkMerged host first).1 = (checkMerged host second).1 ∧
      (SameReport host file other (checkMerged host first).2 (checkMerged host second).2 ↔
        Unseen host first second) := by
  by_cases hfirst : host.issues first = []
  · have hsecond : host.issues second = [] := by
      by_contra hrefused
      exact refused_of_sameVerdict hrefused (hverdict.symm) hfirst
    have hprocessed := processed_eq h
    have hssh : OpenSection "ssh" := by decide
    have hsetting := setting_eq hprocessed hssh ["allowedAuthMethods"]
    have hfinal := @finalLine_eq host _ _ hprocessed
    cases hmethods : resolveAllowedAuthMethods host.env.toRuntime
        (setting ["ssh", "allowedAuthMethods"] (.object (parseFields first configFields))) with
    | error message =>
      have hmethods' := hmethods
      rw [hsetting] at hmethods'
      rw [checkMerged_error hfirst hmethods, checkMerged_error hsecond hmethods', hfinal]
      refine ⟨rfl, iff_of_true (sameReport_errors host _) ⟨fun hnot => absurd hfirst hnot, ?_⟩⟩
      rw [ruledConfig_error hmethods]
      exact fun config hconfig => nomatch hconfig
    | ok resolved =>
      have hmethods' := hmethods
      rw [hsetting] at hmethods'
      rw [checkMerged_ok hfirst hmethods, checkMerged_ok hsecond hmethods'] at hverdict ⊢
      have hconfigs := withAuthMethods_eq (sameButSecrets_object.mp hprocessed) resolved.methods
      refine ⟨by rw [hfinal], (enhanceConfig_iff hfile hconfigs hverdict).trans ?_⟩
      constructor
      · intro hunseen
        refine ⟨fun hnot => absurd hfirst hnot, ?_⟩
        rw [ruledConfig_ok hfirst hmethods, ruledConfig_ok hsecond hmethods']
        intro config hconfig other hother
        rw [← Option.some.inj hconfig, ← Option.some.inj hother]
        exact hunseen
      · intro hunseen
        exact hunseen.unauthenticated _ (ruledConfig_ok hfirst hmethods) _
          (ruledConfig_ok hsecond hmethods')
  · have hsecond := refused_of_sameVerdict hfirst hverdict
    rw [checkMerged_refused hfirst, checkMerged_refused hsecond] at hverdict ⊢
    have hmessage : schemaMessage (host.issues first) = schemaMessage (host.issues second) :=
      (Prod.mk.inj (List.cons.inj hverdict.reasons).1).2
    rw [hmessage, refused_iff h]
    refine ⟨rfl, fun hprinted => ⟨fun _ => hprinted, ?_⟩, fun hunseen => hunseen.refused hfirst⟩
    rw [ruledConfig_none hfirst]
    exact fun config hconfig => nomatch hconfig

end Checked

section Loaded

variable {host : LoadHost} {first second : Source}

-- The configuration that the checks are about, where the file can be read.
def mergedOf (host : LoadHost) (source : Source) : Option Fields :=
  match (loadFileConfig host source.file).2 with
  | .config fileConfig => some (mergedConfig host source.env fileConfig)
  | _ => none

theorem loadFileConfig_lines {file other : ConfigFile} (h : AlikeFile file other) :
    (loadFileConfig host file).1 = (loadFileConfig host other).1 := by
  have hparsed : ∀ config : PartialConfig, (loadFileConfig host (.parsed config)).1 = [] := by
    intro config
    unfold loadFileConfig
    dsimp only
    split <;> rfl
  cases h with
  | absent => rfl
  | gone => rfl
  | unreadable _ _ => rfl
  | malformed _ _ => rfl
  | parsed config other _ => rw [hparsed, hparsed]

-- What files alike come to.
inductive AlikeFileConfig : FileConfig → FileConfig → Prop where
  | thrown : AlikeFileConfig .thrown .thrown
  | error (first second : JsString) :
      AlikeFileConfig (.error (fileError first)) (.error (fileError second))
  | config (first second : Option JsonValue) (h : Option.Rel SameButSecrets first second) :
      AlikeFileConfig (.config first) (.config second)

theorem loadFileConfig_alike {file other : ConfigFile} (h : AlikeFile file other) :
    AlikeFileConfig (loadFileConfig host file).2 (loadFileConfig host other).2 := by
  cases h with
  | absent | gone => exact .config none none .none
  | unreadable _ _ => exact .error _ _
  | malformed _ _ => exact .error _ _
  | parsed config other h =>
    have hrel := normalizeFileConfigTransport_rel host.env h
    unfold loadFileConfig
    dsimp only
    cases hfirst : normalizeFileConfigTransport host.env config.value with
    | none =>
      rw [hfirst] at hrel
      cases hsecond : normalizeFileConfigTransport host.env other.value with
      | none => exact .thrown
      | some _ =>
        rw [hsecond] at hrel
        cases hrel
    | some _ =>
      rw [hfirst] at hrel
      cases hsecond : normalizeFileConfigTransport host.env other.value with
      | none =>
        rw [hsecond] at hrel
        cases hrel
      | some _ =>
        rw [hsecond] at hrel
        exact .config _ _ hrel

theorem loadEnhancedConfig_thrown (h : (loadFileConfig host first.file).2 = .thrown) :
    loadEnhancedConfig host first =
      ⟨startLines host (resolveSessionSecretFromEnv first.env) ++
        (loadFileConfig host first.file).1, [], .thrown⟩ := by
  unfold loadEnhancedConfig
  dsimp only
  rw [h]

theorem loadEnhancedConfig_error {error : ConfigValidationError}
    (h : (loadFileConfig host first.file).2 = .error error) :
    loadEnhancedConfig host first =
      ⟨startLines host (resolveSessionSecretFromEnv first.env) ++
        (loadFileConfig host first.file).1, [], .errors [error]⟩ := by
  unfold loadEnhancedConfig
  dsimp only
  rw [h]

theorem loadEnhancedConfig_config {file : Option JsonValue}
    (h : (loadFileConfig host first.file).2 = .config file) :
    loadEnhancedConfig host first =
      ⟨startLines host (resolveSessionSecretFromEnv first.env) ++
          (loadFileConfig host first.file).1 ++
        environmentLine host first.env
          (withoutNullSessionSecret (mapEnvironmentVariables host.env first.env)) ::
            (checkMerged host (mergedConfig host first.env file)).1,
        if isSessionSecretGenerated (resolveSessionSecretFromEnv first.env) first.env file then
          [.generatedSessionSecret]
        else [],
        (checkMerged host (mergedConfig host first.env file)).2⟩ := by
  unfold loadEnhancedConfig
  dsimp only
  rw [h]

theorem mergedOf_config {file : Option JsonValue}
    (h : (loadFileConfig host first.file).2 = .config file) :
    mergedOf host first = some (mergedConfig host first.env file) := by
  unfold mergedOf
  rw [h]

theorem loaded_iff (hdeprecated : deprecationWarnings first.env = deprecationWarnings second.env)
    (hlines : (loadEnhancedConfig host first).lines = (loadEnhancedConfig host second).lines)
    (hwarnings : (loadEnhancedConfig host first).warnings =
      (loadEnhancedConfig host second).warnings) :
    ((loadConfigAsync host first).lines = (loadConfigAsync host second).lines ∧
        (loadConfigAsync host first).warnings = (loadConfigAsync host second).warnings ∧
        SameOutcome (loadConfigAsync host first).outcome (loadConfigAsync host second).outcome) ↔
      SameReport host first.file second.file (loadEnhancedConfig host first).result
        (loadEnhancedConfig host second).result := by
  unfold loadConfigAsync SameReport
  dsimp only
  rw [hdeprecated, hlines, hwarnings, List.cons.injEq, and_iff_right rfl, List.append_right_inj,
    and_iff_right rfl]

-- Configurations that are alike are loaded alike, but for what is printed with an error.
theorem loadConfigAsync_iff (h : Alike host.env first second)
    (hverdict : SameVerdict (loadEnhancedConfig host first).result
      (loadEnhancedConfig host second).result) :
    ((loadConfigAsync host first).lines = (loadConfigAsync host second).lines ∧
        (loadConfigAsync host first).warnings = (loadConfigAsync host second).warnings ∧
        SameOutcome (loadConfigAsync host first).outcome (loadConfigAsync host second).outcome) ↔
      ∀ merged ∈ mergedOf host first, ∀ other ∈ mergedOf host second,
        Unseen host merged other := by
  have hstart := startLines_eq h.env
  have hlines := @loadFileConfig_lines host _ _ h.file
  have henv := environmentLine_eq h.env
  have hdeprecated := deprecationWarnings_eq h.env
  have hfile := @loadFileConfig_alike host _ _ h.file
  generalize hfirst : (loadFileConfig host first.file).2 = one at hfile
  generalize hsecond : (loadFileConfig host second.file).2 = other at hfile
  have hunread : ∀ {result : FileConfig}, (loadFileConfig host first.file).2 = result →
      (∀ file, result ≠ .config file) → ∀ merged ∈ mergedOf host first,
        ∀ other ∈ mergedOf host second, Unseen host merged other := by
    intro result hresult hnot merged hmerged
    unfold mergedOf at hmerged
    rw [hresult] at hmerged
    cases result with
    | config file => exact absurd rfl (hnot file)
    | _ => cases hmerged
  cases hfile with
  | thrown =>
    have hloaded := loadEnhancedConfig_thrown hfirst
    have hother := loadEnhancedConfig_thrown hsecond
    rw [loaded_iff hdeprecated (by rw [hloaded, hother, hstart, hlines])
      (by rw [hloaded, hother]), hloaded, hother]
    exact iff_of_true ⟨rfl, .typeError⟩ (hunread hfirst nofun)
  | error message message' =>
    have hloaded := loadEnhancedConfig_error hfirst
    have hother := loadEnhancedConfig_error hsecond
    rw [hloaded, hother] at hverdict
    have hmessage : message = message' := (Prod.mk.inj (List.cons.inj hverdict.reasons).1).2
    rw [loaded_iff hdeprecated (by rw [hloaded, hother, hstart, hlines])
      (by rw [hloaded, hother]), hloaded, hother, hmessage]
    exact iff_of_true (sameReport_errors host _) (hunread hfirst nofun)
  | config file file' hrel =>
    have hloaded := loadEnhancedConfig_config hfirst
    have hother := loadEnhancedConfig_config hsecond
    rw [hloaded, hother] at hverdict
    obtain ⟨hchecked, hiff⟩ := checkMerged_iff h.file (mergedConfig_eq h.env hrel) hverdict
    have hgenerated := isSessionSecretGenerated_eq h.env hrel
    rw [loaded_iff hdeprecated
      (by rw [hloaded, hother]; dsimp only; rw [hstart, hlines, henv, hchecked])
      (by rw [hloaded, hother]; dsimp only; rw [hgenerated]), hloaded, hother, hiff,
      mergedOf_config hfirst, mergedOf_config hsecond]
    constructor
    · intro hunseen merged hmerged other hother
      rw [← Option.some.inj hmerged, ← Option.some.inj hother]
      exact hunseen
    · intro hunseen
      exact hunseen _ rfl _ rfl

theorem loadEnhancedConfig_ruled {source : Source} {config : JsonValue}
    (h : (mergedOf host source).bind (ruledConfig host) = some config) :
    (loadEnhancedConfig host source).result = enhanceConfig host config := by
  obtain ⟨merged, hmerged, hruled⟩ := Option.bind_eq_some_iff.mp h
  cases hfile : (loadFileConfig host source.file).2 with
  | config file =>
    rw [mergedOf_config hfile] at hmerged
    obtain rfl := Option.some.inj hmerged
    rw [loadEnhancedConfig_config hfile]
    dsimp only
    by_cases hissues : host.issues (mergedConfig host source.env file) = []
    · cases hmethods : resolveAllowedAuthMethods host.env.toRuntime
          (setting ["ssh", "allowedAuthMethods"]
            (.object (parseFields (mergedConfig host source.env file) configFields))) with
      | error message =>
        rw [ruledConfig_error hmethods] at hruled
        cases hruled
      | ok resolved =>
        rw [ruledConfig_ok hissues hmethods] at hruled
        rw [checkMerged_ok hissues hmethods, ← Option.some.inj hruled]
    · rw [ruledConfig_none hissues] at hruled
      cases hruled
  | _ =>
    unfold mergedOf at hmerged
    rw [hfile] at hmerged
    cases hmerged

theorem mergedOf_alike (h : Alike host.env first second) {merged other : Fields}
    (hmerged : mergedOf host first = some merged) (hother : mergedOf host second = some other) :
    Json.maskFields filled secret merged = Json.maskFields filled secret other := by
  have hfile := @loadFileConfig_alike host _ _ h.file
  unfold mergedOf at hmerged hother
  generalize (loadFileConfig host first.file).2 = one at hfile hmerged
  generalize (loadFileConfig host second.file).2 = two at hfile hother
  cases hfile with
  | thrown => cases hmerged
  | error _ _ => cases hmerged
  | config file file' hrel =>
    rw [← Option.some.inj hmerged, ← Option.some.inj hother]
    exact mergedConfig_eq h.env hrel

theorem ruledConfig_cases {merged : Fields} {config : JsonValue}
    (h : ruledConfig host merged = some config) : ∃ resolved,
      resolveAllowedAuthMethods host.env.toRuntime
          (setting ["ssh", "allowedAuthMethods"] (.object (parseFields merged configFields))) =
            .ok resolved ∧
        config = .object (withAuthMethods (parseFields merged configFields) resolved.methods) := by
  unfold ruledConfig at h
  dsimp only at h
  split at h
  · cases h
  · next resolved hmethods =>
      split at h
      · exact ⟨resolved, hmethods, (Option.some.inj h).symm⟩
      · cases h

theorem ruledConfig_alike {merged other : Fields} {config config' : JsonValue}
    (h : Json.maskFields filled secret merged = Json.maskFields filled secret other)
    (hconfig : ruledConfig host merged = some config)
    (hconfig' : ruledConfig host other = some config') : SameButSecrets config config' := by
  have hprocessed := processed_eq h
  have hssh : OpenSection "ssh" := by decide
  obtain ⟨resolved, hmethods, rfl⟩ := ruledConfig_cases hconfig
  obtain ⟨resolved', hmethods', rfl⟩ := ruledConfig_cases hconfig'
  rw [setting_eq hprocessed hssh, hmethods'] at hmethods
  rw [Except.ok.inj hmethods]
  exact withAuthMethods_eq (sameButSecrets_object.mp hprocessed) resolved.methods

theorem ruled_alike (h : Alike host.env first second) {config other : JsonValue}
    (hconfig : (mergedOf host first).bind (ruledConfig host) = some config)
    (hother : (mergedOf host second).bind (ruledConfig host) = some other) :
    SameButSecrets config other := by
  obtain ⟨merged, hmerged, hconfig⟩ := Option.bind_eq_some_iff.mp hconfig
  obtain ⟨merged', hmerged', hother⟩ := Option.bind_eq_some_iff.mp hother
  exact ruledConfig_alike (mergedOf_alike h hmerged hmerged') hconfig hother

theorem getLast_lines_of_errors {source : Source} {errors : List ConfigValidationError}
    (h : (loadEnhancedConfig host source).result = .errors errors)
    (hreal : hasRealError errors = true) :
    (loadConfigAsync host source).lines.getLast? = some (errorLine host errors) := by
  unfold loadConfigAsync
  dsimp only
  rw [h, report_real host source.file hreal, ← List.cons_append]
  exact List.getLast?_concat

theorem setting_user (leaf : Json.LeafView Number) (field : String) (config : JsonValue) :
    ((setting ["user"] config).map (Json.mask leaf (secret.below (js "user")))).bind
        (setting [field]) =
      (setting ["user", field] config).map
        (Json.mask leaf (secret.after [js "user", js field])) := by
  have huser : (setting ["user"] config).map (Json.mask leaf (secret.below (js "user"))) =
      setting ["user"] (Json.mask leaf secret config) := by
    unfold setting
    rw [Json.atPath_mask]
    rfl
  have hfield : ∀ value : JsonValue,
      (setting ["user"] value).bind (setting [field]) = setting ["user", field] value := by
    intro value
    unfold setting
    rw [List.map_cons, List.map_cons, List.map_cons, List.map_nil, Json.atPath, Json.atPath]
    cases Json.field (js "user") value with
    | none => rfl
    | some user => rfl
  rw [huser, hfield]
  unfold setting
  rw [Json.atPath_mask]
  rfl

end Loaded

section Samples

def sampleHost (depth : Nat) : LoadHost :=
  { env := { asciiRuntime with
      parseFloat := asciiRuntime.stringToNumber
      parseJson := fun _ => none
      additionalThemes := fun _ => ⟨[], rfl⟩ }
    issues := fun _ => []
    inspect := { depth := some depth, maxArrayLength := 100, maxStringLength := 10000 }
    startTime := 0
    endTime := 0
    configPath := js "config.json"
    randomSecret := js "0123456789abcdef0123456789abcdef" }

def passphraseConfig (text : String) : JsonValue :=
  jsonObject [("ssh", jsonObject [("host", jsonText "host")]),
    ("user", jsonObject [("name", jsonText "user"), ("passphrase", jsonText text)])]

def fileSource (config : PartialConfig) : Source :=
  { file := .parsed config, env := fun _ => none }

def passphraseOne : Source :=
  fileSource ⟨passphraseConfig "one", by decide⟩

def passphraseTwo : Source :=
  fileSource ⟨passphraseConfig "two", by decide⟩

theorem alike_passphrases (depth : Nat) :
    Alike (sampleHost depth).env passphraseOne passphraseTwo where
  file := .parsed _ _ (show SameButSecrets (passphraseConfig "one") (passphraseConfig "two") by
    decide)
  env := { others := fun _ _ _ => rfl, values := fun _ _ => rfl, seeds := fun _ _ => rfl }

-- Refused for want of a password and a key, with so much of the passphrase.
structure RefusedWith (host : LoadHost) (source : Source) (text : String) (config : JsonValue) :
    Prop where
  ruled : (mergedOf host source).bind (ruledConfig host) = some config
  reasons : (businessErrors host.env.toRuntime config).map reason =
    [(js "user", authenticationMessage)]
  lacks : lacksAuthentication config = true
  earlier : earlierErrors host.env.toRuntime config = []
  passphrase : setting ["user", "passphrase"] config = some (jsonText text)

variable {source : Source} {text : String}

theorem refusedWith_of_any {host : LoadHost}
    (h : ((mergedOf host source).bind (ruledConfig host)).any (fun config => decide ((businessErrors host.env.toRuntime config).map reason = [(js "user", authenticationMessage)] ∧ lacksAuthentication config = true ∧ earlierErrors host.env.toRuntime config = [] ∧ setting ["user", "passphrase"] config = some (jsonText text))) = true) :
    ∃ config, RefusedWith host source text config := by
  rw [Option.any_eq_true] at h
  obtain ⟨config, hconfig, hrefused⟩ := h
  have hall := of_decide_eq_true hrefused
  exact ⟨config, hconfig, hall.1, hall.2.1, hall.2.2.1, hall.2.2.2⟩

theorem RefusedWith.result {host : LoadHost} {config : JsonValue}
    (h : RefusedWith host source text config) :
    (loadEnhancedConfig host source).result =
      .errors (businessErrors host.env.toRuntime config) := by
  rw [loadEnhancedConfig_ruled h.ruled]
  rcases enhanceConfig_cases host config with ⟨hnone, _⟩ | ⟨_, hresult⟩
  · have hreasons := h.reasons
    rw [hnone] at hreasons
    cases hreasons
  · exact hresult

theorem RefusedWith.getLast_lines {host : LoadHost} {config : JsonValue}
    (h : RefusedWith host source text config) :
    (loadConfigAsync host source).lines.getLast? =
      some (errorLine host (businessErrors host.env.toRuntime config)) := by
  apply getLast_lines_of_errors h.result
  obtain ⟨error, herror, hpath⟩ := @authenticationError_mem host.env.toRuntime config h.lacks
  refine hasRealError_of_mem herror ?_
  rw [hpath]
  decide

theorem sameVerdict_of_refused {host : LoadHost} {first second : Source} {text other : String}
    (hfirst : ∃ config, RefusedWith host first text config)
    (hsecond : ∃ config, RefusedWith host second other config) :
    SameVerdict (loadEnhancedConfig host first).result (loadEnhancedConfig host second).result := by
  obtain ⟨one, hone⟩ := hfirst
  obtain ⟨two, htwo⟩ := hsecond
  rw [hone.result, htwo.result]
  exact .errors _ _ (hone.reasons.trans htwo.reasons.symm)

theorem refused_passphraseOne : ∃ config, RefusedWith (sampleHost 2) passphraseOne "one" config :=
  refusedWith_of_any (by decide +kernel)

theorem refused_passphraseTwo : ∃ config, RefusedWith (sampleHost 2) passphraseTwo "two" config :=
  refusedWith_of_any (by decide +kernel)

-- The checks do not ask how the lines are printed.
theorem refusedWith_depth (depth : Nat)
    (h : ∃ config, RefusedWith (sampleHost 2) source text config) :
    ∃ config, RefusedWith (sampleHost depth) source text config := by
  obtain ⟨config, hconfig⟩ := h
  exact ⟨config, hconfig.ruled, hconfig.reasons, hconfig.lacks, hconfig.earlier,
    hconfig.passphrase⟩

-- To a lesser depth the user is not printed.
theorem loadConfigAsync_iff_passphrases :
    (loadConfigAsync (sampleHost 1) passphraseOne).lines =
      (loadConfigAsync (sampleHost 1) passphraseTwo).lines := by
  have hdepth : ∀ index length, 2 < length →
      ¬ Visible (sampleHost 1).inspect index length := by
    intro index length hlength hvisible
    have hreaches := hvisible.2 1 rfl
    omega
  have hverdict := sameVerdict_of_refused (refusedWith_depth 1 refused_passphraseOne)
    (refusedWith_depth 1 refused_passphraseTwo)
  refine ((loadConfigAsync_iff (alike_passphrases 1) hverdict).mpr ?_).1
  intro merged _ other _
  exact ⟨fun hissues => absurd rfl hissues,
    fun config _ other _ _ hvisible => absurd hvisible (hdepth _ _ (by decide))⟩

-- To the depth that is the default, the passphrase is printed with the error.
theorem loadConfigAsync_passphrase_printed :
    Alike (sampleHost 2).env passphraseOne passphraseTwo ∧
      SameVerdict (loadEnhancedConfig (sampleHost 2) passphraseOne).result
        (loadEnhancedConfig (sampleHost 2) passphraseTwo).result ∧
      (loadConfigAsync (sampleHost 2) passphraseOne).lines ≠
        (loadConfigAsync (sampleHost 2) passphraseTwo).lines := by
  refine ⟨alike_passphrases 2, sameVerdict_of_refused refused_passphraseOne refused_passphraseTwo,
    fun hlines => ?_⟩
  obtain ⟨first, hfirst⟩ := refused_passphraseOne
  obtain ⟨second, hsecond⟩ := refused_passphraseTwo
  have hline := congrArg List.getLast? hlines
  rw [hfirst.getLast_lines, hsecond.getLast_lines, Option.some.injEq,
    businessErrors_line_iff (sampleHost 2) (ruled_alike (alike_passphrases 2) hfirst.ruled
      hsecond.ruled) (hfirst.reasons.trans hsecond.reasons.symm)] at hline
  have hvisible : Visible (sampleHost 2).inspect
      (earlierErrors (sampleHost 2).env.toRuntime first).length 3 := by
    rw [hfirst.earlier]
    refine ⟨by decide, fun levels hlevels => ?_⟩
    obtain rfl := Option.some.inj hlevels
    exact le_refl 3
  have huser := congrArg (fun value => value.bind (setting ["passphrase"]))
    (hline hfirst.lacks hvisible)
  rw [setting_user, setting_user, hfirst.passphrase, hsecond.passphrase] at huser
  revert huser
  decide

end Samples

end WebSsh2.Config

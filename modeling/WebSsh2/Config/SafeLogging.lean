import WebSsh2.Library.JsonMask
import WebSsh2.Validation.BusinessRules

namespace WebSsh2.Config

open WebSsh2.Library WebSsh2.Validation

section Masking

def stars : JsString := js "***"

def maskWhenFilled (value : JsValue) : JsonValue :=
  if isFilled value then .string stars else .null

def maskSessionSecret (secret : JsValue) : JsonValue :=
  if isFilled secret then .string stars else .string (js "not set")

-- A record as it is printed. A field that is `undefined` is left out here.
def record (fields : List (String × JsValue)) : JsonValue :=
  .object (fields.filterMap fun entry => entry.2.map fun value => (js entry.1, value))

-- `?.length ?? 0`
def lengthOf : JsValue → JsonValue
  | some (.array items) => .number (Number.ofInt items.length)
  | some (.string text) => .number (Number.ofInt text.length)
  | _ => .number (Number.ofInt 0)

-- Fields that are copied as they are.
def copied (path fields : List String) (config : JsonValue) : List (String × JsValue) :=
  fields.map fun field => (field, setting (path ++ [field]) config)

variable (config : JsonValue)

def maskedTheming : JsValue :=
  if setting ["options", "theming"] config = none then
    none
  else
    some (record
      (copied ["options", "theming"]
          ["enabled", "allowCustom", "defaultTheme", "headerBackground"] config ++
        [("themesCount", some (lengthOf (setting ["options", "theming", "themes"] config))),
          ("additionalThemesCount",
            some (lengthOf (setting ["options", "theming", "additionalThemes"] config)))]))

def maskedSsh : JsonValue :=
  if setting ["ssh"] config = none then
    record []
  else
    record
      (copied ["ssh"] ["host", "port", "localAddress", "localPort", "term", "readyTimeout",
          "keepaliveInterval", "keepaliveCountMax"] config ++
        [("allowedSubnets", some (lengthOf (setting ["ssh", "allowedSubnets"] config))),
          ("algorithms", some (record (copied ["ssh", "algorithms"]
            ["cipher", "kex", "hmac", "compress", "serverHostKey"] config)))])

def maskedSession : JsonValue :=
  if setting ["session"] config = none then
    record [("name", some (.string [])), ("secret", some (.string (js "not set")))]
  else
    record [("name", setting ["session", "name"] config),
      ("secret", some (maskSessionSecret (setting ["session", "secret"] config)))]

def maskedSso : JsonValue :=
  if setting ["sso"] config = none then
    record [("enabled", some (.bool false)), ("csrfProtection", some (.bool false)),
      ("trustedProxies", some (.number (Number.ofInt 0)))]
  else
    record [("enabled", setting ["sso", "enabled"] config),
      ("csrfProtection", setting ["sso", "csrfProtection"] config),
      ("trustedProxies", some (lengthOf (setting ["sso", "trustedProxies"] config)))]

def userFields : List String :=
  ["name", "password", "privateKey", "passphrase"]

def maskSensitiveConfig : JsonValue :=
  record
    [("listen", setting ["listen"] config),
      ("http", some (record
        [("origins", some ((setting ["http", "origins"] config).getD (.array [])))])),
      ("user", some (record (userFields.map fun field =>
        (field, some (maskWhenFilled (setting ["user", field] config)))))),
      ("ssh", some (maskedSsh config)),
      ("header", setting ["header"] config),
      ("options", some (record (copied ["options"]
        ["challengeButton", "autoLog", "allowReauth", "allowReconnect", "allowReplay",
          "replayCRLF"] config))),
      ("session", some (maskedSession config)),
      ("sso", some (maskedSso config)),
      ("theming", maskedTheming config)]

end Masking

section Secrets

def secretPaths : List (List JsString) :=
  [[js "user", js "password"], [js "user", js "privateKey"], [js "user", js "passphrase"],
    [js "session", js "secret"]]

def secret : Json.Paths :=
  fun path => decide (path ∈ secretPaths)

-- Texts that are filled are told apart no further, nor are null and the empty text.
def filledView : JsonValue → JsonValue
  | .string text => if text = [] then .null else .string stars
  | value => value

def filled : Json.LeafView Number where
  view := filledView
  isObject_view value h := by
    cases value with
    | string text =>
      rw [filledView]
      split <;> rfl
    | object fields => cases h
    | _ => rfl

-- Configurations that differ in the values of secrets at most, filled or not alike; a secret
-- that is neither a text nor null is the same in both.
def SameButSecrets (first second : JsonValue) : Prop :=
  Json.mask filled secret first = Json.mask filled secret second

instance (first second : JsonValue) : Decidable (SameButSecrets first second) :=
  inferInstanceAs (Decidable (_ = _))

end Secrets

section NonInterference

theorem isFilled_filledView (value : JsonValue) :
    isFilled (some (filledView value)) = isFilled (some value) := by
  cases value with
  | string text =>
    rw [filledView]
    by_cases htext : text = []
    · rw [if_pos htext, htext]
      rfl
    · rw [if_neg htext]
      exact (decide_eq_true htext).symm
  | _ => rfl

theorem isFilled_mask (paths : Json.Paths) (value : JsValue) :
    isFilled (value.map (Json.mask filled paths)) = isFilled value := by
  cases value with
  | none => rfl
  | some value =>
    cases hvalue : value.isObject with
    | true =>
      cases value with
      | object fields =>
        rw [Option.map_some, Json.mask]
        rfl
      | _ => cases hvalue
    | false =>
      rw [Option.map_some, Json.mask_of_not_object filled paths hvalue]
      split
      · exact isFilled_filledView value
      · rfl

variable {first second : JsonValue}

theorem isFilled_setting (h : SameButSecrets first second) (path : List String) :
    isFilled (setting path first) = isFilled (setting path second) := by
  have hpath := congrArg (fun value => isFilled (setting path value)) h
  dsimp only [setting] at hpath
  rw [Json.atPath_mask, Json.atPath_mask, isFilled_mask, isFilled_mask] at hpath
  exact hpath

-- No secret is at the path or below it.
def OpenPath (path : List JsString) : Prop :=
  ∀ rest, secret (path ++ rest) = false

-- The sections without secrets.
def OpenSection (name : String) : Prop :=
  js name ≠ js "user" ∧ js name ≠ js "session"

instance (name : String) : Decidable (OpenSection name) :=
  inferInstanceAs (Decidable (js name ≠ js "user" ∧ js name ≠ js "session"))

theorem openPath_of_section {name : String} (h : OpenSection name) (path : List JsString) :
    OpenPath (js name :: path) := by
  intro rest
  apply decide_eq_false
  intro hmem
  simp only [secretPaths, List.mem_cons, List.not_mem_nil, or_false, List.cons_append,
    List.cons.injEq] at hmem
  rcases hmem with hmem | hmem | hmem | hmem
  · exact h.1 hmem.1
  · exact h.1 hmem.1
  · exact h.1 hmem.1
  · exact h.2 hmem.1

theorem setting_of_open (h : SameButSecrets first second) {path : List String}
    (hopen : OpenPath (path.map js)) : setting path first = setting path second :=
  Json.atPath_of_mask_eq filled h hopen

theorem setting_eq (h : SameButSecrets first second) {name : String} (hopen : OpenSection name)
    (path : List String) : setting (name :: path) first = setting (name :: path) second :=
  setting_of_open h (openPath_of_section hopen (path.map js))

theorem copied_eq (h : SameButSecrets first second) {name : String} (hopen : OpenSection name)
    (path fields : List String) :
    copied (name :: path) fields first = copied (name :: path) fields second :=
  List.map_congr_left fun field _ => by rw [List.cons_append, setting_eq h hopen]

-- Whether there is something at a path is seen through a mask.
theorem setting_eq_none_iff (h : SameButSecrets first second) (path : List String) :
    setting path first = none ↔ setting path second = none := by
  have hpath := congrArg (setting path) h
  unfold setting at hpath ⊢
  rw [Json.atPath_mask, Json.atPath_mask] at hpath
  have hsome := congrArg Option.isSome hpath
  rw [Option.isSome_map, Option.isSome_map] at hsome
  rw [← Option.not_isSome_iff_eq_none, ← Option.not_isSome_iff_eq_none, hsome]

theorem openPath_of_length {path : List JsString} (hlength : 2 ≤ path.length)
    (h : path ∉ secretPaths) : OpenPath path := by
  intro rest
  apply decide_eq_false
  intro hmem
  have htwo : ∀ other ∈ secretPaths, other.length = 2 := by decide
  have hrest := htwo _ hmem
  rw [List.length_append] at hrest
  have hnil : rest = [] := List.length_eq_zero_iff.mp (by omega)
  rw [hnil, List.append_nil] at hmem
  exact h hmem

theorem maskedSession_eq (h : SameButSecrets first second) :
    maskedSession first = maskedSession second := by
  have hname : setting ["session", "name"] first = setting ["session", "name"] second :=
    setting_of_open h (openPath_of_length (le_refl 2) (by decide))
  have hnone := setting_eq_none_iff h ["session"]
  unfold maskedSession maskSessionSecret
  rw [hname, isFilled_setting h]
  by_cases hsecond : setting ["session"] second = none
  · rw [if_pos (hnone.mpr hsecond), if_pos hsecond]
  · rw [if_neg (mt hnone.mp hsecond), if_neg hsecond]

theorem maskSensitiveConfig_eq (h : SameButSecrets first second) :
    maskSensitiveConfig first = maskSensitiveConfig second := by
  have hoptions : OpenSection "options" := by decide
  have hssh : OpenSection "ssh" := by decide
  have hsso : OpenSection "sso" := by decide
  have huser : (userFields.map fun field =>
      (field, some (maskWhenFilled (setting ["user", field] first)))) =
        userFields.map fun field =>
          (field, some (maskWhenFilled (setting ["user", field] second))) :=
    List.map_congr_left fun field _ => by
      rw [maskWhenFilled, maskWhenFilled, isFilled_setting h]
  unfold maskSensitiveConfig maskedTheming maskedSsh maskedSso
  rw [huser, maskedSession_eq h]
  simp only [copied_eq h hoptions, copied_eq h hssh, setting_eq h hoptions, setting_eq h hssh,
    setting_eq h hsso, setting_eq h (show OpenSection "listen" by decide),
    setting_eq h (show OpenSection "http" by decide),
    setting_eq h (show OpenSection "header" by decide)]

end NonInterference

end WebSsh2.Config

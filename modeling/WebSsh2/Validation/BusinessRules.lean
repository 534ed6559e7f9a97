import WebSsh2.Library.JsonOverlay
import WebSsh2.Values

namespace WebSsh2.Validation

open WebSsh2.Library

-- `path`, `message` and the value at fault, which may be `undefined`.
structure ConfigValidationError where
  path : JsString
  message : JsString
  value : JsValue

section Fields

-- `host == null || host === ''` is no host.
def validateSshHost (host : Option JsString) : Except JsString (Option JsString) :=
  match host with
  | none => .ok none
  | some text =>
    if text = [] then
      .ok none
    else if 32 ∈ text then
      .error (js "Invalid SSH host: " ++ text ++ js " (contains spaces)")
    else
      .ok (some text)

def isInteger : Number → Bool
  | .finite value => value.den = 1
  | _ => false

def validateSshPort (runtime : Runtime) (port : Option Number) : Except JsString Number :=
  let given := port.getD (Number.ofInt 22)
  if isInteger given = false ∨ given.lt (Number.ofInt 1) = true ∨
      (Number.ofInt 65535).lt given = true then
    .error (js "Invalid SSH port: " ++ runtime.numberToString given)
  else
    .ok given

-- A letter, a digit, one of `#(),.-` or a blank.
def isColorUnit (unit : UInt16) : Bool :=
  (97 ≤ unit && unit ≤ 122) || (65 ≤ unit && unit ≤ 90) || isDigit unit ||
    unit ∈ ([35, 40, 41, 44, 46, 45] : List UInt16) || isWhiteSpace unit

-- What is no color is given back as `undefined`.
def validateCssColor (color : Option JsString) : Option JsString :=
  match color with
  | none => none
  | some text => if text = [] then none else if text.all isColorUnit then some text else none

-- Only what a validator throws is an error of the field.
def validateField {α : Type} (validator : Except JsString α) (path : JsString) (value : JsValue)
    (errors : List ConfigValidationError) : List ConfigValidationError :=
  match validator with
  | .ok _ => errors
  | .error message => errors ++ [{ path, message, value }]

end Fields

section Rules

-- `config.section.field`, where the schema has seen to the sections.
def setting (path : List String) (config : JsonValue) : JsValue :=
  config.atPath (path.map js)

def textOf : JsValue → Option JsString
  | some (.string text) => some text
  | _ => none

def numberOf : JsValue → Option Number
  | some (.number value) => some value
  | _ => none

-- `value != null && value !== ''`
def isFilled : JsValue → Bool
  | none => false
  | some .null => false
  | some (.string text) => text ≠ []
  | some _ => true

variable (config : JsonValue)

def lacksAuthentication : Bool :=
  isFilled (setting ["ssh", "host"] config) && isFilled (setting ["user", "name"] config) &&
    !(isFilled (setting ["user", "password"] config) ||
      isFilled (setting ["user", "privateKey"] config))

def authenticationMessage : JsString :=
  js "SSH host is configured but no authentication method (password or private key) is provided"

def checkAuthConfiguration (errors : List ConfigValidationError) : List ConfigValidationError :=
  if lacksAuthentication config then
    errors ++ [{ path := js "user", message := authenticationMessage
                 value := setting ["user"] config }]
  else errors

def checkSshHost (errors : List ConfigValidationError) : List ConfigValidationError :=
  let host := setting ["ssh", "host"] config
  validateField (validateSshHost (textOf host)) (js "ssh.host") host errors

variable (runtime : Runtime)

def checkPort (path : List String) (name : String) (config : JsonValue)
    (errors : List ConfigValidationError) : List ConfigValidationError :=
  let port := setting path config
  validateField (validateSshPort runtime (numberOf port)) (js name) port errors

def checkHeaderBackground (errors : List ConfigValidationError) : List ConfigValidationError :=
  let background := setting ["header", "background"] config
  if background ≠ some .null ∧ background ≠ some (.string []) then
    validateField (.ok (validateCssColor (textOf background))) (js "header.background") background
      errors
  else errors

def checkLocalPort (config : JsonValue) (errors : List ConfigValidationError) :
    List ConfigValidationError :=
  if (setting ["ssh", "localPort"] config).isSome then
    checkPort runtime ["ssh", "localPort"] "ssh.localPort" config errors
  else errors

def checkSessionSecret (errors : List ConfigValidationError) : List ConfigValidationError :=
  match setting ["session", "secret"] config with
  | some (.string secret) =>
    if secret.length < 32 then
      errors ++ [{ path := js "session.secret"
                   message := js "Session secret should be at least 32 characters for security"
                   value := some (.string (js "[REDACTED]")) }]
    else errors
  | _ => errors

def businessErrors (config : JsonValue) : List ConfigValidationError :=
  checkSessionSecret config
    (checkAuthConfiguration config
      (checkPort runtime ["listen", "port"] "listen.port" config
        (checkLocalPort runtime config
          (checkHeaderBackground config
            (checkPort runtime ["ssh", "port"] "ssh.port" config
              (checkSshHost config []))))))

def validateBusinessRules (config : JsonValue) : Except (List ConfigValidationError) JsonValue :=
  if businessErrors runtime config = [] then .ok config
  else .error (businessErrors runtime config)

end Rules

section Errors

variable (runtime : Runtime) (config : JsonValue)

-- The errors that are found before the authentication is asked about.
def earlierErrors : List ConfigValidationError :=
  checkPort runtime ["listen", "port"] "listen.port" config
    (checkLocalPort runtime config
      (checkHeaderBackground config
        (checkPort runtime ["ssh", "port"] "ssh.port" config (checkSshHost config []))))

def authenticationErrors : List ConfigValidationError :=
  checkAuthConfiguration config []

def secretErrors : List ConfigValidationError :=
  checkSessionSecret config []

theorem businessErrors_eq :
    businessErrors runtime config =
      earlierErrors runtime config ++ authenticationErrors config ++ secretErrors config := by
  have hauth : ∀ errors, checkAuthConfiguration config errors =
      errors ++ authenticationErrors config := by
    intro errors
    unfold authenticationErrors checkAuthConfiguration
    split
    · rfl
    · rw [List.append_nil]
  have hsecret : ∀ errors, checkSessionSecret config errors = errors ++ secretErrors config := by
    intro errors
    unfold secretErrors checkSessionSecret
    split
    · split
      · rfl
      · rw [List.append_nil]
    · rw [List.append_nil]
  rw [← hauth, ← hsecret]
  rfl

-- Every error names the field that it is about.
def NamesField (errors : List ConfigValidationError) : Prop :=
  ∀ error ∈ errors, error.path ≠ []

variable {errors : List ConfigValidationError}

theorem namesField_append (h : NamesField errors) {error : ConfigValidationError}
    (hpath : error.path ≠ []) : NamesField (errors ++ [error]) := by
  intro other hother
  rcases List.mem_append.mp hother with hold | hnew
  · exact h other hold
  · rw [List.mem_singleton.mp hnew]
    exact hpath

theorem namesField_validateField {α : Type} (validator : Except JsString α) {path : JsString}
    (value : JsValue) (hpath : path ≠ []) (h : NamesField errors) :
    NamesField (validateField validator path value errors) := by
  cases validator with
  | ok _ => exact h
  | error message => exact namesField_append h hpath

theorem namesField_checkHeaderBackground (h : NamesField errors) :
    NamesField (checkHeaderBackground config errors) := by
  unfold checkHeaderBackground
  dsimp only
  split
  · exact namesField_validateField _ _ (by decide) h
  · exact h

theorem namesField_checkLocalPort (h : NamesField errors) :
    NamesField (checkLocalPort runtime config errors) := by
  unfold checkLocalPort
  split
  · exact namesField_validateField _ _ (by decide) h
  · exact h

theorem namesField_checkAuthConfiguration (h : NamesField errors) :
    NamesField (checkAuthConfiguration config errors) := by
  have huser : js "user" ≠ [] := by decide
  unfold checkAuthConfiguration
  split
  · exact namesField_append h huser
  · exact h

theorem namesField_checkSessionSecret (h : NamesField errors) :
    NamesField (checkSessionSecret config errors) := by
  unfold checkSessionSecret
  split
  · split
    · exact namesField_append h (by decide)
    · exact h
  · exact h

theorem businessErrors_namesField : NamesField (businessErrors runtime config) := by
  unfold businessErrors
  apply namesField_checkSessionSecret
  apply namesField_checkAuthConfiguration
  apply namesField_validateField _ _ (by decide)
  apply namesField_checkLocalPort
  apply namesField_checkHeaderBackground
  apply namesField_validateField _ _ (by decide)
  apply namesField_validateField _ _ (by decide)
  exact nofun

-- The secret itself is not in the error about it.
theorem secretErrors_cases :
    secretErrors config = [] ∨ secretErrors config =
      [{ path := js "session.secret"
         message := js "Session secret should be at least 32 characters for security"
         value := some (.string (js "[REDACTED]")) }] := by
  unfold secretErrors checkSessionSecret
  split
  · split
    · exact .inr rfl
    · exact .inl rfl
  · exact .inl rfl

end Errors

end WebSsh2.Validation

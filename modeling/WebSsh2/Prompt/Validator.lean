import WebSsh2.Values

namespace WebSsh2.Prompt

open WebSsh2.Library

abbrev PromptId := JsString

def maxInputs : Nat := 10
def maxInputValueLength : Nat := 10000
def maxActionLength : Nat := 64
def maxPendingPromptsPerSocket : Nat := 10

def defaultPromptMs : Int := 300000

section Patterns

def isLetter (unit : UInt16) : Bool :=
  (65 ≤ unit && unit ≤ 90) || (97 ≤ unit && unit ≤ 122)

def isWordUnit (unit : UInt16) : Bool :=
  isLetter unit || isDigit unit || unit = 95

-- `/^[a-zA-Z][a-zA-Z0-9_-]{0,63}$/`
def actionName (text : JsString) : Bool :=
  match text with
  | first :: rest =>
    isLetter first && rest.length ≤ 63 && rest.all fun unit => isWordUnit unit || unit = 45
  | [] => false

-- `/^[a-zA-Z]\w{0,63}$/`
def inputKey (text : JsString) : Bool :=
  match text with
  | first :: rest => isLetter first && rest.length ≤ 63 && rest.all isWordUnit
  | [] => false

-- What follows a `<` closes it: `[^>]{0,1000}>`.
def closesTag (rest : JsString) : Bool :=
  let inside := rest.takeWhile (· ≠ 62)
  inside.length ≤ 1000 && inside.length < rest.length

-- `/<[^>]{0,1000}>/`, anywhere in the text.
def htmlTag : JsString → Bool
  | [] => false
  | unit :: rest => (unit = 60 && closesTag rest) || htmlTag rest

end Patterns

inductive PromptType where
  | input | confirm | notice | toast
deriving DecidableEq

inductive PromptButtonVariant where
  | primary | secondary | danger
deriving DecidableEq

inductive PromptInputType where
  | text | password | textarea
deriving DecidableEq

inductive PromptSeverity where
  | info | warning | error | success
deriving DecidableEq

structure PromptButton where
  action : JsString
  label : JsString
  variant : Option PromptButtonVariant
deriving DecidableEq

structure PromptInput where
  id : JsString
  label : JsString
  type : PromptInputType
  placeholder : Option JsString := none
  value : Option JsString := none
  required : Option Bool := none
deriving DecidableEq

structure PromptPayload where
  id : PromptId
  type : PromptType
  title : JsString
  message : Option JsString := none
  buttons : Option (List PromptButton) := none
  inputs : Option (List PromptInput) := none
  severity : Option PromptSeverity := none
  icon : Option JsString := none
  autoFocus : Option Bool := none
  timeout : Option Int := none
  closeOnBackdrop : Option Bool := none
deriving DecidableEq

-- The inputs by their keys, each key once.
structure PromptResponse where
  id : PromptId
  action : JsString
  inputs : Option (List (JsString × JsString))
deriving DecidableEq

section Responses

def isPromptId : JsValue → Option PromptId
  | some (.string text) => if text ≠ [] ∧ text.length ≤ 128 then some text else none
  | _ => none

def validateAction : JsValue → Except JsString JsString
  | some (.string value) =>
    if value.length = 0 then
      .error (js "Action is required")
    else if maxActionLength < value.length then
      .error (js "Action exceeds maximum length of 64")
    else if !actionName value then
      .error (js "Invalid action format: must start with letter, " ++
        js "contain only alphanumeric, underscore, hyphen")
    else
      .ok value
  | _ => .error (js "Action must be a string")

def validateInputEntry (key : JsString) (value : JsonValue) :
    Except JsString (JsString × JsString) :=
  if !inputKey key then
    .error (js "Invalid input key format: " ++ key)
  else
    match value with
    | .string text =>
      if maxInputValueLength < text.length then
        .error (js "Input value for '" ++ key ++ js "' exceeds maximum length of 10000")
      else if htmlTag text then
        .error (js "Input value for '" ++ key ++ js "' contains invalid HTML-like content")
      else
        .ok (key, text)
    | _ => .error (js "Input value for '" ++ key ++ js "' must be a string")

-- The loop over the entries stops at the first one that does not pass.
def validateInputEntries :
    List (JsString × JsonValue) → Except JsString (List (JsString × JsString))
  | [] => .ok []
  | (key, value) :: rest =>
    match validateInputEntry key value with
    | .error message => .error message
    | .ok entry =>
      match validateInputEntries rest with
      | .error message => .error message
      | .ok entries => .ok (entry :: entries)

def validateResponseInputs : JsonValue → Except JsString (List (JsString × JsString))
  | .object entries =>
    if maxInputs < entries.length then
      .error (js "Too many input values (max 10)")
    else
      validateInputEntries entries
  | _ => .error (js "Inputs must be an object")

def validatePromptResponse : JsValue → Except JsString PromptResponse
  | some (.object data) =>
    match isPromptId (Json.lookup (js "id") data) with
    | none => .error (js "Invalid or missing prompt ID")
    | some id =>
      match validateAction (Json.lookup (js "action") data) with
      | .error message => .error message
      | .ok action =>
        match Json.lookup (js "inputs") data with
        | none | some .null => .ok { id, action, inputs := none }
        | some inputs =>
          match validateResponseInputs inputs with
          | .error message => .error message
          | .ok inputs => .ok { id, action, inputs := some inputs }
  | _ => .error (js "Prompt response must be an object")

def validateResponseAction (action : JsString) (expectedButtons : List PromptButton) :
    Except JsString Unit :=
  let validActions := (expectedButtons.map (·.action) ++ [js "dismissed", js "timeout"]).eraseDups
  if action ∈ validActions then
    .ok ()
  else
    .error (js "Invalid action '" ++ action ++ js "'. Expected one of: " ++
      (js ", ").intercalate validActions)

-- What every object has without a field of that name, and what is no text.
def inheritedProperties : List JsString :=
  [js "constructor", js "__defineGetter__", js "__defineSetter__", js "hasOwnProperty",
    js "__lookupGetter__", js "__lookupSetter__", js "isPrototypeOf", js "propertyIsEnumerable",
    js "toString", js "valueOf", js "__proto__", js "toLocaleString"]

-- `responseInputs[key]` is undefined or empty.
def lacksValue (responseInputs : List (JsString × JsString)) (key : JsString) : Bool :=
  match responseInputs.lookup key with
  | some value => value = []
  | none => key ∉ inheritedProperties

def validateResponseInputKeys (responseInputs : Option (List (JsString × JsString)))
    (expectedInputs : Option (List PromptInput)) : Except JsString Unit :=
  match expectedInputs with
  | none | some [] =>
    match responseInputs with
    | none | some [] => .ok ()
    | some _ => .error (js "Unexpected input values provided")
  | some expected =>
    let requiredKeys := ((expected.filter (·.required = some true)).map (·.id)).eraseDups
    match responseInputs with
    | none =>
      if requiredKeys ≠ [] then
        .error (js "Missing required inputs: " ++ (js ", ").intercalate requiredKeys)
      else
        .ok ()
    | some given =>
      match (given.map Prod.fst).find? fun key => key ∉ expected.map (·.id) with
      | some key => .error (js "Unexpected input key: " ++ key)
      | none =>
        match requiredKeys.find? (lacksValue given) with
        | some key => .error (js "Missing or empty required input: " ++ key)
        | none => .ok ()

end Responses

section Creators

structure InputPromptOptions where
  title : JsString
  message : Option JsString := none
  inputs : List PromptInput
  submitLabel : Option JsString := none
  cancelLabel : Option JsString := none
  severity : Option PromptSeverity := none
  icon : Option JsString := none
  autoFocus : Option Bool := none
  timeout : Option Int := none

structure ConfirmPromptOptions where
  title : JsString
  message : Option JsString := none
  confirmLabel : Option JsString := none
  cancelLabel : Option JsString := none
  severity : Option PromptSeverity := none
  icon : Option JsString := none
  timeout : Option Int := none

structure NoticePromptOptions where
  title : JsString
  message : Option JsString := none
  okLabel : Option JsString := none
  severity : Option PromptSeverity := none
  icon : Option JsString := none
  timeout : Option Int := none

-- The random id of a prompt is a parameter of the functions that create it.
variable (id : PromptId)

def createInputPrompt (options : InputPromptOptions) : PromptPayload where
  id := id
  type := .input
  title := options.title
  message := options.message
  buttons := some [
    { action := js "submit", label := options.submitLabel.getD (js "Submit"),
      variant := some .primary },
    { action := js "cancel", label := options.cancelLabel.getD (js "Cancel"),
      variant := some .secondary }]
  inputs := some options.inputs
  severity := some (options.severity.getD .info)
  icon := options.icon
  autoFocus := some (options.autoFocus.getD true)
  timeout := some (options.timeout.getD defaultPromptMs)
  closeOnBackdrop := some false

def createConfirmPrompt (options : ConfirmPromptOptions) : PromptPayload where
  id := id
  type := .confirm
  title := options.title
  message := options.message
  buttons := some [
    { action := js "confirm", label := options.confirmLabel.getD (js "Yes"),
      variant := some .primary },
    { action := js "cancel", label := options.cancelLabel.getD (js "No"),
      variant := some .secondary }]
  severity := some (options.severity.getD .info)
  icon := options.icon
  autoFocus := some true
  timeout := some (options.timeout.getD defaultPromptMs)
  closeOnBackdrop := some true

def createNoticePrompt (options : NoticePromptOptions) : PromptPayload where
  id := id
  type := .notice
  title := options.title
  message := options.message
  buttons := some [
    { action := js "ok", label := options.okLabel.getD (js "OK"), variant := some .primary }]
  severity := some (options.severity.getD .info)
  icon := options.icon
  autoFocus := some true
  timeout := some (options.timeout.getD defaultPromptMs)
  closeOnBackdrop := some true

end Creators

end WebSsh2.Prompt

import WebSsh2.Library.JsonText
import WebSsh2.Prompt.Validator

namespace WebSsh2.Theming

open WebSsh2.Library WebSsh2.Prompt

structure UrlRecord where
  protocol : JsString
  href : JsString

-- What the language does with names and addresses: `normalize('NFKC')`, `toLowerCase`
-- and `new URL`, which gives `none` where it throws.
structure ThemeRuntime where
  normalize : JsString → JsString
  toLowerCase : JsString → JsString
  parseUrl : JsString → Option UrlRecord

section Names

-- `text.replace(/\s+/g, ' ')`: the last unit of a run of blanks becomes the space.
def foldBlanks : JsString → JsString
  | [] => []
  | unit :: rest =>
    if isWhiteSpace unit then
      if rest.head?.any isWhiteSpace then foldBlanks rest else 32 :: foldBlanks rest
    else
      unit :: foldBlanks rest

-- `[\w .\-()]`
def isThemeNameUnit (unit : UInt16) : Bool :=
  isWordUnit unit || unit ∈ js " .-()"

-- `THEME_NAME_REGEX`
def isThemeName (name : JsString) : Bool :=
  1 ≤ name.length && name.length ≤ 64 && name.all isThemeNameUnit

def reserved : List JsString :=
  [js "default", js "custom"]

variable (runtime : ThemeRuntime)

def canonicalizeThemeName (name : JsString) : JsString :=
  runtime.toLowerCase (foldBlanks (trim (runtime.normalize name)))

def isReservedThemeName (name : JsString) : Bool :=
  canonicalizeThemeName runtime name ∈ reserved

end Names

def themeColorKeys : List JsString :=
  [js "background", js "foreground", js "cursor", js "cursorAccent", js "selectionBackground",
    js "selectionForeground", js "selectionInactiveBackground", js "black", js "red", js "green",
    js "yellow", js "blue", js "magenta", js "cyan", js "white", js "brightBlack",
    js "brightRed", js "brightGreen", js "brightYellow", js "brightBlue", js "brightMagenta",
    js "brightCyan", js "brightWhite"]

-- `HEX_COLOR_REGEX`
def isHexColor : JsString → Bool
  | 35 :: digits =>
    digits.all (fun unit => (Json.hexValue unit).isSome) &&
      (digits.length = 3 || digits.length = 6 || digits.length = 8)
  | _ => false

-- `LICENSE_REGEX`
def isLicense (license : JsString) : Bool :=
  license.length ≤ 256 &&
    license.all fun unit => isWordUnit unit || unit ∈ js " .,-()@/+:"

def maxThemeBytes : Nat := 4 * 1024
def maxSourceLength : Nat := 256

def forbiddenPrototypeKeys : List JsString :=
  [js "__proto__", js "constructor", js "prototype"]

-- `SCRIPT_BAIT`, where only the letters of ASCII have two cases.
def scriptBait (text : JsString) : Bool :=
  let folded := text.map fun unit => if 65 ≤ unit && unit ≤ 90 then unit + 32 else unit
  includes (js "<script") folded || includes (js "</script") folded || includes (js "<!--") folded

inductive ThemeValidationContext where
  | builtin
  | additional
  | custom
deriving DecidableEq

structure ThemeValidationError where
  path : JsString
  reason : JsString
deriving DecidableEq

structure AdditionalTheme where
  name : JsString
  colors : List (JsString × JsString)
  license : Option JsString
  source : Option JsString
deriving DecidableEq

structure FieldResult (α : Type) where
  value : α
  errors : List ThemeValidationError

abbrev Fields := List (JsString × JsonValue)

def collectForbiddenEntryKeyErrors (input : Fields) : List ThemeValidationError :=
  (forbiddenPrototypeKeys.filter fun key => (Json.lookup key input).isSome).map fun key =>
    { path := key, reason := js "forbidden prototype-pollution key on entry" }

def colorKeyError (pathStart key : JsString) : Option ThemeValidationError :=
  if key ∈ forbiddenPrototypeKeys then
    some { path := pathStart ++ js "." ++ key, reason := js "forbidden prototype-pollution key" }
  else if key ∉ themeColorKeys then
    some { path := pathStart ++ js "." ++ key, reason := js "unknown color key" }
  else
    none

def collectColorKeyErrors (input : Fields) (pathStart : JsString) : List ThemeValidationError :=
  input.filterMap fun field => colorKeyError pathStart field.1

-- The colour that one turn of the loop keeps, and the error that it adds.
def colorOf (input : Fields) (key : JsString) : Option JsString :=
  match Json.lookup key input with
  | some (.string value) => if isHexColor value then some value else none
  | _ => none

def colorError (input : Fields) (pathStart key : JsString) : Option ThemeValidationError :=
  match Json.lookup key input with
  | none => none
  | some _ =>
    match colorOf input key with
    | some _ => none
    | none =>
      some { path := pathStart ++ js "." ++ key
             reason := js "must be #rgb, #rrggbb, or #rrggbbaa hex string" }

def rebuildColors (input : Option JsonValue) (pathStart : JsString) :
    FieldResult (List (JsString × JsString)) :=
  match input with
  | some (.object fields) =>
    { value := themeColorKeys.filterMap fun key => (colorOf fields key).map (key, ·)
      errors := collectColorKeyErrors fields pathStart ++
        themeColorKeys.filterMap (colorError fields pathStart) }
  | _ => { value := [], errors := [{ path := pathStart, reason := js "colors must be an object" }] }

section Validation

variable (runtime : ThemeRuntime)

def collidesWithBuiltin (canonical : JsString) (builtinNames : List JsString) : Bool :=
  let lower := canonicalizeThemeName runtime canonical
  builtinNames.any fun builtin => canonicalizeThemeName runtime builtin = lower

def collectAdditionalNameErrors (canonical : JsString) (builtinNames : List JsString) :
    List ThemeValidationError :=
  if isReservedThemeName runtime canonical then
    [{ path := js "name", reason := js "name is reserved" }]
  else if collidesWithBuiltin runtime canonical builtinNames then
    [{ path := js "name", reason := js "name collides with built-in (case-insensitive)" }]
  else
    []

def validateName (rawName : Option JsonValue) (context : ThemeValidationContext)
    (builtinNames : List JsString) : FieldResult JsString :=
  match rawName with
  | some (.string rawName) =>
    let canonical := foldBlanks (trim (runtime.normalize rawName))
    if !isThemeName canonical then
      { value := canonical
        errors := [{ path := js "name", reason := js "name fails name regex" }] }
    else if context ≠ .additional then
      { value := canonical, errors := [] }
    else
      { value := canonical
        errors := collectAdditionalNameErrors runtime canonical builtinNames }
  | _ => { value := [], errors := [{ path := js "name", reason := js "name must be a string" }] }

def validateLicense (input : Fields) : FieldResult (Option JsString) :=
  match Json.lookup (js "license") input with
  | none => { value := none, errors := [] }
  | some (.string license) =>
    if !isLicense license then
      { value := none
        errors :=
          [{ path := js "license", reason := js "license contains disallowed characters" }] }
    else if scriptBait license then
      { value := none
        errors := [{ path := js "license", reason := js "license contains script bait" }] }
    else
      { value := some license, errors := [] }
  | some _ =>
    { value := none
      errors := [{ path := js "license", reason := js "license must be a string" }] }

def validateSourceUrl (source : JsString) : FieldResult (Option JsString) :=
  match runtime.parseUrl source with
  | none =>
    { value := none
      errors := [{ path := js "source", reason := js "source must be a valid URL" }] }
  | some url =>
    if url.protocol = js "https:" then
      { value := some url.href, errors := [] }
    else
      { value := none, errors := [{ path := js "source", reason := js "source must be https" }] }

def validateSource (input : Fields) : FieldResult (Option JsString) :=
  match Json.lookup (js "source") input with
  | none => { value := none, errors := [] }
  | some (.string source) =>
    if maxSourceLength < source.length then
      { value := none
        errors := [{ path := js "source", reason := js "source exceeds 256 chars" }] }
    else if scriptBait source then
      { value := none
        errors := [{ path := js "source", reason := js "source contains script bait" }] }
    else
      validateSourceUrl runtime source
  | some _ =>
    { value := none, errors := [{ path := js "source", reason := js "source must be a string" }] }

-- A theme as the object that it is. It holds texts only.
def AdditionalTheme.toJson {ν : Type} (theme : AdditionalTheme) : Json ν :=
  .object ([(js "name", .string theme.name),
      (js "colors", .object (theme.colors.map fun color => (color.1, .string color.2)))] ++
    (theme.license.map fun license => (js "license", .string license)).toList ++
    (theme.source.map fun source => (js "source", .string source)).toList)

def serialized (theme : AdditionalTheme) : JsString :=
  Json.stringify Json.integers theme.toJson

def validateTheme (input : JsonValue) (context : ThemeValidationContext)
    (builtinNames : List JsString) : Except (List ThemeValidationError) AdditionalTheme :=
  match input with
  | .object fields =>
    let name := validateName runtime (Json.lookup (js "name") fields) context builtinNames
    let colors := rebuildColors (Json.lookup (js "colors") fields) (js "colors")
    let license := validateLicense fields
    let source := validateSource runtime fields
    let errors := collectForbiddenEntryKeyErrors fields ++ name.errors ++ colors.errors ++
      license.errors ++ source.errors
    if 0 < errors.length then
      .error errors
    else
      let safe : AdditionalTheme :=
        { name := name.value, colors := colors.value, license := license.value,
          source := source.value }
      if maxThemeBytes < (serialized safe).length then
        .error [{ path := [], reason := js "serialized theme exceeds 4 KiB" }]
      else
        .ok safe
  | _ => .error [{ path := [], reason := js "must be an object" }]

end Validation

end WebSsh2.Theming

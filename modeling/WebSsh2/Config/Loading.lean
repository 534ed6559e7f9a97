import WebSsh2.Config.Defaults
import WebSsh2.Config.SafeLogging
import WebSsh2.Library.Inspect

namespace WebSsh2.Config

open WebSsh2.Library WebSsh2.HostKey WebSsh2.Validation

section Schema

-- What the configuration schema makes of a value that it accepts: objects have the fields
-- of the schema, in its order, and values are taken as they are but for one text.
inductive Shape where
  | value
  | reportUri
  | items (item : Shape)
  | object (fields : List (String × Shape))

-- `csp.reportUri` without blanks around it and without the slash at its end.
def normalizeReportUri (uri : JsString) : JsString :=
  let trimmed := trim uri
  if trimmed = [] then js "/ssh/csp-report"
  else if 1 < trimmed.length ∧ trimmed.getLast? = some 47 then trimmed.dropLast
  else trimmed

mutual

def Shape.parse : Shape → JsonValue → JsonValue
  | .object shapes, .object fields => .object (parseFields fields shapes)
  | .items item, .array items => .array (items.map item.parse)
  | .reportUri, .string uri => .string (normalizeReportUri uri)
  | _, value => value

def parseFields (fields : Fields) : List (String × Shape) → Fields
  | [] => []
  | (name, shape) :: rest =>
    match Json.lookup (js name) fields with
    | some value => (js name, shape.parse value) :: parseFields fields rest
    | none => parseFields fields rest

end

def values (names : List String) : List (String × Shape) :=
  names.map fun name => (name, .value)

def themeColorsSchema : Shape :=
  .object (values ["background", "foreground", "cursor", "cursorAccent", "selectionBackground",
    "selectionForeground", "selectionInactiveBackground", "black", "red", "green", "yellow",
    "blue", "magenta", "cyan", "white", "brightBlack", "brightRed", "brightGreen", "brightYellow",
    "brightBlue", "brightMagenta", "brightCyan", "brightWhite"])

def themingSchema : Shape :=
  .object (values ["enabled", "allowCustom", "themes"] ++
    [("additionalThemes", .items (.object
      [("name", .value), ("colors", themeColorsSchema), ("license", .value),
        ("source", .value)]))] ++
    values ["defaultTheme", "headerBackground"])

def sshSchema : Shape :=
  .object (values ["host", "port", "localAddress", "localPort", "term", "readyTimeout",
      "keepaliveInterval", "keepaliveCountMax", "allowedSubnets",
      "alwaysSendKeyboardInteractivePrompts", "disableInteractiveAuth"] ++
    [("algorithms", .object (values ["cipher", "compress", "hmac", "kex", "serverHostKey"]))] ++
    values ["envAllowlist", "allowedAuthMethods", "maxExecOutputBytes",
      "outputRateLimitBytesPerSec", "socketHighWaterMark"] ++
    [("sftp", .object (values ["backend", "enabled", "maxFileSize",
        "transferRateLimitBytesPerSec", "chunkSize", "maxConcurrentTransfers", "allowedPaths",
        "blockedExtensions", "timeout"])),
      ("hostKeyVerification", .object (values ["enabled", "mode", "unknownKeyAction"] ++
        [("serverStore", .object (values ["enabled", "dbPath"])),
          ("clientStore", .object (values ["enabled"]))]))])

def optionsSchema : Shape :=
  .object (values ["challengeButton", "autoLog", "allowReauth", "allowReconnect", "allowReplay",
      "replayCRLF", "transport"] ++
    [("terminal", .object (values ["shiftEnterNewline"])), ("theming", themingSchema)])

def loggingSchema : Shape :=
  .object (values ["namespace", "minimumLevel"] ++
    [("controls", .object
        [("sampling", .object (values ["defaultSampleRate"] ++
          [("rules", .items (.object (values ["target", "sampleRate"])))])),
          ("rateLimit", .object
            [("rules", .items (.object (values ["target", "limit", "intervalMs", "burst"])))])]),
      ("stdout", .object (values ["enabled", "minimumLevel"])),
      ("syslog", .object (values ["enabled", "host", "port", "appName", "enterpriseId",
          "bufferSize", "flushIntervalMs", "includeJson"] ++
        [("tls", .object (values ["enabled", "caFile", "certFile", "keyFile",
          "rejectUnauthorized"]))]))])

def configFields : List (String × Shape) :=
  [("listen", .object (values ["ip", "port"])),
    ("http", .object (values ["origins"])),
    ("user", .object (values ["name", "password", "privateKey", "passphrase"])),
    ("ssh", sshSchema),
    ("header", .object (values ["text", "background"])),
    ("options", optionsSchema),
    ("session", .object (values ["secret", "name", "sessionTimeout", "maxHistorySize"])),
    ("sso", .object (values ["enabled", "csrfProtection", "trustedProxies"] ++
      [("headerMapping", .object (values ["username", "password", "session", "sessionId", "host",
        "port", "algorithm"]))])),
    ("csp", .object [("mode", .value), ("reportUri", .reportUri), ("connectSrc", .value),
      ("frameAncestors", .value)]),
    ("telnet", .object (values ["enabled", "defaultPort", "timeout", "term"] ++
      [("auth", .object (values ["loginPrompt", "passwordPrompt", "failurePattern",
        "expectTimeout"])), ("allowedSubnets", .value)])),
    ("terminal", .object (values ["rows", "cols", "term"])),
    ("logging", loggingSchema),
    ("allowedSubnets", .value),
    ("safeShutdownDuration", .value)]

structure SchemaIssue where
  path : JsString
  message : JsString

end Schema

section Loading

-- What comes of the file: it is not there, or no longer, or cannot be read or parsed.
inductive ConfigFile where
  | absent
  | gone
  | unreadable (message : JsString)
  | malformed (message : JsString)
  | parsed (config : PartialConfig)

structure Source where
  file : ConfigFile
  env : Environment

-- What the loading depends on besides: the issues that the schema library finds, how
-- `debug` prints values, the clock and random bytes.
structure LoadHost where
  env : EnvHost
  issues : Fields → List SchemaIssue
  inspect : Json.InspectOptions
  startTime : Int
  endTime : Int
  configPath : JsString
  randomSecret : JsString

inductive DebugArg where
  | text (text : JsString)
  | shown (value : Json.Shown Number)

structure DebugLine where
  format : JsString
  args : List DebugArg

inductive Warning where
  | deprecatedEnvVar
  | generatedSessionSecret

-- `createDefaultConfig`
def defaultConfig (host : LoadHost) (sessionSecret : Option JsString) : Fields :=
  Json.setNested [js "session", js "secret"] (.string (sessionSecret.getD host.randomSecret))
    defaultConfigBase

def normalizeSessionSecret (value : Option JsString) : Option JsString :=
  if value = some [] then none else value

variable (env : Environment)

def resolveSessionSecretFromEnv : Option JsString :=
  (normalizeSessionSecret (env "WEBSSH2_SESSION_SECRET")).or
    (normalizeSessionSecret (env "WEBSSH_SESSION_SECRET"))

def deprecationWarnings : List Warning :=
  if normalizeSessionSecret (env "WEBSSH2_SESSION_SECRET") = none ∧
      normalizeSessionSecret (env "WEBSSH_SESSION_SECRET") ≠ none then
    [.deprecatedEnvVar]
  else []

def parseFileTransports (host : EnvHost) (raw : JsonValue) : Option (List JsString) :=
  match raw with
  | .string text => parseTransports host text
  | .array items =>
    let entries := items.filterMap fun item => textOf (some item)
    let cleaned := entries.map fun entry => host.toLowerCase (trim entry)
    let transports := (cleaned.filter fun entry => entry ∈ validTransports).eraseDups
    if transports = [] then none else some transports
  | _ => none

-- The result is `none` where the source reads a property of null, or asks a value that is
-- no object for one with `in`.
def normalizeFileConfigTransport (host : EnvHost) (config : JsonValue) : Option JsonValue :=
  match config with
  | .null => none
  | .object fields =>
    match Json.lookup (js "options") fields with
    | none => some config
    | some (.array _) => some config
    | some (.object options) =>
      match Json.lookup (js "transport") options with
      | none => some config
      | some raw =>
        let nextOptions := match parseFileTransports host raw with
          | none => OrderedMap.deleteEntries (js "transport") options
          | some transports =>
            OrderedMap.setEntries (js "transport") (stringArray transports) options
        some (.object (OrderedMap.setEntries (js "options") (.object nextOptions) fields))
    | some _ => none
  | _ => some config

inductive FileConfig where
  | thrown
  | error (error : ConfigValidationError)
  | config (value : Option JsonValue)

def fileError (message : JsString) : ConfigValidationError :=
  { path := js "config.json", message, value := none }

def loadFileConfig (host : LoadHost) (file : ConfigFile) : List DebugLine × FileConfig :=
  match file with
  | .absent =>
    ([⟨js "No config file found at %s, using environment variables and defaults",
      [.text host.configPath]⟩], .config none)
  | .gone => ([⟨js "Config file not found (expected):", [.text host.configPath]⟩], .config none)
  | .unreadable message =>
    ([], .error (fileError (js "Failed to read config file: " ++ message)))
  | .malformed message =>
    ([], .error (fileError (js "Failed to parse config JSON: " ++ message)))
  | .parsed config =>
    match normalizeFileConfigTransport host.env config.value with
    | none => ([], .thrown)
    | some normalized => ([], .config (some normalized))

def withoutNullSessionSecret (envConfig : Fields) : Fields :=
  match Json.lookup (js "session") envConfig with
  | some (.object session) =>
    if Json.lookup (js "secret") session = some .null then
      let restSession := session.filter fun entry => entry.1 ≠ js "secret"
      if restSession = [] then OrderedMap.deleteEntries (js "session") envConfig
      else OrderedMap.setEntries (js "session") (.object restSession) envConfig
    else envConfig
  | _ => envConfig

def isSessionSecretGenerated (sessionSecret : Option JsString) (env : Environment)
    (fileConfig : Option JsonValue) : Bool :=
  sessionSecret.isNone && (normalizeSessionSecret (env "WEBSSH2_SESSION_SECRET")).isNone &&
    (fileConfig.bind (setting ["session", "secret"])).isNone

-- `mergeConfigs`, over values.
def mergeLayers (defaultConfig : Fields) (fileConfig : Option JsonValue) (envConfig : JsonValue) :
    Fields :=
  deepMerge (match fileConfig with
    | some config => deepMerge defaultConfig config
    | none => defaultConfig) envConfig

def mergedConfig (host : LoadHost) (env : Environment) (fileConfig : Option JsonValue) : Fields :=
  mergeLayers (defaultConfig host (resolveSessionSecretFromEnv env)) fileConfig
    (.object (withoutNullSessionSecret (mapEnvironmentVariables host.env env)))

def schemaMessage (issues : List SchemaIssue) : JsString :=
  (js "; ").intercalate (issues.map fun issue => issue.path ++ js ": " ++ issue.message)

def authMethodTokens : List JsString :=
  [js "password", js "keyboard-interactive", js "publickey"]

structure ResolvedAuthMethods where
  methods : List JsString
  warnings : List JsString

def resolveAllowedAuthMethods (runtime : Runtime) (rawValues : JsValue) :
    Except JsString ResolvedAuthMethods :=
  let rawCandidates := match rawValues with
    | some (.array items) => items.filterMap fun item => textOf (some item)
    | _ => authMethodTokens
  let normalized := rawCandidates.map fun token => runtime.toLowerCase (trim token)
  let methods := (normalized.filter fun token => token ∈ authMethodTokens).eraseDups
  if methods = [] then
    .error (js "Allowed authentication methods list cannot be empty after validation")
  else
    .ok { methods
          warnings :=
            (normalized.filter fun token => token ∉ authMethodTokens ∧ token ≠ []).eraseDups }

inductive LoadResult where
  | thrown
  | errors (errors : List ConfigValidationError)
  | ok (config : JsonValue)

structure Loading where
  lines : List DebugLine
  warnings : List Warning
  result : LoadResult

def debugObject (host : LoadHost) (value : JsonValue) : DebugArg :=
  .shown (Json.shown host.inspect host.inspect.depth value)

def algorithmsField (config : JsonValue) : String × JsValue :=
  ("algorithms", some (record (copied ["ssh", "algorithms"]
    ["kex", "hmac", "cipher", "serverHostKey"] config)))

def startLines (host : LoadHost) (sessionSecret : Option JsString) : List DebugLine :=
  [⟨js "Config loading started", [debugObject host (record
      [("timestamp", some (.number (Number.ofInt host.startTime)))])]⟩,
    ⟨js "Default config loaded",
      [debugObject host (record
        [algorithmsField (.object (defaultConfig host sessionSecret))])]⟩]

def rawVariable (name : String) : JsValue :=
  (env name).map .string

def environmentLine (host : LoadHost) (env : Environment) (envConfig : Fields) : DebugLine :=
  ⟨js "Environment variables mapped", [debugObject host (record
    [("envAlgorithms", setting ["ssh", "algorithms"] (.object envConfig)),
      ("rawEnvVars", some (record
        [("preset", rawVariable env "WEBSSH2_SSH_ALGORITHMS_PRESET"),
          ("kex", rawVariable env "WEBSSH2_SSH_ALGORITHMS_KEX"),
          ("hmac", rawVariable env "WEBSSH2_SSH_ALGORITHMS_HMAC"),
          ("cipher", rawVariable env "WEBSSH2_SSH_ALGORITHMS_CIPHER"),
          ("serverHostKey", rawVariable env "WEBSSH2_SSH_ALGORITHMS_SERVER_HOST_KEY")]))])]⟩

def finalLine (host : LoadHost) (config : JsonValue) : DebugLine :=
  ⟨js "Final config merged",
    [debugObject host (record
      [("loadDurationMs", some (.number (Number.ofInt (host.endTime - host.startTime)))),
        algorithmsField config])]⟩

def tokenLine (token : JsString) : DebugLine :=
  ⟨js "Ignoring unknown SSH auth method token: %s", [.text token]⟩

-- `{ ...config, ssh: { ...config.ssh, allowedAuthMethods } }`
def withAuthMethods (config : Fields) (methods : List JsString) : Fields :=
  Json.setNested [js "ssh", js "allowedAuthMethods"] (stringArray methods) config

def enhanceConfig (host : LoadHost) (config : JsonValue) : LoadResult :=
  match validateBusinessRules host.env.toRuntime config with
  | .error errors => .errors errors
  | .ok config => .ok config

-- Behind the merge: the schema, the methods and the business rules.
def checkMerged (host : LoadHost) (merged : Fields) : List DebugLine × LoadResult :=
  if host.issues merged ≠ [] then
    ([], .errors [{ path := [], message := schemaMessage (host.issues merged)
                    value := some (.object merged) }])
  else
    let processed := parseFields merged configFields
    let final := finalLine host (.object processed)
    match resolveAllowedAuthMethods host.env.toRuntime
        (setting ["ssh", "allowedAuthMethods"] (.object processed)) with
    | .error message =>
      ([final], .errors [{ path := js "ssh.allowedAuthMethods", message, value := none }])
    | .ok resolved =>
      (final :: resolved.warnings.map tokenLine,
        enhanceConfig host (.object (withAuthMethods processed resolved.methods)))

def loadEnhancedConfig (host : LoadHost) (source : Source) : Loading :=
  let sessionSecret := resolveSessionSecretFromEnv source.env
  let (fileLines, file) := loadFileConfig host source.file
  let lines := startLines host sessionSecret ++ fileLines
  match file with
  | .thrown => ⟨lines, [], .thrown⟩
  | .error error => ⟨lines, [], .errors [error]⟩
  | .config fileConfig =>
    let generated :=
      if isSessionSecretGenerated sessionSecret source.env fileConfig then
        [.generatedSessionSecret]
      else []
    let envConfig := withoutNullSessionSecret (mapEnvironmentVariables host.env source.env)
    let checked := checkMerged host (mergedConfig host source.env fileConfig)
    ⟨lines ++ environmentLine host source.env envConfig :: checked.1, generated, checked.2⟩

inductive ConfigOutcome where
  | typeError
  | configError (message : JsString)
  | config (config : JsonValue)

structure Loaded where
  lines : List DebugLine
  warnings : List Warning
  outcome : ConfigOutcome

def hasRealError (errors : List ConfigValidationError) : Bool :=
  errors.any fun error =>
    !includes (js "config.json") error.path || !includes (js "ENOENT") error.message

def errorObject (error : ConfigValidationError) : JsonValue :=
  record [("path", some (.string error.path)), ("message", some (.string error.message)),
    ("value", error.value)]

def errorLine (host : LoadHost) (errors : List ConfigValidationError) : DebugLine :=
  ⟨js "Config validation error: %O", [debugObject host (.array (errors.map errorObject))]⟩

def failureMessage (errors : List ConfigValidationError) : JsString :=
  js "Configuration validation failed: " ++
    (js ", ").intercalate (errors.map ConfigValidationError.message)

def fileExists : ConfigFile → Bool
  | .absent => false
  | _ => true

-- `inspect` with `depth: null` and the limits it has of itself
def plainInspect : Json.InspectOptions where
  depth := none
  maxArrayLength := 100
  maxStringLength := 10000

def loadedLines (host : LoadHost) (file : ConfigFile) (config : JsonValue) : List DebugLine :=
  [if fileExists file then
      ⟨js "Configuration loaded from %s and environment variables", [.text host.configPath]⟩
    else
      ⟨js "No config.json found at %s, configuration loaded from environment variables and defaults",
        [.text host.configPath]⟩,
    ⟨js "Loaded configuration: %s",
      [.shown (Json.shown plainInspect none (maskSensitiveConfig config))]⟩]

-- What is written and returned or thrown once the loading has a result.
def report (host : LoadHost) (file : ConfigFile) : LoadResult → List DebugLine × ConfigOutcome
  | .thrown => ([], .typeError)
  | .errors errors =>
    if hasRealError errors then
      ([errorLine host errors], .configError (failureMessage errors))
    else
      ([⟨js "Config returned an unexpected result, check the implementation", []⟩],
        .configError (js "Configuration loading failed unexpectedly"))
  | .ok config => (loadedLines host file config, .config config)

def loadConfigAsync (host : LoadHost) (source : Source) : Loaded :=
  let loading := loadEnhancedConfig host source
  let reported := report host source.file loading.result
  { lines := ⟨js "Using enhanced configuration implementation", []⟩ ::
      (loading.lines ++ reported.1)
    warnings := deprecationWarnings source.env ++ loading.warnings
    outcome := reported.2 }

end Loading

end WebSsh2.Config

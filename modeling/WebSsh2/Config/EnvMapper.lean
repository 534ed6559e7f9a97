import WebSsh2.Config.AlgorithmPresets
import WebSsh2.HostKey.Mode
import WebSsh2.Library.JsonLayers
import WebSsh2.Theming.ThemeValidator

namespace WebSsh2.Config

open WebSsh2.Library WebSsh2.HostKey

section Values

inductive EnvValueType where
  | string
  | number
  | boolean
  | array
  | preset
  | json
deriving DecidableEq

-- A list of values in which no object names a field twice.
structure ThemeList where
  items : List JsonValue
  distinct : Json.distinctItems items = true

-- What is not computed here: `Number.parseFloat`, `JSON.parse`, and what the base64 text of
-- additional themes is decoded, parsed and validated to.
structure EnvHost extends Runtime where
  parseFloat : JsString → Number
  parseJson : JsString → Option PartialConfig
  additionalThemes : JsString → ThemeList

variable (host : EnvHost)

variable (value : JsString)

def parseArrayValue : JsonValue :=
  let separated := ((value.splitOn 44).map trim).filter fun item => 0 < item.length
  if value = [] then
    .array []
  else if (trim value).head? = some 91 ∧ (trim value).getLast? = some 93 then
    match host.parseJson value with
    | some parsed =>
      match parsed.value with
      | .array items => .array items
      | _ => .array []
    | none => .array (separated.map .string)
  else
    .array (separated.map .string)

def parseJsonValue : JsonValue :=
  match (host.parseJson value).map PartialConfig.value with
  | some (.array items) => .array items
  | some (.object fields) => .object fields
  | _ => .null

def parseEnvValue (type : EnvValueType) : JsonValue :=
  if value = js "null" then
    .null
  else if value = [] then
    if type = .array then .array [] else .null
  else
    match type with
    | .boolean => .bool (value = js "true" || value = js "1")
    | .number => .number (host.parseFloat value)
    | .array => parseArrayValue host value
    | .string => .string value
    | .preset => .string value
    | .json => parseJsonValue host value

end Values

section Mapping

structure EnvVarMap where
  name : String
  path : String
  type : EnvValueType

def presetVariable : String := "WEBSSH2_SSH_ALGORITHMS_PRESET"

-- In the order of the source, which is that of the assignments.
def envVarMapping : List EnvVarMap :=
  [⟨"PORT", "listen.port", .number⟩, ⟨"WEBSSH2_LISTEN_IP", "listen.ip", .string⟩,
    ⟨"WEBSSH2_LISTEN_PORT", "listen.port", .number⟩,
    ⟨"WEBSSH2_HTTP_ORIGINS", "http.origins", .array⟩, ⟨"WEBSSH2_USER_NAME", "user.name", .string⟩,
    ⟨"WEBSSH2_USER_PASSWORD", "user.password", .string⟩,
    ⟨"WEBSSH2_USER_PRIVATE_KEY", "user.privateKey", .string⟩,
    ⟨"WEBSSH2_USER_PASSPHRASE", "user.passphrase", .string⟩,
    ⟨"WEBSSH2_SSH_HOST", "ssh.host", .string⟩, ⟨"WEBSSH2_SSH_PORT", "ssh.port", .number⟩,
    ⟨"WEBSSH2_SSH_LOCAL_ADDRESS", "ssh.localAddress", .string⟩,
    ⟨"WEBSSH2_SSH_LOCAL_PORT", "ssh.localPort", .number⟩,
    ⟨"WEBSSH2_SSH_TERM", "ssh.term", .string⟩,
    ⟨"WEBSSH2_SSH_ENV_ALLOWLIST", "ssh.envAllowlist", .array⟩,
    ⟨"WEBSSH2_AUTH_ALLOWED", "ssh.allowedAuthMethods", .array⟩,
    ⟨"WEBSSH2_SSH_READY_TIMEOUT", "ssh.readyTimeout", .number⟩,
    ⟨"WEBSSH2_SSH_KEEPALIVE_INTERVAL", "ssh.keepaliveInterval", .number⟩,
    ⟨"WEBSSH2_SSH_KEEPALIVE_COUNT_MAX", "ssh.keepaliveCountMax", .number⟩,
    ⟨"WEBSSH2_SSH_ALLOWED_SUBNETS", "ssh.allowedSubnets", .array⟩,
    ⟨"WEBSSH2_SSH_ALWAYS_SEND_KEYBOARD_INTERACTIVE", "ssh.alwaysSendKeyboardInteractivePrompts",
      .boolean⟩,
    ⟨"WEBSSH2_SSH_DISABLE_INTERACTIVE_AUTH", "ssh.disableInteractiveAuth", .boolean⟩,
    ⟨"WEBSSH2_SSH_ALGORITHMS_CIPHER", "ssh.algorithms.cipher", .array⟩,
    ⟨"WEBSSH2_SSH_ALGORITHMS_KEX", "ssh.algorithms.kex", .array⟩,
    ⟨"WEBSSH2_SSH_ALGORITHMS_HMAC", "ssh.algorithms.hmac", .array⟩,
    ⟨"WEBSSH2_SSH_ALGORITHMS_COMPRESS", "ssh.algorithms.compress", .array⟩,
    ⟨"WEBSSH2_SSH_ALGORITHMS_SERVER_HOST_KEY", "ssh.algorithms.serverHostKey", .array⟩,
    ⟨"WEBSSH2_SSH_ALGORITHMS_PRESET", "ssh.algorithms", .preset⟩,
    ⟨"WEBSSH2_SSH_MAX_EXEC_OUTPUT_BYTES", "ssh.maxExecOutputBytes", .number⟩,
    ⟨"WEBSSH2_SSH_OUTPUT_RATE_LIMIT_BYTES_PER_SEC", "ssh.outputRateLimitBytesPerSec", .number⟩,
    ⟨"WEBSSH2_SSH_SOCKET_HIGH_WATER_MARK", "ssh.socketHighWaterMark", .number⟩,
    ⟨"WEBSSH2_HEADER_TEXT", "header.text", .string⟩,
    ⟨"WEBSSH2_HEADER_BACKGROUND", "header.background", .string⟩,
    ⟨"WEBSSH2_OPTIONS_CHALLENGE_BUTTON", "options.challengeButton", .boolean⟩,
    ⟨"WEBSSH2_OPTIONS_AUTO_LOG", "options.autoLog", .boolean⟩,
    ⟨"WEBSSH2_OPTIONS_ALLOW_REAUTH", "options.allowReauth", .boolean⟩,
    ⟨"WEBSSH2_OPTIONS_ALLOW_RECONNECT", "options.allowReconnect", .boolean⟩,
    ⟨"WEBSSH2_OPTIONS_ALLOW_REPLAY", "options.allowReplay", .boolean⟩,
    ⟨"WEBSSH2_OPTIONS_REPLAY_CRLF", "options.replayCRLF", .boolean⟩,
    ⟨"WEBSSH2_TERMINAL_SHIFT_ENTER_NEWLINE", "options.terminal.shiftEnterNewline", .boolean⟩,
    ⟨"WEBSSH2_SESSION_SECRET", "session.secret", .string⟩,
    ⟨"WEBSSH2_SESSION_NAME", "session.name", .string⟩,
    ⟨"WEBSSH2_SSO_ENABLED", "sso.enabled", .boolean⟩,
    ⟨"WEBSSH2_SSO_CSRF_PROTECTION", "sso.csrfProtection", .boolean⟩,
    ⟨"WEBSSH2_SSO_TRUSTED_PROXIES", "sso.trustedProxies", .array⟩,
    ⟨"WEBSSH2_SSO_HEADER_USERNAME", "sso.headerMapping.username", .string⟩,
    ⟨"WEBSSH2_SSO_HEADER_PASSWORD", "sso.headerMapping.password", .string⟩,
    ⟨"WEBSSH2_SSO_HEADER_SESSION", "sso.headerMapping.session", .string⟩,
    ⟨"WEBSSH2_LOGGING_LEVEL", "logging.minimumLevel", .string⟩,
    ⟨"WEBSSH2_LOGGING_STDOUT_ENABLED", "logging.stdout.enabled", .boolean⟩,
    ⟨"WEBSSH2_LOGGING_STDOUT_MIN_LEVEL", "logging.stdout.minimumLevel", .string⟩,
    ⟨"WEBSSH2_LOGGING_SAMPLING_DEFAULT_RATE", "logging.controls.sampling.defaultSampleRate",
      .number⟩,
    ⟨"WEBSSH2_LOGGING_SAMPLING_RULES", "logging.controls.sampling.rules", .json⟩,
    ⟨"WEBSSH2_LOGGING_RATE_LIMIT_RULES", "logging.controls.rateLimit.rules", .json⟩,
    ⟨"WEBSSH2_LOGGING_SYSLOG_ENABLED", "logging.syslog.enabled", .boolean⟩,
    ⟨"WEBSSH2_LOGGING_SYSLOG_HOST", "logging.syslog.host", .string⟩,
    ⟨"WEBSSH2_LOGGING_SYSLOG_PORT", "logging.syslog.port", .number⟩,
    ⟨"WEBSSH2_LOGGING_SYSLOG_APP_NAME", "logging.syslog.appName", .string⟩,
    ⟨"WEBSSH2_LOGGING_SYSLOG_ENTERPRISE_ID", "logging.syslog.enterpriseId", .number⟩,
    ⟨"WEBSSH2_LOGGING_SYSLOG_BUFFER_SIZE", "logging.syslog.bufferSize", .number⟩,
    ⟨"WEBSSH2_LOGGING_SYSLOG_FLUSH_INTERVAL_MS", "logging.syslog.flushIntervalMs", .number⟩,
    ⟨"WEBSSH2_LOGGING_SYSLOG_INCLUDE_JSON", "logging.syslog.includeJson", .boolean⟩,
    ⟨"WEBSSH2_LOGGING_SYSLOG_TLS_ENABLED", "logging.syslog.tls.enabled", .boolean⟩,
    ⟨"WEBSSH2_LOGGING_SYSLOG_TLS_CA_FILE", "logging.syslog.tls.caFile", .string⟩,
    ⟨"WEBSSH2_LOGGING_SYSLOG_TLS_CERT_FILE", "logging.syslog.tls.certFile", .string⟩,
    ⟨"WEBSSH2_LOGGING_SYSLOG_TLS_KEY_FILE", "logging.syslog.tls.keyFile", .string⟩,
    ⟨"WEBSSH2_LOGGING_SYSLOG_TLS_REJECT_UNAUTHORIZED", "logging.syslog.tls.rejectUnauthorized",
      .boolean⟩,
    ⟨"WEBSSH2_SSH_HOSTKEY_ENABLED", "ssh.hostKeyVerification.enabled", .boolean⟩,
    ⟨"WEBSSH2_SSH_HOSTKEY_MODE", "ssh.hostKeyVerification.mode", .string⟩,
    ⟨"WEBSSH2_SSH_HOSTKEY_UNKNOWN_ACTION", "ssh.hostKeyVerification.unknownKeyAction", .string⟩,
    ⟨"WEBSSH2_SSH_HOSTKEY_DB_PATH", "ssh.hostKeyVerification.serverStore.dbPath", .string⟩,
    ⟨"WEBSSH2_SSH_HOSTKEY_SERVER_ENABLED", "ssh.hostKeyVerification.serverStore.enabled", .boolean⟩,
    ⟨"WEBSSH2_SSH_HOSTKEY_CLIENT_ENABLED", "ssh.hostKeyVerification.clientStore.enabled", .boolean⟩,
    ⟨"WEBSSH2_SSH_SFTP_BACKEND", "ssh.sftp.backend", .string⟩,
    ⟨"WEBSSH2_SSH_SFTP_ENABLED", "ssh.sftp.enabled", .boolean⟩,
    ⟨"WEBSSH2_SSH_SFTP_MAX_FILE_SIZE", "ssh.sftp.maxFileSize", .number⟩,
    ⟨"WEBSSH2_SSH_SFTP_TRANSFER_RATE_LIMIT_BYTES_PER_SEC", "ssh.sftp.transferRateLimitBytesPerSec",
      .number⟩,
    ⟨"WEBSSH2_SSH_SFTP_CHUNK_SIZE", "ssh.sftp.chunkSize", .number⟩,
    ⟨"WEBSSH2_SSH_SFTP_MAX_CONCURRENT_TRANSFERS", "ssh.sftp.maxConcurrentTransfers", .number⟩,
    ⟨"WEBSSH2_SSH_SFTP_ALLOWED_PATHS", "ssh.sftp.allowedPaths", .array⟩,
    ⟨"WEBSSH2_SSH_SFTP_BLOCKED_EXTENSIONS", "ssh.sftp.blockedExtensions", .array⟩,
    ⟨"WEBSSH2_SSH_SFTP_TIMEOUT", "ssh.sftp.timeout", .number⟩,
    ⟨"WEBSSH2_TELNET_ENABLED", "telnet.enabled", .boolean⟩,
    ⟨"WEBSSH2_TELNET_DEFAULT_PORT", "telnet.defaultPort", .number⟩,
    ⟨"WEBSSH2_TELNET_TIMEOUT", "telnet.timeout", .number⟩,
    ⟨"WEBSSH2_TELNET_TERM", "telnet.term", .string⟩,
    ⟨"WEBSSH2_TELNET_AUTH_LOGIN_PROMPT", "telnet.auth.loginPrompt", .string⟩,
    ⟨"WEBSSH2_TELNET_AUTH_PASSWORD_PROMPT", "telnet.auth.passwordPrompt", .string⟩,
    ⟨"WEBSSH2_TELNET_AUTH_FAILURE_PATTERN", "telnet.auth.failurePattern", .string⟩,
    ⟨"WEBSSH2_TELNET_AUTH_EXPECT_TIMEOUT", "telnet.auth.expectTimeout", .number⟩,
    ⟨"WEBSSH2_TELNET_ALLOWED_SUBNETS", "telnet.allowedSubnets", .array⟩,
    ⟨"WEBSSH2_THEMING_ENABLED", "options.theming.enabled", .boolean⟩,
    ⟨"WEBSSH2_THEMING_ALLOW_CUSTOM", "options.theming.allowCustom", .boolean⟩,
    ⟨"WEBSSH2_CSP_MODE", "csp.mode", .string⟩,
    ⟨"WEBSSH2_CSP_REPORT_URI", "csp.reportUri", .string⟩,
    ⟨"WEBSSH2_CSP_CONNECT_SRC", "csp.connectSrc", .array⟩,
    ⟨"WEBSSH2_CSP_FRAME_ANCESTORS", "csp.frameAncestors", .array⟩]

def getAlgorithmPreset (host : EnvHost) (presetName : JsString) : Option Algorithms :=
  algorithmPresets.lookup (host.toLowerCase presetName)

def stringArray (items : List JsString) : JsonValue :=
  .array (items.map .string)

def presetClone (preset : Algorithms) : JsonValue :=
  .object [(js "cipher", stringArray preset.cipher),
    (js "kex", stringArray preset.kex),
    (js "hmac", stringArray preset.hmac),
    (js "compress", stringArray preset.compress),
    (js "serverHostKey", stringArray preset.serverHostKey)]

-- The variables that are set, with their values.
abbrev Environment := String → Option JsString

abbrev ConfigEntry := String × JsonValue

variable (host : EnvHost) (env : Environment)

def collectPresetEntries : List ConfigEntry :=
  match (env presetVariable).bind (getAlgorithmPreset host) with
  | none => []
  | some preset =>
    match envVarMapping.find? fun mapping => mapping.name = presetVariable with
    | none => []
    | some presetMapping => [(presetMapping.path, presetClone preset)]

def mappedEntry (mapping : EnvVarMap) : Option ConfigEntry :=
  if mapping.type = .preset then
    none
  else
    (env mapping.name).map fun value => (mapping.path, parseEnvValue host value mapping.type)

def collectMappedEntries : List ConfigEntry :=
  envVarMapping.filterMap (mappedEntry host env)

def collectThemeNamesEntries : List ConfigEntry :=
  match env "WEBSSH2_THEMING_THEMES" with
  | none => []
  | some raw =>
    [("options.theming.themes",
      stringArray (((raw.splitOn 44).map trim).filter Theming.isThemeName))]

def collectDefaultThemeEntries : List ConfigEntry :=
  match env "WEBSSH2_THEMING_DEFAULT_THEME" with
  | none => []
  | some raw =>
    [("options.theming.defaultTheme",
      .string (if Theming.isThemeName (trim raw) then trim raw else js "Default"))]

def validHeaderBackground : List JsString :=
  [js "independent", js "followTerminal", js "locked"]

def collectHeaderBackgroundEntries : List ConfigEntry :=
  match env "WEBSSH2_THEMING_HEADER_BACKGROUND" with
  | none => []
  | some raw =>
    if raw ∈ validHeaderBackground then [("options.theming.headerBackground", .string raw)]
    else []

def additionalThemesEntries : List ConfigEntry :=
  match env "WEBSSH2_THEMING_ADDITIONAL_THEMES" with
  | none => []
  | some raw => [("options.theming.additionalThemes", .array (host.additionalThemes raw).items)]

def validTransports : List JsString :=
  [js "websocket", js "polling"]

def parseTransports (raw : JsString) : Option (List JsString) :=
  let cleaned := (raw.splitOn 44).map fun entry => host.toLowerCase (trim entry)
  let transports := (cleaned.filter fun entry => entry ∈ validTransports).eraseDups
  if transports.length = 0 then none else some transports

def transportEntries : List ConfigEntry :=
  match (env "WEBSSH2_OPTIONS_TRANSPORT").bind (parseTransports host) with
  | none => []
  | some transports => [("options.transport", stringArray transports)]

-- The preset comes first, and what comes later goes over it.
def configEntries : List ConfigEntry :=
  collectPresetEntries host env ++ collectMappedEntries host env ++
    (collectThemeNamesEntries env ++ collectDefaultThemeEntries env ++
      collectHeaderBackgroundEntries env ++ additionalThemesEntries host env) ++
    transportEntries host env

def safePathToKeys (path : String) : List JsString :=
  (js path).splitOn 46

def setNestedProperty (config : Fields) (path : String) (value : JsonValue) : Fields :=
  Json.setNested (safePathToKeys path) value config

def mapEnvironmentVariables : Fields :=
  (configEntries host env).foldl
    (fun config entry => setNestedProperty config entry.1 entry.2) []

end Mapping

end WebSsh2.Config

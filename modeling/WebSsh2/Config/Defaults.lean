import WebSsh2.Config.EnvMapper

namespace WebSsh2.Config

open WebSsh2.Library WebSsh2.HostKey

section Values

def jsonObject (fields : List (String × JsonValue)) : JsonValue :=
  .object (fields.map fun entry => (js entry.1, entry.2))

def jsonText (value : String) : JsonValue :=
  .string (js value)

def jsonTexts (values : List String) : JsonValue :=
  stringArray (values.map js)

def jsonNumber (value : Int) : JsonValue :=
  .number (Number.ofInt value)

end Values

section Defaults

def defaultSshAlgorithms : JsonValue :=
  jsonObject
    [("cipher", jsonTexts ["chacha20-poly1305@openssh.com", "aes128-gcm", "aes128-gcm@openssh.com",
        "aes256-gcm", "aes256-gcm@openssh.com", "aes128-ctr", "aes192-ctr", "aes256-ctr",
        "aes256-cbc"]),
      ("compress", jsonTexts ["none", "zlib@openssh.com", "zlib"]),
      ("hmac", jsonTexts ["hmac-sha2-256-etm@openssh.com", "hmac-sha2-512-etm@openssh.com",
        "hmac-sha1-etm@openssh.com", "hmac-sha2-256", "hmac-sha2-512", "hmac-sha1"]),
      ("kex", jsonTexts ["curve25519-sha256", "curve25519-sha256@libssh.org", "ecdh-sha2-nistp256",
        "ecdh-sha2-nistp384", "ecdh-sha2-nistp521", "diffie-hellman-group14-sha256",
        "diffie-hellman-group-exchange-sha256", "diffie-hellman-group14-sha1"]),
      ("serverHostKey", jsonTexts ["ssh-ed25519", "rsa-sha2-512", "rsa-sha2-256",
        "ecdsa-sha2-nistp256", "ecdsa-sha2-nistp384", "ecdsa-sha2-nistp521", "ssh-rsa"])]

def defaultSftpConfig : JsonValue :=
  jsonObject
    [("backend", jsonText "sftp"), ("enabled", .bool false), ("maxFileSize", jsonNumber 104857600),
      ("transferRateLimitBytesPerSec", jsonNumber 0), ("chunkSize", jsonNumber 32768),
      ("maxConcurrentTransfers", jsonNumber 2), ("allowedPaths", .null),
      ("blockedExtensions", .array []), ("timeout", jsonNumber 30000)]

def defaultThemingConfig : JsonValue :=
  jsonObject
    [("enabled", .bool false), ("allowCustom", .bool true), ("themes", .null),
      ("additionalThemes", .array []), ("defaultTheme", jsonText "Default"),
      ("headerBackground", jsonText "independent")]

def defaultHostKeyVerification : JsonValue :=
  jsonObject
    [("enabled", .bool false), ("mode", jsonText "hybrid"), ("unknownKeyAction", jsonText "prompt"),
      ("serverStore", jsonObject
        [("enabled", .bool true), ("dbPath", jsonText "/data/hostkeys.db")]),
      ("clientStore", jsonObject [("enabled", .bool true)])]

-- In the order of the fields of `buildSshConfig`.
def defaultSshConfig : JsonValue :=
  jsonObject
    [("host", .null), ("port", jsonNumber 22), ("term", jsonText "xterm-256color"),
      ("readyTimeout", jsonNumber 20000), ("keepaliveInterval", jsonNumber 120000),
      ("keepaliveCountMax", jsonNumber 10), ("alwaysSendKeyboardInteractivePrompts", .bool false),
      ("disableInteractiveAuth", .bool false), ("algorithms", defaultSshAlgorithms),
      ("allowedSubnets", .array []),
      ("allowedAuthMethods", jsonTexts ["password", "keyboard-interactive", "publickey"]),
      ("hostKeyVerification", defaultHostKeyVerification),
      ("maxExecOutputBytes", jsonNumber 10485760), ("outputRateLimitBytesPerSec", jsonNumber 0),
      ("socketHighWaterMark", jsonNumber 16384), ("sftp", defaultSftpConfig)]

def defaultTelnetConfig : JsonValue :=
  jsonObject
    [("enabled", .bool false), ("defaultPort", jsonNumber 23), ("timeout", jsonNumber 30000),
      ("term", jsonText "vt100"),
      ("auth", jsonObject
        [("loginPrompt", .string (js "login:" ++ 92 :: js "s*$")),
          ("passwordPrompt", .string (js "[Pp]assword:" ++ 92 :: js "s*$")),
          ("failurePattern", jsonText "Login incorrect|Access denied|Login failed"),
          ("expectTimeout", jsonNumber 10000)]),
      ("allowedSubnets", .array [])]

-- `createCompleteDefaultConfig` before the secret of the session is put into it.
def defaultConfigBase : Fields :=
  [(js "listen", jsonObject [("ip", jsonText "0.0.0.0"), ("port", jsonNumber 2222)]),
    (js "http", jsonObject [("origins", jsonTexts ["*:*"])]),
    (js "user", jsonObject [("name", .null), ("password", .null), ("privateKey", .null),
      ("passphrase", .null)]),
    (js "ssh", defaultSshConfig),
    (js "header", jsonObject [("text", .null), ("background", .null)]),
    (js "options", jsonObject
      [("challengeButton", .bool true), ("autoLog", .bool false), ("allowReauth", .bool true),
        ("allowReconnect", .bool true), ("allowReplay", .bool true), ("replayCRLF", .bool false),
        ("terminal", jsonObject [("shiftEnterNewline", .bool false)]),
        ("theming", defaultThemingConfig)]),
    (js "session", jsonObject [("name", jsonText "webssh2.sid")]),
    (js "sso", jsonObject
      [("enabled", .bool false), ("csrfProtection", .bool false), ("trustedProxies", .array []),
        ("headerMapping", jsonObject [("username", jsonText "x-apm-username"),
          ("password", jsonText "x-apm-password"), ("session", jsonText "x-apm-session")])]),
    (js "csp", jsonObject
      [("mode", jsonText "report-only"), ("reportUri", jsonText "/ssh/csp-report"),
        ("connectSrc", .array []), ("frameAncestors", jsonTexts ["none"])]),
    (js "logging", jsonObject
      [("namespace", jsonText "webssh2:app"), ("minimumLevel", jsonText "info"),
        ("controls", jsonObject [("rateLimit", jsonObject [("rules", .array [jsonObject
          [("target", jsonText "csp_violation"), ("limit", jsonNumber 60),
            ("intervalMs", jsonNumber 60000)]])])]),
        ("stdout", jsonObject [("enabled", .bool true)])]),
    (js "telnet", defaultTelnetConfig)]

end Defaults

end WebSsh2.Config

import WebSsh2.Library.JsonOverlay
import WebSsh2.Socket.Shared

namespace WebSsh2.HostKey

open WebSsh2.Library WebSsh2.Socket

abbrev Fields := List (JsString × JsonValue)

inductive HostKeyMode where
  | server | client | hybrid
deriving DecidableEq

def HostKeyMode.name : HostKeyMode → JsString
  | .server => js "server"
  | .client => js "client"
  | .hybrid => js "hybrid"

inductive UnknownKeyAction where
  | prompt | alert | reject
deriving DecidableEq

structure HostKeyServerStore where
  enabled : Bool
  dbPath : JsString
deriving DecidableEq

structure HostKeyClientStore where
  enabled : Bool
deriving DecidableEq

structure HostKeyVerificationConfig where
  enabled : Bool
  mode : HostKeyMode
  unknownKeyAction : UnknownKeyAction
  serverStore : HostKeyServerStore
  clientStore : HostKeyClientStore
deriving DecidableEq

structure PermissionOptions where
  autoLog : Bool
  allowReauth : Bool
  allowReconnect : Bool
  allowReplay : Bool
deriving DecidableEq

-- The sections of a configuration that decide what is announced about host keys.
structure Config where
  hostKeyVerification : HostKeyVerificationConfig
  options : PermissionOptions
deriving DecidableEq

-- What a file or the environment gives: any value in which no object names a
-- field twice.
structure PartialConfig where
  value : JsonValue
  distinct : value.distinct = true

section Loading

-- The defaults, with the fields that are not read here as parameters.
def createDefaultConfig (sshFields optionFields configFields : Fields) : Fields :=
  (js "ssh", .object ((js "hostKeyVerification", .object [
    (js "enabled", .bool false),
    (js "mode", .string (js "hybrid")),
    (js "unknownKeyAction", .string (js "prompt")),
    (js "serverStore", .object [
      (js "enabled", .bool true),
      (js "dbPath", .string (js "/data/hostkeys.db"))]),
    (js "clientStore", .object [(js "enabled", .bool true)])]) :: sshFields)) ::
  (js "options", .object (
    (js "autoLog", .bool false) ::
    (js "allowReauth", .bool true) ::
    (js "allowReconnect", .bool true) ::
    (js "allowReplay", .bool true) :: optionFields)) :: configFields

def deepMerge (target : Fields) : JsonValue → Fields
  | .object source => Json.overlayFields target source
  | _ => target

def mergeConfigs (defaultConfig : Fields) (fileConfig envConfig : Option PartialConfig) :
    Fields :=
  let merged := match fileConfig with
    | some config => deepMerge defaultConfig config.value
    | none => defaultConfig
  match envConfig with
  | some config => deepMerge merged config.value
  | none => merged

def booleanSchema : JsonValue → Option Bool
  | .bool value => some value
  | _ => none

def stringSchema : JsonValue → Option JsString
  | .string text => some text
  | _ => none

variable (value : JsonValue)

def modeSchema : Option HostKeyMode :=
  if value = .string (js "server") then some .server
  else if value = .string (js "client") then some .client
  else if value = .string (js "hybrid") then some .hybrid
  else none

def unknownKeyActionSchema : Option UnknownKeyAction :=
  if value = .string (js "prompt") then some .prompt
  else if value = .string (js "alert") then some .alert
  else if value = .string (js "reject") then some .reject
  else none

-- One field of an object schema; the object may have others.
def schemaField {α : Type} (key : String) (schema : JsonValue → Option α) (value : JsonValue) :
    Option α :=
  (value.field (js key)).bind schema

def hostKeyServerStoreSchema : Option HostKeyServerStore := do
  let enabled ← schemaField "enabled" booleanSchema value
  let dbPath ← schemaField "dbPath" stringSchema value
  return { enabled, dbPath }

def hostKeyClientStoreSchema : Option HostKeyClientStore := do
  let enabled ← schemaField "enabled" booleanSchema value
  return { enabled }

def hostKeyVerificationSchema : Option HostKeyVerificationConfig := do
  let enabled ← schemaField "enabled" booleanSchema value
  let mode ← schemaField "mode" modeSchema value
  let unknownKeyAction ← schemaField "unknownKeyAction" unknownKeyActionSchema value
  let serverStore ← schemaField "serverStore" hostKeyServerStoreSchema value
  let clientStore ← schemaField "clientStore" hostKeyClientStoreSchema value
  return { enabled, mode, unknownKeyAction, serverStore, clientStore }

def optionsSchema : Option PermissionOptions := do
  let autoLog ← schemaField "autoLog" booleanSchema value
  let allowReauth ← schemaField "allowReauth" booleanSchema value
  let allowReconnect ← schemaField "allowReconnect" booleanSchema value
  let allowReplay ← schemaField "allowReplay" booleanSchema value
  return { autoLog, allowReauth, allowReconnect, allowReplay }

-- `accepts` stands for what is asked of the sections that are not read here.
def validateConfig (accepts : Fields → Bool) (merged : Fields) : Option Config := do
  let hostKeyVerification ←
    schemaField "ssh" (schemaField "hostKeyVerification" hostKeyVerificationSchema)
      (.object merged)
  let options ← schemaField "options" optionsSchema (.object merged)
  if accepts merged then return { hostKeyVerification, options } else none

def processConfig (accepts : Fields → Bool) (defaultConfig : Fields)
    (fileConfig envConfig : Option PartialConfig) : Option Config :=
  validateConfig accepts (mergeConfigs defaultConfig fileConfig envConfig)

end Loading

section Resolution

structure ResolveHostKeyModeOptions where
  serverStoreExplicit : Bool := false
  clientStoreExplicit : Bool := false

-- The stores that a mode turns on: of the server, and of the client.
def HostKeyMode.stores : HostKeyMode → Bool × Bool
  | .server => (true, false)
  | .client => (false, true)
  | .hybrid => (true, true)

def resolveHostKeyMode (config : HostKeyVerificationConfig)
    (options : ResolveHostKeyModeOptions) : HostKeyVerificationConfig :=
  let serverEnabled :=
    if options.serverStoreExplicit then config.serverStore.enabled else config.mode.stores.1
  let clientEnabled :=
    if options.clientStoreExplicit then config.clientStore.enabled else config.mode.stores.2
  { enabled := config.enabled
    mode := config.mode
    unknownKeyAction := config.unknownKeyAction
    serverStore := { enabled := serverEnabled, dbPath := config.serverStore.dbPath }
    clientStore := { enabled := clientEnabled } }

-- `store` is the database that was opened.
structure HostKeyService where
  config : HostKeyVerificationConfig
  store : Option JsString

namespace HostKeyService

def create (config : HostKeyVerificationConfig) : HostKeyService where
  config := config
  store := if config.serverStore.enabled then some config.serverStore.dbPath else none

variable (service : HostKeyService)

def isEnabled : Bool :=
  service.config.enabled

def serverStoreEnabled : Bool :=
  service.config.serverStore.enabled

def clientStoreEnabled : Bool :=
  service.config.clientStore.enabled

def unknownKeyAction : UnknownKeyAction :=
  service.config.unknownKeyAction

end HostKeyService

structure Services where
  hostKey : Option HostKeyService

-- The options of `resolveHostKeyMode` are left out here.
def createServices (config : Config) : Services :=
  let hostKeyConfig := resolveHostKeyMode config.hostKeyVerification {}
  { hostKey :=
      if hostKeyConfig.enabled then some (HostKeyService.create hostKeyConfig) else none }

structure HostKeyPermissions where
  enabled : Bool
  clientStoreEnabled : Bool
  unknownKeyAction : UnknownKeyAction
deriving DecidableEq

-- What a `permissions` event carries.
structure Permissions where
  options : Option PermissionOptions := none
  hostKeyVerification : Option HostKeyPermissions := none
deriving DecidableEq

def hostKeyPermissions (config : HostKeyVerificationConfig) : HostKeyPermissions where
  enabled := config.enabled
  clientStoreEnabled := config.clientStore.enabled
  unknownKeyAction := config.unknownKeyAction

def emitHostKeyVerificationConfig (config : Config) : Permissions where
  hostKeyVerification := some (hostKeyPermissions config.hostKeyVerification)

def emitAuthSuccess (protocol : Protocol) (config : Config) : Permissions :=
  match protocol with
  | .telnet => { options := some config.options }
  | .ssh =>
    { options := some config.options
      hostKeyVerification := some (hostKeyPermissions config.hostKeyVerification) }

-- The `permissions` events of a socket: one when it is set up, unless it is a telnet
-- socket, and one for each login.
def permissionEvents (protocol : Protocol) (config : Config) (logins : Nat) :
    List Permissions :=
  (match protocol with
    | .ssh => [emitHostKeyVerificationConfig config]
    | .telnet => []) ++ List.replicate logins (emitAuthSuccess protocol config)

end Resolution

section Given

def hostKeyPath (path : List JsString) : List JsString :=
  js "ssh" :: js "hostKeyVerification" :: path

def enabledPath : List JsString := hostKeyPath [js "enabled"]

def modePath : List JsString := hostKeyPath [js "mode"]

def serverFlag : List JsString := hostKeyPath [js "serverStore", js "enabled"]

def clientFlag : List JsString := hostKeyPath [js "clientStore", js "enabled"]

variable (fileConfig envConfig : Option PartialConfig)

-- What was said about a setting; the environment has the last word.
def given (path : List JsString) : Option JsonValue :=
  (envConfig.bind fun config => config.value.atPath path).or
    (fileConfig.bind fun config => config.value.atPath path)

def givenMode : HostKeyMode :=
  ((given fileConfig envConfig modePath).bind modeSchema).getD .hybrid

-- Each flag is the given one, or else the one of the mode, and what is announced is
-- what the service does.
structure FlagsTruthful (fileConfig envConfig : Option PartialConfig) (config : Config) :
    Prop where
  server : ∀ service, (createServices config).hostKey = some service →
    .bool service.serverStoreEnabled = (given fileConfig envConfig serverFlag).getD
      (.bool config.hostKeyVerification.mode.stores.1)
  client : ∀ service, (createServices config).hostKey = some service →
    .bool service.clientStoreEnabled = (given fileConfig envConfig clientFlag).getD
      (.bool config.hostKeyVerification.mode.stores.2)
  announced : ∀ protocol logins, ∀ event ∈ permissionEvents protocol config logins,
    ∀ permissions, event.hostKeyVerification = some permissions →
      match (createServices config).hostKey with
      | some service =>
        permissions.enabled = service.isEnabled ∧
        permissions.clientStoreEnabled = service.clientStoreEnabled ∧
        permissions.unknownKeyAction = service.unknownKeyAction
      | none => permissions.enabled = false

-- The condition on the file and the environment: verification is off, or a flag that
-- is given is the one of the mode, and the client store, which is on by default, is
-- on in this mode or turned off as well.
def FlagsFollowMode : Prop :=
  given fileConfig envConfig enabledPath ≠ some (.bool true) ∨
    (∀ value, given fileConfig envConfig serverFlag = some value →
      value = .bool (givenMode fileConfig envConfig).stores.1) ∧
    (given fileConfig envConfig clientFlag).getD (.bool true) =
      .bool (givenMode fileConfig envConfig).stores.2

end Given

end WebSsh2.HostKey

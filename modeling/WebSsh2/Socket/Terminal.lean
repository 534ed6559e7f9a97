import WebSsh2.Socket.Shared

namespace WebSsh2.Socket

open WebSsh2.Library WebSsh2.State WebSsh2.Validation

structure Terminal where
  sessionId : SessionId
  term : JsValue
  size : Dimensions
  env : EnvVars

structure TerminalOptions where
  sessionId : SessionId
  term : JsValue
  size : Dimensions
  env : EnvVars

-- The registry, and the defaults of the configuration.
structure TerminalService where
  terminals : OrderedMap SessionId Terminal
  defaultTerm : JsonValue
  defaultRows : JsonValue
  defaultCols : JsonValue

def maxDimension : Number := .ofInt 1000

namespace TerminalService

def create (service : TerminalService) (options : TerminalOptions) : TerminalService :=
  match service.terminals.get options.sessionId with
  | some _ => service
  | none =>
    let terminal : Terminal := {
      sessionId := options.sessionId
      term := nullish options.term service.defaultTerm
      size := {
        rows := nullish options.size.rows service.defaultRows
        cols := nullish options.size.cols service.defaultCols }
      env := options.env }
    { service with terminals := service.terminals.set options.sessionId terminal }

-- The comparison of a dimension with a bound, if it can be made.
def compare (runtime : Runtime) (test : Number → Bool) (value : JsValue) : Except JsString Bool :=
  match toNumber runtime value with
  | some number => .ok (test number)
  | none => .error (js "Cannot convert object to primitive value")

-- `first || second`, where either may throw.
def either (first second : Except JsString Bool) : Except JsString Bool :=
  match first with
  | .ok false => second
  | result => result

def checkDimensions (runtime : Runtime) (size : Dimensions) : Except JsString Unit :=
  let tooSmall := compare runtime fun number => number.le (.ofInt 0)
  let tooLarge := compare runtime fun number => maxDimension.lt number
  match either (tooSmall size.rows) (tooSmall size.cols) with
  | .error message => .error message
  | .ok true => .error (js "Invalid terminal dimensions")
  | .ok false =>
    match either (tooLarge size.rows) (tooLarge size.cols) with
    | .error message => .error message
    | .ok true => .error (js "Terminal dimensions too large")
    | .ok false => .ok ()

def resize (runtime : Runtime) (service : TerminalService) (sessionId : SessionId)
    (size : Dimensions) : Except JsString TerminalService :=
  match service.terminals.get sessionId with
  | none => .error (js "Terminal not found")
  | some terminal =>
    match checkDimensions runtime size with
    | .error message => .error message
    | .ok () =>
      .ok { service with terminals := service.terminals.set sessionId { terminal with size } }

end TerminalService

structure ShellOptions where
  term : JsValue
  size : Dimensions
  env : Option EnvVars

-- The arguments with which a shell is asked for on an SSH connection.
structure ShellRequest where
  connectionId : ConnectionId
  term : JsValue
  size : Dimensions
  env : Option EnvVars

namespace SshService

def shell (connections : OrderedMap ConnectionId ConnectionStatus) (connectionId : ConnectionId)
    (options : ShellOptions) : Except JsString ShellRequest :=
  match connections.get connectionId with
  | none => .error (js "Connection not found")
  | some status =>
    if status ≠ .connected then
      .error (js "Connection not ready")
    else
      .ok {
        connectionId
        term := nullish options.term (some (.string (js "xterm-256color")))
        size := {
          rows := nullish options.size.rows (some (.number (.ofInt 24)))
          cols := nullish options.size.cols (some (.number (.ofInt 80))) }
        env := options.env }

end SshService

-- What becomes of a resize message.
inductive ResizeOutcome where
  | ignored
  | deferred
  | done
  | refused (message : JsString)
  | thrown
deriving DecidableEq

-- The window size a connection announces, once a shell was opened on it.
structure TelnetConnection where
  window : Option Dimensions

namespace TelnetService

abbrev Connections := OrderedMap ConnectionId TelnetConnection

def shell (connections : Connections) (connectionId : ConnectionId) (options : ShellOptions) :
    Except JsString Connections :=
  match connections.get connectionId with
  | none => .error (js "Connection not found")
  | some _ =>
    .ok (connections.set connectionId {
      window := some {
        rows := nullish options.size.rows (some (.number (.ofInt 24)))
        cols := nullish options.size.cols (some (.number (.ofInt 80))) } })

-- `encodeNaws` takes both numbers apart, which throws where one cannot be converted.
def encodable (runtime : Runtime) (size : Dimensions) : Bool :=
  (toNumber runtime size.cols).isSome && (toNumber runtime size.rows).isSome

-- The negotiator has the new size before it is encoded.
def resize (runtime : Runtime) (connections : Connections) (connectionId : ConnectionId)
    (size : Dimensions) : Connections × ResizeOutcome :=
  match connections.get connectionId with
  | none => (connections, .refused (js "Connection not found"))
  | some connection =>
    match connection.window with
    | none => (connections, .refused (js "Negotiator not initialized (shell not opened)"))
    | some _ =>
      (connections.set connectionId { window := some size },
        if encodable runtime size then .done else .thrown)

end TelnetService

def defaultTerm : JsonValue := .string (js "xterm-256color")
def defaultRows : JsonValue := .number (.ofInt 24)
def defaultCols : JsonValue := .number (.ofInt 80)

-- `sessionEnv` is what the request of the socket carries as `session.envVars`.
def buildTerminalDefaults (settings : JsValue) (sessionEnv : Option EnvVars)
    (initialTermSettings : TermSettings) : ShellOptions where
  term := nullish (property "term" settings) (nullish initialTermSettings.term defaultTerm)
  size := {
    rows := nullish (property "rows" settings) (nullish initialTermSettings.rows defaultRows)
    cols := nullish (property "cols" settings) (nullish initialTermSettings.cols defaultCols) }
  env := some (sessionEnv.getD OrderedMap.empty)

-- The services a terminal needs: the registry, the connections of either protocol,
-- and whether the telnet service exists at all.
structure TerminalServices where
  terminal : TerminalService
  ssh : OrderedMap ConnectionId ConnectionStatus
  telnet : Option TelnetService.Connections

inductive ShellCall where
  | ssh (request : ShellRequest)
  | telnet (connectionId : ConnectionId)

-- How far a terminal request gets before the shell call answers.
inductive TerminalOutcome where
  | ignored
  | refused (message : JsString)
  | called (call : ShellCall)

def openShell (protocol : Protocol) (services : TerminalServices) (connectionId : ConnectionId)
    (options : ShellOptions) : TerminalServices × TerminalOutcome :=
  match protocol with
  | .telnet =>
    match services.telnet with
    | none => (services, .refused (js "Telnet service not available"))
    | some connections =>
      match TelnetService.shell connections connectionId options with
      | .error message => (services, .refused message)
      | .ok connections =>
        ({ services with telnet := some connections }, .called (.telnet connectionId))
  | .ssh =>
    match SshService.shell services.ssh connectionId options with
    | .error message => (services, .refused message)
    | .ok request => (services, .called (.ssh request))

def createTerminal (services : TerminalServices) (sessionId : SessionId) (options : ShellOptions) :
    TerminalServices where
  terminal := services.terminal.create {
    sessionId
    term := options.term
    size := options.size
    env := options.env.getD OrderedMap.empty }
  ssh := services.ssh
  telnet := services.telnet

-- A shell stream. An SSH channel has a window of its own; that of a telnet
-- stream is the window of its connection.
inductive Shell where
  | channel (window : Dimensions)
  | duplex
deriving DecidableEq

section Handlers

variable {σ : Type}

def handleTerminal (protocol : Protocol) (services : TerminalServices)
    (state : AdapterSharedState σ) (sessionEnv : Option EnvVars) (settings : JsValue) :
    TerminalServices × TerminalOutcome :=
  match state.sessionId, state.connectionId with
  | some sessionId, some connectionId =>
    let options := buildTerminalDefaults settings sessionEnv state.initialTermSettings
    openShell protocol (createTerminal services sessionId options) connectionId options
  | _, _ => (services, .ignored)

-- `dimensions.rows` and `dimensions.cols`, which throws for `null` and `undefined`.
def readDimensions (dimensions : JsValue) : Option Dimensions :=
  match dimensions with
  | none | some .null => none
  | some _ => some { rows := property "rows" dimensions, cols := property "cols" dimensions }

end Handlers

section Resize

-- `windowChange` tells whether ssh2 can put a size into its packet; it throws otherwise.
variable (runtime : Runtime) (windowChange : Dimensions → Bool)

def setWindow (shell : Shell) (size : Dimensions) : Option Shell :=
  match shell with
  | .duplex => some .duplex
  | .channel _ => if windowChange size then some (.channel size) else none

def resizeRemote (protocol : Protocol) (services : TerminalServices)
    (state : AdapterSharedState Shell) (size : Dimensions) :
    TerminalServices × AdapterSharedState Shell × ResizeOutcome :=
  match protocol with
  | .telnet =>
    match services.telnet, state.connectionId with
    | some connections, some connectionId =>
      let resized := TelnetService.resize runtime connections connectionId size
      ({ services with telnet := some resized.1 }, state, resized.2)
    | _, _ => (services, state, .done)
  | .ssh =>
    match state.shellStream with
    | none => (services, state, .done)
    | some shell =>
      match setWindow windowChange shell size with
      | some shell => (services, { state with shellStream := some shell }, .done)
      | none => (services, state, .thrown)

def handleResize (protocol : Protocol) (services : TerminalServices)
    (state : AdapterSharedState Shell) (dimensions : JsValue) :
    TerminalServices × AdapterSharedState Shell × ResizeOutcome :=
  match state.sessionId with
  | none => (services, state, .ignored)
  | some sessionId =>
    match readDimensions dimensions with
    | none => (services, state, .thrown)
    | some size =>
      match services.terminal.terminals.get sessionId with
      | none =>
        let initialTermSettings :=
          { state.initialTermSettings with rows := size.rows, cols := size.cols }
        (services, { state with initialTermSettings }, .deferred)
      | some _ =>
        match services.terminal.resize runtime sessionId size with
        | .ok terminal =>
          resizeRemote runtime windowChange protocol { services with terminal } state size
        | .error message =>
          -- The refusal is logged, and the size goes to the remote side all the same.
          let (services, state, outcome) :=
            resizeRemote runtime windowChange protocol services state size
          (services, state, if outcome = .done then .refused message else outcome)

end Resize

end WebSsh2.Socket

import WebSsh2.Library.Grouped
import WebSsh2.State.Types
import WebSsh2.Telnet.LoginSteps

namespace WebSsh2.Telnet

open WebSsh2.Library WebSsh2.State

structure TelnetConnectionConfig where
  sessionId : SessionId
  host : JsString
  port : Number
  username : Option JsString := none
  password : Option JsString := none
  loginPrompt : Option (Bytes → Bool) := none
  passwordPrompt : Option (Bytes → Bool) := none
  failurePattern : Option (Bytes → Bool) := none

structure ShellOptions where
  term : Option JsString := none
  rows : Option Number := none
  cols : Option Number := none

-- What is written to a socket: by the negotiator, by the authenticator, or by the client.
inductive Sent where
  | negotiation (bytes : Bytes)
  | login (bytes : Bytes)
  | client (text : JsString)

def Sent.bytes : Sent → Bytes
  | .negotiation bytes => bytes
  | .login bytes => bytes
  | .client text => bufferFrom text

structure NetSocket where
  destroyed : Bool := false
  paused : Bool := false
  written : List Sent := []

namespace NetSocket

variable (socket : NetSocket)

def destroy : NetSocket :=
  { socket with destroyed := true }

def pause : NetSocket :=
  { socket with paused := true }

def resume : NetSocket :=
  { socket with paused := false }

-- A destroyed socket takes nothing any more.
def write (sent : Sent) : NetSocket :=
  if socket.destroyed then socket else { socket with written := socket.written ++ [sent] }

def writeAll (sents : List Sent) : NetSocket :=
  sents.foldl write socket

end NetSocket

-- `hasRoom` is what `push` answers; it changes with what the consumer reads.
structure ShellDuplex where
  needsDrain : Bool := false
  hasRoom : Bool := true
  destroyed : Bool := false
  pushed : List Bytes := []

-- A destroyed stream drops what it is given, and answers false.
def ShellDuplex.push (stream : ShellDuplex) (chunk : Bytes) : ShellDuplex × Bool :=
  if stream.destroyed then (stream, false)
  else ({ stream with pushed := stream.pushed ++ [chunk] }, stream.hasRoom)

-- One call of `shell`. `received` and the log of the authenticator are what its data
-- handler was called with so far.
structure Shell where
  call : Nat
  negotiator : Negotiator
  authenticator : Option Login
  stream : ShellDuplex := {}
  attached : Bool := true
  received : List Bytes := []

namespace Shell

variable (shell : Shell) (socket : NetSocket)

def pushData (chunk : Bytes) : Shell × NetSocket :=
  let (stream, canPush) := shell.stream.push chunk
  if !canPush ∧ !stream.needsDrain then
    ({ shell with stream := { stream with needsDrain := true } }, socket.pause)
  else
    ({ shell with stream }, socket)

-- `_read`, which is not called on a destroyed stream.
def read : Shell × NetSocket :=
  if shell.stream.needsDrain ∧ !shell.stream.destroyed then
    ({ shell with stream := { shell.stream with needsDrain := false } }, socket.resume)
  else
    (shell, socket)

-- What is left to do when there is something for the client.
def deliver (shell : Shell) (socket : NetSocket) (bytes : Bytes) : Shell × NetSocket :=
  if bytes.length > 0 then shell.pushData socket bytes else (shell, socket)

-- The handler of `createSocketDataHandler`.
def handleSocketData (data : Bytes) : Shell × NetSocket :=
  let (negotiator, result) := shell.negotiator.processInbound data
  let socket := socket.writeAll (result.responses.map .negotiation)
  let shell := { shell with negotiator, received := shell.received ++ [data] }
  if result.cleanData.length = 0 then
    (shell, socket)
  else
    match shell.authenticator with
    | none => shell.pushData socket result.cleanData
    | some login =>
      let shown := (login.auth.react (.data result.cleanData)).2
      let socket := socket.writeAll (shown.written.toList.map .login)
      let shell := { shell with authenticator := some (login.step (.data result.cleanData)) }
      shell.deliver socket shown.delivered

def fireTimer (handle : Nat) : Shell × NetSocket :=
  match shell.authenticator with
  | none => (shell, socket)
  | some login =>
    let shown := (login.auth.react (.timer handle)).2
    let shell := { shell with authenticator := some (login.step (.timer handle)) }
    shell.deliver socket shown.delivered

def destroyAuthenticator : Shell :=
  { shell with authenticator := shell.authenticator.map (·.step .destroy) }

def cleanup : Shell :=
  { shell.destroyAuthenticator with attached := false }

def destroyStream : Shell :=
  { shell with stream := { shell.stream with destroyed := true } }

end Shell

-- The object in the pool. Its socket is that of the call of `connect` that made it, and
-- its negotiator and authenticator are those of a call of `shell`.
structure TelnetConnection where
  id : ConnectionId
  sessionId : SessionId
  host : JsString
  port : Number
  username : Option JsString
  call : Nat
  negotiator : Option Nat := none
  authenticator : Option Nat := none

abbrev TelnetConnectionPool := Grouped ConnectionId SessionId TelnetConnection

namespace TelnetConnectionPool

variable (pool : TelnetConnectionPool)

def add (connection : TelnetConnection) : TelnetConnectionPool :=
  Grouped.add TelnetConnection.sessionId pool connection.id connection

def remove (id : ConnectionId) : TelnetConnectionPool :=
  Grouped.remove TelnetConnection.sessionId pool id

end TelnetConnectionPool

-- One call of `connect`. It has no socket where the policy refused the host, and it is
-- rejected where `socket.connect` threw.
structure TelnetCall where
  config : TelnetConnectionConfig
  socket : Option NetSocket
  settled : Bool
  rejected : Bool := false

-- What the promise of a call comes to.
inductive Outcome where
  | resolved (result : Except JsString ConnectionId)
  | rejected (message : JsString)

structure TelnetServiceImpl where
  pool : TelnetConnectionPool := .empty
  connectionMeta : OrderedMap ConnectionId TelnetConnectionConfig := .empty
  calls : List TelnetCall := []
  shells : List Shell := []
  outcomes : List (Nat × Outcome) := []

-- `validated` is the answer of `validateConnectionWithDns`.
def validateSubnets (allowedSubnets : Option (List JsString)) (host : JsString)
    (validated : Except JsString Bool) : Except JsString Unit :=
  match allowedSubnets with
  | none | some [] => .ok ()
  | some _ =>
    match validated with
    | .ok true => .ok ()
    | .ok false => .error (js "Telnet connection to host " ++ host ++
        js " is not permitted by subnet policy")
    | .error message => .error (js "Host validation failed: " ++ message)

namespace TelnetServiceImpl

variable (service : TelnetServiceImpl) (call : Nat)

def socket : Option NetSocket :=
  service.calls[call]?.bind TelnetCall.socket

def updateSocket (change : NetSocket → NetSocket) : TelnetServiceImpl :=
  { service with
    calls := service.calls.modify call fun entry =>
      { entry with socket := entry.socket.map change } }

def updateShell (shell : Nat) (change : Shell → Shell) : TelnetServiceImpl :=
  { service with shells := service.shells.modify shell change }

-- A promise that was rejected takes no other result.
def settle (result : Except JsString ConnectionId) : TelnetServiceImpl :=
  match service.calls[call]? with
  | none => service
  | some entry =>
    if entry.settled then service
    else { service with
      calls := service.calls.set call { entry with settled := true }
      outcomes := service.outcomes ++
        if entry.rejected then [] else [(call, .resolved result)] }

-- `started` is what `socket.connect` comes to: it throws on a port such as 22.5, which
-- rejects the promise and leaves the socket and its timer.
def connect (allowedSubnets : Option (List JsString)) (config : TelnetConnectionConfig)
    (validated : Except JsString Bool) (started : Except JsString Unit) : TelnetServiceImpl :=
  let call := service.calls.length
  match validateSubnets allowedSubnets config.host validated with
  | .error message => { service with
      calls := service.calls ++ [{ config, socket := none, settled := true }]
      outcomes := service.outcomes ++ [(call, .resolved (.error message))] }
  | .ok () =>
    match started with
    | .ok () => { service with
        calls := service.calls ++ [{ config, socket := some {}, settled := false }] }
    | .error message => { service with
        calls := service.calls ++
          [{ config, socket := some {}, settled := false, rejected := true }]
        outcomes := service.outcomes ++ [(call, .rejected message)] }

-- Settling clears the timer.
def connectTimeout : TelnetServiceImpl :=
  match service.calls[call]? with
  | none => service
  | some entry =>
    if entry.settled then service
    else (service.updateSocket call .destroy).settle call (.error (js "Connection timed out"))

variable (id : ConnectionId)

def newConnection (call : Nat) (config : TelnetConnectionConfig) :
    TelnetConnection where
  id
  sessionId := config.sessionId
  host := config.host
  port := config.port
  username := config.username
  call

-- The callback of `socket.connect`, which is not called where that threw; `id` is the one
-- drawn for the call.
def connectCallback : TelnetServiceImpl :=
  match service.calls[call]? with
  | none => service
  | some entry =>
    if entry.settled ∨ entry.rejected then service
    else
      let paused := service.updateSocket call .pause
      { paused with
        pool := TelnetConnectionPool.add paused.pool (newConnection id call entry.config)
        connectionMeta := paused.connectionMeta.set id entry.config }.settle call (.ok id)

-- The listeners of `shell` on the end of its socket.
def closeShells : TelnetServiceImpl :=
  { service with
    shells := service.shells.map fun shell =>
      if shell.call = call then shell.cleanup.destroyStream else shell }

-- The listener of `connect` comes first; it lives as long as the socket.
def socketError (message : JsString) : TelnetServiceImpl :=
  ((service.updateSocket call .destroy).settle call (.error message)).closeShells call

-- What a stream does by itself, with its socket.
def withShell (index : Nat) (act : Shell → NetSocket → Shell × NetSocket) : TelnetServiceImpl :=
  match service.shells[index]? with
  | none => service
  | some shell =>
    match service.socket shell.call with
    | none => service
    | some socket =>
      let (next, written) := act shell socket
      (service.updateSocket shell.call fun _ => written).updateShell index fun _ => next

-- The listener for data that a shell adds to its socket.
def dataListener (data : Bytes) (shell : Shell) (socket : NetSocket) : Shell × NetSocket :=
  if shell.call = call ∧ shell.attached then shell.handleSocketData socket data
  else (shell, socket)

-- A socket that is paused or destroyed emits no data. The listeners are called in the order
-- in which they were added.
def socketData (data : Bytes) : TelnetServiceImpl :=
  match service.socket call with
  | none => service
  | some socket =>
    if socket.paused ∨ socket.destroyed then service
    else (List.range service.shells.length).foldl
      (fun service index => service.withShell index (dataListener call data)) service

-- `_write` of the stream, which hands on the bytes of the text.
def writeStream (text : JsString) (shell : Shell) (socket : NetSocket) : Shell × NetSocket :=
  if shell.stream.destroyed then (shell, socket) else (shell, socket.write (.client text))

def buildAuthenticator : Option Login :=
  match service.connectionMeta.get id with
  | none => none
  | some config =>
    match config.loginPrompt, config.username with
    | some loginPrompt, some username => some (Login.start {
        username := some username
        loginPrompt := some loginPrompt
        password := config.password
        passwordPrompt := config.passwordPrompt
        failurePattern := config.failurePattern })
    | _, _ => none

def newNegotiator (options : ShellOptions) : Options :=
  ({ terminalType := options.term.getD (js "xterm-256color") } : Options).setWindowSize
    (options.cols.getD (.ofInt 80)) (options.rows.getD (.ofInt 24))

def shell (options : ShellOptions) : TelnetServiceImpl × Except JsString Nat :=
  match service.pool.get id with
  | none => (service, .error (js "Connection not found"))
  | some connection =>
    let index := service.shells.length
    let authenticator := service.buildAuthenticator id
    let (negotiator, offers) := (newNegotiator options).buildProactiveOffers
    let opened : TelnetServiceImpl := { service with
      pool := service.pool.update id fun connection => { connection with
        negotiator := some index
        authenticator :=
          if authenticator.isSome then some index else connection.authenticator }
      shells := service.shells ++
        [{ call := connection.call, negotiator := { toOptions := negotiator }, authenticator }] }
    (opened.updateSocket connection.call fun socket =>
      (socket.writeAll (offers.map .negotiation)).resume, .ok index)

def resize (rows cols : Number) : TelnetServiceImpl × Except JsString Unit :=
  match service.pool.get id with
  | none => (service, .error (js "Connection not found"))
  | some connection =>
    match connection.negotiator with
    | none => (service, .error (js "Negotiator not initialized (shell not opened)"))
    | some index =>
      let resized := service.updateShell index fun shell => { shell with
        negotiator := { shell.negotiator with
          toOptions := shell.negotiator.setWindowSize cols rows } }
      (resized.updateSocket connection.call fun socket =>
        socket.write (.negotiation (encodeNaws cols rows)), .ok ())

def destroyAuthenticator (connection : TelnetConnection) : TelnetServiceImpl :=
  match connection.authenticator with
  | none => service
  | some index => service.updateShell index Shell.destroyAuthenticator

def disconnect : TelnetServiceImpl :=
  match service.pool.get id with
  | none => service
  | some connection =>
    let closed :=
      (service.destroyAuthenticator connection).updateSocket connection.call .destroy
    { closed with
      pool := TelnetConnectionPool.remove closed.pool id
      connectionMeta := closed.connectionMeta.delete id }

def getConnectionStatus : Option TelnetConnection :=
  service.pool.get id

end TelnetServiceImpl

inductive TelnetEvent where
  | connect (config : TelnetConnectionConfig) (validated : Except JsString Bool)
      (started : Except JsString Unit)
  | connected (call : Nat)
  | timeout (call : Nat)
  | error (call : Nat) (message : JsString)
  | close (call : Nat)
  | data (call : Nat) (data : Bytes)
  | shell (id : ConnectionId) (options : ShellOptions)
  | resize (id : ConnectionId) (rows cols : Number)
  | disconnect (id : ConnectionId)
  | room (shell : Nat) (hasRoom : Bool)
  | read (shell : Nat)
  | write (shell : Nat) (text : JsString)
  | timer (shell : Nat) (handle : Nat)
  | destroyStream (shell : Nat)
  | streamClosed (shell : Nat)

def telnetStep (allowedSubnets : Option (List JsString)) (randomUUID : Nat → JsString)
    (service : TelnetServiceImpl) : TelnetEvent → TelnetServiceImpl
  | .connect config validated started => service.connect allowedSubnets config validated started
  | .connected call => service.connectCallback call (randomUUID call)
  | .timeout call => service.connectTimeout call
  | .error call message => service.socketError call message
  | .close call => service.closeShells call
  | .data call data => service.socketData call data
  | .shell id options => (service.shell id options).1
  | .resize id rows cols => (service.resize id rows cols).1
  | .disconnect id => service.disconnect id
  | .room shell hasRoom => service.updateShell shell fun shell =>
    { shell with stream := { shell.stream with hasRoom } }
  | .read shell => service.withShell shell Shell.read
  | .write shell text => service.withShell shell (TelnetServiceImpl.writeStream text)
  | .timer shell handle => service.withShell shell fun shell socket =>
    shell.fireTimer socket handle
  | .destroyStream shell => service.updateShell shell Shell.destroyStream
  | .streamClosed shell => service.updateShell shell fun shell =>
    if shell.stream.destroyed then shell.cleanup else shell

end WebSsh2.Telnet

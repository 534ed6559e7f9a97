import WebSsh2.Prompt.Validator
import WebSsh2.State.Store

namespace WebSsh2.Ssh

open WebSsh2.Library WebSsh2.State

inductive SshStatus where
  | connecting | connected | disconnected | error
deriving DecidableEq

-- The object of one connection; `client` is the call of `connect` that made it.
structure SSHConnection where
  id : ConnectionId
  sessionId : SessionId
  client : Nat
  status : SshStatus
  createdAt : Time
  lastActivity : Time
  host : JsString
  port : Number
  username : JsString

-- The pool holds references: what handlers write into the object is not copied here.
structure ConnectionRef where
  sessionId : SessionId
  client : Nat
deriving DecidableEq

def SSHConnection.ref (connection : SSHConnection) : ConnectionRef where
  sessionId := connection.sessionId
  client := connection.client

structure ConnectionPool where
  connections : OrderedMap ConnectionId ConnectionRef
  sessionConnections : OrderedMap SessionId (List ConnectionId)

namespace ConnectionPool

def empty : ConnectionPool where
  connections := .empty
  sessionConnections := .empty

-- Adds to one of the sets of ids, which keep the order of insertion.
def addId (ids : List ConnectionId) (id : ConnectionId) : List ConnectionId :=
  if id ∈ ids then ids else ids ++ [id]

variable (pool : ConnectionPool)

def add (connection : SSHConnection) : ConnectionPool where
  connections := pool.connections.set connection.id connection.ref
  sessionConnections := pool.sessionConnections.set connection.sessionId
    (addId ((pool.sessionConnections.get connection.sessionId).getD []) connection.id)

def get (id : ConnectionId) : Option ConnectionRef :=
  pool.connections.get id

def remove (id : ConnectionId) : ConnectionPool :=
  match pool.get id with
  | none => pool
  | some connection => {
      connections := pool.connections.delete id
      sessionConnections :=
        match pool.sessionConnections.get connection.sessionId with
        | none => pool.sessionConnections
        | some ids =>
          if ids.erase id = [] then pool.sessionConnections.delete connection.sessionId
          else pool.sessionConnections.set connection.sessionId (ids.erase id) }

@[simp] theorem get_empty (id : ConnectionId) : empty.get id = none := rfl

@[simp] theorem get_add (connection : SSHConnection) (id : ConnectionId) :
    (pool.add connection).get id =
      if connection.id = id then some connection.ref else pool.get id := by
  simp [get, add]

@[simp] theorem get_remove (id other : ConnectionId) :
    (pool.remove id).get other = if id = other then none else pool.get other := by
  unfold remove
  cases hget : pool.get id with
  | none =>
    by_cases hid : id = other
    · subst hid
      simp [hget]
    · simp [hid]
  | some connection => simp [get]

theorem get_of_get_remove {pool : ConnectionPool} {id other : ConnectionId}
    {connection : ConnectionRef} (h : (pool.remove id).get other = some connection) :
    pool.get other = some connection := by
  rw [get_remove] at h
  split at h
  · cases h
  · exact h

end ConnectionPool

end WebSsh2.Ssh

namespace WebSsh2.Ssh

open WebSsh2.Library WebSsh2.State WebSsh2.Prompt

structure SSHConfig where
  sessionId : SessionId
  host : JsString
  port : Number
  username : JsString

-- What a handler reads of an error that the client emits.
structure SSHConnectionError where
  message : JsString
  code : Option JsString := none
  stack : Option JsString := none
  name : JsString := js "Error"

-- The pattern `/^(\w+)/`.
def errorTypeMatch (stack : JsString) : Option JsString :=
  (some (stack.takeWhile isWordUnit)).filter (· ≠ [])

-- The pattern `/^\w+\s\[(\w+)\]/`.
def errorCodeMatch (stack : JsString) : Option JsString :=
  (errorTypeMatch stack).bind fun _ =>
    match stack.dropWhile isWordUnit with
    | space :: 91 :: rest =>
      if isWhiteSpace space ∧ (rest.dropWhile isWordUnit).head? = some 93 then
        errorTypeMatch rest
      else none
    | _ => none

def normalizeSSHErrorMessage (error : SSHConnectionError) : JsString :=
  if error.message ≠ [] then error.message
  else
    match error.code.filter (· ≠ []) with
    | some code => code
    | none =>
      let extractedCode := error.stack.bind errorCodeMatch
      let extractedType := (error.stack.bind errorTypeMatch).filter (· ≠ js "Error")
      match extractedCode.or extractedType with
      | some extracted => extracted
      | none =>
        if error.name ≠ [] ∧ error.name ≠ js "Error" then error.name
        else js "Connection failed"

-- What the service does that others see, in order.
inductive SshEffect where
  | dispatched (sessionId : SessionId) (action : SessionAction)
  | pooled (id : ConnectionId)
  | ended (client : Nat)
  | resolved (call : Nat) (result : Except JsString ConnectionId)

-- One call of `connect`. It has no connection where the policy refused the host.
structure ConnectCall where
  config : SSHConfig
  connection : Option SSHConnection
  timer : Bool
  settled : Bool

structure SSHServiceImpl where
  pool : ConnectionPool
  store : SessionStore
  calls : List ConnectCall
  effects : List SshEffect

namespace SSHServiceImpl

def new (store : SessionStore) : SSHServiceImpl where
  pool := .empty
  store
  calls := []
  effects := []

-- A call whose connection object was made, with that object.
def openCall (service : SSHServiceImpl) (call : Nat) : Option (ConnectCall × SSHConnection) :=
  service.calls[call]?.bind fun entry => entry.connection.map fun connection => (entry, connection)

def settle (service : SSHServiceImpl) (call : Nat) (result : Except JsString ConnectionId) :
    SSHServiceImpl :=
  match service.calls[call]? with
  | none => service
  | some entry =>
    if entry.settled then service
    else { service with
      calls := service.calls.set call { entry with settled := true, timer := false }
      effects := service.effects ++ [.resolved call result] }

def dispatch (service : SSHServiceImpl) (sessionId : SessionId) (action : SessionAction)
    (now : Time) : SSHServiceImpl :=
  { service with
    store := service.store.dispatch sessionId action now
    effects := service.effects ++ [.dispatched sessionId action] }

def endClient (service : SSHServiceImpl) (client : Nat) : SSHServiceImpl :=
  { service with effects := service.effects ++ [.ended client] }

def addToPool (service : SSHServiceImpl) (connection : SSHConnection) : SSHServiceImpl :=
  { service with
    pool := service.pool.add connection
    effects := service.effects ++ [.pooled connection.id] }

def removeFromPool (service : SSHServiceImpl) (id : ConnectionId) : SSHServiceImpl :=
  { service with pool := service.pool.remove id }

-- A handler writes into the object that the pool refers to.
def writeConnection (service : SSHServiceImpl) (call : Nat) (entry : ConnectCall)
    (connection : SSHConnection) : SSHServiceImpl :=
  { service with
    calls := service.calls.set call { entry with connection := some connection } }

def newConnection (id : ConnectionId) (call : Nat) (config : SSHConfig) (now : Time) :
    SSHConnection where
  id
  sessionId := config.sessionId
  client := call
  status := .connecting
  createdAt := now
  lastActivity := now
  host := config.host
  port := config.port
  username := config.username

-- `validated` is the answer of the subnet policy, and `started` what the setup of the
-- client up to `client.connect` came to.
def connect (service : SSHServiceImpl) (randomUUID : Nat → JsString) (config : SSHConfig)
    (validated started : Except JsString Unit) (now : Time) : SSHServiceImpl :=
  let call := service.calls.length
  match validated with
  | .error message => { service with
      calls := service.calls ++ [{ config, connection := none, timer := false, settled := true }]
      effects := service.effects ++ [.resolved call (.error message)] }
  | .ok () =>
    let connection := newConnection (randomUUID call) call config now
    let opened := { service with
      calls := service.calls ++
        [{ config, connection := some connection, timer := true, settled := false }] }
    match started with
    | .ok () => opened
    | .error message => opened.settle call (.error message)

-- The timer of a call, which settling clears.
def connectTimeout (service : SSHServiceImpl) (call : Nat) : SSHServiceImpl :=
  match service.openCall call with
  | none => service
  | some (entry, connection) =>
    if !entry.timer || entry.settled then service
    else
      ((service.endClient call).removeFromPool connection.id).settle call
        (.error (js "Connection timeout"))

def readyHandler (service : SSHServiceImpl) (call : Nat) (now : Time) : SSHServiceImpl :=
  match service.openCall call with
  | none => service
  | some (entry, connection) =>
    if entry.settled then service
    else
      let connected := { connection with status := .connected, lastActivity := now }
      (((service.writeConnection call entry connected).addToPool connected).dispatch
        entry.config.sessionId (.connectionEstablished connection.id) now).settle call
          (.ok connection.id)

-- Not gated on the settled flag: the listener lives as long as the connection.
def errorHandler (service : SSHServiceImpl) (call : Nat) (error : SSHConnectionError)
    (now : Time) : SSHServiceImpl :=
  match service.openCall call with
  | none => service
  | some (entry, connection) =>
    ((service.writeConnection call entry { connection with status := .error }).dispatch
      entry.config.sessionId (.connectionError (normalizeSSHErrorMessage error)) now).settle
        call (.error error.message)

def closeHandler (service : SSHServiceImpl) (call : Nat) (now : Time) : SSHServiceImpl :=
  match service.openCall call with
  | none => service
  | some (entry, connection) =>
    (service.removeFromPool connection.id).dispatch entry.config.sessionId
      (.connectionClosed none) now

-- `client.end()` ends the connection or throws; where it throws, all stays as it is.
def disconnect (service : SSHServiceImpl) (id : ConnectionId) (ends : Bool) (now : Time) :
    SSHServiceImpl :=
  match service.pool.get id with
  | none => service
  | some connection =>
    if ends then
      ((service.endClient connection.client).removeFromPool id).dispatch connection.sessionId
        (.connectionClosed none) now
    else
      service

end SSHServiceImpl

inductive SshEvent where
  | connect (config : SSHConfig) (validated started : Except JsString Unit) (now : Time)
  | timeout (call : Nat)
  | ready (call : Nat) (now : Time)
  | error (call : Nat) (error : SSHConnectionError) (now : Time)
  | close (call : Nat) (now : Time)
  | disconnect (id : ConnectionId) (ends : Bool) (now : Time)

def sshStep (randomUUID : Nat → JsString) (service : SSHServiceImpl) : SshEvent → SSHServiceImpl
  | .connect config validated started now =>
    service.connect randomUUID config validated started now
  | .timeout call => service.connectTimeout call
  | .ready call now => service.readyHandler call now
  | .error call error now => service.errorHandler call error now
  | .close call now => service.closeHandler call now
  | .disconnect id ends now => service.disconnect id ends now

-- What one event can do to the service.
inductive Change (randomUUID : Nat → JsString) (service : SSHServiceImpl) : SSHServiceImpl → Prop
  | idle : Change randomUUID service service
  | refused (config : SSHConfig) (message : JsString) : Change randomUUID service { service with
      calls := service.calls ++ [⟨config, none, false, true⟩]
      effects := service.effects ++ [.resolved service.calls.length (.error message)] }
  | opened (config : SSHConfig) (now : Time) : Change randomUUID service { service with
      calls := service.calls ++ [⟨config, some (SSHServiceImpl.newConnection
        (randomUUID service.calls.length) service.calls.length config now), true, false⟩] }
  | broken (config : SSHConfig) (now : Time) (message : JsString) :
      Change randomUUID service { service with
        calls := service.calls ++ [⟨config, some (SSHServiceImpl.newConnection
          (randomUUID service.calls.length) service.calls.length config now), false, true⟩]
        effects := service.effects ++ [.resolved service.calls.length (.error message)] }
  | timedOut (call : Nat) (entry : ConnectCall) (connection : SSHConnection)
      (hopen : service.openCall call = some (entry, connection))
      (hpending : entry.settled = false) :
      Change randomUUID service { service with
        calls := service.calls.set call { entry with settled := true, timer := false }
        pool := service.pool.remove connection.id
        effects := service.effects ++
          [.ended call, .resolved call (.error (js "Connection timeout"))] }
  | ready (call : Nat) (entry : ConnectCall) (connection : SSHConnection) (now : Time)
      (hopen : service.openCall call = some (entry, connection))
      (hpending : entry.settled = false) :
      Change randomUUID service {
        calls := service.calls.set call { entry with
          connection := some { connection with status := .connected, lastActivity := now }
          settled := true
          timer := false }
        pool := service.pool.add { connection with status := .connected, lastActivity := now }
        store := service.store.dispatch entry.config.sessionId
          (.connectionEstablished connection.id) now
        effects := service.effects ++ [.pooled connection.id,
          .dispatched entry.config.sessionId (.connectionEstablished connection.id),
          .resolved call (.ok connection.id)] }
  | errored (call : Nat) (entry : ConnectCall) (connection : SSHConnection)
      (error : SSHConnectionError) (now : Time)
      (hopen : service.openCall call = some (entry, connection)) :
      Change randomUUID service { service with
        calls := service.calls.set call { entry with
          connection := some { connection with status := .error }
          settled := true
          timer := entry.settled && entry.timer }
        store := service.store.dispatch entry.config.sessionId
          (.connectionError (normalizeSSHErrorMessage error)) now
        effects := service.effects ++ .dispatched entry.config.sessionId
          (.connectionError (normalizeSSHErrorMessage error)) ::
          if entry.settled then [] else [.resolved call (.error error.message)] }
  | closed (call : Nat) (entry : ConnectCall) (connection : SSHConnection) (now : Time)
      (hopen : service.openCall call = some (entry, connection)) :
      Change randomUUID service { service with
        pool := service.pool.remove connection.id
        store := service.store.dispatch entry.config.sessionId (.connectionClosed none) now
        effects := service.effects ++
          [.dispatched entry.config.sessionId (.connectionClosed none)] }
  | disconnected (id : ConnectionId) (connection : ConnectionRef) (now : Time)
      (hpooled : service.pool.get id = some connection) :
      Change randomUUID service { service with
        pool := service.pool.remove id
        store := service.store.dispatch connection.sessionId (.connectionClosed none) now
        effects := service.effects ++
          [.ended connection.client, .dispatched connection.sessionId (.connectionClosed none)] }

theorem SSHServiceImpl.openCall_eq_some {service : SSHServiceImpl} {call : Nat}
    {entry : ConnectCall} {connection : SSHConnection} :
    service.openCall call = some (entry, connection) ↔
      service.calls[call]? = some entry ∧ entry.connection = some connection := by
  unfold openCall
  simp only [Option.bind_eq_some_iff, Option.map_eq_some_iff, Prod.mk.injEq]
  constructor
  · rintro ⟨_, hentry, _, hconnection, rfl, rfl⟩
    exact ⟨hentry, hconnection⟩
  · rintro ⟨hentry, hconnection⟩
    exact ⟨entry, hentry, connection, hconnection, rfl, rfl⟩

namespace SSHServiceImpl

variable {service : SSHServiceImpl} {call : Nat} {entry : ConnectCall}
  {connection : SSHConnection}

theorem connectTimeout_eq (hopen : service.openCall call = some (entry, connection))
    (hpending : entry.settled = false) (htimer : entry.timer = true) :
    service.connectTimeout call = { service with
      calls := service.calls.set call { entry with settled := true, timer := false }
      pool := service.pool.remove connection.id
      effects := service.effects ++
        [.ended call, .resolved call (.error (js "Connection timeout"))] } := by
  have hentry := (openCall_eq_some.mp hopen).1
  simp [connectTimeout, hopen, settle, removeFromPool, endClient, hentry, hpending, htimer]

theorem readyHandler_eq (hopen : service.openCall call = some (entry, connection))
    (hpending : entry.settled = false) (now : Time) :
    service.readyHandler call now = {
      calls := service.calls.set call { entry with
        connection := some { connection with status := .connected, lastActivity := now }
        settled := true
        timer := false }
      pool := service.pool.add { connection with status := .connected, lastActivity := now }
      store := service.store.dispatch entry.config.sessionId
        (.connectionEstablished connection.id) now
      effects := service.effects ++ [.pooled connection.id,
        .dispatched entry.config.sessionId (.connectionEstablished connection.id),
        .resolved call (.ok connection.id)] } := by
  have hlt := (List.getElem?_eq_some_iff.mp (openCall_eq_some.mp hopen).1).1
  simp [readyHandler, hopen, settle, dispatch, addToPool, writeConnection, hpending, hlt]

theorem errorHandler_eq (hopen : service.openCall call = some (entry, connection))
    (error : SSHConnectionError) (now : Time) :
    service.errorHandler call error now = { service with
      calls := service.calls.set call { entry with
        connection := some { connection with status := .error }
        settled := true
        timer := entry.settled && entry.timer }
      store := service.store.dispatch entry.config.sessionId
        (.connectionError (normalizeSSHErrorMessage error)) now
      effects := service.effects ++ .dispatched entry.config.sessionId
        (.connectionError (normalizeSSHErrorMessage error)) ::
        if entry.settled then [] else [.resolved call (.error error.message)] } := by
  have hlt := (List.getElem?_eq_some_iff.mp (openCall_eq_some.mp hopen).1).1
  cases hsettled : entry.settled <;>
    simp [errorHandler, hopen, settle, dispatch, writeConnection, hsettled, hlt]

theorem closeHandler_eq (hopen : service.openCall call = some (entry, connection))
    (now : Time) :
    service.closeHandler call now = { service with
      pool := service.pool.remove connection.id
      store := service.store.dispatch entry.config.sessionId (.connectionClosed none) now
      effects := service.effects ++
        [.dispatched entry.config.sessionId (.connectionClosed none)] } := by
  simp [closeHandler, hopen, dispatch, removeFromPool]

theorem disconnect_eq {id : ConnectionId} {ref : ConnectionRef}
    (hpooled : service.pool.get id = some ref) (now : Time) :
    service.disconnect id true now = { service with
      pool := service.pool.remove id
      store := service.store.dispatch ref.sessionId (.connectionClosed none) now
      effects := service.effects ++
        [.ended ref.client, .dispatched ref.sessionId (.connectionClosed none)] } := by
  simp [disconnect, hpooled, dispatch, removeFromPool, endClient]

end SSHServiceImpl

variable (randomUUID : Nat → JsString) (service : SSHServiceImpl)

theorem connect_change (config : SSHConfig) (validated started : Except JsString Unit)
    (now : Time) :
    Change randomUUID service (service.connect randomUUID config validated started now) := by
  cases validated with
  | error message => exact .refused config message
  | ok _ =>
    cases started with
    | ok _ => exact .opened config now
    | error message =>
      convert Change.broken config now message using 1
      simp [SSHServiceImpl.connect, SSHServiceImpl.settle]

theorem connectTimeout_change (call : Nat) :
    Change randomUUID service (service.connectTimeout call) := by
  cases hopen : service.openCall call with
  | none =>
    simp only [SSHServiceImpl.connectTimeout, hopen]
    exact .idle
  | some opened =>
    obtain ⟨entry, connection⟩ := opened
    by_cases hfires : entry.settled = false ∧ entry.timer = true
    · rw [SSHServiceImpl.connectTimeout_eq hopen hfires.1 hfires.2]
      exact .timedOut call entry connection hopen hfires.1
    · have hidle : service.connectTimeout call = service := by
        simp only [SSHServiceImpl.connectTimeout, hopen]
        cases hsettled : entry.settled <;> cases htimer : entry.timer <;>
          simp [hsettled, htimer] at hfires ⊢
      rw [hidle]
      exact .idle

theorem readyHandler_change (call : Nat) (now : Time) :
    Change randomUUID service (service.readyHandler call now) := by
  cases hopen : service.openCall call with
  | none =>
    simp only [SSHServiceImpl.readyHandler, hopen]
    exact .idle
  | some opened =>
    obtain ⟨entry, connection⟩ := opened
    cases hpending : entry.settled with
    | false =>
      rw [SSHServiceImpl.readyHandler_eq hopen hpending]
      exact .ready call entry connection now hopen hpending
    | true =>
      simp only [SSHServiceImpl.readyHandler, hopen, hpending, if_true]
      exact .idle

theorem errorHandler_change (call : Nat) (error : SSHConnectionError) (now : Time) :
    Change randomUUID service (service.errorHandler call error now) := by
  cases hopen : service.openCall call with
  | none =>
    simp only [SSHServiceImpl.errorHandler, hopen]
    exact .idle
  | some opened =>
    rw [SSHServiceImpl.errorHandler_eq hopen]
    exact .errored call opened.1 opened.2 error now hopen

theorem closeHandler_change (call : Nat) (now : Time) :
    Change randomUUID service (service.closeHandler call now) := by
  cases hopen : service.openCall call with
  | none =>
    simp only [SSHServiceImpl.closeHandler, hopen]
    exact .idle
  | some opened =>
    rw [SSHServiceImpl.closeHandler_eq hopen]
    exact .closed call opened.1 opened.2 now hopen

theorem disconnect_change (id : ConnectionId) (ends : Bool) (now : Time) :
    Change randomUUID service (service.disconnect id ends now) := by
  cases hpooled : service.pool.get id with
  | none =>
    simp only [SSHServiceImpl.disconnect, hpooled]
    exact .idle
  | some ref =>
    cases ends with
    | false =>
      simp only [SSHServiceImpl.disconnect, hpooled]
      exact .idle
    | true =>
      rw [SSHServiceImpl.disconnect_eq hpooled]
      exact .disconnected id ref now hpooled

theorem sshStep_change (event : SshEvent) :
    Change randomUUID service (sshStep randomUUID service event) := by
  cases event with
  | connect config validated started now => exact connect_change randomUUID service _ _ _ _
  | timeout call => exact connectTimeout_change randomUUID service call
  | ready call now => exact readyHandler_change randomUUID service call now
  | error call error now => exact errorHandler_change randomUUID service call error now
  | close call now => exact closeHandler_change randomUUID service call now
  | disconnect id ends now => exact disconnect_change randomUUID service id ends now

end WebSsh2.Ssh

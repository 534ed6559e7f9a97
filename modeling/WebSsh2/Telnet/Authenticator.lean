import WebSsh2.Telnet.Negotiation

namespace WebSsh2.Telnet

def MAX_AUTH_BUFFER_BYTES : Nat := 65536

inductive AuthState where
  | waitingLogin | waitingPassword | waitingResult | authenticated | passThrough | failed
deriving DecidableEq

-- A pattern says whether it matches the bytes, read as UTF-8.
structure AuthOptions where
  username : Option JsString := none
  password : Option JsString := none
  loginPrompt : Option (Bytes → Bool) := none
  passwordPrompt : Option (Bytes → Bool) := none
  failurePattern : Option (Bytes → Bool) := none

-- What a timer calls: the callback of `startTimeout`, or `settleAuthResult`.
inductive Callback where
  | timeout | settle

structure Timers where
  pending : List (Nat × Callback) := []
  next : Nat := 0

namespace Timers

variable (timers : Timers)

def setTimeout (callback : Callback) : Timers × Nat :=
  ({ pending := timers.pending ++ [(timers.next, callback)], next := timers.next + 1 }, timers.next)

def clearTimeout (handle : Nat) : Timers :=
  { timers with pending := timers.pending.filter fun timer => timer.1 ≠ handle }

def callback? (handle : Nat) : Option Callback :=
  (timers.pending.find? fun timer => timer.1 = handle).map Prod.snd

end Timers

structure Authenticator where
  options : AuthOptions
  currentState : AuthState
  buffer : Bytes := []
  timeoutHandle : Option Nat := none
  resultSettleHandle : Option Nat := none
  -- whether a callback is registered
  onAuthSettled : Bool := false
  timers : Timers := {}

structure ProcessDataResult where
  writeToSocket : Option Bytes
  forwardToClient : Option Bytes

-- `Buffer.from(text)`: UTF-8, where a surrogate that has no other half becomes U+FFFD.
def bufferFrom : JsString → Bytes
  | [] => []
  | [unit] => encodeUnit unit
  | unit :: next :: rest =>
    if 0xD800 ≤ unit ∧ unit < 0xDC00 ∧ 0xDC00 ≤ next ∧ next < 0xE000 then
      let code := 0x10000 + (unit.toNat - 0xD800) * 0x400 + (next.toNat - 0xDC00)
      [(0xF0 + code / 0x40000).toUInt8, (0x80 + code / 0x1000 % 0x40).toUInt8,
        (0x80 + code / 0x40 % 0x40).toUInt8, (0x80 + code % 0x40).toUInt8] ++ bufferFrom rest
    else
      encodeUnit unit ++ bufferFrom (next :: rest)
where
  encodeUnit (unit : UInt16) : Bytes :=
    if unit < 0x80 then
      [unit.toUInt8]
    else if unit < 0x800 then
      [(0xC0 + unit.toNat / 0x40).toUInt8, (0x80 + unit.toNat % 0x40).toUInt8]
    else if 0xD800 ≤ unit ∧ unit < 0xE000 then
      [0xEF, 0xBF, 0xBD]
    else
      [(0xE0 + unit.toNat / 0x1000).toUInt8, (0x80 + unit.toNat / 0x40 % 0x40).toUInt8,
        (0x80 + unit.toNat % 0x40).toUInt8]

def line (text : Option JsString) : Bytes :=
  bufferFrom (text.getD [] ++ js "\r\n")

def noAction : ProcessDataResult where
  writeToSocket := none
  forwardToClient := none

variable (options : AuthOptions)

def hasPassword : Bool :=
  options.password.isSome

-- `this.options.failurePattern?.test(text) === true`
def isFailure (text : Bytes) : Bool :=
  match options.failurePattern with
  | some failurePattern => failurePattern text
  | none => false

def AuthState.isWaiting (state : AuthState) : Bool :=
  state = .waitingLogin ∨ state = .waitingPassword ∨ state = .waitingResult

def resolveInitialState : AuthState :=
  if options.loginPrompt.isNone ∨ options.username.isNone then .passThrough else .waitingLogin

namespace Authenticator

def new (options : AuthOptions) : Authenticator where
  options
  currentState := resolveInitialState options

variable (auth : Authenticator)

def cancelTimeout : Authenticator :=
  match auth.timeoutHandle with
  | some handle => { auth with timers := auth.timers.clearTimeout handle, timeoutHandle := none }
  | none => auth

def cancelResultSettle : Authenticator :=
  match auth.resultSettleHandle with
  | some handle =>
    { auth with timers := auth.timers.clearTimeout handle, resultSettleHandle := none }
  | none => auth

def destroy : Authenticator :=
  auth.cancelTimeout.cancelResultSettle

def startTimeout : Authenticator :=
  let auth := auth.cancelTimeout
  let (timers, handle) := auth.timers.setTimeout .timeout
  { auth with timers, timeoutHandle := some handle }

def setOnAuthSettled : Authenticator :=
  { auth with onAuthSettled := true }

-- The callback of `startTimeout`, and what it gives to `onTimeout`.
def onTimeout : Authenticator × Bytes :=
  if auth.currentState.isWaiting then
    ({ auth with buffer := [], currentState := .passThrough }, auth.buffer)
  else
    (auth, [])

def settleAuthResult : Authenticator × Bytes :=
  if auth.currentState ≠ .waitingResult then
    (auth, [])
  else
    let buffered := auth.buffer
    let auth := { auth with currentState := .authenticated, buffer := [] }.cancelTimeout
    ({ auth with resultSettleHandle := none }, if auth.onAuthSettled then buffered else [])

def transitionToPassThrough : Authenticator × ProcessDataResult :=
  ({ auth with buffer := [], currentState := .passThrough }.cancelTimeout.cancelResultSettle,
    { writeToSocket := none, forwardToClient := some auth.buffer })

variable (data : Bytes)

def handleWaitingLogin : Authenticator × ProcessDataResult :=
  let auth := { auth with buffer := auth.buffer ++ data }
  if MAX_AUTH_BUFFER_BYTES < auth.buffer.length then
    auth.transitionToPassThrough
  else
    match auth.options.loginPrompt with
    | none => (auth, noAction)
    | some loginPrompt =>
      if loginPrompt auth.buffer then
        let nextState := if hasPassword auth.options then .waitingPassword else .waitingResult
        ({ auth with buffer := [], currentState := nextState },
          { writeToSocket := some (line auth.options.username), forwardToClient := none })
      else
        (auth, noAction)

def handleWaitingPassword : Authenticator × ProcessDataResult :=
  let auth := { auth with buffer := auth.buffer ++ data }
  if MAX_AUTH_BUFFER_BYTES < auth.buffer.length then
    auth.transitionToPassThrough
  else
    match auth.options.passwordPrompt with
    | none => (auth, noAction)
    | some passwordPrompt =>
      if passwordPrompt auth.buffer then
        ({ auth with buffer := [], currentState := .waitingResult, resultSettleHandle := none },
          { writeToSocket := some (line auth.options.password), forwardToClient := none })
      else
        (auth, noAction)

def handleWaitingResult : Authenticator × ProcessDataResult :=
  let auth := { auth with buffer := auth.buffer ++ data }
  if MAX_AUTH_BUFFER_BYTES < auth.buffer.length then
    auth.transitionToPassThrough
  else if isFailure auth.options auth.buffer then
    ({ auth with currentState := .failed, buffer := [] }.cancelTimeout.cancelResultSettle,
      { writeToSocket := none, forwardToClient := some data })
  else
    match auth.resultSettleHandle with
    | some _ => (auth, noAction)
    | none =>
      let (timers, handle) := auth.timers.setTimeout .settle
      ({ auth with timers, resultSettleHandle := some handle }, noAction)

def processData : Authenticator × ProcessDataResult :=
  match auth.currentState with
  | .waitingLogin => auth.handleWaitingLogin data
  | .waitingPassword => auth.handleWaitingPassword data
  | .waitingResult => auth.handleWaitingResult data
  | .authenticated | .passThrough | .failed =>
    (auth, { writeToSocket := none, forwardToClient := some data })

end Authenticator

variable (auth : Authenticator)

def isAuthComplete : Bool :=
  auth.currentState = .authenticated ∨ auth.currentState = .passThrough ∨
    auth.currentState = .failed

-- What a step shows to the outside: written to the socket, and pushed to the client.
structure Shown where
  written : Option Bytes := none
  delivered : Bytes := []

-- The handler of `createSocketDataHandler`, after the negotiation was taken out.
def handleCleanData (cleanData : Bytes) : Authenticator × Shown :=
  if cleanData.length = 0 then
    (auth, {})
  else if !isAuthComplete auth then
    let (auth, authResult) := auth.processData cleanData
    (auth, { written := authResult.writeToSocket, delivered := authResult.forwardToClient.getD [] })
  else
    (auth, { delivered := cleanData })

-- A timer whose handle is not pending any more does nothing.
def fireTimer (handle : Nat) : Authenticator × Shown :=
  match auth.timers.callback? handle with
  | none => (auth, {})
  | some callback =>
    let auth := { auth with timers := auth.timers.clearTimeout handle }
    let (auth, buffered) := match callback with
      | .timeout => auth.onTimeout
      | .settle => auth.settleAuthResult
    (auth, { delivered := buffered })

inductive AuthEvent where
  | data (cleanData : Bytes)
  | timer (handle : Nat)
  | destroy

def Authenticator.react : AuthEvent → Authenticator × Shown
  | .data cleanData => handleCleanData auth cleanData
  | .timer handle => fireTimer auth handle
  | .destroy => (auth.destroy, {})

-- The authenticator as `shell` makes it.
def Authenticator.start : Authenticator :=
  (Authenticator.new options).startTimeout.setOnAuthSettled

end WebSsh2.Telnet

import WebSsh2.Values
import WebSsh2.Library.OrderedMap

namespace WebSsh2.State

open WebSsh2.Library

abbrev SessionId := JsString
abbrev UserId := JsString
abbrev ConnectionId := JsString
abbrev Time := Int

inductive AuthStatus where
  | pending | authenticated | failed
deriving DecidableEq

inductive AuthMethod where
  | basic | manual | post | keyboardInteractive
deriving DecidableEq

namespace AuthMethod

def text : AuthMethod → JsString
  | basic => js "basic"
  | manual => js "manual"
  | post => js "post"
  | keyboardInteractive => js "keyboard-interactive"

end AuthMethod

inductive ConnectionStatus where
  | disconnected | connecting | connected | error | closed
deriving DecidableEq

structure AuthState where
  status : AuthStatus
  method : Option JsString
  username : Option JsString
  timestamp : Time
  errorMessage : Option JsString

structure ConnectionState where
  status : ConnectionStatus
  connectionId : Option ConnectionId
  host : Option JsString
  port : Option Number
  errorMessage : Option JsString
  lastActivity : Time

structure TerminalState where
  term : JsString
  rows : Number
  cols : Number
  environment : OrderedMap JsString JsString
  cwd : Option JsString

structure SessionMetadata where
  createdAt : Time
  updatedAt : Time
  clientIp : Option JsString
  userAgent : Option JsString
  userId : Option UserId

structure SessionState where
  id : SessionId
  auth : AuthState
  connection : ConnectionState
  terminal : TerminalState
  metadata : SessionMetadata

namespace TerminalDefaults

def defaultTerm : JsString := js "xterm-256color"
def defaultRows : Number := .finite 24
def defaultCols : Number := .finite 80

end TerminalDefaults

def initialTerminal : TerminalState where
  term := TerminalDefaults.defaultTerm
  rows := TerminalDefaults.defaultRows
  cols := TerminalDefaults.defaultCols
  environment := .empty
  cwd := none

def createInitialState (sessionId : SessionId) (now : Time) : SessionState where
  id := sessionId
  auth := {
    status := .pending
    method := none
    username := none
    timestamp := now
    errorMessage := none
  }
  connection := {
    status := .disconnected
    connectionId := none
    host := none
    port := none
    errorMessage := none
    lastActivity := now
  }
  terminal := initialTerminal
  metadata := {
    createdAt := now
    updatedAt := now
    clientIp := none
    userAgent := none
    userId := none
  }

inductive SessionAction where
  | authRequest (method : JsString) (username : Option JsString)
  | authSuccess (username method : JsString) (userId : Option UserId)
  | authFailure (error method : JsString)
  | authLogout
  | authClearError
  | connectionStart (host : JsString) (port : Number)
  | connectionEstablished (connectionId : ConnectionId)
  | connectionError (error : JsString)
  | connectionClosed (reason : Option JsString)
  | connectionActivity
  | terminalInit (term : JsString) (rows cols : Number)
      (environment : OrderedMap JsString JsString) (cwd : Option JsString)
  | terminalResize (rows cols : Number)
  | terminalSetTerm (term : JsString)
  | terminalSetEnv (environment : OrderedMap JsString JsString)
  | terminalUpdateEnv (environment : OrderedMap JsString JsString)
  | terminalSetCwd (cwd : JsString)
  | terminalDestroy
  | metadataSetClient (clientIp userAgent : JsString)
  -- Each field is absent, or present with a value or null.
  | metadataUpdate (userId : Option (Option UserId)) (clientIp userAgent : Option (Option JsString))
      (updatedAt : Option Time)
  | metadataUpdateTimestamp
  | sessionReset
  | sessionEnd

end WebSsh2.State

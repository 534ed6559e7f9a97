import WebSsh2.State.Types
import WebSsh2.Validation.Environment

namespace WebSsh2.Socket

open WebSsh2.Library WebSsh2.State WebSsh2.Validation

inductive Protocol where
  | ssh | telnet
deriving DecidableEq

-- Rows and columns as the client sends them: any value, or none at all.
structure Dimensions where
  rows : JsValue
  cols : JsValue
deriving DecidableEq

structure TermSettings where
  term : JsValue := none
  rows : JsValue := none
  cols : JsValue := none
deriving DecidableEq

-- What a socket says about its client.
structure ClientDetails where
  ip : Option JsString := none
  port : Option Number := none
  userAgent : Option JsString := none
  sourcePort : Option Number := none

-- What the handlers of one socket share; `σ` stands for a shell stream.
-- Names and places come from messages and are whatever the client sent.
structure AdapterSharedState (σ : Type) where
  sessionId : Option SessionId := none
  connectionId : Option ConnectionId := none
  shellStream : Option σ := none
  storedPassword : Option JsString := none
  originalAuthMethod : Option JsString := none
  initialTermSettings : TermSettings := {}
  clientIp : Option JsString := none
  clientPort : Option Number := none
  clientSourcePort : Option Number := none
  targetHost : JsValue := some .null
  targetPort : JsValue := some .null
  username : JsValue := some .null
  userAgent : Option JsString := none
  requestedKeyboardInteractive : Bool := false

-- The state that a new socket starts with.
def createAdapterSharedState (σ : Type) (details : ClientDetails) : AdapterSharedState σ where
  clientIp := details.ip
  clientPort := details.port
  clientSourcePort := details.sourcePort
  userAgent := details.userAgent

-- `value.key` and `value?.key`: nothing but an object from a message has fields
-- of its own names.
def property (key : String) (value : JsValue) : JsValue :=
  value.bind (Json.field (js key))

end WebSsh2.Socket

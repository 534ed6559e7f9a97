import WebSsh2.Decimal
import WebSsh2.Http.AnnouncedTarget
import WebSsh2.Library.JsonOverlay
import Mathlib.Data.Nat.Cast.Order.Ring

namespace WebSsh2.Http

open WebSsh2.Library WebSsh2.State WebSsh2.Auth WebSsh2.Socket

section Paths

-- A login as a user gives it. Every host has a name.
structure Login where
  username : JsString
  password : JsString
  host : JsString
  port : Nat
  host_ne : host ≠ []

variable (config : LoginConfig) (sessionId : SessionId)

variable (keyboardInteractive : Bool)

end Paths

section Agreement

-- The configured credentials are filled in where the body lacks one.
def completes (config : HttpConfig) (ssoHeaders : Bool) (login : Login) : Bool :=
  shouldApplyDefaults config && !ssoHeaders && (login.username = [] || login.password = [])

def completedText (configured : Option JsString) (text : JsString) : JsString :=
  if text = [] then configured.getD [] else text

def completed (config : HttpConfig) (login : Login) : Login :=
  { login with
    username := completedText config.user.name login.username
    password := completedText config.user.password login.password }

end Agreement

section Plain

variable {config : LoginConfig}

theorem any_length_pos (text : JsString) :
    (some text).any (fun text => decide (0 < text.length)) = decide (text ≠ []) := by
  cases text with
  | nil => rfl
  | cons head rest => simp

end Plain

section Sessions

variable {config : LoginConfig} {sessionId : SessionId}

variable {stored : SshCredentials} {session : AuthSession}

end Sessions

section Requests

variable {runtime : Runtime} {escape : JsString → JsString} {config : HttpConfig}
  {sessionId : SessionId} {details : ClientDetails}

variable {request : HttpRequest}

variable {store : AuthSession}

variable (portAsText : Bool)

theorem fieldOf_setEntries (key other : String) (value : JsonValue) (body : Fields) :
    fieldOf other (OrderedMap.setEntries (js key) value body) =
      if js key = js other then some value else fieldOf other body :=
  Json.lookup_setEntries (js key) (js other) value body

end Requests

section Paths

variable (runtime : Runtime) (escape : JsString → JsString) (config : HttpConfig)

end Paths

end WebSsh2.Http

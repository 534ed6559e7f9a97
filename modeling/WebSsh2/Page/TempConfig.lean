import WebSsh2.Auth.HeaderOverride
import WebSsh2.Config.Defaults
import WebSsh2.Http.Routes
import WebSsh2.Validation.BusinessRules

namespace WebSsh2.Page

open WebSsh2.Library WebSsh2.Auth WebSsh2.Auth.HeaderProcessor WebSsh2.HostKey WebSsh2.Validation

section Config

structure PageRequest where
  protocol : JsString
  host : Option JsString
  path : JsString
  session : Option HeaderSession

abbrev Fragment := List (String × JsonValue)

-- A field that is left out where it is `undefined`.
def optional (name : String) (value : JsValue) : Fragment :=
  (value.map fun value => (name, value)).toList

def nullable (value : JsValue) : JsonValue :=
  value.getD .null

def buildSocketConfig (request : PageRequest) (protocol : Socket.Protocol) (config : JsonValue) :
    Fragment :=
  let url := request.protocol ++ js "://" ++ request.host.getD (js "undefined")
  let path := match protocol with
    | .telnet => "/telnet/socket.io"
    | .ssh => "/ssh/socket.io"
  let transports := match setting ["options", "transport"] config with
    | some (.array items) => if items = [] then none else some (.array items)
    | _ => none
  [("socket", Config.jsonObject
      ([("url", .string url), ("path", Config.jsonText path)] ++ optional "transports" transports)),
    ("autoConnect", .bool ((js "/host/").isPrefixOf request.path))] ++
  if protocol = .telnet then [("protocol", Config.jsonText "telnet")] else []

def buildConnectionMode (options : Http.ConnectionOptions) : Fragment :=
  match options.connectionMode with
  | none => []
  | some mode =>
    [("connectionMode", Config.jsonText (match mode with
        | .full => "full"
        | .hostLocked => "host-locked"))] ++
      optional "lockedHost" (options.lockedHost.map .string) ++
      optional "lockedPort" (options.lockedPort.map .number)

def buildSshCredentials (session : Option HeaderSession) : Fragment :=
  match session with
  | none => []
  | some session =>
    if Http.hasSessionCredentials session.toAuthSession = true then
      match session.sshCredentials with
      | none => []
      | some credentials =>
        [("ssh", Config.jsonObject
            ([("host", nullable (credentials.host.map .string)),
                ("port", nullable (credentials.port.map .number))] ++
              optional "sshterm" ((credentials.term.filter (· ≠ [])).map .string))),
          ("autoConnect", .bool true)]
    else []

-- `override ?? value`
def orElse (override : Option JsString) (value : JsValue) : JsValue :=
  match override with
  | some text => some (.string text)
  | none => value

-- What is left of a value that is asked `!= null`.
def nonNull (value : JsValue) : JsValue :=
  value.filter (· ≠ .null)

def buildHeaderConfig (config : JsonValue) (session : Option HeaderSession) : Fragment :=
  let override := session.bind HeaderSession.headerOverride
  let text := nonNull
    (orElse (override.bind HeaderOverride.text) (setting ["header", "text"] config))
  let background := nonNull
    (orElse (override.bind HeaderOverride.background) (setting ["header", "background"] config))
  if text = none ∧ background = none then
    []
  else
    [("header", Config.jsonObject (optional "text" text ++ optional "background" background))]

def buildTerminalConfig (config : JsonValue) : Fragment :=
  if setting ["options", "terminal", "shiftEnterNewline"] config ≠ some (.bool true) then
    []
  else
    [("terminal", Config.jsonObject [("shiftEnterNewline", .bool true)])]

-- `Object.assign(target, fragment)`
def assign (target : Fields) (fragment : Fragment) : Fields :=
  fragment.foldl (fun fields entry => OrderedMap.setEntries (js entry.1) entry.2 fields) target

def buildTempConfig (request : PageRequest) (config : JsonValue)
    (options : Http.ConnectionOptions) : Fields :=
  [buildSocketConfig request options.protocol config, buildConnectionMode options,
    buildSshCredentials request.session, buildHeaderConfig config request.session,
    buildTerminalConfig config].foldl assign []

end Config

section Placed

variable {entry : String × JsonValue}

theorem mem_optional {name : String} {value : JsValue} (h : entry ∈ optional name value) :
    entry.1 = name := by
  cases value with
  | none => cases h
  | some value => rw [List.mem_singleton.mp h]

theorem name_of_socket {request : PageRequest} {protocol : Socket.Protocol} {config : JsonValue}
    (h : entry ∈ buildSocketConfig request protocol config) :
    entry.1 ∈ ["socket", "autoConnect", "protocol"] := by
  unfold buildSocketConfig at h
  dsimp only at h
  rcases List.mem_append.mp h with hfirst | hprotocol
  · simp only [List.mem_cons, List.not_mem_nil, or_false] at hfirst
    rcases hfirst with rfl | rfl
    · exact List.mem_cons_self
    · exact List.mem_cons_of_mem _ List.mem_cons_self
  · split at hprotocol
    · rw [List.mem_singleton.mp hprotocol]
      decide
    · cases hprotocol

theorem name_of_mode {options : Http.ConnectionOptions} (h : entry ∈ buildConnectionMode options) :
    entry.1 ∈ ["connectionMode", "lockedHost", "lockedPort"] := by
  unfold buildConnectionMode at h
  split at h
  · cases h
  · rcases List.mem_append.mp h with hrest | hport
    · rcases List.mem_append.mp hrest with hmode | hhost
      · rw [List.mem_singleton.mp hmode]
        exact List.mem_cons_self
      · rw [mem_optional hhost]
        decide
    · rw [mem_optional hport]
      decide

theorem name_of_credentials {session : Option HeaderSession}
    (h : entry ∈ buildSshCredentials session) : entry.1 ∈ ["ssh", "autoConnect"] := by
  unfold buildSshCredentials at h
  split at h
  · cases h
  · split at h
    · split at h
      · cases h
      · simp only [List.mem_cons, List.not_mem_nil, or_false] at h
        rcases h with rfl | rfl
        · exact List.mem_cons_self
        · exact List.mem_cons_of_mem _ List.mem_cons_self
    · cases h

theorem name_of_terminal {config : JsonValue} (h : entry ∈ buildTerminalConfig config) :
    entry.1 ∈ ["terminal"] := by
  unfold buildTerminalConfig at h
  split at h
  · cases h
  · rw [List.mem_singleton.mp h]
    decide

theorem lookup_assign_of_absent {fragment : Fragment} {names : List String}
    (hnames : ∀ entry ∈ fragment, entry.1 ∈ names) {name : String}
    (habsent : ∀ other ∈ names, js other ≠ js name) (target : Fields) :
    Json.lookup (js name) (assign target fragment) = Json.lookup (js name) target := by
  induction fragment generalizing target with
  | nil => rfl
  | cons entry rest ih =>
    have hrest := ih (fun other hother => hnames other (List.mem_cons_of_mem _ hother))
      (OrderedMap.setEntries (js entry.1) entry.2 target)
    unfold assign at hrest ⊢
    rw [List.foldl_cons, hrest, Json.lookup_setEntries,
      if_neg (habsent entry.1 (hnames entry List.mem_cons_self))]

-- The header of the page is what its own fragment has, and no other fragment touches it.
theorem lookup_header (request : PageRequest) (config : JsonValue)
    (options : Http.ConnectionOptions) :
    Json.lookup (js "header") (buildTempConfig request config options) =
      (buildHeaderConfig config request.session).head?.map Prod.snd := by
  unfold buildTempConfig
  rw [List.foldl_cons, List.foldl_cons, List.foldl_cons, List.foldl_cons, List.foldl_cons,
    List.foldl_nil, lookup_assign_of_absent (fun _ => name_of_terminal) (by decide)]
  have hbefore : Json.lookup (js "header") (assign (assign (assign []
      (buildSocketConfig request options.protocol config)) (buildConnectionMode options))
        (buildSshCredentials request.session)) = none := by
    rw [lookup_assign_of_absent (fun _ => name_of_credentials) (by decide),
      lookup_assign_of_absent (fun _ => name_of_mode) (by decide),
      lookup_assign_of_absent (fun _ => name_of_socket) (by decide)]
    rfl
  unfold buildHeaderConfig
  dsimp only
  split
  · exact hbefore
  · unfold assign
    rw [List.foldl_cons, List.foldl_nil, Json.lookup_setEntries, if_pos rfl]
    rfl

def headerBackground (config : JsonValue) (session : Option HeaderSession) : JsValue :=
  nonNull (orElse ((session.bind HeaderSession.headerOverride).bind HeaderOverride.background)
    (setting ["header", "background"] config))

theorem background_buildTempConfig (request : PageRequest) (config : JsonValue)
    (options : Http.ConnectionOptions) :
    setting ["header", "background"] (.object (buildTempConfig request config options)) =
      headerBackground config request.session := by
  unfold setting
  rw [List.map_cons, List.map_cons, List.map_nil, Json.atPath, Json.field, lookup_header]
  unfold buildHeaderConfig headerBackground
  dsimp only
  split
  · next hnone =>
      rw [hnone.2]
      rfl
  · generalize nonNull (orElse ((request.session.bind HeaderSession.headerOverride).bind
      HeaderOverride.background) (setting ["header", "background"] config)) = background
    generalize nonNull (orElse ((request.session.bind HeaderSession.headerOverride).bind
      HeaderOverride.text) (setting ["header", "text"] config)) = text
    have hkeys : js "text" ≠ js "background" := by decide
    cases text <;> cases background <;>
      simp [optional, Config.jsonObject, Json.atPath, Json.field, Json.lookup, hkeys]

end Placed

end WebSsh2.Page

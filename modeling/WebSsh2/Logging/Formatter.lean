import WebSsh2.Logging.Controls
import WebSsh2.Library.JsonOverlay

namespace WebSsh2.Logging

open WebSsh2.Library

section Context

inductive ContextKey where
  | sessionId | requestId | username | authMethod | mfaUsed
  | clientIp | clientPort | clientSourcePort | userAgent | targetHost | targetPort
  | protocol | subsystem | status | reason | errorCode
  | durationMs | bytesIn | bytesOut | auditId | retentionTag | connectionId
deriving DecidableEq

def ContextKey.name : ContextKey → String
  | .sessionId => "sessionId"
  | .requestId => "requestId"
  | .username => "username"
  | .authMethod => "authMethod"
  | .mfaUsed => "mfaUsed"
  | .clientIp => "clientIp"
  | .clientPort => "clientPort"
  | .clientSourcePort => "clientSourcePort"
  | .userAgent => "userAgent"
  | .targetHost => "targetHost"
  | .targetPort => "targetPort"
  | .protocol => "protocol"
  | .subsystem => "subsystem"
  | .status => "status"
  | .reason => "reason"
  | .errorCode => "errorCode"
  | .durationMs => "durationMs"
  | .bytesIn => "bytesIn"
  | .bytesOut => "bytesOut"
  | .auditId => "auditId"
  | .retentionTag => "retentionTag"
  | .connectionId => "connectionId"

-- The field of a record that a value of the context goes to.
def contextField : ContextKey → String
  | .sessionId => "session_id"
  | .requestId => "request_id"
  | .username => "username"
  | .authMethod => "auth_method"
  | .mfaUsed => "mfa_used"
  | .clientIp => "client_ip"
  | .clientPort => "client_port"
  | .clientSourcePort => "client_source_port"
  | .userAgent => "user_agent"
  | .targetHost => "target_host"
  | .targetPort => "target_port"
  | .protocol => "protocol"
  | .subsystem => "subsystem"
  | .status => "status"
  | .reason => "reason"
  | .errorCode => "error_code"
  | .durationMs => "duration_ms"
  | .bytesIn => "bytes_in"
  | .bytesOut => "bytes_out"
  | .auditId => "audit_id"
  | .retentionTag => "retention_tag"
  | .connectionId => "connection_id"

-- The values of a context in their order; a value that is `undefined` is `none`.
abbrev LogContext := List (ContextKey × JsValue)

abbrev LogFields := List (JsString × JsonValue)

def maxReasonLength : Nat := 512

def authMethods : List String :=
  ["publickey", "password", "keyboard-interactive", "agent", "gssapi"]

def protocols : List String := ["ssh", "sftp", "scp"]

def subsystems : List String := ["shell", "sftp", "scp", "exec", "prompt", "security"]

def statuses : List String := ["success", "failure"]

def isOneOf (names : List String) : JsonValue → Bool
  | .string text => names.any fun name => js name = text
  | _ => false

def isNonEmptyString : JsonValue → Bool
  | .string text => text ≠ []
  | _ => false

def isValidPort : JsonValue → Bool
  | .number (.finite value) => value.isInt && 0 ≤ value && value ≤ 65535
  | _ => false

def isNonNegativeNumber : JsonValue → Bool
  | .number (.finite value) => 0 ≤ value
  | _ => false

def isBoolean : JsonValue → Bool
  | .bool _ => true
  | _ => false

def isValidErrorCode : JsonValue → Bool
  | .string text => text ≠ []
  | .number _ => true
  | _ => false

def isValidReason : JsonValue → Bool
  | .string text => 0 < text.length && text.length ≤ maxReasonLength
  | _ => false

def validateContextValue : ContextKey → JsonValue → Bool
  | .sessionId | .requestId | .username | .userAgent | .clientIp | .targetHost | .auditId
  | .retentionTag | .connectionId => isNonEmptyString
  | .clientPort | .clientSourcePort | .targetPort => isValidPort
  | .durationMs | .bytesIn | .bytesOut => isNonNegativeNumber
  | .mfaUsed => isBoolean
  | .errorCode => isValidErrorCode
  | .authMethod => isOneOf authMethods
  | .protocol => isOneOf protocols
  | .subsystem => isOneOf subsystems
  | .status => isOneOf statuses
  | .reason => isValidReason

-- The first value that is not valid ends it all. A finite number is the same after
-- `Number.parseFloat(String(value))`.
def applyContext (record : LogFields) : LogContext → Except JsString LogFields
  | [] => .ok record
  | (_, none) :: rest => applyContext record rest
  | (key, some value) :: rest =>
    if validateContextValue key value then
      applyContext (OrderedMap.setEntries (js (contextField key)) value record) rest
    else
      .error (js "Invalid value provided for context field " ++ js key.name)

end Context

section Records

-- The event is one that the logger knows; `error` and `extra`, which the logs of the sockets do
-- not give, are left out.
structure StructuredLogInput where
  level : LogLevel
  event : LogEventName
  message : JsString
  context : LogContext
  data : LogFields := []

-- What a logger is set up with; `isoString` is `toISOString` of the date.
structure StructuredLoggerOptions where
  minimumLevel : LogLevel := .info
  namespaceName : Option JsString := none
  controls : Option LoggingControlsConfig := none
  isoString : Int → JsString

variable (options : StructuredLoggerOptions)

def baseRecord (input : StructuredLogInput) (now : Int) : LogFields :=
  [(js "ts", .string (options.isoString now)), (js "level", .string (js input.level.name)),
    (js "event", .string (js input.event.name)), (js "message", .string input.message)] ++
    (options.namespaceName.map fun name =>
      (js "extra", Json.object [(js "logger_namespace", .string name)])).toList ++
    (if input.data = [] then [] else [(js "details", .object input.data)])

-- The record before it is turned into text, which never fails on JSON.
def formatStructuredLog (input : StructuredLogInput) (now : Int) : Except JsString LogFields :=
  applyContext (baseRecord options input now) input.context

-- The state of a logger, with the records that its transport was given.
structure LoggerState where
  controls : LoggingControlState := {}
  published : List LogFields := []

-- The controls forget an event that could not be formatted.
def log (entry : StructuredLogInput) (now : Int) (random : ℚ) (state : LoggerState) :
    LoggerState × Except JsString Unit :=
  if shouldLog entry.level options.minimumLevel then
    match evaluateLoggingControls entry.event now options.controls state.controls random with
    | (false, controls) => ({ state with controls }, .ok ())
    | (true, controls) =>
      match formatStructuredLog options entry now with
      | .error error => (state, .error error)
      | .ok record => ({ controls, published := state.published ++ [record] }, .ok ())
  else
    (state, .ok ())

end Records

section Application

-- A value of the context that its check accepts, or none at all.
def entryValid (entry : ContextKey × JsValue) : Bool :=
  match entry.2 with
  | none => true
  | some value => validateContextValue entry.1 value

theorem applyContext_ok_iff {record : LogFields} {context : LogContext} :
    (∃ applied, applyContext record context = .ok applied) ↔
      ∀ entry ∈ context, entryValid entry = true := by
  induction context generalizing record with
  | nil => simp [applyContext]
  | cons head rest ih =>
    rcases head with ⟨key, value⟩
    rw [List.forall_mem_cons]
    cases value with
    | none =>
      simp only [applyContext, entryValid, true_and]
      exact ih
    | some value =>
      simp only [applyContext, entryValid]
      by_cases hvalid : validateContextValue key value = true
      · rw [if_pos hvalid, and_iff_right hvalid]
        exact ih
      · rw [if_neg hvalid]
        constructor
        · rintro ⟨applied, hok⟩
          cases hok
        · intro hall
          exact absurd hall.1 hvalid

theorem lookup_setEntries (key name : JsString) (value : JsonValue) (fields : LogFields) :
    Json.lookup name (OrderedMap.setEntries key value fields) =
      if key = name then some value else Json.lookup name fields := by
  rw [Json.lookup_eq_lookupEntries, OrderedMap.lookupEntries_setEntries,
    ← Json.lookup_eq_lookupEntries]

-- The context writes to its own fields only.
theorem applyContext_other {record applied : LogFields} {context : LogContext}
    (h : applyContext record context = .ok applied) {name : JsString}
    (hname : ∀ entry ∈ context, js (contextField entry.1) ≠ name) :
    Json.lookup name applied = Json.lookup name record := by
  induction context generalizing record with
  | nil =>
    cases h
    rfl
  | cons head rest ih =>
    rcases head with ⟨key, value⟩
    obtain ⟨hkey, hrest⟩ := List.forall_mem_cons.mp hname
    cases value with
    | none => exact ih h hrest
    | some value =>
      unfold applyContext at h
      split at h
      · rw [ih h hrest, lookup_setEntries, if_neg hkey]
      · cases h

def contextKeys : List ContextKey :=
  [.sessionId, .requestId, .username, .authMethod, .mfaUsed, .clientIp, .clientPort,
    .clientSourcePort, .userAgent, .targetHost, .targetPort, .protocol, .subsystem, .status,
    .reason, .errorCode, .durationMs, .bytesIn, .bytesOut, .auditId, .retentionTag,
    .connectionId]

theorem mem_contextKeys (key : ContextKey) : key ∈ contextKeys := by
  cases key <;> decide

-- No two values of a context share a field.
theorem contextField_injective {first second : ContextKey}
    (h : js (contextField first) = js (contextField second)) : first = second := by
  have hnodup : (contextKeys.map fun key => js (contextField key)).Nodup := by decide +kernel
  exact List.inj_on_of_nodup_map hnodup (mem_contextKeys first) (mem_contextKeys second) h

-- Every value of a context that is applied is found in the record.
theorem applyContext_mem {record applied : LogFields} {context : LogContext}
    (h : applyContext record context = .ok applied)
    (hnodup : (context.map Prod.fst).Nodup) {key : ContextKey} {value : JsonValue}
    (hmem : (key, some value) ∈ context) :
    Json.lookup (js (contextField key)) applied = some value := by
  induction context generalizing record with
  | nil => cases hmem
  | cons head rest ih =>
    obtain ⟨hfirst, hrest⟩ := List.nodup_cons.mp hnodup
    rcases List.mem_cons.mp hmem with rfl | htail
    · unfold applyContext at h
      split at h
      · rw [applyContext_other h, lookup_setEntries, if_pos rfl]
        intro entry hentry hsame
        have hkey : entry.1 ∈ rest.map Prod.fst := List.mem_map_of_mem hentry
        rw [contextField_injective hsame] at hkey
        exact hfirst hkey
      · cases h
    · rcases head with ⟨first, _ | found⟩
      · exact ih h hrest htail
      · unfold applyContext at h
        split at h
        · exact ih h hrest htail
        · cases h

end Application

end WebSsh2.Logging

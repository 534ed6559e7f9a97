import WebSsh2.Library.Run
import WebSsh2.Logging.SocketLogger
import Mathlib.Data.Nat.Cast.Order.Ring

namespace WebSsh2.Logging

open WebSsh2.Library WebSsh2.State WebSsh2.Auth WebSsh2.Socket

section Records

variable (logger : StructuredLoggerOptions) (state : LoggerState) (call : SocketLogCall)

-- Level, sampling and rate limits let the call pass.
def Admitted : Prop :=
  shouldLog call.level logger.minimumLevel = true ∧
    (evaluateLoggingControls call.event call.now logger.controls state.controls
      call.random).1 = true

-- The record is one for the event, and has every value that is valid.
structure RecordOf (call : SocketLogCall) (record : LogFields) : Prop where
  event : Json.lookup (js "event") record = some (.string (js call.event.name))
  context : ∀ key value, (key, some value) ∈ call.entry.context →
    validateContextValue key value = true →
      Json.lookup (js (contextField key)) record = some value

def PublishesRecord : Prop :=
  Admitted logger state call →
    ∃ record, (emitSocketLog logger state call).published = state.published ++ [record] ∧
      RecordOf call record

-- The condition on a call: none of its values is one that is refused. Blank are the
-- forwarded address, the user name and the target host, too long is the reason.
structure ValuesValid (call : SocketLogCall) : Prop where
  forwarded : normaliseForwardedValue call.adapter.handshake.forwardedFor ≠ some []
  username : ∀ value, unlessNull call.adapter.context.state.username = some value →
    isNonEmptyString value = true
  targetHost : ∀ value, unlessNull call.adapter.context.state.targetHost = some value →
    isNonEmptyString value = true
  targetPort : ∀ value, unlessNull call.adapter.context.state.targetPort = some value →
    isValidPort value = true
  reason : ∀ reason, call.options.reason = some reason →
    0 < reason.length ∧ reason.length ≤ maxReasonLength
  errorCode : ∀ code, call.options.errorCode = some code → code.value ≠ .string []
  durationMs : ∀ value, call.options.durationMs = some value →
    isNonNegativeNumber (.number value) = true
  bytesIn : ∀ value, call.options.bytesIn = some value →
    isNonNegativeNumber (.number value) = true
  bytesOut : ∀ value, call.options.bytesOut = some value →
    isNonNegativeNumber (.number value) = true

def ValuesValidIfAdmitted : Prop :=
  Admitted logger state call → ValuesValid call

end Records

section Details

theorem isValidPort_nat (port : Nat) (h : port ≤ 65535) :
    isValidPort (.number (.ofInt port)) = true := by
  have hint : ((port : Int) : ℚ).isInt = true := by
    simp [Rat.isInt]
  have hbound : ((port : Int) : ℚ) ≤ 65535 := by
    have hcast : ((port : Int) : ℚ) ≤ ((65535 : Nat) : ℚ) := by
      rw [Int.cast_natCast, Nat.cast_le]
      exact h
    simpa using hcast
  have hzero : (0 : ℚ) ≤ ((port : Int) : ℚ) := by
    rw [Int.cast_natCast]
    exact Nat.cast_nonneg port
  unfold isValidPort Number.ofInt
  simp only [hint, hbound, hzero, decide_true, Bool.and_self]

variable {header : HeaderValue}

theorem parsePort_valid {port : Number} (h : parsePort header = some port) :
    isValidPort (.number port) = true := by
  unfold parsePort at h
  split at h
  · split at h
    · rename_i hvalid
      cases h
      unfold isValidPort
      simp only [hvalid.1, hvalid.2.1, hvalid.2.2, decide_true, Bool.and_self]
    · cases h
  · cases h

theorem parseSourcePort_valid {remotePort : Option UInt16} {port : Number}
    (h : parseSourcePort remotePort (parsePort header) = some port) :
    isValidPort (.number port) = true := by
  unfold parseSourcePort at h
  cases hforwarded : parsePort header with
  | some forwarded =>
    rw [hforwarded] at h
    cases h
    exact parsePort_valid hforwarded
  | none =>
    rw [hforwarded, Option.none_or] at h
    obtain ⟨remote, -, rfl⟩ := Option.map_eq_some_iff.mp h
    apply isValidPort_nat
    have hlt := remote.toNat_lt
    omega

theorem normaliseUserAgent_ne : normaliseUserAgent header ≠ some [] := by
  intro h
  unfold normaliseUserAgent at h
  split at h
  · cases h
  · dsimp only at h
    split at h
    · cases h
    · rename_i hne
      rw [Option.some.injEq, List.take_eq_nil_iff] at h
      rcases h with hzero | hempty
      · cases hzero
      · exact hne hempty

theorem extractClientDetails_ip {handshake : Handshake} :
    (extractClientDetails handshake).ip ≠ some [] ↔
      normaliseForwardedValue handshake.forwardedFor ≠ some [] := by
  unfold extractClientDetails
  dsimp only
  cases hforwarded : normaliseForwardedValue handshake.forwardedFor with
  | none =>
    rw [Option.none_or]
    constructor
    · intro _ hnone
      cases hnone
    · intro _
      exact handshake.address_ne
  | some address => rw [Option.some_or]

end Details

section Context

variable (key : ContextKey)

-- A value under this key is accepted by this check.
theorem entryValid_iff (value : JsValue) :
    entryValid (key, value) = true ↔
      ∀ found, value = some found → validateContextValue key found = true := by
  cases value with
  | none => simp [entryValid]
  | some value => simp [entryValid]

theorem entryValid_text (text : Option JsString)
    (hkey : validateContextValue key = isNonEmptyString) :
    entryValid (key, text.map Json.string) = true ↔ text ≠ some [] := by
  rw [entryValid_iff, hkey]
  cases text with
  | none => simp
  | some text => simp [isNonEmptyString]

theorem entryValid_number (number : Option Number) :
    entryValid (key, number.map Json.number) = true ↔
      ∀ value, number = some value → validateContextValue key (.number value) = true := by
  rw [entryValid_iff]
  cases number with
  | none => simp
  | some number => simp

theorem entryValid_reason (reason : Option JsString) :
    entryValid (.reason, reason.map Json.string) = true ↔
      ∀ text, reason = some text → 0 < text.length ∧ text.length ≤ maxReasonLength := by
  rw [entryValid_iff]
  cases reason with
  | none => simp
  | some reason => simp [validateContextValue, isValidReason]

theorem entryValid_errorCode (code : Option ErrorCode) :
    entryValid (.errorCode, code.map ErrorCode.value) = true ↔
      ∀ found, code = some found → found.value ≠ .string [] := by
  rw [entryValid_iff]
  rcases code with _ | (text | number)
  · simp
  · simp [validateContextValue, isValidErrorCode, ErrorCode.value]
  · simp [validateContextValue, isValidErrorCode, ErrorCode.value]

theorem entryValid_mapAuthMethod (method : Option JsString) :
    entryValid (.authMethod, (mapAuthMethod method).map Json.string) = true := by
  rw [entryValid_iff]
  intro found hfound
  obtain ⟨text, htext, rfl⟩ := Option.map_eq_some_iff.mp hfound
  exact (Option.filter_eq_some_iff.mp htext).2

theorem entryValid_subsystem (subsystem : LogSubsystem) :
    entryValid (.subsystem, some (.string (js subsystem.name))) = true := by
  cases subsystem <;> decide

theorem entryValid_status (status : Option LogStatus) :
    entryValid (.status, status.map fun status => .string (js status.name)) = true := by
  rcases status with _ | (_ | _) <;> decide

-- The values that are not the server's own decide.
theorem contextValid_iff (call : SocketLogCall) :
    (∀ entry ∈ call.entry.context, entryValid entry = true) ↔ ValuesValid call := by
  have hclient := call.adapter.client
  have hip : call.adapter.context.state.clientIp ≠ some [] ↔
      normaliseForwardedValue call.adapter.handshake.forwardedFor ≠ some [] := by
    rw [← extractClientDetails_ip, ← hclient]
    rfl
  constructor
  · intro h
    have hentry : ∀ key value, (key, value) ∈ call.entry.context →
        entryValid (key, value) = true := fun key value hmem => h (key, value) hmem
    refine ⟨?_, ?_, ?_, ?_, ?_, ?_, ?_, ?_, ?_⟩
    · exact hip.mp ((entryValid_text .clientIp _ rfl).mp
        (hentry _ _ (by simp [SocketLogCall.entry, buildSocketLogContext])))
    · exact (entryValid_iff .username _).mp
        (hentry _ _ (by simp [SocketLogCall.entry, buildSocketLogContext]))
    · exact (entryValid_iff .targetHost _).mp
        (hentry _ _ (by simp [SocketLogCall.entry, buildSocketLogContext]))
    · exact (entryValid_iff .targetPort _).mp
        (hentry _ _ (by simp [SocketLogCall.entry, buildSocketLogContext]))
    · exact (entryValid_reason _).mp
        (hentry _ _ (by simp [SocketLogCall.entry, buildSocketLogContext]))
    · exact (entryValid_errorCode _).mp
        (hentry _ _ (by simp [SocketLogCall.entry, buildSocketLogContext]))
    · exact (entryValid_number .durationMs _).mp
        (hentry _ _ (by simp [SocketLogCall.entry, buildSocketLogContext]))
    · exact (entryValid_number .bytesIn _).mp
        (hentry _ _ (by simp [SocketLogCall.entry, buildSocketLogContext]))
    · exact (entryValid_number .bytesOut _).mp
        (hentry _ _ (by simp [SocketLogCall.entry, buildSocketLogContext]))
  · intro h entry hentry
    simp only [SocketLogCall.entry, buildSocketLogContext, List.mem_cons, List.not_mem_nil,
      or_false] at hentry
    rcases hentry with rfl | rfl | rfl | rfl | rfl | rfl | rfl | rfl | rfl | rfl | rfl | rfl |
      rfl | rfl | rfl | rfl | rfl | rfl | rfl
    · decide
    · exact entryValid_subsystem _
    · exact (entryValid_text .requestId (some call.adapter.socketId) rfl).mpr
        fun hsame => call.adapter.socketId_ne (Option.some.inj hsame)
    · exact (entryValid_text .sessionId _ rfl).mpr call.adapter.sessionId_ne
    · exact (entryValid_iff .username _).mpr h.username
    · exact entryValid_mapAuthMethod _
    · exact (entryValid_text .clientIp _ rfl).mpr (hip.mpr h.forwarded)
    · refine (entryValid_number .clientPort _).mpr fun port hport => ?_
      have hparsed := congrArg ClientDetails.port hclient
      exact parsePort_valid (hparsed.symm.trans hport)
    · refine (entryValid_number .clientSourcePort _).mpr fun port hport => ?_
      have hparsed := congrArg ClientDetails.sourcePort hclient
      exact parseSourcePort_valid (hparsed.symm.trans hport)
    · exact (entryValid_iff .targetHost _).mpr h.targetHost
    · exact (entryValid_iff .targetPort _).mpr h.targetPort
    · exact (entryValid_text .connectionId _ rfl).mpr call.adapter.connectionId_ne
    · by_cases hevent : call.event = .sessionInit
      · rw [if_pos hevent]
        refine (entryValid_text .userAgent _ rfl).mpr fun hempty => ?_
        have hagent := congrArg ClientDetails.userAgent hclient
        exact normaliseUserAgent_ne (hagent.symm.trans hempty)
      · rw [if_neg hevent]
        rfl
    · exact entryValid_status _
    · exact (entryValid_reason _).mpr h.reason
    · exact (entryValid_errorCode _).mpr h.errorCode
    · exact (entryValid_number .durationMs _).mpr h.durationMs
    · exact (entryValid_number .bytesIn _).mpr h.bytesIn
    · exact (entryValid_number .bytesOut _).mpr h.bytesOut

theorem context_nodup (call : SocketLogCall) : (call.entry.context.map Prod.fst).Nodup := by
  simp only [SocketLogCall.entry, buildSocketLogContext, List.map_cons, List.map_nil]
  decide

end Context

section Runs

theorem lookup_event_baseRecord (logger : StructuredLoggerOptions) (input : StructuredLogInput)
    (now : Int) :
    Json.lookup (js "event") (baseRecord logger input now) =
      some (.string (js input.event.name)) := by
  unfold baseRecord
  simp only [List.cons_append]
  rw [Json.lookup, if_neg (by decide), Json.lookup, if_neg (by decide),
    Json.lookup, if_pos rfl]

theorem contextField_ne_event (key : ContextKey) : js (contextField key) ≠ js "event" := by
  cases key <;> decide +kernel

-- An admitted entry leaves nothing behind where one of its values is refused.
theorem log_of_admitted {logger : StructuredLoggerOptions} {entry : StructuredLogInput} {now : Int}
    {random : ℚ} {state : LoggerState}
    (hlevel : shouldLog entry.level logger.minimumLevel = true)
    (hcontrols : (evaluateLoggingControls entry.event now logger.controls state.controls
      random).1 = true) :
    log logger entry now random state =
      match formatStructuredLog logger entry now with
      | .error error => (state, .error error)
      | .ok record =>
        ({ controls := (evaluateLoggingControls entry.event now logger.controls state.controls
            random).2
           published := state.published ++ [record] }, .ok ()) := by
  unfold log
  rw [if_pos hlevel]
  rcases hdecision : evaluateLoggingControls entry.event now logger.controls state.controls
    random with ⟨allow, controls⟩
  rw [hdecision] at hcontrols
  subst hcontrols
  rfl

-- One call publishes its record exactly where its values are valid.
theorem publishesRecord_iff (logger : StructuredLoggerOptions) (state : LoggerState)
    (call : SocketLogCall) :
    PublishesRecord logger state call ↔ ValuesValidIfAdmitted logger state call := by
  unfold PublishesRecord ValuesValidIfAdmitted
  refine forall_congr' fun hadmitted => ?_
  obtain ⟨hlevel, hcontrols⟩ := hadmitted
  have hshould : shouldLog call.entry.level logger.minimumLevel = true := hlevel
  have hallowed : (evaluateLoggingControls call.entry.event call.now logger.controls
      state.controls call.random).1 = true := hcontrols
  rw [← contextValid_iff, ← @applyContext_ok_iff (baseRecord logger call.entry call.now)]
  cases happlied : applyContext (baseRecord logger call.entry call.now) call.entry.context with
  | error error =>
    have hformat : formatStructuredLog logger call.entry call.now = .error error := by
      unfold formatStructuredLog
      rw [happlied]
    unfold emitSocketLog
    rw [log_of_admitted hshould hallowed, hformat]
    constructor
    · rintro ⟨record, hsame, -⟩
      have hlength : state.published.length = (state.published ++ [record]).length :=
        congrArg List.length hsame
      rw [List.length_append, List.length_singleton] at hlength
      omega
    · rintro ⟨applied, hok⟩
      cases hok
  | ok record =>
    have hformat : formatStructuredLog logger call.entry call.now = .ok record := by
      unfold formatStructuredLog
      rw [happlied]
    constructor
    · intro _
      exact ⟨record, rfl⟩
    · intro _
      refine ⟨record, ?_, ?_, ?_⟩
      · unfold emitSocketLog
        rw [log_of_admitted hshould hallowed, hformat]
      · rw [applyContext_other happlied fun entry _ => contextField_ne_event entry.1]
        exact lookup_event_baseRecord logger call.entry call.now
      · intro key value hmem _
        exact applyContext_mem happlied (context_nodup call) hmem

-- Over every sequence of calls of any sockets: each that is admitted publishes its record
-- exactly where none of its values is refused.
theorem records_published_iff (logger : StructuredLoggerOptions) (state : LoggerState)
    (calls : List SocketLogCall) :
    Run.Along (emitSocketLog logger) (PublishesRecord logger) state calls ↔
      Run.Along (emitSocketLog logger) (ValuesValidIfAdmitted logger) state calls :=
  @Run.along_congr _ _ (emitSocketLog logger) (fun _ => True) _ _ (fun _ _ _ => trivial)
    (fun state call _ => publishesRecord_iff logger state call) state trivial calls

end Runs

section Samples

def sampleHandshake : Handshake where
  address := some (js "192.0.2.1")
  remotePort := some 50000
  address_ne := by decide

-- A socket that was sent a login without a user name.
def blankLogin : Adapter :=
  (Adapter.opened (js "socket") sampleHandshake (.manual none) (by decide)).asked
    (loginConfig [.password]) .ssh none (.credentials false (.object [
      (js "username", .string []), (js "host", .string (js "web")),
      (js "port", .number (.ofInt 22)), (js "password", .string (js "guess"))]))

def blankFailure : SocketLogCall where
  adapter := blankLogin
  level := .warn
  event := .authFailure
  message := js "Authentication failed"
  options := {
    status := some .failure
    reason := some (js "Invalid credentials") }
  now := 0
  random := 0

end Samples

-- The failure of a login without a user name leaves no record.
theorem blank_failure_suppressed :
    ¬ ∀ (logger : StructuredLoggerOptions) (state : LoggerState) (calls : List SocketLogCall),
      Run.Along (emitSocketLog logger) (PublishesRecord logger) state calls := by
  intro h
  obtain ⟨hpublishes, -⟩ := h { isoString := fun _ => [] } {} [blankFailure]
  obtain ⟨record, hpublished, -⟩ := hpublishes ⟨by decide, by decide⟩
  have hlength := congrArg List.length hpublished
  revert hlength
  rw [List.length_append, List.length_singleton]
  decide

end WebSsh2.Logging

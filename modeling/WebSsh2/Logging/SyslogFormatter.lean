import WebSsh2.Library.SyslogMessage
import WebSsh2.Values

namespace WebSsh2.Logging

open WebSsh2.Library

section Format

def defaultFacility : Nat := 16

def defaultEnterpriseId : Nat := 32473

def structuredDataId : JsString := js "webssh2"

def severityMap : List (JsString × Nat) :=
  [(js "debug", 7), (js "info", 6), (js "warn", 4), (js "error", 3)]

def structuredFields : List JsString :=
  [js "event", js "session_id", js "request_id", js "username", js "client_ip",
    js "target_host", js "status", js "connection_id"]

-- The first pair is about two backslashes: raw strings have no escapes.
def structuredValueEscapes : List (JsString × JsString) :=
  [([92, 92], [92, 92, 92, 92]), ([93], [92, 93]), ([34], [92, 34])]

structure SyslogFormatterOptions where
  facility : Option Nat := none
  hostname : Option JsString := none
  appName : Option JsString := none
  procId : Option JsString := none
  enterpriseId : Option Nat := none
  includeJson : Bool := false

-- What is asked of the language and of the system: `JSON.parse`, which may throw,
-- `os.hostname()`, `process.pid` and `new Date().toISOString()`.
structure SyslogHost extends Runtime where
  parseJson : JsString → Option JsonValue
  hostname : JsString
  pid : Nat
  now : JsString

-- An error that is returned, or one that is thrown.
inductive SyslogFailure where
  | notJson
  | thrown
deriving DecidableEq

def escapeStructuredValue (value : JsString) : JsString :=
  structuredValueEscapes.foldl
    (fun escaped (target, replacement) => Text.replaceAll target replacement escaped) value

def normaliseTimestamp (host : SyslogHost) : JsValue → JsString
  | some (.string timestamp) => if timestamp ≠ [] then timestamp else host.now
  | _ => host.now

variable (runtime : Runtime)

-- `String(value)` for the values that are written.
def structuredText : JsValue → Option JsString
  | some (.string text) => some text
  | some (.number value) => some (runtime.numberToString value)
  | some (.bool value) => some (js (if value then "true" else "false"))
  | _ => none

def structuredParams (record : JsonValue) : List (JsString × JsString) :=
  structuredFields.filterMap fun field =>
    (structuredText runtime (record.field field)).map fun text => (field, text)

def structuredParamText (param : JsString × JsString) : JsString :=
  param.1 ++ js "=\"" ++ escapeStructuredValue param.2 ++ js "\""

def sdId (enterpriseId : Nat) : JsString :=
  structuredDataId ++ js "@" ++ Json.digitsText enterpriseId

def buildStructuredData (record : JsonValue) (enterpriseId : Nat) : JsString :=
  let params := (structuredParams runtime record).map structuredParamText
  if params.length = 0 then
    js "[" ++ sdId enterpriseId ++ js "]"
  else
    js "[" ++ sdId enterpriseId ++ js " " ++ (js " ").intercalate params ++ js "]"

def buildMessageBody (payload : JsString) (record : JsonValue) (includeJson : Bool) : JsString :=
  if includeJson then
    payload
  else
    match record.field (js "message") with
    | some (.string message) => if trim message ≠ [] then message else js "-"
    | _ => js "-"

-- `${value}`
def templateText : JsValue → Option JsString
  | none => some (js "undefined")
  | some value => toText runtime value

-- A level that is not in the map makes the priority `NaN`; the names that every object
-- inherits, which give no number either, are not told apart.
def syslogPriority (options : SyslogFormatterOptions) (level : JsString) : Option Nat :=
  (severityMap.lookup level).map fun severity =>
    options.facility.getD defaultFacility * 8 + severity

def headerWords (host : SyslogHost) (options : SyslogFormatterOptions) (record : JsonValue)
    (msgId : JsString) : List JsString :=
  [normaliseTimestamp host (record.field (js "ts")), options.hostname.getD host.hostname,
    options.appName.getD (js "webssh2"), options.procId.getD (Json.digitsText host.pid), msgId]

-- The level and the event become text here; that of `null` cannot be asked for.
def formatSyslogMessage (host : SyslogHost) (options : SyslogFormatterOptions)
    (payload : JsString) : Except SyslogFailure JsString :=
  match host.parseJson payload with
  | none => .error .notJson
  | some .null => .error .thrown
  | some record =>
    match templateText host.toRuntime (record.field (js "level")),
      templateText host.toRuntime (record.field (js "event")) with
    | some level, some msgId =>
      let priority := ((syslogPriority options level).map Json.digitsText).getD (js "NaN")
      let header := headerWords host options record msgId
      let structuredData := buildStructuredData host.toRuntime record
        (options.enterpriseId.getD defaultEnterpriseId)
      let message := buildMessageBody payload record options.includeJson
      .ok (js "<" ++ priority ++ js ">1 " ++ (js " ").intercalate header ++ js " " ++
        structuredData ++ js " " ++ message)
    | _, _ => .error .thrown

end Format

section Escapes

-- Pairs of backslashes are doubled; one that is left over stays alone.
def escaped : JsString → JsString
  | [] => []
  | 92 :: 92 :: rest => 92 :: 92 :: 92 :: 92 :: escaped rest
  | unit :: rest =>
    (if unit = 93 ∨ unit = 34 then [92, unit] else [unit]) ++ escaped rest

variable {unit : UInt16}

theorem escaped_cons {rest : JsString} (h : ∀ tail, unit = 92 → rest = 92 :: tail → False) :
    escaped (unit :: rest) =
      (if unit = 93 ∨ unit = 34 then [92, unit] else [unit]) ++ escaped rest := by
  rw [escaped]
  exact h

theorem escaped_next {next : UInt16} (h : next ≠ 92) (tail : JsString) :
    escaped (next :: tail) =
      (if next = 93 ∨ next = 34 then [92, next] else [next]) ++ escaped tail :=
  escaped_cons fun _ hsame _ => h hsame

theorem escapeStructuredValue_eq (value : JsString) :
    escapeStructuredValue value = escaped value := by
  have hstep : ∀ text, escapeStructuredValue text =
      ((Text.replaceAll [92, 92] [92, 92, 92, 92] text).flatMap fun unit =>
        if unit = 93 ∨ unit = 34 then [92, unit] else [unit]) := by
    intro text
    simp only [escapeStructuredValue, structuredValueEscapes, List.foldl_cons, List.foldl_nil,
      Text.replaceAll_singleton, List.flatMap_assoc]
    congr 1
    funext unit
    by_cases hbracket : unit = 93
    · simp [hbracket]
    · by_cases hquote : unit = 34 <;> simp [hbracket, hquote]
  rw [hstep]
  induction value using escaped.induct with
  | case1 => rfl
  | case2 rest ih =>
    have hpattern : ([92, 92] : JsString) ≠ [] := by
      simp
    have hpair := Text.replaceAll_match hpattern [92, 92, 92, 92] rest
    rw [List.cons_append, List.cons_append, List.nil_append] at hpair
    rw [hpair, List.flatMap_append, ih, escaped]
    rfl
  | case3 unit rest h ih =>
    have hpattern : ¬[92, 92] <+: unit :: rest := by
      rintro ⟨tail, htail⟩
      obtain ⟨rfl, rfl⟩ := List.cons.inj htail
      exact h tail rfl rfl
    rw [Text.replaceAll_cons hpattern, List.flatMap_cons, ih, escaped_cons h]

-- The number of backslashes before each quotation mark, before each bracket and before
-- the end of the text is even.
def backslashesPaired (odd : Bool) : JsString → Bool
  | [] => !odd
  | unit :: rest =>
    if unit = 92 then
      backslashesPaired (!odd) rest
    else
      !(odd && (unit = 34 || unit = 93)) && backslashesPaired false rest

theorem cons_map_iff {read : Option (JsString × JsString)} {value rest : JsString} :
    (read.map fun (value, rest) => (unit :: value, rest)) = some (unit :: value, rest) ↔
      read = some (value, rest) := by
  simp [Option.map_eq_some_iff]

theorem isEscaped_of_special (h : unit = 93 ∨ unit = 34) : Syslog.isEscaped unit = true := by
  rcases h with rfl | rfl <;> rfl

theorem isEscaped_of_plain (hslash : unit ≠ 92) (h : ¬(unit = 93 ∨ unit = 34)) :
    Syslog.isEscaped unit = false := by
  rw [not_or] at h
  simp [Syslog.isEscaped, hslash, h.1, h.2]

theorem readValue_slash (next : UInt16) (rest : JsString) :
    Syslog.readValue (92 :: next :: rest) =
      if Syslog.isEscaped next then
        (Syslog.readValue rest).map fun (value, rest) => (next :: value, rest)
      else
        (Syslog.readValue (next :: rest)).map fun (value, rest) => (92 :: value, rest) := by
  rw [Syslog.readValue]

theorem readValue_plain (hslash : unit ≠ 92) (h : ¬(unit = 93 ∨ unit = 34)) (rest : JsString) :
    Syslog.readValue (unit :: rest) =
      (Syslog.readValue rest).map fun (value, rest) => (unit :: value, rest) := by
  rw [not_or] at h
  rw [Syslog.readValue]
  · exact h.2
  · exact h.1
  · exact fun _ _ hsame => absurd hsame hslash

-- A backslash that is left over with a quotation mark or a bracket behind it takes
-- the escape of the latter for itself.
theorem readValue_stray (h : unit = 93 ∨ unit = 34) (text tail rest : JsString) :
    Syslog.readValue (92 :: 92 :: unit :: text) ≠ some (92 :: unit :: tail, rest) := by
  rw [readValue_slash, if_pos (by decide)]
  intro hread
  rw [cons_map_iff] at hread
  rcases h with rfl | rfl
  · simp [Syslog.readValue] at hread
  · simp [Syslog.readValue] at hread

theorem backslashesPaired_cons (h : unit ≠ 92) (odd : Bool) (rest : JsString) :
    backslashesPaired odd (unit :: rest) =
      (!(odd && (unit = 34 || unit = 93)) && backslashesPaired false rest) := by
  rw [backslashesPaired, if_neg h]

theorem backslashesPaired_slash (odd : Bool) (rest : JsString) :
    backslashesPaired odd (92 :: rest) = backslashesPaired (!odd) rest := by
  rw [backslashesPaired, if_pos rfl]

-- Induction over the value as it is escaped: pairs of backslashes first.
theorem readValue_escaped_iff (value rest rest' : JsString) :
    Syslog.readValue (escaped value ++ 34 :: rest) = some (value, rest') ↔
      backslashesPaired false value = true ∧ rest' = rest := by
  induction value using escaped.induct with
  | case1 => simp [escaped, Syslog.readValue, backslashesPaired, eq_comm]
  | case2 tail ih =>
    rw [backslashesPaired_slash, backslashesPaired_slash, Bool.not_false, Bool.not_true, ← ih,
      escaped]
    simp only [List.cons_append, readValue_slash]
    rw [if_pos (by decide), if_pos (by decide), cons_map_iff, cons_map_iff]
  | case3 unit tail h ih =>
    by_cases hslash : unit = 92
    · subst hslash
      have htext : escaped (92 :: tail) = 92 :: escaped tail := escaped_cons h
      rw [htext, backslashesPaired_slash, Bool.not_false]
      cases tail with
      | nil =>
        simp only [escaped, List.cons_append, List.nil_append, readValue_slash]
        rw [if_pos (by decide)]
        simp [backslashesPaired]
      | cons next tail =>
        have hnext : next ≠ 92 := fun hnext => h tail rfl (by rw [hnext])
        rw [escaped_next hnext, backslashesPaired_cons hnext] at ih ⊢
        by_cases hspecial : next = 93 ∨ next = 34
        · have hunpaired : (!(true && (decide (next = 34) || decide (next = 93)))) = false := by
            rcases hspecial with rfl | rfl <;> rfl
          rw [if_pos hspecial, hunpaired]
          simp only [List.cons_append, List.nil_append, readValue_stray hspecial]
          simp
        · have hplain : (decide (next = 34) || decide (next = 93)) = false := by
            rw [not_or] at hspecial
            simp [hspecial.1, hspecial.2]
          rw [if_neg hspecial, hplain] at ih ⊢
          simp only [List.cons_append, List.nil_append, Bool.and_false] at ih ⊢
          rw [readValue_slash, isEscaped_of_plain hnext hspecial, if_neg (by decide),
            cons_map_iff, ih]
    · rw [escaped_cons h, backslashesPaired_cons hslash, Bool.false_and, Bool.not_false,
        Bool.true_and, ← ih]
      by_cases hspecial : unit = 93 ∨ unit = 34
      · rw [if_pos hspecial]
        simp only [List.cons_append, List.nil_append, readValue_slash]
        rw [if_pos (isEscaped_of_special hspecial), cons_map_iff]
      · rw [if_neg hspecial, List.cons_append, List.nil_append, List.cons_append,
          readValue_plain hslash hspecial, cons_map_iff]

theorem unescape_plain (h : unit ≠ 92) (rest : JsString) :
    Syslog.unescape (unit :: rest) = unit :: Syslog.unescape rest := by
  rw [Syslog.unescape]
  exact fun _ _ hsame => absurd hsame h

theorem unescape_slash (next : UInt16) (rest : JsString) :
    Syslog.unescape (92 :: next :: rest) =
      if Syslog.isEscaped next then next :: Syslog.unescape rest
      else 92 :: Syslog.unescape (next :: rest) := by
  rw [Syslog.unescape]

theorem unescape_escaped (value : JsString) : Syslog.unescape (escaped value) = value := by
  induction value using escaped.induct with
  | case1 => rfl
  | case2 tail ih => simp [escaped, Syslog.unescape, Syslog.isEscaped, ih]
  | case3 unit tail h ih =>
    rw [escaped_cons h]
    by_cases hspecial : unit = 93 ∨ unit = 34
    · rw [if_pos hspecial, List.cons_append, List.cons_append, List.nil_append,
        Syslog.unescape, if_pos (isEscaped_of_special hspecial), ih]
    · rw [if_neg hspecial, List.cons_append, List.nil_append]
      by_cases hslash : unit = 92
      · subst hslash
        cases tail with
        | nil => rfl
        | cons next tail =>
          have hnext : next ≠ 92 := fun hnext => h tail rfl (by rw [hnext])
          rw [escaped_next hnext] at ih ⊢
          by_cases hspecial : next = 93 ∨ next = 34
          · rw [if_pos hspecial] at ih ⊢
            simp only [List.cons_append, List.nil_append, unescape_slash] at ih ⊢
            rw [if_pos (isEscaped_of_special hspecial)] at ih
            rw [if_pos (by decide), unescape_plain hnext, ih]
          · rw [if_neg hspecial] at ih ⊢
            simp only [List.cons_append, List.nil_append] at ih ⊢
            rw [unescape_slash, isEscaped_of_plain hnext hspecial, if_neg (by decide), ih]
      · rw [unescape_plain hslash, ih]

-- The values as they are written here.
def quotedValues : Syslog.Quoting where
  write := escapeStructuredValue
  Safe value := backslashesPaired false value = true
  readValue_iff value rest rest' := by
    rw [escapeStructuredValue_eq]
    exact readValue_escaped_iff value rest rest'

end Escapes

section Recovery

variable (host : SyslogHost) (options : SyslogFormatterOptions)

variable (record : JsonValue)

def recordElement : Syslog.Element where
  id := sdId (options.enterpriseId.getD defaultEnterpriseId)
  params := structuredParams host.toRuntime record

theorem structuredParams_names (runtime : Runtime) (record : JsonValue) :
    ∀ param ∈ structuredParams runtime record,
      Syslog.Fits Syslog.isNameUnit Syslog.maxNameLength param.1 := by
  have hfields : ∀ field ∈ structuredFields,
      Syslog.Fits Syslog.isNameUnit Syslog.maxNameLength field := by
    decide
  intro param hparam
  obtain ⟨field, hfield, htext⟩ := List.mem_filterMap.mp hparam
  obtain ⟨text, -, rfl⟩ := Option.map_eq_some_iff.mp htext
  exact hfields field hfield

theorem intercalate_params {params : List (JsString × JsString)} (h : params ≠ []) :
    32 :: [32].intercalate (params.map structuredParamText) =
      Syslog.paramsText quotedValues params := by
  have htext : ∀ param, structuredParamText param = Syslog.paramText quotedValues param := by
    intro param
    have hopen : js "=\"" = [61, 34] := rfl
    have hclose : js "\"" = [34] := rfl
    rw [structuredParamText, hopen, hclose]
    rfl
  induction params with
  | nil => exact absurd rfl h
  | cons param params ih =>
    cases params with
    | nil => simp [Syslog.paramsText, htext]
    | cons next params =>
      have hrest := ih (List.cons_ne_nil _ _)
      simp only [List.map_cons] at hrest
      rw [List.map_cons, List.map_cons, List.intercalate_cons_cons, List.append_assoc,
        List.singleton_append, hrest, htext]
      simp [Syslog.paramsText]

theorem buildStructuredData_eq (runtime : Runtime) (record : JsonValue) (enterpriseId : Nat) :
    buildStructuredData runtime record enterpriseId =
      Syslog.elementText quotedValues ⟨sdId enterpriseId, structuredParams runtime record⟩ := by
  have hopen : js "[" = [91] := rfl
  have hclose : js "]" = [93] := rfl
  have hspace : js " " = [32] := rfl
  simp only [buildStructuredData, hopen, hclose, hspace, List.length_map, Syslog.elementText]
  by_cases hparams : structuredParams runtime record = []
  · simp [hparams, Syslog.paramsText]
  · rw [if_neg (mt List.length_eq_zero_iff.mp hparams), ← intercalate_params hparams]
    simp

theorem headerText_eq (priority : JsString) (words : List JsString) (hne : words ≠ [])
    (rest : JsString) :
    js "<" ++ priority ++ js ">1 " ++ (js " ").intercalate words ++ js " " ++ rest =
      Syslog.priorityText priority (Syslog.wordsText words rest) := by
  have hopen : js "<" = [60] := rfl
  have hclose : js ">1 " = [62, 49, 32] := rfl
  have hspace : js " " = [32] := rfl
  have hwords : [32].intercalate words ++ 32 :: rest = Syslog.wordsText words rest := by
    induction words with
    | nil => exact absurd rfl hne
    | cons word words ih =>
      cases words with
      | nil => simp [Syslog.wordsText]
      | cons next words =>
        have hrest := ih (List.cons_ne_nil _ _)
        rw [List.intercalate_cons_cons, List.append_assoc, List.append_assoc, hrest]
        simp [Syslog.wordsText]
  rw [hopen, hclose, hspace, ← hwords, Syslog.priorityText]
  simp

-- The formatted text, in the parts that a reader takes it apart into.
theorem formatSyslogMessage_eq {payload message : JsString} {record : JsonValue}
    (hparse : host.parseJson payload = some record)
    (h : formatSyslogMessage host options payload = .ok message) :
    ∃ level msgId, templateText host.toRuntime (record.field (js "level")) = some level ∧
      templateText host.toRuntime (record.field (js "event")) = some msgId ∧
      message = Syslog.priorityText
        (((syslogPriority options level).map Json.digitsText).getD (js "NaN"))
        (Syslog.wordsText (headerWords host options record msgId)
          (Syslog.elementText quotedValues (recordElement host options record) ++
            32 :: buildMessageBody payload record options.includeJson)) := by
  have hspace : js " " = [32] := rfl
  unfold formatSyslogMessage at h
  rw [hparse] at h
  split at h
  · cases h
  · cases h
  · rename_i found _ hfound
    obtain rfl := Option.some.inj hfound
    split at h
    · rename_i level msgId hlevel hevent
      refine ⟨level, msgId, hlevel, hevent, ?_⟩
      have hwords : headerWords host options record msgId ≠ [] := by
        simp [headerWords]
      rw [← headerText_eq _ _ hwords, recordElement, ← buildStructuredData_eq, ← Except.ok.inj h]
      simp [hspace]
    · cases h

-- What a reader makes of the text: the header, one element with the values of the
-- record, and the text of the message. No value changes by being escaped.
structure Unforged (payload : JsString) (record : JsonValue) (message : JsString) : Prop where
  recovered : ∃ level msgId priority,
    templateText host.toRuntime (record.field (js "level")) = some level ∧
    templateText host.toRuntime (record.field (js "event")) = some msgId ∧
    syslogPriority options level = some priority ∧
    Syslog.parse message = some ⟨priority, headerWords host options record msgId,
      [recordElement host options record], buildMessageBody payload record options.includeJson⟩
  inverse : ∀ value, Syslog.unescape (escapeStructuredValue value) = value

-- A known level, a facility that exists, and words without spaces that are short enough.
def HeaderFits : Prop :=
  ∃ level msgId priority,
    templateText host.toRuntime (record.field (js "level")) = some level ∧
    templateText host.toRuntime (record.field (js "event")) = some msgId ∧
    syslogPriority options level = some priority ∧ priority ≤ Syslog.maxPriority ∧
    List.Forall₂ (Syslog.Fits Syslog.isPrintable) Syslog.headerLimits
      (headerWords host options record msgId) ∧
    Syslog.Fits Syslog.isNameUnit Syslog.maxNameLength (recordElement host options record).id

def ValuesPaired : Prop :=
  ∀ param ∈ structuredParams host.toRuntime record, backslashesPaired false param.2 = true

theorem unforged_iff {payload message : JsString} {record : JsonValue}
    (hparse : host.parseJson payload = some record)
    (h : formatSyslogMessage host options payload = .ok message) :
    Unforged host options payload record message ↔
      HeaderFits host options record ∧ ValuesPaired host record := by
  obtain ⟨level, msgId, hlevel, hevent, htext⟩ := formatSyslogMessage_eq host options hparse h
  have hmessage : ∀ priority, syslogPriority options level = some priority →
      message = Syslog.messageText quotedValues priority (headerWords host options record msgId)
        (recordElement host options record)
        (buildMessageBody payload record options.includeJson) := by
    intro priority hpriority
    rw [htext, hpriority]
    rfl
  have hnames := structuredParams_names host.toRuntime record
  constructor
  · intro hunforged
    obtain ⟨level', msgId', priority, hlevel', hevent', hpriority, hread⟩ := hunforged.recovered
    obtain rfl := Option.some.inj (hlevel'.symm.trans hlevel)
    obtain rfl := Option.some.inj (hevent'.symm.trans hevent)
    rw [hmessage priority hpriority] at hread
    obtain ⟨hmax, hwords, hid, hsafe⟩ := (Syslog.parse_messageText_iff _ _ hnames _).mp hread
    exact ⟨⟨level', msgId', priority, hlevel, hevent, hpriority, hmax, hwords, hid⟩, hsafe⟩
  · rintro ⟨⟨level', msgId', priority, hlevel', hevent', hpriority, hmax, hwords, hid⟩, hsafe⟩
    obtain rfl := Option.some.inj (hlevel'.symm.trans hlevel)
    obtain rfl := Option.some.inj (hevent'.symm.trans hevent)
    refine ⟨⟨level', msgId', priority, hlevel, hevent, hpriority, ?_⟩, fun value => ?_⟩
    · rw [hmessage priority hpriority]
      exact (Syslog.parse_messageText_iff _ _ hnames _).mpr ⟨hmax, hwords, hid, hsafe⟩
    · rw [escapeStructuredValue_eq, unescape_escaped]

end Recovery

section Example

variable (username : JsString)

-- A login whose user name is given.
def loginRecord : JsonValue :=
  .object [(js "ts", .string (js "2025-01-02T03:04:05.678Z")), (js "level", .string (js "info")),
    (js "event", .string (js "auth_attempt")), (js "username", .string username)]

def loginPayload : JsString :=
  js "\x7b\"ts\":\"2025-01-02T03:04:05.678Z\",\"level\":\"info\"," ++
    js "\"event\":\"auth_attempt\",\"username\":" ++
    Json.quoted Json.escapeString username ++ js "\x7d"

def loginHost : SyslogHost where
  toRuntime := asciiRuntime
  parseJson text := if text = loginPayload username then some (loginRecord username) else none
  hostname := js "gateway-1"
  pid := 1234
  now := js "2025-01-02T03:04:06.000Z"

theorem loginHost_parseJson :
    (loginHost username).parseJson (loginPayload username) = some (loginRecord username) := by
  simp [loginHost]

theorem login_formatted : ∃ message,
    formatSyslogMessage (loginHost username) {} (loginPayload username) = .ok message := by
  unfold formatSyslogMessage
  rw [loginHost_parseJson]
  exact ⟨_, rfl⟩

theorem login_headerFits : HeaderFits (loginHost username) {} (loginRecord username) := by
  have hwords : List.Forall₂ (Syslog.Fits Syslog.isPrintable) Syslog.headerLimits
      [js "2025-01-02T03:04:05.678Z", js "gateway-1", js "webssh2", Json.digitsText 1234,
        js "auth_attempt"] := by
    simp only [Syslog.headerLimits, List.forall₂_cons, List.Forall₂.nil, and_true]
    decide
  have hid : Syslog.Fits Syslog.isNameUnit Syslog.maxNameLength (sdId defaultEnterpriseId) := by
    decide
  exact ⟨js "info", js "auth_attempt", 134, rfl, rfl, by decide, by decide, hwords, hid⟩

-- A user name with a backslash, a quotation mark and a bracket.
def domainName : JsString := js "corp\\bob\"]"

theorem unforged_iff_backslashInside : ∃ message,
    formatSyslogMessage (loginHost domainName) {} (loginPayload domainName) = .ok message ∧
      Unforged (loginHost domainName) {} (loginPayload domainName) (loginRecord domainName)
        message := by
  obtain ⟨message, hmessage⟩ := login_formatted domainName
  have hpaired : ∀ param ∈ structuredParams asciiRuntime (loginRecord domainName),
      backslashesPaired false param.2 = true := by decide
  exact ⟨message, hmessage, (unforged_iff _ _ (loginHost_parseJson _) hmessage).mpr
    ⟨login_headerFits _, hpaired⟩⟩

-- The backslash at the end of the name takes the closing quotation mark away.
theorem unforged_not_backslashAtEnd : ¬∀ (host : SyslogHost) (options : SyslogFormatterOptions)
    (payload message : JsString) (record : JsonValue), host.parseJson payload = some record →
      formatSyslogMessage host options payload = .ok message →
        Unforged host options payload record message := by
  intro hall
  obtain ⟨message, hmessage⟩ := login_formatted (js "bob\\")
  have hread : (formatSyslogMessage (loginHost (js "bob\\")) {} (loginPayload (js "bob\\"))
      ).toOption.bind Syslog.parse = none := by decide +kernel
  rw [hmessage] at hread
  obtain ⟨level, msgId, priority, -, -, -, hparse⟩ :=
    (hall _ _ _ message _ (loginHost_parseJson _) hmessage).recovered
  have hsome := hread.symm.trans hparse
  cases hsome

end Example

end WebSsh2.Logging

import WebSsh2.Library.JsonOverlay
import WebSsh2.Socket.Authentication

namespace WebSsh2.Socket.EventLog

open WebSsh2.Library WebSsh2.Auth

section Lines

abbrev Fields := List (JsString × JsonValue)

-- A call of `debug`: its text, and the values that are printed into it.
structure DebugLine where
  template : JsString
  args : List JsonValue
deriving DecidableEq

-- `{ ...value }`
def spread : JsonValue → Fields
  | .object fields => fields
  | .array items => items.zipIdx.map fun (item, index) =>
    ((Nat.toDigits 10 index).flatMap utf16, item)
  | .string text => text.zipIdx.map fun (unit, index) =>
    ((Nat.toDigits 10 index).flatMap utf16, .string [unit])
  | _ => []

def placeholder (value : JsValue) : JsonValue :=
  .string (if isFilled value then js "***MASKED***" else [])

def maskedArg (authData : JsonValue) : JsonValue :=
  let mask (key : String) (fields : Fields) : Fields :=
    OrderedMap.setEntries (js key) (placeholder (property key (some authData))) fields
  .object (mask "passphrase" (mask "privateKey" (mask "password" (spread authData))))

def authEvent : JsString := js "authenticate"

def receivedText (event : JsString) : JsString :=
  js "Received event '" ++ event ++ js "' with args:"

-- The listener of every event; the fields of `null` cannot be read.
def onAny (event : JsString) (args : List JsonValue) : Option DebugLine :=
  match args with
  | authData :: _ =>
    if event = authEvent then
      if authData = .null then none
      else some { template := receivedText event, args := [.array [maskedArg authData]] }
    else some { template := receivedText event, args := [.array args] }
  | [] => some { template := receivedText event, args := [.array args] }

def defaultMaskProperties : List String :=
  ["password", "privateKey", "passphrase", "key", "secret", "token"]

-- The masking library takes the names of the properties that it is to mask.
abbrev Masker := List String → JsonValue → JsonValue

def maskSensitive (masker : Masker) (data : JsonValue) : JsonValue :=
  masker defaultMaskProperties data

-- What `setManualCredentials` writes: accepted credentials have no field that is undefined.
def setManualCredentialsLines (masker : Masker) (creds : CredentialFields) : List DebugLine :=
  if isValidCredentials creds then
    [{ template := js "Switching to manual auth provider for new credentials", args := [] },
      { template := js "Manual credentials set: %O", args := [maskSensitive masker creds.object] }]
  else []

-- Where the listener of `authenticate` hands its message to the pipeline.
def authLines (masker : Masker) (runtime : Runtime) (config : LoginConfig) (protocol : Protocol)
    (message : JsValue) : List DebugLine :=
  match authRequest runtime config protocol message with
  | .credentials _ credentials =>
    if keyCount credentials = 0 then []
    else setManualCredentialsLines masker (credentialFields credentials)
  | _ => []

-- The lines of one event.
def eventLines (masker : Masker) (runtime : Runtime) (config : LoginConfig) (protocol : Protocol)
    (event : JsString) (args : List JsonValue) : List DebugLine :=
  (onAny event args).toList ++
    if event = authEvent then authLines masker runtime config protocol args.head? else []

end Lines

section Secrets

mutual

-- A value without what stands in it.
def shape : JsonValue → JsonValue
  | .null => .null
  | .bool _ => .bool false
  | .number _ => .number (.ofInt 0)
  | .string _ => .string []
  | .array items => .array (shapeOfItems items)
  | .object fields => .object (shapeOfFields fields)

def shapeOfItems : List JsonValue → List JsonValue
  | [] => []
  | item :: rest => shape item :: shapeOfItems rest

def shapeOfFields : Fields → Fields
  | [] => []
  | (key, value) :: rest => (key, shape value) :: shapeOfFields rest

end

def maskedKeys : List String :=
  ["password", "privateKey", "passphrase"]

def secretKeys : List JsString :=
  [js "password", js "privateKey", js "passphrase", js "responses", js "inputs"]

-- Objects that differ in secrets alone, which are of one shape.
structure SameButSecrets (first second : Fields) : Prop where
  keys : first.map Prod.fst = second.map Prod.fst
  nodup : (first.map Prod.fst).Nodup
  plain : ∀ key, key ∉ secretKeys → Json.lookup key first = Json.lookup key second
  shape : ∀ key, (Json.lookup key first).map shape = (Json.lookup key second).map shape

def DifferInSecrets (first second : JsonValue) : Prop :=
  first = second ∨ ∃ firstFields secondFields, first = .object firstFields ∧
    second = .object secondFields ∧ SameButSecrets firstFields secondFields

-- What is not masked is the same, and the same secrets are given.
structure SameWhenMasked (first second : JsonValue) : Prop where
  given : ∀ key ∈ maskedKeys,
    isFilled (property key (some first)) = isFilled (property key (some second))
  responses : property "responses" (some first) = property "responses" (some second)
  inputs : property "inputs" (some first) = property "inputs" (some second)

def SameWhereLogged (event : JsString) (first second : List JsonValue) : Prop :=
  if event = authEvent then
    List.Forall₂ SameWhenMasked (first.take 1) (second.take 1)
  else first = second

-- The masking library puts a text of its own in the place of what it is to mask.
def MasksWith (masker : Masker) (cover : JsString) : Prop :=
  ∀ properties fields, masker properties (.object fields) =
    .object (fields.map fun (name, value) =>
      (name, if name ∈ properties.map js then .string cover else masker properties value))

end Secrets

section Masking

variable {first second : Fields}

-- What a masked message has under a key.
theorem field_maskedArg (fields : Fields) (key : JsString) :
    Json.field key (maskedArg (.object fields)) =
      if js "passphrase" = key then
        some (placeholder (property "passphrase" (some (.object fields))))
      else if js "privateKey" = key then
        some (placeholder (property "privateKey" (some (.object fields))))
      else if js "password" = key then
        some (placeholder (property "password" (some (.object fields))))
      else Json.lookup key fields := by
  unfold maskedArg
  dsimp only [Json.field, spread]
  rw [Json.lookup_setEntries, Json.lookup_setEntries, Json.lookup_setEntries]

theorem maskedArg_eq_iff_field (h : SameButSecrets first second) :
    maskedArg (.object first) = maskedArg (.object second) ↔
      ∀ key, Json.field key (maskedArg (.object first)) =
        Json.field key (maskedArg (.object second)) := by
  constructor
  · intro heq key
    rw [heq]
  · intro hfield
    unfold maskedArg at hfield ⊢
    dsimp only [Json.field, spread] at hfield ⊢
    refine congrArg Json.object (OrderedMap.eq_of_lookupEntries ?_ ?_ fun key => ?_)
    · exact OrderedMap.keys_setEntries_congr _ _ _ (OrderedMap.keys_setEntries_congr _ _ _
        (OrderedMap.keys_setEntries_congr _ _ _ h.keys))
    · exact OrderedMap.nodup_setEntries _ _ _ (OrderedMap.nodup_setEntries _ _ _
        (OrderedMap.nodup_setEntries _ _ _ h.nodup))
    · rw [← Json.lookup_eq_lookupEntries, ← Json.lookup_eq_lookupEntries]
      exact hfield key

theorem placeholder_eq_iff (value other : JsValue) :
    placeholder value = placeholder other ↔ isFilled value = isFilled other := by
  unfold placeholder
  cases isFilled value <;> cases isFilled other <;> decide

theorem maskedArg_object_iff (h : SameButSecrets first second) :
    maskedArg (.object first) = maskedArg (.object second) ↔
      SameWhenMasked (.object first) (.object second) := by
  rw [maskedArg_eq_iff_field h]
  constructor
  · intro hfield
    have hmasked := fun key => hfield (js key)
    refine ⟨fun key hkey => ?_, ?_, ?_⟩
    · rw [← placeholder_eq_iff]
      have hsame := hmasked key
      rw [field_maskedArg, field_maskedArg] at hsame
      unfold maskedKeys at hkey
      simp only [List.mem_cons, List.not_mem_nil, or_false] at hkey
      rcases hkey with rfl | rfl | rfl
      · rw [if_neg (by decide), if_neg (by decide), if_pos rfl, if_neg (by decide),
          if_neg (by decide), if_pos rfl] at hsame
        exact Option.some.inj hsame
      · rw [if_neg (by decide), if_pos rfl, if_neg (by decide), if_pos rfl] at hsame
        exact Option.some.inj hsame
      · rw [if_pos rfl, if_pos rfl] at hsame
        exact Option.some.inj hsame
    · have hsame := hmasked "responses"
      rw [field_maskedArg, field_maskedArg, if_neg (by decide), if_neg (by decide),
        if_neg (by decide), if_neg (by decide), if_neg (by decide), if_neg (by decide)] at hsame
      exact hsame
    · have hsame := hmasked "inputs"
      rw [field_maskedArg, field_maskedArg, if_neg (by decide), if_neg (by decide),
        if_neg (by decide), if_neg (by decide), if_neg (by decide), if_neg (by decide)] at hsame
      exact hsame
  · intro hsame key
    have hgiven : ∀ name ∈ maskedKeys, placeholder (property name (some (.object first))) =
        placeholder (property name (some (.object second))) :=
      fun name hname => (placeholder_eq_iff _ _).mpr (hsame.given name hname)
    rw [field_maskedArg, field_maskedArg, hgiven "passphrase" (by decide),
      hgiven "privateKey" (by decide), hgiven "password" (by decide)]
    by_cases hpassphrase : js "passphrase" = key
    · rw [if_pos hpassphrase, if_pos hpassphrase]
    by_cases hkey : js "privateKey" = key
    · rw [if_neg hpassphrase, if_neg hpassphrase, if_pos hkey, if_pos hkey]
    by_cases hpassword : js "password" = key
    · rw [if_neg hpassphrase, if_neg hpassphrase, if_neg hkey, if_neg hkey, if_pos hpassword,
        if_pos hpassword]
    rw [if_neg hpassphrase, if_neg hpassphrase, if_neg hkey, if_neg hkey, if_neg hpassword,
      if_neg hpassword]
    by_cases hresponses : js "responses" = key
    · rw [← hresponses]
      exact hsame.responses
    by_cases hinputs : js "inputs" = key
    · rw [← hinputs]
      exact hsame.inputs
    apply h.plain
    unfold secretKeys
    simp only [List.mem_cons, List.not_mem_nil, or_false, not_or]
    exact ⟨Ne.symm hpassword, Ne.symm hkey, Ne.symm hpassphrase, Ne.symm hresponses,
      Ne.symm hinputs⟩

end Masking

section Pipeline

variable {masker : Masker} {cover : JsString} {creds other : CredentialFields}

theorem textOf_isSome_of_shape {value other : JsValue} (h : value.map shape = other.map shape) :
    (textOf value).isSome = (textOf other).isSome := by
  have hshape : ∀ value : JsValue, (textOf value).isSome = (textOf (value.map shape)).isSome := by
    intro value
    cases value with
    | none => rfl
    | some value =>
      cases value with
      | null | bool _ | number _ | string _ | array _ | object _ => rfl
  rw [hshape value, hshape other, h]

-- Credentials that differ in secrets alone, of one shape.
structure SameCredentials (creds other : CredentialFields) : Prop where
  username : creds.username = other.username
  host : creds.host = other.host
  port : creds.port = other.port
  password : creds.password.map shape = other.password.map shape
  privateKey : creds.privateKey.map shape = other.privateKey.map shape
  passphrase : creds.passphrase.map shape = other.passphrase.map shape
  term : creds.term = other.term
  cols : creds.cols = other.cols
  rows : creds.rows = other.rows

theorem isValidCredentials_congr (h : SameCredentials creds other) :
    isValidCredentials creds = isValidCredentials other := by
  have hpassphrase : decide (creds.passphrase = none) = decide (other.passphrase = none) := by
    refine decide_eq_decide.mpr ?_
    rw [← Option.map_eq_none_iff, h.passphrase, Option.map_eq_none_iff]
  unfold isValidCredentials
  rw [h.username, h.host, h.port, textOf_isSome_of_shape h.password,
    textOf_isSome_of_shape h.privateKey, textOf_isSome_of_shape h.passphrase, hpassphrase]

-- One field of masked credentials.
def maskedField (masker : Masker) (cover : JsString) (name : String) (value : JsValue) :
    Option (JsString × JsonValue) :=
  value.map fun value => (js name,
    if js name ∈ defaultMaskProperties.map js then .string cover
    else masker defaultMaskProperties value)

theorem maskedField_of_listed {name : String} (hlisted : js name ∈ defaultMaskProperties.map js)
    {value other : JsValue} (h : value.map shape = other.map shape) :
    maskedField masker cover name value = maskedField masker cover name other := by
  unfold maskedField
  cases value with
  | none =>
    rw [Option.map_none, eq_comm, Option.map_eq_none_iff] at h
    rw [h]
  | some value =>
    cases other with
    | none => cases h
    | some other => simp only [Option.map_some, if_pos hlisted]

theorem maskSensitive_object (hmask : MasksWith masker cover) (creds : CredentialFields) :
    maskSensitive masker creds.object = .object
      ([("username", creds.username), ("host", creds.host), ("port", creds.port),
        ("password", creds.password), ("privateKey", creds.privateKey),
        ("passphrase", creds.passphrase), ("term", creds.term), ("cols", creds.cols),
        ("rows", creds.rows)].filterMap fun (name, value) =>
          maskedField masker cover name value) := by
  unfold maskSensitive CredentialFields.object
  rw [hmask, List.map_filterMap]
  refine congrArg Json.object (List.filterMap_congr fun entry _ => ?_)
  rcases entry with ⟨name, value⟩
  unfold maskedField
  rw [Option.map_map]
  rfl

theorem maskSensitive_congr (hmask : MasksWith masker cover) (h : SameCredentials creds other) :
    maskSensitive masker creds.object = maskSensitive masker other.object := by
  have hpassword : maskedField masker cover "password" creds.password =
      maskedField masker cover "password" other.password :=
    maskedField_of_listed (by decide) h.password
  have hprivateKey : maskedField masker cover "privateKey" creds.privateKey =
      maskedField masker cover "privateKey" other.privateKey :=
    maskedField_of_listed (by decide) h.privateKey
  have hpassphrase : maskedField masker cover "passphrase" creds.passphrase =
      maskedField masker cover "passphrase" other.passphrase :=
    maskedField_of_listed (by decide) h.passphrase
  rw [maskSensitive_object hmask, maskSensitive_object hmask]
  simp only [List.filterMap_cons, h.username, h.host, h.port, hpassword, hprivateKey,
    hpassphrase, h.term, h.cols, h.rows]

theorem setManualCredentialsLines_congr (hmask : MasksWith masker cover)
    (h : SameCredentials creds other) :
    setManualCredentialsLines masker creds = setManualCredentialsLines masker other := by
  unfold setManualCredentialsLines
  rw [isValidCredentials_congr h, maskSensitive_congr hmask h]

theorem sameCredentials_of_fields {first second : Fields} (h : SameButSecrets first second) :
    SameCredentials (credentialFields (.object first)) (credentialFields (.object second)) where
  username := h.plain (js "username") (by decide)
  host := h.plain (js "host") (by decide)
  port := h.plain (js "port") (by decide)
  password := h.shape (js "password")
  privateKey := h.shape (js "privateKey")
  passphrase := h.shape (js "passphrase")
  term := rfl
  cols := rfl
  rows := rfl

-- The pipeline writes nothing of the secrets, once the answers to its own form are the same.
theorem authLines_congr (hmask : MasksWith masker cover) (runtime : Runtime)
    (config : LoginConfig) (protocol : Protocol) {first second : Fields}
    (h : SameButSecrets first second)
    (hresponses : Json.lookup (js "responses") first = Json.lookup (js "responses") second) :
    authLines masker runtime config protocol (some (.object first)) =
      authLines masker runtime config protocol (some (.object second)) := by
  have hcount : keyCount (.object first) = keyCount (.object second) := by
    have hlength := congrArg List.length h.keys
    rwa [List.length_map, List.length_map] at hlength
  have hlines := setManualCredentialsLines_congr hmask (sameCredentials_of_fields h)
  unfold authLines authRequest
  dsimp only
  rw [hresponses]
  cases Json.lookup (js "responses") second with
  | some responses => rfl
  | none =>
    dsimp only
    rw [hcount, hlines]

end Pipeline

section Events

variable {masker : Masker} {cover : JsString}

theorem sameWhenMasked_refl (value : JsonValue) : SameWhenMasked value value :=
  ⟨fun _ _ => rfl, rfl, rfl⟩

-- The lines of a message for the login are the same exactly when its unmasked part is.
theorem authLines_eq_iff (hmask : MasksWith masker cover) (runtime : Runtime)
    (config : LoginConfig) (protocol : Protocol) {first second : JsonValue}
    (h : DifferInSecrets first second) (firsts seconds : List JsonValue) :
    eventLines masker runtime config protocol authEvent (first :: firsts) =
        eventLines masker runtime config protocol authEvent (second :: seconds) ↔
      SameWhenMasked first second := by
  unfold eventLines onAny
  simp only [if_true, List.head?_cons]
  rcases h with rfl | ⟨firstFields, secondFields, rfl, rfl, hfields⟩
  · exact ⟨fun _ => sameWhenMasked_refl first, fun _ => rfl⟩
  · rw [if_neg (by simp), if_neg (by simp), ← maskedArg_object_iff hfields]
    constructor
    · intro heq
      simpa using (List.cons.inj heq).1
    · intro hmasked
      have hsame := (maskedArg_object_iff hfields).mp hmasked
      rw [hmasked, authLines_congr hmask runtime config protocol hfields hsame.responses]

-- The lines of an event do not tell secrets apart exactly where they are masked: in a
-- message for the login, whether each of three is given at all, and no others.
theorem eventLines_eq_iff (masker : Masker) (cover : JsString) (hmask : MasksWith masker cover)
    (runtime : Runtime) (config : LoginConfig) (protocol : Protocol) (event : JsString)
    (first second : List JsonValue) (h : List.Forall₂ DifferInSecrets first second) :
    eventLines masker runtime config protocol event first =
        eventLines masker runtime config protocol event second ↔
      SameWhereLogged event first second := by
  unfold SameWhereLogged
  by_cases hevent : event = authEvent
  · rw [if_pos hevent, hevent]
    cases h with
    | nil => simp
    | cons hhead htail =>
      rw [authLines_eq_iff hmask runtime config protocol hhead]
      simp
  · rw [if_neg hevent]
    unfold eventLines onAny
    rw [if_neg hevent, if_neg hevent]
    cases h with
    | nil => simp
    | cons hhead htail =>
      dsimp only
      rw [if_neg hevent, if_neg hevent]
      simp

theorem sameButSecrets_nil : SameButSecrets [] [] :=
  ⟨rfl, List.nodup_nil, fun _ _ => rfl, fun _ => rfl⟩

theorem sameButSecrets_cons {name : JsString} {value other : JsonValue} {first second : Fields}
    (hname : name ∉ first.map Prod.fst) (hplain : name ∉ secretKeys → value = other)
    (hshape : shape value = shape other) (h : SameButSecrets first second) :
    SameButSecrets ((name, value) :: first) ((name, other) :: second) where
  keys := by rw [List.map_cons, List.map_cons, h.keys]
  nodup := List.nodup_cons.mpr ⟨hname, h.nodup⟩
  plain := by
    intro key hkey
    unfold Json.lookup
    by_cases hsame : name = key
    · rw [if_pos hsame, if_pos hsame, hplain (hsame ▸ hkey)]
    · rw [if_neg hsame, if_neg hsame, h.plain key hkey]
  shape := by
    intro key
    unfold Json.lookup
    by_cases hsame : name = key
    · rw [if_pos hsame, if_pos hsame, Option.map_some, Option.map_some, hshape]
    · rw [if_neg hsame, if_neg hsame, h.shape key]

mutual

-- A masking library that puts asterisks under the names that it is told.
def asterisks (properties : List String) : JsonValue → JsonValue
  | .object fields => .object (asterisksFields properties fields)
  | value => value

def asterisksFields (properties : List String) : Fields → Fields
  | [] => []
  | (name, value) :: rest =>
    (name, if name ∈ properties.map js then .string (js "********")
      else asterisks properties value) :: asterisksFields properties rest

end

theorem masksWith_asterisks : MasksWith asterisks (js "********") := by
  intro properties fields
  rw [asterisks]
  refine congrArg Json.object ?_
  induction fields with
  | nil => rfl
  | cons head rest ih => rw [asterisksFields, List.map_cons, ih]

-- A message for the login with this password.
def loginMessage (password : String) : JsonValue :=
  .object [(js "username", .string (js "ann")), (js "password", .string (js password))]

theorem loginMessage_differ (password other : String) :
    DifferInSecrets (loginMessage password) (loginMessage other) := by
  refine .inr ⟨_, _, rfl, rfl, ?_⟩
  have hname : js "username" ∉ [js "password"] := by decide
  apply sameButSecrets_cons hname (fun _ => rfl) rfl
  exact sameButSecrets_cons (by decide) (fun h => absurd (by decide) h) rfl sameButSecrets_nil

theorem eventLines_eq_iff_password :
    eventLines asterisks asciiRuntime (loginConfig [.password]) .ssh authEvent
          [loginMessage "secret"] =
        eventLines asterisks asciiRuntime (loginConfig [.password]) .ssh authEvent
          [loginMessage "other"] ↔
      SameWhereLogged authEvent [loginMessage "secret"] [loginMessage "other"] :=
  eventLines_eq_iff asterisks (js "********") masksWith_asterisks asciiRuntime
    (loginConfig [.password]) .ssh authEvent [loginMessage "secret"] [loginMessage "other"]
    (.cons (loginMessage_differ "secret" "other") .nil)

-- The answer to a prompt, with what was typed.
def promptResponse (typed : String) : JsonValue :=
  .object [(js "id", .string (js "prompt-1")), (js "action", .string (js "submit")),
    (js "inputs", .object [(js "prompt_0", .string (js typed))])]

theorem promptResponse_differ (typed other : String) :
    DifferInSecrets (promptResponse typed) (promptResponse other) := by
  refine .inr ⟨_, _, rfl, rfl, ?_⟩
  have hid : js "id" ∉ [js "action", js "inputs"] := by decide
  have haction : js "action" ∉ [js "inputs"] := by decide
  apply sameButSecrets_cons hid (fun _ => rfl) rfl
  apply sameButSecrets_cons haction (fun _ => rfl) rfl
  exact sameButSecrets_cons (by decide) (fun h => absurd (by decide) h) rfl sameButSecrets_nil

-- What was typed at a prompt is written as it is.
theorem eventLines_not_prompt :
    ¬∀ (event : JsString) (first second : List JsonValue),
      List.Forall₂ DifferInSecrets first second →
        eventLines asterisks asciiRuntime (loginConfig [.password]) .ssh event first =
          eventLines asterisks asciiRuntime (loginConfig [.password]) .ssh event second := by
  intro hall
  have hsame := hall (js "prompt-response") [promptResponse "hunter2"] [promptResponse "secret1"]
    (.cons (promptResponse_differ "hunter2" "secret1") .nil)
  have hdiffer : eventLines asterisks asciiRuntime (loginConfig [.password]) .ssh
        (js "prompt-response") [promptResponse "hunter2"] ≠
      eventLines asterisks asciiRuntime (loginConfig [.password]) .ssh
        (js "prompt-response") [promptResponse "secret1"] := by
    decide
  exact hdiffer hsame

end Events

end WebSsh2.Socket.EventLog

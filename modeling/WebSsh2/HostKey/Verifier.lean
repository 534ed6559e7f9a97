import WebSsh2.HostKey.KnownHosts
import WebSsh2.HostKey.Mode
import WebSsh2.Library.Base64
import WebSsh2.Library.Run

namespace WebSsh2.HostKey

open WebSsh2.Library WebSsh2.Library.Run

abbrev KeyBlob := List UInt8

-- The databases by their paths, where there is a file.
abbrev Databases := JsString → Option HostKeyTable

def HostKeyStore.create (databases : Databases) (dbPath : JsString) : HostKeyStore where
  db := databases dbPath

namespace HostKeyService

def serverLookup (databases : Databases) (service : HostKeyService) (host : JsString)
    (port : Nat) (algorithm presentedKey : JsString) : HostKeyLookupResult :=
  match service.store with
  | none => { status := .unknown }
  | some dbPath =>
    (HostKeyStore.create databases dbPath).lookup host port algorithm (some presentedKey)

def close (service : HostKeyService) : HostKeyService :=
  { service with store := none }

end HostKeyService

def computeFingerprint (sha256 : KeyBlob → KeyBlob) (base64Key : JsString) : JsString :=
  js "SHA256:" ++ Base64.encode (sha256 (Base64.decode base64Key))

-- A name in ASCII has seven bits for each character.
def extractAlgorithm (keyBuffer : KeyBlob) : JsString :=
  match keyBuffer with
  | a :: b :: c :: d :: rest =>
    let algLength := ((a.toNat * 256 + b.toNat) * 256 + c.toNat) * 256 + d.toNat
    if rest.length < algLength then
      js "unknown"
    else
      (rest.take algLength).map fun octet => (octet.toNat % 128).toUInt16
  | _ => js "unknown"

-- What every message to the client says of the key.
structure PresentedKey where
  host : JsString
  port : Nat
  algorithm : JsString
  fingerprint : JsString
deriving DecidableEq

inductive KeySource where
  | server | client
deriving DecidableEq

inductive HostKeyEmission where
  | verify (presented : PresentedKey) (key : JsString)
  | verified (presented : PresentedKey) (source : KeySource)
  | mismatch (presented : PresentedKey) (storedFingerprint : JsString) (source : KeySource)
  | alert (presented : PresentedKey)
  | rejected (presented : PresentedKey)
deriving DecidableEq

-- One call of the callback: the key that its handlers know, what they wait for, what
-- `verify` was called with and what was sent to the client.
structure Verification where
  presented : PresentedKey
  responseListener : Bool
  disconnectListener : Bool
  timer : Bool
  verdicts : List Bool
  emitted : List HostKeyEmission
deriving DecidableEq

-- What can come while the client is asked.
inductive VerificationEvent where
  | response (payload : JsValue)
  | disconnect
  | timeout
deriving DecidableEq

-- The action of a payload that has one.
def responseAction : JsValue → Option JsString
  | some (.object fields) =>
    match Json.lookup (js "action") fields with
    | some (.string action) => some action
    | _ => none
  | _ => none

def acceptsKey (payload : JsValue) : Bool :=
  responseAction payload = some (js "accept") || responseAction payload = some (js "trusted")

namespace Verification

def verify (valid : Bool) (verification : Verification) : Verification :=
  { verification with verdicts := verification.verdicts ++ [valid] }

def emit (emission : HostKeyEmission) (verification : Verification) : Verification :=
  { verification with emitted := verification.emitted ++ [emission] }

variable (verification : Verification)

def cleanup : Verification :=
  { verification with timer := false, responseListener := false, disconnectListener := false }

def handler (payload : JsValue) (verification : Verification) : Verification :=
  let cleaned := verification.cleanup
  match responseAction payload with
  | none => cleaned.verify false
  | some action =>
    if action = js "accept" ∨ action = js "trusted" then
      (cleaned.emit (.verified cleaned.presented .client)).verify true
    else
      cleaned.verify false

def onDisconnect : Verification :=
  verification.cleanup.verify false

def onTimeout : Verification :=
  { verification with responseListener := false, disconnectListener := false }.verify false

def awaitClientVerification (base64Key : JsString) (verification : Verification) : Verification :=
  { verification with timer := true, responseListener := true, disconnectListener := true }.emit
    (.verify verification.presented base64Key)

-- A listener hears an event once, and what nothing listens to passes by.
def step : VerificationEvent → Verification
  | .response payload =>
    if verification.responseListener then
      { verification with responseListener := false }.handler payload
    else
      verification
  | .disconnect =>
    if verification.disconnectListener then
      { verification with disconnectListener := false }.onDisconnect
    else
      verification
  | .timeout =>
    if verification.timer then
      { verification with timer := false }.onTimeout
    else
      verification

end Verification

section Callback

variable (sha256 : KeyBlob → KeyBlob) (databases : Databases)

def createHostKeyVerifier (service : HostKeyService) (host : JsString) (port : Nat)
    (key : KeyBlob) : Verification :=
  let algorithm := extractAlgorithm key
  let base64Key := Base64.encode key
  let fingerprint := computeFingerprint sha256 base64Key
  let called : Verification := {
    presented := { host, port, algorithm, fingerprint }
    responseListener := false
    disconnectListener := false
    timer := false
    verdicts := []
    emitted := [] }
  let clientLookup :=
    if service.clientStoreEnabled then
      called.awaitClientVerification base64Key
    else
      match service.unknownKeyAction with
      | .alert => (called.emit (.alert called.presented)).verify true
      | .reject => (called.emit (.rejected called.presented)).verify false
      | .prompt => called.awaitClientVerification base64Key
  if !service.isEnabled then
    called.verify true
  else if service.serverStoreEnabled then
    let lookupResult := HostKeyService.serverLookup databases service host port algorithm base64Key
    match lookupResult.status with
    | .trusted => (called.emit (.verified called.presented .server)).verify true
    | .mismatch =>
      let storedFingerprint := match lookupResult.storedKey with
        | none => js "unknown"
        | some storedKey => computeFingerprint sha256 storedKey
      (called.emit (.mismatch called.presented storedFingerprint .server)).verify false
    | .unknown => clientLookup
  else
    clientLookup

end Callback

section Decision

variable (sha256 : KeyBlob → KeyBlob) (databases : Databases)

-- What the server store says of a key, where it is asked.
def serverStatus (service : HostKeyService) (host : JsString) (port : Nat) (key : KeyBlob) :
    LookupStatus :=
  if service.serverStoreEnabled then
    (HostKeyService.serverLookup databases service host port (extractAlgorithm key)
      (Base64.encode key)).status
  else
    .unknown

-- The client is asked about the key.
def AsksClient (service : HostKeyService) (host : JsString) (port : Nat) (key : KeyBlob) : Prop :=
  service.isEnabled = true ∧ serverStatus databases service host port key = .unknown ∧
    (service.clientStoreEnabled = true ∨ service.unknownKeyAction = .prompt)

-- The key passes, and the client is not asked.
def PassesUnasked (service : HostKeyService) (host : JsString) (port : Nat) (key : KeyBlob) :
    Prop :=
  service.isEnabled = false ∨ serverStatus databases service host port key = .trusted ∨
    serverStatus databases service host port key = .unknown ∧
      service.clientStoreEnabled = false ∧ service.unknownKeyAction = .alert

instance (service : HostKeyService) (host : JsString) (port : Nat) (key : KeyBlob) :
    Decidable (AsksClient databases service host port key) :=
  inferInstanceAs (Decidable (_ ∧ _ ∧ (_ ∨ _)))

instance (service : HostKeyService) (host : JsString) (port : Nat) (key : KeyBlob) :
    Decidable (PassesUnasked databases service host port key) :=
  inferInstanceAs (Decidable (_ ∨ _ ∨ _ ∧ _ ∧ _))

variable (verification : Verification)

-- The listeners and the timer are there together, and only before the verdict.
def Verification.Awaiting : Prop :=
  verification.responseListener = true ∧ verification.disconnectListener = true ∧
    verification.timer = true ∧ verification.verdicts = []

def Verification.Settled : Prop :=
  verification.responseListener = false ∧ verification.disconnectListener = false ∧
    verification.timer = false

def Verification.Prompted : Prop :=
  ∃ presented key, HostKeyEmission.verify presented key ∈ verification.emitted

def VerificationEvent.accepts : VerificationEvent → Bool
  | .response payload => acceptsKey payload
  | _ => false

variable {databases} {service : HostKeyService} {host : JsString} {port : Nat} {key : KeyBlob}

variable (databases host port key) in
-- The callback as a table of the status in the server store.
theorem createHostKeyVerifier_of_enabled (henabled : service.isEnabled = true) :
    ∃ called : Verification,
      called.responseListener = false ∧ called.disconnectListener = false ∧
      called.timer = false ∧ called.verdicts = [] ∧ called.emitted = [] ∧
      ∃ stored, createHostKeyVerifier sha256 databases service host port key =
        match serverStatus databases service host port key with
        | .trusted => (called.emit (.verified called.presented .server)).verify true
        | .mismatch => (called.emit (.mismatch called.presented stored .server)).verify false
        | .unknown =>
          if service.clientStoreEnabled then
            called.awaitClientVerification (Base64.encode key)
          else
            match service.unknownKeyAction with
            | .alert => (called.emit (.alert called.presented)).verify true
            | .reject => (called.emit (.rejected called.presented)).verify false
            | .prompt => called.awaitClientVerification (Base64.encode key) := by
  refine ⟨{
    presented := ⟨host, port, extractAlgorithm key,
      computeFingerprint sha256 (Base64.encode key)⟩
    responseListener := false
    disconnectListener := false
    timer := false
    verdicts := []
    emitted := [] }, rfl, rfl, rfl, rfl, rfl, ?_⟩
  unfold createHostKeyVerifier serverStatus
  rw [henabled]
  by_cases hserver : service.serverStoreEnabled = true
  · rw [if_pos hserver]
    exact ⟨_, by simp only [hserver]; rfl⟩
  · rw [if_neg hserver]
    exact ⟨[], by simp only [hserver]; rfl⟩

theorem awaiting_of_asksClient (h : AsksClient databases service host port key) :
    (createHostKeyVerifier sha256 databases service host port key).Awaiting ∧
      (createHostKeyVerifier sha256 databases service host port key).Prompted := by
  obtain ⟨henabled, hstatus, hask⟩ := h
  obtain ⟨called, _, _, _, hverdicts, hemitted, _, heq⟩ :=
    createHostKeyVerifier_of_enabled sha256 databases host port key henabled
  rw [heq, hstatus]
  by_cases hclient : service.clientStoreEnabled = true
  · simp [hclient, Verification.awaitClientVerification, Verification.emit, Verification.Awaiting,
      Verification.Prompted, hverdicts, hemitted]
  · have hprompt := hask.resolve_left hclient
    simp [hclient, hprompt, Verification.awaitClientVerification, Verification.emit,
      Verification.Awaiting, Verification.Prompted, hverdicts, hemitted]

-- A verdict without a question settles the callback at once.
theorem settled_emit_verify {called : Verification} (hsettled : called.Settled)
    (hverdicts : called.verdicts = []) (hemitted : called.emitted = [])
    {emission : HostKeyEmission} (hemission : ∀ presented key, emission ≠ .verify presented key)
    (valid : Bool) :
    ((called.emit emission).verify valid).Settled ∧
      ¬ ((called.emit emission).verify valid).Prompted ∧
      ((called.emit emission).verify valid).verdicts = [valid] := by
  refine ⟨hsettled, ?_, ?_⟩
  · rintro ⟨presented, key, hmem⟩
    simp only [Verification.verify, Verification.emit, hemitted, List.nil_append,
      List.mem_singleton] at hmem
    exact hemission presented key hmem.symm
  · simp only [Verification.verify, Verification.emit, hverdicts, List.nil_append]

theorem settled_of_not_asksClient (h : ¬ AsksClient databases service host port key) :
    (createHostKeyVerifier sha256 databases service host port key).Settled ∧
      ¬ (createHostKeyVerifier sha256 databases service host port key).Prompted ∧
      (createHostKeyVerifier sha256 databases service host port key).verdicts =
        [decide (PassesUnasked databases service host port key)] := by
  by_cases henabled : service.isEnabled = true
  · obtain ⟨called, hresponse, hdisconnect, htimer, hverdicts, hemitted, stored, heq⟩ :=
      createHostKeyVerifier_of_enabled sha256 databases host port key henabled
    have hsettled := @settled_emit_verify called ⟨hresponse, hdisconnect, htimer⟩ hverdicts hemitted
    rw [heq]
    cases hstatus : serverStatus databases service host port key with
    | trusted =>
      have hpasses : PassesUnasked databases service host port key := .inr (.inl hstatus)
      rw [decide_eq_true hpasses]
      exact hsettled (fun _ _ h => by cases h) true
    | mismatch =>
      have hrefuses : ¬ PassesUnasked databases service host port key := by
        simp [PassesUnasked, henabled, hstatus]
      rw [decide_eq_false hrefuses]
      exact hsettled (fun _ _ h => by cases h) false
    | unknown =>
      have hclient : service.clientStoreEnabled = false := by
        rw [← Bool.not_eq_true]
        exact fun hclient => h ⟨henabled, hstatus, .inl hclient⟩
      dsimp only
      rw [hclient, if_neg Bool.false_ne_true]
      cases haction : service.unknownKeyAction with
      | prompt => exact absurd ⟨henabled, hstatus, .inr haction⟩ h
      | alert =>
        have hpasses : PassesUnasked databases service host port key :=
          .inr (.inr ⟨hstatus, hclient, haction⟩)
        rw [decide_eq_true hpasses]
        exact hsettled (fun _ _ h => by cases h) true
      | reject =>
        have hrefuses : ¬ PassesUnasked databases service host port key := by
          simp [PassesUnasked, henabled, hstatus, haction]
        rw [decide_eq_false hrefuses]
        exact hsettled (fun _ _ h => by cases h) false
  · simp [createHostKeyVerifier, PassesUnasked, henabled, Verification.verify,
      Verification.Settled, Verification.Prompted]

theorem run_of_settled {verification : Verification} (h : verification.Settled)
    (events : List VerificationEvent) :
    run Verification.step verification events = verification := by
  obtain ⟨hresponse, hdisconnect, htimer⟩ := h
  induction events with
  | nil => rfl
  | cons event rest ih =>
    have hstep : verification.step event = verification := by
      cases event with
      | response payload => simp [Verification.step, hresponse]
      | disconnect => simp [Verification.step, hdisconnect]
      | timeout => simp [Verification.step, htimer]
    rw [run_cons, hstep]
    exact ih

-- The first event decides, whatever it is.
theorem step_of_awaiting {verification : Verification} (h : verification.Awaiting)
    (event : VerificationEvent) :
    (verification.step event).Settled ∧ (verification.step event).verdicts = [event.accepts] := by
  obtain ⟨hresponse, hdisconnect, htimer, hverdicts⟩ := h
  cases event with
  | response payload =>
    simp only [Verification.step, hresponse, if_pos, Verification.handler,
      VerificationEvent.accepts, acceptsKey]
    cases haction : responseAction payload with
    | none => simp [Verification.cleanup, Verification.verify, Verification.Settled, hverdicts]
    | some action =>
      by_cases haccept : action = js "accept" ∨ action = js "trusted"
      · simp [haccept, Verification.cleanup, Verification.verify, Verification.emit,
          Verification.Settled, hverdicts]
      · simp [Verification.cleanup, Verification.verify, Verification.Settled, hverdicts,
          not_or.mp haccept]
  | disconnect =>
    simp [Verification.step, hdisconnect, Verification.onDisconnect, Verification.cleanup,
      Verification.verify, Verification.Settled, hverdicts, VerificationEvent.accepts]
  | timeout =>
    simp [Verification.step, htimer, Verification.onTimeout, Verification.verify,
      Verification.Settled, hverdicts, VerificationEvent.accepts]

-- What `verify` is called with in a whole run.
theorem verdicts_run (events : List VerificationEvent) :
    (run Verification.step (createHostKeyVerifier sha256 databases service host port key)
        events).verdicts =
      if AsksClient databases service host port key then
        events.head?.toList.map VerificationEvent.accepts
      else
        [decide (PassesUnasked databases service host port key)] := by
  by_cases hasks : AsksClient databases service host port key
  · rw [if_pos hasks]
    obtain ⟨hawaiting, _⟩ := awaiting_of_asksClient sha256 hasks
    cases events with
    | nil => exact hawaiting.2.2.2
    | cons event rest =>
      obtain ⟨hsettled, hverdicts⟩ := step_of_awaiting hawaiting event
      rw [run_cons, run_of_settled hsettled, hverdicts]
      rfl
  · rw [if_neg hasks]
    obtain ⟨hsettled, _, hverdicts⟩ := settled_of_not_asksClient sha256 hasks
    rw [run_of_settled hsettled, hverdicts]

-- The server store has this key for the host, the port and the type that the key names.
def StoreHolds (databases : Databases) (service : HostKeyService) (host : JsString) (port : Nat)
    (key : KeyBlob) : Prop :=
  service.serverStoreEnabled = true ∧ ∃ dbPath ∈ service.store, ∃ db ∈ databases dbPath,
    ∃ row, db.get ⟨host, port, extractAlgorithm key⟩ = some row ∧ row.key = Base64.encode key

theorem storeHolds_of_trusted (h : serverStatus databases service host port key = .trusted) :
    StoreHolds databases service host port key := by
  unfold serverStatus at h
  split at h
  · rename_i hserver
    refine ⟨hserver, ?_⟩
    unfold HostKeyService.serverLookup at h
    cases hstore : service.store with
    | none =>
      rw [hstore] at h
      cases h
    | some dbPath =>
      rw [hstore] at h
      cases hdb : databases dbPath with
      | none =>
        simp only [HostKeyStore.create, HostKeyStore.lookup, hdb] at h
        cases h
      | some db =>
        exact ⟨dbPath, rfl, db, hdb,
          (@lookup_trusted_iff (.create databases dbPath) db hdb _ _ _ _).mp h⟩
  · cases h

-- The callback decides once, whatever comes and in whatever order, and lets a key pass
-- only where the policy or the first answer of the client does.
theorem decides_once_by_policy (sha256 : KeyBlob → KeyBlob) (databases : Databases)
    (service : HostKeyService) (host : JsString) (port : Nat) (key : KeyBlob)
    (events : List VerificationEvent) :
    let called := createHostKeyVerifier sha256 databases service host port key
    let verdicts := (run Verification.step called events).verdicts
    verdicts.length ≤ 1 ∧
      (true ∈ verdicts →
        service.isEnabled = false ∨ StoreHolds databases service host port key ∨
        service.unknownKeyAction = .alert ∧ ¬ called.Prompted ∨
        called.Prompted ∧
          ∃ payload rest, events = .response payload :: rest ∧ acceptsKey payload = true) ∧
      (service.isEnabled = true → serverStatus databases service host port key = .mismatch →
        verdicts = [false]) := by
  dsimp only
  rw [verdicts_run]
  by_cases hasks : AsksClient databases service host port key
  · rw [if_pos hasks]
    refine ⟨?_, fun htrue => ?_, fun _ hmismatch => ?_⟩
    · cases events with
      | nil => exact Nat.zero_le 1
      | cons event rest => exact Nat.le_refl 1
    · obtain ⟨_, hprompted⟩ := awaiting_of_asksClient sha256 hasks
      cases events with
      | nil => cases htrue
      | cons event rest =>
        have haccepts : event.accepts = true := by simpa using htrue
        cases event with
        | response payload => exact .inr (.inr (.inr ⟨hprompted, payload, rest, rfl, haccepts⟩))
        | disconnect => cases haccepts
        | timeout => cases haccepts
    · cases hasks.2.1.symm.trans hmismatch
  · rw [if_neg hasks]
    obtain ⟨_, hprompted, _⟩ := settled_of_not_asksClient sha256 hasks
    refine ⟨Nat.le_refl 1, fun htrue => ?_, fun henabled hmismatch => ?_⟩
    · have hpasses : PassesUnasked databases service host port key := by simpa using htrue
      rcases hpasses with hdisabled | htrusted | ⟨_, _, halert⟩
      · exact .inl hdisabled
      · exact .inr (.inl (storeHolds_of_trusted htrusted))
      · exact .inr (.inr (.inl ⟨halert, hprompted⟩))
    · simp [PassesUnasked, henabled, hmismatch]

end Decision

end WebSsh2.HostKey

namespace WebSsh2.HostKey.PendingKeys

open WebSsh2.Library WebSsh2.Library.Run

-- The verifications of one socket, in the order in which they were begun.
abbrev Pending := List Verification

-- What happens on the socket: an attempt whose host presents a key, an answer of the
-- client with the prompt that it is meant for, the end of the socket, and the timer
-- of one attempt.
inductive SocketEvent where
  | present (host : JsString) (port : Nat) (key : KeyBlob)
  | response (answered : Nat) (payload : JsValue)
  | disconnect
  | timeout (index : Nat)
deriving DecidableEq

section Socket

variable (sha256 : KeyBlob → KeyBlob) (databases : Databases) (service : HostKeyService)

-- Every verification that listens hears the answer; nothing in it names a prompt.
def step (pending : Pending) : SocketEvent → Pending
  | .present host port key =>
    pending ++ [createHostKeyVerifier sha256 databases service host port key]
  | .response _ payload => pending.map fun verification => verification.step (.response payload)
  | .disconnect => pending.map fun verification => verification.step .disconnect
  | .timeout index => pending.modify index fun verification => verification.step .timeout

end Socket

def verdictsAt (pending : Pending) (index : Nat) : Option (List Bool) :=
  pending[index]?.map Verification.verdicts

-- An answer settles no verification but the one whose prompt the user answered.
def SettlesOnlyAnswered (step : Pending → SocketEvent → Pending) (pending : Pending) :
    SocketEvent → Prop
  | .response answered payload =>
    ∀ index, index ≠ answered →
      verdictsAt (step pending (.response answered payload)) index = verdictsAt pending index
  | _ => True

-- No other prompt waits when a prompt is answered.
def NoOtherWaits (pending : Pending) : SocketEvent → Prop
  | .response answered _ =>
    ∀ index, index ≠ answered → ∀ verification ∈ pending[index]?,
      verification.responseListener = false
  | _ => True

theorem verdicts_response_iff (verification : Verification) (payload : JsValue) :
    (verification.step (.response payload)).verdicts = verification.verdicts ↔
      verification.responseListener = false := by
  cases hlistener : verification.responseListener with
  | false => simp [Verification.step, hlistener]
  | true =>
    simp only [Verification.step, hlistener, if_pos, Verification.handler]
    split
    · simp [Verification.verify, Verification.cleanup]
    · split <;> simp [Verification.verify, Verification.emit, Verification.cleanup]

section Runs

variable {sha256 : KeyBlob → KeyBlob} {databases : Databases} {service : HostKeyService}

theorem settlesOnlyAnswered_iff (pending : Pending) (event : SocketEvent) :
    SettlesOnlyAnswered (step sha256 databases service) pending event ↔
      NoOtherWaits pending event := by
  cases event with
  | present host port key => exact Iff.rfl
  | response answered payload =>
    refine forall_congr' fun index => imp_congr_right fun _ => ?_
    unfold verdictsAt step
    rw [List.getElem?_map]
    cases hindex : pending[index]? with
    | none => simp
    | some verification => simpa using verdicts_response_iff verification payload
  | disconnect => exact Iff.rfl
  | timeout index => exact Iff.rfl

end Runs

-- In every run on one socket, each answer settles only the verification it is meant
-- for exactly when no other one waits at any answer.
theorem settles_only_answered_along_iff (sha256 : KeyBlob → KeyBlob) (databases : Databases)
    (service : HostKeyService) (events : List SocketEvent) :
    Along (step sha256 databases service)
        (SettlesOnlyAnswered (step sha256 databases service)) [] events ↔
      Along (step sha256 databases service) NoOtherWaits [] events := by
  constructor
  · exact fun h => along_mono (fun pending event => (settlesOnlyAnswered_iff pending event).mp) h
  · exact fun h => along_mono (fun pending event => (settlesOnlyAnswered_iff pending event).mpr) h

-- A service that asks the client about every key.
def asking : HostKeyService :=
  HostKeyService.create {
    enabled := true
    mode := .client
    unknownKeyAction := .prompt
    serverStore := { enabled := false, dbPath := [] }
    clientStore := { enabled := true } }

-- Two hosts present their keys; the user accepts the first, and both pass.
theorem one_answer_settles_two :
    ¬ ∀ sha256 databases service events,
      Along (step sha256 databases service)
        (SettlesOnlyAnswered (step sha256 databases service)) [] events := by
  intro h
  have hrun := h id (fun _ => none) asking
    [.present (js "a.example") 22 [0, 0, 0, 1, 97], .present (js "b.example") 22 [0, 0, 0, 1, 98],
      .response 0 (some (.object [(js "action", .string (js "accept"))]))]
  have hother := (hrun.2.2.1 : _) 1 (by decide)
  revert hother
  decide

end WebSsh2.HostKey.PendingKeys

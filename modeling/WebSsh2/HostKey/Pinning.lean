import WebSsh2.HostKey.Verifier

namespace WebSsh2.HostKey

open WebSsh2.Library WebSsh2.Library.Run

section Pinning

-- Names as DNS compares them: letters of either case are one.
def foldCase (name : JsString) : JsString :=
  name.map fun unit => if 65 ≤ unit && unit ≤ 90 then unit + 32 else unit

abbrev SameHost (first second : JsString) : Prop :=
  foldCase first = foldCase second

-- The open database of the server store.
def OpenedDb (databases : Databases) (service : HostKeyService) (db : HostKeyTable) : Prop :=
  ∃ dbPath ∈ service.store, databases dbPath = some db

-- The store has keys for the host and port, and the presented one is none of them.
structure PinnedElsewhere (same : JsString → JsString → Prop) (db : HostKeyTable)
    (host : JsString) (port : Nat) (key : KeyBlob) : Prop where
  pinned : ∃ id row, db.get id = some row ∧ same id.host host ∧ id.port = port
  other : ∀ id row, db.get id = some row → same id.host host → id.port = port →
    row.key ≠ Base64.encode key

-- No run of events lets the key pass but by an answer that accepts it.
def PassesOnlyAccepted (sha256 : KeyBlob → KeyBlob) (databases : Databases)
    (service : HostKeyService) (host : JsString) (port : Nat) (key : KeyBlob) : Prop :=
  ∀ events, true ∈ (run Verification.step
      (createHostKeyVerifier sha256 databases service host port key) events).verdicts →
    ∃ payload rest, events = .response payload :: rest ∧ acceptsKey payload = true

variable {databases : Databases} {service : HostKeyService} {db : HostKeyTable}
  {host : JsString} {port : Nat} {key : KeyBlob}

theorem passesOnlyAccepted_iff (sha256 : KeyBlob → KeyBlob) :
    PassesOnlyAccepted sha256 databases service host port key ↔
      ¬ PassesUnasked databases service host port key := by
  by_cases hasks : AsksClient databases service host port key
  · have hunasked : ¬ PassesUnasked databases service host port key := by
      obtain ⟨henabled, hstatus, hask⟩ := hasks
      rintro (hdisabled | htrusted | ⟨_, hclient, halert⟩)
      · cases henabled.symm.trans hdisabled
      · cases hstatus.symm.trans htrusted
      · rcases hask with hclient' | hprompt
        · cases hclient.symm.trans hclient'
        · cases hprompt.symm.trans halert
    refine iff_of_true (fun events htrue => ?_) hunasked
    rw [verdicts_run, if_pos hasks] at htrue
    cases events with
    | nil => cases htrue
    | cons event rest =>
      have haccepts : event.accepts = true := by simpa using htrue
      cases event with
      | response payload => exact ⟨payload, rest, rfl, haccepts⟩
      | disconnect => cases haccepts
      | timeout => cases haccepts
  · constructor
    · intro hpasses hunasked
      have htrue : true ∈ (run Verification.step
          (createHostKeyVerifier sha256 databases service host port key) []).verdicts := by
        rw [verdicts_run, if_neg hasks]
        simp [hunasked]
      obtain ⟨payload, rest, heq, _⟩ := hpasses [] htrue
      cases heq
    · intro hunasked events htrue
      rw [verdicts_run, if_neg hasks] at htrue
      exact absurd (by simpa using htrue) hunasked

-- With a pinned host the store never finds the key, and finds another one only under
-- the very type.
theorem serverStatus_of_pinned (hserver : service.serverStoreEnabled = true)
    (hopened : OpenedDb databases service db) (hpinned : PinnedElsewhere Eq db host port key) :
    serverStatus databases service host port key =
      if (db.get ⟨host, port, extractAlgorithm key⟩).isSome then .mismatch else .unknown := by
  obtain ⟨dbPath, hpath, hdb⟩ := hopened
  have hstore : service.store = some dbPath := hpath
  unfold serverStatus HostKeyService.serverLookup HostKeyStore.lookup HostKeyStore.create
  rw [if_pos hserver, hstore]
  simp only [hdb]
  cases hrow : db.get ⟨host, port, extractAlgorithm key⟩ with
  | none => rfl
  | some row =>
    have hother := hpinned.other _ row hrow rfl rfl
    simp [hother]

-- A host that is pinned under its name is let through unasked exactly where its key is
-- not asked for at all, or where the store has nothing of the type that the peer gives,
-- no client store is used and unknown keys are only alerted to.
theorem pinned_passesOnlyAccepted_iff (sha256 : KeyBlob → KeyBlob) (databases : Databases)
    (service : HostKeyService) (db : HostKeyTable) (host : JsString) (port : Nat) (key : KeyBlob)
    (hserver : service.serverStoreEnabled = true) (hopened : OpenedDb databases service db)
    (hpinned : PinnedElsewhere Eq db host port key) :
    PassesOnlyAccepted sha256 databases service host port key ↔
      service.isEnabled = true ∧
        ((db.get ⟨host, port, extractAlgorithm key⟩).isSome ∨
          service.clientStoreEnabled = true ∨ service.unknownKeyAction ≠ .alert) := by
  rw [passesOnlyAccepted_iff]
  unfold PassesUnasked
  rw [serverStatus_of_pinned hserver hopened hpinned]
  cases hrow : (db.get ⟨host, port, extractAlgorithm key⟩).isSome with
  | true => simp
  | false =>
    by_cases hclient : service.clientStoreEnabled = true
    · simp [hclient]
    · simp [hclient]

end Pinning

section Impersonation

def alerting : HostKeyService :=
  HostKeyService.create {
    enabled := true
    mode := .server
    unknownKeyAction := .alert
    serverStore := { enabled := true, dbPath := js "/data/hostkeys.db" }
    clientStore := { enabled := false } }

-- A key of a type, with one octet behind the name of the type.
def keyOfType (name : List UInt8) (octet : UInt8) : KeyBlob :=
  [0, 0, 0, name.length.toUInt8] ++ name ++ [octet]

def sshEd25519 : List UInt8 := [115, 115, 104, 45, 101, 100, 50, 53, 53, 49, 57]

def sshRsa : List UInt8 := [115, 115, 104, 45, 114, 115, 97]

def pinnedDb : HostKeyTable :=
  upsertKey .empty (js "db.example") 22 (js "ssh-ed25519")
    (Base64.encode (keyOfType sshEd25519 7)) none

def oneDatabase : Databases :=
  fun _ => some pinnedDb

theorem get_pinnedDb {id : HostKeyId} {row : HostKeyRow} (h : pinnedDb.get id = some row) :
    row.key = Base64.encode (keyOfType sshEd25519 7) := by
  unfold pinnedDb upsertKey at h
  rw [OrderedMap.get_set] at h
  split at h
  · cases h
    rfl
  · cases h

theorem pinnedElsewhere_of_ne {same : JsString → JsString → Prop} {host : JsString}
    {key : KeyBlob} (hsame : same (js "db.example") host)
    (h : Base64.encode (keyOfType sshEd25519 7) ≠ Base64.encode key) :
    PinnedElsewhere same pinnedDb host 22 key where
  pinned := ⟨⟨js "db.example", 22, js "ssh-ed25519"⟩, _, OrderedMap.get_set_self _ _ _, hsame, rfl⟩
  other id row hrow _ _ := by
    rw [get_pinnedDb hrow]
    exact h

theorem openedDb_alerting : OpenedDb oneDatabase alerting pinnedDb :=
  ⟨js "/data/hostkeys.db", rfl, rfl⟩

-- Another key of the pinned type is refused.
theorem other_key_of_pinned_type_refused :
    PassesOnlyAccepted id oneDatabase alerting (js "db.example") 22 (keyOfType sshEd25519 8) :=
  (pinned_passesOnlyAccepted_iff id oneDatabase alerting pinnedDb (js "db.example") 22
    (keyOfType sshEd25519 8) rfl openedDb_alerting
    (pinnedElsewhere_of_ne rfl (by decide))).mpr ⟨rfl, .inl (by decide)⟩

-- A key of another type passes with an alert, and so does a key of the very type where
-- the name is written in capitals.
theorem pinned_host_impersonated :
    OpenedDb oneDatabase alerting pinnedDb ∧ alerting.serverStoreEnabled = true ∧
    (PinnedElsewhere SameHost pinnedDb (js "db.example") 22 (keyOfType sshRsa 9) ∧
      ¬ PassesOnlyAccepted id oneDatabase alerting (js "db.example") 22 (keyOfType sshRsa 9)) ∧
    (PinnedElsewhere SameHost pinnedDb (js "DB.example") 22 (keyOfType sshEd25519 8) ∧
      ¬ PassesOnlyAccepted id oneDatabase alerting (js "DB.example") 22
        (keyOfType sshEd25519 8)) := by
  refine ⟨openedDb_alerting, rfl, ⟨pinnedElsewhere_of_ne rfl (by decide), fun hpasses => ?_⟩,
    pinnedElsewhere_of_ne (by decide) (by decide), fun hpasses => ?_⟩
  · obtain ⟨payload, rest, heq, _⟩ := hpasses [] (by decide)
    cases heq
  · obtain ⟨payload, rest, heq, _⟩ := hpasses [] (by decide)
    cases heq

end Impersonation

end WebSsh2.HostKey

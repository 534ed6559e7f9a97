import WebSsh2.Library.Run
import WebSsh2.Sftp.TransferManager

namespace WebSsh2.Sftp

open WebSsh2.Library WebSsh2.State

namespace TransferManager

inductive Operation where
  | startTransfer (params : StartTransferParams) (now : Time)
  | activateTransfer (transferId : TransferId) (now : Time)
  | updateProgress (transferId : TransferId) (chunkIndex : Number) (bytesReceived : Nat)
      (now : Time)
  | completeTransfer (transferId : TransferId) (now : Time)
  | cancelTransfer (transferId : TransferId)
  | failTransfer (transferId : TransferId)
  | pauseTransfer (transferId : TransferId)
  | resumeTransfer (transferId : TransferId) (now : Time)
  | cancelSessionTransfers (sessionId : SessionId)
  | clear

variable (runtime : Runtime)

def perform (manager : TransferManager) : Operation → TransferManager
  | .startTransfer params now =>
    match manager.startTransfer runtime params now with
    | .error _ => manager
    | .ok started => started
  | .activateTransfer transferId now => (manager.activateTransfer transferId now).1
  | .updateProgress transferId chunkIndex bytesReceived now =>
    (manager.updateProgress runtime transferId chunkIndex bytesReceived now).1
  | .completeTransfer transferId now => (manager.completeTransfer transferId now).1
  | .cancelTransfer transferId => manager.cancelTransfer transferId
  | .failTransfer transferId => (manager.failTransfer transferId).1
  | .pauseTransfer transferId => (manager.pauseTransfer transferId).1
  | .resumeTransfer transferId now => (manager.resumeTransfer transferId now).1
  | .cancelSessionTransfers sessionId => manager.cancelSessionTransfers sessionId
  | .clear => manager.clear

def store (manager : TransferManager) (transferId : TransferId) (transfer : ManagedTransfer) :
    TransferManager :=
  { manager with transfers := manager.transfers.set transferId transfer }

def keepOnly (manager : TransferManager) (keep : TransferId → ManagedTransfer → Bool) :
    TransferManager :=
  { manager with transfers := manager.transfers.filter keep }

variable (transfer : ManagedTransfer)

def activated (now : Time) : ManagedTransfer :=
  { transfer with status := .active, lastChunkAt := now }

def updated (bytesReceived : Nat) (now : Time) : ManagedTransfer :=
  { transfer with
    bytesTransferred := transfer.bytesTransferred.add (.ofInt bytesReceived)
    lastChunkAt := now
    nextChunkIndex := transfer.nextChunkIndex + 1
    rateLimiter := (transfer.rateLimiter.checkAndUpdate bytesReceived now).1 }

def paused : ManagedTransfer :=
  { transfer with status := .paused, rateLimiter := transfer.rateLimiter.pause }

def resumed (now : Time) : ManagedTransfer :=
  { transfer with status := .active, rateLimiter := transfer.rateLimiter.resume now }

-- What an operation can do to the transfers, with the guards it does it under.
inductive Change (manager : TransferManager) : Operation → TransferManager → Prop where
  | same (operation : Operation) : Change manager operation manager
  | started (params : StartTransferParams) (now : Time) (transfer : ManagedTransfer)
      (hbelow : manager.maxConcurrent.le (.ofInt (manager.getActiveCount params.sessionId)) = false)
      (hnew : manager.transfers.get params.transferId = none)
      (hsession : transfer.sessionId = params.sessionId) :
      Change manager (.startTransfer params now) (manager.store params.transferId transfer)
  | activated (transferId : TransferId) (now : Time) (transfer : ManagedTransfer)
      (hget : manager.transfers.get transferId = some transfer)
      (hpending : transfer.status = .pending) :
      Change manager (.activateTransfer transferId now)
        (manager.store transferId (activated transfer now))
  | updated (transferId : TransferId) (bytesReceived : Nat) (now : Time)
      (transfer : ManagedTransfer) (hget : manager.transfers.get transferId = some transfer)
      (hactive : transfer.status = .active) :
      Change manager
        (.updateProgress transferId (.ofInt transfer.nextChunkIndex) bytesReceived now)
        (manager.store transferId (updated transfer bytesReceived now))
  | paused (transferId : TransferId) (transfer : ManagedTransfer)
      (hget : manager.transfers.get transferId = some transfer)
      (hactive : transfer.status = .active) :
      Change manager (.pauseTransfer transferId) (manager.store transferId (paused transfer))
  | resumed (transferId : TransferId) (now : Time) (transfer : ManagedTransfer)
      (hget : manager.transfers.get transferId = some transfer)
      (hpaused : transfer.status = .paused) :
      Change manager (.resumeTransfer transferId now)
        (manager.store transferId (resumed transfer now))
  | removed (operation : Operation) (keep : TransferId → ManagedTransfer → Bool) :
      Change manager operation (manager.keepOnly keep)

theorem change_perform (manager : TransferManager) (operation : Operation) :
    Change manager operation (manager.perform runtime operation) := by
  cases operation with
  | startTransfer params now =>
    simp only [perform, startTransfer]
    by_cases hfull : manager.maxConcurrent.le
        (.ofInt (manager.getActiveCount params.sessionId)) = true
    · rw [if_pos hfull]
      exact .same _
    · rw [if_neg hfull]
      by_cases hexists : (manager.transfers.get params.transferId).isSome = true
      · rw [if_pos hexists]
        exact .same _
      · rw [if_neg hexists]
        exact .started params now _ (by simpa using hfull) (by simpa using hexists) rfl
  | activateTransfer transferId now =>
    simp only [perform, activateTransfer]
    cases hget : manager.transfers.get transferId with
    | none => exact .same _
    | some transfer =>
      dsimp only
      by_cases hpending : transfer.status = .pending
      · rw [if_neg (not_not_intro hpending)]
        exact .activated transferId now transfer hget hpending
      · rw [if_pos hpending]
        exact .same _
  | updateProgress transferId chunkIndex bytesReceived now =>
    simp only [perform, updateProgress]
    cases hget : manager.transfers.get transferId with
    | none => exact .same _
    | some transfer =>
      dsimp only
      by_cases hactive : transfer.status = .active
      · by_cases hindex : chunkIndex = .ofInt transfer.nextChunkIndex
        · subst hindex
          rw [if_neg (not_not_intro hactive), if_neg (not_not_intro rfl)]
          exact .updated transferId bytesReceived now transfer hget hactive
        · rw [if_neg (not_not_intro hactive), if_pos hindex]
          exact .same _
      · rw [if_pos hactive]
        exact .same _
  | completeTransfer transferId now =>
    simp only [perform, completeTransfer]
    cases manager.transfers.get transferId with
    | none => exact .same _
    | some transfer => exact .removed _ fun key _ => key ≠ transferId
  | cancelTransfer transferId => exact .removed _ fun key _ => key ≠ transferId
  | failTransfer transferId =>
    simp only [perform, failTransfer]
    cases manager.transfers.get transferId with
    | none => exact .same _
    | some transfer => exact .removed _ fun key _ => key ≠ transferId
  | pauseTransfer transferId =>
    simp only [perform, pauseTransfer]
    cases hget : manager.transfers.get transferId with
    | none => exact .same _
    | some transfer =>
      dsimp only
      by_cases hactive : transfer.status = .active
      · rw [if_neg (not_not_intro hactive)]
        exact .paused transferId transfer hget hactive
      · rw [if_pos hactive]
        exact .same _
  | resumeTransfer transferId now =>
    simp only [perform, resumeTransfer]
    cases hget : manager.transfers.get transferId with
    | none => exact .same _
    | some transfer =>
      dsimp only
      by_cases hpaused : transfer.status = .paused
      · rw [if_neg (not_not_intro hpaused)]
        exact .resumed transferId now transfer hget hpaused
      · rw [if_pos hpaused]
        exact .same _
  | cancelSessionTransfers sessionId => exact .removed _ _
  | clear =>
    have hempty : manager.clear = manager.keepOnly fun _ _ => false := by
      unfold clear keepOnly
      congr 1
      exact OrderedMap.ext (by simp [OrderedMap.filter, OrderedMap.filterEntries,
        OrderedMap.empty])
    rw [perform, hempty]
    exact .removed _ _

theorem perform_maxConcurrent (manager : TransferManager) (operation : Operation) :
    (manager.perform runtime operation).maxConcurrent = manager.maxConcurrent := by
  have hchange := change_perform runtime manager operation
  generalize manager.perform runtime operation = after at hchange
  cases hchange <;> rfl

theorem perform_resume {manager : TransferManager} {transferId : TransferId}
    {transfer : ManagedTransfer} (hget : manager.transfers.get transferId = some transfer)
    (hpaused : transfer.status = .paused) (now : Time) :
    manager.perform runtime (.resumeTransfer transferId now) =
      manager.store transferId (resumed transfer now) := by
  simp only [perform, resumeTransfer]
  rw [hget]
  exact congrArg Prod.fst (if_neg (not_not_intro hpaused))

def WithinLimit (manager : TransferManager) : Prop :=
  ∀ sessionId, (Number.ofInt (manager.getActiveCount sessionId)).le manager.maxConcurrent = true

-- A paused transfer is resumed only where its session could start another one.
def ResumesWithinLimit (manager : TransferManager) : Operation → Prop
  | .resumeTransfer transferId _ =>
    ∀ transfer, manager.transfers.get transferId = some transfer →
      transfer.status = .paused → manager.canStartTransfer transfer.sessionId = true
  | _ => True

section Limit

variable {manager : TransferManager} {limit : Nat}

variable (sessionId : SessionId)

-- What a transfer adds to the count of a session.
def occupies (transfer : ManagedTransfer) : Bool :=
  transfer.sessionId = sessionId && (transfer.status = .pending || transfer.status = .active)

def occupied (transfer : Option ManagedTransfer) : Nat :=
  (transfer.map fun transfer => if occupies sessionId transfer then 1 else 0).getD 0

theorem getActiveCount_store (manager : TransferManager) (transferId : TransferId)
    (transfer : ManagedTransfer) (sessionId : SessionId) :
    (manager.store transferId transfer).getActiveCount sessionId +
        occupied sessionId (manager.transfers.get transferId) =
      manager.getActiveCount sessionId + occupied sessionId (some transfer) :=
  OrderedMap.countP_setEntries (fun entry => occupies sessionId entry.2) transferId transfer
    manager.transfers.entries

theorem occupied_self (transfer : ManagedTransfer)
    (h : transfer.status = .pending ∨ transfer.status = .active) :
    occupied transfer.sessionId (some transfer) = 1 := by
  simp [occupied, occupies, h]

theorem occupied_other {transfer : ManagedTransfer} {sessionId : SessionId}
    (h : transfer.sessionId ≠ sessionId) : occupied sessionId (some transfer) = 0 := by
  simp [occupied, occupies, h]

theorem occupied_paused {transfer : ManagedTransfer} (h : transfer.status = .paused)
    (sessionId : SessionId) : occupied sessionId (some transfer) = 0 := by
  simp [occupied, occupies, h]

theorem occupied_le (transfer : Option ManagedTransfer) : occupied sessionId transfer ≤ 1 := by
  unfold occupied
  cases transfer with
  | none => exact Nat.zero_le 1
  | some transfer =>
    simp only [Option.map_some, Option.getD_some]
    split <;> omega

theorem withinLimit_iff (hlimit : manager.maxConcurrent = .ofInt limit) :
    manager.WithinLimit ↔ ∀ sessionId, manager.getActiveCount sessionId ≤ limit := by
  unfold WithinLimit
  rw [hlimit]
  simp only [Number.ofInt_le, decide_eq_true_eq, Nat.cast_le]

theorem canStartTransfer_iff (hlimit : manager.maxConcurrent = .ofInt limit)
    (sessionId : SessionId) :
    manager.canStartTransfer sessionId = true ↔ manager.getActiveCount sessionId < limit := by
  unfold canStartTransfer
  rw [hlimit, Number.ofInt_lt, decide_eq_true_eq, Nat.cast_lt]

variable {transferId : TransferId}

-- A transfer whose session has room is put in the place of one that took none.
theorem withinLimit_store (hlimit : manager.maxConcurrent = .ofInt limit)
    (hinv : manager.WithinLimit) {transfer : ManagedTransfer}
    (hroom : manager.getActiveCount transfer.sessionId < limit) :
    (manager.store transferId transfer).WithinLimit := by
  rw [withinLimit_iff hlimit] at hinv
  refine (withinLimit_iff (show (manager.store transferId transfer).maxConcurrent = _ from
    hlimit)).mpr ?_
  intro sessionId
  have hcount := getActiveCount_store manager transferId transfer sessionId
  have hold := hinv sessionId
  by_cases hsame : transfer.sessionId = sessionId
  · have hone := occupied_le sessionId (some transfer)
    rw [hsame] at hroom
    omega
  · have hzero := occupied_other hsame
    omega

-- A transfer is replaced by one that occupies no more than it did.
theorem withinLimit_replace (hlimit : manager.maxConcurrent = .ofInt limit)
    (hinv : manager.WithinLimit) {old transfer : ManagedTransfer}
    (hget : manager.transfers.get transferId = some old)
    (h : ∀ sessionId, occupied sessionId (some transfer) ≤ occupied sessionId (some old)) :
    (manager.store transferId transfer).WithinLimit := by
  rw [withinLimit_iff hlimit] at hinv
  refine (withinLimit_iff (show (manager.store transferId transfer).maxConcurrent = _ from
    hlimit)).mpr ?_
  intro sessionId
  have hcount := getActiveCount_store manager transferId transfer sessionId
  rw [hget] at hcount
  have hle := h sessionId
  have hold := hinv sessionId
  omega

-- Only a resumed transfer can take a place that its session does not have.
theorem resume_within_iff (hlimit : manager.maxConcurrent = .ofInt limit)
    (hinv : manager.WithinLimit) {transfer : ManagedTransfer}
    (hget : manager.transfers.get transferId = some transfer) (hpaused : transfer.status = .paused)
    (now : Time) :
    (manager.store transferId (resumed transfer now)).WithinLimit ↔
      manager.canStartTransfer transfer.sessionId = true := by
  rw [canStartTransfer_iff hlimit]
  constructor
  · intro hall
    have hcount := getActiveCount_store manager transferId (resumed transfer now)
      transfer.sessionId
    rw [hget, occupied_paused hpaused] at hcount
    have hone : occupied transfer.sessionId (some (resumed transfer now)) = 1 :=
      occupied_self (resumed transfer now) (.inr rfl)
    have hle := (withinLimit_iff (show (manager.store transferId
      (resumed transfer now)).maxConcurrent = _ from hlimit)).mp hall transfer.sessionId
    omega
  · exact fun hroom => withinLimit_store hlimit hinv hroom

theorem change_within (hlimit : manager.maxConcurrent = .ofInt limit)
    (hinv : manager.WithinLimit) {operation : Operation} {after : TransferManager}
    (hchange : Change manager operation after) (hresumes : manager.ResumesWithinLimit operation) :
    after.WithinLimit := by
  cases hchange with
  | same _ => exact hinv
  | started params now transfer hbelow hnew hsession =>
    refine withinLimit_store hlimit hinv ?_
    rw [hlimit, Number.ofInt_le, decide_eq_false_iff_not, Nat.cast_le] at hbelow
    rw [hsession]
    exact Nat.lt_of_not_le hbelow
  | activated transferId now transfer hget hpending =>
    refine withinLimit_replace hlimit hinv hget ?_
    intro sessionId
    by_cases hsame : transfer.sessionId = sessionId
    · subst hsame
      rw [occupied_self transfer (.inl hpending)]
      exact occupied_le _ _
    · exact le_of_eq_of_le (@occupied_other (activated transfer now) sessionId hsame)
        (Nat.zero_le _)
  | updated transferId bytesReceived now transfer hget hactive =>
    exact withinLimit_replace hlimit hinv hget fun _ => Nat.le_refl _
  | paused transferId transfer hget hactive =>
    refine withinLimit_replace hlimit hinv hget ?_
    intro sessionId
    rw [@occupied_paused (paused transfer) rfl]
    exact Nat.zero_le _
  | resumed transferId now transfer hget hpaused =>
    exact (resume_within_iff hlimit hinv hget hpaused now).mpr (hresumes transfer hget hpaused)
  | removed _ keep =>
    rw [withinLimit_iff hlimit] at hinv
    refine (withinLimit_iff (show (manager.keepOnly keep).maxConcurrent = _ from hlimit)).mpr ?_
    intro sessionId
    exact le_trans (OrderedMap.countP_filterEntries_le _ _ _) (hinv sessionId)

theorem perform_within_iff (runtime : Runtime) (hlimit : manager.maxConcurrent = .ofInt limit)
    (hinv : manager.WithinLimit) (operation : Operation) :
    (manager.perform runtime operation).WithinLimit ↔ manager.ResumesWithinLimit operation := by
  constructor
  · intro hafter
    unfold ResumesWithinLimit
    split
    · intro transfer hget hpaused
      rw [perform_resume runtime hget hpaused] at hafter
      exact (resume_within_iff hlimit hinv hget hpaused _).mp hafter
    · trivial
  · exact change_within hlimit hinv (change_perform runtime manager operation)

end Limit

-- No session has more transfers than the limit allows, in every state of a run, exactly when
-- no transfer is resumed while its session is at the limit.
theorem concurrent_transfers_limited_iff (runtime : Runtime) (limit : Nat)
    (defaultRateLimitBytesPerSec : Number) (operations : List Operation) :
    Run.Throughout (perform runtime) WithinLimit
        (TransferManager.new (.ofInt limit) defaultRateLimitBytesPerSec) operations ↔
      Run.Along (perform runtime) ResumesWithinLimit
        (TransferManager.new (.ofInt limit) defaultRateLimitBytesPerSec) operations := by
  refine @Run.throughout_iff_along _ _ _ (fun manager => manager.maxConcurrent = .ofInt limit)
    _ _ ?_ ?_ _ rfl ?_ operations
  · intro manager operation hlimit
    rw [perform_maxConcurrent, hlimit]
  · intro manager operation hlimit hinv
    exact perform_within_iff runtime hlimit hinv operation
  · refine (withinLimit_iff rfl).mpr ?_
    exact fun sessionId => Nat.zero_le limit

section Sample

def sampleUpload (transferId : TransferId) : StartTransferParams where
  transferId
  sessionId := js "session"
  direction := .upload
  remotePath := js "/tmp/notes.txt"
  fileName := js "notes.txt"
  totalBytes := .ofInt 10
  rateLimitBytesPerSec := none

-- A second transfer is started while the first is paused, and then the first goes on.
def pausedThenResumed : List Operation := [
  .startTransfer (sampleUpload (js "first")) 0, .activateTransfer (js "first") 1,
  .pauseTransfer (js "first"), .startTransfer (sampleUpload (js "second")) 2,
  .resumeTransfer (js "first") 3]

theorem resumed_over_limit :
    ¬Run.Throughout (perform asciiRuntime) WithinLimit (TransferManager.new (.ofInt 1) (.ofInt 0))
      pausedThenResumed := by
  intro h
  have hlast := Run.throughout_last _ h (js "session")
  revert hlast
  decide

end Sample

end TransferManager

end WebSsh2.Sftp

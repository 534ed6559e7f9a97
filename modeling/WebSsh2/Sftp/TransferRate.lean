import WebSsh2.Library.Run
import WebSsh2.Sftp.TransferManager

namespace WebSsh2.Sftp

open WebSsh2.Library WebSsh2.State

namespace TransferRate

structure Chunk where
  chunkIndex : Number
  bytes : Nat
  receivedAt : Time

section Reception

variable (runtime : Runtime) (transferId : TransferId)

def receive (manager : TransferManager) (chunk : Chunk) : TransferManager :=
  (manager.updateProgress runtime transferId chunk.chunkIndex chunk.bytes chunk.receivedAt).1

-- A chunk that is accepted is one that the limiter of the transfer admits.
def admitsAccepted (manager : TransferManager) (chunk : Chunk) : Bool :=
  match manager.transfers.get transferId, (manager.updateProgress runtime transferId
      chunk.chunkIndex chunk.bytes chunk.receivedAt).2 with
  | some transfer, .ok _ =>
    (transfer.rateLimiter.checkAndUpdate chunk.bytes chunk.receivedAt).2.allowed
  | _, _ => true

def countersAgree (manager : TransferManager) : Bool :=
  (manager.transfers.get transferId).all fun transfer =>
    transfer.bytesTransferred = transfer.rateLimiter.totalBytes

end Reception

-- The chunks that carry the next index when they come.
def inOrder : Nat → List Chunk → List Chunk
  | _, [] => []
  | next, chunk :: rest =>
    if chunk.chunkIndex = .ofInt next then chunk :: inOrder (next + 1) rest
    else inOrder next rest

-- A window lasts a second. The next one begins with the first chunk after that.
structure Window where
  start : Time
  bytes : Nat

def Window.next (window : Window) (chunk : Chunk) : Window :=
  if 1000 ≤ chunk.receivedAt - window.start then ⟨chunk.receivedAt, chunk.bytes⟩
  else ⟨window.start, window.bytes + chunk.bytes⟩

def Window.fits (limit : Number) (window : Window) (chunk : Chunk) : Bool :=
  (Number.ofInt (window.next chunk).bytes).le limit

-- An active transfer whose limiter stands in the given window.
structure Receiving (transferId : TransferId) (limit : Number) (next : Nat) (window : Window)
    (manager : TransferManager) (transfer : ManagedTransfer) : Prop where
  tracked : manager.transfers.get transferId = some transfer
  active : transfer.status = .active
  next : transfer.nextChunkIndex = next
  limit : transfer.rateLimiter.bytesPerSecond = limit
  windowMs : transfer.rateLimiter.windowMs = .ofInt 1000
  start : transfer.rateLimiter.windowStart = window.start
  bytes : transfer.rateLimiter.bytesInWindow = .ofInt window.bytes
  agree : transfer.bytesTransferred = transfer.rateLimiter.totalBytes

section Steps

variable {runtime : Runtime} {transferId : TransferId} {limit : Number} {next : Nat}
  {window : Window} {manager : TransferManager} {transfer : ManagedTransfer} {chunk : Chunk}

theorem le_zero_of_lt {limit : Number} (hlimit : (Number.ofInt 0).lt limit = true) :
    limit.le (.ofInt 0) = false := by
  cases limit with
  | nan => cases hlimit
  | infinity negative =>
    cases negative with
    | true => cases hlimit
    | false => rfl
  | finite value =>
    show (!(Number.ofInt 0).lt (.finite value)) = false
    rw [hlimit, Bool.not_true]

theorem Receiving.expired_iff (h : Receiving transferId limit next window manager transfer) :
    transfer.rateLimiter.windowMs.le
        (.ofInt (chunk.receivedAt - transfer.rateLimiter.windowStart)) =
      decide (1000 ≤ chunk.receivedAt - window.start) := by
  rw [h.windowMs, h.start, Number.ofInt_le]

-- The limiter admits what still fits into its window, and counts it.
theorem Receiving.allowed (h : Receiving transferId limit next window manager transfer)
    (hlimit : (Number.ofInt 0).lt limit = true) :
    (transfer.rateLimiter.checkAndUpdate chunk.bytes chunk.receivedAt).2.allowed =
      window.fits limit chunk := by
  rw [RateLimiter.checkAndUpdate_allowed]
  unfold RateLimiter.wouldAllow Window.fits Window.next
  rw [h.expired_iff, h.limit, le_zero_of_lt hlimit, h.bytes, Number.ofInt_add]
  by_cases hexpired : 1000 ≤ chunk.receivedAt - window.start
  · simp [hexpired]
  · simp [hexpired]

theorem Receiving.checkAndUpdate (h : Receiving transferId limit next window manager transfer)
    (hlimit : (Number.ofInt 0).lt limit = true) (hfits : window.fits limit chunk = true) :
    (transfer.rateLimiter.checkAndUpdate chunk.bytes chunk.receivedAt).1 =
      { transfer.rateLimiter with
        bytesInWindow := .ofInt (window.next chunk).bytes
        windowStart := (window.next chunk).start
        totalBytes := transfer.rateLimiter.totalBytes.add (.ofInt chunk.bytes) } := by
  unfold Window.fits Window.next at hfits
  unfold RateLimiter.checkAndUpdate Window.next
  dsimp only
  rw [h.expired_iff, h.limit, le_zero_of_lt hlimit]
  by_cases hexpired : 1000 ≤ chunk.receivedAt - window.start
  · rw [if_pos hexpired] at hfits
    simp [hexpired, hfits]
  · rw [if_neg hexpired] at hfits
    have hroom : (Number.ofInt (window.bytes + chunk.bytes)).le limit = true := by
      simpa using hfits
    simp [hexpired, h.limit, h.bytes, h.start, hroom]

theorem Receiving.updateProgress (h : Receiving transferId limit next window manager transfer)
    (hindex : chunk.chunkIndex = .ofInt next) :
    manager.updateProgress runtime transferId chunk.chunkIndex chunk.bytes chunk.receivedAt =
      let updated := { transfer with
        bytesTransferred := transfer.bytesTransferred.add (.ofInt chunk.bytes)
        lastChunkAt := chunk.receivedAt
        nextChunkIndex := transfer.nextChunkIndex + 1
        rateLimiter := (transfer.rateLimiter.checkAndUpdate chunk.bytes chunk.receivedAt).1 }
      ({ manager with transfers := manager.transfers.set transferId updated }, .ok updated) := by
  unfold TransferManager.updateProgress
  rw [h.tracked]
  dsimp only
  rw [if_neg (not_not_intro h.active), if_neg (not_not_intro (hindex.trans (by rw [h.next])))]

theorem Receiving.refused (runtime : Runtime)
    (h : Receiving transferId limit next window manager transfer)
    (hindex : chunk.chunkIndex ≠ .ofInt next) :
    ∃ error, manager.updateProgress runtime transferId chunk.chunkIndex chunk.bytes
      chunk.receivedAt = (manager, .error error) := by
  unfold TransferManager.updateProgress
  rw [h.tracked]
  dsimp only
  rw [if_neg (not_not_intro h.active), if_pos (by rwa [h.next])]
  exact ⟨_, rfl⟩

-- A chunk that fits leaves the limiter in the next window, with both counters moved.
theorem Receiving.receive (runtime : Runtime)
    (h : Receiving transferId limit next window manager transfer)
    (hlimit : (Number.ofInt 0).lt limit = true) (hindex : chunk.chunkIndex = .ofInt next)
    (hfits : window.fits limit chunk = true) :
    ∃ updated, Receiving transferId limit (next + 1) (window.next chunk)
      (receive runtime transferId manager chunk) updated := by
  have hlimiter := h.checkAndUpdate hlimit hfits
  unfold TransferRate.receive
  rw [h.updateProgress hindex]
  dsimp only
  refine ⟨_, OrderedMap.get_set_self _ _ _, h.active, congrArg (· + 1) h.next, ?_, ?_, ?_, ?_, ?_⟩
  · rw [hlimiter, h.limit]
  · rw [hlimiter, h.windowMs]
  · rw [hlimiter]
  · rw [hlimiter]
  · rw [hlimiter, h.agree]

theorem Receiving.countersAgree (h : Receiving transferId limit next window manager transfer) :
    countersAgree transferId manager = true := by
  unfold TransferRate.countersAgree
  rw [h.tracked]
  simp [h.agree]

theorem enforced_iff (hlimit : (Number.ofInt 0).lt limit = true) (chunks : List Chunk)
    (h : Receiving transferId limit next window manager transfer) :
    (Run.Along (receive runtime transferId) (fun manager chunk =>
          admitsAccepted runtime transferId manager chunk = true) manager chunks ∧
        Run.Throughout (receive runtime transferId) (fun manager =>
          countersAgree transferId manager = true) manager chunks) ↔
      Run.Along Window.next (fun window chunk => window.fits limit chunk = true) window
        (inOrder next chunks) := by
  induction chunks generalizing manager transfer next window with
  | nil => exact iff_of_true ⟨trivial, h.countersAgree⟩ trivial
  | cons chunk rest ih =>
    have hagree := h.countersAgree
    by_cases hindex : chunk.chunkIndex = .ofInt next
    · have hadmits : admitsAccepted runtime transferId manager chunk =
          window.fits limit chunk := by
        unfold admitsAccepted
        rw [h.updateProgress hindex, h.tracked]
        exact h.allowed hlimit
      unfold inOrder
      rw [if_pos hindex]
      simp only [Run.Along, Run.Throughout, hadmits]
      constructor
      · rintro ⟨⟨hfits, hadmitted⟩, -, hrest⟩
        obtain ⟨updated, hnext⟩ := h.receive runtime hlimit hindex hfits
        exact ⟨hfits, (ih hnext).mp ⟨hadmitted, hrest⟩⟩
      · rintro ⟨hfits, hpaced⟩
        obtain ⟨updated, hnext⟩ := h.receive runtime hlimit hindex hfits
        obtain ⟨hadmitted, hrest⟩ := (ih hnext).mpr hpaced
        exact ⟨⟨hfits, hadmitted⟩, hagree, hrest⟩
    · obtain ⟨error, hrefused⟩ := h.refused runtime hindex
      have hadmits : admitsAccepted runtime transferId manager chunk = true := by
        unfold admitsAccepted
        rw [hrefused, h.tracked]
      have hsame : receive runtime transferId manager chunk = manager := by
        unfold TransferRate.receive
        rw [hrefused]
      unfold inOrder
      rw [if_neg hindex, ← ih h]
      simp only [Run.Along, Run.Throughout, hadmits, hagree, hsame, true_and]

end Steps

theorem receiving_started {runtime : Runtime} {manager started : TransferManager}
    {params : StartTransferParams} {startedAt : Time}
    (hstart : manager.startTransfer runtime params startedAt = .ok started) (activatedAt : Time) :
    ∃ transfer, Receiving params.transferId
      (params.rateLimitBytesPerSec.getD manager.defaultRateLimitBytesPerSec) 0 ⟨startedAt, 0⟩
      (started.activateTransfer params.transferId activatedAt).1 transfer := by
  unfold TransferManager.startTransfer at hstart
  dsimp only at hstart
  split at hstart
  · cases hstart
  split at hstart
  · cases hstart
  cases hstart
  unfold TransferManager.activateTransfer
  rw [OrderedMap.get_set_self]
  exact ⟨_, OrderedMap.get_set_self _ _ _, rfl, rfl, rfl, rfl, rfl, rfl, rfl⟩

-- Every accepted chunk is admitted by the limiter, and the two counters agree in every
-- state, exactly when no window gets more bytes than a second allows.
theorem rate_limit_enforced_iff {runtime : Runtime} {manager started : TransferManager}
    {params : StartTransferParams} {startedAt : Time} {limit : Number}
    (hstart : manager.startTransfer runtime params startedAt = .ok started)
    (hlimit : params.rateLimitBytesPerSec.getD manager.defaultRateLimitBytesPerSec = limit)
    (hpositive : (Number.ofInt 0).lt limit = true) (activatedAt : Time) (chunks : List Chunk) :
    (Run.Along (receive runtime params.transferId) (fun manager chunk =>
          admitsAccepted runtime params.transferId manager chunk = true)
          (started.activateTransfer params.transferId activatedAt).1 chunks ∧
        Run.Throughout (receive runtime params.transferId) (fun manager =>
          countersAgree params.transferId manager = true)
          (started.activateTransfer params.transferId activatedAt).1 chunks) ↔
      Run.Along Window.next (fun window chunk => window.fits limit chunk = true) ⟨startedAt, 0⟩
        (inOrder 0 chunks) := by
  obtain ⟨transfer, hreceiving⟩ := receiving_started hstart activatedAt
  rw [hlimit] at hreceiving
  exact enforced_iff hpositive chunks hreceiving

section Sample

def limitedUpload : StartTransferParams where
  transferId := js "upload"
  sessionId := js "session"
  direction := .upload
  remotePath := js "/tmp/notes.txt"
  fileName := js "notes.txt"
  totalBytes := .ofInt 20
  rateLimitBytesPerSec := some (.ofInt 10)

def idleManager : TransferManager :=
  TransferManager.new (.ofInt 2) (.ofInt 0)

def startedManager : TransferManager :=
  match idleManager.startTransfer asciiRuntime limitedUpload 0 with
  | .ok started => started
  | .error _ => idleManager

theorem started_idleManager :
    idleManager.startTransfer asciiRuntime limitedUpload 0 = .ok startedManager := rfl

-- Ten bytes in each of two seconds.
theorem spread_chunks_admitted :
    (Number.ofInt 0).lt (.ofInt 10) = true ∧
      Run.Along (receive asciiRuntime (js "upload")) (fun manager chunk =>
          admitsAccepted asciiRuntime (js "upload") manager chunk = true)
          (startedManager.activateTransfer (js "upload") 1).1
          [⟨.ofInt 0, 10, 5⟩, ⟨.ofInt 1, 10, 1005⟩] ∧
        Run.Throughout (receive asciiRuntime (js "upload")) (fun manager =>
          countersAgree (js "upload") manager = true)
          (startedManager.activateTransfer (js "upload") 1).1
          [⟨.ofInt 0, 10, 5⟩, ⟨.ofInt 1, 10, 1005⟩] :=
  ⟨by decide, (rate_limit_enforced_iff started_idleManager rfl (by decide) 1 _).mpr
    (by decide)⟩

-- Eleven bytes in one second: the last one is refused by the limiter and accepted.
theorem burst_not_limited :
    ¬(Run.Along (receive asciiRuntime (js "upload")) (fun manager chunk =>
          admitsAccepted asciiRuntime (js "upload") manager chunk = true)
          (startedManager.activateTransfer (js "upload") 1).1
          [⟨.ofInt 0, 10, 5⟩, ⟨.ofInt 1, 1, 10⟩] ∧
        Run.Throughout (receive asciiRuntime (js "upload")) (fun manager =>
          countersAgree (js "upload") manager = true)
          (startedManager.activateTransfer (js "upload") 1).1
          [⟨.ofInt 0, 10, 5⟩, ⟨.ofInt 1, 1, 10⟩]) := by
  decide +kernel

end Sample

end TransferRate

end WebSsh2.Sftp

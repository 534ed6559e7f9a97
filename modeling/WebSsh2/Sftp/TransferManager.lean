import Mathlib.Data.Rat.Floor
import WebSsh2.State.Types

namespace WebSsh2.Sftp

open WebSsh2.State

structure RateLimiter where
  bytesPerSecond : Number
  windowMs : Number
  bytesInWindow : Number
  windowStart : Time
  paused : Bool
  totalBytes : Number
  startTime : Time

structure RateLimitResult where
  allowed : Bool
  waitMs : Number
  currentRate : Number

def createRateLimiter (bytesPerSecond : Number) (now : Time) : RateLimiter where
  bytesPerSecond
  windowMs := .finite 1000
  bytesInWindow := .finite 0
  windowStart := now
  paused := false
  totalBytes := .finite 0
  startTime := now

def floorOf : Number → Number
  | .finite value => .ofInt ⌊value⌋
  | other => other

def ceilOf : Number → Number
  | .finite value => .ofInt ⌈value⌉
  | other => other

-- `Math.floor((bytes * 1000) / elapsed)`
def bytesPerSecondOver (bytes : Number) (elapsed : Int) : Number :=
  match bytes with
  | .finite count => .ofInt ⌊count * 1000 / elapsed⌋
  | other => other

namespace RateLimiter

variable (limiter : RateLimiter)

def getElapsedMs (now : Time) : Int :=
  now - limiter.startTime

def calculateCurrentRate (now : Time) : Number :=
  let elapsed := limiter.getElapsedMs now
  if elapsed ≤ 0 then .ofInt 0 else bytesPerSecondOver limiter.totalBytes elapsed

-- Bytes are counted as the length of a buffer.
def checkAndUpdate (bytes : Nat) (now : Time) : RateLimiter × RateLimitResult :=
  if limiter.bytesPerSecond.le (.ofInt 0) then
    let limiter := { limiter with totalBytes := limiter.totalBytes.add (.ofInt bytes) }
    (limiter, {
      allowed := true, waitMs := .ofInt 0, currentRate := limiter.calculateCurrentRate now })
  else
    let windowElapsed := now - limiter.windowStart
    let limiter :=
      if limiter.windowMs.le (.ofInt windowElapsed) then
        { limiter with bytesInWindow := .ofInt 0, windowStart := now }
      else
        limiter
    if (limiter.bytesInWindow.add (.ofInt bytes)).le limiter.bytesPerSecond then
      let limiter := { limiter with
        bytesInWindow := limiter.bytesInWindow.add (.ofInt bytes)
        totalBytes := limiter.totalBytes.add (.ofInt bytes) }
      (limiter, {
        allowed := true, waitMs := .ofInt 0, currentRate := limiter.calculateCurrentRate now })
    else
      let waitMs := limiter.windowMs.add (.ofInt (-windowElapsed))
      (limiter, {
        allowed := false
        waitMs := Number.max (.ofInt 1) waitMs
        currentRate := limiter.calculateCurrentRate now })

def wouldAllow (bytes : Nat) (now : Time) : Bool :=
  if limiter.bytesPerSecond.le (.ofInt 0) then
    true
  else if limiter.windowMs.le (.ofInt (now - limiter.windowStart)) then
    (Number.ofInt bytes).le limiter.bytesPerSecond
  else
    (limiter.bytesInWindow.add (.ofInt bytes)).le limiter.bytesPerSecond

def pause : RateLimiter :=
  { limiter with paused := true }

def resume (now : Time) : RateLimiter :=
  { limiter with paused := false, windowStart := now, bytesInWindow := .ofInt 0 }

-- What the limiter lets through is what it says it would let through.
theorem checkAndUpdate_allowed (bytes : Nat) (now : Time) :
    (limiter.checkAndUpdate bytes now).2.allowed = limiter.wouldAllow bytes now := by
  unfold checkAndUpdate wouldAllow
  by_cases hunlimited : limiter.bytesPerSecond.le (.ofInt 0) = true
  · rw [if_pos hunlimited, if_pos hunlimited]
  · rw [if_neg hunlimited, if_neg hunlimited]
    by_cases hexpired : limiter.windowMs.le (.ofInt (now - limiter.windowStart)) = true
    · simp only [hexpired, if_true, Number.ofInt_add, Int.zero_add]
      cases (Number.ofInt bytes).le limiter.bytesPerSecond <;> rfl
    · simp only [hexpired, if_false, Bool.false_eq_true]
      cases (limiter.bytesInWindow.add (.ofInt bytes)).le limiter.bytesPerSecond <;> rfl

end RateLimiter

end WebSsh2.Sftp

namespace WebSsh2.Sftp

open WebSsh2.Library WebSsh2.State

abbrev TransferId := JsString

inductive TransferErrorCode where
  | transferNotFound | maxTransfers | invalidState | chunkMismatch
deriving DecidableEq

structure TransferError where
  code : TransferErrorCode
  message : JsString
  transferId : Option TransferId

inductive TransferDirection where
  | upload | download
deriving DecidableEq

inductive TransferStatus where
  | pending | active | paused | completed | cancelled | failed
deriving DecidableEq

def TransferStatus.text : TransferStatus → JsString
  | .pending => js "pending"
  | .active => js "active"
  | .paused => js "paused"
  | .completed => js "completed"
  | .cancelled => js "cancelled"
  | .failed => js "failed"

structure StartTransferParams where
  transferId : TransferId
  sessionId : SessionId
  direction : TransferDirection
  remotePath : JsString
  fileName : JsString
  totalBytes : Number
  rateLimitBytesPerSec : Option Number

structure ManagedTransfer where
  id : TransferId
  sessionId : SessionId
  direction : TransferDirection
  remotePath : JsString
  fileName : JsString
  totalBytes : Number
  bytesTransferred : Number
  startedAt : Time
  lastChunkAt : Time
  status : TransferStatus
  nextChunkIndex : Nat
  rateLimiter : RateLimiter

structure TransferCompletion where
  transferId : TransferId
  direction : TransferDirection
  bytesTransferred : Number
  durationMs : Int
  averageBytesPerSecond : Number

structure TransferProgress where
  transferId : TransferId
  direction : TransferDirection
  bytesTransferred : Number
  totalBytes : Number
  percentComplete : Number
  bytesPerSecond : Number
  estimatedSecondsRemaining : Option Number

structure TransferManager where
  transfers : OrderedMap TransferId ManagedTransfer
  maxConcurrent : Number
  defaultRateLimitBytesPerSec : Number

namespace TransferManager

def new (maxConcurrentTransfers defaultRateLimitBytesPerSec : Number) : TransferManager where
  transfers := .empty
  maxConcurrent := maxConcurrentTransfers
  defaultRateLimitBytesPerSec

variable (manager : TransferManager) (sessionId : SessionId)

def getActiveCount : Nat :=
  manager.transfers.entries.countP fun entry =>
    entry.2.sessionId = sessionId && (entry.2.status = .pending || entry.2.status = .active)

def startTransfer (runtime : Runtime) (manager : TransferManager) (params : StartTransferParams)
    (now : Time) : Except TransferError TransferManager :=
  let activeCount := Number.ofInt (manager.getActiveCount params.sessionId)
  if manager.maxConcurrent.le activeCount then
    .error {
      code := .maxTransfers
      message := js "Maximum concurrent transfers (" ++
        runtime.numberToString manager.maxConcurrent ++ js ") reached"
      transferId := some params.transferId }
  else if (manager.transfers.get params.transferId).isSome then
    .error {
      code := .invalidState
      message := js "Transfer already exists"
      transferId := some params.transferId }
  else
    let rateLimitBytesPerSec :=
      params.rateLimitBytesPerSec.getD manager.defaultRateLimitBytesPerSec
    .ok { manager with
      transfers := manager.transfers.set params.transferId {
        id := params.transferId
        sessionId := params.sessionId
        direction := params.direction
        remotePath := params.remotePath
        fileName := params.fileName
        totalBytes := params.totalBytes
        bytesTransferred := .finite 0
        startedAt := now
        lastChunkAt := now
        status := .pending
        nextChunkIndex := 0
        rateLimiter := createRateLimiter rateLimitBytesPerSec now } }

variable (transferId : TransferId)

def activateTransfer (now : Time) : TransferManager × Except TransferError ManagedTransfer :=
  match manager.transfers.get transferId with
  | none => (manager, .error ⟨.transferNotFound, js "Transfer not found", some transferId⟩)
  | some transfer =>
    if transfer.status ≠ .pending then
      (manager, .error {
        code := .invalidState
        message := js "Cannot activate transfer in " ++ transfer.status.text ++ js " state"
        transferId := some transferId })
    else
      let activated := { transfer with status := .active, lastChunkAt := now }
      ({ manager with transfers := manager.transfers.set transferId activated }, .ok activated)

def updateProgress (runtime : Runtime) (manager : TransferManager) (transferId : TransferId)
    (chunkIndex : Number) (bytesReceived : Nat) (now : Time) :
    TransferManager × Except TransferError ManagedTransfer :=
  match manager.transfers.get transferId with
  | none => (manager, .error ⟨.transferNotFound, js "Transfer not found", some transferId⟩)
  | some transfer =>
    if transfer.status ≠ .active then
      (manager, .error {
        code := .invalidState
        message := js "Cannot update transfer in " ++ transfer.status.text ++ js " state"
        transferId := some transferId })
    else if chunkIndex ≠ .ofInt transfer.nextChunkIndex then
      (manager, .error {
        code := .chunkMismatch
        message := js "Expected chunk " ++
          runtime.numberToString (.ofInt transfer.nextChunkIndex) ++ js ", got " ++
          runtime.numberToString chunkIndex
        transferId := some transferId })
    else
      let updated := { transfer with
        bytesTransferred := transfer.bytesTransferred.add (.ofInt bytesReceived)
        lastChunkAt := now
        nextChunkIndex := transfer.nextChunkIndex + 1
        -- The limiter's answer is dropped.
        rateLimiter := (transfer.rateLimiter.checkAndUpdate bytesReceived now).1 }
      ({ manager with transfers := manager.transfers.set transferId updated }, .ok updated)

def hundredTimes : Number → Number
  | .finite value => .finite (value * 100)
  | other => other

def getProgress (now : Time) : Except TransferError TransferProgress :=
  match manager.transfers.get transferId with
  | none => .error ⟨.transferNotFound, js "Transfer not found", some transferId⟩
  | some transfer =>
    let bytesPerSecond := transfer.rateLimiter.calculateCurrentRate now
    let remainingBytes := transfer.totalBytes.sub transfer.bytesTransferred
    .ok {
      transferId := transfer.id
      direction := transfer.direction
      bytesTransferred := transfer.bytesTransferred
      totalBytes := transfer.totalBytes
      percentComplete :=
        if Number.lt (.ofInt 0) transfer.totalBytes then
          floorOf ((hundredTimes transfer.bytesTransferred).div transfer.totalBytes)
        else
          .ofInt 0
      bytesPerSecond
      estimatedSecondsRemaining :=
        if Number.lt (.ofInt 0) bytesPerSecond then
          some (ceilOf (remainingBytes.div bytesPerSecond))
        else
          none }

def completeTransfer (now : Time) : TransferManager × Except TransferError TransferCompletion :=
  match manager.transfers.get transferId with
  | none => (manager, .error ⟨.transferNotFound, js "Transfer not found", some transferId⟩)
  | some transfer =>
    let durationMs := transfer.rateLimiter.getElapsedMs now
    ({ manager with transfers := manager.transfers.delete transferId }, .ok {
      transferId := transfer.id
      direction := transfer.direction
      bytesTransferred := transfer.bytesTransferred
      durationMs
      averageBytesPerSecond :=
        if durationMs ≤ 0 then .ofInt 0
        else bytesPerSecondOver transfer.bytesTransferred durationMs })

-- A transfer that is already gone is no error.
def cancelTransfer : TransferManager :=
  { manager with transfers := manager.transfers.delete transferId }

def failTransfer : TransferManager × Except TransferError Unit :=
  match manager.transfers.get transferId with
  | none => (manager, .error ⟨.transferNotFound, js "Transfer not found", some transferId⟩)
  | some _ => ({ manager with transfers := manager.transfers.delete transferId }, .ok ())

def pauseTransfer : TransferManager × Except TransferError Unit :=
  match manager.transfers.get transferId with
  | none => (manager, .error ⟨.transferNotFound, js "Transfer not found", some transferId⟩)
  | some transfer =>
    if transfer.status ≠ .active then
      (manager, .error {
        code := .invalidState
        message := js "Cannot pause transfer in " ++ transfer.status.text ++ js " state"
        transferId := some transferId })
    else
      ({ manager with transfers := manager.transfers.set transferId { transfer with
          status := .paused, rateLimiter := transfer.rateLimiter.pause } }, .ok ())

def resumeTransfer (now : Time) : TransferManager × Except TransferError Unit :=
  match manager.transfers.get transferId with
  | none => (manager, .error ⟨.transferNotFound, js "Transfer not found", some transferId⟩)
  | some transfer =>
    if transfer.status ≠ .paused then
      (manager, .error {
        code := .invalidState
        message := js "Cannot resume transfer in " ++ transfer.status.text ++ js " state"
        transferId := some transferId })
    else
      ({ manager with transfers := manager.transfers.set transferId { transfer with
          status := .active, rateLimiter := transfer.rateLimiter.resume now } }, .ok ())

def verifyOwnership (sessionId : SessionId) : Except TransferError ManagedTransfer :=
  match manager.transfers.get transferId with
  | some transfer =>
    if transfer.sessionId ≠ sessionId then
      .error ⟨.transferNotFound, js "Transfer not found", some transferId⟩
    else
      .ok transfer
  | none => .error ⟨.transferNotFound, js "Transfer not found", some transferId⟩

def canStartTransfer : Bool :=
  (Number.ofInt (manager.getActiveCount sessionId)).lt manager.maxConcurrent

-- Every transfer stands under its own id.
def cancelSessionTransfers : TransferManager :=
  { manager with transfers := manager.transfers.filter fun _ transfer =>
      transfer.sessionId ≠ sessionId }

def clear : TransferManager :=
  { manager with transfers := .empty }

end TransferManager

end WebSsh2.Sftp

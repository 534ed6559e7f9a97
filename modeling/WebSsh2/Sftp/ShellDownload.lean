import WebSsh2.Library.Pieces
import WebSsh2.Library.Run
import WebSsh2.Sftp.FileService

namespace WebSsh2.Sftp.ShellDownload

open WebSsh2.Library WebSsh2.Library.Pieces WebSsh2.Library.Run WebSsh2.State

def progressInterval : Int := 250

-- One download: the transfer, the file with the size its `stat` announced, and the
-- chunk size of the configuration. Only the announced size is not looked at below.
structure Download where
  transferId : TransferId
  remotePath : JsString
  fileSize : Nat
  chunkSize : Nat
  chunkSize_pos : 0 < chunkSize

structure SftpDownloadChunk where
  chunkIndex : Nat
  data : Bytes
  isLast : Bool
deriving DecidableEq

-- What happens at the boundary of the service, in its order: what the channel brings
-- while it is open, and the calls of the callbacks.
inductive Action where
  | received (data : Bytes)
  | stderr (data : Bytes)
  | exited (code : Option Int)
  | ended
  | channelError (message : JsString)
  | closed
  | cancelled
  | destroyed
  | chunk (chunk : SftpDownloadChunk)
  | progress (progress : TransferProgress)
  | complete (response : SftpCompleteResponse)
  | error (error : SftpServiceError)

-- `executing` until the callback of `exec` comes, `channel` while its channel is open,
-- `ended` after the end of its output. `entry` tells whether `downloadStates` has this
-- download, `cancelled` is the flag that the handlers read.
structure Stream where
  executing : Bool := true
  channel : Bool := false
  ended : Bool := false
  entry : Bool := true
  cancelled : Bool := false
  transferManager : TransferManager
  chunkIndex : Nat := 0
  buffer : Bytes := []
  lastProgressTime : Time := 0
  resolved : Bool := false
  log : List Action := []

inductive Event where
  | execReturned (result : Except JsString Unit) (now : Time)
  | data (data : Bytes)
  | ended (now : Time)
  | streamError (message : JsString)
  | stderr (data : Bytes)
  | exited (code : Option Int)
  | closed
  | cancelDownload
  | cancelSessionTransfers (sessionId : SessionId)

section Functions

-- `clock` is the time at which a chunk is sent.
variable (runtime : Runtime) (download : Download) (clock : Nat → Time)

def record (stream : Stream) (action : Action) : Stream :=
  { stream with log := stream.log ++ [action] }

def resolve (stream : Stream) : Stream :=
  { stream with resolved := true }

def tracked (stream : Stream) : Bool :=
  (stream.transferManager.transfers.get download.transferId).isSome

def emitProgressIfDue (stream : Stream) (now : Time) : Stream :=
  if now - stream.lastProgressTime < progressInterval then
    stream
  else
    let stream := { stream with lastProgressTime := now }
    match stream.transferManager.getProgress download.transferId now with
    | .ok progress => record stream (.progress progress)
    | .error _ => stream

def emitChunk (stream : Stream) (data : Bytes) (isLast : Bool) : Stream :=
  let now := clock stream.chunkIndex
  -- The answer of the transfer manager is dropped.
  let transferManager := (stream.transferManager.updateProgress runtime download.transferId
    (.ofInt stream.chunkIndex) data.length now).1
  let stream := record { stream with transferManager } (.chunk ⟨stream.chunkIndex, data, isLast⟩)
  let stream := emitProgressIfDue download stream now
  { stream with chunkIndex := stream.chunkIndex + 1 }

-- The loop of the data handler. Every turn makes the buffer shorter, so that its length
-- is enough for `fuel`.
def emitWhole (stream : Stream) : Nat → Stream
  | 0 => stream
  | fuel + 1 =>
    if download.chunkSize ≤ stream.buffer.length then
      let chunk := stream.buffer.take download.chunkSize
      let rest := { stream with buffer := stream.buffer.drop download.chunkSize }
      emitWhole (emitChunk runtime download clock rest chunk false) fuel
    else
      stream

def dataReceived (stream : Stream) (data : Bytes) : Stream :=
  let stream := record stream (.received data)
  if stream.cancelled then
    record stream .destroyed
  else
    let stream := { stream with buffer := stream.buffer ++ data }
    emitWhole runtime download clock stream stream.buffer.length

-- What is left in the buffer is the last chunk, also where it is empty.
def outputEnded (stream : Stream) (now : Time) : Stream :=
  let stream := record { stream with ended := true } .ended
  if stream.cancelled then
    stream
  else
    let stream := emitChunk runtime download clock stream stream.buffer true
    let (transferManager, completeResult) :=
      stream.transferManager.completeTransfer download.transferId now
    let stream := { stream with entry := false, transferManager }
    match completeResult with
    | .ok stats =>
      resolve (record stream
        (.complete (buildCompleteResponse download.transferId .download stats)))
    | .error _ => resolve stream

def cancelTransfer (stream : Stream) : Stream :=
  { stream with transferManager := stream.transferManager.cancelTransfer download.transferId }

def channelFailed (stream : Stream) (message : JsString) : Stream :=
  let stream := record stream (.channelError message)
  if stream.cancelled then
    resolve stream
  else
    let stream := cancelTransfer download { stream with entry := false }
    resolve (record stream (.error {
      code := .chunkError
      message
      path := some download.remotePath
      transferId := some download.transferId }))

def execReturned (stream : Stream) (result : Except JsString Unit) (now : Time) : Stream :=
  let stream := { stream with executing := false }
  match result with
  | .error message =>
    let stream := cancelTransfer download { stream with entry := false }
    resolve (record stream (.error {
      code := .permissionDenied
      message
      path := some download.remotePath
      transferId := some download.transferId }))
  | .ok () => { stream with channel := true, lastProgressTime := now }

-- A transfer that goes while the download runs is noted as cancelled.
def dropTransfer (stream : Stream) (transferManager : TransferManager) : Stream :=
  let dropped := { stream with transferManager }
  if tracked download stream && !tracked download dropped then record dropped .cancelled
  else dropped

def cancelDownload (stream : Stream) : Stream :=
  let transferManager := stream.transferManager.cancelTransfer download.transferId
  if stream.entry then
    dropTransfer download { stream with cancelled := true, entry := false } transferManager
  else
    dropTransfer download stream transferManager

-- What the channel brings while it is open. Nobody listens to the exit status or to the
-- close, and the error output is only written to the debug log.
def step (stream : Stream) : Event → Stream
  | .execReturned result now =>
    if stream.executing then execReturned download stream result now else stream
  | .data data =>
    if stream.channel && !stream.ended then dataReceived runtime download clock stream data
    else stream
  | .ended now =>
    if stream.channel && !stream.ended then outputEnded runtime download clock stream now
    else stream
  | .streamError message =>
    if stream.channel then channelFailed download stream message else stream
  | .stderr data => if stream.channel then record stream (.stderr data) else stream
  | .exited code => if stream.channel then record stream (.exited code) else stream
  | .closed =>
    if stream.channel then record { stream with channel := false } .closed else stream
  | .cancelDownload => cancelDownload download stream
  | .cancelSessionTransfers sessionId =>
    dropTransfer download stream (stream.transferManager.cancelSessionTransfers sessionId)

-- `streamDownloadChunks` up to its first callback.
def streamDownloadChunks (transferManager : TransferManager) (hasSession hasClient : Bool) :
    Stream :=
  let fresh : Stream := { transferManager }
  if !hasSession then
    resolve (record { fresh with executing := false, entry := false } (.error {
      code := .noConnection
      message := js "Shell session not found"
      transferId := some download.transferId }))
  else if !hasClient then
    resolve (record { fresh with executing := false, entry := false } (.error {
      code := .noConnection
      message := js "SSH client not found"
      transferId := some download.transferId }))
  else
    fresh

end Functions

end WebSsh2.Sftp.ShellDownload

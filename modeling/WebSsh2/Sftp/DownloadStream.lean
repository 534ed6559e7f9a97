import WebSsh2.Sftp.FileService

namespace WebSsh2.Sftp

open WebSsh2.Library WebSsh2.State

namespace DownloadStream

def downloadConcurrency : Nat := 32

def progressInterval : Int := 250

-- One download: the transfer, the file, and the chunk size of the configuration. Sizes
-- are whole numbers below 2^53, on which `Math.ceil(fileSize / chunkSize)` is exact.
structure Download where
  transferId : TransferId
  remotePath : JsString
  fileSize : Nat
  chunkSize : Nat

-- What happens at the boundary of the service, in its order: calls of the callbacks and
-- of the connection, and what comes back.
inductive Action where
  | opened
  | read (chunkIdx offset length : Nat)
  | arrived (chunkIdx : Nat) (data : Bytes)
  | chunk (chunkIndex : Nat) (data : Bytes) (isLast : Bool)
  | taken
  | progress
  | complete
  | error (error : SftpServiceError)
  | cancelled

-- The variables of the closure. `entry` is the flag of `downloadStreams`, if there is
-- an entry; `tracked` tells whether the transfer manager still has the transfer;
-- `emitting` is `isEmitting`, with the `isLast` of the chunk that is being sent.
structure Stream where
  opening : Bool := true
  entry : Option Bool := some false
  tracked : Bool := true
  cancelled : Bool := false
  hasError : Bool := false
  fileHandle : Bool := false
  nextChunkToRead : Nat := 0
  nextChunkToEmit : Nat := 0
  lastProgressTime : Int
  chunkBuffer : OrderedMap Nat Bytes := .empty
  emitting : Option Bool := none
  outstanding : List Nat := []
  resolved : Bool := false
  log : List Action := []

-- The callbacks that the service waits for, and the call that cancels.
inductive Event where
  | openReturned (result : Except JsString Unit)
  | readReturned (chunkIdx : Nat) (result : Except JsString (Nat × Bytes))
  | chunkTaken (now : Int)
  | cancelDownload

section Functions

variable (download : Download)

def totalChunks : Nat :=
  (download.fileSize + download.chunkSize - 1) / download.chunkSize

def record (stream : Stream) (action : Action) : Stream :=
  { stream with log := stream.log ++ [action] }

def cleanup (stream : Stream) : Stream :=
  { stream with entry := none, fileHandle := false }

def resolve (stream : Stream) : Stream :=
  { stream with resolved := true }

def emitProgressIfDue (stream : Stream) (now : Int) : Stream :=
  if now - stream.lastProgressTime < progressInterval then
    stream
  else
    let stream := { stream with lastProgressTime := now }
    if stream.tracked then record stream .progress else stream

-- A transfer that is no longer tracked is not completed.
def completeDownload (stream : Stream) : Stream :=
  let stream := cleanup stream
  if stream.tracked then record { stream with tracked := false } .complete else stream

-- One turn of the loop, up to the `await`. Where no chunk waits the loop ends, and
-- the second look in `finally` finds none either.
def emitNext (stream : Stream) : Stream :=
  match stream.chunkBuffer.get stream.nextChunkToEmit with
  | none => { stream with emitting := none }
  | some data =>
    let isLast := decide (stream.nextChunkToEmit + 1 = totalChunks download)
    record
      { stream with
        chunkBuffer := stream.chunkBuffer.delete stream.nextChunkToEmit
        emitting := some isLast }
      (.chunk stream.nextChunkToEmit data isLast)

def emitBufferedChunks (stream : Stream) : Stream :=
  if stream.emitting.isSome then stream else emitNext download stream

-- The end of the loop after the last chunk, with the second look in `finally`.
def finishEmitting (stream : Stream) : Stream :=
  let stream := { stream with emitting := none }
  if (stream.chunkBuffer.get stream.nextChunkToEmit).isSome then
    emitBufferedChunks download stream
  else
    stream

-- The rest of a turn, once `onChunk` has resolved.
def resumeEmitting (stream : Stream) (isLast : Bool) (now : Int) : Stream :=
  let stream := emitProgressIfDue stream now
  let stream := { stream with nextChunkToEmit := stream.nextChunkToEmit + 1 }
  if isLast then finishEmitting download (resolve (completeDownload stream))
  else emitNext download stream

def readChunk (stream : Stream) (chunkIdx : Nat) : Stream :=
  if stream.hasError || stream.cancelled || !stream.fileHandle then
    stream
  else
    let offset := chunkIdx * download.chunkSize
    record { stream with outstanding := stream.outstanding ++ [chunkIdx] }
      (.read chunkIdx offset (min download.chunkSize (download.fileSize - offset)))

def readNext (stream : Stream) : Stream :=
  readChunk download { stream with nextChunkToRead := stream.nextChunkToRead + 1 }
    stream.nextChunkToRead

def failRead (stream : Stream) (message : JsString) : Stream :=
  let stream := cleanup { stream with hasError := true }
  resolve (record { stream with tracked := false } (.error {
    code := .chunkError
    message
    path := some download.remotePath
    transferId := some download.transferId }))

def storeChunk (stream : Stream) (chunkIdx : Nat) (data : Bytes) : Stream :=
  record { stream with chunkBuffer := stream.chunkBuffer.set chunkIdx data }
    (.arrived chunkIdx data)

def readReturned (stream : Stream) (chunkIdx : Nat)
    (result : Except JsString (Nat × Bytes)) : Stream :=
  let stream := { stream with outstanding := stream.outstanding.erase chunkIdx }
  if stream.hasError || stream.cancelled then
    stream
  else
    match result with
    | .error message => failRead download stream message
    | .ok (bytesRead, data) =>
      let stream :=
        emitBufferedChunks download (storeChunk stream chunkIdx (data.take bytesRead))
      if stream.nextChunkToRead < totalChunks download then readNext download stream else stream

def startReads (stream : Stream) : Nat → Stream
  | 0 => stream
  | count + 1 => startReads (readNext download stream) count

-- The handle is kept, and the flag of the entry copied if there still is one.
def takeHandle (stream : Stream) : Stream :=
  record { stream with fileHandle := true, cancelled := stream.entry.getD stream.cancelled } .opened

def openReturned (stream : Stream) (result : Except JsString Unit) : Stream :=
  let stream := { stream with opening := false }
  match result with
  | .error message =>
    resolve (record { stream with tracked := false } (.error {
      code := .permissionDenied
      message
      path := some download.remotePath
      transferId := some download.transferId }))
  | .ok () =>
    let stream := takeHandle stream
    if stream.cancelled then
      resolve (cleanup stream)
    else
      startReads download stream (min downloadConcurrency (totalChunks download))

-- The flag is set on an entry that leaves the map at once, so nobody reads it.
def cancelDownload (stream : Stream) : Stream :=
  record { stream with entry := none, tracked := false } .cancelled

-- A callback comes back only where it was waited for.
def step (stream : Stream) : Event → Stream
  | .openReturned result => if stream.opening then openReturned download stream result else stream
  | .readReturned chunkIdx result =>
    if chunkIdx ∈ stream.outstanding then readReturned download stream chunkIdx result else stream
  | .chunkTaken now =>
    match stream.emitting with
    | some isLast => resumeEmitting download (record stream .taken) isLast now
    | none => stream
  | .cancelDownload => cancelDownload stream

-- `streamDownloadChunks` up to its first callback. Without a session there is nothing
-- to wait for.
def streamDownloadChunks (hasSession : Bool) (now : Int) : Stream :=
  let fresh : Stream := { lastProgressTime := now }
  if hasSession then
    fresh
  else
    resolve (record { fresh with opening := false, entry := none } (.error {
      code := .noConnection
      message := js "SFTP session not found"
      transferId := some download.transferId }))

end Functions

end DownloadStream

end WebSsh2.Sftp

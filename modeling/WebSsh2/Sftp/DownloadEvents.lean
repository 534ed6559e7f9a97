import WebSsh2.Library.Run
import WebSsh2.Library.Trace
import WebSsh2.Sftp.DownloadStream

namespace WebSsh2.Sftp.DownloadStream

open WebSsh2.Library WebSsh2.Library.Run WebSsh2.Library.Trace

namespace Action

def isOpened : Action → Bool
  | .opened => true
  | _ => false

def isRead : Action → Bool
  | .read .. => true
  | _ => false

def isArrived : Action → Bool
  | .arrived .. => true
  | _ => false

def isChunk : Action → Bool
  | .chunk .. => true
  | _ => false

def isTaken : Action → Bool
  | .taken => true
  | _ => false

def isProgress : Action → Bool
  | .progress => true
  | _ => false

def isComplete : Action → Bool
  | .complete => true
  | _ => false

def isError : Action → Bool
  | .error _ => true
  | _ => false

def isCancelled : Action → Bool
  | .cancelled => true
  | _ => false

end Action

variable {download : Download} {stream : Stream}

-- What the loop sends when it looks for a chunk.
def chunkSent (download : Download) (buffer : OrderedMap Nat Bytes) (next : Nat) : List Action :=
  match buffer.get next with
  | none => []
  | some data => [.chunk next data (decide (next + 1 = totalChunks download))]

def readOf (download : Download) (chunkIdx : Nat) : Action :=
  .read chunkIdx (chunkIdx * download.chunkSize)
    (min download.chunkSize (download.fileSize - chunkIdx * download.chunkSize))

theorem emitNext_log : (emitNext download stream).log =
    stream.log ++ chunkSent download stream.chunkBuffer stream.nextChunkToEmit := by
  unfold emitNext chunkSent
  cases stream.chunkBuffer.get stream.nextChunkToEmit with
  | none => exact (List.append_nil _).symm
  | some data => rfl

-- The loop changes the buffer, its own flag and the log.
theorem emitNext_frame : ∃ buffer emitting log, emitNext download stream =
    { stream with chunkBuffer := buffer, emitting := emitting, log := log } := by
  unfold emitNext
  cases stream.chunkBuffer.get stream.nextChunkToEmit with
  | none => exact ⟨stream.chunkBuffer, none, stream.log, rfl⟩
  | some data => exact ⟨_, _, _, rfl⟩

-- The loop stops only where the next chunk has not arrived.
theorem emitNext_idle (h : (emitNext download stream).emitting = none) :
    (emitNext download stream).chunkBuffer.get stream.nextChunkToEmit = none := by
  unfold emitNext at h ⊢
  cases hget : stream.chunkBuffer.get stream.nextChunkToEmit with
  | none => exact hget
  | some data =>
    rw [hget] at h
    cases h

theorem readNext_of_open (herror : stream.hasError = false) (hcancelled : stream.cancelled = false)
    (hhandle : stream.fileHandle = true) :
    readNext download stream = { stream with
      nextChunkToRead := stream.nextChunkToRead + 1
      outstanding := stream.outstanding ++ [stream.nextChunkToRead]
      log := stream.log ++ [readOf download stream.nextChunkToRead] } := by
  unfold readNext readChunk
  simp [herror, hcancelled, hhandle, record, readOf]

theorem startReads_of_open (herror : stream.hasError = false)
    (hcancelled : stream.cancelled = false) (hhandle : stream.fileHandle = true) (count : Nat) :
    startReads download stream count = { stream with
      nextChunkToRead := stream.nextChunkToRead + count
      outstanding := stream.outstanding ++ List.range' stream.nextChunkToRead count
      log := stream.log ++ (List.range' stream.nextChunkToRead count).map (readOf download) } := by
  induction count generalizing stream with
  | zero => simp [startReads]
  | succ count ih =>
    unfold startReads
    rw [readNext_of_open herror hcancelled hhandle, ih (by exact herror) (by exact hcancelled)
      (by exact hhandle)]
    simp [List.range'_succ, Nat.add_assoc, Nat.add_comm 1 count]

theorem emitProgressIfDue_frame (now : Int) : ∃ lastProgressTime log,
    emitProgressIfDue stream now = { stream with lastProgressTime, log } := by
  unfold emitProgressIfDue
  split
  · exact ⟨_, _, rfl⟩
  · dsimp only
    split
    · exact ⟨now, stream.log ++ [.progress], rfl⟩
    · exact ⟨now, stream.log, rfl⟩

theorem completeDownload_frame : ∃ tracked log, completeDownload stream =
    { stream with entry := none, fileHandle := false, tracked := tracked, log := log } ∧
      (tracked = true → stream.tracked = true) := by
  unfold completeDownload
  dsimp only [cleanup]
  split
  · exact ⟨false, stream.log ++ [.complete], rfl, nofun⟩
  · exact ⟨stream.tracked, stream.log, rfl, id⟩

theorem emitBufferedChunks_frame : ∃ buffer emitting log, emitBufferedChunks download stream =
    { stream with chunkBuffer := buffer, emitting := emitting, log := log } := by
  unfold emitBufferedChunks
  split
  · exact ⟨stream.chunkBuffer, stream.emitting, stream.log, rfl⟩
  · exact emitNext_frame

theorem readNext_frame : ∃ next outstanding log, readNext download stream =
    { stream with nextChunkToRead := next, outstanding := outstanding, log := log } := by
  unfold readNext readChunk
  split
  · exact ⟨_, stream.outstanding, stream.log, rfl⟩
  · exact ⟨_, _, _, rfl⟩

theorem finishEmitting_frame : ∃ buffer emitting log, finishEmitting download stream =
    { stream with chunkBuffer := buffer, emitting := emitting, log := log } := by
  unfold finishEmitting
  dsimp only
  split
  · exact emitBufferedChunks_frame
  · exact ⟨stream.chunkBuffer, none, stream.log, rfl⟩

theorem readReturned_ok_frame (chunkIdx : Nat) (answer : Nat × Bytes) :
    ∃ buffer emitting next outstanding log, readReturned download stream chunkIdx (.ok answer) =
      { stream with
        chunkBuffer := buffer, emitting := emitting, nextChunkToRead := next
        outstanding := outstanding, log := log } := by
  unfold readReturned
  dsimp only
  split
  · exact ⟨_, _, _, _, _, rfl⟩
  · obtain ⟨buffer, emitting, log, hemit⟩ := @emitBufferedChunks_frame download (storeChunk
      { stream with outstanding := stream.outstanding.erase chunkIdx } chunkIdx
      (answer.2.take answer.1))
    rw [hemit]
    split
    · obtain ⟨next, outstanding, log', hread⟩ := @readNext_frame download
        { storeChunk { stream with outstanding := stream.outstanding.erase chunkIdx } chunkIdx
            (answer.2.take answer.1) with
          chunkBuffer := buffer, emitting := emitting, log := log }
      rw [hread]
      exact ⟨_, _, _, _, _, rfl⟩
    · exact ⟨_, _, _, _, _, rfl⟩

-- A turn of the loop may close the file and drop the transfer, never the other way round.
theorem resumeEmitting_frame (isLast : Bool) (now : Int) :
    ∃ lastProgressTime buffer emitting entry handle tracked resolved log,
      resumeEmitting download stream isLast now =
        { stream with
          lastProgressTime := lastProgressTime, chunkBuffer := buffer, emitting := emitting
          nextChunkToEmit := stream.nextChunkToEmit + 1, entry := entry, fileHandle := handle
          tracked := tracked, resolved := resolved, log := log } ∧
      (handle = true → stream.fileHandle = true) ∧ (tracked = true → stream.tracked = true) := by
  obtain ⟨lastProgressTime, log, hprogress⟩ := @emitProgressIfDue_frame stream now
  unfold resumeEmitting
  rw [hprogress]
  cases isLast with
  | false =>
    obtain ⟨buffer, emitting, log', hemit⟩ := @emitNext_frame download { stream with
      lastProgressTime, log, nextChunkToEmit := stream.nextChunkToEmit + 1 }
    rw [if_neg (by decide), hemit]
    exact ⟨_, _, _, _, _, _, _, _, rfl, id, id⟩
  | true =>
    obtain ⟨tracked, done, hcomplete, htracked⟩ := @completeDownload_frame { stream with
      lastProgressTime, log, nextChunkToEmit := stream.nextChunkToEmit + 1 }
    rw [if_pos rfl, hcomplete]
    obtain ⟨buffer, emitting, log', hfinish⟩ := @finishEmitting_frame download { stream with
      lastProgressTime, log := done, tracked, entry := none, fileHandle := false
      resolved := true, nextChunkToEmit := stream.nextChunkToEmit + 1 }
    dsimp only [resolve]
    rw [hfinish]
    exact ⟨_, _, _, _, _, _, _, _, rfl, nofun, htracked⟩

-- What every run keeps, with errors and cancellation. The flag of the closure is never
-- set: it is read from an entry that a cancellation has removed.
structure Sound (stream : Stream) : Prop where
  uncancelled : stream.cancelled = false
  entry : stream.entry ≠ some true
  idle : stream.emitting = none → stream.chunkBuffer.get stream.nextChunkToEmit = none
  fresh : stream.opening = true → stream.hasError = false ∧ stream.nextChunkToRead = 0 ∧
    stream.outstanding = [] ∧ stream.emitting = none

theorem sound_emitNext (huncancelled : stream.cancelled = false) (hentry : stream.entry ≠ some true)
    (hopening : stream.opening = false) : Sound (emitNext download stream) := by
  have hidle := @emitNext_idle download stream
  obtain ⟨buffer, emitting, log, heq⟩ := @emitNext_frame download stream
  rw [heq] at hidle ⊢
  exact ⟨huncancelled, hentry, hidle, fun h => by cases hopening.symm.trans h⟩

theorem sound_emitBufferedChunks (huncancelled : stream.cancelled = false)
    (hentry : stream.entry ≠ some true) (hopening : stream.opening = false) :
    Sound (emitBufferedChunks download stream) := by
  unfold emitBufferedChunks
  split
  · rename_i hemitting
    refine ⟨huncancelled, hentry, fun hnone => ?_, fun h => by cases hopening.symm.trans h⟩
    rw [hnone] at hemitting
    cases hemitting
  · exact sound_emitNext huncancelled hentry hopening

theorem sound_readNext (h : Sound stream) (hopening : stream.opening = false) :
    Sound (readNext download stream) := by
  obtain ⟨next, outstanding, log, heq⟩ := @readNext_frame download stream
  rw [heq]
  exact ⟨h.uncancelled, h.entry, h.idle, fun hopen => by cases hopening.symm.trans hopen⟩

theorem sound_startReads (h : Sound stream) (hopening : stream.opening = false) (count : Nat) :
    Sound (startReads download stream count) := by
  induction count generalizing stream with
  | zero => exact h
  | succ count ih =>
    refine ih (sound_readNext h hopening) ?_
    obtain ⟨next, outstanding, log, heq⟩ := @readNext_frame download stream
    rw [heq]
    exact hopening

-- No flag is found at the open callback, cancelled or not.
theorem takeHandle_cancelled (h : Sound stream) :
    (takeHandle { stream with opening := false }).cancelled = false := by
  show stream.entry.getD stream.cancelled = false
  rw [h.uncancelled]
  cases hentry : stream.entry with
  | none => rfl
  | some flag =>
    cases flag with
    | false => rfl
    | true => exact absurd hentry h.entry

theorem openReturned_ok (h : Sound stream) : openReturned download stream (.ok ()) =
    startReads download (takeHandle { stream with opening := false })
      (min downloadConcurrency (totalChunks download)) := by
  unfold openReturned
  dsimp only
  rw [takeHandle_cancelled h, if_neg (by decide)]

theorem sound_openReturned (h : Sound stream) (result : Except JsString Unit) :
    Sound (openReturned download stream result) := by
  cases result with
  | error message => exact ⟨h.uncancelled, h.entry, h.idle, nofun⟩
  | ok value =>
    have hhandle : Sound (takeHandle { stream with opening := false }) :=
      ⟨takeHandle_cancelled h, h.entry, h.idle, nofun⟩
    rw [openReturned_ok h]
    exact sound_startReads hhandle rfl _

theorem sound_readReturned (h : Sound stream) (hopening : stream.opening = false) (chunkIdx : Nat)
    (result : Except JsString (Nat × Bytes)) :
    Sound (readReturned download stream chunkIdx result) := by
  unfold readReturned
  dsimp only
  split
  · exact ⟨h.uncancelled, h.entry, h.idle, fun hopen => by cases hopening.symm.trans hopen⟩
  · cases result with
    | error message =>
      exact ⟨h.uncancelled, nofun, h.idle, fun hopen => by cases hopening.symm.trans hopen⟩
    | ok answer =>
      dsimp only
      have hemit : Sound (emitBufferedChunks download (storeChunk
          { stream with outstanding := stream.outstanding.erase chunkIdx } chunkIdx
          (answer.2.take answer.1))) :=
        sound_emitBufferedChunks h.uncancelled h.entry hopening
      split
      · refine sound_readNext hemit ?_
        obtain ⟨buffer, emitting, log, heq⟩ := @emitBufferedChunks_frame download (storeChunk
          { stream with outstanding := stream.outstanding.erase chunkIdx } chunkIdx
          (answer.2.take answer.1))
        rw [heq]
        exact hopening
      · exact hemit

theorem sound_finishEmitting (huncancelled : stream.cancelled = false)
    (hentry : stream.entry ≠ some true) (hopening : stream.opening = false) :
    Sound (finishEmitting download stream) := by
  unfold finishEmitting
  dsimp only
  split
  · exact sound_emitBufferedChunks huncancelled hentry hopening
  · rename_i hsome
    refine ⟨huncancelled, hentry, fun _ => by simpa using hsome, fun h => ?_⟩
    cases hopening.symm.trans h

theorem sound_resumeEmitting (h : Sound stream) (hopening : stream.opening = false)
    (isLast : Bool) (now : Int) : Sound (resumeEmitting download stream isLast now) := by
  obtain ⟨lastProgressTime, log, hprogress⟩ := @emitProgressIfDue_frame stream now
  unfold resumeEmitting
  rw [hprogress]
  cases isLast with
  | false => exact sound_emitNext h.uncancelled h.entry hopening
  | true =>
    rw [if_pos rfl]
    obtain ⟨tracked, done, hcomplete, -⟩ := @completeDownload_frame { stream with
      lastProgressTime, log, nextChunkToEmit := stream.nextChunkToEmit + 1 }
    rw [hcomplete]
    exact sound_finishEmitting h.uncancelled nofun hopening

theorem step_sound (h : Sound stream) (event : Event) : Sound (step download stream event) := by
  cases event with
  | openReturned result =>
    unfold step
    dsimp only
    split
    · exact sound_openReturned h result
    · exact h
  | readReturned chunkIdx result =>
    unfold step
    dsimp only
    split
    · rename_i hmem
      refine sound_readReturned h ?_ chunkIdx result
      cases hopening : stream.opening with
      | false => rfl
      | true =>
        rw [(h.fresh hopening).2.2.1] at hmem
        cases hmem
    · exact h
  | chunkTaken now =>
    unfold step
    dsimp only
    split
    · rename_i isLast hemitting
      have htaken : Sound (record stream .taken) :=
        ⟨h.uncancelled, h.entry, h.idle, h.fresh⟩
      refine sound_resumeEmitting htaken ?_ isLast now
      cases hopening : stream.opening with
      | false => exact hopening
      | true =>
        rw [(h.fresh hopening).2.2.2] at hemitting
        cases hemitting
    · exact h
  | cancelDownload => exact ⟨h.uncancelled, nofun, h.idle, h.fresh⟩

theorem start_sound (download : Download) (hasSession : Bool) (now : Int) :
    Sound (streamDownloadChunks download hasSession now) := by
  cases hasSession with
  | true => exact ⟨rfl, nofun, fun _ => rfl, fun _ => ⟨rfl, rfl, rfl, rfl⟩⟩
  | false => exact ⟨rfl, nofun, fun _ => rfl, nofun⟩

def progressDue (stream : Stream) (now : Int) : Bool :=
  stream.tracked && !decide (now - stream.lastProgressTime < progressInterval)

-- What a step adds to the log.
def added (download : Download) (stream : Stream) : Event → List Action
  | .openReturned (.error message) =>
    if stream.opening then
      [.error {
        code := .permissionDenied
        message
        path := some download.remotePath
        transferId := some download.transferId }]
    else
      []
  | .openReturned (.ok ()) =>
    if stream.opening then
      .opened :: (List.range' stream.nextChunkToRead
        (min downloadConcurrency (totalChunks download))).map (readOf download)
    else
      []
  | .readReturned chunkIdx result =>
    if chunkIdx ∈ stream.outstanding ∧ stream.hasError = false then
      match result with
      | .error message =>
        [.error {
          code := .chunkError
          message
          path := some download.remotePath
          transferId := some download.transferId }]
      | .ok (bytesRead, data) =>
        .arrived chunkIdx (data.take bytesRead) ::
          ((if stream.emitting.isSome then []
            else chunkSent download (stream.chunkBuffer.set chunkIdx (data.take bytesRead))
              stream.nextChunkToEmit) ++
          (if stream.fileHandle && stream.nextChunkToRead < totalChunks download then
            [readOf download stream.nextChunkToRead]
          else []))
    else
      []
  | .chunkTaken now =>
    match stream.emitting with
    | some isLast =>
      .taken :: ((if progressDue stream now then [.progress] else []) ++
        ((if isLast && stream.tracked then [.complete] else []) ++
          chunkSent download stream.chunkBuffer (stream.nextChunkToEmit + 1)))
    | none => []
  | .cancelDownload => [.cancelled]

theorem mem_chunkSent {buffer : OrderedMap Nat Bytes} {next : Nat} {action : Action}
    (h : action ∈ chunkSent download buffer next) :
    ∃ data, buffer.get next = some data ∧
      action = .chunk next data (decide (next + 1 = totalChunks download)) := by
  unfold chunkSent at h
  cases hget : buffer.get next with
  | none =>
    rw [hget] at h
    cases h
  | some data =>
    rw [hget] at h
    exact ⟨data, rfl, List.mem_singleton.mp h⟩

-- A step adds an error or a cancellation alone, or neither.
theorem added_alone (event : Event) :
    (∃ action, added download stream event = [action]) ∨
      ∀ action ∈ added download stream event,
        action.isError = false ∧ action.isCancelled = false := by
  cases event with
  | cancelDownload => exact .inl ⟨.cancelled, rfl⟩
  | openReturned result =>
    cases result with
    | error message =>
      show (∃ action, (if stream.opening then [_] else []) = [action]) ∨
        ∀ action ∈ (if stream.opening then [_] else []), _
      split
      · exact .inl ⟨_, rfl⟩
      · exact .inr nofun
    | ok value =>
      right
      unfold added
      dsimp only
      split
      · intro action hmem
        rcases List.mem_cons.mp hmem with rfl | hread
        · exact ⟨rfl, rfl⟩
        · obtain ⟨chunkIdx, -, rfl⟩ := List.mem_map.mp hread
          exact ⟨rfl, rfl⟩
      · exact nofun
  | readReturned chunkIdx result =>
    unfold added
    dsimp only
    split
    · cases result with
      | error message => exact .inl ⟨_, rfl⟩
      | ok answer =>
        right
        intro action hmem
        rcases List.mem_cons.mp hmem with rfl | hrest
        · exact ⟨rfl, rfl⟩
        · rcases List.mem_append.mp hrest with hsent | hread
          · split at hsent
            · cases hsent
            · obtain ⟨data, -, rfl⟩ := mem_chunkSent hsent
              exact ⟨rfl, rfl⟩
          · split at hread
            · rw [List.mem_singleton.mp hread]
              exact ⟨rfl, rfl⟩
            · cases hread
    · exact .inr nofun
  | chunkTaken now =>
    right
    unfold added
    dsimp only
    split
    · intro action hmem
      rcases List.mem_cons.mp hmem with rfl | hrest
      · exact ⟨rfl, rfl⟩
      · rcases List.mem_append.mp hrest with hprogress | hrest
        · split at hprogress
          · rw [List.mem_singleton.mp hprogress]
            exact ⟨rfl, rfl⟩
          · cases hprogress
        · rcases List.mem_append.mp hrest with hcomplete | hsent
          · split at hcomplete
            · rw [List.mem_singleton.mp hcomplete]
              exact ⟨rfl, rfl⟩
            · cases hcomplete
          · obtain ⟨data, -, rfl⟩ := mem_chunkSent hsent
            exact ⟨rfl, rfl⟩
    · exact nofun

theorem openReturned_log (h : Sound stream) (hopening : stream.opening = true)
    (result : Except JsString Unit) :
    (openReturned download stream result).log =
      stream.log ++ added download stream (.openReturned result) := by
  unfold added
  cases result with
  | error message =>
    simp only [hopening, if_true]
    rfl
  | ok value =>
    rw [openReturned_ok h, startReads_of_open (by exact (h.fresh hopening).1)
      (by exact takeHandle_cancelled h) rfl]
    simp [takeHandle, record, hopening]

theorem emitBufferedChunks_log : (emitBufferedChunks download stream).log =
    stream.log ++ (if stream.emitting.isSome then []
      else chunkSent download stream.chunkBuffer stream.nextChunkToEmit) := by
  unfold emitBufferedChunks
  split
  · exact (List.append_nil _).symm
  · exact emitNext_log

theorem readNext_log (herror : stream.hasError = false) (hcancelled : stream.cancelled = false) :
    (readNext download stream).log = stream.log ++
      (if stream.fileHandle then [readOf download stream.nextChunkToRead] else []) := by
  cases hhandle : stream.fileHandle with
  | true => rw [readNext_of_open herror hcancelled hhandle, if_pos rfl]
  | false =>
    unfold readNext readChunk
    simp [hhandle]

theorem readReturned_log (h : Sound stream) {chunkIdx : Nat} (hmem : chunkIdx ∈ stream.outstanding)
    (result : Except JsString (Nat × Bytes)) :
    (readReturned download stream chunkIdx result).log =
      stream.log ++ added download stream (.readReturned chunkIdx result) := by
  by_cases herror : stream.hasError = true
  · unfold readReturned added
    simp [herror]
  · rw [Bool.not_eq_true] at herror
    unfold readReturned added
    dsimp only
    rw [if_neg (by simp [herror, h.uncancelled]), if_pos ⟨hmem, herror⟩]
    cases result with
    | error message => rfl
    | ok answer =>
      dsimp only
      obtain ⟨stored, hstored⟩ : ∃ stored, stored = storeChunk
          { stream with outstanding := stream.outstanding.erase chunkIdx } chunkIdx
          (answer.2.take answer.1) := ⟨_, rfl⟩
      have hlog := @emitBufferedChunks_log download stored
      obtain ⟨buffer, emitting, log, heq⟩ := @emitBufferedChunks_frame download stored
      rw [← hstored]
      rw [heq] at hlog ⊢
      dsimp only at hlog ⊢
      subst hlog
      rw [hstored]
      by_cases hmore : stream.nextChunkToRead < totalChunks download
      · rw [if_pos (by exact hmore), readNext_log (by exact herror) (by exact h.uncancelled)]
        simp only [storeChunk, record, hmore, decide_true, Bool.and_true, List.append_assoc,
          List.cons_append, List.nil_append]
        rfl
      · rw [if_neg (by exact hmore)]
        simp only [storeChunk, record, hmore, decide_false, Bool.and_false, Bool.false_eq_true,
          if_false, List.append_assoc, List.append_nil, List.cons_append, List.nil_append]
        rfl

theorem emitProgressIfDue_log (now : Int) : (emitProgressIfDue stream now).log =
    stream.log ++ (if progressDue stream now then [.progress] else []) := by
  unfold emitProgressIfDue progressDue
  split
  · rename_i hearly
    simp [hearly]
  · rename_i hdue
    cases stream.tracked <;> simp [record, hdue]

theorem completeDownload_log : (completeDownload stream).log =
    stream.log ++ (if stream.tracked then [.complete] else []) := by
  unfold completeDownload cleanup
  cases stream.tracked <;> simp [record]

theorem finishEmitting_log : (finishEmitting download stream).log =
    stream.log ++ chunkSent download stream.chunkBuffer stream.nextChunkToEmit := by
  unfold finishEmitting
  dsimp only
  split
  · rw [emitBufferedChunks_log]
    rfl
  · rename_i hsome
    unfold chunkSent
    rw [show stream.chunkBuffer.get stream.nextChunkToEmit = none by simpa using hsome]
    exact (List.append_nil _).symm

theorem resumeEmitting_log (isLast : Bool) (now : Int) :
    (resumeEmitting download stream isLast now).log =
      stream.log ++ ((if progressDue stream now then [.progress] else []) ++
        ((if isLast && stream.tracked then [.complete] else []) ++
          chunkSent download stream.chunkBuffer (stream.nextChunkToEmit + 1))) := by
  have hlog := @emitProgressIfDue_log stream now
  obtain ⟨lastProgressTime, log, hprogress⟩ := @emitProgressIfDue_frame stream now
  unfold resumeEmitting
  rw [hprogress] at hlog ⊢
  dsimp only at hlog
  subst hlog
  cases isLast with
  | false =>
    rw [if_neg (by decide), emitNext_log]
    simp
  | true =>
    obtain ⟨sent, hsent⟩ : ∃ sent : Stream, sent = { stream with
      lastProgressTime
      nextChunkToEmit := stream.nextChunkToEmit + 1
      log := stream.log ++ if progressDue stream now then [.progress] else [] } := ⟨_, rfl⟩
    have hcomplete := @completeDownload_log sent
    obtain ⟨tracked, log, heq, -⟩ := @completeDownload_frame sent
    rw [if_pos rfl]
    dsimp only
    rw [← hsent, finishEmitting_log]
    rw [heq] at hcomplete ⊢
    dsimp only [resolve] at hcomplete ⊢
    rw [hcomplete, hsent]
    simp

theorem step_log (h : Sound stream) (event : Event) :
    (step download stream event).log = stream.log ++ added download stream event := by
  cases event with
  | openReturned result =>
    unfold step
    dsimp only
    split
    · rename_i hopening
      exact openReturned_log h hopening result
    · rename_i hopening
      cases result <;> simp [added, hopening]
  | readReturned chunkIdx result =>
    unfold step
    dsimp only
    split
    · rename_i hmem
      exact readReturned_log h hmem result
    · rename_i hmem
      simp [added, hmem]
  | chunkTaken now =>
    unfold step added
    dsimp only
    cases stream.emitting with
    | none => exact (List.append_nil _).symm
    | some isLast =>
      dsimp only
      rw [resumeEmitting_log]
      exact List.append_assoc ..
  | cancelDownload => rfl

end WebSsh2.Sftp.DownloadStream

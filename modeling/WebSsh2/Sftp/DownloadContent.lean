import WebSsh2.Library.Pieces
import WebSsh2.Sftp.DownloadOutcome

namespace WebSsh2.Sftp.DownloadStream

open WebSsh2.Library WebSsh2.Library.Run WebSsh2.Library.Pieces

def Action.chunkData : Action → Option Bytes
  | .chunk _ data _ => some data
  | _ => none

def delivered (log : List Action) : Bytes :=
  (log.filterMap Action.chunkData).flatten

def requested (download : Download) (chunkIdx : Nat) : Nat :=
  min download.chunkSize (download.fileSize - chunkIdx * download.chunkSize)

-- A read brings some of the bytes that are stored at its offset: at least one, and at
-- most as many as it asked for.
def ServerAnswers (download : Download) (file : Bytes) : Event → Prop
  | .readReturned chunkIdx (.ok (bytesRead, data)) =>
    1 ≤ bytesRead ∧ bytesRead ≤ requested download chunkIdx ∧
      data.take bytesRead = (file.drop (chunkIdx * download.chunkSize)).take bytesRead
  | _ => True

def AnsweredInFull (download : Download) (stream : Stream) : Event → Prop
  | .readReturned chunkIdx (.ok (bytesRead, _)) =>
    chunkIdx ∈ stream.outstanding → bytesRead = requested download chunkIdx
  | _ => True

-- What was sent, and what waits, against the pieces of the file.
structure Delivers (R : Bytes → Bytes → Prop) (download : Download) (file : Bytes)
    (log : List Action) (buffer : OrderedMap Nat Bytes) (count : Nat) : Prop where
  sent : List.Forall₂ R (log.filterMap Action.chunkData)
    ((List.range count).map (piece download.chunkSize file))
  buffered : ∀ chunkIdx data, buffer.get chunkIdx = some data →
    R data (piece download.chunkSize file chunkIdx)

def DeliversOf (R : Bytes → Bytes → Prop) (download : Download) (file : Bytes)
    (stream : Stream) : Prop :=
  Delivers R download file stream.log stream.chunkBuffer (sent stream)

-- The data that a step takes from the server.
def Received (R : Bytes → Bytes → Prop) (download : Download) (file : Bytes) (stream : Stream) :
    Event → Prop
  | .readReturned chunkIdx (.ok (bytesRead, data)) =>
    chunkIdx ∈ stream.outstanding →
      R (data.take bytesRead) (piece download.chunkSize file chunkIdx)
  | _ => True

section Steps

variable {R : Bytes → Bytes → Prop} {download : Download} {file : Bytes} {stream : Stream}

theorem delivers_log {log more : List Action} {buffer : OrderedMap Nat Bytes} {count : Nat}
    (hmore : more.filterMap Action.chunkData = []) :
    Delivers R download file (log ++ more) buffer count ↔
      Delivers R download file log buffer count := by
  have hlog : (log ++ more).filterMap Action.chunkData = log.filterMap Action.chunkData := by
    rw [List.filterMap_append, hmore, List.append_nil]
  constructor
  · exact fun h => ⟨hlog ▸ h.sent, h.buffered⟩
  · exact fun h => ⟨hlog.symm ▸ h.sent, h.buffered⟩

theorem chunkData_ite {P : Prop} [Decidable P] {action : Action} (h : action.chunkData = none) :
    (if P then [action] else []).filterMap Action.chunkData = [] := by
  split
  · rw [List.filterMap_cons, h]
    rfl
  · rfl

-- The loop only moves data from the buffer to the log.
theorem delivers_emitNext :
    DeliversOf R download file (emitNext download stream) ↔
      Delivers R download file stream.log stream.chunkBuffer stream.nextChunkToEmit := by
  unfold emitNext DeliversOf
  cases hget : stream.chunkBuffer.get stream.nextChunkToEmit with
  | none => exact Iff.rfl
  | some data =>
    show Delivers R download file (stream.log ++ [.chunk stream.nextChunkToEmit data
        (decide (stream.nextChunkToEmit + 1 = totalChunks download))])
      (stream.chunkBuffer.delete stream.nextChunkToEmit) (stream.nextChunkToEmit + 1) ↔ _
    have hsent : (stream.log ++ [Action.chunk stream.nextChunkToEmit data
        (decide (stream.nextChunkToEmit + 1 = totalChunks download))]).filterMap
          Action.chunkData = stream.log.filterMap Action.chunkData ++ [data] := by
      rw [List.filterMap_append]
      rfl
    have hrange : (List.range (stream.nextChunkToEmit + 1)).map
        (piece download.chunkSize file) =
        (List.range stream.nextChunkToEmit).map (piece download.chunkSize file) ++
          [piece download.chunkSize file stream.nextChunkToEmit] := by
      rw [List.range_succ, List.map_append, List.map_singleton]
    constructor
    · rintro ⟨hlog, hbuffer⟩
      rw [hsent, hrange, forall₂_concat_iff] at hlog
      refine ⟨hlog.1, fun chunkIdx other hother => ?_⟩
      by_cases heq : stream.nextChunkToEmit = chunkIdx
      · rw [← heq, hget] at hother
        cases hother
        rw [← heq]
        exact hlog.2
      · exact hbuffer chunkIdx other (by rwa [OrderedMap.get_delete, if_neg heq])
    · rintro ⟨hlog, hbuffer⟩
      refine ⟨?_, fun chunkIdx other hother => ?_⟩
      · rw [hsent, hrange, forall₂_concat_iff]
        exact ⟨hlog, hbuffer _ data hget⟩
      · exact hbuffer chunkIdx other (OrderedMap.get_of_get_delete hother)

theorem delivers_emitBufferedChunks :
    DeliversOf R download file (emitBufferedChunks download stream) ↔
      DeliversOf R download file stream := by
  unfold emitBufferedChunks
  split
  · exact Iff.rfl
  · rename_i hidle
    rw [delivers_emitNext]
    unfold DeliversOf sent
    rw [if_neg hidle]
    exact Iff.rfl

theorem delivers_readNext :
    DeliversOf R download file (readNext download stream) ↔ DeliversOf R download file stream := by
  unfold readNext readChunk
  split
  · exact Iff.rfl
  · exact delivers_log rfl

theorem delivers_startReads (count : Nat) :
    DeliversOf R download file (startReads download stream count) ↔
      DeliversOf R download file stream := by
  induction count generalizing stream with
  | zero => exact Iff.rfl
  | succ count ih =>
    unfold startReads
    rw [ih, delivers_readNext]

theorem delivers_storeChunk (hreads : Reads download stream) {chunkIdx : Nat}
    (hmem : chunkIdx ∈ stream.outstanding) (data : Bytes) :
    DeliversOf R download file (storeChunk
        { stream with outstanding := stream.outstanding.erase chunkIdx } chunkIdx data) ↔
      DeliversOf R download file stream ∧ R data (piece download.chunkSize file chunkIdx) := by
  have hnew : stream.chunkBuffer.get chunkIdx = none := by
    cases hget : stream.chunkBuffer.get chunkIdx with
    | none => rfl
    | some old => exact absurd hmem (hreads.chunks.buffered chunkIdx old hget).1
  have hstored : DeliversOf R download file (storeChunk
        { stream with outstanding := stream.outstanding.erase chunkIdx } chunkIdx data) ↔
      Delivers R download file stream.log (stream.chunkBuffer.set chunkIdx data) (sent stream) :=
    delivers_log rfl
  rw [hstored]
  constructor
  · rintro ⟨hlog, hbuffer⟩
    refine ⟨⟨hlog, fun other found hother => ?_⟩,
      hbuffer chunkIdx data (OrderedMap.get_set_self ..)⟩
    have hne : chunkIdx ≠ other := by
      rintro rfl
      rw [hnew] at hother
      cases hother
    exact hbuffer other found (by rwa [OrderedMap.get_set, if_neg hne])
  · rintro ⟨⟨hlog, hbuffer⟩, hdata⟩
    refine ⟨hlog, fun other found hother => ?_⟩
    rw [OrderedMap.get_set] at hother
    split at hother
    · rename_i heq
      cases hother
      rw [← heq]
      exact hdata
    · exact hbuffer other found hother

theorem delivers_openReturned (hsound : Sound stream) (result : Except JsString Unit) :
    DeliversOf R download file (openReturned download stream result) ↔
      DeliversOf R download file stream := by
  cases result with
  | error message => exact delivers_log rfl
  | ok value =>
    rw [openReturned_ok hsound, delivers_startReads]
    exact delivers_log rfl

theorem delivers_readReturned (hsound : Sound stream) (hreads : Reads download stream)
    {chunkIdx : Nat} (hmem : chunkIdx ∈ stream.outstanding)
    (result : Except JsString (Nat × Bytes))
    (hhealthy : (readReturned download stream chunkIdx result).hasError = false) :
    DeliversOf R download file (readReturned download stream chunkIdx result) ↔
      DeliversOf R download file stream ∧
        Received R download file stream (.readReturned chunkIdx result) := by
  have herror : stream.hasError = false := by
    rw [Bool.eq_false_iff]
    intro htrue
    unfold readReturned at hhealthy
    dsimp only at hhealthy
    rw [if_pos (by simp [htrue])] at hhealthy
    cases htrue.symm.trans hhealthy
  unfold readReturned at hhealthy ⊢
  dsimp only at hhealthy ⊢
  rw [if_neg (by simp [herror, hsound.uncancelled])] at hhealthy ⊢
  cases result with
  | error message => cases hhealthy
  | ok answer =>
    obtain ⟨bytesRead, data⟩ := answer
    have hstored := @delivers_storeChunk R download file stream hreads chunkIdx hmem
      (data.take bytesRead)
    have hreceived : Received R download file stream (.readReturned chunkIdx
        (.ok (bytesRead, data))) ↔
          R (data.take bytesRead) (piece download.chunkSize file chunkIdx) :=
      ⟨fun h => h hmem, fun h _ => h⟩
    rw [hreceived, ← hstored]
    dsimp only
    split
    · rw [delivers_readNext, delivers_emitBufferedChunks]
    · exact delivers_emitBufferedChunks

theorem delivers_finishEmitting :
    DeliversOf R download file (finishEmitting download stream) ↔
      Delivers R download file stream.log stream.chunkBuffer stream.nextChunkToEmit := by
  unfold finishEmitting
  dsimp only
  split
  · exact delivers_emitBufferedChunks
  · exact Iff.rfl

theorem delivers_resumeEmitting {isLast : Bool} (hemitting : stream.emitting = some isLast)
    (now : Int) :
    DeliversOf R download file (resumeEmitting download (record stream .taken) isLast now) ↔
      DeliversOf R download file stream := by
  have hprogress := @emitProgressIfDue_log (record stream .taken) now
  obtain ⟨lastProgressTime, log, hframe⟩ := @emitProgressIfDue_frame (record stream .taken) now
  have hbefore : DeliversOf R download file stream ↔
      Delivers R download file stream.log stream.chunkBuffer (stream.nextChunkToEmit + 1) := by
    unfold DeliversOf sent
    rw [hemitting]
    exact Iff.rfl
  rw [hframe] at hprogress
  have hlog : Delivers R download file log stream.chunkBuffer (stream.nextChunkToEmit + 1) ↔
      Delivers R download file stream.log stream.chunkBuffer (stream.nextChunkToEmit + 1) := by
    dsimp only at hprogress
    rw [hprogress]
    exact (delivers_log (chunkData_ite rfl)).trans (delivers_log rfl)
  unfold resumeEmitting
  rw [hframe, hbefore, ← hlog]
  cases isLast with
  | false => exact delivers_emitNext
  | true =>
    rw [if_pos rfl]
    dsimp only
    have hcompleted := @completeDownload_log { record stream .taken with
      lastProgressTime, log, nextChunkToEmit := stream.nextChunkToEmit + 1 }
    obtain ⟨tracked, done, hcomplete, -⟩ := @completeDownload_frame { record stream .taken with
      lastProgressTime, log, nextChunkToEmit := stream.nextChunkToEmit + 1 }
    rw [hcomplete] at hcompleted
    dsimp only [record] at hcomplete hcompleted
    dsimp only [record]
    rw [hcomplete]
    refine delivers_finishEmitting.trans ?_
    show Delivers R download file done stream.chunkBuffer (stream.nextChunkToEmit + 1) ↔ _
    rw [hcompleted]
    exact delivers_log (chunkData_ite rfl)

theorem step_delivers_iff (hsound : Sound stream) (hreads : Reads download stream) (event : Event)
    (hhealthy : (step download stream event).hasError = false) :
    DeliversOf R download file (step download stream event) ↔
      DeliversOf R download file stream ∧ Received R download file stream event := by
  cases event with
  | openReturned result =>
    unfold step
    dsimp only
    rw [show Received R download file stream (.openReturned result) = True from rfl, and_true]
    split
    · exact delivers_openReturned hsound result
    · exact Iff.rfl
  | readReturned chunkIdx result =>
    unfold step at hhealthy ⊢
    dsimp only at hhealthy ⊢
    split at hhealthy
    · rename_i hmem
      rw [if_pos hmem]
      exact delivers_readReturned hsound hreads hmem result hhealthy
    · rename_i hnot
      rw [if_neg hnot]
      refine (and_iff_left ?_).symm
      unfold Received
      split
      · rename_i heq
        cases heq
        exact fun hmem => absurd hmem hnot
      · trivial
  | chunkTaken now =>
    unfold step
    dsimp only
    rw [show Received R download file stream (.chunkTaken now) = True from rfl, and_true]
    split
    · rename_i isLast hemitting
      exact delivers_resumeEmitting hemitting now
    · exact Iff.rfl
  | cancelDownload =>
    rw [show Received R download file stream .cancelDownload = True from rfl, and_true]
    exact delivers_log rfl

theorem openReturned_frame (hsound : Sound stream) (result : Except JsString Unit) :
    (openReturned download stream result).hasError = stream.hasError ∧
      (openReturned download stream result).nextChunkToEmit = stream.nextChunkToEmit := by
  cases result with
  | error message => exact ⟨rfl, rfl⟩
  | ok value =>
    rw [openReturned_ok hsound]
    have hstart : ∀ (stream : Stream) (count : Nat),
        (startReads download stream count).hasError = stream.hasError ∧
          (startReads download stream count).nextChunkToEmit = stream.nextChunkToEmit := by
      intro stream count
      induction count generalizing stream with
      | zero => exact ⟨rfl, rfl⟩
      | succ count ih =>
        obtain ⟨next, outstanding, log, hread⟩ := @readNext_frame download stream
        unfold startReads
        rw [(ih _).1, (ih _).2, hread]
        exact ⟨rfl, rfl⟩
    exact hstart _ _

-- Only a taken chunk moves the loop on, and only a failed read sets the flag.
theorem step_nextChunkToEmit (hsound : Sound stream) (event : Event)
    (hidle : ∀ now, event = .chunkTaken now → stream.emitting = none) :
    (step download stream event).nextChunkToEmit = stream.nextChunkToEmit := by
  cases event with
  | openReturned result =>
    unfold step
    dsimp only
    split
    · exact (openReturned_frame hsound result).2
    · rfl
  | readReturned chunkIdx result =>
    unfold step
    dsimp only
    split
    · cases result with
      | error message =>
        unfold readReturned
        dsimp only
        split <;> rfl
      | ok answer =>
        obtain ⟨buffer, emitting, next, outstanding, log, heq⟩ :=
          @readReturned_ok_frame download stream chunkIdx answer
        rw [heq]
    · rfl
  | chunkTaken now =>
    unfold step
    dsimp only
    rw [hidle now rfl]
  | cancelDownload => rfl

theorem step_hasError (hsound : Sound stream) (event : Event) :
    (step download stream event).hasError = true ↔ stream.hasError = true ∨
      (stream.hasError = false ∧ ∃ chunkIdx message, chunkIdx ∈ stream.outstanding ∧
        event = .readReturned chunkIdx (.error message)) := by
  cases event with
  | openReturned result =>
    unfold step
    dsimp only
    split
    · rw [(openReturned_frame hsound result).1]
      simp
    · simp
  | readReturned chunkIdx result =>
    unfold step
    dsimp only
    split
    · rename_i hmem
      cases herror : stream.hasError with
      | true =>
        unfold readReturned
        simp [herror]
      | false =>
        cases result with
        | error message =>
          unfold readReturned
          simp [herror, hsound.uncancelled, failRead, cleanup, resolve, record, hmem]
        | ok answer =>
          obtain ⟨buffer, emitting, next, outstanding, log, heq⟩ :=
            @readReturned_ok_frame download stream chunkIdx answer
          rw [heq]
          simp [herror]
    · rename_i hnot
      constructor
      · exact .inl
      · rintro (herror | ⟨-, other, message, hmem, heq⟩)
        · exact herror
        · cases heq
          exact absurd hmem hnot
  | chunkTaken now =>
    unfold step
    dsimp only
    split
    · rename_i isLast hemitting
      obtain ⟨lastProgressTime, buffer, emitting, entry, handle, tracked, resolved, log, heq,
        -⟩ :=
        @resumeEmitting_frame download (record stream .taken) isLast now
      rw [heq]
      simp [record]
    · simp
  | cancelDownload => simp [step, cancelDownload, record]

-- What has failed has called `onError`, and what is complete has sent every chunk.
structure Settled (download : Download) (stream : Stream) : Prop where
  failed : stream.hasError = true → stream.log.any Action.isError = true
  complete : stream.log.any Action.isComplete = true →
    stream.nextChunkToEmit = totalChunks download

theorem added_complete (event : Event)
    (h : (added download stream event).any Action.isComplete = true) :
    ∃ now, event = .chunkTaken now ∧ stream.emitting = some true := by
  have hsent : ∀ buffer next,
      (chunkSent download buffer next).any Action.isComplete = false := by
    intro buffer next
    refine List.any_eq_false.mpr fun action hmem => ?_
    obtain ⟨data, -, rfl⟩ := mem_chunkSent hmem
    exact Bool.false_ne_true
  cases event with
  | openReturned result =>
    cases result with
    | error message => cases hopening : stream.opening <;> simp [added, hopening,
        Action.isComplete] at h
    | ok value => cases hopening : stream.opening <;> simp [added, hopening,
        Action.isComplete, readOf] at h
  | readReturned chunkIdx result =>
    unfold added at h
    dsimp only at h
    split at h
    · cases result with
      | error message => cases h
      | ok answer =>
        rw [List.any_cons, List.any_append, Bool.or_eq_true, Bool.or_eq_true] at h
        rcases h with harrived | hchunk | hread
        · cases harrived
        · split at hchunk
          · cases hchunk
          · cases (hsent _ _).symm.trans hchunk
        · split at hread <;> cases hread
    · cases h
  | chunkTaken now =>
    refine ⟨now, rfl, ?_⟩
    unfold added at h
    dsimp only at h
    split at h
    · rename_i isLast hemitting
      cases isLast with
      | true => exact hemitting
      | false =>
        rw [List.any_cons, List.any_append, List.any_append, hsent] at h
        cases hdue : progressDue stream now <;> simp [hdue, Action.isComplete] at h
    · cases h
  | cancelDownload => cases h

theorem step_settled (h : Settled download stream) (hsound : Sound stream)
    (hreads : Reads download stream) (houtcomes : Outcomes stream) (event : Event) :
    Settled download (step download stream event) := by
  have hlog := @step_log download stream hsound event
  refine ⟨fun herror => ?_, fun hcomplete => ?_⟩
  · rw [hlog, List.any_append, Bool.or_eq_true]
    rcases (step_hasError hsound event).mp herror with hold | ⟨hhealthy, chunkIdx, message, hmem,
      rfl⟩
    · exact .inl (h.failed hold)
    · right
      simp [added, hmem, hhealthy, Action.isError]
  · rw [hlog, List.any_append, Bool.or_eq_true] at hcomplete
    rcases hcomplete with hold | hnew
    · rw [step_nextChunkToEmit hsound event fun _ _ => (houtcomes.complete hold).2.2]
      exact h.complete hold
    · obtain ⟨now, rfl, hemitting⟩ := added_complete event hnew
      have htotal := hreads.last true hemitting
      obtain ⟨lastProgressTime, buffer, emitting, entry, handle, tracked, resolved, log, heq, -⟩ :=
        @resumeEmitting_frame download (record stream .taken) true now
      unfold step
      dsimp only
      rw [hemitting]
      dsimp only
      rw [heq]
      exact of_decide_eq_true htotal.symm

end Steps

structure Invariants (download : Download) (stream : Stream) : Prop where
  sound : Sound stream
  reads : Reads download stream
  outcomes : Outcomes stream
  settled : Settled download stream

section Runs

variable {R : Bytes → Bytes → Prop} {download : Download} {file : Bytes} {stream : Stream}

theorem step_invariants (h : Invariants download stream) (event : Event) :
    Invariants download (step download stream event) where
  sound := step_sound h.sound event
  reads := step_reads h.reads h.sound event
  outcomes := step_outcomes h.outcomes h.sound h.reads event
  settled := step_settled h.settled h.sound h.reads h.outcomes event

theorem start_invariants (download : Download) (hasSession : Bool) (now : Int) :
    Invariants download (streamDownloadChunks download hasSession now) where
  sound := start_sound download hasSession now
  reads := start_reads download hasSession now
  outcomes := start_outcomes download hasSession now
  settled := by
    cases hasSession with
    | true => exact ⟨nofun, nofun⟩
    | false => exact ⟨nofun, nofun⟩

theorem run_hasError (h : Invariants download stream) (herror : stream.hasError = true)
    (events : List Event) : (run (step download) stream events).hasError = true := by
  have hkept := @invariant_of_step _ _ (step download)
    (fun stream => Invariants download stream ∧ stream.hasError = true) _ ⟨h, herror⟩
    (fun _ event hboth => ⟨step_invariants hboth.1 event,
      (step_hasError hboth.1.sound event).mpr (.inl hboth.2)⟩) events
  exact hkept.2

-- In a run without a failed read, what is delivered is what was received.
theorem run_delivers_iff (h : Invariants download stream) (events : List Event)
    (hhealthy : (run (step download) stream events).hasError = false) :
    DeliversOf R download file (run (step download) stream events) ↔
      DeliversOf R download file stream ∧
        Along (step download) (Received R download file) stream events := by
  induction events generalizing stream with
  | nil => exact (and_iff_left trivial).symm
  | cons event rest ih =>
    have hstep : (step download stream event).hasError = false := by
      rw [Bool.eq_false_iff]
      intro herror
      cases (run_hasError (step_invariants h event) herror rest).symm.trans hhealthy
    rw [run_cons, ih (step_invariants h event) hhealthy,
      step_delivers_iff h.sound h.reads event hstep, and_assoc]
    exact Iff.rfl

theorem start_delivers (hasSession : Bool) (now : Int) :
    DeliversOf R download file (streamDownloadChunks download hasSession now) := by
  cases hasSession with
  | true => exact ⟨.nil, nofun⟩
  | false => exact ⟨.nil, nofun⟩

theorem piece_length (hfile : file.length = download.fileSize) (chunkIdx : Nat) :
    (piece download.chunkSize file chunkIdx).length = requested download chunkIdx := by
  rw [length_piece, hfile]
  rfl

-- Under the protocol every answer is the beginning of its piece, and the whole piece
-- where it is as long as it was asked for.
theorem prefix_of_answer {chunkIdx bytesRead : Nat} {data : Bytes}
    (h : ServerAnswers download file (.readReturned chunkIdx (.ok (bytesRead, data)))) :
    data.take bytesRead <+: piece download.chunkSize file chunkIdx := by
  obtain ⟨-, hle, hdata⟩ := h
  rw [hdata]
  exact List.take_prefix_take_left (hle.trans (Nat.min_le_left _ _))

theorem received_eq_iff (hfile : file.length = download.fileSize) (stream : Stream) (event : Event)
    (h : ServerAnswers download file event) :
    Received Eq download file stream event ↔ AnsweredInFull download stream event := by
  unfold Received AnsweredInFull
  split
  · rename_i chunkIdx bytesRead data
    have hleads := prefix_of_answer h
    obtain ⟨-, hle, hdata⟩ := h
    have hlength : (data.take bytesRead).length = bytesRead := by
      unfold requested at hle
      rw [hdata, List.length_take, List.length_drop, hfile]
      omega
    refine forall_congr' fun _ => ?_
    constructor
    · intro hwhole
      rw [← hlength, hwhole, piece_length hfile]
    · intro hfull
      exact hleads.eq_of_length (by rw [hlength, hfull, piece_length hfile])
  · exact Iff.rfl

theorem flatten_pieces_file (hsize : 0 < download.chunkSize)
    (hfile : file.length = download.fileSize) :
    ((List.range (totalChunks download)).map (piece download.chunkSize file)).flatten = file := by
  rw [flatten_pieces]
  refine List.take_of_length_le ?_
  have hle := (Nat.div_le_iff_le_mul_add_pred hsize).mp (Nat.le_refl (totalChunks download))
  rw [hfile, Nat.mul_comm]
  omega

theorem countP_outcome (log : List Action) : log.countP Action.isOutcome =
    log.countP Action.isComplete + log.countP Action.isError := by
  induction log with
  | nil => rfl
  | cons action rest ih =>
    rw [List.countP_cons, List.countP_cons, List.countP_cons, ih]
    cases action <;> simp [Action.isOutcome, Action.isComplete, Action.isError] <;> omega

-- A download that is complete has sent all its chunks, and nothing failed.
theorem complete_settled (h : Invariants download stream)
    (hcomplete : stream.log.any Action.isComplete = true) :
    stream.hasError = false ∧ sent stream = totalChunks download := by
  constructor
  · rw [Bool.eq_false_iff]
    intro herror
    have hdone := List.countP_pos_iff.mpr (List.any_eq_true.mp hcomplete)
    have hfailed := List.countP_pos_iff.mpr (List.any_eq_true.mp (h.settled.failed herror))
    have hsingle := h.outcomes.single
    rw [countP_outcome] at hsingle
    omega
  · unfold sent
    rw [(h.outcomes.complete hcomplete).2.2, h.settled.complete hcomplete]
    rfl

theorem deliversOf_eq_iff (h : Invariants download stream)
    (hsent : sent stream = totalChunks download) :
    DeliversOf Eq download file stream ↔ stream.log.filterMap Action.chunkData =
      (List.range (totalChunks download)).map (piece download.chunkSize file) := by
  unfold DeliversOf
  rw [hsent]
  constructor
  · intro hdelivers
    have heq := hdelivers.sent
    rwa [List.forall₂_eq_eq_eq] at heq
  · intro heq
    refine ⟨by rwa [List.forall₂_eq_eq_eq], fun chunkIdx data hget => ?_⟩
    have hrange := h.reads.chunks.buffered chunkIdx data hget
    have hbound := h.reads.chunks.bound
    omega

-- A download that completes has delivered the file exactly when no read was short.
theorem downloaded_bytes_iff (download : Download) (hsize : 0 < download.chunkSize) (file : Bytes)
    (hfile : file.length = download.fileSize) (hasSession : Bool) (now : Int)
    (events : List Event) (hserver : ∀ event ∈ events, ServerAnswers download file event) :
    ((run (step download) (streamDownloadChunks download hasSession now) events).log.any
          Action.isComplete = true →
        delivered (run (step download) (streamDownloadChunks download hasSession now)
          events).log = file) ↔
      ((run (step download) (streamDownloadChunks download hasSession now) events).log.any
          Action.isComplete = true →
        Along (step download) (AnsweredInFull download)
          (streamDownloadChunks download hasSession now) events) := by
  have hstart := start_invariants download hasSession now
  have hlast := @invariant_of_step _ _ (step download) (Invariants download) _ hstart
    (fun _ event h => step_invariants h event) events
  refine forall_congr' fun hcomplete => ?_
  obtain ⟨hhealthy, hsent⟩ := complete_settled hlast hcomplete
  have hparts := (@run_delivers_iff (· <+: ·) download file _ hstart events hhealthy).mpr
    ⟨start_delivers hasSession now, along_of_forall_mem (step download) _ events ?_⟩
  · have hflatten := flatten_eq_iff hparts.sent
    rw [hsent, flatten_pieces_file hsize hfile] at hflatten
    unfold delivered
    rw [hflatten, ← deliversOf_eq_iff hlast hsent,
      run_delivers_iff hstart events hhealthy, and_iff_right (start_delivers hasSession now)]
    exact along_congr_mem (step download) _ events fun event hmem stream =>
      received_eq_iff hfile stream event (hserver event hmem)
  · intro event hmem stream
    have hanswer := hserver event hmem
    unfold Received
    split
    · exact fun _ => prefix_of_answer hanswer
    · trivial

end Runs

section Sample

def fourBytes : Download where
  transferId := js "t"
  remotePath := js "/f"
  fileSize := 4
  chunkSize := 2

def fourBytesFile : Bytes := [1, 2, 3, 4]

def wholeReads : List Event :=
  [.openReturned (.ok ()), .readReturned 1 (.ok (2, [3, 4])), .readReturned 0 (.ok (2, [1, 2])),
    .chunkTaken 0, .chunkTaken 0]

-- The first read brings one byte of two.
def shortRead : List Event :=
  [.openReturned (.ok ()), .readReturned 0 (.ok (1, [1])), .readReturned 1 (.ok (2, [3, 4])),
    .chunkTaken 0, .chunkTaken 0]

theorem serverAnswers_wholeReads :
    ∀ event ∈ wholeReads, ServerAnswers fourBytes fourBytesFile event := by
  simp [wholeReads, ServerAnswers, requested, fourBytes, fourBytesFile]

theorem serverAnswers_shortRead :
    ∀ event ∈ shortRead, ServerAnswers fourBytes fourBytesFile event := by
  simp [shortRead, ServerAnswers, requested, fourBytes, fourBytesFile]

theorem wholeReads_delivered :
    ((run (step fourBytes) (streamDownloadChunks fourBytes true 0) wholeReads).log.any
          Action.isComplete = true →
        delivered (run (step fourBytes) (streamDownloadChunks fourBytes true 0)
          wholeReads).log = fourBytesFile) ∧ 0 < fourBytes.chunkSize :=
  ⟨(downloaded_bytes_iff fourBytes (by decide) fourBytesFile rfl true 0 wholeReads
    serverAnswers_wholeReads).mpr fun _ => by
      simp [wholeReads, Along, AnsweredInFull, requested, fourBytes], by decide⟩

theorem shortRead_not_delivered :
    (∀ event ∈ shortRead, ServerAnswers fourBytes fourBytesFile event) ∧
      (run (step fourBytes) (streamDownloadChunks fourBytes true 0) shortRead).log.any
        Action.isComplete = true ∧
      delivered (run (step fourBytes) (streamDownloadChunks fourBytes true 0) shortRead).log ≠
        fourBytesFile := by
  refine ⟨serverAnswers_shortRead, by decide, by decide⟩

end Sample

end WebSsh2.Sftp.DownloadStream

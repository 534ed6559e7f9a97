import WebSsh2.Sftp.DownloadReads

namespace WebSsh2.Sftp.DownloadStream

open WebSsh2.Library WebSsh2.Library.Run

variable {download : Download} {stream : Stream}

-- Nothing that was waited for can come any more.
def Quiescent (stream : Stream) : Prop :=
  stream.opening = false ∧ stream.outstanding = [] ∧ stream.emitting = none

structure Released (stream : Stream) : Prop where
  resolved : stream.resolved = true
  closed : stream.fileHandle = false
  untracked : stream.tracked = false

def NotStranded (stream : Stream) : Prop :=
  Quiescent stream → Released stream

-- A file that is opened has something to read.
def OpensNonempty (download : Download) (stream : Stream) : Event → Prop
  | .openReturned (.ok ()) => stream.opening = true → 0 < download.fileSize
  | _ => True

-- A download whose last chunk was not taken yet. While there is more to read, a read is
-- outstanding.
structure Busy (download : Download) (stream : Stream) : Prop where
  opened : stream.opening = false
  healthy : stream.hasError = false
  handle : stream.fileHandle = true
  busy : stream.nextChunkToRead = totalChunks download ∨ stream.outstanding ≠ []
  more : stream.nextChunkToEmit < totalChunks download

-- What was asked for is outstanding or in the buffer.
def KeptFrom (stream : Stream) (next : Nat) : Prop :=
  ∀ chunkIdx, next ≤ chunkIdx → chunkIdx < stream.nextChunkToRead →
    chunkIdx ∉ stream.outstanding → stream.chunkBuffer.get chunkIdx ≠ none

structure Running (download : Download) (stream : Stream) : Prop where
  busy : Busy download stream
  kept : KeptFrom stream (sent stream)

-- An empty file was opened, and nothing is left that would close it.
structure Stuck (download : Download) (stream : Stream) : Prop where
  empty : totalChunks download = 0
  quiescent : Quiescent stream
  unresolved : stream.resolved = false

inductive Phase (download : Download) (stream : Stream) : Prop where
  | opening (hopening : stream.opening = true) (hclosed : stream.fileHandle = false)
      (hunresolved : stream.resolved = false)
  | running (hrunning : Running download stream)
  | released (hopened : stream.opening = false) (hreleased : Released stream)
  | stuck (hstuck : Stuck download stream)

theorem Running.not_quiescent (h : Running download stream) (hsound : Sound stream) :
    ¬Quiescent stream := by
  rintro ⟨-, houtstanding, hemitting⟩
  have hread : stream.nextChunkToRead = totalChunks download :=
    h.busy.busy.resolve_right (not_not_intro houtstanding)
  have hmore := h.busy.more
  refine h.kept stream.nextChunkToEmit ?_ (by omega) ?_ (hsound.idle hemitting)
  · unfold sent
    rw [hemitting]
    exact Nat.le_refl _
  · rw [houtstanding]
    exact List.not_mem_nil

theorem Stuck.stranded (h : Stuck download stream) : ¬NotStranded stream := by
  intro hnot
  cases h.unresolved.symm.trans (hnot h.quiescent).resolved

theorem notStranded_of_phase (h : Phase download stream) (hsound : Sound stream)
    (hstuck : ¬Stuck download stream) : NotStranded stream := by
  intro hquiescent
  cases h with
  | opening hopening => cases hopening.symm.trans hquiescent.1
  | running hrunning => exact absurd hquiescent (hrunning.not_quiescent hsound)
  | released _ hreleased => exact hreleased
  | stuck hstuck' => exact absurd hstuck' hstuck

section Steps

theorem kept_emitNext (hkept : KeptFrom stream stream.nextChunkToEmit) :
    KeptFrom (emitNext download stream) (sent (emitNext download stream)) := by
  unfold emitNext
  cases hget : stream.chunkBuffer.get stream.nextChunkToEmit with
  | none => exact hkept
  | some data =>
    intro chunkIdx hle hlt hout
    change stream.nextChunkToEmit + 1 ≤ chunkIdx at hle
    show (stream.chunkBuffer.delete stream.nextChunkToEmit).get chunkIdx ≠ none
    rw [OrderedMap.get_delete, if_neg (by omega)]
    exact hkept chunkIdx (by omega) hlt hout

theorem kept_emitBufferedChunks (hkept : KeptFrom stream (sent stream)) :
    KeptFrom (emitBufferedChunks download stream) (sent (emitBufferedChunks download stream)) := by
  unfold emitBufferedChunks
  split
  · exact hkept
  · rename_i hidle
    unfold sent at hkept
    rw [if_neg hidle] at hkept
    exact kept_emitNext hkept

-- A read that is issued keeps a download running, whether it had to be issued or not.
theorem running_readNext (hopened : stream.opening = false) (hhealthy : stream.hasError = false)
    (huncancelled : stream.cancelled = false) (hhandle : stream.fileHandle = true)
    (hmore : stream.nextChunkToEmit < totalChunks download)
    (hkept : KeptFrom stream (sent stream)) : Running download (readNext download stream) := by
  rw [readNext_of_open hhealthy huncancelled hhandle]
  refine ⟨⟨hopened, hhealthy, hhandle, .inr (by simp), hmore⟩, ?_⟩
  intro chunkIdx hle hlt hout
  have hnot : chunkIdx ∉ stream.outstanding ∧ chunkIdx ≠ stream.nextChunkToRead := by
    simpa using hout
  refine hkept chunkIdx hle ?_ hnot.1
  change chunkIdx < stream.nextChunkToRead + 1 at hlt
  omega

theorem running_startReads (count : Nat) (h : Running download stream)
    (huncancelled : stream.cancelled = false) :
    Running download (startReads download stream count) := by
  induction count generalizing stream with
  | zero => exact h
  | succ count ih =>
    refine ih (running_readNext h.busy.opened h.busy.healthy huncancelled h.busy.handle
      h.busy.more h.kept) ?_
    rw [readNext_of_open h.busy.healthy huncancelled h.busy.handle]
    exact huncancelled

theorem phase_openReturned (hsound : Sound stream) (hreads : Reads download stream)
    (hopening : stream.opening = true) (hclosed : stream.fileHandle = false)
    (hunresolved : stream.resolved = false) (result : Except JsString Unit) :
    Phase download (openReturned download stream result) ∧
      (Stuck download (openReturned download stream result) ↔
        result = .ok () ∧ totalChunks download = 0) := by
  obtain ⟨herror, hnext, houtstanding, hemitting⟩ := hsound.fresh hopening
  cases result with
  | error message =>
    refine ⟨.released rfl ⟨rfl, hclosed, rfl⟩, iff_of_false ?_ (by simp)⟩
    exact fun hstuck => by cases hstuck.unresolved
  | ok value =>
    rw [openReturned_ok hsound]
    by_cases hempty : totalChunks download = 0
    · have hstuck : Stuck download (startReads download
          (takeHandle { stream with opening := false })
          (min downloadConcurrency (totalChunks download))) := by
        rw [hempty, Nat.min_zero]
        exact ⟨hempty, ⟨rfl, houtstanding, hemitting⟩, hunresolved⟩
      exact ⟨.stuck hstuck, iff_of_true hstuck ⟨rfl, hempty⟩⟩
    · have hstart : stream.nextChunkToEmit = 0 := by
        have hstarted := hreads.chunks.started
        unfold sent at hstarted
        omega
      obtain ⟨count, hcount⟩ : ∃ count, min downloadConcurrency (totalChunks download) =
          count + 1 := ⟨_, (Nat.succ_pred (by unfold downloadConcurrency; omega)).symm⟩
      rw [hcount]
      unfold startReads
      have hfirst : Running download (readNext download
          (takeHandle { stream with opening := false })) := by
        refine running_readNext rfl herror (takeHandle_cancelled hsound) rfl ?_ ?_
        · show stream.nextChunkToEmit < _
          omega
        · intro chunkIdx _ hlt
          change chunkIdx < stream.nextChunkToRead at hlt
          omega
      refine ⟨.running (running_startReads count hfirst ?_), iff_of_false ?_ (by simp [hempty])⟩
      · rw [readNext_of_open (by exact herror) (takeHandle_cancelled hsound) rfl]
        exact takeHandle_cancelled hsound
      · exact fun hstuck => hempty hstuck.empty

theorem phase_readReturned (hsound : Sound stream) (hreads : Reads download stream)
    (h : Running download stream) (chunkIdx : Nat) (result : Except JsString (Nat × Bytes)) :
    Phase download (readReturned download stream chunkIdx result) := by
  unfold readReturned
  dsimp only
  rw [if_neg (by simp [h.busy.healthy, hsound.uncancelled])]
  cases result with
  | error message => exact .released h.busy.opened ⟨rfl, rfl, rfl⟩
  | ok answer =>
    dsimp only
    obtain ⟨stored, hstored⟩ : ∃ stored, stored = storeChunk
        { stream with outstanding := stream.outstanding.erase chunkIdx } chunkIdx
        (answer.2.take answer.1) := ⟨_, rfl⟩
    have hkept : KeptFrom stored (sent stored) := by
      rw [hstored]
      intro other hle hlt hout
      change other ∉ stream.outstanding.erase chunkIdx at hout
      show (stream.chunkBuffer.set chunkIdx _).get other ≠ none
      rw [OrderedMap.get_set]
      split
      · exact Option.some_ne_none _
      · rename_i hne
        refine h.kept other hle hlt fun hin => hout ?_
        exact (List.mem_erase_of_ne (Ne.symm hne)).mpr hin
    have hemitted := @kept_emitBufferedChunks download stored hkept
    obtain ⟨buffer, emitting, log, hemit⟩ := @emitBufferedChunks_frame download stored
    rw [← hstored]
    rw [hemit] at hemitted ⊢
    have hopened : stored.opening = false := hstored ▸ h.busy.opened
    have hhealthy : stored.hasError = false := hstored ▸ h.busy.healthy
    have huncancelled : stored.cancelled = false := hstored ▸ hsound.uncancelled
    have hhandle : stored.fileHandle = true := hstored ▸ h.busy.handle
    have hmore : stored.nextChunkToEmit < totalChunks download := hstored ▸ h.busy.more
    split
    · exact .running (running_readNext hopened hhealthy huncancelled hhandle hmore hemitted)
    · rename_i hall
      refine .running ⟨⟨hopened, hhealthy, hhandle, .inl ?_, hmore⟩, hemitted⟩
      have hbound : stored.nextChunkToRead ≤ totalChunks download := hstored ▸ hreads.chunks.bound
      exact Nat.le_antisymm hbound (Nat.le_of_not_lt hall)

theorem completeDownload_released :
    (completeDownload stream).fileHandle = false ∧ (completeDownload stream).tracked = false := by
  unfold completeDownload
  dsimp only [cleanup]
  split
  · exact ⟨rfl, rfl⟩
  · rename_i htracked
    exact ⟨rfl, by simpa using htracked⟩

-- The last chunk closes the file and drops the transfer.
theorem resumeEmitting_last (now : Int) :
    Released (resumeEmitting download stream true now) := by
  unfold resumeEmitting
  rw [if_pos rfl]
  obtain ⟨buffer, emitting, log, hfinish⟩ := @finishEmitting_frame download (resolve
    (completeDownload { emitProgressIfDue stream now with
      nextChunkToEmit := (emitProgressIfDue stream now).nextChunkToEmit + 1 }))
  rw [hfinish]
  exact ⟨rfl, completeDownload_released.1, completeDownload_released.2⟩

theorem resumeEmitting_opening (isLast : Bool) (now : Int) :
    (resumeEmitting download stream isLast now).opening = stream.opening := by
  obtain ⟨lastProgressTime, buffer, emitting, entry, handle, tracked, resolved, log, heq, -⟩ :=
    @resumeEmitting_frame download stream isLast now
  rw [heq]

theorem phase_chunkTaken (hreads : Reads download stream) (h : Running download stream)
    {isLast : Bool} (hemitting : stream.emitting = some isLast) (now : Int) :
    Phase download (resumeEmitting download (record stream .taken) isLast now) := by
  have hlast := hreads.last isLast hemitting
  cases isLast with
  | false =>
    obtain ⟨lastProgressTime, log, hprogress⟩ :=
      @emitProgressIfDue_frame (record stream .taken) now
    unfold resumeEmitting
    rw [hprogress, if_neg (by decide)]
    have hnotLast := of_decide_eq_false hlast.symm
    have hmore := h.busy.more
    have hkept := h.kept
    unfold sent at hkept
    rw [hemitting] at hkept
    have hnext := @kept_emitNext download { record stream .taken with
      lastProgressTime, log, nextChunkToEmit := stream.nextChunkToEmit + 1 } hkept
    obtain ⟨buffer, emitting, log', hemit⟩ := @emitNext_frame download { record stream .taken with
      lastProgressTime, log, nextChunkToEmit := stream.nextChunkToEmit + 1 }
    rw [hemit] at hnext
    dsimp only [record] at hemit hnext ⊢
    rw [hemit]
    refine .running ⟨⟨h.busy.opened, h.busy.healthy, h.busy.handle, h.busy.busy, ?_⟩, hnext⟩
    show stream.nextChunkToEmit + 1 < _
    omega
  | true =>
    exact .released ((resumeEmitting_opening true now).trans h.busy.opened)
      (resumeEmitting_last now)

-- What is released stays so.
theorem released_resumeEmitting (h : Released stream) (isLast : Bool) (now : Int) :
    Released (resumeEmitting download stream isLast now) := by
  cases isLast with
  | true => exact resumeEmitting_last now
  | false =>
    obtain ⟨lastProgressTime, log, hprogress⟩ := @emitProgressIfDue_frame stream now
    unfold resumeEmitting
    rw [hprogress, if_neg (by decide)]
    obtain ⟨buffer, emitting, log', hemit⟩ := @emitNext_frame download { stream with
      lastProgressTime, log, nextChunkToEmit := stream.nextChunkToEmit + 1 }
    dsimp only
    rw [hemit]
    exact ⟨h.resolved, h.closed, h.untracked⟩

theorem released_readReturned (h : Released stream) (chunkIdx : Nat)
    (result : Except JsString (Nat × Bytes)) :
    Released (readReturned download stream chunkIdx result) ∧
      (readReturned download stream chunkIdx result).opening = stream.opening := by
  cases result with
  | error message =>
    unfold readReturned
    dsimp only
    split
    · exact ⟨⟨h.resolved, h.closed, h.untracked⟩, rfl⟩
    · exact ⟨⟨rfl, rfl, rfl⟩, rfl⟩
  | ok answer =>
    obtain ⟨buffer, emitting, next, outstanding, log, heq⟩ :=
      @readReturned_ok_frame download stream chunkIdx answer
    rw [heq]
    exact ⟨⟨h.resolved, h.closed, h.untracked⟩, rfl⟩

theorem totalChunks_eq_zero_iff (hsize : 0 < download.chunkSize) :
    totalChunks download = 0 ↔ download.fileSize = 0 := by
  unfold totalChunks
  rw [Nat.div_eq_zero_iff]
  omega

theorem Released.not_stuck (h : Released stream) : ¬Stuck download stream :=
  fun hstuck => by cases hstuck.unresolved.symm.trans h.resolved

theorem opensNonempty_of_opened (hopened : stream.opening = false) (event : Event) :
    OpensNonempty download stream event := by
  unfold OpensNonempty
  split
  · exact fun hopening => by cases hopened.symm.trans hopening
  · trivial

-- Only the open callback of an empty file leads to a download that is stuck.
theorem step_phase_opening (hsize : 0 < download.chunkSize) (hsound : Sound stream)
    (hreads : Reads download stream) (hopening : stream.opening = true)
    (hclosed : stream.fileHandle = false) (hunresolved : stream.resolved = false)
    (event : Event) :
    Phase download (step download stream event) ∧
      (¬Stuck download (step download stream event) ↔ OpensNonempty download stream event) := by
  obtain ⟨-, -, houtstanding, hemitting⟩ := hsound.fresh hopening
  have hstill : ∀ stream' : Stream, stream'.opening = true → ¬Stuck download stream' :=
    fun _ hopen hstuck => by cases hstuck.quiescent.1.symm.trans hopen
  cases event with
  | openReturned result =>
    obtain ⟨hphase, hstuck⟩ :=
      phase_openReturned hsound hreads hopening hclosed hunresolved result
    unfold step
    dsimp only
    rw [if_pos hopening, hstuck, totalChunks_eq_zero_iff hsize]
    refine ⟨hphase, ?_⟩
    cases result with
    | error message => exact iff_of_true (by simp) trivial
    | ok value =>
      show ¬(_ ∧ download.fileSize = 0) ↔ (stream.opening = true → 0 < download.fileSize)
      simp [hopening, Nat.pos_iff_ne_zero]
  | readReturned chunkIdx result =>
    have hsame : step download stream (.readReturned chunkIdx result) = stream := by
      unfold step
      dsimp only
      rw [houtstanding, if_neg List.not_mem_nil]
    rw [hsame]
    exact ⟨.opening hopening hclosed hunresolved, iff_of_true (hstill stream hopening) trivial⟩
  | chunkTaken now =>
    have hsame : step download stream (.chunkTaken now) = stream := by
      unfold step
      dsimp only
      rw [hemitting]
    rw [hsame]
    exact ⟨.opening hopening hclosed hunresolved, iff_of_true (hstill stream hopening) trivial⟩
  | cancelDownload =>
    exact ⟨.opening hopening hclosed hunresolved, iff_of_true (hstill _ hopening) trivial⟩

theorem step_phase_running (hsound : Sound stream) (hreads : Reads download stream)
    (h : Running download stream) (event : Event) :
    Phase download (step download stream event) := by
  cases event with
  | openReturned result =>
    unfold step
    dsimp only
    rw [if_neg (by simp [h.busy.opened])]
    exact .running h
  | readReturned chunkIdx result =>
    unfold step
    dsimp only
    split
    · exact phase_readReturned hsound hreads h chunkIdx result
    · exact .running h
  | chunkTaken now =>
    unfold step
    dsimp only
    split
    · rename_i isLast hemitting
      exact phase_chunkTaken hreads h hemitting now
    · exact .running h
  | cancelDownload =>
    exact .running ⟨⟨h.busy.opened, h.busy.healthy, h.busy.handle, h.busy.busy, h.busy.more⟩,
      h.kept⟩

theorem step_released (hopened : stream.opening = false) (h : Released stream) (event : Event) :
    (step download stream event).opening = false ∧ Released (step download stream event) := by
  cases event with
  | openReturned result =>
    unfold step
    dsimp only
    rw [if_neg (by simp [hopened])]
    exact ⟨hopened, h⟩
  | readReturned chunkIdx result =>
    unfold step
    dsimp only
    split
    · obtain ⟨hreleased, hsame⟩ := @released_readReturned download stream h chunkIdx result
      exact ⟨hsame.trans hopened, hreleased⟩
    · exact ⟨hopened, h⟩
  | chunkTaken now =>
    unfold step
    dsimp only
    split
    · rename_i isLast hemitting
      have htaken : Released (record stream .taken) := ⟨h.resolved, h.closed, h.untracked⟩
      exact ⟨(resumeEmitting_opening isLast now).trans hopened,
        released_resumeEmitting htaken isLast now⟩
    · exact ⟨hopened, h⟩
  | cancelDownload => exact ⟨hopened, h.resolved, h.closed, rfl⟩

theorem step_stuck (h : Stuck download stream) (event : Event) :
    Stuck download (step download stream event) := by
  obtain ⟨hopened, houtstanding, hemitting⟩ := h.quiescent
  cases event with
  | openReturned result =>
    unfold step
    dsimp only
    rw [if_neg (by simp [hopened])]
    exact h
  | readReturned chunkIdx result =>
    unfold step
    dsimp only
    rw [if_neg (by simp [houtstanding])]
    exact h
  | chunkTaken now =>
    unfold step
    dsimp only
    rw [hemitting]
    exact h
  | cancelDownload => exact ⟨h.empty, h.quiescent, h.unresolved⟩

theorem step_phase (hsize : 0 < download.chunkSize) (h : Phase download stream)
    (hsound : Sound stream) (hreads : Reads download stream) (event : Event) :
    Phase download (step download stream event) ∧ (¬Stuck download stream →
      (¬Stuck download (step download stream event) ↔ OpensNonempty download stream event)) := by
  cases h with
  | opening hopening hclosed hunresolved =>
    obtain ⟨hphase, hiff⟩ :=
      step_phase_opening hsize hsound hreads hopening hclosed hunresolved event
    exact ⟨hphase, fun _ => hiff⟩
  | running hrunning =>
    have hphase := step_phase_running hsound hreads hrunning event
    refine ⟨hphase, fun _ => iff_of_true ?_ (opensNonempty_of_opened hrunning.busy.opened event)⟩
    intro hstuck
    have hmore := hrunning.busy.more
    have hempty := hstuck.empty
    omega
  | released hopened hreleased =>
    obtain ⟨hopened', hreleased'⟩ := @step_released download stream hopened hreleased event
    exact ⟨.released hopened' hreleased', fun _ =>
      iff_of_true hreleased'.not_stuck (opensNonempty_of_opened hopened event)⟩
  | stuck hstuck => exact ⟨.stuck (step_stuck hstuck event), fun hnot => absurd hstuck hnot⟩

end Steps

theorem notStranded_iff (h : Phase download stream) (hsound : Sound stream) :
    NotStranded stream ↔ ¬Stuck download stream :=
  ⟨fun hnot hstuck => hstuck.stranded hnot, notStranded_of_phase h hsound⟩

-- A download that has nothing more to wait for is released, in every state of a run,
-- exactly when there was a session and no empty file was opened.
theorem no_stranded_download_iff (download : Download) (hsize : 0 < download.chunkSize)
    (hasSession : Bool) (now : Int) (events : List Event) :
    Throughout (step download) NotStranded (streamDownloadChunks download hasSession now) events ↔
      hasSession = true ∧ Along (step download) (OpensNonempty download)
        (streamDownloadChunks download hasSession now) events := by
  cases hasSession with
  | false =>
    refine iff_of_false ?_ (by simp)
    intro hall
    have hfirst := (throughout_iff _ _ _ _).mp hall [] List.nil_prefix
    cases (hfirst ⟨rfl, rfl, rfl⟩).untracked
  | true =>
    rw [and_iff_right rfl]
    refine @throughout_iff_along _ _ (step download)
      (fun stream => Sound stream ∧ Reads download stream ∧ Phase download stream)
      NotStranded (OpensNonempty download) ?_ ?_ _
      ⟨start_sound download true now, start_reads download true now, .opening rfl rfl rfl⟩ ?_
      events
    · rintro stream event ⟨hsound, hreads, hphase⟩
      exact ⟨step_sound hsound event, step_reads hreads hsound event,
        (step_phase hsize hphase hsound hreads event).1⟩
    · rintro stream event ⟨hsound, hreads, hphase⟩ hnot
      obtain ⟨hnext, hiff⟩ := step_phase hsize hphase hsound hreads event
      rw [notStranded_iff hnext (step_sound hsound event)]
      exact hiff ((notStranded_iff hphase hsound).mp hnot)
    · exact fun hquiescent => by cases hquiescent.1

section Sample

def emptyFile : Download where
  transferId := js "t"
  remotePath := js "/empty"
  fileSize := 0
  chunkSize := 1

def nonemptyFile : Download where
  transferId := js "t"
  remotePath := js "/f"
  fileSize := 1
  chunkSize := 1

theorem nonemptyFile_not_stranded :
    0 < nonemptyFile.chunkSize ∧
      Throughout (step nonemptyFile) NotStranded (streamDownloadChunks nonemptyFile true 0)
        [.openReturned (.ok ()), .readReturned 0 (.ok (1, [7])), .chunkTaken 0] :=
  ⟨by decide, (no_stranded_download_iff nonemptyFile (by decide) true 0 _).mpr
    ⟨rfl, fun _ => by decide, trivial, trivial, trivial⟩⟩

def sampleSftp : SftpConfig where
  enabled := true
  allowedPaths := none
  blockedExtensions := []
  maxFileSize := .ofInt 1000
  maxConcurrentTransfers := .ofInt 2
  transferRateLimitBytesPerSec := .ofInt 0

def emptyFileAccepted : Bool :=
  (validateAndStartDownload asciiRuntime (TransferManager.new (.ofInt 2) (.ofInt 0)) sampleSftp
    { transferId := emptyFile.transferId, sessionId := js "s", connectionId := js "c"
      remotePath := emptyFile.remotePath }
    emptyFile.remotePath ⟨.file, js "empty", .ofInt emptyFile.fileSize⟩ 0).isOk

-- The empty file is accepted, opened, and stays open.
theorem emptyFile_stranded :
    emptyFileAccepted = true ∧
      ¬Throughout (step emptyFile) NotStranded (streamDownloadChunks emptyFile true 0)
        [.openReturned (.ok ())] := by
  refine ⟨by decide, fun hall => ?_⟩
  cases (throughout_last _ hall ⟨rfl, rfl, rfl⟩).resolved

end Sample

end WebSsh2.Sftp.DownloadStream

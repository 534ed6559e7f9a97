import WebSsh2.Sftp.DownloadReads

namespace WebSsh2.Sftp.DownloadStream

open WebSsh2.Library WebSsh2.Library.Run WebSsh2.Library.Trace

variable {download : Download} {stream : Stream}

def Action.isOutcome (action : Action) : Bool :=
  action.isComplete || action.isError

def Action.isSuccess (action : Action) : Bool :=
  action.isChunk || action.isProgress || action.isComplete

-- One outcome at most, and no good news after a bad one.
structure OneOutcome (log : List Action) : Prop where
  single : log.countP Action.isOutcome ≤ 1
  quiet : QuietAfter Action.isError Action.isSuccess log

-- After an error no chunk waits for the one that is being sent.
def NothingWaits (stream : Stream) : Event → Prop
  | .chunkTaken _ =>
    stream.log.any Action.isError = true → stream.emitting ≠ none →
      stream.chunkBuffer.get (stream.nextChunkToEmit + 1) = none
  | _ => True

-- How far a download is once it has an outcome. The loop may still be in the middle of
-- a chunk when a read fails, but the transfer is gone then.
structure Outcomes (stream : Stream) : Prop where
  single : stream.log.countP Action.isOutcome ≤ 1
  complete : stream.log.any Action.isComplete = true →
    stream.opening = false ∧ stream.outstanding = [] ∧ stream.emitting = none
  error : stream.log.any Action.isError = true → stream.opening = false ∧
    ((stream.hasError = true ∧ stream.tracked = false) ∨
      (stream.outstanding = [] ∧ stream.emitting = none))

theorem countP_outcome_eq_zero_iff {log : List Action} :
    log.countP Action.isOutcome = 0 ↔
      log.any Action.isComplete = false ∧ log.any Action.isError = false := by
  rw [List.countP_eq_zero]
  simp only [Action.isOutcome, Bool.or_eq_true, not_or, Bool.not_eq_true, List.any_eq_false,
    forall_and]

-- A chunk that is the last one leaves nothing outstanding and nothing in the buffer.
theorem reads_last (h : Reads download stream) (hlast : stream.emitting = some true) :
    stream.outstanding = [] ∧ stream.chunkBuffer.get (stream.nextChunkToEmit + 1) = none := by
  have htotal := h.last true hlast
  rw [eq_comm, decide_eq_true_iff] at htotal
  have hchunks := h.chunks
  unfold sent at hchunks
  rw [hlast] at hchunks
  have hbound := hchunks.bound
  constructor
  · refine List.eq_nil_iff_forall_not_mem.mpr fun chunkIdx hmem => ?_
    have hrange := hchunks.outstanding chunkIdx hmem
    simp only [Option.isSome_some, if_true] at hrange
    omega
  · cases hget : stream.chunkBuffer.get (stream.nextChunkToEmit + 1) with
    | none => rfl
    | some data =>
      obtain ⟨-, hrange⟩ := hchunks.buffered _ data hget
      simp only [Option.isSome_some, if_true] at hrange
      omega

theorem chunkSent_outcome (buffer : OrderedMap Nat Bytes) (next : Nat) :
    (chunkSent download buffer next).countP Action.isOutcome = 0 := by
  refine List.countP_eq_zero.mpr fun action hmem => ?_
  obtain ⟨data, -, rfl⟩ := mem_chunkSent hmem
  exact Bool.false_ne_true

theorem map_readOf_outcome (indexes : List Nat) :
    (indexes.map (readOf download)).countP Action.isOutcome = 0 := by
  refine List.countP_eq_zero.mpr fun action hmem => ?_
  obtain ⟨chunkIdx, -, rfl⟩ := List.mem_map.mp hmem
  exact Bool.false_ne_true

theorem outcomes_of_none (h : stream.log.countP Action.isOutcome = 0) : Outcomes stream := by
  obtain ⟨hcomplete, herror⟩ := countP_outcome_eq_zero_iff.mp h
  refine ⟨by omega, fun hany => ?_, fun hany => ?_⟩
  · cases hcomplete.symm.trans hany
  · cases herror.symm.trans hany

-- Before the open callback, and while a read is outstanding that has not failed, there
-- is no outcome.
theorem no_outcome_of_opening (h : Outcomes stream) (hopening : stream.opening = true) :
    stream.log.countP Action.isOutcome = 0 := by
  rw [countP_outcome_eq_zero_iff, Bool.eq_false_iff, Bool.eq_false_iff]
  refine ⟨fun hany => ?_, fun hany => ?_⟩
  · cases hopening.symm.trans (h.complete hany).1
  · cases hopening.symm.trans (h.error hany).1

theorem no_outcome_of_outstanding (h : Outcomes stream) {chunkIdx : Nat}
    (hmem : chunkIdx ∈ stream.outstanding) (herror : stream.hasError = false) :
    stream.log.countP Action.isOutcome = 0 := by
  have hne : stream.outstanding ≠ [] := List.ne_nil_of_mem hmem
  rw [countP_outcome_eq_zero_iff, Bool.eq_false_iff, Bool.eq_false_iff]
  refine ⟨fun hany => hne (h.complete hany).2.1, fun hany => ?_⟩
  rcases (h.error hany).2 with ⟨hfailed, -⟩ | ⟨hnone, -⟩
  · cases herror.symm.trans hfailed
  · exact hne hnone

theorem step_outcomes_open (h : Outcomes stream) (hsound : Sound stream)
    (hopening : stream.opening = true) (result : Except JsString Unit) :
    Outcomes (openReturned download stream result) := by
  have hlog := @openReturned_log download stream hsound hopening result
  have hnone := no_outcome_of_opening h hopening
  have hempty := countP_outcome_eq_zero_iff.mp hnone
  obtain ⟨-, -, houtstanding, hemitting⟩ := hsound.fresh hopening
  cases result with
  | error message =>
    have hadded : added download stream (.openReturned (.error message)) = [.error {
        code := .permissionDenied
        message
        path := some download.remotePath
        transferId := some download.transferId }] := if_pos hopening
    rw [hadded] at hlog
    refine ⟨?_, fun hany => ?_, fun _ => ⟨rfl, .inr ⟨houtstanding, hemitting⟩⟩⟩
    · rw [hlog, List.countP_append, hnone]
      simp [Action.isOutcome, Action.isError]
    · rw [hlog, List.any_append, hempty.1] at hany
      cases hany
  | ok value =>
    have hadded : added download stream (.openReturned (.ok value)) =
        .opened :: (List.range' stream.nextChunkToRead
          (min downloadConcurrency (totalChunks download))).map (readOf download) :=
      if_pos hopening
    refine outcomes_of_none ?_
    rw [hlog, hadded, List.countP_append, hnone, List.countP_cons, map_readOf_outcome]
    rfl

theorem step_outcomes_read (h : Outcomes stream) (hsound : Sound stream) {chunkIdx : Nat}
    (hmem : chunkIdx ∈ stream.outstanding) (result : Except JsString (Nat × Bytes)) :
    Outcomes (readReturned download stream chunkIdx result) := by
  have hlog := @readReturned_log download stream hsound chunkIdx hmem result
  have hopening : stream.opening = false := by
    cases hopening : stream.opening with
    | false => rfl
    | true =>
      rw [(hsound.fresh hopening).2.2.1] at hmem
      cases hmem
  cases herror : stream.hasError with
  | true =>
    have hsame : readReturned download stream chunkIdx result =
        { stream with outstanding := stream.outstanding.erase chunkIdx } := by
      unfold readReturned
      simp [herror]
    rw [hsame]
    refine ⟨h.single, fun hany => ?_, fun hany => ⟨hopening, ?_⟩⟩
    · rw [(h.complete hany).2.1] at hmem
      cases hmem
    · refine (h.error hany).2.imp id fun hidle => ?_
      rw [hidle.1] at hmem
      cases hmem
  | false =>
    have hnone := no_outcome_of_outstanding h hmem herror
    have hempty := countP_outcome_eq_zero_iff.mp hnone
    cases result with
    | error message =>
      have hfailed : readReturned download stream chunkIdx (.error message) =
          failRead download
            { stream with outstanding := stream.outstanding.erase chunkIdx } message := by
        unfold readReturned
        simp [herror, hsound.uncancelled]
      rw [hfailed]
      refine ⟨?_, fun hany => ?_, fun _ => ⟨hopening, .inl ⟨rfl, rfl⟩⟩⟩
      · show (stream.log ++ [_]).countP _ ≤ 1
        rw [List.countP_append, hnone]
        simp [Action.isOutcome, Action.isError]
      · change (stream.log ++ [_]).any _ = true at hany
        rw [List.any_append, hempty.1] at hany
        cases hany
    | ok answer =>
      refine outcomes_of_none ?_
      rw [hlog, List.countP_append, hnone, Nat.zero_add]
      unfold added
      dsimp only
      rw [if_pos ⟨hmem, herror⟩, List.countP_cons, List.countP_append]
      have hsent : (if stream.emitting.isSome then [] else chunkSent download
          (stream.chunkBuffer.set chunkIdx (answer.2.take answer.1))
          stream.nextChunkToEmit).countP Action.isOutcome = 0 := by
        split
        · rfl
        · exact chunkSent_outcome _ _
      have hread : (if stream.fileHandle && stream.nextChunkToRead < totalChunks download then
          [readOf download stream.nextChunkToRead] else []).countP Action.isOutcome = 0 := by
        split <;> rfl
      rw [hsent, hread]
      rfl

theorem resumeEmitting_last_idle (now : Int)
    (h : stream.chunkBuffer.get (stream.nextChunkToEmit + 1) = none) :
    (resumeEmitting download stream true now).emitting = none := by
  obtain ⟨lastProgressTime, log, hprogress⟩ := @emitProgressIfDue_frame stream now
  unfold resumeEmitting
  rw [hprogress, if_pos rfl]
  obtain ⟨tracked, done, hcomplete, -⟩ := @completeDownload_frame { stream with
    lastProgressTime, log, nextChunkToEmit := stream.nextChunkToEmit + 1 }
  rw [hcomplete]
  unfold finishEmitting
  dsimp only [resolve]
  rw [h]
  rfl

-- What one turn of the loop adds to the outcomes.
theorem taken_outcomes (isLast : Bool) (now : Int) :
    let log := (resumeEmitting download (record stream .taken) isLast now).log
    log.any Action.isError = stream.log.any Action.isError ∧
      log.any Action.isComplete = (stream.log.any Action.isComplete || (isLast && stream.tracked)) ∧
      log.countP Action.isOutcome =
        stream.log.countP Action.isOutcome + if isLast && stream.tracked then 1 else 0 := by
  have hchunk : ∀ kind : Action → Bool,
      (∀ chunkIdx data last, kind (.chunk chunkIdx data last) = false) →
      (chunkSent download (record stream .taken).chunkBuffer
        ((record stream .taken).nextChunkToEmit + 1)).any kind = false := by
    intro kind hkind
    refine List.any_eq_false.mpr fun action hmem => ?_
    obtain ⟨data, -, rfl⟩ := mem_chunkSent hmem
    simp [hkind]
  have hprogress : ∀ kind : Action → Bool, kind .progress = false →
      (if progressDue (record stream .taken) now then [Action.progress] else []).any kind =
        false := by
    intro kind hkind
    split <;> simp [hkind]
  intro log
  show (resumeEmitting download (record stream .taken) isLast now).log.any _ = _ ∧
    (resumeEmitting download (record stream .taken) isLast now).log.any _ = _ ∧
    (resumeEmitting download (record stream .taken) isLast now).log.countP _ = _
  rw [resumeEmitting_log]
  refine ⟨?_, ?_, ?_⟩
  · rw [List.any_append, List.any_append, List.any_append, hprogress _ rfl,
      hchunk _ fun _ _ _ => rfl]
    cases isLast <;> cases htracked : stream.tracked <;>
      simp [record, htracked, Action.isError]
  · rw [List.any_append, List.any_append, List.any_append, hprogress _ rfl,
      hchunk _ fun _ _ _ => rfl]
    cases isLast <;> cases htracked : stream.tracked <;>
      simp [record, htracked, Action.isComplete]
  · have hnone : (if progressDue (record stream .taken) now then [Action.progress]
        else []).countP Action.isOutcome = 0 := by
      split
      · rfl
      · rfl
    rw [List.countP_append, List.countP_append, List.countP_append, hnone, chunkSent_outcome]
    cases isLast <;> cases htracked : stream.tracked <;>
      simp [record, htracked, Action.isOutcome, Action.isComplete, Action.isError]

theorem step_outcomes_taken (h : Outcomes stream) (hsound : Sound stream)
    (hreads : Reads download stream) {isLast : Bool} (hemitting : stream.emitting = some isLast)
    (now : Int) : Outcomes (resumeEmitting download (record stream .taken) isLast now) := by
  obtain ⟨herrors, hcompletes, hcount⟩ := @taken_outcomes download stream isLast now
  obtain ⟨lastProgressTime, buffer, emitting, entry, handle, tracked, resolved, log, heq, -,
    htracked⟩ := @resumeEmitting_frame download (record stream .taken) isLast now
  have hopening : stream.opening = false := by
    cases hopening : stream.opening with
    | false => rfl
    | true => cases (hsound.fresh hopening).2.2.2.symm.trans hemitting
  have hcomplete : stream.log.any Action.isComplete = false := by
    rw [Bool.eq_false_iff]
    exact fun hany => by cases (h.complete hany).2.2.symm.trans hemitting
  -- After an error the transfer is gone, so the loop has nothing to complete.
  have hgone : stream.log.any Action.isError = true →
      stream.hasError = true ∧ stream.tracked = false := by
    intro hany
    rcases (h.error hany).2 with hfailed | ⟨-, hidle⟩
    · exact hfailed
    · cases hidle.symm.trans hemitting
  rw [hcomplete, Bool.false_or] at hcompletes
  cases hlast : isLast && stream.tracked with
  | false =>
    rw [hlast] at hcompletes hcount
    refine ⟨?_, fun hany => ?_, fun hany => ?_⟩
    · rw [hcount]
      exact h.single
    · cases hcompletes.symm.trans hany
    · rw [herrors] at hany
      obtain ⟨hfailed, hdropped⟩ := hgone hany
      rw [heq]
      refine ⟨hopening, .inl ⟨hfailed, ?_⟩⟩
      rw [Bool.eq_false_iff]
      exact fun hstill => by cases hdropped.symm.trans (htracked hstill)
  | true =>
    obtain ⟨rfl, hstill⟩ := Bool.and_eq_true_iff.mp hlast
    have hnoError : stream.log.any Action.isError = false := by
      rw [Bool.eq_false_iff]
      exact fun hany => by cases (hgone hany).2.symm.trans hstill
    obtain ⟨houtstanding, hbuffer⟩ := reads_last hreads hemitting
    have hidle := @resumeEmitting_last_idle download (record stream .taken) now hbuffer
    rw [hlast, countP_outcome_eq_zero_iff.mpr ⟨hcomplete, hnoError⟩] at hcount
    refine ⟨?_, fun _ => ⟨?_, ?_, hidle⟩, fun hany => ?_⟩
    · rw [hcount]
      decide
    · rw [heq]
      exact hopening
    · rw [heq]
      exact houtstanding
    · rw [herrors] at hany
      cases hnoError.symm.trans hany

theorem step_outcomes (h : Outcomes stream) (hsound : Sound stream)
    (hreads : Reads download stream) (event : Event) : Outcomes (step download stream event) := by
  cases event with
  | openReturned result =>
    unfold step
    dsimp only
    split
    · rename_i hopening
      exact step_outcomes_open h hsound hopening result
    · exact h
  | readReturned chunkIdx result =>
    unfold step
    dsimp only
    split
    · rename_i hmem
      exact step_outcomes_read h hsound hmem result
    · exact h
  | chunkTaken now =>
    unfold step
    dsimp only
    split
    · rename_i isLast hemitting
      exact step_outcomes_taken h hsound hreads hemitting now
    · exact h
  | cancelDownload =>
    have hnot : ∀ kind : Action → Bool, kind .cancelled = false →
        (stream.log ++ [Action.cancelled]).any kind = stream.log.any kind := by
      intro kind hkind
      simp [hkind]
    refine ⟨?_, fun hany => ?_, fun hany => ?_⟩
    · show (stream.log ++ [Action.cancelled]).countP _ ≤ 1
      rw [List.countP_append]
      exact h.single
    · exact h.complete ((hnot _ rfl).symm.trans hany)
    · refine (h.error ((hnot _ rfl).symm.trans hany)).imp id ?_
      exact Or.imp_left fun hfailed => ⟨hfailed.1, rfl⟩

theorem added_quietAfter_error (event : Event) :
    QuietAfter Action.isError Action.isSuccess (added download stream event) := by
  rcases @added_alone download stream event with ⟨action, halone⟩ | hneither
  · rw [halone]
    exact quietAfter_singleton _ _ action
  · exact quietAfter_of_unmarked fun action hmem => (hneither action hmem).1

theorem chunkSent_success_iff {buffer : OrderedMap Nat Bytes} {next : Nat} :
    (∀ action ∈ chunkSent download buffer next, action.isSuccess = false) ↔
      buffer.get next = none := by
  unfold chunkSent
  cases buffer.get next with
  | none => simp
  | some data => simp [Action.isSuccess, Action.isChunk]

-- After an error only the loop can still send something, and it sends what waits.
theorem added_success_iff (h : Outcomes stream) (hany : stream.log.any Action.isError = true)
    (event : Event) :
    (∀ action ∈ added download stream event, action.isSuccess = false) ↔
      NothingWaits stream event := by
  obtain ⟨hopening, hfailed⟩ := h.error hany
  cases event with
  | cancelDownload =>
    refine ⟨fun _ => trivial, fun _ action hmem => ?_⟩
    rw [List.mem_singleton.mp hmem]
    rfl
  | openReturned result =>
    refine ⟨fun _ => trivial, fun _ action hmem => ?_⟩
    unfold added at hmem
    rw [hopening] at hmem
    cases result <;> cases hmem
  | readReturned chunkIdx result =>
    refine ⟨fun _ => trivial, fun _ action hmem => ?_⟩
    unfold added at hmem
    dsimp only at hmem
    split at hmem
    · rename_i hlive
      rcases hfailed with ⟨herror, -⟩ | ⟨hnone, -⟩
      · cases herror.symm.trans hlive.2
      · rw [hnone] at hlive
        cases hlive.1
    · cases hmem
  | chunkTaken now =>
    unfold added NothingWaits
    dsimp only
    cases hemitting : stream.emitting with
    | none => simp
    | some isLast =>
      have hgone : stream.tracked = false := by
        rcases hfailed with ⟨-, hdropped⟩ | ⟨-, hidle⟩
        · exact hdropped
        · cases hidle.symm.trans hemitting
      simp only [progressDue, hgone, Bool.false_and, Bool.and_false, Bool.false_eq_true,
        if_false, List.nil_append, List.forall_mem_cons, chunkSent_success_iff]
      constructor
      · rintro ⟨-, hnone⟩ - -
        exact hnone
      · intro hnone
        exact ⟨rfl, hnone hany (by simp)⟩

theorem step_oneOutcome_iff (hsound : Sound stream) (hreads : Reads download stream)
    (houtcomes : Outcomes stream) (h : OneOutcome stream.log) (event : Event) :
    OneOutcome (step download stream event).log ↔ NothingWaits stream event := by
  have hnext := step_outcomes houtcomes hsound hreads event
  have hlog := @step_log download stream hsound event
  have hquiet : QuietAfter Action.isError Action.isSuccess (step download stream event).log ↔
      NothingWaits stream event := by
    rw [hlog, quietAfter_append]
    cases hany : stream.log.any Action.isError with
    | true =>
      rw [← added_success_iff houtcomes hany]
      exact ⟨fun hall => hall.2.2 rfl,
        fun hadded => ⟨h.quiet, added_quietAfter_error event, fun _ => hadded⟩⟩
    | false =>
      refine ⟨fun _ => ?_, fun _ => ⟨h.quiet, added_quietAfter_error event, nofun⟩⟩
      cases event with
      | chunkTaken now => exact fun herror => by cases hany.symm.trans herror
      | openReturned _ | readReturned _ _ | cancelDownload => trivial
  exact ⟨fun hone => hquiet.mp hone.quiet, fun hwaits => ⟨hnext.single, hquiet.mpr hwaits⟩⟩

theorem start_outcomes (download : Download) (hasSession : Bool) (now : Int) :
    Outcomes (streamDownloadChunks download hasSession now) := by
  cases hasSession with
  | true => exact outcomes_of_none rfl
  | false => exact ⟨Nat.le_refl 1, nofun, fun _ => ⟨rfl, .inr ⟨rfl, rfl⟩⟩⟩

theorem start_oneOutcome (download : Download) (hasSession : Bool) (now : Int) :
    OneOutcome (streamDownloadChunks download hasSession now).log := by
  cases hasSession with
  | true => exact ⟨Nat.zero_le 1, trivial⟩
  | false => exact ⟨Nat.le_refl 1, quietAfter_singleton _ _ _⟩

-- A download has at most one outcome, and nothing follows an error, exactly in the runs
-- in which no chunk waits behind the one that is being sent when a read has failed.
theorem one_outcome_iff (download : Download) (hasSession : Bool) (now : Int)
    (events : List Event) :
    Throughout (step download) (fun stream => OneOutcome stream.log)
        (streamDownloadChunks download hasSession now) events ↔
      Along (step download) NothingWaits (streamDownloadChunks download hasSession now) events :=
  @throughout_iff_along _ _ (step download)
    (fun stream => Sound stream ∧ Reads download stream ∧ Outcomes stream)
    (fun stream => OneOutcome stream.log) NothingWaits
    (fun _ event h => ⟨step_sound h.1 event, step_reads h.2.1 h.1 event,
      step_outcomes h.2.2 h.1 h.2.1 event⟩)
    (fun _ event h hone => step_oneOutcome_iff h.1 h.2.1 h.2.2 hone event) _
    ⟨start_sound download hasSession now, start_reads download hasSession now,
      start_outcomes download hasSession now⟩
    (start_oneOutcome download hasSession now) events

def threeBytes : Download where
  transferId := js "t"
  remotePath := js "/f"
  fileSize := 3
  chunkSize := 1

-- The read of the third chunk fails while the first chunk is being sent and the second
-- one waits.
def failedWhileSending : List Event :=
  [.openReturned (.ok ()), .readReturned 0 (.ok (1, [7])), .readReturned 1 (.ok (1, [8])),
    .readReturned 2 (.error (js "Failure")), .chunkTaken 0]

theorem failedWhileSending_sends_on :
    ((run (step threeBytes) (streamDownloadChunks threeBytes true 0) failedWhileSending).log.map
        fun action => (action.isError, action.isChunk)).getLast? = some (false, true) ∧
      ¬ Throughout (step threeBytes) (fun stream => OneOutcome stream.log)
        (streamDownloadChunks threeBytes true 0) failedWhileSending := by
  refine ⟨by decide, fun hthroughout => ?_⟩
  have hquiet := (throughout_last _ hthroughout).quiet
  revert hquiet
  decide

end WebSsh2.Sftp.DownloadStream

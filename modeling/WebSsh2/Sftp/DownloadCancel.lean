import WebSsh2.Sftp.DownloadReads

namespace WebSsh2.Sftp.DownloadStream

open WebSsh2.Library WebSsh2.Library.Run WebSsh2.Library.Trace

variable {download : Download} {stream : Stream}

def Action.isWork (action : Action) : Bool :=
  action.isRead || action.isChunk

-- Once a cancellation has run nothing is read and no chunk is sent; and where it ran
-- before the file was open nothing is read at all.
structure CancelTakesEffect (log : List Action) : Prop where
  later : QuietAfter Action.isCancelled Action.isWork log
  early : ∀ before after, log = before ++ .cancelled :: after →
    before.any Action.isOpened = false → ∀ action ∈ log, action.isRead = false

-- What must be the case for a step to do no work: there is nothing left to do.
def NothingToDo (download : Download) (stream : Stream) : Event → Prop
  | .openReturned (.ok ()) => stream.opening = true → totalChunks download = 0
  | .readReturned chunkIdx (.ok _) =>
    chunkIdx ∈ stream.outstanding → stream.hasError = false →
      (stream.emitting = none → chunkIdx ≠ stream.nextChunkToEmit) ∧
        (stream.fileHandle = true → totalChunks download ≤ stream.nextChunkToRead)
  | .chunkTaken _ =>
    stream.emitting ≠ none → stream.chunkBuffer.get (stream.nextChunkToEmit + 1) = none
  | _ => True

def QuietOnceCancelled (download : Download) (stream : Stream) (event : Event) : Prop :=
  stream.log.any Action.isCancelled = true → NothingToDo download stream event

theorem chunkSent_quiet_iff {buffer : OrderedMap Nat Bytes} {next : Nat} :
    (∀ action ∈ chunkSent download buffer next, action.isWork = false) ↔
      buffer.get next = none := by
  unfold chunkSent
  cases buffer.get next with
  | none => simp
  | some data => simp [Action.isWork, Action.isChunk]

theorem readOf_isWork (chunkIdx : Nat) : (readOf download chunkIdx).isWork = true := rfl

theorem added_quiet_iff (h : Sound stream) (event : Event) :
    (∀ action ∈ added download stream event, action.isWork = false) ↔
      NothingToDo download stream event := by
  cases event with
  | cancelDownload => simp [added, NothingToDo, Action.isWork, Action.isRead, Action.isChunk]
  | openReturned result =>
    cases result with
    | error message =>
      show (∀ action ∈ (if stream.opening then [_] else []), _) ↔ True
      refine ⟨fun _ => trivial, fun _ action hmem => ?_⟩
      split at hmem
      · rw [List.mem_singleton.mp hmem]
        rfl
      · cases hmem
    | ok value =>
      unfold added NothingToDo
      cases stream.opening with
      | false => simp
      | true =>
        simp only [if_true, List.forall_mem_cons, List.forall_mem_map, readOf_isWork,
          List.mem_range'_1, forall_const]
        constructor
        · rintro ⟨-, hreads⟩
          by_contra hne
          have hcount : 0 < min downloadConcurrency (totalChunks download) :=
            Nat.lt_min.mpr ⟨by decide, Nat.pos_of_ne_zero hne⟩
          cases hreads stream.nextChunkToRead ⟨Nat.le_refl _, Nat.lt_add_of_pos_right hcount⟩
        · intro hnone
          rw [hnone, Nat.min_zero]
          exact ⟨rfl, fun chunkIdx hrange => by omega⟩
  | readReturned chunkIdx result =>
    cases result with
    | error message =>
      refine ⟨fun _ => trivial, fun _ action hmem => ?_⟩
      unfold added at hmem
      dsimp only at hmem
      split at hmem
      · rw [List.mem_singleton.mp hmem]
        rfl
      · cases hmem
    | ok answer =>
      unfold added NothingToDo
      dsimp only
      split
      · rename_i hlive
        have hset : ∀ data, stream.emitting = none →
            ((stream.chunkBuffer.set chunkIdx data).get stream.nextChunkToEmit = none ↔
              chunkIdx ≠ stream.nextChunkToEmit) := by
          intro data hidle
          rw [OrderedMap.get_set]
          split
          · rename_i heq
            simp [heq]
          · rename_i hne
            simp [h.idle hidle, hne]
        have hchunk : (∀ action ∈ (if stream.emitting.isSome then []
            else chunkSent download (stream.chunkBuffer.set chunkIdx (answer.2.take answer.1))
              stream.nextChunkToEmit), action.isWork = false) ↔
            (stream.emitting = none → chunkIdx ≠ stream.nextChunkToEmit) := by
          cases hemitting : stream.emitting with
          | some isLast => simp
          | none =>
            rw [← hset (answer.2.take answer.1) hemitting, ← @chunkSent_quiet_iff download]
            simp
        have hread : (∀ action ∈ (if stream.fileHandle &&
            stream.nextChunkToRead < totalChunks download then
              [readOf download stream.nextChunkToRead] else []), action.isWork = false) ↔
            (stream.fileHandle = true → totalChunks download ≤ stream.nextChunkToRead) := by
          cases stream.fileHandle with
          | false => simp
          | true =>
            by_cases hmore : stream.nextChunkToRead < totalChunks download
            · simp [hmore, readOf_isWork]
            · simp [hmore, Nat.le_of_not_lt hmore]
        simp only [List.forall_mem_cons, List.forall_mem_append, hchunk, hread, hlive,
          forall_const]
        simp [Action.isWork, Action.isRead, Action.isChunk]
      · rename_i hdead
        simp only [List.not_mem_nil, false_implies, implies_true, true_iff]
        exact fun hmem herror => absurd ⟨hmem, herror⟩ hdead
  | chunkTaken now =>
    unfold added NothingToDo
    cases stream.emitting with
    | none => simp
    | some isLast =>
      have hprogress : ∀ action ∈ (if progressDue stream now then [Action.progress] else []),
          action.isWork = false := by
        split <;> simp [Action.isWork, Action.isRead, Action.isChunk]
      have hcomplete : ∀ action ∈ (if isLast && stream.tracked then [Action.complete] else []),
          action.isWork = false := by
        split <;> simp [Action.isWork, Action.isRead, Action.isChunk]
      simp only [List.forall_mem_cons, List.forall_mem_append, chunkSent_quiet_iff]
      constructor
      · rintro ⟨-, -, -, hnone⟩ -
        exact hnone
      · intro hnone
        exact ⟨rfl, hprogress, hcomplete, hnone (by simp)⟩

theorem added_quietAfter (event : Event) :
    QuietAfter Action.isCancelled Action.isWork (added download stream event) := by
  rcases @added_alone download stream event with ⟨action, halone⟩ | hneither
  · rw [halone]
    exact quietAfter_singleton _ _ action
  · exact quietAfter_of_unmarked fun action hmem => (hneither action hmem).2

-- Nothing is read before the file is open.
structure OpensFirst (stream : Stream) : Prop where
  log : Preceded Action.isOpened Action.isRead stream.log
  handle : stream.fileHandle = true → stream.log.any Action.isOpened = true

-- The handle comes from the open callback.
theorem step_fileHandle {event : Event} (h : (step download stream event).fileHandle = true) :
    stream.fileHandle = true ∨ (stream.opening = true ∧ event = .openReturned (.ok ())) := by
  cases event with
  | cancelDownload => exact .inl h
  | openReturned result =>
    unfold step at h
    dsimp only at h
    split at h
    · rename_i hopening
      cases result with
      | error message => exact .inl h
      | ok value => exact .inr ⟨hopening, rfl⟩
    · exact .inl h
  | readReturned chunkIdx result =>
    unfold step at h
    dsimp only at h
    split at h
    · cases result with
      | error message =>
        unfold readReturned at h
        dsimp only at h
        split at h
        · exact .inl h
        · cases h
      | ok answer =>
        obtain ⟨buffer, emitting, next, outstanding, log, heq⟩ :=
          @readReturned_ok_frame download stream chunkIdx answer
        rw [heq] at h
        exact .inl h
    · exact .inl h
  | chunkTaken now =>
    unfold step at h
    dsimp only at h
    split at h
    · rename_i isLast hemitting
      obtain ⟨lastProgressTime, buffer, emitting, entry, handle, tracked, resolved, log, heq,
        hhandle, -⟩ := @resumeEmitting_frame download (record stream .taken) isLast now
      rw [heq] at h
      exact .inl (hhandle h)
    · exact .inl h

theorem added_preceded (h : OpensFirst stream) (event : Event) :
    stream.log.any Action.isOpened = true ∨
      Preceded Action.isOpened Action.isRead (added download stream event) := by
  cases hhandle : stream.fileHandle with
  | true => exact .inl (h.handle hhandle)
  | false =>
    right
    cases event with
    | cancelDownload => exact .inr ⟨rfl, trivial⟩
    | openReturned result =>
      unfold added
      cases result with
      | error message =>
        dsimp only
        split
        · exact .inr ⟨rfl, trivial⟩
        · trivial
      | ok value =>
        dsimp only
        split
        · exact .inl rfl
        · trivial
    | readReturned chunkIdx result =>
      refine preceded_of_quiet fun action hmem => ?_
      unfold added at hmem
      dsimp only at hmem
      rw [hhandle] at hmem
      split at hmem
      · cases result with
        | error message =>
          rw [List.mem_singleton.mp hmem]
          rfl
        | ok answer =>
          rcases List.mem_cons.mp hmem with rfl | hrest
          · rfl
          · rw [Bool.false_and] at hrest
            rcases List.mem_append.mp hrest with hsent | hread
            · split at hsent
              · cases hsent
              · obtain ⟨data, -, rfl⟩ := mem_chunkSent hsent
                rfl
            · cases hread
      · cases hmem
    | chunkTaken now =>
      refine preceded_of_quiet fun action hmem => ?_
      unfold added at hmem
      dsimp only at hmem
      split at hmem
      · simp only [List.mem_cons, List.mem_append] at hmem
        rcases hmem with rfl | hprogress | hcomplete | hsent
        · rfl
        · split at hprogress
          · rw [List.mem_singleton.mp hprogress]
            rfl
          · cases hprogress
        · split at hcomplete
          · rw [List.mem_singleton.mp hcomplete]
            rfl
          · cases hcomplete
        · obtain ⟨data, -, rfl⟩ := mem_chunkSent hsent
          rfl
      · cases hmem

theorem step_opensFirst (h : OpensFirst stream) (hsound : Sound stream) (event : Event) :
    OpensFirst (step download stream event) := by
  have hlog := @step_log download stream hsound event
  refine ⟨?_, fun hhandle => ?_⟩
  · rw [hlog]
    exact preceded_append h.log (added_preceded h event)
  · rw [hlog, List.any_append, Bool.or_eq_true]
    rcases step_fileHandle hhandle with hold | ⟨hopening, rfl⟩
    · exact .inl (h.handle hold)
    · right
      unfold added
      simp [hopening, Action.isOpened]

theorem cancelTakesEffect_iff (h : OpensFirst stream) :
    CancelTakesEffect stream.log ↔ QuietAfter Action.isCancelled Action.isWork stream.log := by
  refine ⟨CancelTakesEffect.later, fun hlater => ⟨hlater, ?_⟩⟩
  intro before after hlog hopened action hmem
  have hfirst := h.log
  have hquiet := quietAfter_iff.mp hlater before .cancelled after hlog rfl
  rw [hlog] at hfirst hmem
  rcases List.mem_append.mp hmem with hbefore | hafter
  · exact quiet_of_preceded hfirst hopened action hbefore
  · rcases List.mem_cons.mp hafter with rfl | hin
    · rfl
    · exact (Bool.or_eq_false_iff.mp (hquiet action hin)).1

theorem step_cancel_iff (hsound : Sound stream) (hfirst : OpensFirst stream)
    (h : CancelTakesEffect stream.log) (event : Event) :
    CancelTakesEffect (step download stream event).log ↔
      QuietOnceCancelled download stream event := by
  rw [cancelTakesEffect_iff (step_opensFirst hfirst hsound event), step_log hsound,
    quietAfter_append]
  unfold QuietOnceCancelled
  rw [← added_quiet_iff hsound event]
  constructor
  · rintro ⟨-, -, hquiet⟩
    exact hquiet
  · intro hquiet
    exact ⟨h.later, added_quietAfter event, hquiet⟩

theorem start_opensFirst (download : Download) (hasSession : Bool) (now : Int) :
    OpensFirst (streamDownloadChunks download hasSession now) := by
  cases hasSession with
  | true => exact ⟨trivial, nofun⟩
  | false => exact ⟨.inr ⟨rfl, trivial⟩, nofun⟩

theorem start_cancelTakesEffect (download : Download) (hasSession : Bool) (now : Int) :
    CancelTakesEffect (streamDownloadChunks download hasSession now).log := by
  rw [cancelTakesEffect_iff (start_opensFirst download hasSession now)]
  cases hasSession with
  | true => trivial
  | false => exact quietAfter_singleton _ _ _

-- Cancellation takes effect in all of a run exactly when every step after it finds
-- nothing left to do.
theorem cancel_takes_effect_iff (download : Download) (hasSession : Bool) (now : Int)
    (events : List Event) :
    Throughout (step download) (fun stream => CancelTakesEffect stream.log)
        (streamDownloadChunks download hasSession now) events ↔
      Along (step download) (QuietOnceCancelled download)
        (streamDownloadChunks download hasSession now) events :=
  @throughout_iff_along _ _ (step download) (fun stream => Sound stream ∧ OpensFirst stream)
    (fun stream => CancelTakesEffect stream.log) (QuietOnceCancelled download)
    (fun _ event h => ⟨step_sound h.1 event, step_opensFirst h.2 h.1 event⟩)
    (fun _ event h hcancel => step_cancel_iff h.1 h.2 hcancel event) _
    ⟨start_sound download hasSession now, start_opensFirst download hasSession now⟩
    (start_cancelTakesEffect download hasSession now) events

def twoBytes : Download where
  transferId := js "t"
  remotePath := js "/f"
  fileSize := 2
  chunkSize := 1

-- The cancellation comes before the file is open, and both chunks are read and sent.
def cancelledEarly : List Event :=
  [.cancelDownload, .openReturned (.ok ()), .readReturned 0 (.ok (1, [7])), .chunkTaken 0,
    .readReturned 1 (.ok (1, [8]))]

theorem cancelledEarly_reads_on :
    ((run (step twoBytes) (streamDownloadChunks twoBytes true 0) cancelledEarly).log.countP
        Action.isWork = 4) ∧
      ¬ Throughout (step twoBytes) (fun stream => CancelTakesEffect stream.log)
        (streamDownloadChunks twoBytes true 0) cancelledEarly := by
  refine ⟨by decide, fun hthroughout => ?_⟩
  have hlater := (throughout_last _ hthroughout).later
  revert hlater
  decide

end WebSsh2.Sftp.DownloadStream

import WebSsh2.Sftp.DownloadEvents

namespace WebSsh2.Sftp.DownloadStream

open WebSsh2.Library

variable {download : Download} {stream : Stream}

-- The chunks that were handed to `onChunk`, the pending one included.
def sent (stream : Stream) : Nat :=
  stream.nextChunkToEmit + if stream.emitting.isSome then 1 else 0

-- Every chunk from `next` on that was asked for is outstanding or may be in the
-- buffer, never both; and nothing is asked for twice or beyond the file.
structure ReadsFrom (download : Download) (stream : Stream) (next : Nat) : Prop where
  nodup : stream.outstanding.Nodup
  outstanding : ∀ chunkIdx ∈ stream.outstanding,
    next ≤ chunkIdx ∧ chunkIdx < stream.nextChunkToRead
  buffered : ∀ chunkIdx data, stream.chunkBuffer.get chunkIdx = some data →
    chunkIdx ∉ stream.outstanding ∧ next ≤ chunkIdx ∧ chunkIdx < stream.nextChunkToRead
  started : next ≤ stream.nextChunkToRead
  bound : stream.nextChunkToRead ≤ totalChunks download

structure Reads (download : Download) (stream : Stream) : Prop where
  chunks : ReadsFrom download stream (sent stream)
  last : ∀ isLast, stream.emitting = some isLast →
    isLast = decide (stream.nextChunkToEmit + 1 = totalChunks download)

theorem reads_emitNext (h : ReadsFrom download stream stream.nextChunkToEmit) :
    Reads download (emitNext download stream) := by
  unfold emitNext
  cases hget : stream.chunkBuffer.get stream.nextChunkToEmit with
  | none => exact ⟨⟨h.nodup, h.outstanding, h.buffered, h.started, h.bound⟩, nofun⟩
  | some data =>
    obtain ⟨hnot, -, hlt⟩ := h.buffered _ data hget
    refine ⟨⟨h.nodup, fun chunkIdx hmem => ?_, fun chunkIdx other hother => ?_, hlt, h.bound⟩, ?_⟩
    · obtain ⟨hle, hread⟩ := h.outstanding chunkIdx hmem
      have hne : chunkIdx ≠ stream.nextChunkToEmit := fun heq => hnot (heq ▸ hmem)
      exact ⟨show stream.nextChunkToEmit + 1 ≤ chunkIdx by omega, hread⟩
    · change (stream.chunkBuffer.delete stream.nextChunkToEmit).get chunkIdx = some other
        at hother
      have hne : stream.nextChunkToEmit ≠ chunkIdx := by
        intro heq
        rw [OrderedMap.get_delete, if_pos heq] at hother
        cases hother
      obtain ⟨hout, hle, hread⟩ := h.buffered _ other (OrderedMap.get_of_get_delete hother)
      exact ⟨hout, show stream.nextChunkToEmit + 1 ≤ chunkIdx by omega, hread⟩
    · intro isLast hlast
      cases hlast
      rfl

theorem reads_emitBufferedChunks (h : Reads download stream) :
    Reads download (emitBufferedChunks download stream) := by
  unfold emitBufferedChunks
  split
  · exact h
  · rename_i hidle
    have hchunks := h.chunks
    unfold sent at hchunks
    rw [if_neg hidle] at hchunks
    exact reads_emitNext hchunks

theorem reads_readNext (h : Reads download stream)
    (hmore : stream.nextChunkToRead < totalChunks download) :
    Reads download (readNext download stream) := by
  obtain ⟨hchunks, hlast⟩ := h
  unfold readNext readChunk
  split
  · refine ⟨⟨hchunks.nodup, fun chunkIdx hmem => ?_, fun chunkIdx data hget => ?_, ?_, hmore⟩,
      hlast⟩
    · obtain ⟨hle, hlt⟩ := hchunks.outstanding chunkIdx hmem
      exact ⟨hle, Nat.lt_succ_of_lt hlt⟩
    · obtain ⟨hout, hle, hlt⟩ := hchunks.buffered chunkIdx data hget
      exact ⟨hout, hle, Nat.lt_succ_of_lt hlt⟩
    · exact Nat.le_succ_of_le hchunks.started
  · refine ⟨⟨?_, fun chunkIdx hmem => ?_, fun chunkIdx data hget => ?_, ?_, hmore⟩, hlast⟩
    · refine List.nodup_append.mpr ⟨hchunks.nodup, List.nodup_singleton _, ?_⟩
      intro chunkIdx hmem other hother
      rw [List.mem_singleton.mp hother]
      exact Nat.ne_of_lt (hchunks.outstanding chunkIdx hmem).2
    · rcases List.mem_append.mp hmem with hold | hnew
      · obtain ⟨hle, hlt⟩ := hchunks.outstanding chunkIdx hold
        exact ⟨hle, Nat.lt_succ_of_lt hlt⟩
      · rw [List.mem_singleton.mp hnew]
        exact ⟨hchunks.started, Nat.lt_succ_self _⟩
    · obtain ⟨hout, hle, hlt⟩ := hchunks.buffered chunkIdx data hget
      refine ⟨fun hmem => ?_, hle, Nat.lt_succ_of_lt hlt⟩
      rcases List.mem_append.mp hmem with hold | hnew
      · exact hout hold
      · exact absurd (List.mem_singleton.mp hnew) (Nat.ne_of_lt hlt)
    · exact Nat.le_succ_of_le hchunks.started

theorem readNext_nextChunkToRead :
    (readNext download stream).nextChunkToRead = stream.nextChunkToRead + 1 := by
  unfold readNext readChunk
  split <;> rfl

theorem reads_startReads (h : Reads download stream) (count : Nat)
    (hcount : stream.nextChunkToRead + count ≤ totalChunks download) :
    Reads download (startReads download stream count) := by
  induction count generalizing stream with
  | zero => exact h
  | succ count ih =>
    refine ih (reads_readNext h (by omega)) ?_
    rw [readNext_nextChunkToRead]
    omega

theorem reads_storeChunk (h : Reads download stream) {chunkIdx : Nat}
    (hmem : chunkIdx ∈ stream.outstanding) (data : Bytes) :
    Reads download (storeChunk
      { stream with outstanding := stream.outstanding.erase chunkIdx } chunkIdx data) := by
  obtain ⟨hchunks, hlast⟩ := h
  have hown := hchunks.outstanding chunkIdx hmem
  refine ⟨⟨hchunks.nodup.erase _, fun other hother => ?_, fun other found hget => ?_,
    hchunks.started, hchunks.bound⟩, hlast⟩
  · exact hchunks.outstanding other (List.mem_of_mem_erase hother)
  · change (stream.chunkBuffer.set chunkIdx data).get other = some found at hget
    show other ∉ stream.outstanding.erase chunkIdx ∧ _
    rw [OrderedMap.get_set] at hget
    split at hget
    · rename_i heq
      subst heq
      exact ⟨hchunks.nodup.not_mem_erase, hown⟩
    · obtain ⟨hout, hrest⟩ := hchunks.buffered other found hget
      exact ⟨fun hin => hout (List.mem_of_mem_erase hin), hrest⟩

theorem reads_erase (h : Reads download stream) (chunkIdx : Nat) :
    Reads download { stream with outstanding := stream.outstanding.erase chunkIdx } := by
  obtain ⟨hchunks, hlast⟩ := h
  refine ⟨⟨hchunks.nodup.erase _, fun other hother => ?_, fun other found hget => ?_,
    hchunks.started, hchunks.bound⟩, hlast⟩
  · exact hchunks.outstanding other (List.mem_of_mem_erase hother)
  · obtain ⟨hout, hrest⟩ := hchunks.buffered other found hget
    exact ⟨fun hin => hout (List.mem_of_mem_erase hin), hrest⟩

-- Nothing but the counters and the chunks matters.
theorem reads_of_same {stream' : Stream} (h : Reads download stream)
    (houtstanding : stream'.outstanding = stream.outstanding)
    (hbuffer : stream'.chunkBuffer = stream.chunkBuffer)
    (hemitting : stream'.emitting = stream.emitting)
    (hread : stream'.nextChunkToRead = stream.nextChunkToRead)
    (hemit : stream'.nextChunkToEmit = stream.nextChunkToEmit) : Reads download stream' := by
  obtain ⟨⟨hnodup, hout, hbuffered, hstarted, hbound⟩, hlast⟩ := h
  have hsent : sent stream' = sent stream := by rw [sent, sent, hemitting, hemit]
  refine ⟨⟨?_, ?_, ?_, ?_, ?_⟩, ?_⟩
  · rw [houtstanding]
    exact hnodup
  · rw [houtstanding, hsent, hread]
    exact hout
  · rw [houtstanding, hbuffer, hsent, hread]
    exact hbuffered
  · rw [hsent, hread]
    exact hstarted
  · rw [hread]
    exact hbound
  · rw [hemitting, hemit]
    exact hlast

theorem reads_readReturned (h : Reads download stream) {chunkIdx : Nat}
    (hmem : chunkIdx ∈ stream.outstanding) (result : Except JsString (Nat × Bytes)) :
    Reads download (readReturned download stream chunkIdx result) := by
  have herased := reads_erase h chunkIdx
  unfold readReturned
  dsimp only
  split
  · exact herased
  · cases result with
    | error message => exact reads_of_same herased rfl rfl rfl rfl rfl
    | ok answer =>
      have hstored := reads_emitBufferedChunks
        (reads_storeChunk h hmem (answer.2.take answer.1))
      dsimp only
      split
      · rename_i hmore
        exact reads_readNext hstored hmore
      · exact hstored

theorem reads_finishEmitting (h : ReadsFrom download stream stream.nextChunkToEmit) :
    Reads download (finishEmitting download stream) := by
  have hidle : Reads download { stream with emitting := none } :=
    ⟨⟨h.nodup, h.outstanding, h.buffered, h.started, h.bound⟩, nofun⟩
  unfold finishEmitting
  dsimp only
  split
  · exact reads_emitBufferedChunks hidle
  · exact hidle

theorem reads_resumeEmitting (h : Reads download stream) (isLast : Bool)
    (hemitting : stream.emitting = some isLast) (now : Int) :
    Reads download (resumeEmitting download stream isLast now) := by
  have hchunks := h.chunks
  unfold sent at hchunks
  rw [hemitting] at hchunks
  obtain ⟨lastProgressTime, log, hprogress⟩ := @emitProgressIfDue_frame stream now
  unfold resumeEmitting
  rw [hprogress]
  cases isLast with
  | false =>
    exact reads_emitNext ⟨hchunks.nodup, hchunks.outstanding, hchunks.buffered,
      hchunks.started, hchunks.bound⟩
  | true =>
    rw [if_pos rfl]
    obtain ⟨tracked, done, hcomplete, -⟩ := @completeDownload_frame { stream with
      lastProgressTime, log, nextChunkToEmit := stream.nextChunkToEmit + 1 }
    rw [hcomplete]
    exact reads_finishEmitting ⟨hchunks.nodup, hchunks.outstanding, hchunks.buffered,
      hchunks.started, hchunks.bound⟩

theorem reads_openReturned (h : Reads download stream) (hsound : Sound stream)
    (hopening : stream.opening = true) (result : Except JsString Unit) :
    Reads download (openReturned download stream result) := by
  cases result with
  | error message => exact reads_of_same h rfl rfl rfl rfl rfl
  | ok value =>
    have hnone : stream.nextChunkToRead = 0 := (hsound.fresh hopening).2.1
    have hhandle : Reads download (takeHandle { stream with opening := false }) :=
      reads_of_same h rfl rfl rfl rfl rfl
    rw [openReturned_ok hsound]
    refine reads_startReads hhandle _ ?_
    show stream.nextChunkToRead + _ ≤ _
    rw [hnone]
    omega

theorem step_reads (h : Reads download stream) (hsound : Sound stream) (event : Event) :
    Reads download (step download stream event) := by
  cases event with
  | openReturned result =>
    unfold step
    dsimp only
    split
    · rename_i hopening
      exact reads_openReturned h hsound hopening result
    · exact h
  | readReturned chunkIdx result =>
    unfold step
    dsimp only
    split
    · rename_i hmem
      exact reads_readReturned h hmem result
    · exact h
  | chunkTaken now =>
    unfold step
    dsimp only
    split
    · rename_i isLast hemitting
      have htaken : Reads download (record stream .taken) :=
        reads_of_same h rfl rfl rfl rfl rfl
      exact reads_resumeEmitting htaken isLast hemitting now
    · exact h
  | cancelDownload => exact reads_of_same h rfl rfl rfl rfl rfl

theorem start_reads (download : Download) (hasSession : Bool) (now : Int) :
    Reads download (streamDownloadChunks download hasSession now) := by
  have hfresh : Reads download { lastProgressTime := now } :=
    ⟨⟨List.nodup_nil, nofun, nofun, Nat.le_refl 0, Nat.zero_le _⟩, nofun⟩
  cases hasSession with
  | true => exact hfresh
  | false => exact reads_of_same hfresh rfl rfl rfl rfl rfl

end WebSsh2.Sftp.DownloadStream

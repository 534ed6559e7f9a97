import WebSsh2.Sftp.ShellDownload

namespace WebSsh2.Sftp.ShellDownload

open WebSsh2.Library WebSsh2.Library.Pieces WebSsh2.Library.Run WebSsh2.State

def Action.chunkOf : Action → Option SftpDownloadChunk
  | .chunk sent => some sent
  | _ => none

def Action.isProgress : Action → Bool
  | .progress _ => true
  | _ => false

def chunksOf (log : List Action) : List SftpDownloadChunk :=
  log.filterMap Action.chunkOf

theorem chunksOf_append (first second : List Action) :
    chunksOf (first ++ second) = chunksOf first ++ chunksOf second :=
  List.filterMap_append

theorem chunksOf_progress {log : List Action} (h : ∀ action ∈ log, action.isProgress = true) :
    chunksOf log = [] := by
  refine List.filterMap_eq_nil_iff.mpr fun action hmem => ?_
  have hprogress := h action hmem
  cases action <;> first | rfl | cases hprogress

section Emission

variable {runtime : Runtime} {download : Download} {clock : Nat → Time} {stream : Stream}

-- An update leaves the transfer in the manager, or leaves it out of it.
theorem updateProgress_tracked (manager : TransferManager) (transferId : TransferId)
    (chunkIndex : Number) (bytesReceived : Nat) (now : Time) :
    ((manager.updateProgress runtime transferId chunkIndex bytesReceived now).1.transfers.get
      transferId).isSome = (manager.transfers.get transferId).isSome := by
  unfold TransferManager.updateProgress
  cases hget : manager.transfers.get transferId with
  | none => simp [hget]
  | some transfer =>
    dsimp only
    split
    · simp [hget]
    · split
      · simp [hget]
      · simp

theorem emitProgressIfDue_frame (now : Time) :
    ∃ lastProgressTime more, emitProgressIfDue download stream now =
        { stream with lastProgressTime, log := stream.log ++ more } ∧
      ∀ action ∈ more, Action.isProgress action = true := by
  unfold emitProgressIfDue
  split
  · exact ⟨stream.lastProgressTime, [], by rw [List.append_nil], by simp⟩
  · dsimp only
    split
    · rename_i progress _
      exact ⟨now, [.progress progress], rfl, by simp [Action.isProgress]⟩
    · exact ⟨now, [], by rw [List.append_nil], by simp⟩

-- A chunk is sent under the next index, and progress may follow it.
theorem emitChunk_frame (data : Bytes) (isLast : Bool) :
    ∃ transferManager lastProgressTime more, emitChunk runtime download clock stream data isLast =
        { stream with
          transferManager
          lastProgressTime
          chunkIndex := stream.chunkIndex + 1
          log := stream.log ++ .chunk ⟨stream.chunkIndex, data, isLast⟩ :: more } ∧
      (transferManager.transfers.get download.transferId).isSome = tracked download stream ∧
      ∀ action ∈ more, Action.isProgress action = true := by
  obtain ⟨lastProgressTime, more, hprogress, hmore⟩ := @emitProgressIfDue_frame download
    (record { stream with
      transferManager := (stream.transferManager.updateProgress runtime download.transferId
        (.ofInt stream.chunkIndex) data.length (clock stream.chunkIndex)).1 }
      (.chunk ⟨stream.chunkIndex, data, isLast⟩)) (clock stream.chunkIndex)
  refine ⟨_, lastProgressTime, more, ?_, @updateProgress_tracked runtime stream.transferManager
    download.transferId (.ofInt stream.chunkIndex) data.length (clock stream.chunkIndex), hmore⟩
  unfold emitChunk
  dsimp only
  rw [hprogress]
  simp [record, List.append_assoc]

-- What every turn of the loop keeps, the loop keeps.
theorem emitWhole_invariant (Inv : Stream → Prop)
    (hturn : ∀ stream : Stream, download.chunkSize ≤ stream.buffer.length → Inv stream →
      Inv (emitChunk runtime download clock
        { stream with buffer := stream.buffer.drop download.chunkSize }
        (stream.buffer.take download.chunkSize) false))
    (fuel : Nat) (h : Inv stream) : Inv (emitWhole runtime download clock stream fuel) := by
  induction fuel generalizing stream with
  | zero => exact h
  | succ fuel ih =>
    unfold emitWhole
    by_cases hwhole : download.chunkSize ≤ stream.buffer.length
    · rw [if_pos hwhole]
      exact ih (hturn stream hwhole h)
    · rw [if_neg hwhole]
      exact h

-- The loop ends with less than a chunk in the buffer.
theorem emitWhole_length (fuel : Nat) (hfuel : stream.buffer.length ≤ fuel) :
    (emitWhole runtime download clock stream fuel).buffer.length < download.chunkSize := by
  have hsize := download.chunkSize_pos
  induction fuel generalizing stream with
  | zero =>
    unfold emitWhole
    omega
  | succ fuel ih =>
    unfold emitWhole
    by_cases hwhole : download.chunkSize ≤ stream.buffer.length
    · rw [if_pos hwhole]
      apply ih
      obtain ⟨transferManager, lastProgressTime, more, hframe, -⟩ :=
        @emitChunk_frame runtime download clock
          { stream with buffer := stream.buffer.drop download.chunkSize }
          (stream.buffer.take download.chunkSize) false
      rw [hframe]
      show (stream.buffer.drop download.chunkSize).length ≤ fuel
      rw [List.length_drop]
      omega
    · rw [if_neg hwhole]
      omega

end Emission

-- The chunks of an input: its whole pieces, and what is left as the last one.
def rechunk (size : Nat) (input : Bytes) : List SftpDownloadChunk :=
  (List.range (wholeCount size input)).map (fun index => ⟨index, piece size input index, false⟩) ++
    [⟨wholeCount size input, remainder size input, true⟩]

section Chunks

variable {size : Nat} {input : Bytes}

theorem rechunk_indexes :
    (rechunk size input).map SftpDownloadChunk.chunkIndex =
      List.range (rechunk size input).length := by
  simp [rechunk, List.range_succ, Function.comp_def]

theorem rechunk_flatten : ((rechunk size input).map SftpDownloadChunk.data).flatten = input := by
  have hflatten := flatten_pieces_remainder size input
  simpa [rechunk, Function.comp_def] using hflatten

theorem rechunk_whole :
    ∀ chunk ∈ (rechunk size input).dropLast, chunk.data.length = size ∧ chunk.isLast = false := by
  unfold rechunk
  rw [List.dropLast_concat]
  intro chunk hmem
  obtain ⟨index, hindex, rfl⟩ := List.mem_map.mp hmem
  exact ⟨length_piece_of_whole (List.mem_range.mp hindex), rfl⟩

theorem rechunk_last :
    (rechunk size input).getLast?.map SftpDownloadChunk.isLast = some true := by
  simp [rechunk]

end Chunks

section Carry

variable {runtime : Runtime} {download : Download} {clock : Nat → Time} {input : Bytes}
  {stream : Stream}

-- What was sent are the first pieces of what came in, and the rest is in the buffer.
structure Carries (download : Download) (input : Bytes) (stream : Stream) : Prop where
  sent : chunksOf stream.log = (List.range stream.chunkIndex).map fun index =>
    ⟨index, piece download.chunkSize input index, false⟩
  rest : stream.buffer = input.drop (stream.chunkIndex * download.chunkSize)
  within : stream.chunkIndex * download.chunkSize ≤ input.length

-- The output is being read, and nobody cancelled.
structure Reading (stream : Stream) : Prop where
  channel : stream.channel = true
  running : stream.ended = false
  uncancelled : stream.cancelled = false

structure Carrying (download : Download) (input : Bytes) (stream : Stream) : Prop where
  reading : Reading stream
  carries : Carries download input stream

theorem Carries.buffer_length (h : Carries download input stream) :
    stream.buffer.length + stream.chunkIndex * download.chunkSize = input.length := by
  have hwithin := h.within
  rw [h.rest, List.length_drop]
  omega

theorem Carries.wholeCount_eq (h : Carries download input stream)
    (hlength : stream.buffer.length < download.chunkSize) :
    wholeCount download.chunkSize input = stream.chunkIndex := by
  unfold wholeCount
  rw [← h.buffer_length, Nat.add_mul_div_right _ _ download.chunkSize_pos,
    Nat.div_eq_of_lt hlength, Nat.zero_add]

theorem Carries.append (h : Carries download input stream) (data : Bytes) :
    Carries download (input ++ data)
      { record stream (.received data) with buffer := stream.buffer ++ data } := by
  refine ⟨?_, ?_, ?_⟩
  · show chunksOf (stream.log ++ [.received data]) = _
    rw [chunksOf_append, h.sent, show chunksOf [.received data] = [] from rfl, List.append_nil]
    refine List.map_congr_left fun index hindex => ?_
    have hle := Nat.mul_le_mul_right download.chunkSize
      (Nat.succ_le_of_lt (List.mem_range.mp hindex))
    rw [piece_append (hle.trans h.within)]
  · show stream.buffer ++ data = _
    rw [h.rest]
    exact (List.drop_append_of_le_length h.within).symm
  · show stream.chunkIndex * download.chunkSize ≤ (input ++ data).length
    have hwithin := h.within
    rw [List.length_append]
    omega

theorem Carrying.emitChunk (h : Carrying download input stream)
    (hwhole : download.chunkSize ≤ stream.buffer.length) :
    Carrying download input (emitChunk runtime download clock
      { stream with buffer := stream.buffer.drop download.chunkSize }
      (stream.buffer.take download.chunkSize) false) := by
  obtain ⟨transferManager, lastProgressTime, more, hframe, -, hmore⟩ :=
    @emitChunk_frame runtime download clock
      { stream with buffer := stream.buffer.drop download.chunkSize }
      (stream.buffer.take download.chunkSize) false
  have hlength := h.carries.buffer_length
  rw [hframe]
  refine ⟨⟨h.reading.channel, h.reading.running, h.reading.uncancelled⟩, ?_, ?_, ?_⟩
  · dsimp only
    rw [chunksOf_append, h.carries.sent, List.range_succ, List.map_append]
    show _ ++ _ :: chunksOf more = _
    rw [chunksOf_progress hmore, h.carries.rest]
    rfl
  · show stream.buffer.drop download.chunkSize = _
    rw [h.carries.rest, List.drop_drop, Nat.succ_mul]
  · show (stream.chunkIndex + 1) * download.chunkSize ≤ _
    rw [Nat.succ_mul]
    omega

-- A data event sends every chunk that is full.
theorem Carrying.dataReceived (h : Carrying download input stream) (data : Bytes) :
    Carrying download (input ++ data) (dataReceived runtime download clock stream data) ∧
      (dataReceived runtime download clock stream data).buffer.length < download.chunkSize := by
  unfold ShellDownload.dataReceived
  dsimp only
  rw [if_neg (by simp [record, h.reading.uncancelled])]
  refine ⟨?_, emitWhole_length _ (Nat.le_refl _)⟩
  refine emitWhole_invariant (Carrying download (input ++ data)) ?_ _ ?_
  · exact fun _ hwhole hcarrying => hcarrying.emitChunk hwhole
  · exact ⟨⟨h.reading.channel, h.reading.running, h.reading.uncancelled⟩, h.carries.append data⟩

theorem step_data (h : Reading stream) (data : Bytes) :
    step runtime download clock stream (.data data) =
      ShellDownload.dataReceived runtime download clock stream data := by
  unfold step
  dsimp only
  rw [if_pos (by simp [h.channel, h.running])]

theorem step_ended (h : Reading stream) (now : Time) :
    step runtime download clock stream (.ended now) =
      outputEnded runtime download clock stream now := by
  unfold step
  dsimp only
  rw [if_pos (by simp [h.channel, h.running])]

theorem Carrying.run_data (h : Carrying download input stream)
    (hlength : stream.buffer.length < download.chunkSize) (parts : List Bytes) :
    Carrying download (input ++ parts.flatten)
        (run (step runtime download clock) stream (parts.map .data)) ∧
      (run (step runtime download clock) stream (parts.map .data)).buffer.length <
        download.chunkSize := by
  induction parts generalizing stream input with
  | nil =>
    rw [List.flatten_nil, List.append_nil]
    exact ⟨h, hlength⟩
  | cons data rest ih =>
    rw [List.map_cons, run_cons, List.flatten_cons, ← List.append_assoc, step_data h.reading]
    obtain ⟨hcarrying, hshort⟩ := h.dataReceived data
    exact ih hcarrying hshort

theorem chunksOf_outputEnded (h : Carrying download input stream)
    (hlength : stream.buffer.length < download.chunkSize) (now : Time) :
    chunksOf (outputEnded runtime download clock stream now).log =
      rechunk download.chunkSize input := by
  have hcount := h.carries.wholeCount_eq hlength
  obtain ⟨transferManager, lastProgressTime, more, hframe, -, hmore⟩ :=
    @emitChunk_frame runtime download clock (record { stream with ended := true } .ended)
      stream.buffer true
  have hsent : chunksOf (emitChunk runtime download clock
      (record { stream with ended := true } .ended) stream.buffer true).log =
        rechunk download.chunkSize input := by
    rw [hframe]
    show chunksOf ((stream.log ++ [.ended]) ++ _ :: more) = _
    rw [chunksOf_append, chunksOf_append, h.carries.sent]
    show (_ ++ []) ++ _ :: chunksOf more = _
    rw [chunksOf_progress hmore, h.carries.rest, List.append_nil]
    unfold rechunk remainder
    rw [hcount]
    rfl
  unfold outputEnded
  dsimp only
  rw [if_neg (by simp [record, h.reading.uncancelled])]
  split
  · show chunksOf ((emitChunk _ _ _ _ _ _).log ++ [_]) = _
    rw [chunksOf_append]
    exact (List.append_nil _).trans hsent
  · exact hsent

-- The chunks of a download whose output comes in `parts` and then ends.
def streamedChunks (runtime : Runtime) (download : Download) (clock : Nat → Time)
    (transferManager : TransferManager) (started ended : Time) (parts : List Bytes) :
    List SftpDownloadChunk :=
  chunksOf (run (step runtime download clock)
    (streamDownloadChunks download transferManager true true)
    (.execReturned (.ok ()) started :: parts.map .data ++ [.ended ended])).log

theorem streamedChunks_eq (transferManager : TransferManager) (started ended : Time)
    (parts : List Bytes) :
    streamedChunks runtime download clock transferManager started ended parts =
      rechunk download.chunkSize parts.flatten := by
  have hstart : Carrying download [] (step runtime download clock
      (streamDownloadChunks download transferManager true true)
      (.execReturned (.ok ()) started)) :=
    ⟨⟨rfl, rfl, rfl⟩, ⟨rfl, by simp [step, streamDownloadChunks, execReturned],
      by simp [step, streamDownloadChunks, execReturned]⟩⟩
  obtain ⟨hcarrying, hshort⟩ :=
    @Carrying.run_data runtime download clock _ _ hstart download.chunkSize_pos parts
  unfold streamedChunks
  rw [List.cons_append, run_cons, run_append, run_cons, run_nil, step_ended hcarrying.reading]
  exact chunksOf_outputEnded hcarrying hshort ended

-- However the output is cut into data events, the chunks are the same: numbered from
-- zero, all of them full but the last, and together what came in.
theorem streamedChunks_rechunked (runtime : Runtime) (download : Download) (clock : Nat → Time)
    (transferManager : TransferManager) (started ended : Time) (parts : List Bytes) :
    let chunks := streamedChunks runtime download clock transferManager started ended
    (chunks parts).map SftpDownloadChunk.chunkIndex = List.range (chunks parts).length ∧
      ((chunks parts).map SftpDownloadChunk.data).flatten = parts.flatten ∧
      (∀ chunk ∈ (chunks parts).dropLast,
        chunk.data.length = download.chunkSize ∧ chunk.isLast = false) ∧
      (chunks parts).getLast?.map SftpDownloadChunk.isLast = some true ∧
      ∀ others : List Bytes, others.flatten = parts.flatten → chunks others = chunks parts := by
  dsimp only
  rw [streamedChunks_eq]
  refine ⟨rechunk_indexes, rechunk_flatten, rechunk_whole, rechunk_last, ?_⟩
  intro others hflatten
  rw [streamedChunks_eq, hflatten]

end Carry

end WebSsh2.Sftp.ShellDownload

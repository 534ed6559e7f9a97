import WebSsh2.Sftp.DownloadOutcome

namespace WebSsh2.Sftp.DownloadStream

open WebSsh2.Library WebSsh2.Library.Run WebSsh2.Library.Trace

namespace Action

def chunkIndex : Action → Option Nat
  | .chunk chunkIndex _ _ => some chunkIndex
  | _ => none

def readIndex : Action → Option Nat
  | .read chunkIdx _ _ => some chunkIdx
  | _ => none

def arrivedIndex : Action → Option Nat
  | .arrived chunkIdx _ => some chunkIdx
  | _ => none

end Action

-- The file opens and every read succeeds.
def Event.isOrderly : Event → Bool
  | .openReturned (.ok ()) => true
  | .readReturned _ (.ok _) => true
  | .chunkTaken _ => true
  | _ => false

-- What the log says about the chunks up to `count`, of which `taken` were taken.
structure Ledger (download : Download) (log : List Action) (buffer : OrderedMap Nat Bytes)
    (outstanding : List Nat) (next count taken : Nat) : Prop where
  chunks : log.filterMap Action.chunkIndex = List.range count
  taken : log.countP Action.isTaken = taken
  overlap : Within Action.isChunk Action.isTaken 1 log
  reads : log.filterMap Action.readIndex = List.range next
  arrivals : (log.filterMap Action.arrivedIndex).Nodup
  settled : ∀ chunkIdx, chunkIdx ∈ log.filterMap Action.arrivedIndex ↔
    chunkIdx < next ∧ chunkIdx ∉ outstanding
  flight : log.countP Action.isRead = log.countP Action.isArrived + outstanding.length
  limit : Within Action.isRead Action.isArrived downloadConcurrency log
  room : outstanding.length ≤ downloadConcurrency
  kept : ∀ chunkIdx, count ≤ chunkIdx → chunkIdx < next → chunkIdx ∉ outstanding →
    buffer.get chunkIdx ≠ none
  found : ∀ chunkIdx data, buffer.get chunkIdx = some data → .arrived chunkIdx data ∈ log
  sent : ∀ chunkIdx data isLast, .chunk chunkIdx data isLast ∈ log →
    .arrived chunkIdx data ∈ log ∧ isLast = decide (chunkIdx + 1 = totalChunks download)
  asked : ∀ chunkIdx offset length, .read chunkIdx offset length ∈ log →
    .read chunkIdx offset length = readOf download chunkIdx

section Ledger

variable {download : Download} {log : List Action} {buffer : OrderedMap Nat Bytes}
  {outstanding : List Nat} {next count taken : Nat}

theorem countP_isChunk (log : List Action) :
    log.countP Action.isChunk = (log.filterMap Action.chunkIndex).length := by
  induction log with
  | nil => rfl
  | cons action rest ih =>
    cases action <;>
      simp [List.countP_cons, List.filterMap_cons, Action.isChunk, Action.chunkIndex, ih]

variable {action : Action}

theorem Ledger.sent_concat (h : Ledger download log buffer outstanding next count taken)
    (hnot : action.chunkIndex = none) (chunkIdx : Nat) (data : Bytes) (isLast : Bool)
    (hmem : .chunk chunkIdx data isLast ∈ log ++ [action]) :
    .arrived chunkIdx data ∈ log ++ [action] ∧
      isLast = decide (chunkIdx + 1 = totalChunks download) := by
  rcases List.mem_append.mp hmem with hold | hnew
  · obtain ⟨hfrom, hlast⟩ := h.sent chunkIdx data isLast hold
    exact ⟨List.mem_append_left _ hfrom, hlast⟩
  · rw [← List.mem_singleton.mp hnew] at hnot
    cases hnot

theorem Ledger.asked_concat (h : Ledger download log buffer outstanding next count taken)
    (hnot : action.readIndex = none) (chunkIdx offset length : Nat)
    (hmem : .read chunkIdx offset length ∈ log ++ [action]) :
    .read chunkIdx offset length = readOf download chunkIdx := by
  rcases List.mem_append.mp hmem with hold | hnew
  · exact h.asked chunkIdx offset length hold
  · rw [← List.mem_singleton.mp hnew] at hnot
    cases hnot

-- An entry about something else.
theorem Ledger.other (h : Ledger download log buffer outstanding next count taken)
    (hchunk : action.chunkIndex = none) (hread : action.readIndex = none)
    (harrived : action.arrivedIndex = none) (htaken : action.isTaken = false) :
    Ledger download (log ++ [action]) buffer outstanding next count taken := by
  have hkinds : action.isChunk = false ∧ action.isRead = false ∧ action.isArrived = false := by
    cases action <;> simp_all [Action.isChunk, Action.isRead, Action.isArrived,
      Action.chunkIndex, Action.readIndex, Action.arrivedIndex]
  obtain ⟨hnotChunk, hnotRead, hnotArrived⟩ := hkinds
  exact {
    chunks := by simp [h.chunks, hchunk]
    taken := by simp [h.taken, htaken]
    overlap := within_concat_of_not_up h.overlap hnotChunk
    reads := by simp [h.reads, hread]
    arrivals := by simp [h.arrivals, harrived]
    settled := by simp [h.settled, harrived]
    flight := by simp [h.flight, hnotRead, hnotArrived]
    limit := within_concat_of_not_up h.limit hnotRead
    room := h.room
    kept := h.kept
    found := fun chunkIdx data hget => List.mem_append_left _ (h.found chunkIdx data hget)
    sent := h.sent_concat hchunk
    asked := h.asked_concat hread }

theorem Ledger.take (h : Ledger download log buffer outstanding next count taken) :
    Ledger download (log ++ [.taken]) buffer outstanding next count (taken + 1) := by
  exact {
    chunks := by simp [h.chunks, Action.chunkIndex, List.filterMap_cons]
    taken := by simp [h.taken, Action.isTaken]
    overlap := within_concat_of_not_up h.overlap rfl
    reads := by simp [h.reads, Action.readIndex, List.filterMap_cons]
    arrivals := by simp [h.arrivals, Action.arrivedIndex, List.filterMap_cons]
    settled := by simp [h.settled, Action.arrivedIndex, List.filterMap_cons]
    flight := by simp [h.flight, Action.isRead, Action.isArrived]
    limit := within_concat_of_not_up h.limit rfl
    room := h.room
    kept := h.kept
    found := fun chunkIdx data hget => List.mem_append_left _ (h.found chunkIdx data hget)
    sent := h.sent_concat rfl
    asked := h.asked_concat rfl }

-- The next chunk is sent only when the one before it was taken.
theorem Ledger.chunk (h : Ledger download log buffer outstanding next count count)
    {data : Bytes} (hget : buffer.get count = some data) :
    Ledger download
      (log ++ [.chunk count data (decide (count + 1 = totalChunks download))])
      (buffer.delete count) outstanding next (count + 1) count := by
  have hcount : log.countP Action.isChunk = count := by
    rw [countP_isChunk, h.chunks, List.length_range]
  exact {
    chunks := by simp [h.chunks, Action.chunkIndex, List.range_succ]
    taken := by simp [h.taken, Action.isTaken]
    overlap := by
      refine within_concat h.overlap ?_
      simp [hcount, h.taken, Action.isChunk, Action.isTaken]
    reads := by simp [h.reads, Action.readIndex, List.filterMap_cons]
    arrivals := by simp [h.arrivals, Action.arrivedIndex, List.filterMap_cons]
    settled := by simp [h.settled, Action.arrivedIndex, List.filterMap_cons]
    flight := by simp [h.flight, Action.isRead, Action.isArrived]
    limit := within_concat_of_not_up h.limit rfl
    room := h.room
    kept := by
      intro chunkIdx hle hlt hout
      rw [OrderedMap.get_delete, if_neg (by omega)]
      exact h.kept chunkIdx (by omega) hlt hout
    found := fun chunkIdx other hother =>
      List.mem_append_left _ (h.found chunkIdx other (OrderedMap.get_of_get_delete hother))
    sent := by
      intro chunkIdx other isLast hmem
      rcases List.mem_append.mp hmem with hold | hnew
      · obtain ⟨hfrom, hlast⟩ := h.sent chunkIdx other isLast hold
        exact ⟨List.mem_append_left _ hfrom, hlast⟩
      · cases List.mem_singleton.mp hnew
        exact ⟨List.mem_append_left _ (h.found count data hget), rfl⟩
    asked := h.asked_concat rfl }

theorem Ledger.arrive (h : Ledger download log buffer outstanding next count taken)
    (hnodup : outstanding.Nodup) {chunkIdx : Nat} (hmem : chunkIdx ∈ outstanding)
    (hlt : chunkIdx < next) (data : Bytes) :
    Ledger download (log ++ [.arrived chunkIdx data]) (buffer.set chunkIdx data)
      (outstanding.erase chunkIdx) next count taken := by
  have hlength := List.length_erase_of_mem hmem
  have hpos : 0 < outstanding.length := List.length_pos_of_mem hmem
  exact {
    chunks := by simp [h.chunks, Action.chunkIndex, List.filterMap_cons]
    taken := by simp [h.taken, Action.isTaken]
    overlap := within_concat_of_not_up h.overlap rfl
    reads := by simp [h.reads, Action.readIndex, List.filterMap_cons]
    arrivals := by
      have hnew : chunkIdx ∉ log.filterMap Action.arrivedIndex :=
        fun hin => ((h.settled chunkIdx).mp hin).2 hmem
      rw [List.filterMap_append]
      refine List.nodup_append.mpr ⟨h.arrivals, by simp [Action.arrivedIndex], ?_⟩
      intro old hold other hother heq
      have hown : other = chunkIdx := by simpa [Action.arrivedIndex] using hother
      exact hnew (hown ▸ heq ▸ hold)
    settled := by
      intro other
      rw [List.filterMap_append, List.mem_append, h.settled, hnodup.mem_erase_iff]
      simp only [Action.arrivedIndex, List.filterMap_cons, List.filterMap_nil, List.mem_singleton]
      by_cases heq : other = chunkIdx
      · simp [heq, hlt]
      · simp [heq]
    flight := by
      have hflight := h.flight
      simp only [List.countP_append, List.countP_singleton, Action.isRead, Action.isArrived,
        Bool.false_eq_true, if_false, if_true]
      omega
    limit := within_concat_of_not_up h.limit rfl
    room := by
      have hroom := h.room
      omega
    kept := by
      intro other hle hother hout
      rw [OrderedMap.get_set]
      split
      · simp
      · rename_i hne
        refine h.kept other hle hother fun hin => hout ?_
        exact (List.mem_erase_of_ne (Ne.symm hne)).mpr hin
    found := by
      intro other found hget
      rw [OrderedMap.get_set] at hget
      split at hget
      · rename_i heq
        cases hget
        rw [heq]
        exact List.mem_append_right _ (List.mem_singleton_self _)
      · exact List.mem_append_left _ (h.found other found hget)
    sent := h.sent_concat rfl
    asked := h.asked_concat rfl }

theorem Ledger.read (h : Ledger download log buffer outstanding next count taken)
    (hroom : outstanding.length < downloadConcurrency) :
    Ledger download (log ++ [readOf download next]) buffer (outstanding ++ [next]) (next + 1)
      count taken := by
  exact {
    chunks := by simp [h.chunks, Action.chunkIndex, List.filterMap_cons, readOf]
    taken := by simp [h.taken, Action.isTaken, readOf]
    overlap := within_concat_of_not_up h.overlap rfl
    reads := by simp [h.reads, Action.readIndex, readOf, List.range_succ]
    arrivals := by simp [h.arrivals, Action.arrivedIndex, List.filterMap_cons, readOf]
    settled := by
      intro chunkIdx
      simp only [List.filterMap_append, List.mem_append, h.settled, readOf, Action.arrivedIndex,
        List.filterMap_cons, List.filterMap_nil, List.not_mem_nil, or_false, List.mem_singleton,
        not_or]
      constructor
      · rintro ⟨hlt, hout⟩
        exact ⟨by omega, hout, by omega⟩
      · rintro ⟨hlt, hout, hne⟩
        exact ⟨by omega, hout⟩
    flight := by
      simp only [List.countP_append, List.countP_singleton, h.flight, readOf, Action.isRead,
        Action.isArrived, Bool.false_eq_true, if_false, if_true, List.length_append,
        List.length_singleton]
      omega
    limit := by
      refine within_concat h.limit ?_
      have hflight := h.flight
      simp only [List.countP_append, List.countP_singleton, readOf, Action.isRead,
        Action.isArrived, Bool.false_eq_true, if_false, if_true]
      omega
    room := by
      rw [List.length_append, List.length_singleton]
      omega
    kept := by
      intro chunkIdx hle hlt hout
      have hne : chunkIdx ≠ next := fun heq =>
        hout (List.mem_append_right _ (List.mem_singleton.mpr heq))
      exact h.kept chunkIdx hle (by omega) fun hin => hout (List.mem_append_left _ hin)
    found := fun chunkIdx data hget => List.mem_append_left _ (h.found chunkIdx data hget)
    sent := h.sent_concat rfl
    asked := by
      intro chunkIdx offset length hmem
      rcases List.mem_append.mp hmem with hold | hnew
      · exact h.asked chunkIdx offset length hold
      · have heq := List.mem_singleton.mp hnew
        have hidx : chunkIdx = next := by
          cases heq
          rfl
        rw [heq, hidx] }

theorem ledger_nil : Ledger download [] .empty [] 0 0 0 := by
  exact {
    chunks := rfl
    taken := rfl
    overlap := within_nil _ _ _
    reads := rfl
    arrivals := List.nodup_nil
    settled := by simp
    flight := rfl
    limit := within_nil _ _ _
    room := Nat.zero_le _
    kept := by
      intro chunkIdx _ hlt
      cases hlt
    found := nofun
    sent := nofun
    asked := nofun }

end Ledger

section Runs

variable {download : Download} {stream : Stream}

def LedgerOf (download : Download) (stream : Stream) (count taken : Nat) : Prop :=
  Ledger download stream.log stream.chunkBuffer stream.outstanding stream.nextChunkToRead count
    taken

-- What every run in which nothing fails keeps. As long as there is more to read, all
-- the reads that may be outstanding are.
structure Orderly (download : Download) (stream : Stream) : Prop where
  ledger : LedgerOf download stream (sent stream) stream.nextChunkToEmit
  healthy : stream.hasError = false
  busy : stream.opening = false → stream.nextChunkToRead = totalChunks download ∨
    (stream.fileHandle = true ∧ stream.outstanding.length = downloadConcurrency)
  complete : stream.opening = false → stream.emitting = none →
    stream.nextChunkToEmit = totalChunks download → 0 < totalChunks download →
      stream.log.any Action.isComplete = true
  tracked : stream.log.any Action.isComplete = false → stream.tracked = true

theorem ledger_emitNext
    (h : LedgerOf download stream stream.nextChunkToEmit stream.nextChunkToEmit) :
    LedgerOf download (emitNext download stream) (sent (emitNext download stream))
      stream.nextChunkToEmit := by
  unfold emitNext
  cases hget : stream.chunkBuffer.get stream.nextChunkToEmit with
  | none => exact h
  | some data => exact Ledger.chunk h hget

theorem ledger_emitBufferedChunks
    (h : LedgerOf download stream (sent stream) stream.nextChunkToEmit) :
    LedgerOf download (emitBufferedChunks download stream)
      (sent (emitBufferedChunks download stream)) stream.nextChunkToEmit := by
  unfold emitBufferedChunks
  split
  · exact h
  · rename_i hidle
    unfold sent at h
    rw [if_neg hidle] at h
    exact ledger_emitNext h

theorem ledger_startReads {count taken : Nat} (h : LedgerOf download stream count taken)
    (herror : stream.hasError = false) (hcancelled : stream.cancelled = false)
    (hhandle : stream.fileHandle = true) (reads : Nat)
    (hroom : stream.outstanding.length + reads ≤ downloadConcurrency) :
    LedgerOf download (startReads download stream reads) count taken := by
  induction reads generalizing stream with
  | zero => exact h
  | succ reads ih =>
    unfold startReads
    rw [readNext_of_open herror hcancelled hhandle]
    refine ih (Ledger.read h (by omega)) herror hcancelled hhandle ?_
    rw [List.length_append, List.length_singleton]
    omega

theorem orderly_openReturned (h : Orderly download stream) (hsound : Sound stream)
    (hreads : Reads download stream) (hopening : stream.opening = true) :
    Orderly download (openReturned download stream (.ok ())) := by
  obtain ⟨herror, hnext, houtstanding, hemitting⟩ := hsound.fresh hopening
  have hstart : stream.nextChunkToEmit = 0 := by
    have hstarted := hreads.chunks.started
    unfold sent at hstarted
    omega
  have hledger : LedgerOf download (takeHandle { stream with opening := false }) (sent stream)
      stream.nextChunkToEmit := Ledger.other h.ledger rfl rfl rfl rfl
  have hroom : stream.outstanding.length + min downloadConcurrency (totalChunks download) ≤
      downloadConcurrency := by
    rw [houtstanding, List.length_nil]
    omega
  have hafter := ledger_startReads hledger herror (takeHandle_cancelled hsound) rfl _ hroom
  rw [openReturned_ok hsound]
  rw [startReads_of_open (by exact herror) (takeHandle_cancelled hsound) rfl] at hafter ⊢
  refine ⟨hafter, herror, fun _ => ?_, fun _ _ hdone hpos => ?_, fun hany => h.tracked ?_⟩
  · by_cases hfew : totalChunks download ≤ downloadConcurrency
    · left
      show stream.nextChunkToRead + _ = _
      omega
    · right
      refine ⟨rfl, ?_⟩
      show (stream.outstanding ++ _).length = _
      rw [houtstanding, List.nil_append, List.length_range']
      omega
  · change stream.nextChunkToEmit = _ at hdone
    omega
  · change (stream.log ++ [Action.opened] ++ _).any _ = false at hany
    rw [List.any_append, List.any_append, Bool.or_eq_false_iff, Bool.or_eq_false_iff] at hany
    exact hany.1.1

theorem orderly_readReturned (h : Orderly download stream) (hsound : Sound stream)
    (hreads : Reads download stream) {chunkIdx : Nat} (hmem : chunkIdx ∈ stream.outstanding)
    (answer : Nat × Bytes) :
    Orderly download (readReturned download stream chunkIdx (.ok answer)) := by
  have hopening : stream.opening = false := by
    cases hopening : stream.opening with
    | false => rfl
    | true =>
      rw [(hsound.fresh hopening).2.2.1] at hmem
      cases hmem
  have hlog := @readReturned_log download stream hsound chunkIdx hmem (.ok answer)
  have hrange := hreads.chunks.outstanding chunkIdx hmem
  have hlength := List.length_erase_of_mem hmem
  have hpos := List.length_pos_of_mem hmem
  obtain ⟨stored, hstored⟩ : ∃ stored, stored = storeChunk
      { stream with outstanding := stream.outstanding.erase chunkIdx } chunkIdx
      (answer.2.take answer.1) := ⟨_, rfl⟩
  have hledger : LedgerOf download stored (sent stored) stored.nextChunkToEmit := by
    rw [hstored]
    exact Ledger.arrive h.ledger hreads.chunks.nodup hmem hrange.2 _
  have hemitted := ledger_emitBufferedChunks hledger
  have hread : readReturned download stream chunkIdx (.ok answer) =
      (if (emitBufferedChunks download stored).nextChunkToRead < totalChunks download then
        readNext download (emitBufferedChunks download stored)
      else emitBufferedChunks download stored) := by
    unfold readReturned
    rw [hstored]
    simp [h.healthy, hsound.uncancelled]
  -- A chunk that was outstanding is still to be sent, so the download is not complete.
  have hopen : stream.nextChunkToEmit ≠ totalChunks download := by
    have hbound := hreads.chunks.bound
    unfold sent at hrange
    omega
  have htracked : (readReturned download stream chunkIdx (.ok answer)).log.any
      Action.isComplete = false → stream.tracked = true := by
    intro hany
    rw [hlog, List.any_append, Bool.or_eq_false_iff] at hany
    exact h.tracked hany.1
  rw [hread] at htracked ⊢
  obtain ⟨buffer, emitting, log, heq⟩ := @emitBufferedChunks_frame download stored
  rw [heq] at hemitted htracked ⊢
  split
  · rename_i hmore
    rw [if_pos hmore] at htracked
    have hnext : stream.nextChunkToRead < totalChunks download := by
      rw [hstored] at hmore
      exact hmore
    obtain ⟨hhandle, hfull⟩ := (h.busy hopening).resolve_left (Nat.ne_of_lt hnext)
    have hstoredOpen : stored.hasError = false ∧ stored.cancelled = false ∧
        stored.fileHandle = true := by
      rw [hstored]
      exact ⟨h.healthy, hsound.uncancelled, hhandle⟩
    have hroom : stored.outstanding.length + 1 = downloadConcurrency := by
      rw [hstored]
      show (stream.outstanding.erase chunkIdx).length + 1 = _
      omega
    rw [readNext_of_open (by exact hstoredOpen.1) (by exact hstoredOpen.2.1)
      (by exact hstoredOpen.2.2)] at htracked ⊢
    refine ⟨Ledger.read hemitted (Nat.lt_of_succ_le (Nat.le_of_eq hroom)), hstoredOpen.1,
      fun _ => .inr ⟨hstoredOpen.2.2, ?_⟩,
      fun _ _ hdone => ?_, fun hany => ?_⟩
    · show (stored.outstanding ++ [_]).length = _
      rw [List.length_append, List.length_singleton]
      exact hroom
    · rw [hstored] at hdone
      exact absurd hdone hopen
    · rw [hstored]
      exact htracked hany
  · rename_i hdone
    rw [if_neg hdone] at htracked
    rw [hstored] at hdone
    refine ⟨hemitted, ?_, fun _ => .inl ?_, fun _ _ hlast => ?_, fun hany => ?_⟩
    · rw [hstored]
      exact h.healthy
    · rw [hstored]
      exact Nat.le_antisymm hreads.chunks.bound (Nat.le_of_not_lt hdone)
    · rw [hstored] at hlast
      exact absurd hlast hopen
    · rw [hstored]
      exact htracked hany

theorem ledger_emitProgressIfDue {count taken : Nat} (h : LedgerOf download stream count taken)
    (now : Int) : LedgerOf download (emitProgressIfDue stream now) count taken := by
  unfold emitProgressIfDue
  split
  · exact h
  · dsimp only
    split
    · exact Ledger.other h rfl rfl rfl rfl
    · exact h

theorem ledger_completeDownload {count taken : Nat} (h : LedgerOf download stream count taken) :
    LedgerOf download (completeDownload stream) count taken := by
  unfold completeDownload
  dsimp only
  split
  · exact Ledger.other h rfl rfl rfl rfl
  · exact h

theorem orderly_chunkTaken (h : Orderly download stream) (hsound : Sound stream)
    (hreads : Reads download stream) {isLast : Bool} (hemitting : stream.emitting = some isLast)
    (now : Int) : Orderly download (resumeEmitting download (record stream .taken) isLast now) := by
  have hopening : stream.opening = false := by
    cases hopening : stream.opening with
    | false => rfl
    | true => cases (hsound.fresh hopening).2.2.2.symm.trans hemitting
  have hcompletes := (@taken_outcomes download stream isLast now).2.1
  have htaken : LedgerOf download (record stream .taken) (stream.nextChunkToEmit + 1)
      (stream.nextChunkToEmit + 1) := by
    have hledger := h.ledger
    unfold sent at hledger
    rw [hemitting] at hledger
    exact Ledger.take hledger
  have hprogressed := ledger_emitProgressIfDue htaken now
  obtain ⟨lastProgressTime, log, hprogress⟩ := @emitProgressIfDue_frame (record stream .taken) now
  unfold resumeEmitting at hcompletes ⊢
  rw [hprogress] at hprogressed hcompletes ⊢
  cases isLast with
  | false =>
    rw [if_neg (by decide)] at hcompletes ⊢
    have hnotLast : stream.nextChunkToEmit + 1 ≠ totalChunks download := by
      simpa using hreads.last false hemitting
    have hemitted := @ledger_emitNext download { stream with
      lastProgressTime, log, nextChunkToEmit := stream.nextChunkToEmit + 1 } hprogressed
    obtain ⟨buffer, emitting, log', heq⟩ := @emitNext_frame download { stream with
      lastProgressTime, log, nextChunkToEmit := stream.nextChunkToEmit + 1 }
    dsimp only [record] at hcompletes ⊢
    rw [heq] at hemitted hcompletes ⊢
    refine ⟨hemitted, h.healthy, fun _ => h.busy hopening, fun _ _ hdone => ?_, fun hany => ?_⟩
    · exact absurd hdone hnotLast
    · rw [hcompletes, Bool.or_eq_false_iff] at hany
      exact h.tracked hany.1
  | true =>
    obtain ⟨houtstanding, hbuffer⟩ := reads_last hreads hemitting
    have hallRead : stream.nextChunkToRead = totalChunks download := by
      refine (h.busy hopening).resolve_right fun hfull => ?_
      rw [houtstanding] at hfull
      cases hfull.2
    have hdone : (stream.log.any Action.isComplete || (true && stream.tracked)) = true := by
      cases hany : stream.log.any Action.isComplete with
      | true => rfl
      | false => simp [h.tracked hany]
    rw [if_pos rfl] at hcompletes ⊢
    have hfinal := @ledger_completeDownload download { stream with
      lastProgressTime, log, nextChunkToEmit := stream.nextChunkToEmit + 1 } _ _ hprogressed
    obtain ⟨tracked, log', hcomplete, -⟩ := @completeDownload_frame { stream with
      lastProgressTime, log, nextChunkToEmit := stream.nextChunkToEmit + 1 }
    dsimp only [record] at hcompletes ⊢
    rw [hcomplete] at hfinal hcompletes ⊢
    unfold finishEmitting at hcompletes ⊢
    dsimp only [resolve] at hcompletes ⊢
    rw [hbuffer] at hcompletes ⊢
    rw [hdone] at hcompletes
    refine ⟨hfinal, h.healthy, fun _ => .inl hallRead, fun _ _ _ _ => hcompletes, fun hany => ?_⟩
    cases hcompletes.symm.trans hany

theorem step_orderly (h : Orderly download stream) (hsound : Sound stream)
    (hreads : Reads download stream) {event : Event} (hevent : event.isOrderly = true) :
    Orderly download (step download stream event) := by
  cases event with
  | openReturned result =>
    unfold step
    dsimp only
    split
    · rename_i hopening
      cases result with
      | error message => cases hevent
      | ok value => exact orderly_openReturned h hsound hreads hopening
    · exact h
  | readReturned chunkIdx result =>
    unfold step
    dsimp only
    split
    · rename_i hmem
      cases result with
      | error message => cases hevent
      | ok answer => exact orderly_readReturned h hsound hreads hmem answer
    · exact h
  | chunkTaken now =>
    unfold step
    dsimp only
    split
    · rename_i isLast hemitting
      exact orderly_chunkTaken h hsound hreads hemitting now
    · exact h
  | cancelDownload => cases hevent

theorem start_orderly (download : Download) (now : Int) :
    Orderly download (streamDownloadChunks download true now) := by
  exact {
    ledger := ledger_nil
    healthy := rfl
    busy := nofun
    complete := nofun
    tracked := fun _ => rfl }

-- The chunks leave in order, each once, one at a time, with what its read brought;
-- and no more reads are outstanding than are meant to be.
structure InOrder (download : Download) (stream : Stream) : Prop where
  indexes : stream.log.filterMap Action.chunkIndex = List.range (stream.log.countP Action.isChunk)
  overlap : Within Action.isChunk Action.isTaken 1 stream.log
  data : ∀ chunkIndex data isLast, .chunk chunkIndex data isLast ∈ stream.log →
    .arrived chunkIndex data ∈ stream.log
  last : ∀ chunkIndex data isLast, .chunk chunkIndex data isLast ∈ stream.log →
    (isLast = true ↔ chunkIndex + 1 = totalChunks download)
  arrivals : (stream.log.filterMap Action.arrivedIndex).Nodup
  reads : (stream.log.filterMap Action.readIndex).Nodup
  offsets : ∀ chunkIdx offset length, .read chunkIdx offset length ∈ stream.log →
    offset = chunkIdx * download.chunkSize ∧ 0 < length ∧ offset + length ≤ download.fileSize
  outstanding : Within Action.isRead Action.isArrived downloadConcurrency stream.log
  complete : stream.opening = false → stream.outstanding = [] → stream.emitting = none →
    stream.log.countP Action.isChunk = totalChunks download ∧
      (0 < totalChunks download → stream.log.any Action.isComplete = true)

-- Every chunk but those beyond the end starts inside the file.
theorem offset_lt {chunkIdx : Nat} (hsize : 0 < download.chunkSize)
    (h : chunkIdx < totalChunks download) : chunkIdx * download.chunkSize < download.fileSize := by
  unfold totalChunks at h
  have hle : (chunkIdx + 1) * download.chunkSize ≤ download.fileSize + download.chunkSize - 1 :=
    (Nat.le_div_iff_mul_le hsize).mp h
  rw [Nat.add_mul, Nat.one_mul] at hle
  omega

theorem inOrder_of_orderly (hsize : 0 < download.chunkSize) (h : Orderly download stream)
    (hsound : Sound stream) (hreads : Reads download stream) : InOrder download stream := by
  have hcount : stream.log.countP Action.isChunk = sent stream := by
    rw [countP_isChunk, h.ledger.chunks, List.length_range]
  exact {
    indexes := by rw [hcount, h.ledger.chunks]
    overlap := h.ledger.overlap
    data := fun chunkIndex data isLast hmem => (h.ledger.sent chunkIndex data isLast hmem).1
    last := by
      intro chunkIndex data isLast hmem
      rw [(h.ledger.sent chunkIndex data isLast hmem).2, decide_eq_true_iff]
    arrivals := h.ledger.arrivals
    reads := by
      rw [h.ledger.reads]
      exact List.nodup_range
    offsets := by
      intro chunkIdx offset length hmem
      have hread : chunkIdx ∈ stream.log.filterMap Action.readIndex :=
        List.mem_filterMap.mpr ⟨_, hmem, rfl⟩
      rw [h.ledger.reads, List.mem_range] at hread
      have hlt := offset_lt hsize (Nat.lt_of_lt_of_le hread hreads.chunks.bound)
      cases h.ledger.asked chunkIdx offset length hmem
      exact ⟨rfl, by omega, by omega⟩
    outstanding := h.ledger.limit
    complete := by
      intro hopening houtstanding hidle
      have hallRead : stream.nextChunkToRead = totalChunks download := by
        refine (h.busy hopening).resolve_right fun hfull => ?_
        rw [houtstanding] at hfull
        cases hfull.2
      have hsent : sent stream = stream.nextChunkToEmit := by
        unfold sent
        rw [hidle]
        rfl
      have hstarted := hreads.chunks.started
      -- The loop is idle, so the next chunk has not arrived; but everything has.
      have hdone : stream.nextChunkToEmit = totalChunks download := by
        by_contra hne
        have hlt : stream.nextChunkToEmit < stream.nextChunkToRead := by omega
        refine h.ledger.kept stream.nextChunkToEmit (Nat.le_of_eq hsent) hlt ?_ (hsound.idle hidle)
        rw [houtstanding]
        exact nofun
      rw [hcount, hsent]
      exact ⟨hdone, h.complete hopening hidle hdone⟩ }

-- Parallel reads are sent in order in every run in which nothing fails.
theorem emits_in_order (download : Download) (hsize : 0 < download.chunkSize) (now : Int)
    (events : List Event) (hevents : ∀ event ∈ events, event.isOrderly = true) :
    Throughout (step download) (InOrder download) (streamDownloadChunks download true now)
      events := by
  have hrun : Along (step download) (fun _ event => event.isOrderly = true)
      (streamDownloadChunks download true now) events := by
    rw [along_iff]
    intro before event after heq
    exact hevents event (heq ▸ List.mem_append_right _ List.mem_cons_self)
  have hkept := @throughout_of_step _ _ (step download)
    (fun stream => Sound stream ∧ Reads download stream ∧ Orderly download stream)
    (fun _ event => event.isOrderly = true) _ _
    ⟨start_sound download true now, start_reads download true now, start_orderly download now⟩
    (fun _ event h hevent => ⟨step_sound h.1 event, step_reads h.2.1 h.1 event,
      step_orderly h.2.2 h.1 h.2.1 hevent⟩) hrun
  exact throughout_mono (fun _ h => inOrder_of_orderly hsize h.2.2 h.1 h.2.1) hkept

-- The second chunk arrives first and waits for the first one.
def outOfOrder : List Event :=
  [.openReturned (.ok ()), .readReturned 1 (.ok (1, [8])), .readReturned 0 (.ok (1, [7])),
    .chunkTaken 0, .readReturned 2 (.ok (1, [9])), .chunkTaken 300, .chunkTaken 600]

theorem outOfOrder_emits_in_order :
    Throughout (step threeBytes) (InOrder threeBytes) (streamDownloadChunks threeBytes true 0)
        outOfOrder ∧
      (run (step threeBytes) (streamDownloadChunks threeBytes true 0) outOfOrder).log.filterMap
        Action.chunkIndex = [0, 1, 2] :=
  ⟨emits_in_order threeBytes (by decide) 0 outOfOrder (by decide), by decide⟩

end Runs

end WebSsh2.Sftp.DownloadStream

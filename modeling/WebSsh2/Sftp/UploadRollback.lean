import WebSsh2.Sftp.UploadLedger

namespace WebSsh2.Sftp.UploadService

open WebSsh2.Library WebSsh2.Library.Run WebSsh2.State WebSsh2.Sftp.Upload

-- The transfer counts what it counted when the chunk was accepted: everything
-- before the chunk, and nothing of it.
def CountsUpTo (chunk : Chunk) (transfer : ManagedTransfer) : Prop :=
  transfer.bytesTransferred = chunk.offset ∧ .ofInt transfer.nextChunkIndex = chunk.chunkIndex

-- The write of a request that is answered with an error now, after it was accepted.
def answeredError (settings : Settings) (state : State) : Event → Option Writing
  | .writeReturned sessionId transferId chunkIndex (.error _) _ =>
    (state.writing.find? (isWriting sessionId transferId chunkIndex)).filter (·.waiting)
  | .writeTimedOut sessionId transferId chunkIndex =>
    if settings.backend = .sftp then
      (state.writing.find? (isWriting sessionId transferId chunkIndex)).filter (·.waiting)
    else none
  | _ => none

-- A request is accepted at the counters of its transfer or changes none of them, and
-- an error that comes later finds the counters as they were.
structure Restores (settings : Settings) (state : State) (event : Event) (next : State) : Prop where
  atOnce : ∀ client data now, event = .uploadChunk client data now →
    (∃ transferId handle chunk transfer,
      next.log = state.log ++ [.write transferId handle chunk] ∧
        state.transferManager.transfers.get transferId = some transfer ∧
        CountsUpTo chunk transfer) ∨
      (next.transferManager = state.transferManager ∧ next.writing = state.writing)
  later : ∀ writing, answeredError settings state event = some writing → ∀ transfer,
    next.transferManager.transfers.get writing.transferId = some transfer →
      CountsUpTo writing.chunk transfer

-- Whatever is answered with an error after it was accepted belongs to no transfer any more.
def failsUntracked (settings : Settings) (state : State) (event : Event) : Bool :=
  (answeredError settings state event).all fun writing =>
    (state.transferManager.transfers.get writing.transferId).isNone

section Steps

variable {runtime : Runtime} {settings : Settings} {generateTransferId : Nat → TransferId}
  {state next : State} {event : Event} {writing : Writing} {transfer : ManagedTransfer}

theorem answeredError_mem (h : answeredError settings state event = some writing) :
    writing ∈ state.writing := by
  unfold answeredError at h
  split at h
  · exact List.mem_of_find?_eq_some (Option.filter_eq_some_iff.mp h).1
  · split at h
    · exact List.mem_of_find?_eq_some (Option.filter_eq_some_iff.mp h).1
    · cases h
  · cases h

-- A late error leaves the transfers alone.
theorem answeredError_transfers (h : answeredError settings state event = some writing)
    (hchange : Change runtime settings generateTransferId state event next) :
    next.transferManager = state.transferManager := by
  cases hchange with
  | replied => rfl
  | writeFailed => rfl
  | written => rfl
  | writeTimedOut => rfl
  | completed => cases h
  | _ => cases h

-- A chunk that is being written has been counted.
theorem Ledger.counts_past (h : Ledger generateTransferId state)
    (hcoherent : Coherent generateTransferId state) (hmem : writing ∈ state.writing)
    (hget : state.transferManager.transfers.get writing.transferId = some transfer) :
    ¬CountsUpTo writing.chunk transfer := by
  have hupload : transfer.direction = .upload :=
    hcoherent.direction (.transfer transfer hget rfl) (.writing writing hmem rfl rfl)
  have hcounted := (h.counted writing.transferId transfer hget hupload).1
  have houtstanding : writing.chunk ∈ outstandingChunks state.writing writing.transferId :=
    List.mem_filterMap.mpr ⟨writing, hmem, if_pos rfl⟩
  have hsent := (h.accounted writing.transferId).mem_iff.mpr
    (List.mem_append_right _ houtstanding)
  have hlaid := @List.mem_map_of_mem _ _ _ _ (fun chunk : Chunk => chunk.chunkIndex) hsent
  rw [(h.laid writing.transferId).indexes] at hlaid
  obtain ⟨index, hrange, hindex⟩ := List.mem_map.mp hlaid
  rintro ⟨-, hnext⟩
  have heq := (Number.ofInt_inj _ _).mp (hindex.trans hnext.symm)
  have hlt := List.mem_range.mp hrange
  omega

theorem restores_atOnce (hcoherent : Coherent generateTransferId state)
    (hledger : Ledger generateTransferId state)
    (hchange : Change runtime settings generateTransferId state event next)
    {client : Client} {data : JsValue} {now : Time}
    (hevent : event = .uploadChunk client data now) :
    (∃ transferId handle chunk transfer,
      next.log = state.log ++ [.write transferId handle chunk] ∧
        state.transferManager.transfers.get transferId = some transfer ∧
        CountsUpTo chunk transfer) ∨
      (next.transferManager = state.transferManager ∧ next.writing = state.writing) := by
  cases hchange with
  | replied => exact .inr ⟨rfl, rfl⟩
  | accepted client data now request handle transfer writing haccepts hwriting =>
    have hupload : transfer.direction = .upload := hcoherent.direction
      (.transfer transfer haccepts.tracked rfl) (.handle handle haccepts.handle rfl)
    have hbytes := (hledger.counted _ transfer haccepts.tracked hupload).2
    refine .inl ⟨request.transferId, handle, chunkOf request transfer, transfer, rfl,
      haccepts.tracked, ?_, haccepts.next.symm⟩
    rw [chunkOf_offset hbytes]
    exact hbytes
  | _ => cases hevent

-- Nothing undoes the count of a chunk that was accepted. What the error leaves behind is
-- as it was only where the transfer is gone.
theorem restores_iff (hcoherent : Coherent generateTransferId state)
    (hledger : Ledger generateTransferId state)
    (hchange : Change runtime settings generateTransferId state event next) :
    Restores settings state event next ↔ failsUntracked settings state event = true := by
  unfold failsUntracked
  constructor
  · intro hrestores
    cases herror : answeredError settings state event with
    | none => rfl
    | some writing =>
      have hmem := answeredError_mem herror
      have hsame := answeredError_transfers herror hchange
      rw [Option.all_some, Option.isNone_iff_eq_none]
      by_contra htracked
      obtain ⟨transfer, hget⟩ := Option.ne_none_iff_exists'.mp htracked
      have hcounts := hrestores.later writing herror transfer (by rw [hsame]; exact hget)
      exact hledger.counts_past hcoherent hmem hget hcounts
  · intro hgone
    refine ⟨fun client data now => restores_atOnce hcoherent hledger hchange, ?_⟩
    intro writing herror transfer hget
    rw [answeredError_transfers herror hchange] at hget
    rw [herror, Option.all_some, hget] at hgone
    cases hgone

end Steps

-- In a run every chunk that is rejected leaves its upload as it was, exactly when no write
-- is answered with an error while its transfer is there.
theorem restores_along_iff (runtime : Runtime) (settings : Settings)
    (generateTransferId : Nat → TransferId) (hinjective : Function.Injective generateTransferId)
    (maxConcurrentTransfers defaultRateLimitBytesPerSec : Number) (events : List Event) :
    Along (step runtime settings generateTransferId)
        (fun state event => Restores settings state event
          (step runtime settings generateTransferId state event))
        (initial maxConcurrentTransfers defaultRateLimitBytesPerSec) events ↔
      Along (step runtime settings generateTransferId)
        (fun state event => failsUntracked settings state event = true)
        (initial maxConcurrentTransfers defaultRateLimitBytesPerSec) events := by
  refine @along_congr _ _ (step runtime settings generateTransferId)
    (fun state => Coherent generateTransferId state ∧ Ledger generateTransferId state)
    (fun state event => Restores settings state event
      (step runtime settings generateTransferId state event))
    (fun state event => failsUntracked settings state event = true) ?_ ?_ _
    ⟨initial_coherent _ _, initial_ledger _ _⟩ events
  · rintro state event ⟨hcoherent, hledger⟩
    have hchange := @change_step runtime settings generateTransferId state event
    exact ⟨change_coherent hinjective hcoherent hchange,
      change_ledger hinjective hcoherent hledger hchange⟩
  · rintro state event ⟨hcoherent, hledger⟩
    exact restores_iff hcoherent hledger (change_step event)

section Sample

-- The upload is cancelled before the write of its chunk times out.
def cancelledWrite : List Event :=
  openedUpload 2 ++ [.uploadChunk sampleClient (chunkMessage 0 [1] false) 0,
    .uploadCancel sampleClient (some (.object [(js "transferId", .string (sampleIds 0))])),
    .writeTimedOut (js "session") (sampleIds 0) (.ofInt 0)]

def timedOutWrite : List Event :=
  openedUpload 2 ++ [.uploadChunk sampleClient (chunkMessage 0 [1] false) 0,
    .writeTimedOut (js "session") (sampleIds 0) (.ofInt 0)]

theorem cancelledWrite_restores :
    Along (step asciiRuntime sampleSettings sampleIds)
        (fun state event => Restores sampleSettings state event
          (step asciiRuntime sampleSettings sampleIds state event)) sampleStart cancelledWrite ∧
      Function.Injective sampleIds :=
  ⟨(restores_along_iff asciiRuntime sampleSettings sampleIds sampleIds_injective (.ofInt 2)
    (.ofInt 0) cancelledWrite).mpr (by decide), sampleIds_injective⟩

-- The count of a chunk stays after the timeout of its write.
theorem timedOutWrite_not_restores :
    ¬Along (step asciiRuntime sampleSettings sampleIds)
      (fun state event => Restores sampleSettings state event
        (step asciiRuntime sampleSettings sampleIds state event)) sampleStart timedOutWrite := by
  intro halong
  obtain ⟨-, -, -, hrestores, -⟩ := halong
  have hindexes : ((answeredError sampleSettings (run sampleStep sampleStart
      (openedUpload 2 ++ [.uploadChunk sampleClient (chunkMessage 0 [1] false) 0]))
      (.writeTimedOut (js "session") (sampleIds 0) (.ofInt 0))).bind fun writing =>
        ((run sampleStep sampleStart timedOutWrite).transferManager.transfers.get
          writing.transferId).map fun transfer =>
            decide (.ofInt transfer.nextChunkIndex = writing.chunk.chunkIndex)) =
      some false := by decide
  obtain ⟨writing, herror, hmap⟩ := Option.bind_eq_some_iff.mp hindexes
  obtain ⟨transfer, hget, hdiffers⟩ := Option.map_eq_some_iff.mp hmap
  have hcounts := hrestores.later writing herror transfer hget
  exact of_decide_eq_false hdiffers hcounts.2

end Sample

end WebSsh2.Sftp.UploadService

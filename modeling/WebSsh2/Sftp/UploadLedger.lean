import WebSsh2.Library.Writes
import WebSsh2.Sftp.UploadOrigin

namespace WebSsh2.Sftp.UploadService

open WebSsh2.Library WebSsh2.Library.Writes WebSsh2.State WebSsh2.Sftp.Upload

-- The chunks of one upload in the log: those that were sent to the remote file, those that
-- were written, and those whose write failed.
def Action.sent (transferId : TransferId) : Action → Option Chunk
  | .write other _ chunk => if other = transferId then some chunk else none
  | _ => none

def Action.landed (transferId : TransferId) : Action → Option Chunk
  | .written other _ chunk => if other = transferId then some chunk else none
  | _ => none

def Action.lost (transferId : TransferId) : Action → Option Chunk
  | .failed other _ chunk => if other = transferId then some chunk else none
  | _ => none

def sentChunks (log : List Action) (transferId : TransferId) : List Chunk :=
  log.filterMap (Action.sent transferId)

def writtenChunks (log : List Action) (transferId : TransferId) : List Chunk :=
  log.filterMap (Action.landed transferId)

def failedChunks (log : List Action) (transferId : TransferId) : List Chunk :=
  log.filterMap (Action.lost transferId)

def outstandingChunks (writing : List Writing) (transferId : TransferId) : List Chunk :=
  writing.filterMap fun write => if write.transferId = transferId then some write.chunk else none

def contents (chunks : List Chunk) : List Bytes :=
  chunks.map fun chunk => chunk.data

-- Offsets that are no number go nowhere; none of them is sent.
def filePosition : Number → Nat
  | .finite value => value.floor.toNat
  | _ => 0

-- The file, which was opened empty, after writes of these chunks at their offsets. The stream
-- of a shell upload takes them without offsets, one behind the other.
def remoteContent (chunks : List Chunk) : Bytes :=
  writeAll 0 (chunks.map fun chunk => (filePosition chunk.offset, chunk.data))

-- The chunks have the indexes from zero on, and each begins where the one before it ends.
structure Laid (chunks : List Chunk) : Prop where
  indexes : chunks.map (fun chunk => chunk.chunkIndex) =
    (List.range chunks.length).map fun index : Nat => Number.ofInt index
  offsets : chunks.map (fun chunk => (chunk.offset, chunk.data)) =
    (placed 0 (contents chunks)).map fun write => (Number.ofInt write.1, write.2)

section Chunks

variable {chunks : List Chunk} {chunk : Chunk}

theorem laid_nil : Laid [] :=
  ⟨rfl, rfl⟩

theorem Laid.concat (h : Laid chunks) (hindex : chunk.chunkIndex = .ofInt chunks.length)
    (hoffset : chunk.offset = .ofInt (contents chunks).flatten.length) :
    Laid (chunks ++ [chunk]) := by
  constructor
  · rw [List.map_append, h.indexes, List.length_append, List.length_singleton, List.range_succ,
      List.map_append, List.map_singleton, List.map_singleton, hindex]
  · unfold contents at hoffset ⊢
    rw [List.map_append, h.offsets, List.map_append, placed_append, List.map_append,
      List.map_singleton, List.map_singleton, hoffset, Nat.zero_add]
    rfl

theorem filePosition_ofInt (position : Nat) : filePosition (.ofInt position) = position := by
  show (Rat.floor ((position : Int) : Rat)).toNat = position
  rw [Rat.floor_intCast, Int.toNat_natCast]

-- Chunks that are laid one behind the other make up the whole, whatever order they are
-- written in.
theorem Laid.remoteContent (h : Laid chunks) {order : List Chunk} (hperm : order.Perm chunks) :
    remoteContent order = (contents chunks).flatten := by
  apply writeAll_placed
  refine (hperm.map _).trans (List.Perm.of_eq ?_)
  have hpositions := congrArg (List.map fun write : Number × Bytes =>
    (filePosition write.1, write.2)) h.offsets
  rw [List.map_map, List.map_map] at hpositions
  refine hpositions.trans ?_
  conv_rhs => rw [← List.map_id (placed 0 (contents chunks))]
  apply List.map_congr_left
  intro write _
  dsimp only [Function.comp, id]
  rw [filePosition_ofInt]

end Chunks

-- Entries that record no step of an upload.
def Action.records : Action → Bool
  | .started _ _ => true
  | .write _ _ _ => true
  | .written _ _ _ => true
  | .failed _ _ _ => true
  | _ => false

def Unrecorded (actions : List Action) : Prop :=
  ∀ action ∈ actions, Action.records action = false

section Log

variable {transferId : TransferId} {log more : List Action}

theorem unrecorded_of_replies (h : Replies more) : Unrecorded more := by
  intro action hmem
  have hreply := h action hmem
  cases action <;> first | rfl | cases hreply

theorem unrecorded_completed (h : Replies more) (socket : Nat) (response : SftpCompleteResponse) :
    Unrecorded (more ++ [.emit socket (.complete response)]) := by
  intro action hmem
  rcases List.mem_append.mp hmem with hold | hnew
  · exact unrecorded_of_replies h action hold
  · rw [List.mem_singleton.mp hnew]
    rfl

variable (first second : List Action)

theorem sentChunks_append :
    sentChunks (first ++ second) transferId =
      sentChunks first transferId ++ sentChunks second transferId :=
  List.filterMap_append

theorem writtenChunks_append :
    writtenChunks (first ++ second) transferId =
      writtenChunks first transferId ++ writtenChunks second transferId :=
  List.filterMap_append

theorem failedChunks_append :
    failedChunks (first ++ second) transferId =
      failedChunks first transferId ++ failedChunks second transferId :=
  List.filterMap_append

theorem Unrecorded.sent (h : Unrecorded more) : sentChunks more transferId = [] := by
  apply List.filterMap_eq_nil_iff.mpr
  intro action hmem
  have hrecords := h action hmem
  cases action <;> first | rfl | cases hrecords

theorem Unrecorded.written (h : Unrecorded more) : writtenChunks more transferId = [] := by
  apply List.filterMap_eq_nil_iff.mpr
  intro action hmem
  have hrecords := h action hmem
  cases action <;> first | rfl | cases hrecords

theorem Unrecorded.failed (h : Unrecorded more) : failedChunks more transferId = [] := by
  apply List.filterMap_eq_nil_iff.mpr
  intro action hmem
  have hrecords := h action hmem
  cases action <;> first | rfl | cases hrecords

theorem Unrecorded.mem_iff (h : Unrecorded more) {action : Action}
    (hrecords : action.records = true) : action ∈ log ++ more ↔ action ∈ log := by
  rw [List.mem_append]
  constructor
  · rintro (hold | hnew)
    · exact hold
    · cases hrecords.symm.trans (h action hnew)
  · exact .inl

end Log

section Writing

variable {transferId : TransferId} {writing : List Writing}

theorem outstandingChunks_append (first second : List Writing) :
    outstandingChunks (first ++ second) transferId =
      outstandingChunks first transferId ++ outstandingChunks second transferId :=
  List.filterMap_append

-- What changes in an outstanding write beside its chunk does not matter.
theorem outstandingChunks_map {f : Writing → Writing}
    (h : ∀ write, (f write).transferId = write.transferId ∧ (f write).chunk = write.chunk) :
    outstandingChunks (writing.map f) transferId = outstandingChunks writing transferId := by
  unfold outstandingChunks
  rw [List.filterMap_map]
  congr 1
  funext write
  dsimp only [Function.comp]
  rw [(h write).1, (h write).2]

theorem outstandingChunks_eraseP {p : Writing → Bool} {found : Writing}
    (hfind : writing.find? p = some found) :
    (outstandingChunks writing transferId).Perm
      ((if found.transferId = transferId then [found.chunk] else []) ++
        outstandingChunks (writing.eraseP p) transferId) := by
  have hperm : writing.Perm (found :: writing.eraseP p) := by
    induction writing with
    | nil => cases hfind
    | cons head rest ih =>
      rw [List.find?_cons] at hfind
      rw [List.eraseP_cons]
      split at hfind
      · rename_i hhead
        cases hfind
        rw [hhead]
        exact List.Perm.refl _
      · rename_i hhead
        rw [hhead]
        exact ((ih hfind).cons head).trans (List.Perm.swap found head _)
  refine (hperm.filterMap _).trans (List.Perm.of_eq ?_)
  by_cases heq : found.transferId = transferId
  · simp [outstandingChunks, heq]
  · simp [outstandingChunks, heq]

end Writing

-- The uploads that are tracked were tracked before, as far as they had come.
def Keeps (state next : State) : Prop :=
  ∀ transferId transfer, next.transferManager.transfers.get transferId = some transfer →
    transfer.direction = .upload →
      ∃ old, state.transferManager.transfers.get transferId = some old ∧
        old.direction = .upload ∧ old.nextChunkIndex = transfer.nextChunkIndex ∧
        old.bytesTransferred = transfer.bytesTransferred ∧ old.totalBytes = transfer.totalBytes

-- What a step does to the course of the uploads.
inductive Course (generateTransferId : Nat → TransferId) (state next : State) : Prop where
  | unrecorded (more : List Action) (hmore : Unrecorded more) (hlog : next.log = state.log ++ more)
      (houtstanding : ∀ transferId, outstandingChunks next.writing transferId =
        outstandingChunks state.writing transferId) (hkeeps : Keeps state next)
  | started (sessionId : SessionId) (transfer : ManagedTransfer) (size : Nat)
      (hfresh : Fresh sessionId .upload transfer) (htotal : transfer.totalBytes = .ofInt size)
      (hgenerated : next.generated = state.generated + 1)
      (hlog : next.log =
        state.log ++ [.started (generateTransferId state.generated) (.ofInt size)])
      (hwriting : next.writing = state.writing)
      (htransfers : next.transferManager.transfers = state.transferManager.transfers.set
        (generateTransferId state.generated) transfer)
  | accepted (request : UploadChunkRequest) (handle : UploadHandle) (transfer : ManagedTransfer)
      (now : Time) (hget : state.transferManager.transfers.get request.transferId = some transfer)
      (hnext : request.chunkIndex = .ofInt transfer.nextChunkIndex)
      (hhandle : state.uploadHandles.get request.transferId = some handle)
      (hlog : next.log =
        state.log ++ [.write request.transferId handle (chunkOf request transfer)])
      (houtstanding : ∀ transferId, outstandingChunks next.writing transferId =
        outstandingChunks state.writing transferId ++
          if request.transferId = transferId then [chunkOf request transfer] else [])
      (htransfers : next.transferManager.transfers = state.transferManager.transfers.set
        request.transferId (TransferManager.updated transfer (uploadedData request).length now))
  | returned (transferId : TransferId) (writing : Writing) (action : Action) (more : List Action)
      (haction : action = .written transferId writing.handle writing.chunk ∨
        action = .failed transferId writing.handle writing.chunk)
      (hmore : Unrecorded more) (hlog : next.log = state.log ++ action :: more)
      (houtstanding : ∀ other, (outstandingChunks state.writing other).Perm
        ((if transferId = other then [writing.chunk] else []) ++
          outstandingChunks next.writing other)) (hkeeps : Keeps state next)

section Course

variable {runtime : Runtime} {settings : Settings} {generateTransferId : Nat → TransferId}
  {state next : State} {event : Event}

theorem keeps_of_kept (h : ∀ transferId transfer,
    next.transferManager.transfers.get transferId = some transfer →
      state.transferManager.transfers.get transferId = some transfer) : Keeps state next :=
  fun transferId transfer hget hupload =>
    ⟨transfer, h transferId transfer hget, hupload, rfl, rfl, rfl⟩

theorem keeps_activated (transferId : TransferId) (now : Time)
    (h : next.transferManager = (state.transferManager.activateTransfer transferId now).1) :
    Keeps state next := by
  rcases activateTransfer_get state.transferManager transferId now with
    hsame | ⟨old, hold, -, hstore⟩
  · apply keeps_of_kept
    intro other transfer hget
    rwa [h, hsame] at hget
  · intro other transfer hget hupload
    rw [h, hstore] at hget
    rcases get_store hget with ⟨rfl, rfl⟩ | hkept
    · exact ⟨old, hold, hupload, rfl, rfl, rfl⟩
    · exact ⟨transfer, hkept, hupload, rfl, rfl, rfl⟩

-- A download is stored, and the uploads stay.
theorem keeps_download {transferId : TransferId} {stored : ManagedTransfer}
    (hdownload : stored.direction = .download)
    (h : next.transferManager = state.transferManager.store transferId stored) :
    Keeps state next := by
  intro other transfer hget hupload
  rw [h] at hget
  rcases get_store hget with ⟨rfl, rfl⟩ | hkept
  · cases hdownload.symm.trans hupload
  · exact ⟨transfer, hkept, hupload, rfl, rfl, rfl⟩

theorem returned_outstanding {sessionId : SessionId} {transferId : TransferId}
    {chunkIndex : Number} {writing : Writing}
    (hfind : state.writing.find? (isWriting sessionId transferId chunkIndex) = some writing)
    (other : TransferId) :
    (outstandingChunks state.writing other).Perm
      ((if transferId = other then [writing.chunk] else []) ++ outstandingChunks
        (state.writing.eraseP (isWriting sessionId transferId chunkIndex)) other) := by
  have hperm := @outstandingChunks_eraseP other _ _ _ hfind
  rwa [(isWriting_find hfind).2.1] at hperm

theorem change_course (hcoherent : Coherent generateTransferId state)
    (h : Change runtime settings generateTransferId state event next) :
    Course generateTransferId state next := by
  cases h with
  | replied _ generated replies hgenerated hreplies =>
    exact .unrecorded replies (unrecorded_of_replies hreplies) rfl (fun _ => rfl)
      (keeps_of_kept fun _ _ hget => hget)
  | started client data setup fileExists now owner transfer opening size hsession hnew hfresh
      hpending htotal hsize hopening =>
      exact .started owner transfer size hfresh htotal rfl rfl rfl rfl
  | opened owner id now opening replies hfind hreplies =>
    exact .unrecorded replies (unrecorded_of_replies hreplies) rfl (fun _ => rfl)
      (keeps_activated id now rfl)
  | openFailed | openTimedOut | uploadCancelled =>
    exact .unrecorded _ (unrecorded_of_replies ‹Replies _›) rfl (fun _ => rfl)
      (keeps_of_kept fun _ _ => kept_cancelTransfer)
  | accepted client data now request handle transfer writing haccepts hwriting =>
    refine .accepted request handle transfer now haccepts.tracked haccepts.next haccepts.handle
      rfl ?_ rfl
    intro transferId
    dsimp only
    rw [outstandingChunks_append, outstandingChunks_map]
    · obtain ⟨hid, -, hchunk⟩ := hwriting
      by_cases heq : request.transferId = transferId
      · simp [outstandingChunks, hid, hchunk, heq]
      · simp [outstandingChunks, hid, heq]
    · intro write
      unfold sharesBytes
      split <;> exact ⟨rfl, rfl⟩
  | writeFailed owner id chunkIndex message now writing replies hfind hreplies =>
    exact .returned id writing _ replies (.inr rfl) (unrecorded_of_replies hreplies) rfl
      (returned_outstanding hfind) (keeps_of_kept fun _ _ hget => hget)
  | written owner id chunkIndex now writing replies hfind hreplies hgone =>
    exact .returned id writing _ replies (.inl rfl) (unrecorded_of_replies hreplies) rfl
      (returned_outstanding hfind) (keeps_of_kept fun _ _ hget => hget)
  | completed owner id chunkIndex now writing transfer replies response hfind hlast hwaiting hget
      hreplies hresponse =>
      exact .returned id writing _ _ (.inl rfl) (unrecorded_completed hreplies _ _) rfl
        (returned_outstanding hfind) (keeps_of_kept fun _ _ => kept_cancelTransfer)
  | writeTimedOut owner id chunkIndex replies hreplies =>
    refine .unrecorded replies (unrecorded_of_replies hreplies) rfl ?_
      (keeps_of_kept fun _ _ hget => hget)
    intro transferId
    apply outstandingChunks_map
    intro write
    split <;> exact ⟨rfl, rfl⟩
  | downloadStarted client resolvedPath fileInfo now owner transfer controllers replies hsession
      hnew hfresh hreplies =>
      exact .unrecorded replies (unrecorded_of_replies hreplies) rfl (fun _ => rfl)
        (keeps_download hfresh.direction rfl)
  | downloadProgressed id chunkIndex bytesRead now transfer hstream hget =>
    obtain ⟨owner, hdownload⟩ := Option.isSome_iff_exists.mp hstream
    have hdirection : transfer.direction = .download :=
      hcoherent.direction (.transfer transfer hget rfl) (.download hdownload)
    refine .unrecorded [] (fun _ hmem => by cases hmem) (List.append_nil _).symm (fun _ => rfl) ?_
    exact @keeps_download state _ id (TransferManager.updated transfer bytesRead now) hdirection
      rfl
  | downloadEnded | downloadCancelled =>
    exact .unrecorded [] (fun _ hmem => by cases hmem) (List.append_nil _).symm (fun _ => rfl)
      (keeps_of_kept fun _ _ => kept_cancelTransfer)
  | disconnected client owner hconfigured hids =>
    exact .unrecorded [] (fun _ hmem => by cases hmem) (List.append_nil _).symm (fun _ => rfl)
      (keeps_of_kept fun _ _ hget => (kept_cancelSession hget).1)

end Course

-- The log tells of generated ids only, every chunk that was sent is outstanding or has
-- returned, and a transfer counts what was sent.
structure Ledger (generateTransferId : Nat → TransferId) (state : State) : Prop where
  known : ∀ {action : Action} {transferId : TransferId}, action ∈ state.log →
    (action.sent transferId).isSome = true ∨ (∃ size, action = .started transferId size) →
      ∃ index, index < state.generated ∧ generateTransferId index = transferId
  accounted : ∀ transferId, (sentChunks state.log transferId).Perm
    (writtenChunks state.log transferId ++ failedChunks state.log transferId ++
      outstandingChunks state.writing transferId)
  laid : ∀ transferId, Laid (sentChunks state.log transferId)
  counted : ∀ transferId transfer,
    state.transferManager.transfers.get transferId = some transfer →
      transfer.direction = .upload →
        transfer.nextChunkIndex = (sentChunks state.log transferId).length ∧
        transfer.bytesTransferred =
          .ofInt (contents (sentChunks state.log transferId)).flatten.length
  declared : ∀ transferId transfer size,
    state.transferManager.transfers.get transferId = some transfer →
      transfer.direction = .upload → .started transferId size ∈ state.log →
        transfer.totalBytes = size

section Ledger

variable {runtime : Runtime} {settings : Settings} {generateTransferId : Nat → TransferId}
  {state next : State} {event : Event} {transferId : TransferId}

theorem Ledger.unsent (h : Ledger generateTransferId state)
    (hinjective : Function.Injective generateTransferId) :
    sentChunks state.log (generateTransferId state.generated) = [] := by
  apply List.filterMap_eq_nil_iff.mpr
  intro action hmem
  by_contra hsome
  obtain ⟨index, hlt, heq⟩ := h.known hmem (.inl (Option.isSome_iff_ne_none.mpr hsome))
  rw [hinjective heq] at hlt
  exact Nat.lt_irrefl _ hlt

theorem Ledger.undeclared (h : Ledger generateTransferId state)
    (hinjective : Function.Injective generateTransferId) (size : Number) :
    .started (generateTransferId state.generated) size ∉ state.log := by
  intro hmem
  obtain ⟨index, hlt, heq⟩ := h.known hmem (.inr ⟨size, rfl⟩)
  rw [hinjective heq] at hlt
  exact Nat.lt_irrefl _ hlt

variable {transfer : ManagedTransfer}

theorem chunkOf_offset {request : UploadChunkRequest} {bytes : Nat}
    (h : transfer.bytesTransferred = .ofInt bytes) :
    (chunkOf request transfer).offset = .ofInt bytes := by
  unfold chunkOf
  dsimp only
  rw [h, Number.ofInt_add, Number.ofInt_sub, Int.add_sub_cancel]

theorem sentChunks_write (handle : UploadHandle) (chunk : Chunk) (other : TransferId) :
    sentChunks [.write transferId handle chunk] other =
      if transferId = other then [chunk] else [] := by
  by_cases heq : transferId = other
  · simp [sentChunks, Action.sent, heq]
  · simp [sentChunks, Action.sent, heq]

-- Entries that are appended without a chunk or a start among them.
theorem sentChunks_unrecorded {log more : List Action} (h : Unrecorded more) :
    sentChunks (log ++ more) transferId = sentChunks log transferId := by
  rw [sentChunks_append, h.sent, List.append_nil]

theorem writtenChunks_unrecorded {log more : List Action} (h : Unrecorded more) :
    writtenChunks (log ++ more) transferId = writtenChunks log transferId := by
  rw [writtenChunks_append, h.written, List.append_nil]

theorem failedChunks_unrecorded {log more : List Action} (h : Unrecorded more) :
    failedChunks (log ++ more) transferId = failedChunks log transferId := by
  rw [failedChunks_append, h.failed, List.append_nil]

theorem ledger_unrecorded (h : Ledger generateTransferId state)
    (hgenerated : state.generated ≤ next.generated) {more : List Action} (hmore : Unrecorded more)
    (hlog : next.log = state.log ++ more)
    (houtstanding : ∀ transferId, outstandingChunks next.writing transferId =
      outstandingChunks state.writing transferId) (hkeeps : Keeps state next) :
    Ledger generateTransferId next := by
  constructor
  · intro action transferId hmem hrecords
    rw [hlog] at hmem
    have hrecord : action.records = true := by
      rcases hrecords with hsent | ⟨size, rfl⟩
      · cases action <;> first | rfl | cases hsent
      · rfl
    obtain ⟨index, hlt, heq⟩ := h.known ((hmore.mem_iff hrecord).mp hmem) hrecords
    exact ⟨index, Nat.lt_of_lt_of_le hlt hgenerated, heq⟩
  · intro transferId
    rw [hlog, sentChunks_unrecorded hmore, writtenChunks_unrecorded hmore,
      failedChunks_unrecorded hmore, houtstanding]
    exact h.accounted transferId
  · intro transferId
    rw [hlog, sentChunks_unrecorded hmore]
    exact h.laid transferId
  · intro transferId transfer hget hupload
    obtain ⟨old, hold, hdirection, hindex, hbytes, -⟩ := hkeeps transferId transfer hget hupload
    rw [hlog, sentChunks_unrecorded hmore, ← hindex, ← hbytes]
    exact h.counted transferId old hold hdirection
  · intro transferId transfer size hget hupload hmem
    obtain ⟨old, hold, hdirection, -, -, htotal⟩ := hkeeps transferId transfer hget hupload
    rw [hlog, hmore.mem_iff rfl] at hmem
    rw [← htotal]
    exact h.declared transferId old size hold hdirection hmem

theorem ledger_started (hinjective : Function.Injective generateTransferId)
    (h : Ledger generateTransferId state) {sessionId : SessionId} {size : Nat}
    (hfresh : Fresh sessionId .upload transfer) (htotal : transfer.totalBytes = .ofInt size)
    (hgenerated : next.generated = state.generated + 1)
    (hlog : next.log = state.log ++ [.started (generateTransferId state.generated) (.ofInt size)])
    (hwriting : next.writing = state.writing)
    (htransfers : next.transferManager.transfers = state.transferManager.transfers.set (generateTransferId state.generated) transfer) :
    Ledger generateTransferId next := by
  have hsent : ∀ other, sentChunks next.log other = sentChunks state.log other := by
    intro other
    rw [hlog, sentChunks_append]
    exact List.append_nil _
  constructor
  · intro action transferId hmem hrecords
    rw [hlog] at hmem
    rcases List.mem_append.mp hmem with hold | hnew
    · obtain ⟨index, hlt, heq⟩ := h.known hold hrecords
      exact ⟨index, by omega, heq⟩
    · rw [List.mem_singleton.mp hnew] at hrecords
      rcases hrecords with hsent | ⟨other, heq⟩
      · cases hsent
      · cases heq
        exact ⟨state.generated, by omega, rfl⟩
  · intro transferId
    have hwritten : writtenChunks next.log transferId = writtenChunks state.log transferId := by
      rw [hlog, writtenChunks_append]
      exact List.append_nil _
    have hfailed : failedChunks next.log transferId = failedChunks state.log transferId := by
      rw [hlog, failedChunks_append]
      exact List.append_nil _
    rw [hsent, hwritten, hfailed, hwriting]
    exact h.accounted transferId
  · intro transferId
    rw [hsent]
    exact h.laid transferId
  · intro transferId other hget hupload
    rw [hsent]
    rw [htransfers, OrderedMap.get_set] at hget
    split at hget
    · rename_i heq
      cases hget
      rw [← heq, h.unsent hinjective]
      exact ⟨hfresh.nextChunkIndex, hfresh.bytesTransferred⟩
    · exact h.counted transferId other hget hupload
  · intro transferId other declared hget hupload hmem
    rw [hlog, List.mem_append, List.mem_singleton] at hmem
    rw [htransfers, OrderedMap.get_set] at hget
    split at hget
    · rename_i heq
      cases hget
      rcases hmem with hold | hnew
      · rw [← heq] at hold
        exact absurd hold (h.undeclared hinjective declared)
      · cases hnew
        exact htotal
    · rename_i hne
      rcases hmem with hold | hnew
      · exact h.declared transferId other declared hget hupload hold
      · cases hnew
        exact absurd rfl hne

theorem ledger_accepted (hcoherent : Coherent generateTransferId state)
    (h : Ledger generateTransferId state) (hgenerated : state.generated ≤ next.generated)
    {request : UploadChunkRequest} {handle : UploadHandle} {now : Time}
    (hget : state.transferManager.transfers.get request.transferId = some transfer)
    (hnext : request.chunkIndex = .ofInt transfer.nextChunkIndex)
    (hhandle : state.uploadHandles.get request.transferId = some handle)
    (hlog : next.log = state.log ++ [.write request.transferId handle (chunkOf request transfer)])
    (houtstanding : ∀ transferId, outstandingChunks next.writing transferId = outstandingChunks state.writing transferId ++ if request.transferId = transferId then [chunkOf request transfer] else [])
    (htransfers : next.transferManager.transfers = state.transferManager.transfers.set request.transferId (TransferManager.updated transfer (uploadedData request).length now)) :
    Ledger generateTransferId next := by
  have hdirection : transfer.direction = .upload :=
    hcoherent.direction (.transfer transfer hget rfl) (.handle handle hhandle rfl)
  obtain ⟨hindex, hbytes⟩ := h.counted request.transferId transfer hget hdirection
  have hsent : ∀ other, sentChunks next.log other = sentChunks state.log other ++
      if request.transferId = other then [chunkOf request transfer] else [] := by
    intro other
    rw [hlog, sentChunks_append, sentChunks_write]
  constructor
  · intro action transferId hmem hrecords
    rw [hlog] at hmem
    rcases List.mem_append.mp hmem with hold | hnew
    · obtain ⟨index, hlt, heq⟩ := h.known hold hrecords
      exact ⟨index, by omega, heq⟩
    · obtain ⟨index, hlt, heq⟩ := hcoherent.known (.transfer transfer hget rfl)
      rw [List.mem_singleton.mp hnew] at hrecords
      refine ⟨index, by omega, heq.trans ?_⟩
      rcases hrecords with hsome | ⟨size, hcontra⟩
      · unfold Action.sent at hsome
        dsimp only at hsome
        split at hsome
        · assumption
        · cases hsome
      · cases hcontra
  · intro transferId
    have hwritten : writtenChunks next.log transferId = writtenChunks state.log transferId := by
      rw [hlog, writtenChunks_append]
      exact List.append_nil _
    have hfailed : failedChunks next.log transferId = failedChunks state.log transferId := by
      rw [hlog, failedChunks_append]
      exact List.append_nil _
    rw [hsent, hwritten, hfailed, houtstanding, ← List.append_assoc]
    exact (h.accounted transferId).append_right _
  · intro transferId
    rw [hsent]
    split
    · rename_i heq
      subst heq
      apply (h.laid request.transferId).concat
      · rw [← hindex]
        exact hnext
      · exact chunkOf_offset hbytes
    · rw [List.append_nil]
      exact h.laid transferId
  · intro transferId other hfound hupload
    rw [hsent]
    rw [htransfers, OrderedMap.get_set] at hfound
    split at hfound
    · rename_i heq
      cases hfound
      subst heq
      rw [if_pos rfl]
      constructor
      · rw [List.length_append, ← hindex]
        rfl
      · show transfer.bytesTransferred.add (.ofInt (uploadedData request).length) = _
        unfold contents at hbytes ⊢
        rw [hbytes, Number.ofInt_add, List.map_append, List.flatten_append, List.length_append]
        simp [chunkOf]
    · rename_i hne
      rw [if_neg hne, List.append_nil]
      exact h.counted transferId other hfound hupload
  · intro transferId other size hfound hupload hmem
    rw [hlog, List.mem_append, List.mem_singleton] at hmem
    rcases hmem with hold | hnew
    · rw [htransfers, OrderedMap.get_set] at hfound
      split at hfound
      · rename_i heq
        cases hfound
        subst heq
        exact h.declared request.transferId transfer size hget hdirection hold
      · exact h.declared transferId other size hfound hupload hold
    · cases hnew

theorem ledger_returned (h : Ledger generateTransferId state)
    (hgenerated : state.generated ≤ next.generated) {writing : Writing} {action : Action}
    {more : List Action} (haction : action = .written transferId writing.handle writing.chunk ∨
      action = .failed transferId writing.handle writing.chunk) (hmore : Unrecorded more)
    (hlog : next.log = state.log ++ action :: more)
    (houtstanding : ∀ other, (outstandingChunks state.writing other).Perm
      ((if transferId = other then [writing.chunk] else []) ++
        outstandingChunks next.writing other))
    (hkeeps : Keeps state next) : Ledger generateTransferId next := by
  have hsent : ∀ other, sentChunks next.log other = sentChunks state.log other := by
    intro other
    rw [hlog, List.append_cons, sentChunks_unrecorded hmore, sentChunks_append]
    rcases haction with rfl | rfl <;> exact List.append_nil _
  have hstarted : ∀ {id size}, .started id size ∈ next.log → .started id size ∈ state.log := by
    intro id size hmem
    rw [hlog, List.append_cons, hmore.mem_iff rfl, List.mem_append, List.mem_singleton] at hmem
    rcases hmem with hold | hnew
    · exact hold
    · rcases haction with rfl | rfl <;> cases hnew
  constructor
  · intro action' transferId' hmem hrecords
    have hold : action' ∈ state.log := by
      rw [hlog, List.append_cons] at hmem
      have hrecord : action'.records = true := by
        rcases hrecords with hsome | ⟨size, rfl⟩
        · cases action' <;> first | rfl | cases hsome
        · rfl
      rw [hmore.mem_iff hrecord, List.mem_append, List.mem_singleton] at hmem
      rcases hmem with hold | rfl
      · exact hold
      · rcases haction with rfl | rfl <;> rcases hrecords with hsome | ⟨size, hcontra⟩
        · cases hsome
        · cases hcontra
        · cases hsome
        · cases hcontra
    obtain ⟨index, hlt, heq⟩ := h.known hold hrecords
    exact ⟨index, Nat.lt_of_lt_of_le hlt hgenerated, heq⟩
  · intro other
    rw [hsent]
    refine (h.accounted other).trans (((houtstanding other).append_left _).trans ?_)
    rw [hlog, List.append_cons, writtenChunks_unrecorded hmore, failedChunks_unrecorded hmore,
      writtenChunks_append, failedChunks_append, ← List.append_assoc]
    apply List.Perm.append_right
    rcases haction with rfl | rfl
    · have hfailed : failedChunks [.written transferId writing.handle writing.chunk] other = [] :=
        rfl
      have hwritten : writtenChunks [.written transferId writing.handle writing.chunk] other =
          if transferId = other then [writing.chunk] else [] := by
        by_cases heq : transferId = other
        · simp [writtenChunks, Action.landed, heq]
        · simp [writtenChunks, Action.landed, heq]
      rw [hfailed, hwritten, List.append_nil, List.append_assoc, List.append_assoc]
      exact List.perm_append_comm.append_left _
    · have hwritten : writtenChunks [.failed transferId writing.handle writing.chunk] other = [] :=
        rfl
      have hfailed : failedChunks [.failed transferId writing.handle writing.chunk] other =
          if transferId = other then [writing.chunk] else [] := by
        by_cases heq : transferId = other
        · simp [failedChunks, Action.lost, heq]
        · simp [failedChunks, Action.lost, heq]
      rw [hfailed, hwritten, List.append_nil, List.append_assoc]
  · intro other
    rw [hsent]
    exact h.laid other
  · intro other transfer hget hupload
    obtain ⟨old, hold, hdirection, hindex, hbytes, -⟩ := hkeeps other transfer hget hupload
    rw [hsent, ← hindex, ← hbytes]
    exact h.counted other old hold hdirection
  · intro other transfer size hget hupload hmem
    obtain ⟨old, hold, hdirection, -, -, htotal⟩ := hkeeps other transfer hget hupload
    rw [← htotal]
    exact h.declared other old size hold hdirection (hstarted hmem)

theorem change_ledger (hinjective : Function.Injective generateTransferId)
    (hcoherent : Coherent generateTransferId state) (h : Ledger generateTransferId state)
    (hchange : Change runtime settings generateTransferId state event next) :
    Ledger generateTransferId next := by
  have hgenerated := change_generated hchange
  cases change_course hcoherent hchange with
  | unrecorded more hmore hlog houtstanding hkeeps =>
    exact ledger_unrecorded h hgenerated hmore hlog houtstanding hkeeps
  | started sessionId transfer size hfresh htotal hnext hlog hwriting htransfers =>
    exact ledger_started hinjective h hfresh htotal hnext hlog hwriting htransfers
  | accepted request handle transfer now hget hnext hhandle hlog houtstanding htransfers =>
    exact ledger_accepted hcoherent h hgenerated hget hnext hhandle hlog houtstanding htransfers
  | returned transferId writing action more haction hmore hlog houtstanding hkeeps =>
    exact ledger_returned h hgenerated haction hmore hlog houtstanding hkeeps

theorem initial_ledger (maxConcurrentTransfers defaultRateLimitBytesPerSec : Number) :
    Ledger generateTransferId (initial maxConcurrentTransfers defaultRateLimitBytesPerSec) where
  known := fun hmem => by cases hmem
  accounted := fun _ => List.Perm.refl _
  laid := fun _ => laid_nil
  counted := fun _ _ hget => by cases hget
  declared := fun _ _ _ hget => by cases hget

end Ledger

end WebSsh2.Sftp.UploadService

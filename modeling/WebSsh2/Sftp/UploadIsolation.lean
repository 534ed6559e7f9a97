import WebSsh2.Sftp.UploadOrigin

namespace WebSsh2.Sftp.UploadService

open WebSsh2.Library WebSsh2.Library.Run WebSsh2.State WebSsh2.Sftp.Upload

-- What a session does with the transfers it has: the messages on its sockets, and the
-- callbacks of its writes.
def SentBy (session : SessionId) : Event → Prop
  | .uploadChunk client _ _ => client.sessionId = some session
  | .uploadCancel client _ => client.sessionId = some session
  | .downloadCancel client _ => client.sessionId = some session
  | .writeReturned sessionId _ _ _ _ => sessionId = session
  | .writeTimedOut sessionId _ _ => sessionId = session
  | _ => False

def transferOf (session : SessionId) (state : State) (transferId : TransferId) :
    Option ManagedTransfer :=
  (state.transferManager.transfers.get transferId).filter fun transfer =>
    transfer.sessionId = session

def handleOf (session : SessionId) (state : State) (transferId : TransferId) :
    Option UploadHandle :=
  (state.uploadHandles.get transferId).filter fun handle => handle.sessionId = session

def writingOf (session : SessionId) (state : State) : List Writing :=
  state.writing.filter fun writing => writing.handle.sessionId = session

-- What is done to a remote file of the session.
def Action.touches (session : SessionId) : Action → Bool
  | .write _ handle _ => handle.sessionId = session
  | .written _ handle _ => handle.sessionId = session
  | .failed _ handle _ => handle.sessionId = session
  | .closed handle => handle.sessionId = session
  | _ => false

-- Nothing that the session has is another than before.
structure Untouched (session : SessionId) (state next : State) : Prop where
  transfers : ∀ transferId, transferOf session next transferId =
    transferOf session state transferId
  handles : ∀ transferId, handleOf session next transferId = handleOf session state transferId
  downloads : ∀ transferId, next.downloadStreams.get transferId = some session ↔
    state.downloadStreams.get transferId = some session
  controllers : ∀ socket transferId, state.downloadStreams.get transferId = some session →
    ((socket, transferId) ∈ next.downloadControllers ↔
      (socket, transferId) ∈ state.downloadControllers)
  opening : next.opening = state.opening
  writing : writingOf session next = writingOf session state
  remote : next.log.filter (Action.touches session) = state.log.filter (Action.touches session)

section Untouched

variable {runtime : Runtime} {settings : Settings} {generateTransferId : Nat → TransferId}
  {state next last : State} {session other : SessionId} {transferId : TransferId}

theorem untouched_refl : Untouched session state state :=
  ⟨fun _ => rfl, fun _ => rfl, fun _ => Iff.rfl, fun _ _ _ => Iff.rfl, rfl, rfl, rfl⟩

theorem Untouched.trans (h : Untouched session state next) (hnext : Untouched session next last) :
    Untouched session state last where
  transfers := fun transferId => (hnext.transfers transferId).trans (h.transfers transferId)
  handles := fun transferId => (hnext.handles transferId).trans (h.handles transferId)
  downloads := fun transferId => (hnext.downloads transferId).trans (h.downloads transferId)
  controllers := fun socket transferId hstream =>
    (hnext.controllers socket transferId ((h.downloads transferId).mpr hstream)).trans
      (h.controllers socket transferId hstream)
  opening := hnext.opening.trans h.opening
  writing := hnext.writing.trans h.writing
  remote := hnext.remote.trans h.remote

theorem untouched_record {action : Action} (h : action.touches session = false) :
    Untouched session state (record state action) := by
  refine ⟨fun _ => rfl, fun _ => rfl, fun _ => Iff.rfl, fun _ _ _ => Iff.rfl, rfl, rfl, ?_⟩
  show (state.log ++ [action]).filter (Action.touches session) = _
  rw [List.filter_append, List.filter_singleton, h]
  exact List.append_nil _

theorem untouched_emitError (socket : Nat) (operation : JsString) (error : SftpServiceError) :
    Untouched session state (emitError state socket operation error) :=
  untouched_record rfl

-- Deleting what is not of the session.
theorem filter_get_delete {ν : Type} {map : OrderedMap TransferId ν} {keep : ν → Bool}
    (h : ∀ value, map.get transferId = some value → keep value = false) (id : TransferId) :
    ((map.delete transferId).get id).filter keep = (map.get id).filter keep := by
  rw [OrderedMap.get_delete]
  split
  · rename_i heq
    subst heq
    cases hget : map.get transferId with
    | none => rfl
    | some value => rw [Option.filter_none, Option.filter_some, if_neg (by simp [h value hget])]
  · rfl

theorem untouched_cancelTransfer (h : ∀ transfer,
    state.transferManager.transfers.get transferId = some transfer →
      transfer.sessionId ≠ session) :
    Untouched session state (cancelTransfer state transferId) := by
  refine ⟨?_, fun _ => rfl, fun _ => Iff.rfl, fun _ _ _ => Iff.rfl, rfl, rfl, rfl⟩
  exact filter_get_delete fun transfer hget => decide_eq_false (h transfer hget)

theorem untouched_deleteHandle {action : Action} (h : ∀ handle,
    state.uploadHandles.get transferId = some handle → handle.sessionId ≠ session)
    (haction : action.touches session = false) :
    Untouched session state
      (record { state with uploadHandles := state.uploadHandles.delete transferId } action) := by
  refine Untouched.trans ?_ (untouched_record haction)
  refine ⟨fun _ => rfl, ?_, fun _ => Iff.rfl, fun _ _ _ => Iff.rfl, rfl, rfl, rfl⟩
  exact filter_get_delete fun handle hget => decide_eq_false (h handle hget)

theorem untouched_closeUpload (h : ∀ handle,
    state.uploadHandles.get transferId = some handle → handle.sessionId ≠ session) :
    Untouched session state (closeUpload state transferId) := by
  unfold closeUpload
  split
  · exact untouched_refl
  · rename_i handle hget
    exact untouched_deleteHandle h (decide_eq_false (h handle hget))

-- What is stored again under an id of another session.
theorem untouched_store {stored : ManagedTransfer} (hstored : stored.sessionId ≠ session)
    (h : ∀ transfer, state.transferManager.transfers.get transferId = some transfer →
      transfer.sessionId ≠ session) :
    Untouched session state
      { state with transferManager := state.transferManager.store transferId stored } := by
  refine ⟨?_, fun _ => rfl, fun _ => Iff.rfl, fun _ _ _ => Iff.rfl, rfl, rfl, rfl⟩
  intro id
  unfold transferOf
  show ((state.transferManager.transfers.set transferId stored).get id).filter _ = _
  rw [OrderedMap.get_set]
  split
  · rename_i heq
    subst heq
    rw [Option.filter_some, if_neg (by simp [hstored])]
    cases hget : state.transferManager.transfers.get transferId with
    | none => rfl
    | some transfer => rw [Option.filter_some, if_neg (by simp [h transfer hget])]
  · rfl

theorem filter_eraseP_of_disjoint {α : Type} {p q : α → Bool} {items : List α}
    (h : ∀ item, p item = true → q item = false) :
    (items.eraseP p).filter q = items.filter q := by
  induction items with
  | nil => rfl
  | cons item rest ih =>
    rw [List.eraseP_cons]
    by_cases hp : p item = true
    · rw [hp, cond_true, List.filter_cons, if_neg (by simp [h item hp])]
    · rw [Bool.eq_false_iff.mpr hp, cond_false, List.filter_cons, List.filter_cons, ih]

theorem filter_map_of_same {α : Type} {f : α → α} {q : α → Bool} {items : List α}
    (hkeep : ∀ item, q (f item) = q item) (hsame : ∀ item ∈ items, q item = true → f item = item) :
    (items.map f).filter q = items.filter q := by
  induction items with
  | nil => rfl
  | cons item rest ih =>
    have hrest := ih fun other hmem => hsame other (List.mem_cons_of_mem _ hmem)
    rw [List.map_cons, List.filter_cons, List.filter_cons, hkeep, hrest]
    by_cases hq : q item = true
    · rw [if_pos hq, if_pos hq, hsame item List.mem_cons_self hq]
    · rw [if_neg hq, if_neg hq]

theorem untouched_writing {writing : List Writing}
    (h : writing.filter (fun write => write.handle.sessionId = session) =
      writingOf session state) : Untouched session state { state with writing } :=
  ⟨fun _ => rfl, fun _ => rfl, fun _ => Iff.rfl, fun _ _ _ => Iff.rfl, rfl, h, rfl⟩

theorem Coherent.foreign_transfer (h : Coherent generateTransferId state)
    {direction : TransferDirection} (hmentions : Mentions state transferId other direction)
    (hne : other ≠ session) : ∀ transfer,
      state.transferManager.transfers.get transferId = some transfer →
        transfer.sessionId ≠ session := by
  intro transfer hget hsession
  exact hne (h.session hmentions (.transfer transfer hget hsession))

theorem Coherent.foreign_handle (h : Coherent generateTransferId state)
    {direction : TransferDirection} (hmentions : Mentions state transferId other direction)
    (hne : other ≠ session) : ∀ handle,
      state.uploadHandles.get transferId = some handle → handle.sessionId ≠ session := by
  intro handle hget hsession
  exact hne (h.session hmentions (.handle handle hget hsession))

variable {client : Client}

theorem untouched_uploadChunk (hcoherent : Coherent generateTransferId state)
    (hne : other ≠ session) (hclient : client.sessionId = some other) (data : JsValue) (now : Time) :
    Untouched session state (handleUploadChunk runtime settings state client data now) := by
  rcases @handleUploadChunk_cases runtime settings state client data now with
    ⟨error, hrefused⟩ | ⟨request, handle, transfer, haccepts⟩
  · rw [hrefused]
    exact untouched_emitError _ _ _
  have hstep := @step_of_accepts runtime settings generateTransferId state client data request
    handle transfer haccepts now
  unfold step at hstep
  dsimp only at hstep
  rw [hstep]
  obtain ⟨connectionId, hids⟩ := haccepts.ids
  have hsession : transfer.sessionId = other :=
    Option.some.inj ((getIds_session hids).symm.trans hclient)
  have hmentions : Mentions state request.transferId other transfer.direction :=
    .transfer transfer haccepts.tracked hsession
  have hforeign := hcoherent.foreign_handle hmentions hne handle haccepts.handle
  have hstored : (TransferManager.updated transfer (uploadedData request).length
      now).sessionId ≠ session := by
    rintro rfl
    exact hne hsession.symm
  refine ((untouched_store hstored (hcoherent.foreign_transfer hmentions hne)).trans
    (untouched_writing ?_)).trans (untouched_record (decide_eq_false hforeign))
  rw [List.filter_append, List.filter_singleton]
  dsimp only
  rw [decide_eq_false hforeign, cond_false, List.append_nil]
  apply filter_map_of_same
  · intro writing
    unfold sharesBytes
    split <;> rfl
  · intro writing hmem howner
    unfold sharesBytes
    rw [if_neg]
    intro heq
    exact hne (hcoherent.session hmentions
      (.writing writing hmem heq (of_decide_eq_true howner)))

theorem untouched_uploadCancel (hcoherent : Coherent generateTransferId state)
    (hne : other ≠ session) (hclient : client.sessionId = some other) (data : JsValue) :
    Untouched session state (handleUploadCancel settings state client data) := by
  rcases @handleUploadCancel_cases settings state client data with ⟨message, hcancel⟩ | hcancel |
    ⟨transferId, transfer, hget, hsession, hcancel⟩
  · rw [hcancel]
    exact untouched_emitError _ _ _
  · rw [hcancel]
    exact untouched_refl
  · rw [hcancel]
    have hmentions := Mentions.transfer transfer hget
      (Option.some.inj (hsession.symm.trans hclient))
    unfold cancelUpload cleanupUpload
    refine (untouched_closeUpload (hcoherent.foreign_handle hmentions hne)).trans
      (untouched_cancelTransfer ?_)
    obtain ⟨replies, -, hclose⟩ := @closeUpload_eq state transferId
    rw [hclose]
    exact hcoherent.foreign_transfer hmentions hne

theorem untouched_downloadCancel (hcoherent : Coherent generateTransferId state)
    (hne : other ≠ session) (hclient : client.sessionId = some other) (data : JsValue) :
    Untouched session state (handleDownloadCancel settings state client data) := by
  rcases @handleDownloadCancel_cases settings state client data with ⟨message, hcancel⟩ |
    hcancel | ⟨id, transfer, -, -, hget, ⟨connectionId, hids⟩, hcancel⟩
  · rw [hcancel]
    exact untouched_emitError _ _ _
  · rw [hcancel]
    exact untouched_refl
  rw [hcancel]
  have hmentions := Mentions.transfer transfer hget
    (Option.some.inj ((getIds_session hids).symm.trans hclient))
  have hforeign : ∀ owner, owner = session → state.downloadStreams.get id ≠ some owner := by
    rintro owner rfl hstream
    exact hne (hcoherent.session hmentions (.download hstream))
  unfold cancelDownload
  refine Untouched.trans ?_ (untouched_cancelTransfer (hcoherent.foreign_transfer hmentions hne))
  refine ⟨fun _ => rfl, fun _ => rfl, ?_, ?_, rfl, rfl, rfl⟩
  · intro transferId
    dsimp only
    rw [OrderedMap.get_delete]
    split
    · rename_i heq
      subst heq
      exact iff_of_false (by simp) (hforeign session rfl)
    · exact Iff.rfl
  · intro socket transferId hstream
    dsimp only
    rw [List.mem_filter, decide_eq_true_iff]
    refine and_iff_left ?_
    intro heq
    cases heq
    exact hforeign session rfl hstream

-- The end of a file leaves the transfer, and of the open files of others it closes none.
theorem untouched_finishUpload {writing : Writing} (hhandle : ∀ handle,
    state.uploadHandles.get writing.transferId = some handle → handle.sessionId ≠ session)
    (htransfer : ∀ transfer,
      state.transferManager.transfers.get writing.transferId = some transfer →
        transfer.sessionId ≠ session)
    (hforeign : writing.handle.sessionId ≠ session) :
    Untouched session state (finishUpload settings state writing) ∧
      (∀ handle, (finishUpload settings state writing).uploadHandles.get writing.transferId =
        some handle → handle.sessionId ≠ session) ∧
      (∀ transfer, (finishUpload settings state writing).transferManager.transfers.get
        writing.transferId = some transfer → transfer.sessionId ≠ session) := by
  constructor
  · unfold finishUpload
    split
    · exact untouched_closeUpload hhandle
    · exact untouched_deleteHandle hhandle (decide_eq_false hforeign)
  · obtain ⟨replies, -, hfinish⟩ := @finishUpload_eq settings state writing
    rw [hfinish]
    exact ⟨fun handle hget => hhandle handle (OrderedMap.get_of_get_delete hget), htransfer⟩

theorem untouched_completeUpload (hhandle : ∀ handle,
    state.uploadHandles.get transferId = some handle → handle.sessionId ≠ session)
    (htransfer : ∀ transfer, state.transferManager.transfers.get transferId = some transfer →
      transfer.sessionId ≠ session) (socket : Nat) (now : Time) :
    Untouched session state (completeUpload state socket transferId now) := by
  unfold completeUpload
  split
  · exact untouched_refl
  · rename_i manager stats hcomplete
    have hmanager : manager = state.transferManager.cancelTransfer transferId := by
      rw [← completeTransfer_fst state.transferManager transferId now, hcomplete]
    subst hmanager
    refine Untouched.trans ?_ (untouched_record ?_)
    · exact (untouched_cancelTransfer htransfer).trans (untouched_closeUpload hhandle)
    · rfl

theorem untouched_writeReturned (hcoherent : Coherent generateTransferId state)
    (hne : other ≠ session) {chunkIndex : Number} {writing : Writing}
    (hfind : state.writing.find? (isWriting other transferId chunkIndex) = some writing)
    (result : Except JsString Unit) (now : Time) :
    Untouched session state (writeReturned settings
      { state with writing := state.writing.eraseP (isWriting other transferId chunkIndex) }
      writing result now) := by
  obtain ⟨howner, rfl, -⟩ := isWriting_find hfind
  have hmentions : Mentions state writing.transferId other .upload :=
    .writing writing (List.mem_of_find?_eq_some hfind) rfl howner
  have hhandle := hcoherent.foreign_handle hmentions hne
  have htransfer := hcoherent.foreign_transfer hmentions hne
  have hforeign : writing.handle.sessionId ≠ session := by
    rw [howner]
    exact hne
  have herased : Untouched session state { state with
      writing := state.writing.eraseP (isWriting other writing.transferId chunkIndex) } := by
    apply untouched_writing
    apply filter_eraseP_of_disjoint
    intro write hwrite
    unfold isWriting at hwrite
    simp only [Bool.and_eq_true, decide_eq_true_eq] at hwrite
    rw [hwrite.1.1]
    exact decide_eq_false hne
  unfold writeReturned
  cases result with
  | error message =>
    dsimp only [cleanupUpload]
    have hclosed := (herased.trans (@untouched_record _ session
      (.failed writing.transferId writing.handle writing.chunk)
      (decide_eq_false hforeign))).trans (untouched_closeUpload hhandle)
    split
    · exact hclosed.trans (untouched_emitError _ _ _)
    · exact hclosed
  | ok value =>
    dsimp only
    have hwritten := herased.trans (@untouched_record _ session
      (.written writing.transferId writing.handle writing.chunk) (decide_eq_false hforeign))
    by_cases hlast : writing.chunk.isLast = true
    · rw [if_pos hlast, if_pos hlast]
      obtain ⟨hended, hhandles, htransfers⟩ := @untouched_finishUpload settings (record { state with
        writing := state.writing.eraseP (isWriting other writing.transferId chunkIndex) }
        (.written writing.transferId writing.handle writing.chunk)) session writing hhandle
        htransfer hforeign
      split
      · refine hwritten.trans (hended.trans (Untouched.trans (untouched_record ?_)
          (untouched_completeUpload ?_ ?_ _ _)))
        · rfl
        · exact hhandles
        · exact htransfers
      · exact hwritten.trans hended
    · rw [if_neg hlast, if_neg hlast]
      split
      · refine hwritten.trans (untouched_record ?_)
        rfl
      · exact hwritten

-- What a session sends leaves everything of the others as it is.
theorem untouched_step (hcoherent : Coherent generateTransferId state) (hne : other ≠ session)
    {event : Event} (hsent : SentBy other event) :
    Untouched session state (step runtime settings generateTransferId state event) := by
  cases event with
  | uploadChunk client data now => exact untouched_uploadChunk hcoherent hne hsent data now
  | uploadCancel client data => exact untouched_uploadCancel hcoherent hne hsent data
  | downloadCancel client data => exact untouched_downloadCancel hcoherent hne hsent data
  | writeReturned sessionId transferId chunkIndex result now =>
    obtain rfl : sessionId = other := hsent
    unfold step
    dsimp only
    split
    · exact untouched_refl
    · rename_i writing hfind
      exact untouched_writeReturned hcoherent hne hfind result now
  | writeTimedOut sessionId transferId chunkIndex =>
    obtain rfl : sessionId = other := hsent
    unfold step
    dsimp only
    split
    · exact untouched_refl
    · split
      · refine Untouched.trans (untouched_writing ?_) (untouched_emitError _ _ _)
        apply filter_map_of_same
        · intro write
          split <;> rfl
        · intro write _ howner
          rw [if_neg]
          intro hwrite
          unfold isWriting at hwrite
          simp only [Bool.and_eq_true, decide_eq_true_eq] at hwrite
          exact hne (hwrite.1.1.symm.trans (of_decide_eq_true howner))
      · exact untouched_refl
  | _ => exact hsent.elim

end Untouched

end WebSsh2.Sftp.UploadService

import WebSsh2.Sftp.UploadIsolation

namespace WebSsh2.Sftp.UploadService

open WebSsh2.Library WebSsh2.Library.Run WebSsh2.State WebSsh2.Sftp.Upload

def responses (log : List Action) : List (Nat × Message) :=
  log.filterMap fun action =>
    match action with
    | .emit socket message => some (socket, message)
    | _ => none

-- The number of a remote file is seen by nobody.
def unnumbered (writing : Writing) : Writing :=
  { writing with handle := { writing.handle with file := 0 } }

-- Two states that are the same as far as the session has anything in them.
structure SameFor (session : SessionId) (first second : State) : Prop where
  transfers : ∀ transferId, transferOf session first transferId =
    transferOf session second transferId
  handles : ∀ transferId, (handleOf session first transferId).isSome =
    (handleOf session second transferId).isSome
  writing : (writingOf session first).map unnumbered = (writingOf session second).map unnumbered

-- What happens in the two states leaves them the same, with the same responses.
structure Agrees (session : SessionId) (first next second last : State) : Prop where
  same : SameFor session next last
  answers : ∃ out, responses next.log = responses first.log ++ out ∧
    responses last.log = responses second.log ++ out

section Agrees

variable {runtime : Runtime} {settings : Settings}
  {generateTransferId generateOther : Nat → TransferId}
  {session : SessionId} {first second next last : State} {transferId : TransferId}

theorem agrees_refl (h : SameFor session first second) : Agrees session first first second second :=
  ⟨h, [], (List.append_nil _).symm, (List.append_nil _).symm⟩

theorem Agrees.trans {next' last' : State} (h : Agrees session first next second last)
    (h' : Agrees session next next' last last') : Agrees session first next' second last' := by
  obtain ⟨out, hnext, hlast⟩ := h.answers
  obtain ⟨out', hnext', hlast'⟩ := h'.answers
  refine ⟨h'.same, out ++ out', ?_, ?_⟩
  · rw [hnext', hnext, List.append_assoc]
  · rw [hlast', hlast, List.append_assoc]

theorem agrees_emit (h : SameFor session first second) (socket : Nat) (message : Message) :
    Agrees session first (record first (.emit socket message)) second
      (record second (.emit socket message)) := by
  refine ⟨⟨h.transfers, h.handles, h.writing⟩, [(socket, message)], ?_, ?_⟩
  · exact List.filterMap_append
  · exact List.filterMap_append

theorem agrees_emitError (h : SameFor session first second) (socket : Nat) (operation : JsString)
    (error : SftpServiceError) :
    Agrees session first (emitError first socket operation error) second
      (emitError second socket operation error) :=
  agrees_emit h socket _

-- Steps that respond to nobody.
theorem agrees_silent (hsame : SameFor session next last)
    (hnext : responses next.log = responses first.log)
    (hlast : responses last.log = responses second.log) :
    Agrees session first next second last :=
  ⟨hsame, [], by rw [hnext, List.append_nil], by rw [hlast, List.append_nil]⟩

theorem responses_record {action : Action} (h : ∀ socket message, action ≠ .emit socket message)
    (state : State) : responses (record state action).log = responses state.log := by
  show responses (state.log ++ [action]) = _
  unfold responses
  rw [List.filterMap_append, List.filterMap_cons]
  cases action with
  | emit socket message => exact absurd rfl (h socket message)
  | _ => exact List.append_nil _

theorem agrees_record (h : SameFor session first second) {action other : Action}
    (haction : ∀ socket message, action ≠ .emit socket message)
    (hother : ∀ socket message, other ≠ .emit socket message) :
    Agrees session first (record first action) second (record second other) :=
  agrees_silent ⟨h.transfers, h.handles, h.writing⟩ (responses_record haction first)
    (responses_record hother second)

theorem filter_get_delete_eq {ν : Type} {map other : OrderedMap TransferId ν} {keep : ν → Bool}
    {id : TransferId} (h : (map.get id).filter keep = (other.get id).filter keep)
    (transferId : TransferId) :
    ((map.delete transferId).get id).filter keep =
      ((other.delete transferId).get id).filter keep := by
  rw [OrderedMap.get_delete, OrderedMap.get_delete]
  split
  · rfl
  · exact h

theorem agrees_cancelTransfer (h : SameFor session first second) (transferId : TransferId) :
    Agrees session first (cancelTransfer first transferId) second
      (cancelTransfer second transferId) :=
  agrees_silent ⟨fun id => filter_get_delete_eq (h.transfers id) transferId, h.handles, h.writing⟩
    rfl rfl

variable (state : State)

theorem closeUpload_handles (transferId : TransferId) :
    ∃ log, responses log = responses state.log ∧ closeUpload state transferId = { state with
      uploadHandles := state.uploadHandles.delete transferId, log } := by
  unfold closeUpload
  cases hget : state.uploadHandles.get transferId with
  | none =>
    refine ⟨state.log, rfl, ?_⟩
    rw [OrderedMap.delete_of_get_none hget]
  | some handle =>
    exact ⟨_, responses_record (fun socket message hcontra => by cases hcontra)
      { state with uploadHandles := state.uploadHandles.delete transferId }, rfl⟩

theorem sameFor_deleteHandle (h : SameFor session first second) (transferId : TransferId)
    {log other : List Action} : SameFor session
      { first with uploadHandles := first.uploadHandles.delete transferId, log }
      { second with uploadHandles := second.uploadHandles.delete transferId, log := other } := by
  refine ⟨h.transfers, ?_, h.writing⟩
  intro id
  unfold handleOf
  dsimp only
  rw [OrderedMap.get_delete, OrderedMap.get_delete]
  split
  · rfl
  · exact h.handles id

theorem agrees_closeUpload (h : SameFor session first second) (transferId : TransferId) :
    Agrees session first (closeUpload first transferId) second (closeUpload second transferId) := by
  obtain ⟨log, hlog, hfirst⟩ := closeUpload_handles first transferId
  obtain ⟨other, hother, hsecond⟩ := closeUpload_handles second transferId
  rw [hfirst, hsecond]
  exact agrees_silent (sameFor_deleteHandle h transferId) hlog hother

-- A session finds its transfers, and no other ones.
theorem verifyOwnership_eq (transferId : TransferId) (session : SessionId) :
    state.transferManager.verifyOwnership transferId session =
      match transferOf session state transferId with
      | some transfer => .ok transfer
      | none => .error ⟨.transferNotFound, js "Transfer not found", some transferId⟩ := by
  unfold TransferManager.verifyOwnership transferOf
  cases hget : state.transferManager.transfers.get transferId with
  | none => rfl
  | some transfer =>
    dsimp only
    by_cases hsession : transfer.sessionId = session
    · rw [if_neg (not_not_intro hsession), Option.filter_some, if_pos (by simp [hsession])]
    · rw [if_pos hsession, Option.filter_some, if_neg (by simp [hsession])]

theorem SameFor.verifyOwnership (h : SameFor session first second) (transferId : TransferId) :
    first.transferManager.verifyOwnership transferId session =
      second.transferManager.verifyOwnership transferId session := by
  rw [verifyOwnership_eq, verifyOwnership_eq, h.transfers]

theorem SameFor.tracked (h : SameFor session first second) {transfer : ManagedTransfer}
    (hget : first.transferManager.transfers.get transferId = some transfer)
    (hsession : transfer.sessionId = session) :
    second.transferManager.transfers.get transferId = some transfer := by
  have hown : transferOf session first transferId = some transfer := by
    unfold transferOf
    rw [hget, Option.filter_some, if_pos (by simp [hsession])]
  rw [h.transfers] at hown
  exact (Option.filter_eq_some_iff.mp hown).1

theorem SameFor.symm (h : SameFor session first second) : SameFor session second first :=
  ⟨fun id => (h.transfers id).symm, fun id => (h.handles id).symm, h.writing.symm⟩

theorem SameFor.handle (h : SameFor session first second) {handle : UploadHandle}
    (hget : first.uploadHandles.get transferId = some handle)
    (hsession : handle.sessionId = session) :
    ∃ other, second.uploadHandles.get transferId = some other ∧ other.sessionId = session := by
  have hsome : (handleOf session first transferId).isSome = true := by
    unfold handleOf
    rw [hget, Option.filter_some, if_pos (by simp [hsession])]
    rfl
  rw [h.handles] at hsome
  obtain ⟨other, hother⟩ := Option.isSome_iff_exists.mp hsome
  obtain ⟨hfound, howner⟩ := Option.filter_eq_some_iff.mp hother
  exact ⟨other, hfound, of_decide_eq_true howner⟩

-- What changes in the outstanding writes without regard to their session or number.
theorem filter_map_unnumbered {f : Writing → Writing} (writing : List Writing)
    (hkeep : ∀ write, (f write).handle.sessionId = write.handle.sessionId)
    (hcommute : ∀ write, unnumbered (f write) = f (unnumbered write)) :
    ((writing.map f).filter fun write => write.handle.sessionId = session).map unnumbered =
      ((writing.filter fun write => write.handle.sessionId = session).map unnumbered).map f := by
  rw [List.filter_map, List.map_map, List.map_map]
  have hfilter : ((fun write : Writing => decide (write.handle.sessionId = session)) ∘ f) =
      fun write => decide (write.handle.sessionId = session) := by
    funext write
    dsimp only [Function.comp]
    rw [hkeep]
  rw [hfilter]
  congr 1
  funext write
  exact hcommute write

theorem isWriting_unnumbered (transferId : TransferId) (chunkIndex : Number) :
    isWriting session transferId chunkIndex ∘ unnumbered =
      isWriting session transferId chunkIndex :=
  rfl

theorem isWriting_session {chunkIndex : Number} {write : Writing}
    (h : isWriting session transferId chunkIndex write = true) :
    write.handle.sessionId = session := by
  unfold isWriting at h
  simp only [Bool.and_eq_true, decide_eq_true_eq] at h
  exact h.1.1

theorem isWriting_and (transferId : TransferId) (chunkIndex : Number) :
    (fun write => isWriting session transferId chunkIndex write &&
      decide (write.handle.sessionId = session)) = isWriting session transferId chunkIndex := by
  funext write
  by_cases h : isWriting session transferId chunkIndex write = true
  · rw [h, Bool.true_and, decide_eq_true (isWriting_session h)]
  · rw [Bool.eq_false_iff.mpr h, Bool.false_and]

theorem writingOf_eraseP (transferId : TransferId) (chunkIndex : Number) :
    ((state.writing.eraseP (isWriting session transferId chunkIndex)).filter fun write =>
      write.handle.sessionId = session).map unnumbered =
        ((writingOf session state).map unnumbered).eraseP
          (isWriting session transferId chunkIndex) := by
  unfold writingOf
  rw [List.eraseP_map, isWriting_unnumbered, List.eraseP_filter, isWriting_and]

theorem find_unnumbered (transferId : TransferId) (chunkIndex : Number) :
    (state.writing.find? (isWriting session transferId chunkIndex)).map unnumbered =
      ((writingOf session state).map unnumbered).find?
        (isWriting session transferId chunkIndex) := by
  unfold writingOf
  rw [List.find?_map, isWriting_unnumbered, List.find?_filter]
  congr 2
  funext write
  have hand := congrFun (@isWriting_and session transferId chunkIndex) write
  rw [← hand, Bool.and_comm]
  simp

variable {client : Client}

theorem agrees_uploadChunk (hfirst : Coherent generateTransferId first)
    (hsecond : Coherent generateOther second) (h : SameFor session first second)
    (hclient : client.sessionId = some session) (data : JsValue) (now : Time) :
    Agrees session first (handleUploadChunk runtime settings first client data now) second
      (handleUploadChunk runtime settings second client data now) := by
  unfold handleUploadChunk
  split
  · exact agrees_emitError h _ _ _
  rename_i request hvalid
  split
  · exact agrees_emitError h _ _ _
  split
  · exact agrees_emitError h _ _ _
  rename_i connectionId sessionId hids
  obtain rfl : sessionId = session :=
    Option.some.inj ((getIds_session hids).symm.trans hclient)
  rw [h.verifyOwnership]
  split
  · exact agrees_emitError h _ _ _
  rename_i transfer howned
  obtain ⟨hget, hsession⟩ := verifyOwnership_ok howned
  have hget' : first.transferManager.transfers.get request.transferId = some transfer :=
    h.symm.tracked hget hsession
  have hmentions := Mentions.transfer transfer hget hsession
  have hmentions' := Mentions.transfer transfer hget' hsession
  unfold processUploadChunk
  dsimp only
  cases hhandle : first.uploadHandles.get request.transferId with
  | none =>
    cases hother : second.uploadHandles.get request.transferId with
    | none => exact agrees_emitError h _ _ _
    | some other =>
      obtain ⟨handle, hcontra, -⟩ := h.symm.handle hother
        (hsecond.session (.handle other hother rfl) hmentions)
      cases hhandle.symm.trans hcontra
  | some handle =>
    have howner : handle.sessionId = sessionId :=
      hfirst.session (.handle handle hhandle rfl) hmentions'
    obtain ⟨other, hother, howner'⟩ := h.handle hhandle howner
    rw [hother]
    unfold TransferManager.updateProgress
    rw [hget, hget']
    dsimp only
    by_cases hactive : transfer.status = .active
    · rw [if_neg (not_not_intro hactive), if_neg (not_not_intro hactive)]
      by_cases hnext : request.chunkIndex = .ofInt transfer.nextChunkIndex
      · rw [if_neg (not_not_intro hnext), if_neg (not_not_intro hnext)]
        dsimp only
        refine agrees_silent ⟨?_, h.handles, ?_⟩ (responses_record ?_ _) (responses_record ?_ _)
        · intro id
          unfold transferOf
          dsimp only [record]
          rw [OrderedMap.get_set, OrderedMap.get_set]
          split
          · rfl
          · exact h.transfers id
        · unfold writingOf
          dsimp only [record]
          rw [List.filter_append, List.filter_append, List.map_append, List.map_append,
            filter_map_unnumbered, filter_map_unnumbered]
          · congr 1
            · exact congrArg _ h.writing
            · rw [List.filter_singleton, List.filter_singleton]
              simp [howner, howner', unnumbered]
          · intro write
            split <;> rfl
          · intro write
            unfold unnumbered
            dsimp only
            split <;> rfl
          · intro write
            split <;> rfl
          · intro write
            unfold unnumbered
            dsimp only
            split <;> rfl
        · intro socket message hcontra
          cases hcontra
        · intro socket message hcontra
          cases hcontra
      · rw [if_pos hnext, if_pos hnext]
        exact agrees_emitError h _ _ _
    · rw [if_pos hactive, if_pos hactive]
      exact agrees_emitError h _ _ _

theorem agrees_uploadCancel (h : SameFor session first second)
    (hclient : client.sessionId = some session) (data : JsValue) :
    Agrees session first (handleUploadCancel settings first client data) second
      (handleUploadCancel settings second client data) := by
  unfold handleUploadCancel
  split
  · exact agrees_emitError h _ _ _
  rename_i transferId hvalid
  split
  · exact agrees_refl h
  split
  · exact agrees_refl h
  rename_i connectionId sessionId hids
  obtain rfl : sessionId = session :=
    Option.some.inj ((getIds_session hids).symm.trans hclient)
  rw [h.verifyOwnership]
  split
  · exact agrees_refl h
  · have hclosed := agrees_closeUpload h transferId
    exact hclosed.trans (agrees_cancelTransfer hclosed.same transferId)

theorem agrees_downloadCancel (h : SameFor session first second)
    (hclient : client.sessionId = some session) (data : JsValue) :
    Agrees session first (handleDownloadCancel settings first client data) second
      (handleDownloadCancel settings second client data) := by
  unfold handleDownloadCancel
  split
  · exact agrees_emitError h _ _ _
  split
  · exact agrees_refl h
  split
  · exact agrees_refl h
  rename_i connectionId sessionId hids
  obtain rfl : sessionId = session :=
    Option.some.inj ((getIds_session hids).symm.trans hclient)
  rw [h.verifyOwnership]
  split
  · exact agrees_refl h
  · exact agrees_silent ⟨fun id => filter_get_delete_eq (h.transfers id) _, h.handles, h.writing⟩
      rfl rfl

theorem sameFor_eraseWriting (h : SameFor session first second) (transferId : TransferId)
    (chunkIndex : Number) : SameFor session
      { first with writing := first.writing.eraseP (isWriting session transferId chunkIndex) }
      { second with writing := second.writing.eraseP (isWriting session transferId chunkIndex) } := by
  refine ⟨h.transfers, h.handles, ?_⟩
  show ((first.writing.eraseP _).filter _).map unnumbered =
    ((second.writing.eraseP _).filter _).map unnumbered
  rw [writingOf_eraseP, writingOf_eraseP, h.writing]

theorem agrees_finishUpload (h : SameFor session first second) {writing other : Writing}
    (hid : other.transferId = writing.transferId) :
    Agrees session first (finishUpload settings first writing) second
      (finishUpload settings second other) := by
  unfold finishUpload
  rw [hid]
  split
  · exact agrees_closeUpload h writing.transferId
  · refine agrees_silent (sameFor_deleteHandle h writing.transferId) (responses_record ?_ _)
      (responses_record ?_ _)
    · intro socket message hcontra
      cases hcontra
    · intro socket message hcontra
      cases hcontra

theorem agrees_completeUpload (h : SameFor session first second)
    (hget : first.transferManager.transfers.get transferId =
      second.transferManager.transfers.get transferId) (socket : Nat) (now : Time) :
    Agrees session first (completeUpload first socket transferId now) second
      (completeUpload second socket transferId now) := by
  have hmanager := completeTransfer_fst first.transferManager transferId now
  have hmanager' := completeTransfer_fst second.transferManager transferId now
  have hstats : (first.transferManager.completeTransfer transferId now).2 =
      (second.transferManager.completeTransfer transferId now).2 := by
    unfold TransferManager.completeTransfer
    rw [hget]
    split <;> rfl
  unfold completeUpload
  split
  · rename_i manager error hcomplete
    split
    · exact agrees_refl h
    · rename_i manager' stats hcomplete'
      rw [hcomplete, hcomplete'] at hstats
      cases hstats
  · rename_i manager stats hcomplete
    split
    · rename_i manager' error hcomplete'
      rw [hcomplete, hcomplete'] at hstats
      cases hstats
    · rename_i manager' stats' hcomplete'
      rw [hcomplete, hcomplete'] at hstats
      rw [hcomplete] at hmanager
      rw [hcomplete'] at hmanager'
      cases hstats
      dsimp only at hmanager hmanager'
      rw [hmanager, hmanager']
      have hcancelled := agrees_cancelTransfer h transferId
      have hclosed := agrees_closeUpload hcancelled.same transferId
      exact (hcancelled.trans hclosed).trans (agrees_emit hclosed.same socket _)

theorem finishUpload_transfers (writing : Writing) :
    (finishUpload settings state writing).transferManager = state.transferManager := by
  obtain ⟨replies, -, hfinish⟩ := @finishUpload_eq settings state writing
  rw [hfinish]

theorem agrees_writeReturned (hfirst : Coherent generateTransferId first)
    (hsecond : Coherent generateOther second) (h : SameFor session first second)
    {chunkIndex : Number} {writing other : Writing}
    (hfind : first.writing.find? (isWriting session transferId chunkIndex) = some writing)
    (hfind' : second.writing.find? (isWriting session transferId chunkIndex) = some other)
    (hsame : unnumbered writing = unnumbered other) (result : Except JsString Unit) (now : Time) :
    Agrees session first
      (writeReturned settings
        { first with writing := first.writing.eraseP (isWriting session transferId chunkIndex) }
        writing result now) second
      (writeReturned settings
        { second with writing := second.writing.eraseP (isWriting session transferId chunkIndex) }
        other result now) := by
  obtain ⟨howner, rfl, -⟩ := isWriting_find hfind
  obtain ⟨howner', hid, -⟩ := isWriting_find hfind'
  have hchunk : other.chunk = writing.chunk := (congrArg Writing.chunk hsame).symm
  have hsocket : other.socket = writing.socket := (congrArg Writing.socket hsame).symm
  have hbytes : other.bytesTransferred = writing.bytesTransferred :=
    (congrArg Writing.bytesTransferred hsame).symm
  have hwaiting : other.waiting = writing.waiting := (congrArg Writing.waiting hsame).symm
  have hmentions : Mentions first writing.transferId session .upload :=
    .writing writing (List.mem_of_find?_eq_some hfind) rfl howner
  have hmentions' : Mentions second writing.transferId session .upload :=
    .writing other (List.mem_of_find?_eq_some hfind') hid howner'
  have hget : first.transferManager.transfers.get writing.transferId =
      second.transferManager.transfers.get writing.transferId := by
    cases htracked : first.transferManager.transfers.get writing.transferId with
    | some transfer =>
      exact (h.tracked htracked
        (hfirst.session (.transfer transfer htracked rfl) hmentions)).symm
    | none =>
      cases htracked' : second.transferManager.transfers.get writing.transferId with
      | none => rfl
      | some transfer =>
        have hcontra := h.symm.tracked htracked'
          (hsecond.session (.transfer transfer htracked' rfl) hmentions')
        cases htracked.symm.trans hcontra
  have herased := sameFor_eraseWriting h writing.transferId chunkIndex
  have hstart : Agrees session first { first with
      writing := first.writing.eraseP (isWriting session writing.transferId chunkIndex) } second
      { second with
        writing := second.writing.eraseP (isWriting session writing.transferId chunkIndex) } :=
    agrees_silent herased rfl rfl
  unfold writeReturned
  cases result with
  | error message =>
    dsimp only [cleanupUpload]
    rw [hid, hchunk, hsocket, hwaiting]
    have hfailed := @agrees_record session _ _ herased
      (.failed writing.transferId writing.handle writing.chunk)
      (.failed writing.transferId other.handle writing.chunk)
      (fun socket message hcontra => by cases hcontra)
      (fun socket message hcontra => by cases hcontra)
    have hclosed := agrees_closeUpload hfailed.same writing.transferId
    have hall := (hstart.trans hfailed).trans hclosed
    split
    · exact hall.trans (agrees_emitError hclosed.same _ _ _)
    · exact hall
  | ok value =>
    dsimp only
    rw [hid, hchunk, hsocket, hbytes, hwaiting]
    have hwritten := @agrees_record session _ _ herased
      (.written writing.transferId writing.handle writing.chunk)
      (.written writing.transferId other.handle writing.chunk)
      (fun socket message hcontra => by cases hcontra)
      (fun socket message hcontra => by cases hcontra)
    have hall := hstart.trans hwritten
    by_cases hlast : writing.chunk.isLast = true
    · rw [if_pos hlast, if_pos hlast, if_pos hlast, if_pos hlast]
      have hfinished := @agrees_finishUpload settings session _ _ hwritten.same writing other hid
      split
      · have hacked := agrees_emit hfinished.same writing.socket (.uploadAck {
          transferId := writing.transferId
          chunkIndex := writing.chunk.chunkIndex
          bytesReceived := writing.bytesTransferred })
        refine ((hall.trans hfinished).trans hacked).trans
          (agrees_completeUpload hacked.same ?_ _ _)
        dsimp only [record]
        rw [finishUpload_transfers, finishUpload_transfers]
        exact hget
      · exact hall.trans hfinished
    · rw [if_neg hlast, if_neg hlast, if_neg hlast, if_neg hlast]
      split
      · exact hall.trans (agrees_emit hwritten.same _ _)
      · exact hall

-- The callbacks of a session find the same write in both states, or none.
theorem SameFor.find_cases (h : SameFor session first second) (transferId : TransferId)
    (chunkIndex : Number) :
    (first.writing.find? (isWriting session transferId chunkIndex) = none ∧
      second.writing.find? (isWriting session transferId chunkIndex) = none) ∨
    ∃ writing other,
      first.writing.find? (isWriting session transferId chunkIndex) = some writing ∧
      second.writing.find? (isWriting session transferId chunkIndex) = some other ∧
      unnumbered writing = unnumbered other := by
  have hfound : (first.writing.find? (isWriting session transferId chunkIndex)).map unnumbered =
      (second.writing.find? (isWriting session transferId chunkIndex)).map unnumbered := by
    rw [find_unnumbered, find_unnumbered, h.writing]
  cases hfind : first.writing.find? (isWriting session transferId chunkIndex) with
  | none =>
    rw [hfind] at hfound
    exact .inl ⟨rfl, Option.map_eq_none_iff.mp hfound.symm⟩
  | some writing =>
    rw [hfind] at hfound
    obtain ⟨other, hother, hsame⟩ := Option.map_eq_some_iff.mp hfound.symm
    exact .inr ⟨writing, other, rfl, hother, hsame.symm⟩

theorem sameFor_timedOut (h : SameFor session first second) (transferId : TransferId)
    (chunkIndex : Number) :
    let timedOut (other : Writing) : Writing :=
      if isWriting session transferId chunkIndex other then { other with waiting := false }
      else other
    SameFor session { first with writing := first.writing.map timedOut }
      { second with writing := second.writing.map timedOut } := by
  refine ⟨h.transfers, h.handles, ?_⟩
  unfold writingOf
  dsimp only
  rw [filter_map_unnumbered, filter_map_unnumbered]
  · exact congrArg _ h.writing
  · intro write
    split <;> rfl
  · intro write
    unfold unnumbered isWriting
    dsimp only
    split <;> rfl
  · intro write
    split <;> rfl
  · intro write
    unfold unnumbered isWriting
    dsimp only
    split <;> rfl

theorem agrees_writeTimedOut (h : SameFor session first second) (transferId : TransferId)
    (chunkIndex : Number) :
    Agrees session first
      (step runtime settings generateTransferId first
        (.writeTimedOut session transferId chunkIndex)) second
      (step runtime settings generateOther second
        (.writeTimedOut session transferId chunkIndex)) := by
  unfold step
  dsimp only
  obtain ⟨hnone, hnone'⟩ | ⟨writing, other, hfind, hother, hsame⟩ :=
    h.find_cases transferId chunkIndex
  · rw [hnone, hnone']
    exact agrees_refl h
  · have hwaiting : other.waiting = writing.waiting := (congrArg Writing.waiting hsame).symm
    have hsocket : other.socket = writing.socket := (congrArg Writing.socket hsame).symm
    rw [hfind, hother]
    dsimp only
    rw [hwaiting, hsocket]
    split
    · refine Agrees.trans (agrees_silent ?_ ?_ ?_) (agrees_emitError ?_ _ _ _)
      · exact sameFor_timedOut h transferId chunkIndex
      · rfl
      · rfl
      · exact sameFor_timedOut h transferId chunkIndex
    · exact agrees_refl h

theorem agrees_step (hfirst : Coherent generateTransferId first)
    (hsecond : Coherent generateOther second) (h : SameFor session first second) {event : Event}
    (hsent : SentBy session event) :
    Agrees session first (step runtime settings generateTransferId first event) second
      (step runtime settings generateOther second event) := by
  cases event with
  | uploadChunk client data now => exact agrees_uploadChunk hfirst hsecond h hsent data now
  | uploadCancel client data => exact agrees_uploadCancel h hsent data
  | downloadCancel client data => exact agrees_downloadCancel h hsent data
  | writeReturned sessionId transferId chunkIndex result now =>
    obtain rfl : sessionId = session := hsent
    unfold step
    dsimp only
    obtain ⟨hnone, hnone'⟩ | ⟨writing, other, hfind, hother, hsame⟩ :=
      h.find_cases transferId chunkIndex
    · rw [hnone, hnone']
      exact agrees_refl h
    · rw [hfind, hother]
      exact agrees_writeReturned hfirst hsecond h hfind hother hsame result now
  | writeTimedOut sessionId transferId chunkIndex =>
    obtain rfl : sessionId = session := hsent
    exact agrees_writeTimedOut h transferId chunkIndex
  | _ => exact hsent.elim

end Agrees

section Runs

variable {runtime : Runtime} {settings : Settings}
  {generateTransferId generateOther : Nat → TransferId} {session other : SessionId}
  {first second : State}

theorem coherent_step (hinjective : Function.Injective generateTransferId)
    (h : Coherent generateTransferId first) (event : Event) :
    Coherent generateTransferId (step runtime settings generateTransferId first event) :=
  change_coherent hinjective h (@change_step runtime settings generateTransferId first event)

theorem untouched_run (hinjective : Function.Injective generateTransferId)
    (hcoherent : Coherent generateTransferId first) (hne : other ≠ session) (events : List Event)
    (hsent : ∀ event ∈ events, SentBy other event) :
    Untouched session first (run (step runtime settings generateTransferId) first events) := by
  induction events generalizing first with
  | nil => exact untouched_refl
  | cons event rest ih =>
    rw [run_cons]
    have hstep := @untouched_step runtime settings generateTransferId first session other
      hcoherent hne event (hsent event List.mem_cons_self)
    exact hstep.trans (ih (coherent_step hinjective hcoherent event)
      fun later hmem => hsent later (List.mem_cons_of_mem _ hmem))

theorem agrees_run (hinjective : Function.Injective generateTransferId)
    (hinjective' : Function.Injective generateOther) (hfirst : Coherent generateTransferId first)
    (hsecond : Coherent generateOther second) (h : SameFor session first second)
    (events : List Event) (hsent : ∀ event ∈ events, SentBy session event) :
    Agrees session first (run (step runtime settings generateTransferId) first events) second
      (run (step runtime settings generateOther) second events) := by
  induction events generalizing first second with
  | nil => exact agrees_refl h
  | cons event rest ih =>
    rw [run_cons, run_cons]
    have hstep := @agrees_step runtime settings generateTransferId generateOther session first
      second hfirst hsecond h event (hsent event List.mem_cons_self)
    exact hstep.trans (ih (coherent_step hinjective hfirst event)
      (coherent_step hinjective' hsecond event) hstep.same
      fun later hmem => hsent later (List.mem_cons_of_mem _ hmem))

def Reachable (runtime : Runtime) (settings : Settings) (generateTransferId : Nat → TransferId)
    (state : State) : Prop :=
  ∃ maxConcurrentTransfers defaultRateLimitBytesPerSec events,
    state = run (step runtime settings generateTransferId)
      (initial maxConcurrentTransfers defaultRateLimitBytesPerSec) events

theorem Reachable.coherent (hinjective : Function.Injective generateTransferId)
    (h : Reachable runtime settings generateTransferId first) :
    Coherent generateTransferId first := by
  obtain ⟨maxConcurrentTransfers, defaultRateLimitBytesPerSec, events, rfl⟩ := h
  exact invariant_of_step (initial_coherent _ _)
    (fun state event hcoherent => coherent_step hinjective hcoherent event) events

end Runs

-- Whatever a session sends, nothing of another session changes, and the session is answered
-- as in any other state that is the same for it, whether the other session has anything or
-- not. The ids that the two states were reached with need not be the same.
theorem sessions_do_not_interfere (runtime : Runtime) (settings : Settings)
    (generateTransferId : Nat → TransferId) (hinjective : Function.Injective generateTransferId)
    (session other : SessionId) (hne : other ≠ session) (first : State)
    (hfirst : Reachable runtime settings generateTransferId first) (events : List Event)
    (hsent : ∀ event ∈ events, SentBy other event) :
    Untouched session first (run (step runtime settings generateTransferId) first events) ∧
      ∀ (generateOther : Nat → TransferId) (second : State), Function.Injective generateOther →
        Reachable runtime settings generateOther second → SameFor other first second →
          ∃ out,
            responses (run (step runtime settings generateTransferId) first events).log =
              responses first.log ++ out ∧
            responses (run (step runtime settings generateOther) second events).log =
              responses second.log ++ out := by
  have hcoherent := hfirst.coherent hinjective
  refine ⟨untouched_run hinjective hcoherent hne events hsent, ?_⟩
  intro generateOther second hinjective' hsecond hsame
  exact (agrees_run hinjective hinjective' hcoherent (hsecond.coherent hinjective') hsame events
    hsent).answers

section Sample

def otherClient : Client where
  socket := 1
  connectionId := some (js "connection")
  sessionId := some (js "other")

def cancelMessage : JsValue :=
  some (.object [(js "transferId", .string (sampleIds 0))])

-- A session that has nothing names the upload of another one.
def foreignMessages : List Event := [
  .uploadChunk otherClient (chunkMessage 0 [1] true) 0,
  .uploadCancel otherClient cancelMessage,
  .downloadCancel otherClient cancelMessage]

theorem foreignMessages_isolated :
    Untouched (js "session") (run sampleStep sampleStart (openedUpload 2))
        (run sampleStep (run sampleStep sampleStart (openedUpload 2)) foreignMessages) ∧
      ∃ out,
        responses (run sampleStep (run sampleStep sampleStart (openedUpload 2))
          foreignMessages).log =
            responses (run sampleStep sampleStart (openedUpload 2)).log ++ out ∧
        responses (run sampleStep sampleStart foreignMessages).log =
          responses sampleStart.log ++ out := by
  have hne : js "other" ≠ js "session" := by decide
  have hisolated := sessions_do_not_interfere asciiRuntime sampleSettings sampleIds
    sampleIds_injective (js "session") (js "other") hne
    (run sampleStep sampleStart (openedUpload 2)) ⟨.ofInt 2, .ofInt 0, openedUpload 2, rfl⟩
    foreignMessages (by
      intro event hmem
      unfold foreignMessages at hmem
      simp only [List.mem_cons, List.not_mem_nil, or_false] at hmem
      rcases hmem with rfl | rfl | rfl <;> rfl)
  refine ⟨hisolated.1, hisolated.2 sampleIds sampleStart sampleIds_injective
    ⟨.ofInt 2, .ofInt 0, [], rfl⟩ ⟨?_, ?_, ?_⟩⟩
  · intro id
    have howners : ∀ entry ∈ (run sampleStep sampleStart
        (openedUpload 2)).transferManager.transfers.entries,
          entry.2.sessionId = js "session" := by decide
    unfold transferOf
    apply Option.filter_eq_none_iff.mpr
    intro transfer hget hother
    have howner := howners _ ((OrderedMap.get_eq_some_iff _ _ _).mp hget)
    exact hne ((of_decide_eq_true hother).symm.trans howner)
  · intro id
    have howners : ∀ entry ∈ (run sampleStep sampleStart (openedUpload 2)).uploadHandles.entries,
        entry.2.sessionId = js "session" := by decide
    have hnone : handleOf (js "other") (run sampleStep sampleStart (openedUpload 2)) id = none := by
      apply Option.filter_eq_none_iff.mpr
      intro handle hget hother
      have howner := howners _ ((OrderedMap.get_eq_some_iff _ _ _).mp hget)
      exact hne ((of_decide_eq_true hother).symm.trans howner)
    rw [hnone]
    rfl
  · have hnothing : (run sampleStep sampleStart (openedUpload 2)).writing = [] := by
      apply List.isEmpty_iff.mp
      decide
    unfold writingOf
    rw [hnothing]
    rfl

end Sample

end WebSsh2.Sftp.UploadService

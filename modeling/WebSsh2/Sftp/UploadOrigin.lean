import WebSsh2.Sftp.UploadSteps

namespace WebSsh2.Sftp.UploadService

open WebSsh2.Library WebSsh2.Library.Run WebSsh2.State WebSsh2.Sftp.Upload

-- The service holds something under the id, as a transfer of the session.
inductive Mentions (state : State) (transferId : TransferId) (sessionId : SessionId) :
    TransferDirection → Prop where
  | transfer (transfer : ManagedTransfer)
      (hget : state.transferManager.transfers.get transferId = some transfer)
      (hsession : transfer.sessionId = sessionId) :
      Mentions state transferId sessionId transfer.direction
  | handle (handle : UploadHandle) (hget : state.uploadHandles.get transferId = some handle)
      (hsession : handle.sessionId = sessionId) : Mentions state transferId sessionId .upload
  | download (hget : state.downloadStreams.get transferId = some sessionId) :
      Mentions state transferId sessionId .download
  | opening (opening : Opening) (hmem : opening ∈ state.opening)
      (htransfer : opening.transferId = transferId) (hsession : opening.sessionId = sessionId) :
      Mentions state transferId sessionId .upload
  | writing (writing : Writing) (hmem : writing ∈ state.writing)
      (htransfer : writing.transferId = transferId)
      (hsession : writing.handle.sessionId = sessionId) :
      Mentions state transferId sessionId .upload

-- What is held under an id is of one session and one direction, and the id was generated.
structure Coherent (generateTransferId : Nat → TransferId) (state : State) : Prop where
  session : ∀ {transferId first second direction other},
    Mentions state transferId first direction → Mentions state transferId second other →
      first = second
  direction : ∀ {transferId first second direction other},
    Mentions state transferId first direction → Mentions state transferId second other →
      direction = other
  known : ∀ {transferId sessionId direction}, Mentions state transferId sessionId direction →
    ∃ index, index < state.generated ∧ generateTransferId index = transferId

-- The session and the direction of the transfer that a message starts.
def Begins (sessionId : SessionId) (direction : TransferDirection) : Event → Prop
  | .uploadStart client _ _ _ _ => client.sessionId = some sessionId ∧ direction = .upload
  | .downloadStart client _ _ _ => client.sessionId = some sessionId ∧ direction = .download
  | _ => False

section Mentions

variable {runtime : Runtime} {settings : Settings} {generateTransferId : Nat → TransferId}
  {state next : State} {event : Event} {transferId : TransferId} {sessionId : SessionId}
  {direction : TransferDirection}

theorem Begins.unique {other : SessionId} {second : TransferDirection}
    (h : Begins sessionId direction event) (hother : Begins other second event) :
    sessionId = other ∧ direction = second := by
  cases event with
  | uploadStart | downloadStart =>
    exact ⟨Option.some.inj (h.1.symm.trans hother.1), h.2.trans hother.2.symm⟩
  | _ => exact h.elim

variable {transfer : ManagedTransfer} {manager : TransferManager}

theorem kept_cancelTransfer {other : TransferId}
    (h : (manager.cancelTransfer other).transfers.get transferId = some transfer) :
    manager.transfers.get transferId = some transfer :=
  OrderedMap.get_of_get_delete h

theorem kept_cancelSession
    (h : (manager.cancelSessionTransfers sessionId).transfers.get transferId = some transfer) :
    manager.transfers.get transferId = some transfer ∧ transfer.sessionId ≠ sessionId := by
  unfold TransferManager.cancelSessionTransfers at h
  dsimp only at h
  rw [OrderedMap.get_filter, Option.filter_eq_some_iff, decide_eq_true_iff] at h
  exact h

-- Activation changes the status of a transfer that is pending, and nothing else.
theorem activateTransfer_get (manager : TransferManager) (transferId : TransferId) (now : Time) :
    (manager.activateTransfer transferId now).1 = manager ∨
      ∃ transfer, manager.transfers.get transferId = some transfer ∧ transfer.status = .pending ∧
        (manager.activateTransfer transferId now).1 =
          manager.store transferId (TransferManager.activated transfer now) := by
  unfold TransferManager.activateTransfer
  cases hget : manager.transfers.get transferId with
  | none => exact .inl rfl
  | some transfer =>
    dsimp only
    by_cases hpending : transfer.status = .pending
    · rw [if_neg (not_not_intro hpending)]
      exact .inr ⟨transfer, rfl, hpending, rfl⟩
    · rw [if_pos hpending]
      exact .inl rfl

theorem get_store {id : TransferId} {stored transfer : ManagedTransfer}
    (h : (manager.store id stored).transfers.get transferId = some transfer) :
    (id = transferId ∧ stored = transfer) ∨ manager.transfers.get transferId = some transfer := by
  change (manager.transfers.set id stored).get transferId = some transfer at h
  rw [OrderedMap.get_set] at h
  split at h
  · rename_i heq
    exact .inl ⟨heq, Option.some.inj h⟩
  · exact .inr h

-- Where a transfer comes from that is there after a step.
inductive Came (runtime : Runtime) (settings : Settings) (state : State) (event : Event)
    (next : State) (transferId : TransferId) (transfer : ManagedTransfer) : Prop where
  | kept (hget : state.transferManager.transfers.get transferId = some transfer)
  | activated (old : ManagedTransfer) (now : Time)
      (hget : state.transferManager.transfers.get transferId = some old)
      (hpending : old.status = .pending) (heq : transfer = TransferManager.activated old now)
  | accepted (client : Client) (data : JsValue) (now : Time) (request : UploadChunkRequest)
      (handle : UploadHandle) (old : ManagedTransfer)
      (hevent : event = .uploadChunk client data now)
      (haccepts : Accepts runtime settings state client data request handle old)
      (hid : request.transferId = transferId)
      (heq : transfer = TransferManager.updated old (uploadedData request).length now)
  | progressed (old : ManagedTransfer) (bytes : Nat) (now : Time)
      (hstream : (state.downloadStreams.get transferId).isSome = true)
      (hget : state.transferManager.transfers.get transferId = some old)
      (heq : transfer = TransferManager.updated old bytes now)
  | started (sessionId : SessionId) (size : Nat) (hfresh : Fresh sessionId .upload transfer)
      (htotal : transfer.totalBytes = .ofInt size) (hsize : size ≤ settings.uploads.maxFileSize)
      (hlog : .started transferId (.ofInt size) ∈ next.log)
  | download (hdownload : transfer.direction = .download)

theorem change_transfers (h : Change runtime settings generateTransferId state event next)
    (hget : next.transferManager.transfers.get transferId = some transfer) :
    Came runtime settings state event next transferId transfer := by
  cases h with
  | started client data setup fileExists now owner stored opening size hsession hnew hfresh
      hpending htotal hsize hopening =>
      rcases get_store hget with ⟨rfl, rfl⟩ | hold
      · exact .started owner size hfresh htotal hsize (by simp)
      · exact .kept hold
  | opened owner id now opening replies hfind hreplies =>
    dsimp only at hget
    rcases activateTransfer_get state.transferManager id now with
      hsame | ⟨old, hold, hpending, hstore⟩
    · rw [hsame] at hget
      exact .kept hget
    · rw [hstore] at hget
      rcases get_store hget with ⟨rfl, rfl⟩ | hkept
      · exact .activated old now hold hpending rfl
      · exact .kept hkept
  | openFailed | openTimedOut | completed | uploadCancelled | downloadEnded | downloadCancelled =>
    exact .kept (kept_cancelTransfer hget)
  | accepted client data now request handle old writing haccepts hwriting =>
    rcases get_store hget with ⟨rfl, rfl⟩ | hkept
    · exact .accepted client data now request handle old rfl haccepts rfl rfl
    · exact .kept hkept
  | downloadStarted client resolvedPath fileInfo now owner stored controllers replies hsession hnew
      hfresh hreplies =>
      rcases get_store hget with ⟨rfl, rfl⟩ | hold
      · exact .download hfresh.direction
      · exact .kept hold
  | downloadProgressed id chunkIndex bytesRead now old hstream hold =>
    rcases get_store hget with ⟨rfl, rfl⟩ | hkept
    · exact .progressed old bytesRead now hstream hold rfl
    · exact .kept hkept
  | disconnected client owner hconfigured hids => exact .kept (kept_cancelSession hget).1
  | replied | writeFailed | written | writeTimedOut => exact .kept hget

-- The log only grows.
theorem change_log (h : Change runtime settings generateTransferId state event next) :
    state.log <+: next.log := by
  cases h <;> first | exact List.prefix_append _ _ | exact List.prefix_refl _

theorem mem_of_replies {action : Action} {log replies : List Action} (hreplies : Replies replies)
    (haction : action.isReply = false) (hmem : action ∈ log ++ replies) : action ∈ log := by
  rcases List.mem_append.mp hmem with hold | hnew
  · exact hold
  · cases haction.symm.trans (hreplies action hnew)

-- Only an accepted chunk is written.
theorem change_write (h : Change runtime settings generateTransferId state event next)
    {handle : UploadHandle} {chunk : Chunk}
    (hmem : .write transferId handle chunk ∈ next.log) :
    .write transferId handle chunk ∈ state.log ∨
      ∃ client data now request transfer, event = .uploadChunk client data now ∧
        Accepts runtime settings state client data request handle transfer ∧
        transferId = request.transferId ∧ chunk = chunkOf request transfer := by
  cases h with
  | replied | opened | openFailed | openTimedOut | writeTimedOut | uploadCancelled
  | downloadStarted => exact .inl (mem_of_replies ‹Replies _› rfl hmem)
  | started =>
    rcases List.mem_append.mp hmem with hold | hnew
    · exact .inl hold
    · cases List.mem_singleton.mp hnew
  | accepted client data now request found transfer writing haccepts hwriting =>
    rcases List.mem_append.mp hmem with hold | hnew
    · exact .inl hold
    · cases List.mem_singleton.mp hnew
      exact .inr ⟨client, data, now, request, transfer, rfl, haccepts, rfl, rfl⟩
  | writeFailed | written =>
    dsimp only at hmem
    rw [List.append_cons] at hmem
    rcases List.mem_append.mp (mem_of_replies ‹Replies _› rfl hmem) with hold | hnew
    · exact .inl hold
    · cases List.mem_singleton.mp hnew
  | completed =>
    dsimp only at hmem
    rw [← List.append_assoc, List.mem_append, List.mem_singleton, List.append_cons] at hmem
    rcases hmem with hmem | hnew
    · rcases List.mem_append.mp (mem_of_replies ‹Replies _› rfl hmem) with hold | hnew
      · exact .inl hold
      · cases List.mem_singleton.mp hnew
    · cases hnew
  | downloadProgressed | downloadEnded | downloadCancelled | disconnected => exact .inl hmem

theorem mentions_opening {opening : Opening}
    (hfind : state.opening.find? (isOpening sessionId transferId) = some opening) :
    Mentions state transferId sessionId .upload := by
  obtain ⟨hsession, htransfer⟩ := isOpening_find hfind
  exact .opening opening (List.mem_of_find?_eq_some hfind) htransfer hsession

theorem change_generated (h : Change runtime settings generateTransferId state event next) :
    state.generated ≤ next.generated := by
  cases h with
  | replied _ generated replies hgenerated hreplies => exact hgenerated
  | started => exact Nat.le_succ _
  | downloadStarted => exact Nat.le_succ _
  | _ => exact Nat.le_refl _

-- What is held after a step was held before it, or belongs to the transfer that the step starts
-- under the next id.
def Explained (generateTransferId : Nat → TransferId) (state : State) (event : Event)
    (next : State) (transferId : TransferId) (sessionId : SessionId)
    (direction : TransferDirection) : Prop :=
  Mentions state transferId sessionId direction ∨
    (next.generated = state.generated + 1 ∧ transferId = generateTransferId state.generated ∧
      Begins sessionId direction event)

theorem explained_transfer (h : Change runtime settings generateTransferId state event next)
    (hget : next.transferManager.transfers.get transferId = some transfer) :
    Explained generateTransferId state event next transferId transfer.sessionId
      transfer.direction := by
  have hkept : state.transferManager.transfers.get transferId = some transfer →
      Explained generateTransferId state event next transferId transfer.sessionId
        transfer.direction := fun hold => .inl (.transfer transfer hold rfl)
  cases h with
  | started client data setup fileExists now owner stored opening size hsession hnew hfresh
  | downloadStarted client path fileInfo now owner stored controllers replies hsession hnew hfresh =>
    rcases get_store hget with ⟨rfl, rfl⟩ | hold
    · exact .inr ⟨rfl, rfl, hfresh.sessionId ▸ hsession, hfresh.direction⟩
    · exact hkept hold
  | opened owner id now =>
    dsimp only at hget
    rcases activateTransfer_get state.transferManager id now with hsame | ⟨old, hold, -, hstore⟩
    · rw [hsame] at hget
      exact hkept hget
    · rw [hstore] at hget
      rcases get_store hget with ⟨rfl, rfl⟩ | hkeep
      · exact .inl (.transfer old hold rfl)
      · exact hkept hkeep
  | accepted client data now request handle old writing haccepts =>
    rcases get_store hget with ⟨rfl, rfl⟩ | hkeep
    · exact .inl (.transfer old haccepts.tracked rfl)
    · exact hkept hkeep
  | downloadProgressed id chunkIndex bytesRead now old hstream hold =>
    rcases get_store hget with ⟨rfl, rfl⟩ | hkeep
    · exact .inl (.transfer old hold rfl)
    · exact hkept hkeep
  | openFailed | openTimedOut | completed | uploadCancelled | downloadEnded | downloadCancelled =>
    exact hkept (kept_cancelTransfer hget)
  | disconnected => exact hkept (kept_cancelSession hget).1
  | _ => exact hkept hget

theorem explained_handle (h : Change runtime settings generateTransferId state event next)
    {handle : UploadHandle} (hget : next.uploadHandles.get transferId = some handle) :
    Mentions state transferId handle.sessionId .upload := by
  cases h with
  | opened owner id now opening replies hfind =>
    dsimp only at hget
    rw [OrderedMap.get_set] at hget
    split at hget
    · rename_i heq
      cases hget
      exact heq ▸ mentions_opening hfind
    · exact .handle handle hget rfl
  | written owner id chunkIndex now writing =>
    dsimp only at hget
    split at hget
    · exact .handle handle (OrderedMap.get_of_get_delete hget) rfl
    · exact .handle handle hget rfl
  | writeFailed | completed | uploadCancelled =>
    exact .handle handle (OrderedMap.get_of_get_delete hget) rfl
  | _ => exact .handle handle hget rfl

theorem explained_download (h : Change runtime settings generateTransferId state event next)
    (hget : next.downloadStreams.get transferId = some sessionId) :
    Explained generateTransferId state event next transferId sessionId .download := by
  cases h with
  | downloadStarted client path fileInfo now owner stored controllers replies hsession =>
    dsimp only at hget
    rw [OrderedMap.get_set] at hget
    split at hget
    · rename_i heq
      cases hget
      exact .inr ⟨rfl, heq.symm, hsession, rfl⟩
    · exact .inl (.download hget)
  | downloadEnded | downloadCancelled => exact .inl (.download (OrderedMap.get_of_get_delete hget))
  | _ => exact .inl (.download hget)

theorem explained_opening (h : Change runtime settings generateTransferId state event next)
    {opening : Opening} (hmem : opening ∈ next.opening) :
    Explained generateTransferId state event next opening.transferId opening.sessionId
      .upload := by
  cases h with
  | started client data setup fileExists now owner stored new size hsession hnew hfresh hpending
      htotal hsize hopening =>
      rcases List.mem_append.mp hmem with hold | hnew
      · exact .inl (.opening opening hold rfl rfl)
      · rw [List.mem_singleton.mp hnew, hopening.1, hopening.2]
        exact .inr ⟨rfl, rfl, hsession, rfl⟩
  | opened | openFailed =>
    exact .inl (.opening opening (List.mem_of_mem_eraseP hmem) rfl rfl)
  | openTimedOut =>
    obtain ⟨old, hold, rfl⟩ := List.mem_map.mp hmem
    split <;> exact .inl (.opening old hold rfl rfl)
  | _ => exact .inl (.opening opening hmem rfl rfl)

theorem explained_writing (h : Change runtime settings generateTransferId state event next)
    {writing : Writing} (hmem : writing ∈ next.writing) :
    Mentions state writing.transferId writing.handle.sessionId .upload := by
  cases h with
  | accepted client data now request handle transfer new haccepts hwriting =>
    rcases List.mem_append.mp hmem with hold | hnew
    · obtain ⟨old, hbefore, rfl⟩ := List.mem_map.mp hold
      unfold sharesBytes
      split <;> exact .writing old hbefore rfl rfl
    · rw [List.mem_singleton.mp hnew, hwriting.1, hwriting.2.1]
      exact .handle handle haccepts.handle rfl
  | writeFailed | written | completed =>
    exact .writing writing (List.mem_of_mem_eraseP hmem) rfl rfl
  | writeTimedOut =>
    obtain ⟨old, hold, rfl⟩ := List.mem_map.mp hmem
    split <;> exact .writing old hold rfl rfl
  | _ => exact .writing writing hmem rfl rfl

theorem change_mentions (h : Change runtime settings generateTransferId state event next)
    (hmentions : Mentions next transferId sessionId direction) :
    Explained generateTransferId state event next transferId sessionId direction := by
  cases hmentions with
  | transfer transfer hget howner => exact howner ▸ explained_transfer h hget
  | handle handle hget howner => exact .inl (howner ▸ explained_handle h hget)
  | download hget => exact explained_download h hget
  | opening opening hmem htransfer howner => exact htransfer ▸ howner ▸ explained_opening h hmem
  | writing writing hmem htransfer howner =>
    exact .inl (htransfer ▸ howner ▸ explained_writing h hmem)

-- The next id is held by nothing yet.
theorem Coherent.fresh (h : Coherent generateTransferId state)
    (hinjective : Function.Injective generateTransferId) :
    ¬Mentions state (generateTransferId state.generated) sessionId direction := by
  intro hmentions
  obtain ⟨index, hlt, heq⟩ := h.known hmentions
  rw [hinjective heq] at hlt
  exact Nat.lt_irrefl _ hlt

theorem change_coherent (hinjective : Function.Injective generateTransferId)
    (h : Coherent generateTransferId state)
    (hchange : Change runtime settings generateTransferId state event next) :
    Coherent generateTransferId next := by
  have hagree : ∀ {transferId first second direction other},
      Mentions next transferId first direction → Mentions next transferId second other →
        first = second ∧ direction = other := by
    intro transferId first second direction other hfirst hsecond
    rcases change_mentions hchange hfirst with hold | ⟨-, heq, hbegins⟩
    · rcases change_mentions hchange hsecond with hold' | ⟨-, heq, -⟩
      · exact ⟨h.session hold hold', h.direction hold hold'⟩
      · rw [heq] at hold
        exact absurd hold (h.fresh hinjective)
    · rcases change_mentions hchange hsecond with hold' | ⟨-, -, hbegins'⟩
      · rw [heq] at hold'
        exact absurd hold' (h.fresh hinjective)
      · exact hbegins.unique hbegins'
  refine ⟨fun hfirst hsecond => (hagree hfirst hsecond).1,
    fun hfirst hsecond => (hagree hfirst hsecond).2, fun hfirst => ?_⟩
  rcases change_mentions hchange hfirst with hold | ⟨hnext, heq, -⟩
  · obtain ⟨index, hlt, heq⟩ := h.known hold
    exact ⟨index, Nat.lt_of_lt_of_le hlt (change_generated hchange), heq⟩
  · exact ⟨state.generated, by omega, heq.symm⟩

theorem initial_coherent (maxConcurrentTransfers defaultRateLimitBytesPerSec : Number) :
    Coherent generateTransferId (initial maxConcurrentTransfers defaultRateLimitBytesPerSec) := by
  have hnothing : ∀ {transferId sessionId direction}, ¬Mentions
      (initial maxConcurrentTransfers defaultRateLimitBytesPerSec) transferId sessionId
        direction := by
    intro transferId sessionId direction hmentions
    cases hmentions with
    | transfer transfer hget hsession => cases hget
    | handle handle hget hsession => cases hget
    | download hget => cases hget
    | opening opening hmem htransfer hsession => cases hmem
    | writing writing hmem htransfer hsession => cases hmem
  exact ⟨fun hfirst => absurd hfirst hnothing, fun hfirst => absurd hfirst hnothing,
    fun hfirst => absurd hfirst hnothing⟩

end Mentions

end WebSsh2.Sftp.UploadService

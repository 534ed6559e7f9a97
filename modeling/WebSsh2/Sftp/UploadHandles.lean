import WebSsh2.Sftp.UploadOrigin

namespace WebSsh2.Sftp.UploadService

open WebSsh2.Library WebSsh2.Library.Run WebSsh2.State WebSsh2.Sftp.Upload

def Quiescent (state : State) : Prop :=
  state.opening = [] ∧ state.writing = []

-- The open files are those of the active uploads, and no other upload is counted.
structure Agreement (state : State) : Prop where
  handles : ∀ transferId, (∃ handle, state.uploadHandles.get transferId = some handle) ↔
    ∃ transfer, state.transferManager.transfers.get transferId = some transfer ∧
      transfer.direction = .upload ∧ transfer.status = .active
  counted : ∀ transferId transfer,
    state.transferManager.transfers.get transferId = some transfer →
      transfer.direction = .upload → ∃ handle, state.uploadHandles.get transferId = some handle

-- A file is opened for a transfer that is still tracked, and where the file or the transfer
-- ends, the other ends with it or has ended before.
def EndsBoth (settings : Settings) (state : State) : Event → Prop
  | .openReturned sessionId transferId (.ok ()) _ =>
    ∀ opening, state.opening.find? (isOpening sessionId transferId) = some opening →
      ∃ transfer, state.transferManager.transfers.get transferId = some transfer
  | .writeReturned sessionId transferId chunkIndex (.error _) _ =>
    ∀ writing, state.writing.find? (isWriting sessionId transferId chunkIndex) = some writing →
      state.transferManager.transfers.get transferId = none
  | .writeReturned sessionId transferId chunkIndex (.ok ()) _ =>
    ∀ writing, state.writing.find? (isWriting sessionId transferId chunkIndex) = some writing →
      writing.chunk.isLast = true → writing.waiting = false →
        state.transferManager.transfers.get transferId = none
  | .downloadCancel client data =>
    ∀ transferId connectionId transfer,
      validateSftpDownloadCancelRequest data = .ok transferId → settings.configured = true →
        state.transferManager.transfers.get transferId = some transfer →
          getConnectionAndSessionIds client = some (connectionId, transfer.sessionId) →
            state.uploadHandles.get transferId = none
  | .disconnect client =>
    ∀ connectionId sessionId, settings.configured = true →
      getConnectionAndSessionIds client = some (connectionId, sessionId) →
        ∀ transferId handle, state.uploadHandles.get transferId = some handle →
          handle.sessionId ≠ sessionId
  | _ => True

-- What is held under one id, with whether an open is outstanding for it.
structure Fits (handle : Option UploadHandle) (transfer : Option ManagedTransfer)
    (awaited : Prop) : Prop where
  agree : (∃ stored, handle = some stored) ↔
    ∃ tracked, transfer = some tracked ∧ tracked.direction = .upload ∧ tracked.status = .active
  pending : awaited → ∀ tracked, transfer = some tracked → tracked.status = .pending
  awaits : ∀ tracked, transfer = some tracked → tracked.direction = .upload →
    tracked.status ≠ .active → awaited

def awaitedIds (openings : List Opening) : List TransferId :=
  openings.map fun opening => opening.transferId

structure Matched (state : State) : Prop where
  distinct : (awaitedIds state.opening).Nodup
  fits : ∀ transferId, Fits (state.uploadHandles.get transferId)
    (state.transferManager.transfers.get transferId) (transferId ∈ awaitedIds state.opening)

section Fits

variable {handle : Option UploadHandle} {transfer : ManagedTransfer} {awaited : Prop}

theorem fits_none : Fits none none awaited := by
  constructor
  · constructor
    · rintro ⟨stored, hstored⟩
      cases hstored
    · rintro ⟨tracked, htracked, -⟩
      cases htracked
  · intro _ tracked htracked
    cases htracked
  · intro tracked htracked
    cases htracked

theorem fits_pending (hpending : transfer.status = .pending) (hawaited : awaited) :
    Fits none (some transfer) awaited := by
  refine ⟨⟨?_, ?_⟩, ?_, fun _ _ _ _ => hawaited⟩
  · rintro ⟨stored, hstored⟩
    cases hstored
  · rintro ⟨tracked, htracked, -, hactive⟩
    cases htracked
    cases hpending.symm.trans hactive
  · intro _ tracked htracked
    cases htracked
    exact hpending

theorem fits_active (stored : UploadHandle) (hupload : transfer.direction = .upload)
    (hactive : transfer.status = .active) (hawaited : ¬awaited) :
    Fits (some stored) (some transfer) awaited := by
  refine ⟨⟨fun _ => ⟨transfer, rfl, hupload, hactive⟩, fun _ => ⟨stored, rfl⟩⟩,
    fun h => absurd h hawaited, ?_⟩
  intro tracked htracked _ hnot
  cases htracked
  exact absurd hactive hnot

theorem fits_download (hdownload : transfer.direction = .download) (hawaited : ¬awaited) :
    Fits none (some transfer) awaited := by
  refine ⟨⟨?_, ?_⟩, fun h => absurd h hawaited, ?_⟩
  · rintro ⟨stored, hstored⟩
    cases hstored
  · rintro ⟨tracked, htracked, hupload, -⟩
    cases htracked
    cases hdownload.symm.trans hupload
  · intro tracked htracked hupload
    cases htracked
    cases hdownload.symm.trans hupload

theorem Fits.congr {transfer : Option ManagedTransfer} {other : Prop}
    (h : Fits handle transfer awaited) (hiff : awaited ↔ other) : Fits handle transfer other :=
  ⟨h.agree, fun hother => h.pending (hiff.mpr hother),
    fun tracked htracked hupload hnot => hiff.mp (h.awaits tracked htracked hupload hnot)⟩

-- What an update of a transfer leaves as it was is all that matters.
theorem Fits.updated (h : Fits handle (some transfer) awaited) (bytes : Nat) (now : Time) :
    Fits handle (some (TransferManager.updated transfer bytes now)) awaited := by
  refine ⟨h.agree.trans ⟨?_, ?_⟩, ?_, ?_⟩
  · rintro ⟨tracked, htracked, hupload, hactive⟩
    cases htracked
    exact ⟨_, rfl, hupload, hactive⟩
  · rintro ⟨tracked, htracked, hupload, hactive⟩
    cases htracked
    exact ⟨transfer, rfl, hupload, hactive⟩
  · intro hawaited tracked htracked
    cases htracked
    exact h.pending hawaited transfer rfl
  · intro tracked htracked hupload hnot
    cases htracked
    exact h.awaits transfer rfl hupload hnot

-- While the open is outstanding no file is held.
theorem Fits.unopened {transfer : Option ManagedTransfer} (h : Fits handle transfer awaited)
    (hawaited : awaited) : handle = none := by
  cases handle with
  | none => rfl
  | some stored =>
    obtain ⟨tracked, htracked, -, hactive⟩ := h.agree.mp ⟨stored, rfl⟩
    cases (h.pending hawaited tracked htracked).symm.trans hactive

end Fits

section Steps

variable {runtime : Runtime} {settings : Settings} {generateTransferId : Nat → TransferId}
  {state next : State} {event : Event} {sessionId : SessionId} {transferId : TransferId}

theorem mem_awaitedIds {openings : List Opening} :
    transferId ∈ awaitedIds openings ↔
      ∃ opening ∈ openings, opening.transferId = transferId :=
  List.mem_map

theorem awaitedIds_append (openings : List Opening) (opening : Opening) :
    awaitedIds (openings ++ [opening]) = awaitedIds openings ++ [opening.transferId] :=
  List.map_append

theorem awaitedIds_timedOut (openings : List Opening) :
    (awaitedIds (openings.map fun (other : Opening) =>
      if isOpening sessionId transferId other then { other with waiting := false } else other)) =
        awaitedIds openings := by
  unfold awaitedIds
  rw [List.map_map]
  apply List.map_congr_left
  intro opening _
  dsimp only [Function.comp]
  split <;> rfl

-- The open that has returned is no longer awaited, and it was the only one of its id.
theorem awaitedIds_eraseP {openings : List Opening} {opening : Opening}
    (hdistinct : (awaitedIds openings).Nodup)
    (hfind : openings.find? (isOpening sessionId transferId) = some opening) :
    (awaitedIds (openings.eraseP (isOpening sessionId transferId))).Nodup ∧
      ∀ other, other ∈ awaitedIds (openings.eraseP (isOpening sessionId transferId)) ↔
        other ≠ transferId ∧ other ∈ awaitedIds openings := by
  obtain ⟨found, before, after, -, hfound, heq, herased⟩ :=
    List.exists_of_eraseP (List.mem_of_find?_eq_some hfind) (List.find?_some hfind)
  have hid : found.transferId = transferId := by
    have hboth : found.sessionId = sessionId ∧ found.transferId = transferId := by
      simpa [isOpening] using hfound
    exact hboth.2
  rw [herased]
  rw [heq] at hdistinct
  unfold awaitedIds at hdistinct ⊢
  rw [List.map_append, List.map_cons, List.nodup_middle, hid, ← List.map_append,
    List.nodup_cons] at hdistinct
  refine ⟨hdistinct.2, fun other => ?_⟩
  rw [heq, List.map_append, List.map_append, List.map_cons, hid, List.mem_append,
    List.mem_append, List.mem_cons]
  rw [List.map_append, List.mem_append] at hdistinct
  constructor
  · intro hmem
    refine ⟨?_, by tauto⟩
    rintro rfl
    exact hdistinct.1 hmem
  · rintro ⟨hne, hmem⟩
    tauto

theorem Coherent.not_awaited (h : Coherent generateTransferId state)
    (hinjective : Function.Injective generateTransferId) :
    generateTransferId state.generated ∉ awaitedIds state.opening := by
  intro hmem
  obtain ⟨opening, hopening, hid⟩ := mem_awaitedIds.mp hmem
  exact h.fresh hinjective (.opening opening hopening hid rfl)

theorem Coherent.no_handle (h : Coherent generateTransferId state)
    (hinjective : Function.Injective generateTransferId) :
    state.uploadHandles.get (generateTransferId state.generated) = none := by
  cases hget : state.uploadHandles.get (generateTransferId state.generated) with
  | none => rfl
  | some handle => exact absurd (.handle handle hget rfl) (h.fresh hinjective)

theorem Coherent.download_no_handle (h : Coherent generateTransferId state)
    (hstream : (state.downloadStreams.get transferId).isSome = true) :
    state.uploadHandles.get transferId = none := by
  obtain ⟨owner, hdownload⟩ := Option.isSome_iff_exists.mp hstream
  cases hget : state.uploadHandles.get transferId with
  | none => rfl
  | some handle => cases h.direction (.handle handle hget rfl) (.download hdownload)

-- The upload and its file end under one id, and nothing happens under the others.
theorem Matched.ends (h : Matched state) (hdistinct : (awaitedIds next.opening).Nodup)
    (hawaited : ∀ other, other ≠ transferId →
      (other ∈ awaitedIds state.opening ↔ other ∈ awaitedIds next.opening))
    (hhandles : ∀ other, next.uploadHandles.get other =
      if transferId = other then none else state.uploadHandles.get other)
    (htransfers : ∀ other, next.transferManager.transfers.get other =
      if transferId = other then none else state.transferManager.transfers.get other) :
    Matched next := by
  refine ⟨hdistinct, fun other => ?_⟩
  rw [hhandles, htransfers]
  by_cases heq : transferId = other
  · rw [if_pos heq, if_pos heq]
    exact fits_none
  · rw [if_neg heq, if_neg heq]
    exact (h.fits other).congr (hawaited other (Ne.symm heq))

-- One transfer is stored anew, under the id it fits.
theorem Matched.stores (h : Matched state) {stored : ManagedTransfer}
    (hdistinct : (awaitedIds next.opening).Nodup)
    (hawaited : ∀ other, other ≠ transferId →
      (other ∈ awaitedIds state.opening ↔ other ∈ awaitedIds next.opening))
    (hhandles : ∀ other, other ≠ transferId →
      next.uploadHandles.get other = state.uploadHandles.get other)
    (htransfers :
      next.transferManager.transfers = state.transferManager.transfers.set transferId stored)
    (hfits : Fits (next.uploadHandles.get transferId) (some stored)
      (transferId ∈ awaitedIds next.opening)) : Matched next := by
  refine ⟨hdistinct, fun other => ?_⟩
  rw [htransfers, OrderedMap.get_set]
  by_cases heq : transferId = other
  · rw [if_pos heq, ← heq]
    exact hfits
  · rw [if_neg heq, hhandles other (Ne.symm heq)]
    exact (h.fits other).congr (hawaited other (Ne.symm heq))

theorem get_absent {ν : Type} {map : OrderedMap TransferId ν} (h : map.get transferId = none)
    (other : TransferId) : map.get other = if transferId = other then none else map.get other := by
  by_cases heq : transferId = other
  · rw [if_pos heq, ← heq, h]
  · rw [if_neg heq]

theorem change_matched (hinjective : Function.Injective generateTransferId)
    (hcoherent : Coherent generateTransferId state) (h : Matched state)
    (hchange : Change runtime settings generateTransferId state event next)
    (hends : EndsBoth settings state event) : Matched next := by
  cases hchange with
  | replied | writeTimedOut => exact ⟨h.distinct, h.fits⟩
  | started client data setup fileExists now owner stored opening size hsession hnew hfresh
      hpending htotal hsize hopening =>
      have hids : awaitedIds (state.opening ++ [opening]) =
          awaitedIds state.opening ++ [generateTransferId state.generated] := by
        rw [awaitedIds_append, hopening.1]
      refine @Matched.stores state _ (generateTransferId state.generated) h stored ?_ ?_
        (fun other _ => rfl) rfl ?_
      · rw [hids, ← List.concat_eq_append]
        exact h.distinct.concat (hcoherent.not_awaited hinjective)
      · intro other hne
        rw [hids, List.mem_append, List.mem_singleton]
        tauto
      · dsimp only
        rw [hcoherent.no_handle hinjective, hids]
        exact fits_pending hpending (by simp)
  | opened owner id now opening replies hfind hreplies =>
    obtain ⟨hdistinct, hawaited⟩ := awaitedIds_eraseP h.distinct hfind
    have hopening : opening ∈ state.opening := List.mem_of_find?_eq_some hfind
    have hid : opening.transferId = id := (isOpening_find hfind).2
    obtain ⟨transfer, hget⟩ := hends opening hfind
    have hpending : transfer.status = .pending :=
      (h.fits id).pending (mem_awaitedIds.mpr ⟨opening, hopening, hid⟩) transfer hget
    have hupload : transfer.direction = .upload :=
      hcoherent.direction (.transfer transfer hget rfl) (.opening opening hopening hid rfl)
    refine @Matched.stores state _ id h (TransferManager.activated transfer now) hdistinct ?_ ?_
      ?_ ?_
    · intro other hne
      rw [hawaited]
      exact ⟨fun hmem => ⟨hne, hmem⟩, fun hboth => hboth.2⟩
    · intro other hne
      dsimp only
      rw [OrderedMap.get_set, if_neg (Ne.symm hne)]
    · unfold TransferManager.activateTransfer
      rw [hget]
      dsimp only
      rw [if_neg (not_not_intro hpending)]
      rfl
    · dsimp only
      rw [OrderedMap.get_set_self]
      exact fits_active _ hupload rfl fun hmem => ((hawaited id).mp hmem).1 rfl
  | openFailed owner id message now opening replies hfind hreplies =>
    obtain ⟨hdistinct, hawaited⟩ := awaitedIds_eraseP h.distinct hfind
    have hnone : state.uploadHandles.get id = none := (h.fits id).unopened
      (mem_awaitedIds.mpr ⟨opening, List.mem_of_find?_eq_some hfind, (isOpening_find hfind).2⟩)
    refine @Matched.ends state _ id h hdistinct ?_ (get_absent hnone)
      (fun other => OrderedMap.get_delete _ _ _)
    intro other hne
    rw [hawaited]
    exact ⟨fun hmem => ⟨hne, hmem⟩, fun hboth => hboth.2⟩
  | openTimedOut owner id opening replies hfind hreplies =>
    have hnone : state.uploadHandles.get id = none := (h.fits id).unopened
      (mem_awaitedIds.mpr ⟨opening, List.mem_of_find?_eq_some hfind, (isOpening_find hfind).2⟩)
    refine @Matched.ends state _ id h ?_ ?_ (get_absent hnone)
      (fun other => OrderedMap.get_delete _ _ _)
    · dsimp only
      rw [awaitedIds_timedOut]
      exact h.distinct
    · intro other _
      dsimp only
      rw [awaitedIds_timedOut]
  | accepted client data now request handle transfer writing haccepts hwriting =>
    refine @Matched.stores state _ request.transferId h
      (TransferManager.updated transfer (uploadedData request).length now) h.distinct
      (fun other _ => Iff.rfl) (fun other _ => rfl) rfl ?_
    have hfits := h.fits request.transferId
    rw [haccepts.tracked] at hfits
    exact hfits.updated (uploadedData request).length now
  | writeFailed owner id chunkIndex message now writing replies hfind hreplies =>
    exact @Matched.ends state _ id h h.distinct (fun other _ => Iff.rfl)
      (fun other => OrderedMap.get_delete _ _ _) (get_absent (hends writing hfind))
  | written owner id chunkIndex now writing replies hfind hreplies hgone =>
    by_cases hlast : writing.chunk.isLast = true
    · have hnone : state.transferManager.transfers.get id = none := by
        by_cases hwaiting : writing.waiting = true
        · exact hgone hlast hwaiting
        · exact hends writing hfind hlast (Bool.eq_false_iff.mpr hwaiting)
      refine @Matched.ends state _ id h h.distinct (fun other _ => Iff.rfl) ?_ (get_absent hnone)
      intro other
      dsimp only
      rw [if_pos hlast]
      exact OrderedMap.get_delete _ _ _
    · refine ⟨h.distinct, ?_⟩
      dsimp only
      rw [if_neg hlast]
      exact h.fits
  | completed owner id | uploadCancelled client data id =>
    exact @Matched.ends state _ id h h.distinct (fun other _ => Iff.rfl)
      (fun other => OrderedMap.get_delete _ _ _) (fun other => OrderedMap.get_delete _ _ _)
  | downloadStarted client resolvedPath fileInfo now owner transfer controllers replies hsession
      hnew hfresh hreplies =>
      refine @Matched.stores state _ (generateTransferId state.generated) h transfer h.distinct
        (fun other _ => Iff.rfl) (fun other _ => rfl) rfl ?_
      dsimp only
      rw [hcoherent.no_handle hinjective]
      exact fits_download hfresh.direction (hcoherent.not_awaited hinjective)
  | downloadProgressed id chunkIndex bytesRead now transfer hstream hget =>
    refine @Matched.stores state _ id h (TransferManager.updated transfer bytesRead now)
      h.distinct (fun other _ => Iff.rfl) (fun other _ => rfl) rfl ?_
    have hfits := h.fits id
    rw [hget] at hfits
    exact hfits.updated bytesRead now
  | downloadEnded id now controllers hstream =>
    exact @Matched.ends state _ id h h.distinct (fun other _ => Iff.rfl)
      (get_absent (hcoherent.download_no_handle hstream))
      (fun other => OrderedMap.get_delete _ _ _)
  | downloadCancelled client data id transfer controllers hvalid hconfigured hget hids =>
    obtain ⟨connectionId, hids⟩ := hids
    exact @Matched.ends state _ id h h.distinct (fun other _ => Iff.rfl)
      (get_absent (hends id connectionId transfer hvalid hconfigured hget hids))
      (fun other => OrderedMap.get_delete _ _ _)
  | disconnected client owner hconfigured hids =>
    obtain ⟨connectionId, hids⟩ := hids
    have hforeign := hends connectionId owner hconfigured hids
    refine ⟨h.distinct, fun other => ?_⟩
    show Fits (state.uploadHandles.get other) ((state.transferManager.transfers.filter
      fun _ transfer => transfer.sessionId ≠ owner).get other) (other ∈ awaitedIds state.opening)
    rw [OrderedMap.get_filter]
    have hfits := h.fits other
    cases hget : state.transferManager.transfers.get other with
    | none =>
      rw [hget] at hfits
      exact hfits
    | some transfer =>
      rw [hget] at hfits
      by_cases howner : transfer.sessionId = owner
      · rw [Option.filter_some, if_neg (by simp [howner])]
        cases hhandle : state.uploadHandles.get other with
        | none => exact fits_none
        | some handle =>
          have hsession : handle.sessionId = transfer.sessionId :=
            hcoherent.session (.handle handle hhandle rfl) (.transfer transfer hget rfl)
          exact absurd (hsession.trans howner) (hforeign other handle hhandle)
      · rw [Option.filter_some, if_pos (by simp [howner])]
        exact hfits

theorem Matched.agreement (h : Matched state) (hquiescent : Quiescent state) :
    Agreement state := by
  refine ⟨fun transferId => (h.fits transferId).agree, fun transferId transfer hget hupload => ?_⟩
  refine (h.fits transferId).agree.mpr ⟨transfer, hget, hupload, ?_⟩
  by_contra hnot
  have hawaited := (h.fits transferId).awaits transfer hget hupload hnot
  rw [hquiescent.1] at hawaited
  cases hawaited

end Steps

-- In every run whose steps end both, the files and the uploads agree wherever nothing is
-- outstanding.
theorem uploads_agree_of_endsBoth (runtime : Runtime) (settings : Settings)
    (generateTransferId : Nat → TransferId) (hinjective : Function.Injective generateTransferId)
    (maxConcurrentTransfers defaultRateLimitBytesPerSec : Number) (events : List Event)
    (hends : Along (step runtime settings generateTransferId) (EndsBoth settings)
      (initial maxConcurrentTransfers defaultRateLimitBytesPerSec) events) :
    Throughout (step runtime settings generateTransferId)
      (fun state => Quiescent state → Agreement state)
      (initial maxConcurrentTransfers defaultRateLimitBytesPerSec) events := by
  have hthroughout : Throughout (step runtime settings generateTransferId)
      (fun state => Coherent generateTransferId state ∧ Matched state)
      (initial maxConcurrentTransfers defaultRateLimitBytesPerSec) events := by
    refine throughout_of_step ⟨initial_coherent _ _, List.nodup_nil, fun transferId => fits_none⟩ ?_
      hends
    rintro state event ⟨hcoherent, hmatched⟩ hends
    have hchange := @change_step runtime settings generateTransferId state event
    exact ⟨change_coherent hinjective hcoherent hchange,
      change_matched hinjective hcoherent hmatched hchange hends⟩
  exact throughout_mono (fun state hboth => hboth.2.agreement) hthroughout

section Sample

-- The one chunk of the file is written, and the upload is complete.
def finishedUpload : List Event :=
  openedUpload 1 ++ [.uploadChunk sampleClient (chunkMessage 0 [1] true) 0,
    sampleWriteReturned 0 (.ok ())]

-- The write of the one chunk fails, which closes the file only.
def failedWrite : List Event :=
  openedUpload 1 ++ [.uploadChunk sampleClient (chunkMessage 0 [1] true) 0,
    sampleWriteReturned 0 (.error (js "full"))]

theorem finishedUpload_agrees :
    Throughout (step asciiRuntime sampleSettings sampleIds)
        (fun state => Quiescent state → Agreement state) sampleStart finishedUpload ∧
      Function.Injective sampleIds ∧
      Along (step asciiRuntime sampleSettings sampleIds) (EndsBoth sampleSettings) sampleStart
        finishedUpload := by
  have hends : Along (step asciiRuntime sampleSettings sampleIds) (EndsBoth sampleSettings)
      sampleStart finishedUpload := by
    refine ⟨trivial, ?_, trivial, ?_, trivial⟩
    · intro opening hfind
      apply Option.isSome_iff_exists.mp
      decide
    · intro writing hfind hlast hwaiting
      have hwaits : ((run sampleStep sampleStart (openedUpload 1 ++
          [.uploadChunk sampleClient (chunkMessage 0 [1] true) 0])).writing.find?
            (isWriting (js "session") (sampleIds 0) (.ofInt 0))).map (fun writing =>
              writing.waiting) = some true := by decide
      obtain ⟨found, hfound, htrue⟩ := Option.map_eq_some_iff.mp hwaits
      cases hfound.symm.trans hfind
      cases htrue.symm.trans hwaiting
  exact ⟨uploads_agree_of_endsBoth asciiRuntime sampleSettings sampleIds sampleIds_injective
    (.ofInt 2) (.ofInt 0) finishedUpload hends, sampleIds_injective, hends⟩

theorem failedWrite_disagrees :
    ¬Throughout (step asciiRuntime sampleSettings sampleIds)
      (fun state => Quiescent state → Agreement state) sampleStart failedWrite := by
  intro hthroughout
  have hagreement : Agreement (run sampleStep sampleStart failedWrite) := by
    apply throughout_last _ hthroughout
    constructor
    · apply List.isEmpty_iff.mp
      decide
    · apply List.isEmpty_iff.mp
      decide
  have hactive : ((run sampleStep sampleStart failedWrite).transferManager.transfers.get
      (sampleIds 0)).map (fun transfer => transfer.direction) = some .upload := by decide
  obtain ⟨transfer, hget, hupload⟩ := Option.map_eq_some_iff.mp hactive
  obtain ⟨handle, hhandle⟩ := hagreement.counted _ transfer hget hupload
  have hclosed : (run sampleStep sampleStart failedWrite).uploadHandles.get (sampleIds 0) =
      none := by decide
  cases hclosed.symm.trans hhandle

end Sample

end WebSsh2.Sftp.UploadService

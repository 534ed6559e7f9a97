import WebSsh2.Sftp.UploadOrigin

namespace WebSsh2.Sftp.UploadService

open WebSsh2.Library WebSsh2.Library.Run WebSsh2.State WebSsh2.Sftp.Upload

-- No upload takes more than what was declared for it, and none writes behind that.
structure Quota (settings : Settings) (state : State) : Prop where
  accepted : ∀ transferId transfer,
    state.transferManager.transfers.get transferId = some transfer →
      transfer.direction = .upload → transfer.bytesTransferred.le transfer.totalBytes = true ∧
        transfer.totalBytes.le settings.config.maxFileSize = true
  written : ∀ transferId handle chunk, .write transferId handle chunk ∈ state.log →
    ∃ size, .started transferId size ∈ state.log ∧
      (chunk.offset.add (.ofInt chunk.data.length)).le size = true ∧
      size.le settings.config.maxFileSize = true

-- A chunk that is accepted carries no more than what is missing of the declared size.
def ChunkFits (runtime : Runtime) (settings : Settings) (state : State) : Event → Prop
  | .uploadChunk client data _ => ∀ request handle transfer,
      Accepts runtime settings state client data request handle transfer →
        (transfer.bytesTransferred.add (.ofInt (uploadedData request).length)).le
          transfer.totalBytes = true
  | _ => True

-- The bytes of an upload are counted, and its size is the one it was started with.
structure Counts (settings : Settings) (log : List Action) (transferId : TransferId)
    (transfer : ManagedTransfer) (bytes size : Nat) : Prop where
  counted : transfer.bytesTransferred = .ofInt bytes
  declared : transfer.totalBytes = .ofInt size
  limited : size ≤ settings.uploads.maxFileSize
  started : .started transferId (.ofInt size) ∈ log

def Counted (settings : Settings) (state : State) : Prop :=
  ∀ transferId transfer, state.transferManager.transfers.get transferId = some transfer →
    transfer.direction = .upload →
      ∃ bytes size, Counts settings state.log transferId transfer bytes size

section Steps

variable {runtime : Runtime} {settings : Settings} {generateTransferId : Nat → TransferId}
  {state next : State} {event : Event}

variable {transferId : TransferId} {log : List Action} {bytes size : Nat}

theorem Counts.update {old : ManagedTransfer} (h : Counts settings log transferId old bytes size)
    (added : Nat) (now : Time) :
    Counts settings log transferId (TransferManager.updated old added now) (bytes + added)
      size := by
  refine ⟨?_, h.declared, h.limited, h.started⟩
  show old.bytesTransferred.add (.ofInt added) = _
  rw [h.counted, Number.ofInt_add]
  rfl

theorem change_counted (h : Counted settings state)
    (hchange : Change runtime settings generateTransferId state event next) :
    Counted settings next := by
  have hlog : ∀ action ∈ state.log, action ∈ next.log := (change_log hchange).subset
  have hgrown : ∀ {transferId transfer bytes size},
      Counts settings state.log transferId transfer bytes size →
        Counts settings next.log transferId transfer bytes size :=
    fun hcounts => ⟨hcounts.counted, hcounts.declared, hcounts.limited, hlog _ hcounts.started⟩
  intro transferId transfer hget hdirection
  cases change_transfers hchange hget with
  | kept hold =>
    obtain ⟨bytes, size, hcounts⟩ := h transferId transfer hold hdirection
    exact ⟨bytes, size, hgrown hcounts⟩
  | activated old now hold hpending heq =>
    subst heq
    obtain ⟨bytes, size, hcounts⟩ := h transferId old hold hdirection
    have hnext := hgrown hcounts
    exact ⟨bytes, size, hnext.counted, hnext.declared, hnext.limited, hnext.started⟩
  | accepted client data now request handle old hevent haccepts hid heq =>
    subst heq hid
    obtain ⟨bytes, size, hcounts⟩ := h request.transferId old haccepts.tracked hdirection
    exact ⟨_, size, Counts.update (hgrown hcounts) _ now⟩
  | progressed old bytes now hstream hold heq =>
    subst heq
    obtain ⟨bytes, size, hcounts⟩ := h transferId old hold hdirection
    exact ⟨_, size, Counts.update (hgrown hcounts) _ now⟩
  | started sessionId size hfresh htotal hsize hstarted =>
    exact ⟨0, size, hfresh.bytesTransferred, htotal, hsize, hstarted⟩
  | download hdownload => cases hdirection.symm.trans hdownload

variable {transfer : ManagedTransfer}

theorem Counts.within (h : Counts settings log transferId transfer bytes size) :
    transfer.totalBytes.le settings.config.maxFileSize = true := by
  rw [h.declared, settings.maxFileSize_eq, Number.ofInt_le, decide_eq_true_iff]
  exact Int.ofNat_le.mpr h.limited

-- What an accepted chunk is written to ends where the counted bytes end.
theorem chunkOf_end (h : Counts settings log transferId transfer bytes size)
    (request : UploadChunkRequest) :
    (chunkOf request transfer).offset.add (.ofInt (chunkOf request transfer).data.length) =
      transfer.bytesTransferred.add (.ofInt (uploadedData request).length) := by
  unfold chunkOf
  dsimp only
  rw [h.counted, Number.ofInt_add, Number.ofInt_sub, Number.ofInt_add, Int.sub_add_cancel]

-- A step that accepts no chunk adds no bytes to an upload and writes nothing.
theorem quota_unaccepted (hcoherent : Coherent generateTransferId state)
    (hchange : Change runtime settings generateTransferId state event next)
    (h : Quota settings state)
    (hnot : ∀ client data now, event = .uploadChunk client data now →
      ∀ request handle transfer,
        ¬Accepts runtime settings state client data request handle transfer) :
    Quota settings next := by
  constructor
  · intro transferId transfer hget hdirection
    cases change_transfers hchange hget with
    | kept hold => exact h.accepted transferId transfer hold hdirection
    | activated old now hold hpending heq =>
      subst heq
      exact h.accepted transferId old hold hdirection
    | accepted client data now request handle old hevent haccepts hid heq =>
      exact absurd haccepts (hnot client data now hevent request handle old)
    | progressed old bytes now hstream hold heq =>
      subst heq
      obtain ⟨sessionId, hdownload⟩ := Option.isSome_iff_exists.mp hstream
      have hcontra := hcoherent.direction (.transfer old hold rfl) (.download hdownload)
      cases hdirection.symm.trans hcontra
    | started sessionId size hfresh htotal hsize hstarted =>
      have hcounts : Counts settings next.log transferId transfer 0 size :=
        ⟨hfresh.bytesTransferred, htotal, hsize, hstarted⟩
      refine ⟨?_, hcounts.within⟩
      rw [hfresh.bytesTransferred, htotal, Number.ofInt_le, decide_eq_true_iff]
      exact Int.natCast_nonneg size
    | download hdownload => cases hdirection.symm.trans hdownload
  · intro transferId handle chunk hmem
    rcases change_write hchange hmem with hold | ⟨client, data, now, request, transfer, hevent,
      haccepts, -⟩
    · obtain ⟨size, hstarted, hbounds⟩ := h.written transferId handle chunk hold
      exact ⟨size, (change_log hchange).subset hstarted, hbounds⟩
    · exact absurd haccepts (hnot client data now hevent request handle transfer)

-- An accepted chunk keeps the quota exactly when it fits.
theorem quota_accepted (hcoherent : Coherent generateTransferId state)
    (hcounted : Counted settings state) (h : Quota settings state) {client : Client}
    {data : JsValue} {request : UploadChunkRequest} {handle : UploadHandle}
    (haccepts : Accepts runtime settings state client data request handle transfer) (now : Time) :
    Quota settings
        (step runtime settings generateTransferId state (.uploadChunk client data now)) ↔
      (transfer.bytesTransferred.add (.ofInt (uploadedData request).length)).le
        transfer.totalBytes = true := by
  have hupload : transfer.direction = .upload :=
    hcoherent.direction (.transfer transfer haccepts.tracked rfl)
      (.handle handle haccepts.handle rfl)
  obtain ⟨bytes, size, hcounts⟩ := hcounted request.transferId transfer haccepts.tracked hupload
  rw [step_of_accepts haccepts now]
  constructor
  · intro hquota
    refine (hquota.accepted request.transferId
      (TransferManager.updated transfer (uploadedData request).length now) ?_ hupload).1
    exact OrderedMap.get_set_self _ _ _
  · intro hfits
    constructor
    · intro transferId other hget hdirection
      rcases get_store hget with ⟨rfl, rfl⟩ | hold
      · exact ⟨hfits, hcounts.within⟩
      · exact h.accepted transferId other hold hdirection
    · intro transferId written chunk hmem
      rcases List.mem_append.mp hmem with hold | hnew
      · obtain ⟨size, hstarted, hbounds⟩ := h.written transferId written chunk hold
        exact ⟨size, List.mem_append_left _ hstarted, hbounds⟩
      · cases List.mem_singleton.mp hnew
        refine ⟨transfer.totalBytes, List.mem_append_left _ ?_, ?_, hcounts.within⟩
        · rw [hcounts.declared]
          exact hcounts.started
        · rw [chunkOf_end hcounts]
          exact hfits

theorem step_quota_iff (hcoherent : Coherent generateTransferId state)
    (hcounted : Counted settings state) (h : Quota settings state) (event : Event) :
    Quota settings (step runtime settings generateTransferId state event) ↔
      ChunkFits runtime settings state event := by
  have hchange := @change_step runtime settings generateTransferId state event
  by_cases hnot : ∀ client data now, event = .uploadChunk client data now →
      ∀ request handle transfer,
        ¬Accepts runtime settings state client data request handle transfer
  · refine iff_of_true (quota_unaccepted hcoherent hchange h hnot) ?_
    unfold ChunkFits
    split
    · rename_i client data now
      exact fun request handle transfer haccepts =>
        absurd haccepts (hnot client data now rfl request handle transfer)
    · trivial
  · push Not at hnot
    obtain ⟨client, data, now, rfl, request, handle, transfer, haccepts⟩ := hnot
    rw [quota_accepted hcoherent hcounted h haccepts now]
    constructor
    · intro hfits request' handle' transfer' haccepts'
      cases haccepts.valid.symm.trans haccepts'.valid
      cases haccepts.tracked.symm.trans haccepts'.tracked
      exact hfits
    · exact fun hfits => hfits request handle transfer haccepts

end Steps

-- The uploads stay within their quota in every state of a run exactly when every chunk that
-- is accepted fits into what is missing.
theorem uploads_within_quota_iff (runtime : Runtime) (settings : Settings)
    (generateTransferId : Nat → TransferId) (hinjective : Function.Injective generateTransferId)
    (maxConcurrentTransfers defaultRateLimitBytesPerSec : Number) (events : List Event) :
    Throughout (step runtime settings generateTransferId) (Quota settings)
        (initial maxConcurrentTransfers defaultRateLimitBytesPerSec) events ↔
      Along (step runtime settings generateTransferId) (ChunkFits runtime settings)
        (initial maxConcurrentTransfers defaultRateLimitBytesPerSec) events := by
  refine @throughout_iff_along _ _ (step runtime settings generateTransferId)
    (fun state => Coherent generateTransferId state ∧ Counted settings state)
    (Quota settings) (ChunkFits runtime settings) ?_ ?_ _ ⟨?_, ?_⟩ ⟨?_, ?_⟩ events
  · rintro state event ⟨hcoherent, hcounted⟩
    exact ⟨change_coherent hinjective hcoherent (@change_step runtime settings _ state event),
      change_counted hcounted (@change_step runtime settings generateTransferId state event)⟩
  · rintro state event ⟨hcoherent, hcounted⟩ hquota
    exact step_quota_iff hcoherent hcounted hquota event
  · exact initial_coherent _ _
  · exact fun transferId transfer hget => by cases hget
  · exact fun transferId transfer hget => by cases hget
  · exact fun transferId handle chunk hmem => by cases hmem

section Sample

-- Two bytes were declared, and two are sent.
def declaredChunk : List Event :=
  openedUpload 2 ++ [.uploadChunk sampleClient (chunkMessage 0 [1, 2] true) 0]

-- One byte was declared, and two are sent.
def oversizedChunk : List Event :=
  openedUpload 1 ++ [.uploadChunk sampleClient (chunkMessage 0 [1, 2] true) 0]

theorem declaredChunk_within_quota :
    Throughout (step asciiRuntime sampleSettings sampleIds) (Quota sampleSettings) sampleStart
        declaredChunk ∧ Function.Injective sampleIds := by
  refine ⟨(uploads_within_quota_iff asciiRuntime sampleSettings sampleIds sampleIds_injective
    (.ofInt 2) (.ofInt 0) declaredChunk).mpr ⟨trivial, trivial, ?_, trivial⟩, sampleIds_injective⟩
  intro request handle transfer haccepts
  have hrequest : (validateSftpUploadChunkRequest asciiRuntime (chunkMessage 0 [1, 2] true)).toOption.map
      (fun request => (request.transferId, (uploadedData request).length)) =
        some (sampleIds 0, 2) := by decide
  rw [haccepts.valid] at hrequest
  obtain ⟨hid, hlength⟩ := Prod.mk.inj (Option.some.inj hrequest)
  have htransfer : ((run sampleStep sampleStart (openedUpload 2)).transferManager.transfers.get
      (sampleIds 0)).map (fun transfer => (transfer.bytesTransferred, transfer.totalBytes)) =
        some (.ofInt 0, .ofInt 2) := by decide
  have htracked := haccepts.tracked
  rw [hid] at htracked
  change (run sampleStep sampleStart (openedUpload 2)).transferManager.transfers.get
    (sampleIds 0) = some transfer at htracked
  rw [htracked] at htransfer
  obtain ⟨hbytes, htotal⟩ := Prod.mk.inj (Option.some.inj htransfer)
  rw [hbytes, htotal, hlength]
  decide +kernel

theorem oversizedChunk_over_quota :
    ¬Throughout (step asciiRuntime sampleSettings sampleIds) (Quota sampleSettings) sampleStart
      oversizedChunk := by
  intro hthroughout
  have hquota := throughout_last _ hthroughout
  have hfinal : ((run sampleStep sampleStart oversizedChunk).transferManager.transfers.get
      (sampleIds 0)).map (fun transfer =>
        (transfer.direction, transfer.bytesTransferred.le transfer.totalBytes)) =
          some (.upload, false) := by decide +kernel
  obtain ⟨transfer, hget, heq⟩ := Option.map_eq_some_iff.mp hfinal
  obtain ⟨hdirection, hover⟩ := Prod.mk.inj heq
  cases hover.symm.trans (hquota.accepted _ transfer hget hdirection).1

end Sample

end WebSsh2.Sftp.UploadService

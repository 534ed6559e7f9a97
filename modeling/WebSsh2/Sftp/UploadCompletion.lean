import WebSsh2.Sftp.UploadLedger
import WebSsh2.Sftp.UploadQuota

namespace WebSsh2.Sftp.UploadService

open WebSsh2.Library WebSsh2.Library.Run WebSsh2.State WebSsh2.Sftp.Upload

-- What is to be true of an upload that is reported complete: its chunks were accepted in
-- their order, every one was written, they are as many bytes as were declared, and whatever
-- order the writes had they left the file that was sent.
structure Truthful (log : List Action) (transferId : TransferId) : Prop where
  inOrder : (sentChunks log transferId).map (fun chunk => chunk.chunkIndex) =
    (List.range (sentChunks log transferId).length).map fun index : Nat => Number.ofInt index
  written : (writtenChunks log transferId).Perm (sentChunks log transferId)
  declared : .started transferId
    (.ofInt (contents (writtenChunks log transferId)).flatten.length) ∈ log
  content : ∀ order, order.Perm (writtenChunks log transferId) →
    remoteContent order = (contents (sentChunks log transferId)).flatten

def CompletionsTruthful (log : List Action) : Prop :=
  ∀ before socket response after,
    log = before ++ .emit socket (.complete response) :: after →
      Truthful before response.transferId

-- The write of a last chunk returns, the handler still waits for it and the transfer is
-- still tracked.
structure Completing (state : State) (sessionId : SessionId) (transferId : TransferId)
    (chunkIndex : Number) (writing : Writing) (transfer : ManagedTransfer) : Prop where
  find : state.writing.find? (isWriting sessionId transferId chunkIndex) = some writing
  last : writing.chunk.isLast = true
  waiting : writing.waiting = true
  tracked : state.transferManager.transfers.get transferId = some transfer

-- Then no other write of the transfer is outstanding, none has failed, and the bytes that
-- were accepted are those that were declared.
structure Whole (state : State) (sessionId : SessionId) (transferId : TransferId)
    (chunkIndex : Number) (transfer : ManagedTransfer) : Prop where
  returned : ∀ other ∈ state.writing.eraseP (isWriting sessionId transferId chunkIndex),
    other.transferId ≠ transferId
  succeeded : ∀ handle chunk, .failed transferId handle chunk ∉ state.log
  bytes : transfer.bytesTransferred = transfer.totalBytes

def CompletesWhole (state : State) : Event → Prop
  | .writeReturned sessionId transferId chunkIndex (.ok ()) _ =>
    ∀ writing transfer, Completing state sessionId transferId chunkIndex writing transfer →
      Whole state sessionId transferId chunkIndex transfer
  | _ => True

def Action.completes : Action → Bool
  | .emit _ (.complete _) => true
  | _ => false

section Log

variable {log more : List Action}

theorem completes_of_replies (h : Replies more) :
    ∀ action ∈ more, Action.completes action = false := by
  intro action hmem
  have hreply := h action hmem
  cases action with
  | emit socket message => cases message <;> first | rfl | cases hreply
  | _ => rfl

theorem completionsTruthful_append (h : CompletionsTruthful log)
    (hmore : ∀ action ∈ more, Action.completes action = false) :
    CompletionsTruthful (log ++ more) := by
  intro before socket response after heq
  rcases List.append_eq_append_iff.mp heq with ⟨middle, -, hright⟩ | ⟨middle, hleft, hright⟩
  · have hmem : .emit socket (.complete response) ∈ more := by
      rw [hright]
      exact List.mem_append_right _ List.mem_cons_self
    cases hmore _ hmem
  · cases middle with
    | nil =>
      have hmem : .emit socket (.complete response) ∈ more := by
        rw [List.nil_append] at hright
        rw [← hright]
        exact List.mem_cons_self
      cases hmore _ hmem
    | cons action rest =>
      rw [List.cons_append] at hright
      obtain ⟨rfl, -⟩ := List.cons.inj hright
      exact h before socket response rest hleft

theorem completionsTruthful_concat_iff (h : CompletionsTruthful log) (socket : Nat)
    (response : SftpCompleteResponse) :
    CompletionsTruthful (log ++ [.emit socket (.complete response)]) ↔
      Truthful log response.transferId := by
  constructor
  · intro hall
    exact hall log socket response [] rfl
  · intro htruthful before socket' response' after heq
    rcases List.append_eq_append_iff.mp heq with ⟨middle, hleft, hright⟩ | ⟨middle, hleft, hright⟩
    · cases middle with
      | nil =>
        rw [List.append_nil] at hleft
        rw [List.nil_append] at hright
        obtain ⟨hentry, -⟩ := List.cons.inj hright
        cases hentry
        rw [hleft]
        exact htruthful
      | cons action rest =>
        obtain ⟨-, hnil⟩ := List.cons.inj hright
        cases (List.append_ne_nil_of_right_ne_nil _ (List.cons_ne_nil _ _)) hnil.symm
    · cases middle with
      | nil =>
        rw [List.append_nil] at hleft
        rw [List.nil_append] at hright
        obtain ⟨hentry, -⟩ := List.cons.inj hright
        cases hentry
        rw [← hleft]
        exact htruthful
      | cons action rest =>
        rw [List.cons_append] at hright
        obtain ⟨rfl, -⟩ := List.cons.inj hright
        exact h before socket' response' rest hleft

end Log

section Steps

variable {runtime : Runtime} {settings : Settings} {generateTransferId : Nat → TransferId}
  {state next : State} {event : Event} {sessionId : SessionId} {transferId : TransferId}
  {chunkIndex : Number} {writing : Writing} {transfer : ManagedTransfer}

theorem step_of_completing
    (h : Completing state sessionId transferId chunkIndex writing transfer) (now : Time) :
    ∃ replies response, Replies replies ∧ response.transferId = transferId ∧
      (step runtime settings generateTransferId state
        (.writeReturned sessionId transferId chunkIndex (.ok ()) now)).log =
          state.log ++ .written transferId writing.handle writing.chunk :: replies ++
            [.emit writing.socket (.complete response)] := by
  obtain ⟨-, rfl, -⟩ := isWriting_find h.find
  obtain ⟨replies, response, hreplies, hresponse, heq⟩ := @writeReturned_completes settings
    { state with
      writing := state.writing.eraseP (isWriting sessionId writing.transferId chunkIndex) }
    writing transfer h.last h.waiting h.tracked now
  refine ⟨replies, response, hreplies, hresponse, ?_⟩
  unfold step
  dsimp only
  rw [h.find]
  dsimp only
  rw [heq]
  simp [List.append_assoc]

-- No other step reports an upload as complete.
theorem change_uncompleted
    (h : Change runtime settings generateTransferId state event next)
    (hnot : ∀ sessionId transferId chunkIndex now writing transfer,
      event = .writeReturned sessionId transferId chunkIndex (.ok ()) now →
        ¬Completing state sessionId transferId chunkIndex writing transfer) :
    ∃ more, next.log = state.log ++ more ∧
      ∀ action ∈ more, Action.completes action = false := by
  have hnone : ∀ {action : Action} {replies : List Action}, Replies replies →
      action.completes = false → ∀ other ∈ action :: replies, Action.completes other = false := by
    intro action replies hreplies haction other hmem
    rcases List.mem_cons.mp hmem with rfl | hrest
    · exact haction
    · exact completes_of_replies hreplies other hrest
  cases h with
  | replied | opened | openFailed | openTimedOut | writeTimedOut | uploadCancelled
  | downloadStarted => exact ⟨_, rfl, completes_of_replies ‹Replies _›⟩
  | started | accepted => exact ⟨_, rfl, hnone replies_nil rfl⟩
  | writeFailed | written => exact ⟨_, rfl, hnone ‹Replies _› rfl⟩
  | completed owner id chunkIndex now writing transfer replies response hfind hlast hwaiting hget
      hreplies hresponse =>
      exact absurd ⟨hfind, hlast, hwaiting, hget⟩
        (hnot owner id chunkIndex now writing transfer rfl)
  | downloadProgressed | downloadEnded | downloadCancelled | disconnected =>
    exact ⟨[], (List.append_nil _).symm, fun _ hmem => by cases hmem⟩

theorem outstandingChunks_eq_nil_iff (writes : List Writing) :
    outstandingChunks writes transferId = [] ↔
      ∀ other ∈ writes, other.transferId ≠ transferId := by
  unfold outstandingChunks
  rw [List.filterMap_eq_nil_iff]
  apply forall₂_congr
  intro other _
  split
  · rename_i heq
    exact iff_of_false (by simp) (not_not_intro heq)
  · rename_i hne
    exact iff_of_true rfl hne

theorem failedChunks_eq_nil_iff (log : List Action) :
    failedChunks log transferId = [] ↔
      ∀ handle chunk, .failed transferId handle chunk ∉ log := by
  unfold failedChunks
  rw [List.filterMap_eq_nil_iff]
  constructor
  · intro hnone handle chunk hmem
    have hsome := hnone _ hmem
    unfold Action.lost at hsome
    dsimp only at hsome
    rw [if_pos rfl] at hsome
    cases hsome
  · intro hnot action hmem
    cases action with
    | failed other handle chunk =>
      unfold Action.lost
      dsimp only
      rw [if_neg]
      rintro rfl
      exact hnot handle chunk hmem
    | _ => rfl

theorem length_contents_of_perm {first second : List Chunk} (h : first.Perm second) :
    (contents first).flatten.length = (contents second).flatten.length :=
  (h.map _).flatten.length_eq

-- A transfer is completed truthfully exactly when it is whole.
theorem truthful_iff_whole (hcoherent : Coherent generateTransferId state)
    (hcounted : Counted settings state) (hledger : Ledger generateTransferId state)
    (h : Completing state sessionId transferId chunkIndex writing transfer)
    {replies : List Action} (hreplies : Replies replies) :
    Truthful (state.log ++ .written transferId writing.handle writing.chunk :: replies)
        transferId ↔
      Whole state sessionId transferId chunkIndex transfer := by
  have hupload : transfer.direction = .upload :=
    hcoherent.direction (.transfer transfer h.tracked rfl) (.writing writing
      (List.mem_of_find?_eq_some h.find) (isWriting_find h.find).2.1 rfl)
  obtain ⟨-, hbytes⟩ := hledger.counted transferId transfer h.tracked hupload
  obtain ⟨bytes, size, hcounts⟩ := hcounted transferId transfer h.tracked hupload
  have hunrecorded := unrecorded_of_replies hreplies
  have hsent : sentChunks (state.log ++ .written transferId writing.handle writing.chunk :: replies)
      transferId = sentChunks state.log transferId := by
    rw [List.append_cons, sentChunks_unrecorded hunrecorded, sentChunks_append]
    exact List.append_nil _
  have hwritten : writtenChunks
      (state.log ++ .written transferId writing.handle writing.chunk :: replies) transferId =
        writtenChunks state.log transferId ++ [writing.chunk] := by
    rw [List.append_cons, writtenChunks_unrecorded hunrecorded, writtenChunks_append]
    simp [writtenChunks, Action.landed]
  have hstarted : ∀ declared, .started transferId declared ∈
      state.log ++ .written transferId writing.handle writing.chunk :: replies ↔
        .started transferId declared ∈ state.log := by
    intro declared
    rw [List.append_cons, hunrecorded.mem_iff rfl, List.mem_append, List.mem_singleton]
    simp
  -- What was sent is what has been written now, what has failed and what is outstanding.
  have haccounted : (sentChunks state.log transferId).Perm
      ((writtenChunks state.log transferId ++ [writing.chunk]) ++
        (failedChunks state.log transferId ++ outstandingChunks
          (state.writing.eraseP (isWriting sessionId transferId chunkIndex)) transferId)) := by
    have hout := returned_outstanding h.find transferId
    rw [if_pos rfl] at hout
    refine (hledger.accounted transferId).trans ((hout.append_left _).trans ?_)
    rw [List.append_assoc, List.append_assoc]
    apply List.Perm.append_left
    rw [← List.append_assoc, ← List.append_assoc]
    exact List.perm_append_comm.append_right _
  constructor
  · intro htruthful
    have hperm := htruthful.written
    rw [hsent, hwritten] at hperm
    have hlength := (hperm.trans haccounted).length_eq
    simp only [List.length_append] at hlength
    have hfailed : failedChunks state.log transferId = [] := List.length_eq_zero_iff.mp (by omega)
    have hout := List.length_eq_zero_iff.mp (show (outstandingChunks (state.writing.eraseP
      (isWriting sessionId transferId chunkIndex)) transferId).length = 0 by omega)
    refine ⟨(outstandingChunks_eq_nil_iff _).mp hout, (failedChunks_eq_nil_iff _).mp hfailed, ?_⟩
    have hdeclared := htruthful.declared
    rw [hstarted, hwritten, length_contents_of_perm hperm] at hdeclared
    rw [hbytes]
    exact (hledger.declared transferId transfer _ h.tracked hupload hdeclared).symm
  · intro hwhole
    have hperm : (writtenChunks state.log transferId ++ [writing.chunk]).Perm
        (sentChunks state.log transferId) := by
      rw [(failedChunks_eq_nil_iff _).mpr hwhole.succeeded,
        (outstandingChunks_eq_nil_iff _).mpr hwhole.returned, List.append_nil,
        List.append_nil] at haccounted
      exact haccounted.symm
    constructor
    · rw [hsent]
      exact (hledger.laid transferId).indexes
    · rw [hsent, hwritten]
      exact hperm
    · rw [hstarted, hwritten, length_contents_of_perm hperm, ← hbytes, hwhole.bytes,
        hcounts.declared]
      exact hcounts.started
    · intro order horder
      rw [hwritten] at horder
      rw [hsent]
      exact (hledger.laid transferId).remoteContent (horder.trans hperm)

theorem step_truthful_iff (hcoherent : Coherent generateTransferId state)
    (hcounted : Counted settings state) (hledger : Ledger generateTransferId state)
    (h : CompletionsTruthful state.log) (event : Event) :
    CompletionsTruthful (step runtime settings generateTransferId state event).log ↔
      CompletesWhole state event := by
  by_cases hnot : ∀ sessionId transferId chunkIndex now writing transfer,
      event = .writeReturned sessionId transferId chunkIndex (.ok ()) now →
        ¬Completing state sessionId transferId chunkIndex writing transfer
  · obtain ⟨more, hlog, hmore⟩ := change_uncompleted
      (@change_step runtime settings generateTransferId state event) hnot
    rw [hlog]
    refine iff_of_true (completionsTruthful_append h hmore) ?_
    unfold CompletesWhole
    split
    · rename_i sessionId transferId chunkIndex now
      intro writing transfer hcompleting
      exact absurd hcompleting (hnot sessionId transferId chunkIndex now writing transfer rfl)
    · trivial
  · push Not at hnot
    obtain ⟨sessionId, transferId, chunkIndex, now, writing, transfer, rfl, hcompleting⟩ := hnot
    obtain ⟨replies, response, hreplies, rfl, hlog⟩ :=
      @step_of_completing runtime settings generateTransferId state sessionId transferId chunkIndex
        writing transfer hcompleting now
    have hbefore : CompletionsTruthful (state.log ++
        .written response.transferId writing.handle writing.chunk :: replies) := by
      apply completionsTruthful_append h
      intro action hmem
      rcases List.mem_cons.mp hmem with rfl | hrest
      · rfl
      · exact completes_of_replies hreplies action hrest
    rw [hlog, completionsTruthful_concat_iff hbefore,
      truthful_iff_whole hcoherent hcounted hledger hcompleting hreplies]
    constructor
    · intro hwhole writing' transfer' hcompleting'
      cases hcompleting.tracked.symm.trans hcompleting'.tracked
      exact hwhole
    · exact fun hall => hall writing transfer hcompleting

end Steps

-- In every state of a run the uploads that were reported complete are what was sent, exactly
-- when every upload that is completed on the way is whole then.
theorem completions_truthful_iff (runtime : Runtime) (settings : Settings)
    (generateTransferId : Nat → TransferId) (hinjective : Function.Injective generateTransferId)
    (maxConcurrentTransfers defaultRateLimitBytesPerSec : Number) (events : List Event) :
    Throughout (step runtime settings generateTransferId)
        (fun state => CompletionsTruthful state.log)
        (initial maxConcurrentTransfers defaultRateLimitBytesPerSec) events ↔
      Along (step runtime settings generateTransferId) CompletesWhole
        (initial maxConcurrentTransfers defaultRateLimitBytesPerSec) events := by
  refine @throughout_iff_along _ _ (step runtime settings generateTransferId)
    (fun state => Coherent generateTransferId state ∧ Counted settings state ∧
      Ledger generateTransferId state)
    (fun state => CompletionsTruthful state.log) CompletesWhole ?_ ?_ _ ⟨?_, ?_, ?_⟩ ?_ events
  · rintro state event ⟨hcoherent, hcounted, hledger⟩
    have hchange := @change_step runtime settings generateTransferId state event
    exact ⟨change_coherent hinjective hcoherent hchange, change_counted hcounted hchange,
      change_ledger hinjective hcoherent hledger hchange⟩
  · rintro state event ⟨hcoherent, hcounted, hledger⟩ htruthful
    exact step_truthful_iff hcoherent hcounted hledger htruthful event
  · exact initial_coherent _ _
  · exact fun transferId transfer hget => by cases hget
  · exact initial_ledger _ _
  · intro before socket response after heq
    cases (List.append_ne_nil_of_right_ne_nil _ (List.cons_ne_nil _ _)) heq.symm

section Sample

def twoChunks : List Event :=
  openedUpload 2 ++ [.uploadChunk sampleClient (chunkMessage 0 [1] false) 0,
    .uploadChunk sampleClient (chunkMessage 1 [2] true) 0]

-- Both chunks are sent at once, and both are written.
def writtenChunksBoth : List Event :=
  twoChunks ++ [sampleWriteReturned 0 (.ok ()), sampleWriteReturned 1 (.ok ())]

-- The write of the first one fails, and the second one completes the upload.
def failedFirstChunk : List Event :=
  twoChunks ++ [sampleWriteReturned 0 (.error (js "full")), sampleWriteReturned 1 (.ok ())]

theorem writtenChunksBoth_truthful :
    Throughout (step asciiRuntime sampleSettings sampleIds)
        (fun state => CompletionsTruthful state.log) sampleStart writtenChunksBoth ∧
      Function.Injective sampleIds := by
  refine ⟨(completions_truthful_iff asciiRuntime sampleSettings sampleIds sampleIds_injective
    (.ofInt 2) (.ofInt 0) writtenChunksBoth).mpr
      ⟨trivial, trivial, trivial, trivial, ?_, ?_, trivial⟩, sampleIds_injective⟩
  · intro writing transfer hcompleting
    have hlast : ((run sampleStep sampleStart twoChunks).writing.find?
        (isWriting (js "session") (sampleIds 0) (.ofInt 0))).map (fun writing =>
          writing.chunk.isLast) = some false := by decide +kernel
    obtain ⟨found, hfound, hfalse⟩ := Option.map_eq_some_iff.mp hlast
    cases hfound.symm.trans hcompleting.find
    cases hfalse.symm.trans hcompleting.last
  · intro writing transfer hcompleting
    have hrest : ((run sampleStep sampleStart (twoChunks ++
        [sampleWriteReturned 0 (.ok ())])).writing.eraseP
          (isWriting (js "session") (sampleIds 0) (.ofInt 1))).isEmpty = true := by decide +kernel
    have hfailed : (run sampleStep sampleStart (twoChunks ++
        [sampleWriteReturned 0 (.ok ())])).log.any (fun action =>
          (action.lost (sampleIds 0)).isSome) = false := by decide +kernel
    have hbytes : ((run sampleStep sampleStart (twoChunks ++
        [sampleWriteReturned 0 (.ok ())])).transferManager.transfers.get (sampleIds 0)).map
          (fun transfer => (transfer.bytesTransferred, transfer.totalBytes)) =
            some (.ofInt 2, .ofInt 2) := by decide +kernel
    refine ⟨?_, ?_, ?_⟩
    · intro other hmem
      have hnil := List.isEmpty_iff.mp hrest
      change other ∈ (run sampleStep sampleStart (twoChunks ++
        [sampleWriteReturned 0 (.ok ())])).writing.eraseP
          (isWriting (js "session") (sampleIds 0) (.ofInt 1)) at hmem
      rw [hnil] at hmem
      cases hmem
    · intro handle chunk hmem
      have hnone := List.any_eq_false.mp hfailed _ hmem
      exact hnone (by simp [Action.lost])
    · obtain ⟨found, hfound, heq⟩ := Option.map_eq_some_iff.mp hbytes
      cases hfound.symm.trans hcompleting.tracked
      obtain ⟨hcount, htotal⟩ := Prod.mk.inj heq
      exact hcount.trans htotal.symm

theorem failedFirstChunk_untruthful :
    ¬Throughout (step asciiRuntime sampleSettings sampleIds)
      (fun state => CompletionsTruthful state.log) sampleStart failedFirstChunk := by
  intro hthroughout
  have htruthful := throughout_last _ hthroughout
  change CompletionsTruthful (run sampleStep sampleStart failedFirstChunk).log at htruthful
  have hlast : (run sampleStep sampleStart failedFirstChunk).log.getLast?.bind (fun action =>
      match action with
      | .emit _ (.complete response) => some response.transferId
      | _ => none) = some (sampleIds 0) := by decide +kernel
  obtain ⟨action, hget, hcomplete⟩ := Option.bind_eq_some_iff.mp hlast
  obtain ⟨before, hlog⟩ := List.getLast?_eq_some_iff.mp hget
  split at hcomplete
  · rename_i socket response
    have hid : response.transferId = sampleIds 0 := Option.some.inj hcomplete
    have hperm := (htruthful before socket response [] hlog).written
    have hbefore : before = (run sampleStep sampleStart failedFirstChunk).log.dropLast := by
      rw [hlog, List.dropLast_concat]
    have hlength := hperm.length_eq
    rw [hid, hbefore] at hlength
    have hwritten : (writtenChunks (run sampleStep sampleStart failedFirstChunk).log.dropLast
        (sampleIds 0)).length = 1 := by decide +kernel
    have hsent : (sentChunks (run sampleStep sampleStart failedFirstChunk).log.dropLast
        (sampleIds 0)).length = 2 := by decide +kernel
    omega
  · cases hcomplete

end Sample

end WebSsh2.Sftp.UploadService

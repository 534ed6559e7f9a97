import WebSsh2.Sftp.ShellDownloadChunks

namespace WebSsh2.Sftp.ShellDownload

open WebSsh2.Library WebSsh2.Library.Run WebSsh2.State

def Action.isComplete : Action → Bool
  | .complete _ => true
  | _ => false

def Action.isError : Action → Bool
  | .error _ => true
  | _ => false

def Action.isEnded : Action → Bool
  | .ended => true
  | _ => false

def Action.isChannelError : Action → Bool
  | .channelError _ => true
  | _ => false

def Action.isClosed : Action → Bool
  | .closed => true
  | _ => false

def Action.isCancelled : Action → Bool
  | .cancelled => true
  | _ => false

-- The command tells that it failed: by its exit status, or on its error output.
def Action.isFailure : Action → Bool
  | .exited code => code ≠ some 0
  | .stderr data => data ≠ []
  | _ => false

def Action.receivedOf : Action → Option Bytes
  | .received data => some data
  | _ => none

def received (log : List Action) : Bytes :=
  (log.filterMap Action.receivedOf).flatten

def delivered (log : List Action) : Bytes :=
  ((chunksOf log).map SftpDownloadChunk.data).flatten

def Failed (download : Download) (log : List Action) : Prop :=
  (received log).length < download.fileSize ∨ log.any Action.isFailure = true

-- The channel raises an error before its output ends.
def FailsFirst : List Action → Prop
  | [] => False
  | action :: rest =>
    action.isChannelError = true ∨ (action.isEnded = false ∧ FailsFirst rest)

-- Success is announced for the whole file only, and a download that failed without being
-- cancelled is announced as failed by the time the channel is closed.
structure Truthful (download : Download) (log : List Action) : Prop where
  success : log.any Action.isComplete = true → (delivered log).length = download.fileSize
  failure : log.any Action.isClosed = true → log.any Action.isCancelled = false →
    Failed download log → log.any Action.isError = true ∧ log.any Action.isComplete = false

-- The output is still awaited, and the transfer is there.
structure Live (download : Download) (stream : Stream) : Prop where
  reading : Reading stream
  tracked : tracked download stream = true

-- The output ends with the last byte of the file, and a channel whose command failed
-- raises an error before its output ends.
def ShowsFailure (download : Download) (stream : Stream) : Event → Prop
  | .ended _ => Live download stream → (received stream.log).length = download.fileSize
  | .closed => stream.channel = true → stream.log.any Action.isCancelled = false →
      Failed download stream.log → FailsFirst stream.log
  | _ => True

section Logs

variable (first second : List Action)

theorem received_append : received (first ++ second) = received first ++ received second := by
  simp [received]

theorem delivered_append : delivered (first ++ second) = delivered first ++ delivered second := by
  simp [delivered, chunksOf_append]

theorem failsFirst_append :
    FailsFirst (first ++ second) ↔
      FailsFirst first ∨ (first.any Action.isEnded = false ∧ FailsFirst second) := by
  induction first with
  | nil => simp [FailsFirst]
  | cons action rest ih =>
    simp only [List.cons_append, FailsFirst, ih, List.any_cons, Bool.or_eq_false_iff]
    tauto

-- Before the end of the output every error of the channel is in time.
theorem failsFirst_iff_of_running {log : List Action} (h : log.any Action.isEnded = false) :
    FailsFirst log ↔ log.any Action.isChannelError = true := by
  induction log with
  | nil => simp [FailsFirst]
  | cons action rest ih =>
    rw [List.any_cons, Bool.or_eq_false_iff] at h
    rw [FailsFirst, List.any_cons, Bool.or_eq_true, ih h.2]
    simp [h.1]

theorem channelError_of_failsFirst {log : List Action} (h : FailsFirst log) :
    log.any Action.isChannelError = true := by
  induction log with
  | nil => exact h.elim
  | cons action rest ih =>
    rw [List.any_cons, Bool.or_eq_true]
    exact h.imp id fun hrest => ih hrest.2

-- The entries that a data event adds.
def Action.isOutput : Action → Bool
  | .received _ | .destroyed | .chunk _ | .progress _ => true
  | _ => false

variable {more : List Action}

theorem any_of_output {mark : Action → Bool} (hmore : ∀ action ∈ more, action.isOutput = true)
    (hmark : ∀ action : Action, action.isOutput = true → mark action = false) :
    more.any mark = false := by
  refine List.any_eq_false.mpr fun action hmem htrue => ?_
  cases htrue.symm.trans (hmark action (hmore action hmem))

theorem isOutput_of_progress (hmore : ∀ action ∈ more, Action.isProgress action = true) :
    ∀ action ∈ more, Action.isOutput action = true := by
  intro action hmem
  have hprogress := hmore action hmem
  cases action <;> first | rfl | cases hprogress

theorem received_progress (hmore : ∀ action ∈ more, Action.isProgress action = true) :
    received more = [] := by
  unfold received
  rw [List.filterMap_eq_nil_iff.mpr]
  · rfl
  · intro action hmem
    have hprogress := hmore action hmem
    cases action with
    | progress _ => rfl
    | _ => cases hprogress

end Logs

section Handlers

variable {runtime : Runtime} {download : Download} {clock : Nat → Time} {stream : Stream}

theorem emitWhole_frame (fuel : Nat) :
    ∃ transferManager chunkIndex buffer lastProgressTime more,
      emitWhole runtime download clock stream fuel =
        { stream with
          transferManager, chunkIndex, buffer, lastProgressTime, log := stream.log ++ more } ∧
      (transferManager.transfers.get download.transferId).isSome = tracked download stream ∧
      (∀ action ∈ more, Action.isOutput action = true) ∧ received more = [] ∧
      delivered more ++ buffer = stream.buffer := by
  induction fuel generalizing stream with
  | zero =>
    refine ⟨stream.transferManager, stream.chunkIndex, stream.buffer, stream.lastProgressTime, [],
      ?_, rfl, by simp, rfl, rfl⟩
    rw [List.append_nil]
    rfl
  | succ fuel ih =>
    unfold emitWhole
    by_cases hwhole : download.chunkSize ≤ stream.buffer.length
    · rw [if_pos hwhole]
      obtain ⟨manager, progressTime, progress, hframe, htracked, hprogress⟩ :=
        @emitChunk_frame runtime download clock
          { stream with buffer := stream.buffer.drop download.chunkSize }
          (stream.buffer.take download.chunkSize) false
      dsimp only at hframe ⊢
      rw [hframe]
      obtain ⟨transferManager, chunkIndex, buffer, lastProgressTime, more, hrest, hsame, houtput,
        hreceived, hcontent⟩ := @ih { stream with
          transferManager := manager
          lastProgressTime := progressTime
          chunkIndex := stream.chunkIndex + 1
          buffer := stream.buffer.drop download.chunkSize
          log := stream.log ++ .chunk ⟨stream.chunkIndex,
            stream.buffer.take download.chunkSize, false⟩ :: progress }
      refine ⟨transferManager, chunkIndex, buffer, lastProgressTime, .chunk ⟨stream.chunkIndex,
        stream.buffer.take download.chunkSize, false⟩ :: (progress ++ more), ?_,
        hsame.trans htracked, ?_, ?_, ?_⟩
      · rw [hrest]
        simp [List.append_assoc]
      · intro action hmem
        rcases List.mem_cons.mp hmem with rfl | hmem
        · rfl
        · rcases List.mem_append.mp hmem with hold | hnew
          · exact isOutput_of_progress hprogress action hold
          · exact houtput action hnew
      · show received ([.chunk _] ++ (progress ++ more)) = _
        rw [received_append, received_append, received_progress hprogress, hreceived]
        rfl
      · show delivered ([.chunk _] ++ (progress ++ more)) ++ buffer = _
        rw [delivered_append, delivered_append, List.append_assoc, List.append_assoc, hcontent]
        unfold delivered
        rw [chunksOf_progress hprogress]
        simp [chunksOf, Action.chunkOf]
    · rw [if_neg hwhole]
      refine ⟨stream.transferManager, stream.chunkIndex, stream.buffer, stream.lastProgressTime,
        [], ?_, rfl, by simp, rfl, rfl⟩
      rw [List.append_nil]

theorem dataReceived_frame (data : Bytes) :
    ∃ transferManager chunkIndex buffer lastProgressTime more,
      dataReceived runtime download clock stream data =
        { stream with
          transferManager, chunkIndex, buffer, lastProgressTime, log := stream.log ++ more } ∧
      (transferManager.transfers.get download.transferId).isSome = tracked download stream ∧
      (∀ action ∈ more, Action.isOutput action = true) ∧ received more = data ∧
      (stream.cancelled = false → delivered more ++ buffer = stream.buffer ++ data) := by
  unfold dataReceived
  dsimp only [record]
  cases hcancelled : stream.cancelled with
  | true =>
    rw [if_pos rfl]
    refine ⟨stream.transferManager, stream.chunkIndex, stream.buffer, stream.lastProgressTime,
      [.received data, .destroyed], ?_, rfl, ?_, ?_, nofun⟩
    · simp [List.append_assoc]
    · simp [Action.isOutput]
    · simp [received, Action.receivedOf]
  | false =>
    rw [if_neg Bool.false_ne_true]
    obtain ⟨transferManager, chunkIndex, buffer, lastProgressTime, more, hrest, hsame, houtput,
      hreceived, hcontent⟩ := @emitWhole_frame runtime download clock { stream with
        buffer := stream.buffer ++ data, log := stream.log ++ [.received data] }
        (stream.buffer ++ data).length
    refine ⟨transferManager, chunkIndex, buffer, lastProgressTime, [.received data] ++ more, ?_,
      hsame, ?_, ?_, fun _ => ?_⟩
    · dsimp only at hrest
      rw [hcancelled] at hrest
      rw [hrest, List.append_assoc]
    · intro action hmem
      rcases List.mem_cons.mp hmem with rfl | hmem
      · rfl
      · exact houtput action hmem
    · rw [received_append, hreceived]
      simp [received, Action.receivedOf]
    · rw [delivered_append]
      exact hcontent

-- The end of the output delivers what is left, and completes a transfer that is there.
structure EndedWith (completes : Bool) (rest : Bytes) (more : List Action) : Prop where
  complete : more.any Action.isComplete = completes
  ended : more.any Action.isEnded = true
  late : ¬FailsFirst more
  error : more.any Action.isError = false
  channelError : more.any Action.isChannelError = false
  closed : more.any Action.isClosed = false
  uncancelled : more.any Action.isCancelled = false
  received : received more = []
  delivered : delivered more = rest

theorem endedWith_progress {progress : List Action} (chunkIndex : Nat) (rest : Bytes)
    (hprogress : ∀ action ∈ progress, Action.isProgress action = true) :
    EndedWith false rest (.ended :: .chunk ⟨chunkIndex, rest, true⟩ :: progress) := by
  have hmark : ∀ mark : Action → Bool,
      (∀ action : Action, action.isOutput = true → mark action = false) →
        progress.any mark = false :=
    fun mark hmark => any_of_output (isOutput_of_progress hprogress) hmark
  constructor
  · simp [Action.isComplete, hmark Action.isComplete (by
      intro action; cases action <;> simp [Action.isOutput, Action.isComplete])]
  · rfl
  · rintro (hfirst | ⟨hfirst, -⟩) <;> cases hfirst
  · simp [Action.isError, hmark Action.isError (by
      intro action; cases action <;> simp [Action.isOutput, Action.isError])]
  · simp [Action.isChannelError, hmark Action.isChannelError (by
      intro action; cases action <;> simp [Action.isOutput, Action.isChannelError])]
  · simp [Action.isClosed, hmark Action.isClosed (by
      intro action; cases action <;> simp [Action.isOutput, Action.isClosed])]
  · simp [Action.isCancelled, hmark Action.isCancelled (by
      intro action; cases action <;> simp [Action.isOutput, Action.isCancelled])]
  · show ShellDownload.received ([_, _] ++ progress) = _
    rw [received_append, received_progress hprogress]
    rfl
  · show ShellDownload.delivered ([_, _] ++ progress) = _
    rw [delivered_append]
    unfold ShellDownload.delivered
    rw [chunksOf_progress hprogress]
    simp [chunksOf, List.filterMap_cons, Action.chunkOf]

theorem EndedWith.complete_concat {rest : Bytes} {more : List Action}
    (h : EndedWith false rest more) (response : SftpCompleteResponse) :
    EndedWith true rest (more ++ [.complete response]) where
  complete := by simp [Action.isComplete]
  ended := by rw [List.any_append, h.ended, Bool.true_or]
  late := by
    rw [failsFirst_append, h.ended]
    simp [h.late]
  error := by simp [h.error, Action.isError]
  channelError := by simp [h.channelError, Action.isChannelError]
  closed := by simp [h.closed, Action.isClosed]
  uncancelled := by simp [h.uncancelled, Action.isCancelled]
  received := by
    rw [received_append, h.received]
    rfl
  delivered := by
    rw [delivered_append, h.delivered]
    exact List.append_nil _

theorem completeTransfer_spec (manager : TransferManager) (transferId : TransferId) (now : Time) :
    ((manager.completeTransfer transferId now).1.transfers.get transferId).isSome = false ∧
      ((manager.transfers.get transferId).isSome = true ↔
        ∃ stats, (manager.completeTransfer transferId now).2 = .ok stats) := by
  unfold TransferManager.completeTransfer
  cases hget : manager.transfers.get transferId with
  | none => simp [hget]
  | some transfer => simp

theorem outputEnded_frame (huncancelled : stream.cancelled = false) (now : Time) :
    ∃ transferManager lastProgressTime more,
      outputEnded runtime download clock stream now =
        { stream with
          ended := true
          entry := false
          transferManager
          chunkIndex := stream.chunkIndex + 1
          lastProgressTime
          resolved := true
          log := stream.log ++ more } ∧
      (transferManager.transfers.get download.transferId).isSome = false ∧
      EndedWith (tracked download stream) stream.buffer more := by
  obtain ⟨manager, lastProgressTime, progress, hframe, htracked, hprogress⟩ :=
    @emitChunk_frame runtime download clock (record { stream with ended := true } .ended)
      stream.buffer true
  obtain ⟨huntracked, hstats⟩ := completeTransfer_spec manager download.transferId now
  have hended := endedWith_progress stream.chunkIndex stream.buffer hprogress
  change _ = tracked download stream at htracked
  unfold outputEnded
  dsimp only
  rw [if_neg (by simp [record, huncancelled])]
  dsimp only [record] at hframe ⊢
  rw [hframe]
  dsimp only
  cases hresult : (manager.completeTransfer download.transferId now).2 with
  | ok stats =>
    have htransfer := htracked.symm.trans (hstats.mpr ⟨stats, hresult⟩)
    refine ⟨(manager.completeTransfer download.transferId now).1, lastProgressTime,
      .ended :: .chunk ⟨stream.chunkIndex, stream.buffer, true⟩ :: progress ++
        [.complete (buildCompleteResponse download.transferId .download stats)], ?_,
      huntracked, ?_⟩
    · simp [resolve, List.append_assoc]
    · rw [htransfer]
      exact hended.complete_concat _
  | error error =>
    have htransfer : tracked download stream = false := by
      rw [Bool.eq_false_iff]
      intro htrue
      obtain ⟨stats, hok⟩ := hstats.mp (htracked.trans htrue)
      cases hok.symm.trans hresult
    refine ⟨(manager.completeTransfer download.transferId now).1, lastProgressTime,
      .ended :: .chunk ⟨stream.chunkIndex, stream.buffer, true⟩ :: progress, ?_, huntracked, ?_⟩
    · simp [resolve, List.append_assoc]
    · rw [htransfer]
      exact hended

end Handlers

-- What the variables say of a log without a cancellation.
structure Settled (download : Download) (stream : Stream) : Prop where
  uncancelled : stream.cancelled = false
  entry : stream.entry = tracked download stream
  tracked : tracked download stream =
    !(stream.log.any Action.isEnded || stream.log.any Action.isChannelError)
  error : stream.log.any Action.isError = stream.log.any Action.isChannelError
  complete : stream.log.any Action.isComplete = true ↔
    stream.log.any Action.isEnded = true ∧ ¬FailsFirst stream.log

def Opened (stream : Stream) : Prop :=
  stream.executing = true ∨ stream.channel = true ∨ stream.log.any Action.isClosed = true

structure Sound (download : Download) (stream : Stream) : Prop where
  content : stream.cancelled = false →
    delivered stream.log ++ (if stream.ended then [] else stream.buffer) = received stream.log
  ended : stream.ended = stream.log.any Action.isEnded
  executing : stream.executing = true → stream.channel = false
  opened : stream.executing = true ∨ stream.channel = true →
    stream.log.any Action.isClosed = false
  complete : stream.log.any Action.isComplete = true →
    stream.ended = true ∧ stream.cancelled = false ∧ stream.entry = false
  settled : Opened stream → stream.log.any Action.isCancelled = false → Settled download stream

section Steps

variable {runtime : Runtime} {download : Download} {clock : Nat → Time} {stream : Stream}

theorem Sound.not_complete (h : Sound download stream) (hrunning : stream.ended = false) :
    stream.log.any Action.isComplete = false := by
  rw [Bool.eq_false_iff]
  intro hcomplete
  cases hrunning.symm.trans (h.complete hcomplete).1

-- Entries that change nothing of what the variables say.
structure Silent (more : List Action) : Prop where
  complete : more.any Action.isComplete = false
  ended : more.any Action.isEnded = false
  channelError : more.any Action.isChannelError = false
  error : more.any Action.isError = false
  closed : more.any Action.isClosed = false
  cancelled : more.any Action.isCancelled = false

variable {more : List Action}

theorem Silent.failsFirst_append (h : Silent more) (log : List Action) :
    FailsFirst (log ++ more) ↔ FailsFirst log := by
  rw [ShellDownload.failsFirst_append]
  constructor
  · rintro (hold | ⟨-, hmore⟩)
    · exact hold
    · cases h.channelError.symm.trans (channelError_of_failsFirst hmore)
  · exact .inl

theorem silent_of_output (h : ∀ action ∈ more, Action.isOutput action = true) : Silent more := by
  refine ⟨any_of_output h ?_, any_of_output h ?_, any_of_output h ?_, any_of_output h ?_,
    any_of_output h ?_, any_of_output h ?_⟩ <;>
  · intro action
    cases action <;> simp [Action.isOutput, Action.isComplete, Action.isEnded,
      Action.isChannelError, Action.isError, Action.isClosed, Action.isCancelled]

theorem Settled.append {next : Stream} (h : Settled download stream) (hmore : Silent more)
    (hcancelled : next.cancelled = stream.cancelled) (hentry : next.entry = stream.entry)
    (htracked : ShellDownload.tracked download next = ShellDownload.tracked download stream)
    (hlog : next.log = stream.log ++ more) : Settled download next where
  uncancelled := hcancelled.trans h.uncancelled
  entry := by rw [hentry, htracked, h.entry]
  tracked := by
    rw [htracked, hlog, h.tracked]
    simp [hmore.ended, hmore.channelError]
  error := by
    rw [hlog]
    simp [h.error, hmore.error, hmore.channelError]
  complete := by
    rw [hlog, hmore.failsFirst_append, List.any_append, List.any_append, hmore.complete,
      hmore.ended, Bool.or_false, Bool.or_false]
    exact h.complete

-- What the channel brings while it is open, other than its end.
theorem Sound.append {next : Stream} (h : Sound download stream) (hmore : Silent more)
    (hexecuting : next.executing = stream.executing) (hchannel : next.channel = stream.channel)
    (hended : next.ended = stream.ended) (hcancelled : next.cancelled = stream.cancelled)
    (hentry : next.entry = stream.entry)
    (htracked : tracked download next = tracked download stream)
    (hlog : next.log = stream.log ++ more)
    (hcontent : stream.cancelled = false → delivered next.log ++ (if next.ended then [] else next.buffer) = received next.log) :
    Sound download next where
  content := fun huncancelled => hcontent (hcancelled.symm.trans huncancelled)
  ended := by
    rw [hended, hlog, List.any_append, hmore.ended, Bool.or_false]
    exact h.ended
  executing := by
    rw [hexecuting, hchannel]
    exact h.executing
  opened := by
    rw [hexecuting, hchannel, hlog, List.any_append, hmore.closed, Bool.or_false]
    exact h.opened
  complete := by
    rw [hlog, List.any_append, hmore.complete, Bool.or_false, hended, hcancelled, hentry]
    exact h.complete
  settled := by
    unfold Opened
    rw [hexecuting, hchannel, hlog, List.any_append, List.any_append, hmore.closed,
      hmore.cancelled, Bool.or_false, Bool.or_false]
    exact fun hopened hnot =>
      (h.settled hopened hnot).append hmore hcancelled hentry htracked hlog

theorem sound_dataReceived (h : Sound download stream) (hrunning : stream.ended = false)
    (data : Bytes) : Sound download (dataReceived runtime download clock stream data) := by
  obtain ⟨transferManager, chunkIndex, buffer, lastProgressTime, more, hframe, htracked, houtput,
    hreceived, hcontent⟩ := @dataReceived_frame runtime download clock stream data
  rw [hframe]
  refine h.append (silent_of_output houtput) rfl rfl rfl rfl rfl htracked rfl fun huncancelled => ?_
  dsimp only
  have hold := h.content huncancelled
  rw [hrunning, if_neg Bool.false_ne_true] at hold ⊢
  rw [delivered_append, received_append, hreceived, List.append_assoc, hcontent huncancelled,
    ← List.append_assoc, hold]

theorem sound_note (h : Sound download stream) {action : Action} (hsilent : Silent [action])
    (hreceived : received [action] = []) (hdelivered : delivered [action] = []) :
    Sound download (record stream action) := by
  refine h.append hsilent rfl rfl rfl rfl rfl rfl rfl fun huncancelled => ?_
  show delivered (stream.log ++ [action]) ++ _ = received (stream.log ++ [action])
  rw [delivered_append, received_append, hreceived, hdelivered, List.append_nil, List.append_nil]
  exact h.content huncancelled

theorem sound_outputEnded (h : Sound download stream) (hchannel : stream.channel = true)
    (hrunning : stream.ended = false) (now : Time) :
    Sound download (outputEnded runtime download clock stream now) := by
  have hclosed := h.opened (.inr hchannel)
  cases hcancelled : stream.cancelled with
  | true =>
    have hequal : outputEnded runtime download clock stream now =
        record { stream with ended := true } .ended := by
      unfold outputEnded
      dsimp only
      rw [if_pos (by simp [record, hcancelled])]
    rw [hequal]
    constructor
    · exact fun huncancelled => by cases hcancelled.symm.trans huncancelled
    · simp [record, Action.isEnded]
    · exact h.executing
    · simp [record, Action.isClosed, hclosed]
    · intro hcomplete
      simp [record, Action.isComplete, h.not_complete hrunning] at hcomplete
    · intro _ hnot
      have hold : stream.log.any Action.isCancelled = false := by
        simpa [record, Action.isCancelled] using hnot
      cases hcancelled.symm.trans (h.settled (.inr (.inl hchannel)) hold).uncancelled
  | false =>
    obtain ⟨transferManager, lastProgressTime, more, hframe, huntracked, hmore⟩ :=
      @outputEnded_frame runtime download clock stream hcancelled now
    rw [hframe]
    constructor
    · intro _
      have hold := h.content hcancelled
      rw [hrunning, if_neg Bool.false_ne_true] at hold
      dsimp only
      rw [if_pos rfl, List.append_nil, delivered_append, received_append, hmore.received,
        hmore.delivered, List.append_nil]
      exact hold
    · simp [hmore.ended]
    · exact h.executing
    · simp [hmore.closed, hclosed]
    · exact fun _ => ⟨rfl, hcancelled, rfl⟩
    · intro _ hnot
      rw [List.any_append, Bool.or_eq_false_iff] at hnot
      have hold := h.settled (.inr (.inl hchannel)) hnot.1
      have hbefore : stream.log.any Action.isEnded = false := h.ended.symm.trans hrunning
      have htracked := hold.tracked
      rw [hbefore, Bool.false_or] at htracked
      refine ⟨hcancelled, huntracked.symm, ?_, ?_, ?_⟩
      · rw [List.any_append, hmore.ended, Bool.or_true, Bool.true_or]
        exact huntracked
      · rw [List.any_append, List.any_append, hmore.error, hmore.channelError, Bool.or_false,
          Bool.or_false]
        exact hold.error
      · rw [List.any_append, List.any_append, hmore.ended, hmore.complete, failsFirst_append,
          h.not_complete hrunning, hbefore, htracked, failsFirst_iff_of_running hbefore]
        simp [hmore.late]

-- An error of the channel comes too late for a download that is complete, and in time for
-- one that is not.
theorem late_channelError {log more : List Action}
    (hcomplete : more.any Action.isComplete = false) (hended : more.any Action.isEnded = false)
    (hfails : FailsFirst more)
    (h : log.any Action.isComplete = true ↔ log.any Action.isEnded = true ∧ ¬FailsFirst log) :
    (log ++ more).any Action.isComplete = true ↔
      (log ++ more).any Action.isEnded = true ∧ ¬FailsFirst (log ++ more) := by
  rw [List.any_append, List.any_append, hcomplete, hended, Bool.or_false, Bool.or_false,
    failsFirst_append, h]
  cases log.any Action.isEnded with
  | true => simp
  | false => simp [hfails]

theorem sound_channelFailed (h : Sound download stream) (hchannel : stream.channel = true)
    (message : JsString) : Sound download (channelFailed download stream message) := by
  have hclosed := h.opened (.inr hchannel)
  unfold channelFailed
  dsimp only
  cases hcancelled : stream.cancelled with
  | true =>
    rw [if_pos (by simp [record, hcancelled])]
    constructor
    · exact fun huncancelled => by cases hcancelled.symm.trans huncancelled
    · simp [record, resolve, Action.isEnded, h.ended]
    · exact h.executing
    · simp [record, resolve, Action.isClosed, hclosed]
    · intro hcomplete
      refine h.complete ?_
      simpa [record, resolve, Action.isComplete] using hcomplete
    · intro _ hnot
      have hold : stream.log.any Action.isCancelled = false := by
        simpa [record, resolve, Action.isCancelled] using hnot
      cases hcancelled.symm.trans (h.settled (.inr (.inl hchannel)) hold).uncancelled
  | false =>
    rw [if_neg (by simp [record, hcancelled])]
    constructor
    · intro _
      have hold := h.content hcancelled
      simpa [record, resolve, cancelTransfer, delivered_append, received_append,
        delivered, received, chunksOf, List.filterMap_cons, Action.chunkOf,
        Action.receivedOf] using hold
    · simp [record, resolve, cancelTransfer, Action.isEnded, h.ended]
    · exact h.executing
    · simp [record, resolve, cancelTransfer, Action.isClosed, hclosed]
    · intro hcomplete
      have hold := h.complete (by
        simpa [record, resolve, cancelTransfer, Action.isComplete] using hcomplete)
      exact ⟨hold.1, hold.2.1, rfl⟩
    · intro _ hnot
      have hold := h.settled (.inr (.inl hchannel)) (by
        simpa [record, resolve, cancelTransfer, Action.isCancelled] using hnot)
      refine ⟨hcancelled, ?_, ?_, ?_, ?_⟩
      · simp [record, resolve, cancelTransfer, tracked, TransferManager.cancelTransfer]
      · simp [record, resolve, cancelTransfer, tracked, TransferManager.cancelTransfer,
          Action.isChannelError]
      · simp [record, resolve, cancelTransfer, Action.isError, Action.isChannelError]
      · dsimp only [record, resolve, cancelTransfer]
        rw [List.append_assoc]
        exact late_channelError rfl rfl (.inl rfl) hold.complete

theorem sound_closed (h : Sound download stream) (hchannel : stream.channel = true) :
    Sound download (record { stream with channel := false } .closed) where
  content := fun huncancelled => by
    dsimp only [record]
    rw [delivered_append, received_append, show delivered [.closed] = [] from rfl,
      show received [.closed] = [] from rfl, List.append_nil, List.append_nil]
    exact h.content huncancelled
  ended := by simp [record, Action.isEnded, h.ended]
  executing := fun _ => rfl
  opened := by
    rintro (hexecuting | hopen)
    · cases (h.executing hexecuting).symm.trans hchannel
    · cases hopen
  complete := by
    intro hcomplete
    refine h.complete ?_
    simpa [record, Action.isComplete] using hcomplete
  settled := by
    intro _ hnot
    have hold := h.settled (.inr (.inl hchannel)) (by
      simpa [record, Action.isCancelled] using hnot)
    refine ⟨hold.uncancelled, hold.entry, ?_, ?_, ?_⟩
    · simpa [record, Action.isEnded, Action.isChannelError, tracked] using hold.tracked
    · simpa [record, Action.isError, Action.isChannelError] using hold.error
    · have hcomplete := hold.complete
      dsimp only [record]
      rw [failsFirst_append, List.any_append, List.any_append]
      simpa [FailsFirst, Action.isComplete, Action.isEnded, Action.isChannelError] using hcomplete

theorem sound_execReturned (h : Sound download stream) (hexecuting : stream.executing = true)
    (result : Except JsString Unit) (now : Time) :
    Sound download (execReturned download stream result now) := by
  have hclosed := h.opened (.inl hexecuting)
  cases result with
  | error message =>
    unfold execReturned
    dsimp only [record, resolve, cancelTransfer]
    constructor
    · intro huncancelled
      dsimp only
      rw [delivered_append, received_append, show delivered [.error _] = [] from rfl,
        show received [.error _] = [] from rfl, List.append_nil, List.append_nil]
      exact h.content huncancelled
    · simp [Action.isEnded, h.ended]
    · nofun
    · simp [Action.isClosed, hclosed]
    · intro hcomplete
      have hold := h.complete (by simpa [Action.isComplete] using hcomplete)
      exact ⟨hold.1, hold.2.1, rfl⟩
    · intro hopened
      simp [Opened, Action.isClosed, h.executing hexecuting, hclosed] at hopened
  | ok value =>
    unfold execReturned
    refine ⟨h.content, h.ended, nofun, fun _ => hclosed, h.complete, fun _ hnot => ?_⟩
    have hold := h.settled (.inl hexecuting) hnot
    exact ⟨hold.uncancelled, hold.entry, hold.tracked, hold.error, hold.complete⟩

-- The transfer goes, from a download that runs or behind the back of one.
theorem sound_dropTransfer (h : Sound download stream) {transferManager : TransferManager}
    {cancelled entry : Bool}
    (hfewer : (transferManager.transfers.get download.transferId).isSome = true →
      tracked download stream = true)
    (hflags : (cancelled = stream.cancelled ∧ entry = stream.entry) ∨
      (stream.entry = true ∧ cancelled = true ∧ entry = false ∧
        (transferManager.transfers.get download.transferId).isSome = false)) :
    Sound download (dropTransfer download { stream with cancelled, entry } transferManager) := by
  obtain ⟨more, hframe, hmore, hnoted⟩ : ∃ more,
      dropTransfer download { stream with cancelled, entry } transferManager =
        { stream with cancelled, entry, transferManager, log := stream.log ++ more } ∧
      (more = [] ∨ more = [.cancelled]) ∧
      (more = [] → tracked download stream =
        (transferManager.transfers.get download.transferId).isSome) := by
    unfold dropTransfer
    dsimp only [record]
    split
    · exact ⟨[.cancelled], rfl, .inr rfl, fun hnil => absurd hnil (List.cons_ne_nil _ _)⟩
    · rename_i hkept
      refine ⟨[], by rw [List.append_nil], .inl rfl, fun _ => ?_⟩
      change ¬(tracked download stream && !(transferManager.transfers.get _).isSome) = true at hkept
      cases hnow : (transferManager.transfers.get download.transferId).isSome with
      | true => exact hfewer hnow
      | false =>
        rw [hnow] at hkept
        simpa using hkept
  rw [hframe]
  have hquiet : more.any Action.isEnded = false ∧ more.any Action.isClosed = false ∧
      more.any Action.isComplete = false ∧ delivered more = [] ∧ received more = [] := by
    rcases hmore with rfl | rfl <;> exact ⟨rfl, rfl, rfl, rfl, rfl⟩
  obtain ⟨hended, hclosed, hcomplete, hdelivered, hreceived⟩ := hquiet
  constructor
  · intro huncancelled
    dsimp only
    rw [delivered_append, received_append, hdelivered, hreceived, List.append_nil, List.append_nil]
    refine h.content ?_
    rcases hflags with ⟨hsame, -⟩ | ⟨-, hset, -⟩
    · exact hsame.symm.trans huncancelled
    · cases hset.symm.trans huncancelled
  · rw [List.any_append, hended, Bool.or_false]
    exact h.ended
  · exact h.executing
  · rw [List.any_append, hclosed, Bool.or_false]
    exact h.opened
  · rw [List.any_append, hcomplete, Bool.or_false]
    intro hany
    obtain ⟨hover, huncancelled, hgone⟩ := h.complete hany
    rcases hflags with ⟨hsame, hentry⟩ | ⟨hentry, -⟩
    · exact ⟨hover, hsame.trans huncancelled, hentry.trans hgone⟩
    · cases hgone.symm.trans hentry
  · intro hopened hnot
    unfold Opened at hopened
    rw [List.any_append, hclosed, Bool.or_false] at hopened
    rw [List.any_append, Bool.or_eq_false_iff] at hnot
    have hnothing : more = [] := by
      rcases hmore with rfl | rfl
      · rfl
      · cases hnot.2
    have htracked := hnoted hnothing
    subst hnothing
    have hold := h.settled hopened hnot.1
    rcases hflags with ⟨hsame, hentry⟩ | ⟨hentry, -, -, hgone⟩
    · have hsilent : Silent [] := ⟨rfl, rfl, rfl, rfl, rfl, rfl⟩
      exact Settled.append hold hsilent hsame hentry htracked.symm rfl
    · cases (hentry.symm.trans (hold.entry.trans htracked)).trans hgone

theorem tracked_of_delete {manager : TransferManager} {transferId other : TransferId}
    (h : ((manager.cancelTransfer other).transfers.get transferId).isSome = true) :
    (manager.transfers.get transferId).isSome = true := by
  unfold TransferManager.cancelTransfer at h
  dsimp only at h
  rw [OrderedMap.get_delete] at h
  split at h
  · cases h
  · exact h

theorem tracked_of_cancelSession {manager : TransferManager} {transferId : TransferId}
    {sessionId : SessionId}
    (h : ((manager.cancelSessionTransfers sessionId).transfers.get transferId).isSome = true) :
    (manager.transfers.get transferId).isSome = true := by
  unfold TransferManager.cancelSessionTransfers at h
  dsimp only at h
  rw [OrderedMap.get_filter] at h
  exact Option.isSome_of_isSome_filter _ _ h

theorem step_sound (h : Sound download stream) (event : Event) :
    Sound download (step runtime download clock stream event) := by
  unfold step
  cases event with
  | execReturned result now =>
    dsimp only
    split
    · rename_i hexecuting
      exact sound_execReturned h hexecuting result now
    · exact h
  | data data =>
    dsimp only
    split
    · rename_i hreading
      rw [Bool.and_eq_true, Bool.not_eq_true'] at hreading
      exact sound_dataReceived h hreading.2 data
    · exact h
  | ended now =>
    dsimp only
    split
    · rename_i hreading
      rw [Bool.and_eq_true, Bool.not_eq_true'] at hreading
      exact sound_outputEnded h hreading.1 hreading.2 now
    · exact h
  | streamError message =>
    dsimp only
    split
    · rename_i hchannel
      exact sound_channelFailed h hchannel message
    · exact h
  | stderr | exited =>
    dsimp only
    split
    · exact sound_note h ⟨rfl, rfl, rfl, rfl, rfl, rfl⟩ rfl rfl
    · exact h
  | closed =>
    dsimp only
    split
    · rename_i hchannel
      exact sound_closed h hchannel
    · exact h
  | cancelDownload =>
    dsimp only [cancelDownload]
    split
    · rename_i hentry
      refine sound_dropTransfer h tracked_of_delete (.inr ⟨hentry, rfl, rfl, ?_⟩)
      simp [TransferManager.cancelTransfer]
    · exact sound_dropTransfer h tracked_of_delete (.inl ⟨rfl, rfl⟩)
  | cancelSessionTransfers sessionId =>
    exact sound_dropTransfer h tracked_of_cancelSession (.inl ⟨rfl, rfl⟩)

theorem start_sound {transferManager : TransferManager}
    (htracked : (transferManager.transfers.get download.transferId).isSome = true)
    (hasSession hasClient : Bool) :
    Sound download (streamDownloadChunks download transferManager hasSession hasClient) := by
  cases hasSession with
  | false =>
    refine ⟨fun _ => rfl, rfl, nofun, nofun, nofun, ?_⟩
    rintro (hexecuting | hchannel | hclosed)
    · cases hexecuting
    · cases hchannel
    · cases hclosed
  | true =>
    cases hasClient with
    | false =>
      refine ⟨fun _ => rfl, rfl, nofun, nofun, nofun, ?_⟩
      rintro (hexecuting | hchannel | hclosed)
      · cases hexecuting
      · cases hchannel
      · cases hclosed
    | true =>
      refine ⟨fun _ => rfl, rfl, fun _ => rfl, fun _ => rfl, nofun, fun _ _ => ?_⟩
      exact ⟨rfl, htracked.symm, htracked, rfl, by simp [streamDownloadChunks]⟩

theorem Settled.failsFirst (h : Settled download stream) :
    (stream.log.any Action.isError = true ∧ stream.log.any Action.isComplete = false) ↔
      FailsFirst stream.log := by
  rw [h.error, Bool.eq_false_iff, Ne, h.complete]
  constructor
  · rintro ⟨hfailed, hnot⟩
    cases hended : stream.log.any Action.isEnded with
    | false => exact (failsFirst_iff_of_running hended).mpr hfailed
    | true =>
      by_contra hlate
      exact hnot ⟨hended, hlate⟩
  · exact fun hfirst => ⟨channelError_of_failsFirst hfirst, fun hboth => hboth.2 hfirst⟩

theorem truthful_of_unclosed {log : List Action} (hclosed : log.any Action.isClosed = false)
    (hsuccess : log.any Action.isComplete = true →
      (delivered log).length = download.fileSize) : Truthful download log :=
  ⟨hsuccess, fun hany => by cases hclosed.symm.trans hany⟩

-- Entries that neither complete nor deliver, while the channel is not closed yet.
theorem Truthful.append {log more : List Action} (h : Truthful download log)
    (hclosed : (log ++ more).any Action.isClosed = false)
    (hcomplete : more.any Action.isComplete = false) (hdelivered : delivered more = []) :
    Truthful download (log ++ more) := by
  refine truthful_of_unclosed hclosed fun hany => ?_
  rw [List.any_append, hcomplete, Bool.or_false] at hany
  rw [delivered_append, hdelivered, List.append_nil]
  exact h.success hany

theorem truthful_outputEnded (hsound : Sound download stream) (hchannel : stream.channel = true)
    (hrunning : stream.ended = false) (now : Time) :
    Truthful download (outputEnded runtime download clock stream now).log ↔
      (Live download stream → (received stream.log).length = download.fileSize) := by
  have hafter := @sound_outputEnded runtime download clock stream hsound hchannel hrunning now
  cases hcancelled : stream.cancelled with
  | true =>
    have hequal : outputEnded runtime download clock stream now =
        record { stream with ended := true } .ended := by
      unfold outputEnded
      dsimp only
      rw [if_pos (by simp [record, hcancelled])]
    refine iff_of_true ?_ fun hlive => by
      cases hcancelled.symm.trans hlive.reading.uncancelled
    rw [hequal]
    refine truthful_of_unclosed ?_ fun hany => ?_
    · simp [record, Action.isClosed, hsound.opened (.inr hchannel)]
    · simp [record, Action.isComplete, hsound.not_complete hrunning] at hany
  | false =>
    have hcontent := hsound.content hcancelled
    rw [hrunning, if_neg Bool.false_ne_true] at hcontent
    have hlive : Live download stream ↔ tracked download stream = true :=
      ⟨Live.tracked, fun htracked => ⟨⟨hchannel, hrunning, hcancelled⟩, htracked⟩⟩
    obtain ⟨transferManager, lastProgressTime, more, hframe, -, hmore⟩ :=
      @outputEnded_frame runtime download clock stream hcancelled now
    rw [hframe] at hafter ⊢
    dsimp only
    have hcomplete : (stream.log ++ more).any Action.isComplete = tracked download stream := by
      rw [List.any_append, hsound.not_complete hrunning, hmore.complete, Bool.false_or]
    have hall : delivered (stream.log ++ more) = received stream.log := by
      rw [delivered_append, hmore.delivered, hcontent]
    rw [hlive, ← hcomplete, ← hall]
    exact ⟨Truthful.success, truthful_of_unclosed (hafter.opened (.inr hchannel))⟩

theorem truthful_closed (hsound : Sound download stream) (h : Truthful download stream.log)
    (hchannel : stream.channel = true) :
    Truthful download (stream.log ++ [Action.closed]) ↔
      (stream.log.any Action.isCancelled = false → Failed download stream.log →
        FailsFirst stream.log) := by
  have hsame : (stream.log ++ [Action.closed]).any Action.isCancelled =
        stream.log.any Action.isCancelled ∧
      (stream.log ++ [Action.closed]).any Action.isError = stream.log.any Action.isError ∧
      (stream.log ++ [Action.closed]).any Action.isComplete = stream.log.any Action.isComplete := by
    simp [Action.isCancelled, Action.isError, Action.isComplete]
  have hfailed : Failed download (stream.log ++ [Action.closed]) ↔ Failed download stream.log := by
    unfold Failed
    rw [received_append, show received [Action.closed] = [] from rfl, List.append_nil,
      List.any_append,
      show [Action.closed].any Action.isFailure = false from rfl, Bool.or_false]
  obtain ⟨hcancelled, herror, hcomplete⟩ := hsame
  constructor
  · intro htruthful hnot hfail
    have hsettled := hsound.settled (.inr (.inl hchannel)) hnot
    rw [← hsettled.failsFirst, ← herror, ← hcomplete]
    refine htruthful.failure ?_ (hcancelled.trans hnot) (hfailed.mpr hfail)
    simp [Action.isClosed]
  · intro hfirst
    refine ⟨fun hany => ?_, fun _ hnot hfail => ?_⟩
    · rw [delivered_append, show delivered [Action.closed] = [] from rfl, List.append_nil]
      exact h.success (hcomplete.symm.trans hany)
    · rw [hcancelled] at hnot
      rw [herror, hcomplete, (hsound.settled (.inr (.inl hchannel)) hnot).failsFirst]
      exact hfirst hnot (hfailed.mp hfail)

theorem truthful_dropTransfer (h : Truthful download stream.log)
    (transferManager : TransferManager) :
    Truthful download (dropTransfer download stream transferManager).log := by
  unfold dropTransfer
  dsimp only [record]
  split
  · refine ⟨fun hany => ?_, fun _ hnot => ?_⟩
    · rw [delivered_append, show delivered [.cancelled] = [] from rfl, List.append_nil]
      refine h.success ?_
      simpa [Action.isComplete] using hany
    · simp [Action.isCancelled] at hnot
  · exact h

theorem step_truthful_iff (hsound : Sound download stream) (h : Truthful download stream.log)
    (event : Event) :
    Truthful download (step runtime download clock stream event).log ↔
      ShowsFailure download stream event := by
  have hafter := @step_sound runtime download clock stream hsound event
  cases event with
  | execReturned result now =>
    refine iff_of_true ?_ trivial
    unfold step
    dsimp only
    split
    · rename_i hexecuting
      have hclosed := hsound.opened (.inl hexecuting)
      cases result with
      | error message =>
        refine h.append ?_ rfl rfl
        simpa [execReturned, Action.isClosed] using hclosed
      | ok value => exact h
    · exact h
  | data data =>
    refine iff_of_true ?_ trivial
    unfold step at hafter ⊢
    dsimp only at hafter ⊢
    split
    · rename_i hreading
      rw [if_pos hreading] at hafter
      rw [Bool.and_eq_true, Bool.not_eq_true'] at hreading
      obtain ⟨transferManager, chunkIndex, buffer, lastProgressTime, more, hframe, -⟩ :=
        @dataReceived_frame runtime download clock stream data
      rw [hframe] at hafter ⊢
      refine truthful_of_unclosed (hafter.opened (.inr hreading.1)) fun hany => ?_
      cases (hafter.not_complete hreading.2).symm.trans hany
    · exact h
  | ended now =>
    unfold step
    dsimp only
    split
    · rename_i hreading
      rw [Bool.and_eq_true, Bool.not_eq_true'] at hreading
      exact truthful_outputEnded hsound hreading.1 hreading.2 now
    · rename_i hnot
      refine iff_of_true h fun hlive => absurd ?_ hnot
      simp [hlive.reading.channel, hlive.reading.running]
  | streamError message =>
    refine iff_of_true ?_ trivial
    unfold step
    dsimp only
    split
    · rename_i hchannel
      have hclosed := hsound.opened (.inr hchannel)
      unfold channelFailed
      dsimp only [record, resolve, cancelTransfer]
      split
      · refine h.append ?_ rfl rfl
        simp [Action.isClosed, hclosed]
      · dsimp only
        rw [List.append_assoc]
        refine h.append ?_ rfl rfl
        simp [Action.isClosed, hclosed]
    · exact h
  | stderr | exited =>
    refine iff_of_true ?_ trivial
    unfold step
    dsimp only
    split
    · rename_i hchannel
      refine h.append ?_ rfl rfl
      simp [Action.isClosed, hsound.opened (.inr hchannel)]
    · exact h
  | closed =>
    unfold step
    dsimp only
    split
    · rename_i hchannel
      exact (truthful_closed hsound h hchannel).trans
        ⟨fun himp _ => himp, fun himp => himp hchannel⟩
    · rename_i hnot
      exact iff_of_true h fun hchannel => absurd hchannel hnot
  | cancelDownload =>
    refine iff_of_true ?_ trivial
    unfold step
    dsimp only [cancelDownload]
    split
    · exact @truthful_dropTransfer download { stream with cancelled := true, entry := false } h _
    · exact truthful_dropTransfer h _
  | cancelSessionTransfers sessionId =>
    refine iff_of_true ?_ trivial
    exact truthful_dropTransfer h _

end Steps

section Runs

variable {runtime : Runtime} {download : Download} {clock : Nat → Time}

theorem start_truthful (transferManager : TransferManager) (hasSession hasClient : Bool) :
    Truthful download
      (streamDownloadChunks download transferManager hasSession hasClient).log := by
  cases hasSession with
  | false => exact ⟨nofun, nofun⟩
  | true =>
    cases hasClient with
    | false => exact ⟨nofun, nofun⟩
    | true => exact ⟨nofun, nofun⟩

-- Every outcome of a run is true exactly when the channel itself tells of every failure.
theorem outcomes_truthful_iff (runtime : Runtime) (download : Download) (clock : Nat → Time)
    (transferManager : TransferManager)
    (htracked : (transferManager.transfers.get download.transferId).isSome = true)
    (hasSession hasClient : Bool) (events : List Event) :
    Throughout (step runtime download clock) (fun stream => Truthful download stream.log)
        (streamDownloadChunks download transferManager hasSession hasClient) events ↔
      Along (step runtime download clock) (ShowsFailure download)
        (streamDownloadChunks download transferManager hasSession hasClient) events :=
  @throughout_iff_along _ _ (step runtime download clock) (Sound download)
    (fun stream => Truthful download stream.log) (ShowsFailure download)
    (fun _ event hsound => step_sound hsound event)
    (fun _ event hsound htruthful => step_truthful_iff hsound htruthful event) _
    (start_sound htracked hasSession hasClient)
    (start_truthful transferManager hasSession hasClient) events

end Runs

section Sample

def threeBytes : Download where
  transferId := js "t"
  remotePath := js "/f"
  fileSize := 3
  chunkSize := 2
  chunkSize_pos := Nat.zero_lt_two

def trackedDownload : ManagedTransfer where
  id := js "t"
  sessionId := js "session"
  direction := .download
  remotePath := js "/f"
  fileName := js "f"
  totalBytes := .ofInt 3
  bytesTransferred := .ofInt 0
  startedAt := 0
  lastChunkAt := 0
  status := .active
  nextChunkIndex := 0
  rateLimiter := createRateLimiter (.ofInt 0) 0

def trackingManager : TransferManager :=
  { TransferManager.new (.ofInt 1) (.ofInt 0) with
    transfers := OrderedMap.empty.set (js "t") trackedDownload }

def wholeOutput : List Event :=
  [.execReturned (.ok ()) 0, .data [1], .data [2, 3], .ended 0, .exited (some 0), .closed]

-- `cat` is not allowed to read the file.
def refusedOutput : List Event :=
  [.execReturned (.ok ()) 0, .stderr [99], .ended 0, .exited (some 1), .closed]

theorem wholeOutput_truthful :
    Throughout (step asciiRuntime threeBytes fun _ => 0)
        (fun stream => Truthful threeBytes stream.log)
        (streamDownloadChunks threeBytes trackingManager true true) wholeOutput ∧
      (trackingManager.transfers.get threeBytes.transferId).isSome = true := by
  have htracked : (trackingManager.transfers.get threeBytes.transferId).isSome = true := rfl
  refine ⟨(outcomes_truthful_iff asciiRuntime threeBytes (fun _ => 0) trackingManager htracked
    true true wholeOutput).mpr ⟨trivial, trivial, trivial, ?_, trivial, ?_, trivial⟩, htracked⟩
  · intro _
    decide
  · rintro _ _ (hshort | hfailure)
    · exact absurd hshort (by decide)
    · exact absurd hfailure (by decide)

theorem refusedOutput_completed :
    (run (step asciiRuntime threeBytes fun _ => 0)
        (streamDownloadChunks threeBytes trackingManager true true) refusedOutput).log.any
        Action.isComplete = true ∧
      ¬Throughout (step asciiRuntime threeBytes fun _ => 0)
        (fun stream => Truthful threeBytes stream.log)
        (streamDownloadChunks threeBytes trackingManager true true) refusedOutput := by
  have hcomplete : (run (step asciiRuntime threeBytes fun _ => 0)
      (streamDownloadChunks threeBytes trackingManager true true) refusedOutput).log.any
      Action.isComplete = true := by decide
  refine ⟨hcomplete, fun hthroughout => ?_⟩
  have hlength := (throughout_last _ hthroughout).success hcomplete
  revert hlength
  decide

end Sample

end WebSsh2.Sftp.ShellDownload

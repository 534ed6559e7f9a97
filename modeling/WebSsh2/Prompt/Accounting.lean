import WebSsh2.Library.Run
import WebSsh2.Prompt.Tracker

namespace WebSsh2.Prompt

open WebSsh2.Library

inductive TrackerCall where
  | track (socketId : SocketId) (payload : PromptPayload) (now : Int)
  | validate (socketId : SocketId) (promptId : PromptId) (now : Int)
  | remove (promptId : PromptId)
  | removeAllForSocket (socketId : SocketId)
deriving DecidableEq

-- The tracker, with the calls that took effect: a refused `track` has none.
structure Recorded where
  tracker : PromptTracker
  calls : List TrackerCall

namespace Recorded

def create : Recorded where
  tracker := createPromptTracker
  calls := []

def step (recorded : Recorded) (call : TrackerCall) : Recorded :=
  match call with
  | .track socketId payload now =>
    match recorded.tracker.track socketId payload now with
    | .error _ => recorded
    | .ok next => ⟨next, recorded.calls ++ [call]⟩
  | .validate socketId promptId now =>
    ⟨(recorded.tracker.validate socketId promptId now).1, recorded.calls ++ [call]⟩
  | .remove promptId => ⟨recorded.tracker.remove promptId, recorded.calls ++ [call]⟩
  | .removeAllForSocket socketId =>
    ⟨recorded.tracker.removeAllForSocket socketId, recorded.calls ++ [call]⟩

end Recorded

-- The prompt was tracked for the socket, and neither removed nor dropped with
-- its socket since.
def Issued (calls : List TrackerCall) (tracked : TrackedPrompt) : Prop :=
  ∃ before after payload now,
    calls = before ++ .track tracked.socketId payload now :: after ∧
      tracked = trackedPrompt tracked.socketId payload now ∧
      .remove tracked.id ∉ after ∧ .removeAllForSocket tracked.socketId ∉ after

namespace PromptTracker

structure IndexesAgree (tracker : PromptTracker) : Prop where
  member : ∀ socketId promptId, promptId ∈ tracker.socketPrompts socketId ↔
    ∃ tracked, tracker.promptsById.get promptId = some tracked ∧ tracked.socketId = socketId
  nonempty : ∀ socketId, tracker.promptsBySocket.get socketId ≠ some []

-- The prompts of the socket that have not come to their timeout.
def unexpired (tracker : PromptTracker) (socketId : SocketId) (now : Int) : Nat :=
  tracker.promptsById.entries.countP fun entry =>
    entry.2.socketId = socketId ∧ now < entry.2.timeoutAt

end PromptTracker

namespace Recorded

-- What holds between the calls.
structure Accounts (recorded : Recorded) : Prop where
  agree : recorded.tracker.IndexesAgree
  issued : ∀ promptId tracked, recorded.tracker.promptsById.get promptId = some tracked →
    tracked.id = promptId ∧ Issued recorded.calls tracked

-- What each answer says.
def Answers (recorded : Recorded) : TrackerCall → Prop
  | .track socketId payload now =>
    ∀ message, recorded.tracker.track socketId payload now = .error message →
      maxPendingPromptsPerSocket ≤ recorded.tracker.unexpired socketId now
  | .validate socketId promptId now =>
    ∀ tracked, (recorded.tracker.validate socketId promptId now).2 = .ok tracked →
      tracked.id = promptId ∧ tracked.socketId = socketId ∧ now < tracked.timeoutAt ∧
        Issued recorded.calls tracked
  | .remove _ | .removeAllForSocket _ => True

-- An id is tracked again for its own socket only, a full socket has no expired
-- prompt, and no prompt is answered in the millisecond of its timeout.
def Ordinary (recorded : Recorded) : TrackerCall → Prop
  | .track socketId payload now =>
    if recorded.tracker.getPendingCount socketId < maxPendingPromptsPerSocket then
      ∀ tracked, recorded.tracker.promptsById.get payload.id = some tracked →
        tracked.socketId = socketId
    else
      ∀ promptId tracked, recorded.tracker.promptsById.get promptId = some tracked →
        tracked.socketId = socketId → now < tracked.timeoutAt
  | .validate socketId promptId now =>
    ∀ tracked, recorded.tracker.promptsById.get promptId = some tracked →
      tracked.socketId = socketId → now ≠ tracked.timeoutAt
  | .remove _ | .removeAllForSocket _ => True

end Recorded

namespace PromptTracker

section Indexes

variable {tracker : PromptTracker}

-- The ids of a socket are distinct, and no more than it may have.
structure Consistent (tracker : PromptTracker) : Prop extends IndexesAgree tracker where
  distinct : ∀ socketId, (tracker.socketPrompts socketId).Nodup
  limited : ∀ socketId, tracker.getPendingCount socketId ≤ maxPendingPromptsPerSocket

theorem consistent_create : Consistent createPromptTracker where
  member socketId promptId := by
    simp [createPromptTracker, socketPrompts]
  nonempty socketId := by simp [createPromptTracker]
  distinct socketId := List.nodup_nil
  limited socketId := Nat.zero_le _

-- The tracker with a prompt added to both indexes.
def added (tracker : PromptTracker) (socketId : SocketId) (payload : PromptPayload) (now : Int) :
    PromptTracker where
  promptsById := tracker.promptsById.set payload.id (trackedPrompt socketId payload now)
  promptsBySocket := tracker.promptsBySocket.set socketId
    (if payload.id ∈ tracker.socketPrompts socketId then tracker.socketPrompts socketId
      else tracker.socketPrompts socketId ++ [payload.id])

variable {payload : PromptPayload} {now : Int}

theorem mem_socketPrompts_added {socketId other : SocketId} {promptId : PromptId} :
    promptId ∈ (tracker.added socketId payload now).socketPrompts other ↔
      socketId = other ∧ promptId = payload.id ∨ promptId ∈ tracker.socketPrompts other := by
  show promptId ∈ ((tracker.promptsBySocket.set socketId _).get other).getD [] ↔ _
  rw [OrderedMap.get_set]
  by_cases hsocket : socketId = other
  · subst hsocket
    rw [if_pos rfl, Option.getD_some]
    by_cases hmem : payload.id ∈ tracker.socketPrompts socketId
    · rw [if_pos hmem]
      exact ⟨.inr, fun h => h.elim (fun h => h.2 ▸ hmem) id⟩
    · rw [if_neg hmem, List.mem_append, List.mem_singleton]
      simp [or_comm]
  · rw [if_neg hsocket]
    simp [hsocket, socketPrompts]

variable {socketId : SocketId}

theorem get_added (promptId : PromptId) :
    (tracker.added socketId payload now).promptsById.get promptId =
      if payload.id = promptId then some (trackedPrompt socketId payload now)
      else tracker.promptsById.get promptId :=
  OrderedMap.get_set ..

-- The indexes still agree when the id is not in use for another socket.
theorem agree_added_iff (h : tracker.IndexesAgree) (socketId : SocketId) (payload : PromptPayload)
    (now : Int) :
    (tracker.added socketId payload now).IndexesAgree ↔
      ∀ tracked, tracker.promptsById.get payload.id = some tracked →
        tracked.socketId = socketId := by
  constructor
  · intro hadded tracked htracked
    have hindexed : payload.id ∈ (tracker.added socketId payload now).socketPrompts
        tracked.socketId :=
      mem_socketPrompts_added.mpr (.inr ((h.member _ _).mpr ⟨tracked, htracked, rfl⟩))
    obtain ⟨owner, howner, hsocket⟩ := (hadded.member _ _).mp hindexed
    rw [get_added, if_pos rfl] at howner
    rw [← hsocket, ← Option.some.inj howner]
    rfl
  · intro hown
    constructor
    · intro other promptId
      rw [mem_socketPrompts_added, get_added]
      by_cases hid : payload.id = promptId
      · subst hid
        rw [if_pos rfl]
        constructor
        · rintro (⟨hsocket, -⟩ | hmem)
          · exact ⟨_, rfl, hsocket⟩
          · obtain ⟨tracked, htracked, hsocket⟩ := (h.member _ _).mp hmem
            exact ⟨_, rfl, (hown tracked htracked).symm.trans hsocket⟩
        · rintro ⟨tracked, htracked, hsocket⟩
          rw [← Option.some.inj htracked] at hsocket
          exact .inl ⟨hsocket, rfl⟩
      · rw [if_neg hid, h.member]
        exact ⟨fun hor => hor.elim (fun hnew => absurd hnew.2.symm hid) id, .inr⟩
    · intro other hempty
      change (tracker.promptsBySocket.set socketId _).get other = some [] at hempty
      rw [OrderedMap.get_set] at hempty
      by_cases hsocket : socketId = other
      · rw [if_pos hsocket] at hempty
        have hnil := Option.some.inj hempty
        split at hnil
        · rename_i hmem
          rw [hnil] at hmem
          cases hmem
        · exact List.append_ne_nil_of_right_ne_nil _ (List.cons_ne_nil _ _) hnil
      · rw [if_neg hsocket] at hempty
        exact h.nonempty other hempty

theorem Consistent.added (h : tracker.Consistent)
    (hroom : tracker.getPendingCount socketId < maxPendingPromptsPerSocket)
    (hown : ∀ tracked, tracker.promptsById.get payload.id = some tracked → tracked.socketId = socketId) :
    (tracker.added socketId payload now).Consistent := by
  have hlist : ∀ other, (tracker.added socketId payload now).socketPrompts other =
      if socketId = other then
        if payload.id ∈ tracker.socketPrompts socketId then tracker.socketPrompts socketId
        else tracker.socketPrompts socketId ++ [payload.id]
      else tracker.socketPrompts other := by
    intro other
    show ((tracker.promptsBySocket.set socketId _).get other).getD [] = _
    rw [OrderedMap.get_set]
    split <;> rfl
  refine ⟨(agree_added_iff h.toIndexesAgree socketId payload now).mpr hown, ?_, ?_⟩
  · intro other
    rw [hlist]
    split
    · split
      · exact h.distinct socketId
      · rename_i hnew
        have hcons := List.nodup_cons.mpr ⟨hnew, h.distinct socketId⟩
        exact (List.perm_append_singleton _ _).nodup_iff.mpr hcons
    · exact h.distinct other
  · intro other
    unfold getPendingCount at hroom ⊢
    rw [hlist]
    split
    · split
      · exact Nat.le_of_lt hroom
      · rw [List.length_append, List.length_singleton]
        exact hroom
    · exact h.limited other

theorem nonempty_remove (h : tracker.IndexesAgree) (promptId : PromptId) (socketId : SocketId) :
    (tracker.remove promptId).promptsBySocket.get socketId ≠ some [] := by
  unfold PromptTracker.remove
  cases tracker.promptsById.get promptId with
  | none => exact h.nonempty socketId
  | some tracked =>
    dsimp only
    cases tracker.promptsBySocket.get tracked.socketId with
    | none => exact h.nonempty socketId
    | some prompts =>
      dsimp only
      by_cases hlength : (prompts.filter (· ≠ promptId)).length = 0
      · rw [if_pos hlength]
        exact fun hempty => h.nonempty socketId (OrderedMap.get_of_get_delete hempty)
      · rw [if_neg hlength, OrderedMap.get_set]
        split
        · intro hempty
          rw [Option.some.inj hempty] at hlength
          exact hlength rfl
        · exact h.nonempty socketId

theorem Consistent.remove (h : tracker.Consistent) (promptId : PromptId) :
    (tracker.remove promptId).Consistent := by
  cases htracked : tracker.promptsById.get promptId with
  | none =>
    have hsame : tracker.remove promptId = tracker := by
      unfold PromptTracker.remove
      rw [htracked]
    rwa [hsame]
  | some tracked =>
    refine ⟨⟨?_, nonempty_remove h.toIndexesAgree promptId⟩, ?_, ?_⟩
    · intro socketId other
      rw [socketPrompts_remove htracked, get_remove]
      by_cases hid : promptId = other
      · subst hid
        rw [if_pos rfl]
        refine iff_of_false ?_ fun ⟨_, hnone, _⟩ => by cases hnone
        split
        · simp
        · rename_i hsocket
          intro hmem
          obtain ⟨owner, howner, heq⟩ := (h.member _ _).mp hmem
          rw [htracked] at howner
          exact hsocket (Option.some.inj howner ▸ heq)
      · rw [if_neg hid, ← h.member]
        split
        · rw [List.mem_filter]
          exact and_iff_left (decide_eq_true (Ne.symm hid))
        · exact Iff.rfl
    · intro socketId
      rw [socketPrompts_remove htracked]
      split
      · exact (h.distinct socketId).filter _
      · exact h.distinct socketId
    · intro socketId
      have hlimit := h.limited socketId
      unfold getPendingCount at hlimit ⊢
      rw [socketPrompts_remove htracked]
      split
      · exact Nat.le_trans (List.length_filter_le _ _) hlimit
      · exact hlimit

theorem socketPrompts_removeAllForSocket (tracker : PromptTracker) (socketId other : SocketId) :
    (tracker.removeAllForSocket socketId).socketPrompts other =
      if socketId = other then [] else tracker.socketPrompts other := by
  unfold PromptTracker.removeAllForSocket
  cases hprompts : tracker.promptsBySocket.get socketId with
  | none =>
    by_cases hsocket : socketId = other
    · unfold socketPrompts
      rw [if_pos hsocket, ← hsocket, hprompts]
      rfl
    · rw [if_neg hsocket]
  | some prompts =>
    unfold socketPrompts
    dsimp only
    rw [OrderedMap.get_delete]
    split <;> rfl

theorem Consistent.removeAllForSocket (h : tracker.Consistent) (socketId : SocketId) :
    (tracker.removeAllForSocket socketId).Consistent := by
  refine ⟨⟨?_, ?_⟩, ?_, ?_⟩
  · intro other promptId
    rw [socketPrompts_removeAllForSocket, get_removeAllForSocket]
    by_cases hmem : promptId ∈ tracker.socketPrompts socketId
    · rw [if_pos hmem]
      refine iff_of_false ?_ fun ⟨_, hnone, _⟩ => by cases hnone
      split
      · exact List.not_mem_nil
      · rename_i hsocket
        intro hother
        obtain ⟨tracked, htracked, heq⟩ := (h.member _ _).mp hmem
        obtain ⟨owner, howner, hne⟩ := (h.member _ _).mp hother
        rw [htracked] at howner
        exact hsocket (heq.symm.trans (Option.some.inj howner ▸ hne))
    · rw [if_neg hmem, ← h.member]
      split
      · rename_i hsocket
        rw [← hsocket]
        exact iff_of_false List.not_mem_nil hmem
      · exact Iff.rfl
  · intro other hempty
    unfold PromptTracker.removeAllForSocket at hempty
    split at hempty
    · exact h.nonempty other hempty
    · exact h.nonempty other (OrderedMap.get_of_get_delete hempty)
  · intro other
    rw [socketPrompts_removeAllForSocket]
    split
    · exact List.nodup_nil
    · exact h.distinct other
  · intro other
    unfold getPendingCount
    rw [socketPrompts_removeAllForSocket]
    split
    · exact Nat.zero_le _
    · exact h.limited other

theorem validate_tracker (tracker : PromptTracker) (socketId : SocketId) (promptId : PromptId)
    (now : Int) :
    (tracker.validate socketId promptId now).1 = tracker ∨
      (tracker.validate socketId promptId now).1 = tracker.remove promptId := by
  unfold PromptTracker.validate
  split
  · exact .inl rfl
  · split
    · exact .inl rfl
    · split
      · exact .inr rfl
      · exact .inl rfl

theorem validate_ok_iff {promptId : PromptId} {tracked : TrackedPrompt} :
    (tracker.validate socketId promptId now).2 = .ok tracked ↔
      tracker.promptsById.get promptId = some tracked ∧ tracked.socketId = socketId ∧
        now ≤ tracked.timeoutAt := by
  unfold PromptTracker.validate
  cases hget : tracker.promptsById.get promptId with
  | none => simp
  | some found =>
    dsimp only
    by_cases hsocket : found.socketId = socketId
    · by_cases hexpired : found.timeoutAt < now
      · rw [if_neg (not_not_intro hsocket), if_pos hexpired]
        refine iff_of_false (fun h => by cases h) ?_
        rintro ⟨hsame, -, hbefore⟩
        rw [← Option.some.inj hsame] at hbefore
        omega
      · rw [if_neg (not_not_intro hsocket), if_neg hexpired]
        constructor
        · intro h
          have hsame := Except.ok.inj h
          exact ⟨congrArg some hsame, hsame ▸ hsocket, hsame ▸ (by omega)⟩
        · intro h
          rw [Option.some.inj h.1]
    · rw [if_pos hsocket]
      refine iff_of_false (fun h => by cases h) ?_
      rintro ⟨hsame, howner, -⟩
      exact hsocket (Option.some.inj hsame ▸ howner)

theorem Consistent.perm (h : tracker.Consistent) (socketId : SocketId) :
    ((tracker.promptsById.entries.filter fun entry => entry.2.socketId = socketId).map
      Prod.fst).Perm (tracker.socketPrompts socketId) := by
  have hkeys : ((tracker.promptsById.entries.filter fun entry =>
      entry.2.socketId = socketId).map Prod.fst).Nodup :=
    tracker.promptsById.nodup.sublist (List.filter_sublist.map Prod.fst)
  refine (List.perm_ext_iff_of_nodup hkeys (h.distinct socketId)).mpr fun promptId => ?_
  rw [h.member, List.mem_map]
  constructor
  · rintro ⟨entry, hentry, rfl⟩
    obtain ⟨hmem, howner⟩ := List.mem_filter.mp hentry
    exact ⟨entry.2, (OrderedMap.get_eq_some_iff _ _ _).mpr hmem, of_decide_eq_true howner⟩
  · rintro ⟨tracked, htracked, howner⟩
    refine ⟨(promptId, tracked), List.mem_filter.mpr ⟨?_, decide_eq_true howner⟩, rfl⟩
    exact (OrderedMap.get_eq_some_iff _ _ _).mp htracked

-- A full socket has as many prompts that have not expired only if none has.
theorem Consistent.unexpired_iff (h : tracker.Consistent)
    (hfull : maxPendingPromptsPerSocket ≤ tracker.getPendingCount socketId) :
    maxPendingPromptsPerSocket ≤ tracker.unexpired socketId now ↔
      ∀ promptId tracked, tracker.promptsById.get promptId = some tracked →
        tracked.socketId = socketId → now < tracked.timeoutAt := by
  have hlength := (h.perm socketId).length_eq
  have hlimit := h.limited socketId
  unfold getPendingCount at hfull hlimit
  rw [List.length_map] at hlength
  have hcount : tracker.unexpired socketId now =
      (tracker.promptsById.entries.filter fun entry => entry.2.socketId = socketId).countP
        fun entry => now < entry.2.timeoutAt := by
    rw [List.countP_filter]
    refine List.countP_congr fun entry _ => ?_
    simp [and_comm]
  have hle := List.countP_le_length (p := fun entry => decide (now < entry.2.timeoutAt))
    (l := tracker.promptsById.entries.filter fun entry => entry.2.socketId = socketId)
  have hall : maxPendingPromptsPerSocket ≤ tracker.unexpired socketId now ↔
      (tracker.promptsById.entries.filter fun entry => entry.2.socketId = socketId).countP
        (fun entry => now < entry.2.timeoutAt) =
      (tracker.promptsById.entries.filter fun entry => entry.2.socketId = socketId).length := by
    rw [hcount]
    omega
  rw [hall, List.countP_eq_length]
  constructor
  · intro hlive promptId tracked htracked howner
    have hmem := (OrderedMap.get_eq_some_iff _ _ _).mp htracked
    have hentry := hlive _ (List.mem_filter.mpr ⟨hmem, decide_eq_true howner⟩)
    exact of_decide_eq_true hentry
  · intro hlive entry hentry
    obtain ⟨hmem, howner⟩ := List.mem_filter.mp hentry
    have hget := (OrderedMap.get_eq_some_iff _ _ _).mpr hmem
    exact decide_eq_true (hlive _ _ hget (of_decide_eq_true howner))

end Indexes

end PromptTracker

namespace Recorded

section Calls

variable {recorded : Recorded}

structure Kept (recorded : Recorded) : Prop where
  consistent : recorded.tracker.Consistent
  issued : ∀ promptId tracked, recorded.tracker.promptsById.get promptId = some tracked →
    tracked.id = promptId ∧ Issued recorded.calls tracked

theorem kept_create : Kept create where
  consistent := PromptTracker.consistent_create
  issued _ _ h := by cases h

theorem Kept.accounts (h : Kept recorded) : Accounts recorded :=
  ⟨h.consistent.toIndexesAgree, h.issued⟩

theorem issued_after {calls : List TrackerCall} {tracked : TrackedPrompt} (h : Issued calls tracked)
    {call : TrackerCall} (hremove : call ≠ .remove tracked.id)
    (hsocket : call ≠ .removeAllForSocket tracked.socketId) : Issued (calls ++ [call]) tracked := by
  obtain ⟨before, after, payload, now, hcalls, htracked, hid, howner⟩ := h
  refine ⟨before, after ++ [call], payload, now, ?_, htracked, ?_, ?_⟩
  · rw [hcalls, List.append_assoc]
    rfl
  · simpa [hid] using Ne.symm hremove
  · simpa [howner] using Ne.symm hsocket

-- A prompt that is still indexed after the call was there before it, and the
-- call was none that takes it out.
theorem Kept.issued_step (h : Kept recorded) {call : TrackerCall} {next : PromptTracker}
    (hnext : ∀ promptId tracked, next.promptsById.get promptId = some tracked →
      recorded.tracker.promptsById.get promptId = some tracked ∧
        call ≠ .remove promptId ∧ call ≠ .removeAllForSocket tracked.socketId) :
    ∀ promptId tracked, next.promptsById.get promptId = some tracked →
      tracked.id = promptId ∧ Issued (recorded.calls ++ [call]) tracked := by
  intro promptId tracked htracked
  obtain ⟨hbefore, hremove, hsocket⟩ := hnext promptId tracked htracked
  obtain ⟨hid, hissued⟩ := h.issued promptId tracked hbefore
  rw [← hid] at hremove
  exact ⟨hid, issued_after hissued hremove hsocket⟩

theorem Kept.issued_added (h : Kept recorded) (socketId : SocketId) (payload : PromptPayload)
    (now : Int) (promptId : PromptId) (tracked : TrackedPrompt)
    (htracked : (recorded.tracker.added socketId payload now).promptsById.get promptId =
      some tracked) :
    tracked.id = promptId ∧
      Issued (recorded.calls ++ [.track socketId payload now]) tracked := by
  rw [PromptTracker.get_added] at htracked
  split at htracked
  · rename_i hid
    rw [← Option.some.inj htracked]
    exact ⟨hid, recorded.calls, [], payload, now, rfl, rfl, List.not_mem_nil, List.not_mem_nil⟩
  · obtain ⟨hid, hissued⟩ := h.issued promptId tracked htracked
    exact ⟨hid, issued_after hissued (fun h => by cases h) (fun h => by cases h)⟩

theorem step_track (recorded : Recorded) (socketId : SocketId) (payload : PromptPayload)
    (now : Int) :
    recorded.step (.track socketId payload now) =
      if recorded.tracker.getPendingCount socketId < maxPendingPromptsPerSocket then
        ⟨recorded.tracker.added socketId payload now,
          recorded.calls ++ [.track socketId payload now]⟩
      else recorded := by
  unfold step
  dsimp only
  by_cases hroom : recorded.tracker.getPendingCount socketId < maxPendingPromptsPerSocket
  · rw [if_pos hroom, PromptTracker.track_eq_ok_iff.mpr ⟨hroom, rfl⟩]
    rfl
  · rw [if_neg hroom]
    unfold PromptTracker.track
    rw [if_pos (Nat.not_lt.mp hroom)]

theorem Kept.remove (h : Kept recorded) (promptId : PromptId) :
    Kept (recorded.step (.remove promptId)) := by
  refine ⟨h.consistent.remove promptId, h.issued_step fun other tracked htracked => ?_⟩
  rw [Recorded.step, PromptTracker.get_remove] at htracked
  split at htracked
  · cases htracked
  · rename_i hne
    refine ⟨htracked, (fun heq => hne ?_), fun heq => by cases heq⟩
    exact TrackerCall.remove.inj heq

theorem Kept.removeAllForSocket (h : Kept recorded) (socketId : SocketId) :
    Kept (recorded.step (.removeAllForSocket socketId)) := by
  refine ⟨h.consistent.removeAllForSocket socketId, h.issued_step fun other tracked htracked => ?_⟩
  rw [Recorded.step, PromptTracker.get_removeAllForSocket] at htracked
  split at htracked
  · cases htracked
  · rename_i hmem
    refine ⟨htracked, (fun heq => by cases heq), fun heq => hmem ?_⟩
    refine (h.consistent.member _ _).mpr ⟨tracked, htracked, ?_⟩
    exact (TrackerCall.removeAllForSocket.inj heq).symm

theorem Kept.validate (h : Kept recorded) (socketId : SocketId) (promptId : PromptId) (now : Int) :
    Kept (recorded.step (.validate socketId promptId now)) := by
  have hcall : ∀ other tracked, recorded.tracker.promptsById.get other = some tracked →
      recorded.tracker.promptsById.get other = some tracked ∧
        TrackerCall.validate socketId promptId now ≠ .remove other ∧
          TrackerCall.validate socketId promptId now ≠ .removeAllForSocket tracked.socketId :=
    fun _ _ htracked => ⟨htracked, (fun heq => by cases heq), (fun heq => by cases heq)⟩
  rcases recorded.tracker.validate_tracker socketId promptId now with hsame | hremoved
  · refine ⟨?_, h.issued_step fun other tracked htracked => ?_⟩
    · rw [Recorded.step, hsame]
      exact h.consistent
    · rw [Recorded.step, hsame] at htracked
      exact hcall other tracked htracked
  · refine ⟨?_, h.issued_step fun other tracked htracked => ?_⟩
    · rw [Recorded.step, hremoved]
      exact h.consistent.remove promptId
    · rw [Recorded.step, hremoved, PromptTracker.get_remove] at htracked
      split at htracked
      · cases htracked
      · exact hcall other tracked htracked

theorem Kept.step (h : Kept recorded) (call : TrackerCall) (hordinary : Ordinary recorded call) :
    Kept (recorded.step call) := by
  cases call with
  | track socketId payload now =>
    unfold Ordinary at hordinary
    dsimp only at hordinary
    rw [step_track]
    split
    · rename_i hroom
      rw [if_pos hroom] at hordinary
      exact ⟨h.consistent.added hroom hordinary, h.issued_added socketId payload now⟩
    · exact h
  | validate socketId promptId now => exact h.validate socketId promptId now
  | remove promptId => exact h.remove promptId
  | removeAllForSocket socketId => exact h.removeAllForSocket socketId

theorem Kept.answers_iff (h : Kept recorded) (call : TrackerCall) :
    (Accounts (recorded.step call) ∧ Answers recorded call) ↔ Ordinary recorded call := by
  cases call with
  | track socketId payload now =>
    unfold Answers Ordinary
    dsimp only
    rw [step_track]
    by_cases hroom : recorded.tracker.getPendingCount socketId < maxPendingPromptsPerSocket
    · rw [if_pos hroom, if_pos hroom, PromptTracker.track_eq_ok_iff.mpr ⟨hroom, rfl⟩,
        ← PromptTracker.agree_added_iff h.consistent.toIndexesAgree socketId payload now]
      refine ⟨fun hboth => hboth.1.agree, fun hagree => ⟨⟨hagree, ?_⟩, fun _ herror => ?_⟩⟩
      · exact h.issued_added socketId payload now
      · cases herror
    · rw [if_neg hroom, if_neg hroom, and_iff_right h.accounts]
      have hfull := Nat.not_lt.mp hroom
      rw [← h.consistent.unexpired_iff hfull]
      have herror : recorded.tracker.track socketId payload now =
          .error (js "Too many pending prompts (max 10)") := by
        unfold PromptTracker.track
        rw [if_pos hfull]
      exact ⟨fun hanswers => hanswers _ herror, fun hunexpired _ _ => hunexpired⟩
  | validate socketId promptId now =>
    unfold Answers Ordinary
    dsimp only
    rw [and_iff_right (h.validate socketId promptId now).accounts]
    constructor
    · intro hanswers tracked htracked howner hsame
      have hvalid := PromptTracker.validate_ok_iff.mpr ⟨htracked, howner, hsame.le⟩
      have hlt := (hanswers tracked hvalid).2.2.1
      omega
    · intro hordinary tracked hvalid
      obtain ⟨htracked, howner, hle⟩ := PromptTracker.validate_ok_iff.mp hvalid
      obtain ⟨hid, hissued⟩ := h.issued promptId tracked htracked
      have hne := hordinary tracked htracked howner
      exact ⟨hid, howner, by omega, hissued⟩
  | remove promptId => exact iff_of_true ⟨(h.remove promptId).accounts, trivial⟩ trivial
  | removeAllForSocket socketId =>
    exact iff_of_true ⟨(h.removeAllForSocket socketId).accounts, trivial⟩ trivial

end Calls

-- The accounts are in order throughout a run, and every answer with them,
-- exactly when every call of the run is an ordinary one.
theorem accounts_iff_ordinary (calls : List TrackerCall) :
    (Run.Throughout step Accounts create calls ∧ Run.Along step Answers create calls) ↔
      Run.Along step Ordinary create calls := by
  rw [Run.throughout_iff_init, and_iff_right kept_create.accounts, ← Run.along_and]
  exact @Run.along_congr_of_kept _ _ step Kept _ _ (fun _ call h => h.step call)
    (fun _ call h => h.answers_iff call) _ kept_create calls

-- A notice that goes away after a second.
def brief (id : PromptId) : PromptPayload where
  id := id
  type := .notice
  title := js "Saved"
  timeout := some 1000

def tenNotices : List TrackerCall :=
  (List.range 10).map fun number => .track (js "s") (brief [number.toUInt16]) 0

-- Ten notices, all of them expired for seconds, keep out the next one.
theorem expired_notices_count :
    ¬Run.Along step Answers create (tenNotices ++ [.track (js "s") (brief (js "next")) 5000]) := by
  intro h
  have hlast := (Run.along_iff step Answers create _).mp h tenNotices
    (.track (js "s") (brief (js "next")) 5000) [] rfl
  have hrefused : (Run.run step create tenNotices).tracker.track (js "s") (brief (js "next")) 5000 =
      .error (js "Too many pending prompts (max 10)") := by
    unfold PromptTracker.track
    rw [if_pos (by decide)]
  exact absurd (hlast _ hrefused) (by decide)

end Recorded

end WebSsh2.Prompt

import WebSsh2.Prompt.KeyboardInteractive

namespace WebSsh2.Prompt

open WebSsh2.Library WebSsh2.Library.Run WebSsh2.Socket

-- The adapter with the time that was read last and the number of rounds that were
-- forwarded, which are numbered from zero.
structure RoundsState where
  adapter : PromptAdapter KeyboardHandler
  clock : Int
  forwarded : Nat

inductive RoundsEvent where
  | forward (id : PromptId) (name instructions : JsString) (prompts : List KeyboardPrompt)
      (now : Int)
  | prompt (id : PromptId) (request : PromptRequest) (now : Int)
  | response (sender : SocketId) (data : JsValue) (now : Int)
  | disconnect (now : Int)
  | wait (now : Int)

namespace RoundsState

def create (now : Int) : RoundsState where
  adapter := .create
  clock := now
  forwarded := 0

def step (socketId : SocketId) (state : RoundsState) : RoundsEvent → RoundsState
  | .forward id name instructions prompts now =>
    { adapter := handleSSHKeyboardInteractive socketId state.adapter id name instructions prompts
        state.forwarded now
      clock := now
      forwarded := state.forwarded + 1 }
  | .prompt id request now =>
    { state with
      adapter := state.adapter.step socketId (.send id request .other now)
      clock := now }
  | .response sender data now =>
    { state with
      adapter := state.adapter.step socketId (.response sender data now)
      clock := now }
  | .disconnect now =>
    { state with adapter := state.adapter.step socketId (.disconnect now), clock := now }
  | .wait now => { state with adapter := state.adapter.step socketId (.wait now), clock := now }

-- How often `finish` of a round was called.
def finishCount (state : RoundsState) (round : Nat) : Nat :=
  (finishCalls state.adapter).countP fun call => call.1 = round

-- No round was answered twice, and one that was not answered has a prompt that is
-- tracked and not expired, and its handler.
structure NoneHanging (state : RoundsState) : Prop where
  once : ∀ round, state.finishCount round ≤ 1
  waits : ∀ round, round < state.forwarded → state.finishCount round = 0 →
    ∃ id tracked prompts, state.adapter.tracker.promptsById.get id = some tracked ∧
      state.clock ≤ tracked.timeoutAt ∧
      state.adapter.responseHandlers.get id = some (.round round prompts)

-- A round has its handler under the id.
def RoundAt (state : RoundsState) (id : PromptId) : Prop :=
  ∃ round prompts, state.adapter.responseHandlers.get id = some (.round round prompts)

-- The prompts of all rounds are still in time.
def InTime (state : RoundsState) (now : Int) : Prop :=
  ∀ id tracked, state.RoundAt id → state.adapter.tracker.promptsById.get id = some tracked →
    now ≤ tracked.timeoutAt

def HasRoom (socketId : SocketId) (state : RoundsState) : Prop :=
  state.adapter.tracker.getPendingCount socketId < maxPendingPromptsPerSocket

-- Nothing leaves a round behind: no time passes beyond its prompt, the prompt of a
-- new round has room, no prompt takes the id of a round, and no round waits when the
-- socket ends.
def KeepsRounds (socketId : SocketId) (state : RoundsState) : RoundsEvent → Prop
  | .forward id _ _ _ now => HasRoom socketId state ∧ ¬ state.RoundAt id ∧ state.InTime now
  | .prompt id _ now => (HasRoom socketId state → ¬ state.RoundAt id) ∧ state.InTime now
  | .response _ _ now => state.InTime now
  | .disconnect _ => ∀ id, ¬ state.RoundAt id
  | .wait now => state.InTime now

-- What holds in every run: a round has one handler at most, and none once it was
-- answered.
structure Numbered (state : RoundsState) : Prop where
  unanswered : ∀ id round prompts,
    state.adapter.responseHandlers.get id = some (.round round prompts) →
      round < state.forwarded ∧ state.finishCount round = 0
  unique : ∀ first second round prompts others,
    state.adapter.responseHandlers.get first = some (.round round prompts) →
      state.adapter.responseHandlers.get second = some (.round round others) → first = second
  once : ∀ round, state.finishCount round ≤ 1
  known : ∀ round, state.forwarded ≤ round → state.finishCount round = 0

-- Every round that was not answered has its handler.
def Complete (state : RoundsState) : Prop :=
  ∀ round, round < state.forwarded → state.finishCount round = 0 →
    ∃ id prompts, state.adapter.responseHandlers.get id = some (.round round prompts)

-- The prompt of every handler of a round is tracked and in time.
def Alive (state : RoundsState) : Prop :=
  ∀ id, state.RoundAt id → ∃ tracked, state.adapter.tracker.promptsById.get id = some tracked ∧
    state.clock ≤ tracked.timeoutAt

section Invariant

variable {socketId : SocketId} {state : RoundsState}

theorem noneHanging_iff (h : Numbered state) :
    state.NoneHanging ↔ state.Complete ∧ state.Alive := by
  constructor
  · intro hnone
    refine ⟨fun round hround hcount => ?_, fun id hat => ?_⟩
    · obtain ⟨id, _, prompts, _, _, hhandler⟩ := hnone.waits round hround hcount
      exact ⟨id, prompts, hhandler⟩
    · obtain ⟨round, prompts, hhandler⟩ := hat
      obtain ⟨hround, hcount⟩ := h.unanswered id round prompts hhandler
      obtain ⟨other, tracked, others, htracked, htime, hother⟩ := hnone.waits round hround hcount
      obtain rfl := h.unique id other round prompts others hhandler hother
      exact ⟨tracked, htracked, htime⟩
  · rintro ⟨hcomplete, halive⟩
    refine ⟨h.once, fun round hround hcount => ?_⟩
    obtain ⟨id, prompts, hhandler⟩ := hcomplete round hround hcount
    obtain ⟨tracked, htracked, htime⟩ := halive id ⟨round, prompts, hhandler⟩
    exact ⟨id, tracked, prompts, htracked, htime, hhandler⟩

end Invariant

section Sending

variable {socketId : SocketId} {state : RoundsState} {next : PromptAdapter KeyboardHandler}

-- What sending a prompt does: nothing when there is no room, else the prompt is
-- tracked and its handler registered.
theorem send_cases (socketId : SocketId) (adapter : PromptAdapter KeyboardHandler) (id : PromptId)
    (request : PromptRequest) (handler : KeyboardHandler) (now : Int) :
    (¬ adapter.tracker.getPendingCount socketId < maxPendingPromptsPerSocket ∧
        adapter.step socketId (.send id request handler now) = adapter) ∨
      adapter.tracker.getPendingCount socketId < maxPendingPromptsPerSocket ∧
        (adapter.step socketId (.send id request handler now)).called = adapter.called ∧
        (adapter.step socketId (.send id request handler now)).responseHandlers =
          adapter.responseHandlers.set id handler ∧
        (adapter.step socketId (.send id request handler now)).tracker.promptsById =
          adapter.tracker.promptsById.set id
            (trackedPrompt socketId (request.payload id) now) := by
  have hid := payload_id id request
  unfold PromptAdapter.step PromptAdapter.sendPrompt
  dsimp only
  by_cases hroom : adapter.tracker.getPendingCount socketId < maxPendingPromptsPerSocket
  · rw [PromptTracker.track_eq_ok_iff.mpr ⟨hroom, rfl⟩]
    dsimp only
    rw [hid]
    exact .inr ⟨hroom, rfl, rfl, rfl⟩
  · cases htrack : adapter.tracker.track socketId (request.payload id) now with
    | error message => exact .inl ⟨hroom, rfl⟩
    | ok tracker => exact absurd (PromptTracker.track_eq_ok_iff.mp htrack).1 hroom

end Sending

section Numbering

variable {socketId : SocketId} {state next : RoundsState}

theorem finishCount_of_called (h : next.adapter.called = state.adapter.called) (round : Nat) :
    next.finishCount round = state.finishCount round := by
  unfold finishCount finishCalls
  rw [h]

theorem finishCount_answered {handler : KeyboardHandler} {response : PromptResponse}
    (h : next.adapter.called = state.adapter.called ++ [(handler, response)]) (round : Nat) :
    (∃ prompts, handler = .round round prompts) ∧
        next.finishCount round = state.finishCount round + 1 ∨
      (∀ prompts, handler ≠ .round round prompts) ∧
        next.finishCount round = state.finishCount round := by
  unfold finishCount finishCalls
  rw [h, List.filterMap_append, List.countP_append]
  cases handler with
  | round number prompts =>
    by_cases hnumber : number = round
    · subst hnumber
      exact .inl ⟨⟨prompts, rfl⟩, by simp [finishCall]⟩
    · refine .inr ⟨fun others heq => ?_, by simp [finishCall, hnumber]⟩
      cases heq
      exact hnumber rfl
  | other => exact .inr ⟨fun others heq => (by cases heq), by simp [finishCall]⟩

-- With no new handler of a round and no call the numbering stays.
theorem numbered_of_fewer (h : Numbered state)
    (hcalled : next.adapter.called = state.adapter.called)
    (hforwarded : state.forwarded ≤ next.forwarded)
    (hhandlers : ∀ id round prompts,
      next.adapter.responseHandlers.get id = some (.round round prompts) →
        state.adapter.responseHandlers.get id = some (.round round prompts)) :
    Numbered next where
  unanswered id round prompts hget := by
    rw [finishCount_of_called hcalled]
    obtain ⟨hround, hcount⟩ := h.unanswered id round prompts (hhandlers _ _ _ hget)
    exact ⟨by omega, hcount⟩
  unique first second round prompts others hfirst hsecond :=
    h.unique first second round prompts others (hhandlers _ _ _ hfirst) (hhandlers _ _ _ hsecond)
  once round := by
    rw [finishCount_of_called hcalled]
    exact h.once round
  known round hround := by
    rw [finishCount_of_called hcalled]
    exact h.known round (by omega)

theorem numbered_of_forwarded (h : Numbered state) {id : PromptId} {prompts : Nat}
    (hcalled : next.adapter.called = state.adapter.called)
    (hforwarded : next.forwarded = state.forwarded + 1)
    (hhandlers : next.adapter.responseHandlers =
      state.adapter.responseHandlers.set id (.round state.forwarded prompts)) :
    Numbered next := by
  have hold : ∀ other round others,
      next.adapter.responseHandlers.get other = some (.round round others) →
        other = id ∧ round = state.forwarded ∨
          state.adapter.responseHandlers.get other = some (.round round others) := by
    intro other round others hother
    rw [hhandlers, OrderedMap.get_set] at hother
    by_cases hid : id = other
    · rw [if_pos hid] at hother
      cases hother
      exact .inl ⟨hid.symm, rfl⟩
    · rw [if_neg hid] at hother
      exact .inr hother
  refine ⟨fun other round others hother => ?_, fun first second round prompts others hfirst
    hsecond => ?_, fun round => ?_, fun round hround => ?_⟩
  · rw [finishCount_of_called hcalled, hforwarded]
    rcases hold other round others hother with ⟨_, rfl⟩ | hother
    · exact ⟨by omega, h.known _ (Nat.le_refl _)⟩
    · obtain ⟨hround, hcount⟩ := h.unanswered other round others hother
      exact ⟨by omega, hcount⟩
  · rcases hold first round prompts hfirst with ⟨hfirst, hround⟩ | hfirst
    · rcases hold second round others hsecond with ⟨hsecond, _⟩ | hsecond
      · rw [hfirst, hsecond]
      · have hknown := (h.unanswered second round others hsecond).1
        omega
    · rcases hold second round others hsecond with ⟨_, hround⟩ | hsecond
      · have hknown := (h.unanswered first round prompts hfirst).1
        omega
      · exact h.unique first second round prompts others hfirst hsecond
  · rw [finishCount_of_called hcalled]
    exact h.once round
  · rw [finishCount_of_called hcalled]
    exact h.known round (by omega)

theorem numbered_of_answered (h : Numbered state) {id : PromptId} {handler : KeyboardHandler}
    {response : PromptResponse} (hget : state.adapter.responseHandlers.get id = some handler)
    (hcalled : next.adapter.called = state.adapter.called ++ [(handler, response)])
    (hforwarded : next.forwarded = state.forwarded)
    (hhandlers : next.adapter.responseHandlers = state.adapter.responseHandlers.delete id) :
    Numbered next := by
  have hold : ∀ other handler, next.adapter.responseHandlers.get other = some handler →
      other ≠ id ∧ state.adapter.responseHandlers.get other = some handler := by
    intro other handler hother
    rw [hhandlers, OrderedMap.get_delete] at hother
    by_cases hid : id = other
    · rw [if_pos hid] at hother
      cases hother
    · rw [if_neg hid] at hother
      exact ⟨Ne.symm hid, hother⟩
  refine ⟨fun other round prompts hother => ?_, fun first second round prompts others hfirst
    hsecond => ?_, fun round => ?_, fun round hround => ?_⟩
  · obtain ⟨hne, hother⟩ := hold other _ hother
    obtain ⟨hround, hcount⟩ := h.unanswered other round prompts hother
    rw [hforwarded]
    rcases finishCount_answered hcalled round with ⟨⟨others, rfl⟩, _⟩ | ⟨_, hsame⟩
    · exact absurd (h.unique other id round prompts others hother hget) hne
    · exact ⟨hround, hsame.trans hcount⟩
  · exact h.unique first second round prompts others (hold _ _ hfirst).2 (hold _ _ hsecond).2
  · rcases finishCount_answered hcalled round with ⟨⟨others, rfl⟩, hmore⟩ | ⟨_, hsame⟩
    · rw [hmore, (h.unanswered id round others hget).2]
    · rw [hsame]
      exact h.once round
  · rw [hforwarded] at hround
    rcases finishCount_answered hcalled round with ⟨⟨others, rfl⟩, _⟩ | ⟨_, hsame⟩
    · have hknown := (h.unanswered id round others hget).1
      omega
    · exact hsame.trans (h.known round hround)

theorem numbered_settles (h : Numbered state) {adapter : PromptAdapter KeyboardHandler}
    {now : Int} (hsettles : PromptAdapter.Settles state.adapter now adapter) (clock : Int) :
    Numbered { state with adapter, clock } := by
  cases hsettles with
  | refused | expired tracked id _ _ | unheard response _ =>
    exact numbered_of_fewer h rfl (Nat.le_refl _) fun _ _ _ hget => hget
  | answered tracked handler response _ _ hhandler =>
    exact numbered_of_answered h hhandler rfl rfl rfl

theorem numbered_create (start : Int) : Numbered (create start) where
  unanswered _ _ _ hget := by cases hget
  unique _ _ _ _ _ hget := by cases hget
  once _ := Nat.zero_le 1
  known _ _ := rfl

theorem numbered_step (state : RoundsState) (event : RoundsEvent) (h : Numbered state) :
    Numbered (state.step socketId event) := by
  cases event with
  | forward id name instructions prompts now =>
    rcases send_cases socketId state.adapter id (keyboardRequest name instructions prompts)
      (.round state.forwarded prompts.length) now with
      ⟨_, hsame⟩ | ⟨_, hcalled, hhandlers, _⟩
    · refine numbered_of_fewer h ?_ (Nat.le_succ _) fun _ _ _ hget => ?_
      · exact congrArg PromptAdapter.called hsame
      · have hget' := hget
        simp only [step, handleSSHKeyboardInteractive, hsame] at hget'
        exact hget'
    · exact numbered_of_forwarded h hcalled rfl hhandlers
  | prompt id request now =>
    rcases send_cases socketId state.adapter id request .other now with
      ⟨_, hsame⟩ | ⟨_, hcalled, hhandlers, _⟩
    · refine numbered_of_fewer h ?_ (Nat.le_refl _) fun _ _ _ hget => ?_
      · exact congrArg PromptAdapter.called hsame
      · simp only [step, hsame] at hget
        exact hget
    · refine numbered_of_fewer h hcalled (Nat.le_refl _) fun other _ _ hget => ?_
      simp only [step, hhandlers, OrderedMap.get_set] at hget
      by_cases hid : id = other
      · rw [if_pos hid] at hget
        cases hget
      · rw [if_neg hid] at hget
        exact hget
  | response sender data now =>
    by_cases hsender : sender = socketId
    · simp only [step, PromptAdapter.step, if_pos hsender]
      exact numbered_settles h
        (PromptAdapter.settles_handlePromptResponse socketId state.adapter data now) now
    · simp only [step, PromptAdapter.step, if_neg hsender]
      exact numbered_settles h (@PromptAdapter.Settles.refused _ _ now) now
  | disconnect now =>
    refine numbered_of_fewer h rfl (Nat.le_refl _) fun _ _ _ hget => ?_
    cases hget
  | wait now => exact numbered_of_fewer h rfl (Nat.le_refl _) fun _ _ _ hget => hget

end Numbering

section Waiting

variable {socketId : SocketId} {state next : RoundsState}

-- Nothing is left behind where every round keeps its handler and its prompt.
theorem noneHanging_iff_of_kept (h : Numbered state) (hnext : Numbered next)
    (hnone : state.NoneHanging) (hcount : ∀ round, next.finishCount round = state.finishCount round)
    (hforwarded : next.forwarded = state.forwarded)
    (hhandlers : ∀ id round prompts,
      next.adapter.responseHandlers.get id = some (.round round prompts) ↔
        state.adapter.responseHandlers.get id = some (.round round prompts))
    (htracked : ∀ id, state.RoundAt id →
      next.adapter.tracker.promptsById.get id = state.adapter.tracker.promptsById.get id) :
    next.NoneHanging ↔ state.InTime next.clock := by
  obtain ⟨hcomplete, halive⟩ := (noneHanging_iff h).mp hnone
  have hat : ∀ id, next.RoundAt id ↔ state.RoundAt id := fun id =>
    exists_congr fun round => exists_congr fun prompts => hhandlers id round prompts
  have hcomplete' : next.Complete := by
    intro round hround hzero
    rw [hforwarded] at hround
    rw [hcount] at hzero
    obtain ⟨id, prompts, hhandler⟩ := hcomplete round hround hzero
    exact ⟨id, prompts, (hhandlers id round prompts).mpr hhandler⟩
  rw [noneHanging_iff hnext]
  constructor
  · rintro ⟨_, halive'⟩ id tracked hround hget
    obtain ⟨other, hother, htime⟩ := halive' id ((hat id).mpr hround)
    rw [htracked id hround, hget] at hother
    cases hother
    exact htime
  · intro htime
    refine ⟨hcomplete', fun id hround => ?_⟩
    have hround' := (hat id).mp hround
    obtain ⟨tracked, hget, _⟩ := halive id hround'
    rw [htracked id hround']
    exact ⟨tracked, hget, htime id tracked hround' hget⟩

variable {id : PromptId}

-- A round that loses its handler without a call of `finish` is left behind.
theorem not_noneHanging_of_lost (h : Numbered state) (hnext : Numbered next)
    (hat : state.RoundAt id) (hcount : ∀ round, next.finishCount round = state.finishCount round)
    (hforwarded : state.forwarded ≤ next.forwarded)
    (hlost : ∀ other round prompts, round < state.forwarded → next.adapter.responseHandlers.get other = some (.round round prompts) → other ≠ id ∧ state.adapter.responseHandlers.get other = some (.round round prompts)) :
    ¬ next.NoneHanging := by
  intro hnone
  obtain ⟨round, prompts, hhandler⟩ := hat
  obtain ⟨hround, hzero⟩ := h.unanswered id round prompts hhandler
  have hzero' : next.finishCount round = 0 := (hcount round).trans hzero
  obtain ⟨hcomplete, _⟩ := (noneHanging_iff hnext).mp hnone
  obtain ⟨other, others, hother⟩ := hcomplete round (by omega) hzero'
  obtain ⟨hne, hother'⟩ := hlost other round others hround hother
  exact hne (h.unique other id round others prompts hother' hhandler)

variable {tracked : TrackedPrompt} {handler : KeyboardHandler}

theorem noneHanging_iff_of_answered (h : Numbered state) (hnext : Numbered next)
    (hnone : state.NoneHanging) {response : PromptResponse}
    (hget : state.adapter.responseHandlers.get id = some handler)
    (htracked : state.adapter.tracker.promptsById.get id = some tracked)
    (htime : next.clock ≤ tracked.timeoutAt)
    (hcalled : next.adapter.called = state.adapter.called ++ [(handler, response)])
    (hforwarded : next.forwarded = state.forwarded)
    (hhandlers : next.adapter.responseHandlers = state.adapter.responseHandlers.delete id)
    (htracker : next.adapter.tracker = state.adapter.tracker.remove id) :
    next.NoneHanging ↔ state.InTime next.clock := by
  obtain ⟨hcomplete, halive⟩ := (noneHanging_iff h).mp hnone
  have hkept : ∀ other, other ≠ id →
      next.adapter.responseHandlers.get other = state.adapter.responseHandlers.get other ∧
        next.adapter.tracker.promptsById.get other =
          state.adapter.tracker.promptsById.get other := by
    intro other hne
    rw [hhandlers, htracker, OrderedMap.get_delete, PromptTracker.get_remove,
      if_neg (Ne.symm hne), if_neg (Ne.symm hne)]
    exact ⟨rfl, rfl⟩
  have hcomplete' : next.Complete := by
    intro round hround hzero
    rw [hforwarded] at hround
    -- A round that has no call now had none before, and was not the one answered.
    rcases finishCount_answered hcalled round with ⟨_, hmore⟩ | ⟨hother, hsame⟩
    · omega
    · obtain ⟨other, prompts, hhandler⟩ := hcomplete round hround (by omega)
      have hne : other ≠ id := by
        rintro rfl
        rw [hget] at hhandler
        exact hother prompts (Option.some.inj hhandler)
      exact ⟨other, prompts, (hkept other hne).1.trans hhandler⟩
  have hgone : ¬ next.RoundAt id := by
    rintro ⟨round, prompts, hround⟩
    rw [hhandlers, OrderedMap.get_delete, if_pos rfl] at hround
    cases hround
  have hat : ∀ other, other ≠ id → (next.RoundAt other ↔ state.RoundAt other) := by
    intro other hne
    unfold RoundAt
    rw [(hkept other hne).1]
  rw [noneHanging_iff hnext]
  constructor
  · rintro ⟨_, halive'⟩ other prompt hround hprompt
    by_cases hid : other = id
    · rw [hid, htracked] at hprompt
      cases hprompt
      exact htime
    · obtain ⟨prompt', hprompt', htime'⟩ := halive' other ((hat other hid).mpr hround)
      rw [(hkept other hid).2, hprompt] at hprompt'
      cases hprompt'
      exact htime'
  · intro hintime
    refine ⟨hcomplete', fun other hround => ?_⟩
    have hid : other ≠ id := by
      rintro rfl
      exact hgone hround
    have hround' := (hat other hid).mp hround
    obtain ⟨prompt, hprompt, _⟩ := halive other hround'
    exact ⟨prompt, (hkept other hid).2.trans hprompt, hintime other prompt hround' hprompt⟩

-- The socket that ends drops all handlers.
theorem noneHanging_disconnect_iff (h : Numbered state) (hnone : state.NoneHanging) (now : Int) :
    (state.step socketId (.disconnect now)).NoneHanging ↔ ∀ id, ¬ state.RoundAt id := by
  obtain ⟨hcomplete, _⟩ := (noneHanging_iff h).mp hnone
  have hnext := @numbered_step socketId state (.disconnect now) h
  constructor
  · intro hnone' id hat
    refine not_noneHanging_of_lost h hnext hat (fun _ => rfl) (Nat.le_refl _) ?_ hnone'
    intro _ _ _ _ hget
    cases hget
  · intro hfree
    rw [noneHanging_iff hnext]
    refine ⟨fun round hround hzero => ?_, fun id hat => ?_⟩
    · obtain ⟨id, prompts, hhandler⟩ := hcomplete round hround hzero
      exact absurd ⟨round, prompts, hhandler⟩ (hfree id)
    · obtain ⟨_, _, hget⟩ := hat
      cases hget

theorem noneHanging_settles_iff (h : Numbered state) (hnone : state.NoneHanging)
    {adapter : PromptAdapter KeyboardHandler} {now : Int}
    (hsettles : PromptAdapter.Settles state.adapter now adapter) :
    NoneHanging { state with adapter, clock := now } ↔ state.InTime now := by
  have hnext := numbered_settles h hsettles now
  cases hsettles with
  | refused =>
    exact noneHanging_iff_of_kept h hnext hnone (fun _ => rfl) rfl (fun _ _ _ => Iff.rfl)
      fun _ _ => rfl
  | expired tracked id htracked htime =>
    by_cases hat : state.RoundAt id
    · refine iff_of_false (fun hnone' => ?_) fun hintime => ?_
      · obtain ⟨_, halive⟩ := (noneHanging_iff hnext).mp hnone'
        obtain ⟨other, hother, _⟩ := halive id hat
        rw [PromptTracker.get_remove, if_pos rfl] at hother
        cases hother
      · have hlate := hintime id tracked hat htracked
        omega
    · refine noneHanging_iff_of_kept h hnext hnone (fun _ => rfl) rfl (fun _ _ _ => Iff.rfl)
        fun other hother => ?_
      rw [PromptTracker.get_remove, if_neg]
      rintro rfl
      exact hat hother
  | unheard response hhandler =>
    refine noneHanging_iff_of_kept h hnext hnone (fun _ => rfl) rfl (fun _ _ _ => Iff.rfl)
      fun other hother => ?_
    rw [PromptTracker.get_remove, if_neg]
    rintro rfl
    obtain ⟨_, _, hround⟩ := hother
    rw [hhandler] at hround
    cases hround
  | answered tracked handler response htracked htime hhandler =>
    exact noneHanging_iff_of_answered h hnext hnone hhandler htracked htime rfl rfl rfl rfl

-- A prompt that was tracked, with its handler.
structure Sends (state next : RoundsState) (id : PromptId) (handler : KeyboardHandler)
    (tracked : TrackedPrompt) : Prop where
  called : next.adapter.called = state.adapter.called
  handlers : next.adapter.responseHandlers = state.adapter.responseHandlers.set id handler
  prompts : next.adapter.tracker.promptsById = state.adapter.tracker.promptsById.set id tracked

theorem Sends.get_self (h : Sends state next id handler tracked) :
    next.adapter.responseHandlers.get id = some handler ∧
      next.adapter.tracker.promptsById.get id = some tracked := by
  rw [h.handlers, h.prompts, OrderedMap.get_set_self, OrderedMap.get_set_self]
  exact ⟨rfl, rfl⟩

theorem Sends.get_other {id other : PromptId} (h : Sends state next id handler tracked)
    (hne : other ≠ id) :
    next.adapter.responseHandlers.get other = state.adapter.responseHandlers.get other ∧
      next.adapter.tracker.promptsById.get other = state.adapter.tracker.promptsById.get other := by
  rw [h.handlers, h.prompts, OrderedMap.get_set, OrderedMap.get_set, if_neg (Ne.symm hne),
    if_neg (Ne.symm hne)]
  exact ⟨rfl, rfl⟩

-- A prompt that takes the id of a waiting round leaves the round behind.
theorem Sends.not_noneHanging (h : Numbered state) (hnext : Numbered next)
    (hsends : Sends state next id handler tracked) (hat : state.RoundAt id)
    (hforwarded : state.forwarded ≤ next.forwarded)
    (hhandler : ∀ round prompts, handler = .round round prompts → state.forwarded ≤ round) :
    ¬ next.NoneHanging := by
  refine not_noneHanging_of_lost h hnext hat (finishCount_of_called hsends.called) hforwarded
    fun other round prompts hround hget => ?_
  have hne : other ≠ id := by
    rintro rfl
    rw [hsends.get_self.1] at hget
    have hlater := hhandler round prompts (Option.some.inj hget)
    omega
  exact ⟨hne, (hsends.get_other hne).1.symm.trans hget⟩

theorem noneHanging_prompt_iff (h : Numbered state) (hnone : state.NoneHanging) (id : PromptId)
    (request : PromptRequest) (now : Int) :
    (state.step socketId (.prompt id request now)).NoneHanging ↔
      (HasRoom socketId state → ¬ state.RoundAt id) ∧ state.InTime now := by
  have hnext := @numbered_step socketId state (.prompt id request now) h
  unfold HasRoom
  rcases send_cases socketId state.adapter id request .other now with
    ⟨hfull, hsame⟩ | ⟨hroom, hcalled, hhandlers, hprompts⟩
  · rw [and_iff_right fun hroom => absurd hroom hfull]
    have hsame' : state.step socketId (.prompt id request now) = { state with clock := now } := by
      simp only [step, hsame]
    rw [hsame'] at hnext ⊢
    exact noneHanging_iff_of_kept h hnext hnone (fun _ => rfl) rfl (fun _ _ _ => Iff.rfl)
      fun _ _ => rfl
  · have hsends : Sends state (state.step socketId (.prompt id request now)) id .other
        (trackedPrompt socketId (request.payload id) now) := ⟨hcalled, hhandlers, hprompts⟩
    by_cases hat : state.RoundAt id
    · refine iff_of_false ?_ fun hkeeps => hkeeps.1 hroom hat
      exact hsends.not_noneHanging h hnext hat (Nat.le_refl _) fun _ _ heq => by cases heq
    · rw [and_iff_right fun _ => hat]
      refine noneHanging_iff_of_kept h hnext hnone (finishCount_of_called hsends.called) rfl
        (fun other round prompts => ?_) fun other hother => ?_
      · by_cases hid : other = id
        · rw [hid, hsends.get_self.1]
          exact iff_of_false (fun heq => by cases heq) fun hget => hat ⟨round, prompts, hget⟩
        · rw [(hsends.get_other hid).1]
      · have hid : other ≠ id := by
          rintro rfl
          exact hat hother
        exact (hsends.get_other hid).2

theorem timeoutAt_keyboardRequest (socketId : SocketId) (id : PromptId)
    (name instructions : JsString) (prompts : List KeyboardPrompt) (now : Int) :
    now ≤ (trackedPrompt socketId
      ((keyboardRequest name instructions prompts).payload id) now).timeoutAt := by
  have hms : (0 : Int) ≤ defaultPromptMs := by decide
  have htimeout : ((keyboardRequest name instructions prompts).payload id).timeout =
      some defaultPromptMs := rfl
  unfold trackedPrompt
  rw [htimeout]
  exact Int.le_add_of_nonneg_right hms

-- A round that was forwarded without room has no handler, and its `finish` is never called.
theorem not_noneHanging_of_full (h : Numbered state) (hnext : Numbered next)
    (hadapter : next.adapter = state.adapter) (hforwarded : next.forwarded = state.forwarded + 1) :
    ¬ next.NoneHanging := by
  intro hnone
  obtain ⟨hcomplete, _⟩ := (noneHanging_iff hnext).mp hnone
  have hzero : next.finishCount state.forwarded = 0 :=
    (finishCount_of_called (congrArg PromptAdapter.called hadapter) _).trans
      (h.known _ (Nat.le_refl _))
  obtain ⟨other, others, hother⟩ := hcomplete state.forwarded (by omega) hzero
  rw [hadapter] at hother
  have hless := (h.unanswered other _ others hother).1
  omega

theorem noneHanging_iff_of_forwarded (h : Numbered state) (hnext : Numbered next)
    (hnone : state.NoneHanging) {prompts : Nat}
    (hsends : Sends state next id (.round state.forwarded prompts) tracked)
    (hforwarded : next.forwarded = state.forwarded + 1) (hfree : ¬ state.RoundAt id)
    (htime : next.clock ≤ tracked.timeoutAt) : next.NoneHanging ↔ state.InTime next.clock := by
  obtain ⟨hcomplete, halive⟩ := (noneHanging_iff h).mp hnone
  have hne : ∀ other, state.RoundAt other → other ≠ id := by
    rintro _ hround rfl
    exact hfree hround
  have hat : ∀ other, other ≠ id → (next.RoundAt other ↔ state.RoundAt other) := by
    intro other hother
    unfold RoundAt
    rw [(hsends.get_other hother).1]
  rw [noneHanging_iff hnext]
  constructor
  · rintro ⟨_, halive'⟩ other prompt hround hget
    have hother := hne other hround
    obtain ⟨prompt', hget', htime'⟩ := halive' other ((hat other hother).mpr hround)
    rw [(hsends.get_other hother).2, hget] at hget'
    cases hget'
    exact htime'
  · intro hintime
    refine ⟨fun round hround hzero => ?_, fun other hround => ?_⟩
    · by_cases hlast : round = state.forwarded
      · rw [hlast]
        exact ⟨id, prompts, hsends.get_self.1⟩
      · rw [finishCount_of_called hsends.called] at hzero
        obtain ⟨other, others, hget⟩ := hcomplete round (by omega) hzero
        exact ⟨other, others, (hsends.get_other (hne other ⟨round, others, hget⟩)).1.trans hget⟩
    · by_cases hid : other = id
      · rw [hid]
        exact ⟨tracked, hsends.get_self.2, htime⟩
      · have hround' := (hat other hid).mp hround
        obtain ⟨prompt, hget, _⟩ := halive other hround'
        exact ⟨prompt, (hsends.get_other hid).2.trans hget, hintime other prompt hround' hget⟩

theorem noneHanging_forward_iff (h : Numbered state) (hnone : state.NoneHanging) (id : PromptId)
    (name instructions : JsString) (prompts : List KeyboardPrompt) (now : Int) :
    (state.step socketId (.forward id name instructions prompts now)).NoneHanging ↔
      HasRoom socketId state ∧ ¬ state.RoundAt id ∧ state.InTime now := by
  have hnext := @numbered_step socketId state (.forward id name instructions prompts now) h
  unfold HasRoom
  rcases send_cases socketId state.adapter id (keyboardRequest name instructions prompts)
    (.round state.forwarded prompts.length) now with
    ⟨hfull, hsame⟩ | ⟨hroom, hcalled, hhandlers, hprompts⟩
  · refine iff_of_false ?_ fun hkeeps => hfull hkeeps.1
    exact not_noneHanging_of_full h hnext hsame rfl
  · have hsends : Sends state (state.step socketId (.forward id name instructions prompts now)) id
        (.round state.forwarded prompts.length)
        (trackedPrompt socketId ((keyboardRequest name instructions prompts).payload id) now) :=
      ⟨hcalled, hhandlers, hprompts⟩
    rw [and_iff_right hroom]
    by_cases hat : state.RoundAt id
    · refine iff_of_false ?_ fun hkeeps => hkeeps.1 hat
      refine hsends.not_noneHanging h hnext hat (Nat.le_succ _) fun round others heq => ?_
      cases heq
      exact Nat.le_refl _
    · rw [and_iff_right hat]
      exact noneHanging_iff_of_forwarded h hnext hnone hsends rfl hat
        (timeoutAt_keyboardRequest socketId id name instructions prompts now)

theorem noneHanging_step_iff (socketId : SocketId) (state : RoundsState) (event : RoundsEvent)
    (h : Numbered state) (hnone : state.NoneHanging) :
    (state.step socketId event).NoneHanging ↔ KeepsRounds socketId state event := by
  cases event with
  | forward id name instructions prompts now =>
    exact noneHanging_forward_iff h hnone id name instructions prompts now
  | prompt id request now => exact noneHanging_prompt_iff h hnone id request now
  | response sender data now =>
    by_cases hsender : sender = socketId
    · simp only [step, PromptAdapter.step, if_pos hsender]
      exact noneHanging_settles_iff h hnone
        (PromptAdapter.settles_handlePromptResponse socketId state.adapter data now)
    · simp only [step, PromptAdapter.step, if_neg hsender]
      exact noneHanging_settles_iff h hnone (@PromptAdapter.Settles.refused _ _ now)
  | disconnect now => exact noneHanging_disconnect_iff h hnone now
  | wait now => exact noneHanging_settles_iff h hnone (@PromptAdapter.Settles.refused _ _ now)

end Waiting

theorem noneHanging_create (start : Int) : NoneHanging (create start) where
  once _ := Nat.zero_le 1
  waits round hround _ := absurd hround (Nat.not_lt_zero round)

-- No round hangs in a run exactly when none of its steps leaves one behind.
theorem noneHanging_throughout_iff (socketId : SocketId) (start : Int)
    (events : List RoundsEvent) :
    Throughout (step socketId) NoneHanging (create start) events ↔
      Along (step socketId) (KeepsRounds socketId) (create start) events :=
  throughout_iff_along (@numbered_step socketId) (noneHanging_step_iff socketId)
    (numbered_create start) (noneHanging_create start) events

-- A prompt that nobody answers in time keeps its handler, and `finish` is not called.
theorem expired_round_hangs :
    ¬ ∀ (socketId : SocketId) (start : Int) (events : List RoundsEvent),
      Throughout (step socketId) NoneHanging (create start) events := by
  intro h
  let waiting := (create 0).step (js "s") (.forward (js "one") [] [] passwordPrompts 0)
  obtain ⟨_, hwaiting, hlate⟩ := h (js "s") 0
    [.forward (js "one") [] [] passwordPrompts 0, .wait 300001]
  have hnumbered : Numbered waiting := numbered_step _ _ (numbered_create 0)
  have hintime := (noneHanging_step_iff (js "s") waiting (.wait 300001) hnumbered hwaiting).mp hlate
  have htime := hintime (js "one") _ ⟨0, 1, by decide⟩
    (OrderedMap.get_set_self _ _ _)
  revert htime
  decide

end RoundsState

end WebSsh2.Prompt

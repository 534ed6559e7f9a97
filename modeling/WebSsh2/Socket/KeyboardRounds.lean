import WebSsh2.Library.Run
import WebSsh2.Socket.Authentication

namespace WebSsh2.Socket

open WebSsh2.Library WebSsh2.Library.Run

-- A prompt as ssh2 passes it on, where `echo` may be missing.
structure ServerPrompt where
  prompt : JsString
  echo : Option Bool

structure ServerRound where
  name : JsString
  instructions : JsString
  prompts : List ServerPrompt

-- What the callback is given.
structure KeyboardRequest where
  name : JsString
  instructions : JsString
  prompts : List KeyboardPrompt

def normalizePrompt (prompt : ServerPrompt) : KeyboardPrompt where
  prompt := prompt.prompt
  echo := prompt.echo.getD false

def ServerRound.normalizedPrompts (round : ServerRound) : List KeyboardPrompt :=
  round.prompts.map normalizePrompt

def ServerRound.request (round : ServerRound) : KeyboardRequest where
  name := round.name
  instructions := round.instructions
  prompts := round.normalizedPrompts

-- A round with the request that went to the callback, if one did, and the arguments
-- of the calls of its `finish` so far.
structure RoundRecord where
  round : ServerRound
  callback : Option KeyboardRequest
  finished : List (List JsValue)

structure KeyboardSession where
  isFirstRound : Bool
  rounds : List RoundRecord

-- The server asks, or the client returns responses to a round that it was given.
inductive KeyboardEvent where
  | asked (round : ServerRound)
  | returned (index : Nat) (responses : List JsValue)

namespace KeyboardSession

def start : KeyboardSession where
  isFirstRound := true
  rounds := []

section Machine

variable (runtime : Runtime) (service : LoginConfig) (config : SSHConfig)

def openRound (round : ServerRound) : KeyboardAnswer → RoundRecord
  | .finish responses => { round := round, callback := none, finished := [responses] }
  | .forward prompts =>
    { round := round
      callback := some { round.request with prompts := prompts }
      finished := [] }

-- Only a round that was forwarded has a function the client can answer it with.
def returnResponses (responses : List JsValue) (record : RoundRecord) : RoundRecord :=
  match record.callback with
  | some _ => { record with finished := record.finished ++ [responses] }
  | none => record

def step (session : KeyboardSession) : KeyboardEvent → KeyboardSession
  | .asked round =>
    let (answer, isFirstRound) :=
      SshService.answerPrompts runtime service config session.isFirstRound round.normalizedPrompts
    { isFirstRound := isFirstRound, rounds := session.rounds ++ [openRound round answer] }
  | .returned index responses =>
    { session with rounds := session.rounds.modify index (returnResponses responses) }

end Machine

end KeyboardSession

def askedRounds (events : List KeyboardEvent) : List ServerRound :=
  events.filterMap fun
    | .asked round => some round
    | .returned _ _ => none

def eventsSince : Nat → List KeyboardEvent → List KeyboardEvent
  | _, [] => []
  | 0, .asked _ :: rest => rest
  | index + 1, .asked _ :: rest => eventsSince index rest
  | index, .returned _ _ :: rest => eventsSince index rest

-- What the client returned for a round, since the round was asked.
def returnedTo (index : Nat) (events : List KeyboardEvent) : List (List JsValue) :=
  (eventsSince index events).filterMap fun
    | .asked _ => none
    | .returned i responses => if i = index then some responses else none

section Bound

variable (runtime : Runtime) (service : LoginConfig) (config : SSHConfig)

def forwardsAll : Bool :=
  config.forwardAllPrompts || service.alwaysSendKeyboardInteractivePrompts

-- When the password goes out without anybody being asked.
structure AnswersItself (index : Nat) (prompts : List KeyboardPrompt) : Prop where
  first : index = 0
  notForwarding : forwardsAll service config = false
  nonempty : prompts ≠ []
  passwords : ∀ prompt ∈ prompts, SshService.asksPassword runtime prompt = true
  filled : isFilled config.password = true

instance (index : Nat) (prompts : List KeyboardPrompt) :
    Decidable (AnswersItself runtime service config index prompts) :=
  decidable_of_iff (index = 0 ∧ forwardsAll service config = false ∧ prompts ≠ [] ∧
      (∀ prompt ∈ prompts, SshService.asksPassword runtime prompt = true) ∧
      isFilled config.password = true)
    ⟨fun ⟨hfirst, hforward, hne, hall, hfilled⟩ => ⟨hfirst, hforward, hne, hall, hfilled⟩,
      fun ⟨hfirst, hforward, hne, hall, hfilled⟩ => ⟨hfirst, hforward, hne, hall, hfilled⟩⟩

variable (events : List KeyboardEvent) (index : Nat) (round : ServerRound)

-- A round as it stands after the events: answered without the client, or forwarded
-- and finished with what the client returned.
def roundAfter : RoundRecord :=
  if config.onKeyboardInteractive = false then
    { round := round
      callback := none
      finished := [SshService.handleFallbackResponse runtime config round.normalizedPrompts] }
  else if AnswersItself runtime service config index round.normalizedPrompts then
    { round := round
      callback := none
      finished := [round.normalizedPrompts.map fun _ => config.password] }
  else
    { round := round
      callback := some round.request
      finished := returnedTo index events }

variable {runtime service config}

theorem eventsSince_concat (events : List KeyboardEvent) (event : KeyboardEvent) :
    eventsSince index (events ++ [event]) =
      if index < (askedRounds events).length then eventsSince index events ++ [event] else [] := by
  induction events generalizing index with
  | nil =>
    cases event with
    | asked _ => cases index <;> rfl
    | returned _ _ => cases index <;> rfl
  | cons head rest ih =>
    cases head with
    | asked round =>
      cases index with
      | zero => rfl
      | succ index =>
        have hlength : (askedRounds (.asked round :: rest)).length =
            (askedRounds rest).length + 1 := rfl
        rw [List.cons_append, eventsSince, ih, hlength]
        simp only [Nat.add_lt_add_iff_right]
        rfl
    | returned i responses =>
      have hasked : askedRounds (.returned i responses :: rest) = askedRounds rest := rfl
      rw [hasked, List.cons_append]
      cases index with
      | zero => exact ih 0
      | succ index => exact ih (index + 1)

theorem returnedTo_asked {index : Nat} {events : List KeyboardEvent}
    (h : index < (askedRounds events).length) :
    returnedTo index (events ++ [.asked round]) = returnedTo index events := by
  unfold returnedTo
  rw [eventsSince_concat, if_pos h, List.filterMap_append]
  exact List.append_nil _

theorem returnedTo_new (event : KeyboardEvent) :
    returnedTo (askedRounds events).length (events ++ [event]) = [] := by
  unfold returnedTo
  rw [eventsSince_concat, if_neg (Nat.lt_irrefl _)]
  rfl

theorem returnedTo_returned {index : Nat} {events : List KeyboardEvent} (i : Nat)
    (responses : List JsValue) (h : index < (askedRounds events).length) :
    returnedTo index (events ++ [.returned i responses]) =
      if i = index then returnedTo index events ++ [responses] else returnedTo index events := by
  unfold returnedTo
  rw [eventsSince_concat, if_pos h, List.filterMap_append]
  by_cases hindex : i = index
  · rw [if_pos hindex]
    simp [hindex]
  · rw [if_neg hindex]
    simp [hindex]

theorem answersItself_iff (first : Bool) (index : Nat) (prompts : List KeyboardPrompt)
    (hfirst : first = decide (index = 0)) :
    (first && !forwardsAll service config && prompts ≠ [] &&
        prompts.all (SshService.asksPassword runtime) && isFilled config.password) = true ↔
      AnswersItself runtime service config index prompts := by
  simp only [hfirst, Bool.and_eq_true, decide_eq_true_eq, Bool.not_eq_true', List.all_eq_true]
  constructor
  · rintro ⟨⟨⟨⟨hzero, hforward⟩, hne⟩, hall⟩, hfilled⟩
    exact ⟨hzero, hforward, hne, hall, hfilled⟩
  · intro h
    exact ⟨⟨⟨⟨h.first, h.notForwarding⟩, h.nonempty⟩, h.passwords⟩, h.filled⟩

-- What becomes of a round when it is asked.
theorem openRound_answerPrompts (events : List KeyboardEvent) (first : Bool) (index : Nat)
    (round : ServerRound)
    (hfirst : config.onKeyboardInteractive = true → first = decide (index = 0))
    (hnone : returnedTo index events = []) :
    KeyboardSession.openRound round
        (SshService.answerPrompts runtime service config first round.normalizedPrompts).1 =
      roundAfter runtime service config events index round := by
  unfold SshService.answerPrompts roundAfter
  cases hcallback : config.onKeyboardInteractive with
  | false => rfl
  | true =>
    have hiff := @answersItself_iff runtime service config first index round.normalizedPrompts
      (hfirst hcallback)
    unfold forwardsAll at hiff
    dsimp only
    by_cases hitself : AnswersItself runtime service config index round.normalizedPrompts
    · rw [if_neg (by simp), if_pos (hiff.mpr hitself), if_neg (by simp), if_pos hitself]
      rfl
    · rw [if_neg (by simp), if_neg (mt hiff.mp hitself), if_neg (by simp), if_neg hitself, hnone]
      rfl

theorem answerPrompts_flag (first : Bool) (prompts : List KeyboardPrompt) :
    (SshService.answerPrompts runtime service config first prompts).2 =
      (!config.onKeyboardInteractive && first) := by
  unfold SshService.answerPrompts
  cases config.onKeyboardInteractive with
  | false => rfl
  | true =>
    dsimp only
    split
    · rename_i h
      cases h
    · split <;> rfl

theorem askedRounds_asked :
    askedRounds (events ++ [.asked round]) = askedRounds events ++ [round] := by
  unfold askedRounds
  rw [List.filterMap_append]
  rfl

theorem askedRounds_returned (responses : List JsValue) :
    askedRounds (events ++ [.returned index responses]) = askedRounds events := by
  unfold askedRounds
  rw [List.filterMap_append]
  exact List.append_nil _

-- Responses reach the round they are for, and no other one.
theorem returnResponses_roundAfter (i index : Nat) (responses : List JsValue) (round : ServerRound)
    (h : index < (askedRounds events).length) :
    (if i = index then
        KeyboardSession.returnResponses responses
          (roundAfter runtime service config events index round)
      else roundAfter runtime service config events index round) =
      roundAfter runtime service config (events ++ [.returned i responses]) index round := by
  unfold roundAfter
  rw [returnedTo_returned i responses h]
  by_cases hindex : i = index
  · rw [if_pos hindex, if_pos hindex]
    split
    · rfl
    · split <;> rfl
  · rw [if_neg hindex, if_neg hindex]

theorem roundAfter_asked (round asked : ServerRound) (h : index < (askedRounds events).length) :
    roundAfter runtime service config (events ++ [.asked asked]) index round =
      roundAfter runtime service config events index round := by
  unfold roundAfter
  rw [returnedTo_asked asked h]

-- The session after a run: every round as the events have left it, and the flag taken
-- by the first round of a connection with a callback.
theorem run_keyboardSession :
    run (KeyboardSession.step runtime service config) .start events =
      { isFirstRound := !config.onKeyboardInteractive || decide (askedRounds events = [])
        rounds := (askedRounds events).mapIdx (roundAfter runtime service config events) } := by
  induction events using List.reverseRecOn with
  | nil => simp [KeyboardSession.start, askedRounds]
  | append_singleton events event ih =>
    rw [run_append, ih, run_cons, run_nil]
    cases event with
    | asked round =>
      have hold : (askedRounds events).mapIdx (roundAfter runtime service config events) =
          (askedRounds events).mapIdx
            (roundAfter runtime service config (events ++ [.asked round])) := by
        apply List.mapIdx_eq_mapIdx_iff.mpr
        intro index hindex
        exact (roundAfter_asked events index _ round hindex).symm
      have hflag : config.onKeyboardInteractive = true →
          (!config.onKeyboardInteractive || decide (askedRounds events = [])) =
            decide ((askedRounds events).length = 0) := by
        intro hcallback
        rw [hcallback]
        simp
      have hnew := @openRound_answerPrompts runtime service config (events ++ [.asked round]) _
        (askedRounds events).length round hflag (returnedTo_new events _)
      rw [askedRounds_asked, List.mapIdx_append, ← hold]
      unfold KeyboardSession.step
      dsimp only
      rw [answerPrompts_flag, hnew]
      cases config.onKeyboardInteractive <;> simp
    | returned index responses =>
      rw [askedRounds_returned]
      unfold KeyboardSession.step
      dsimp only
      congr 1
      apply List.ext_getElem
      · simp
      · intro i hi hi'
        rw [List.getElem_modify, List.getElem_mapIdx, List.getElem_mapIdx]
        rw [List.length_mapIdx] at hi'
        exact returnResponses_roundAfter events index i responses _ hi'

theorem handleFallbackResponse_only {prompts : List KeyboardPrompt} {i : Nat} {response : JsValue}
    (h : (SshService.handleFallbackResponse runtime config prompts)[i]? = some response)
    (hne : response ≠ some (.string [])) :
    ∃ prompt, prompts[i]? = some prompt ∧ SshService.asksPassword runtime prompt = true ∧
      response = config.password := by
  unfold SshService.handleFallbackResponse at h
  split at h
  · rw [List.getElem?_map, Option.map_eq_some_iff] at h
    obtain ⟨prompt, hprompt, hresponse⟩ := h
    split at hresponse
    · rename_i hasks
      exact ⟨prompt, hprompt, hasks, hresponse.symm⟩
    · exact absurd hresponse.symm hne
  · simp at h

end Bound

section Sessions

variable (runtime : Runtime) (service : LoginConfig) (config : SSHConfig)

def keyboardSession (events : List KeyboardEvent) : KeyboardSession :=
  run (KeyboardSession.step runtime service config) .start events

theorem getElem?_keyboardSession (events : List KeyboardEvent) (index : Nat) :
    (keyboardSession runtime service config events).rounds[index]? =
      (askedRounds events)[index]?.map (roundAfter runtime service config events index) := by
  unfold keyboardSession
  rw [run_keyboardSession, List.getElem?_mapIdx]

-- Over every run: with a callback the password goes out by itself in the first round
-- only, and every other round is forwarded and finished with what the client returned;
-- without one it answers prompts for a password only.
theorem keyboardSession_bounded (events : List KeyboardEvent) (index : Nat) :
    (keyboardSession runtime service config events).rounds[index]?.map RoundRecord.round =
        (askedRounds events)[index]? ∧
      ∀ record, (keyboardSession runtime service config events).rounds[index]? = some record →
        (config.onKeyboardInteractive = true →
          AnswersItself runtime service config index record.round.normalizedPrompts →
            record.callback = none ∧
              record.finished = [record.round.normalizedPrompts.map fun _ => config.password]) ∧
        (config.onKeyboardInteractive = true →
          ¬AnswersItself runtime service config index record.round.normalizedPrompts →
            record.callback = some record.round.request ∧
              record.finished = returnedTo index events) ∧
        (config.onKeyboardInteractive = false →
          record.callback = none ∧
            ∃ responses : List JsValue, record.finished = [responses] ∧
              ∀ (i : Nat) response, responses[i]? = some response →
                response ≠ some (.string []) →
                  ∃ prompt, record.round.normalizedPrompts[i]? = some prompt ∧
                    SshService.asksPassword runtime prompt = true ∧
                    response = config.password) := by
  have hround : ∀ round,
      (roundAfter runtime service config events index round).round = round := by
    intro round
    unfold roundAfter
    split
    · rfl
    · split <;> rfl
  rw [getElem?_keyboardSession]
  constructor
  · rw [Option.map_map]
    cases (askedRounds events)[index]? with
    | none => rfl
    | some round => exact congrArg some (hround round)
  · intro record hrecord
    obtain ⟨round, _, rfl⟩ := Option.map_eq_some_iff.mp hrecord
    rw [hround round]
    unfold roundAfter
    refine ⟨?_, ?_, ?_⟩
    · intro hcallback hitself
      rw [hcallback, if_neg (by simp), if_pos hitself]
      exact ⟨rfl, rfl⟩
    · intro hcallback hitself
      rw [hcallback, if_neg (by simp), if_neg hitself]
      exact ⟨rfl, rfl⟩
    · intro hcallback
      rw [if_pos hcallback]
      exact ⟨rfl, _, rfl, fun _ _ hresponse hne => handleFallbackResponse_only hresponse hne⟩

end Sessions

def passwordRound : ServerRound where
  name := []
  instructions := []
  prompts := [{ prompt := js "Password: ", echo := some false }]

-- The server asks for the password twice: the second time it gets what the client returns.
theorem keyboardSession_bounded_twice :
    (keyboardSession asciiRuntime (loginConfig []) (connectSSH (passwordFields (js "secret")) []
        (loginConfig [])) [.asked passwordRound, .asked passwordRound,
          .returned 1 [some (.string (js "other"))]]).rounds.map RoundRecord.finished =
      [[[some (.string (js "secret"))]], [[some (.string (js "other"))]]] := by
  have hfirst := (keyboardSession_bounded asciiRuntime (loginConfig [])
    (connectSSH (passwordFields (js "secret")) [] (loginConfig [])) [.asked passwordRound,
      .asked passwordRound, .returned 1 [some (.string (js "other"))]] 0).2 _ rfl
  have hsecond := (keyboardSession_bounded asciiRuntime (loginConfig [])
    (connectSSH (passwordFields (js "secret")) [] (loginConfig [])) [.asked passwordRound,
      .asked passwordRound, .returned 1 [some (.string (js "other"))]] 1).2 _ rfl
  have hone := (hfirst.1 rfl (by decide)).2
  have htwo := (hsecond.2.1 rfl (by decide)).2
  show [_, _] = _
  rw [hone, htwo]
  rfl

end WebSsh2.Socket

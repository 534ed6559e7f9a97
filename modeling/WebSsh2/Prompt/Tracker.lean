import WebSsh2.Library.OrderedMap
import WebSsh2.Prompt.Validator

namespace WebSsh2.Prompt

open WebSsh2.Library

abbrev SocketId := JsString

structure TrackedPrompt where
  id : PromptId
  socketId : SocketId
  payload : PromptPayload
  createdAt : Int
  timeoutAt : Int
  expectedButtons : List JsString
  expectedInputs : List JsString
deriving DecidableEq

structure PromptTracker where
  promptsById : OrderedMap PromptId TrackedPrompt
  promptsBySocket : OrderedMap SocketId (List PromptId)

def createPromptTracker : PromptTracker where
  promptsById := .empty
  promptsBySocket := .empty

def trackedPrompt (socketId : SocketId) (payload : PromptPayload) (now : Int) : TrackedPrompt where
  id := payload.id
  socketId := socketId
  payload := payload
  createdAt := now
  timeoutAt := now + payload.timeout.getD defaultPromptMs
  expectedButtons := (payload.buttons.getD []).map (·.action)
  expectedInputs := (payload.inputs.getD []).map (·.id)

namespace PromptTracker

-- The ids of a socket; there is no entry for a socket without any.
def socketPrompts (tracker : PromptTracker) (socketId : SocketId) : List PromptId :=
  (tracker.promptsBySocket.get socketId).getD []

def getPendingCount (tracker : PromptTracker) (socketId : SocketId) : Nat :=
  (tracker.socketPrompts socketId).length

def get (tracker : PromptTracker) (promptId : PromptId) : Option TrackedPrompt :=
  tracker.promptsById.get promptId

def track (tracker : PromptTracker) (socketId : SocketId) (payload : PromptPayload) (now : Int) :
    Except JsString PromptTracker :=
  if maxPendingPromptsPerSocket ≤ tracker.getPendingCount socketId then
    .error (js "Too many pending prompts (max 10)")
  else
    let socketPrompts := tracker.socketPrompts socketId
    .ok {
      promptsById := tracker.promptsById.set payload.id (trackedPrompt socketId payload now)
      promptsBySocket := tracker.promptsBySocket.set socketId
        (if payload.id ∈ socketPrompts then socketPrompts else socketPrompts ++ [payload.id]) }

def remove (tracker : PromptTracker) (promptId : PromptId) : PromptTracker :=
  match tracker.promptsById.get promptId with
  | none => tracker
  | some tracked =>
    { promptsById := tracker.promptsById.delete promptId
      promptsBySocket :=
        match tracker.promptsBySocket.get tracked.socketId with
        | none => tracker.promptsBySocket
        | some socketPrompts =>
          let rest := socketPrompts.filter (· ≠ promptId)
          if rest.length = 0 then
            tracker.promptsBySocket.delete tracked.socketId
          else
            tracker.promptsBySocket.set tracked.socketId rest }

-- The check, and the tracker without the prompt where it has expired.
def validate (tracker : PromptTracker) (socketId : SocketId) (promptId : PromptId) (now : Int) :
    PromptTracker × Except JsString TrackedPrompt :=
  match tracker.promptsById.get promptId with
  | none => (tracker, .error (js "Unknown or already responded prompt ID"))
  | some tracked =>
    if tracked.socketId ≠ socketId then
      (tracker, .error (js "Prompt ID does not belong to this socket"))
    else if tracked.timeoutAt < now then
      (tracker.remove promptId, .error (js "Prompt has expired"))
    else
      (tracker, .ok tracked)

def removeAllForSocket (tracker : PromptTracker) (socketId : SocketId) : PromptTracker :=
  match tracker.promptsBySocket.get socketId with
  | none => tracker
  | some socketPrompts =>
    { promptsById := socketPrompts.foldl (·.delete ·) tracker.promptsById
      promptsBySocket := tracker.promptsBySocket.delete socketId }

section Operations

variable {tracker next : PromptTracker} {socketId : SocketId}

theorem track_eq_ok_iff {payload : PromptPayload} {now : Int} :
    tracker.track socketId payload now = .ok next ↔
      tracker.getPendingCount socketId < maxPendingPromptsPerSocket ∧
        next = {
          promptsById := tracker.promptsById.set payload.id (trackedPrompt socketId payload now)
          promptsBySocket := tracker.promptsBySocket.set socketId
            (if payload.id ∈ tracker.socketPrompts socketId then tracker.socketPrompts socketId
              else tracker.socketPrompts socketId ++ [payload.id]) } := by
  unfold track
  by_cases hfull : maxPendingPromptsPerSocket ≤ tracker.getPendingCount socketId
  · rw [if_pos hfull]
    refine iff_of_false (fun h => by cases h) fun h => ?_
    omega
  · rw [if_neg hfull]
    refine ⟨fun h => ⟨by omega, (Except.ok.inj h).symm⟩, fun h => ?_⟩
    rw [h.2]

theorem get_remove (tracker : PromptTracker) (promptId id : PromptId) :
    (tracker.remove promptId).promptsById.get id =
      if promptId = id then none else tracker.promptsById.get id := by
  unfold remove
  cases htracked : tracker.promptsById.get promptId with
  | none =>
    by_cases hid : promptId = id
    · rw [if_pos hid, ← hid]
      exact htracked
    · rw [if_neg hid]
  | some tracked =>
    dsimp only
    rw [OrderedMap.get_delete]

theorem socketPrompts_remove {promptId : PromptId} {tracked : TrackedPrompt}
    (htracked : tracker.promptsById.get promptId = some tracked) (socketId : SocketId) :
    (tracker.remove promptId).socketPrompts socketId =
      if tracked.socketId = socketId then
        (tracker.socketPrompts socketId).filter (· ≠ promptId)
      else
        tracker.socketPrompts socketId := by
  unfold remove socketPrompts
  rw [htracked]
  dsimp only
  cases hprompts : tracker.promptsBySocket.get tracked.socketId with
  | none =>
    dsimp only
    split
    · rename_i hsocket
      rw [← hsocket, hprompts]
      rfl
    · rfl
  | some prompts =>
    dsimp only
    by_cases hlength : (prompts.filter (· ≠ promptId)).length = 0
    · rw [if_pos hlength, OrderedMap.get_delete]
      split
      · rename_i hsocket
        rw [← hsocket, hprompts]
        exact (List.length_eq_zero_iff.mp hlength).symm
      · rfl
    · rw [if_neg hlength, OrderedMap.get_set]
      split
      · rename_i hsocket
        rw [← hsocket, hprompts]
        rfl
      · rfl

theorem mem_socketPrompts_remove {promptId id : PromptId} (hne : id ≠ promptId)
    (h : id ∈ tracker.socketPrompts socketId) :
    id ∈ (tracker.remove promptId).socketPrompts socketId := by
  cases htracked : tracker.promptsById.get promptId with
  | none =>
    unfold remove
    rw [htracked]
    exact h
  | some tracked =>
    rw [socketPrompts_remove htracked]
    split
    · rw [List.mem_filter]
      exact ⟨h, decide_eq_true hne⟩
    · exact h

theorem get_foldl_delete (ids : List PromptId) (prompts : OrderedMap PromptId TrackedPrompt)
    (id : PromptId) :
    (ids.foldl (·.delete ·) prompts).get id = if id ∈ ids then none else prompts.get id := by
  induction ids generalizing prompts with
  | nil => simp
  | cons head rest ih =>
    rw [List.foldl_cons, ih, OrderedMap.get_delete]
    by_cases hrest : id ∈ rest
    · simp [hrest]
    · by_cases hhead : head = id
      · simp [hhead]
      · simp [hrest, hhead, Ne.symm hhead]

theorem get_removeAllForSocket (tracker : PromptTracker) (socketId : SocketId) (id : PromptId) :
    (tracker.removeAllForSocket socketId).promptsById.get id =
      if id ∈ tracker.socketPrompts socketId then none else tracker.promptsById.get id := by
  unfold removeAllForSocket socketPrompts
  cases tracker.promptsBySocket.get socketId with
  | none => rfl
  | some prompts => exact get_foldl_delete prompts _ id

end Operations

end PromptTracker

end WebSsh2.Prompt

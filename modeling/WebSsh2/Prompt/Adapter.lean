import WebSsh2.Library.Run
import WebSsh2.Prompt.Tracker

namespace WebSsh2.Prompt

open WebSsh2.Library WebSsh2.Library.Run

-- The action and the inputs of a response, looked at for the prompt it names.
def validateForPrompt (response : PromptResponse) (payload : PromptPayload) :
    Except JsString Unit :=
  let actionResult : Except JsString Unit := match payload.buttons with
    | none | some [] => .ok ()
    | some buttons => validateResponseAction response.action buttons
  match actionResult with
  | .error message => .error message
  | .ok () => validateResponseInputKeys response.inputs payload.inputs

-- The adapter of one socket, with the calls of the handlers. `η` names the handlers.
structure PromptAdapter (η : Type) where
  tracker : PromptTracker
  responseHandlers : OrderedMap PromptId η
  called : List (η × PromptResponse)

namespace PromptAdapter

variable {η : Type}

def create : PromptAdapter η where
  tracker := createPromptTracker
  responseHandlers := .empty
  called := []

section Adapter

variable (socketId : SocketId)

-- The prompts that were sent are the ones that have been tracked.
def sendPrompt (adapter : PromptAdapter η) (payload : PromptPayload) (onResponse : η)
    (now : Int) : PromptAdapter η × Option PromptId :=
  match adapter.tracker.track socketId payload now with
  | .error _ => (adapter, none)
  | .ok tracker =>
    ({ adapter with
        tracker
        responseHandlers := adapter.responseHandlers.set payload.id onResponse },
      some payload.id)

def handlePromptResponse (adapter : PromptAdapter η) (data : JsValue) (now : Int) :
    PromptAdapter η :=
  match validatePromptResponse data with
  | .error _ => adapter
  | .ok response =>
    match adapter.tracker.validate socketId response.id now with
    | (tracker, .error _) => { adapter with tracker }
    | (tracker, .ok tracked) =>
      let checked := { adapter with tracker }
      match validateForPrompt response tracked.payload with
      | .error _ => checked
      | .ok () =>
        let removed := { checked with tracker := checked.tracker.remove response.id }
        match removed.responseHandlers.get response.id with
        | none => removed
        | some handler =>
          { removed with
            responseHandlers := removed.responseHandlers.delete response.id
            called := removed.called ++ [(handler, response)] }

def handleDisconnect (adapter : PromptAdapter η) : PromptAdapter η :=
  { adapter with
    tracker := adapter.tracker.removeAllForSocket socketId
    responseHandlers := .empty }

end Adapter

end PromptAdapter

-- A prompt that waits for an answer: what `sendInputPrompt`, `sendConfirmPrompt` and
-- `sendNoticePrompt` are given.
inductive PromptRequest where
  | input (options : InputPromptOptions)
  | confirm (options : ConfirmPromptOptions)
  | notice (options : NoticePromptOptions)

def PromptRequest.payload (id : PromptId) : PromptRequest → PromptPayload
  | .input options => createInputPrompt id options
  | .confirm options => createConfirmPrompt id options
  | .notice options => createNoticePrompt id options

theorem payload_id (id : PromptId) (request : PromptRequest) : (request.payload id).id = id := by
  cases request <;> rfl

-- What happens to the adapters: a prompt with its random id, a response from some
-- socket, the end of the socket, and time that passes.
inductive PromptEvent (η : Type) where
  | send (id : PromptId) (request : PromptRequest) (onResponse : η) (now : Int)
  | response (sender : SocketId) (data : JsValue) (now : Int)
  | disconnect (now : Int)
  | wait (now : Int)

namespace PromptAdapter

variable {η : Type}

-- Each socket has an adapter of its own, so that a response from another socket
-- does not come here.
def step (socketId : SocketId) (adapter : PromptAdapter η) : PromptEvent η → PromptAdapter η
  | .send id request onResponse now =>
    (adapter.sendPrompt socketId (request.payload id) onResponse now).1
  | .response sender data now =>
    if sender = socketId then adapter.handlePromptResponse socketId data now else adapter
  | .disconnect _ => adapter.handleDisconnect socketId
  | .wait _ => adapter

section Responses

variable {socketId : SocketId} {adapter : PromptAdapter η} {data : JsValue} {now : Int}

-- A response that passes every check settles its prompt.
theorem handlePromptResponse_of_accepted {response : PromptResponse} {tracked : TrackedPrompt}
    {handler : η} (hresponse : validatePromptResponse data = .ok response)
    (htracked : adapter.tracker.promptsById.get response.id = some tracked)
    (hsocket : tracked.socketId = socketId) (htime : now ≤ tracked.timeoutAt)
    (hchecks : validateForPrompt response tracked.payload = .ok ())
    (hhandler : adapter.responseHandlers.get response.id = some handler) :
    adapter.handlePromptResponse socketId data now =
      { tracker := adapter.tracker.remove response.id
        responseHandlers := adapter.responseHandlers.delete response.id
        called := adapter.called ++ [(handler, response)] } := by
  have hexpired : ¬ tracked.timeoutAt < now := by omega
  simp [handlePromptResponse, hresponse, PromptTracker.validate, htracked, hsocket, hexpired,
    hchecks, hhandler]

-- A response that fails a check of its prompt leaves everything as it is.
theorem handlePromptResponse_of_refused {response : PromptResponse} {tracked : TrackedPrompt}
    {message : JsString} (hresponse : validatePromptResponse data = .ok response)
    (htracked : adapter.tracker.promptsById.get response.id = some tracked)
    (hsocket : tracked.socketId = socketId) (htime : now ≤ tracked.timeoutAt)
    (hchecks : validateForPrompt response tracked.payload = .error message) :
    adapter.handlePromptResponse socketId data now = adapter := by
  have hexpired : ¬ tracked.timeoutAt < now := by omega
  simp [handlePromptResponse, hresponse, PromptTracker.validate, htracked, hsocket, hexpired,
    hchecks]

-- All that a response can do: nothing, the removal of an expired prompt, or the end of
-- a prompt with a call of its handler, if there is one.
inductive Settles (adapter : PromptAdapter η) (now : Int) : PromptAdapter η → Prop where
  | refused : Settles adapter now adapter
  | expired (tracked : TrackedPrompt) (id : PromptId)
      (htracked : adapter.tracker.promptsById.get id = some tracked)
      (htime : tracked.timeoutAt < now) :
      Settles adapter now { adapter with tracker := adapter.tracker.remove id }
  | unheard (response : PromptResponse)
      (hhandler : adapter.responseHandlers.get response.id = none) :
      Settles adapter now { adapter with tracker := adapter.tracker.remove response.id }
  | answered (tracked : TrackedPrompt) (handler : η) (response : PromptResponse)
      (htracked : adapter.tracker.promptsById.get response.id = some tracked)
      (htime : now ≤ tracked.timeoutAt)
      (hhandler : adapter.responseHandlers.get response.id = some handler) :
      Settles adapter now
        { tracker := adapter.tracker.remove response.id
          responseHandlers := adapter.responseHandlers.delete response.id
          called := adapter.called ++ [(handler, response)] }

theorem settles_handlePromptResponse (socketId : SocketId) (adapter : PromptAdapter η)
    (data : JsValue) (now : Int) :
    Settles adapter now (adapter.handlePromptResponse socketId data now) := by
  unfold handlePromptResponse
  cases validatePromptResponse data with
  | error message => exact .refused
  | ok response =>
    cases htracked : adapter.tracker.promptsById.get response.id with
    | none =>
      simp only [PromptTracker.validate, htracked]
      exact .refused
    | some tracked =>
      by_cases hsocket : tracked.socketId = socketId
      · by_cases hexpired : tracked.timeoutAt < now
        · simp only [PromptTracker.validate, htracked, hsocket, ne_eq, not_true_eq_false,
            if_false, hexpired, if_true]
          exact .expired tracked response.id htracked hexpired
        · simp only [PromptTracker.validate, htracked, hsocket, ne_eq, not_true_eq_false,
            if_false, hexpired]
          cases validateForPrompt response tracked.payload with
          | error message => exact .refused
          | ok _ =>
            cases hhandler : adapter.responseHandlers.get response.id with
            | none => exact .unheard response hhandler
            | some handler =>
              exact .answered tracked handler response htracked (by omega) hhandler
      · simp only [PromptTracker.validate, htracked, ne_eq, hsocket, not_false_eq_true,
          if_true]
        exact .refused

end Responses

end PromptAdapter

end WebSsh2.Prompt

import WebSsh2.Prompt.Adapter

namespace WebSsh2.Prompt

open WebSsh2.Library WebSsh2.Library.Run

namespace PromptAdapter

variable {η : Type}

section Registration

-- A tracked prompt is one that was sent, under its socket, and has a handler.
structure RegisteredAs (socketId : SocketId) (adapter : PromptAdapter η) (id : PromptId)
    (tracked : TrackedPrompt) : Prop where
  owner : tracked.socketId = socketId
  listed : id ∈ adapter.tracker.socketPrompts socketId
  sent : ∃ request : PromptRequest, tracked.payload = request.payload id
  handler : ∃ handler, adapter.responseHandlers.get id = some handler

def Registered (socketId : SocketId) (adapter : PromptAdapter η) : Prop :=
  ∀ id tracked, adapter.tracker.promptsById.get id = some tracked →
    RegisteredAs socketId adapter id tracked

variable {socketId : SocketId} {adapter : PromptAdapter η}

theorem registered_send (h : Registered socketId adapter) (id : PromptId)
    (request : PromptRequest) (onResponse : η) (now : Int) :
    Registered socketId (adapter.sendPrompt socketId (request.payload id) onResponse now).1 := by
  unfold sendPrompt
  cases htrack : adapter.tracker.track socketId (request.payload id) now with
  | error message => exact h
  | ok tracker =>
    obtain ⟨_, rfl⟩ := PromptTracker.track_eq_ok_iff.mp htrack
    intro other tracked htracked
    dsimp only at htracked
    rw [OrderedMap.get_set, payload_id] at htracked
    by_cases hid : id = other
    · subst hid
      rw [if_pos rfl] at htracked
      cases htracked
      refine ⟨rfl, ?_, ⟨request, rfl⟩, onResponse, ?_⟩
      · unfold PromptTracker.socketPrompts
        rw [OrderedMap.get_set_self, Option.getD_some, payload_id]
        split
        · assumption
        · exact List.mem_append_right _ List.mem_cons_self
      · dsimp only
        rw [payload_id, OrderedMap.get_set_self]
    · rw [if_neg hid] at htracked
      have hother := h other tracked htracked
      obtain ⟨handler, hhandler⟩ := hother.handler
      refine ⟨hother.owner, ?_, hother.sent, handler, ?_⟩
      · have hlisted := hother.listed
        unfold PromptTracker.socketPrompts at hlisted ⊢
        rw [OrderedMap.get_set_self, Option.getD_some]
        split
        · exact hlisted
        · exact List.mem_append_left _ hlisted
      · dsimp only
        rw [payload_id, OrderedMap.get_set, if_neg hid]
        exact hhandler

-- What is left after a prompt is removed is registered, if its handler is.
theorem registered_remove (h : Registered socketId adapter) (id : PromptId)
    {next : PromptAdapter η} (htracker : next.tracker = adapter.tracker.remove id)
    (hhandlers : ∀ other, other ≠ id →
      next.responseHandlers.get other = adapter.responseHandlers.get other) :
    Registered socketId next := by
  intro other tracked htracked
  rw [htracker, PromptTracker.get_remove] at htracked
  by_cases hid : id = other
  · rw [if_pos hid] at htracked
    cases htracked
  · rw [if_neg hid] at htracked
    have hother := h other tracked htracked
    obtain ⟨handler, hhandler⟩ := hother.handler
    refine ⟨hother.owner, ?_, hother.sent, handler, ?_⟩
    · rw [htracker]
      exact PromptTracker.mem_socketPrompts_remove (Ne.symm hid) hother.listed
    · rw [hhandlers other (Ne.symm hid)]
      exact hhandler

theorem registered_settles {next : PromptAdapter η} {now : Int} (h : Registered socketId adapter)
    (hsettles : Settles adapter now next) : Registered socketId next := by
  cases hsettles with
  | refused => exact h
  | expired tracked id _ _ => exact registered_remove h id rfl fun _ _ => rfl
  | unheard response _ => exact registered_remove h response.id rfl fun _ _ => rfl
  | answered tracked handler response _ _ _ =>
    refine registered_remove h response.id rfl fun other hother => ?_
    dsimp only
    rw [OrderedMap.get_delete, if_neg (Ne.symm hother)]

theorem registered_step (adapter : PromptAdapter η) (event : PromptEvent η)
    (h : Registered socketId adapter) : Registered socketId (adapter.step socketId event) := by
  cases event with
  | send id request onResponse now => exact registered_send h id request onResponse now
  | response sender data now =>
    by_cases hsender : sender = socketId
    · rw [step, if_pos hsender]
      exact registered_settles h (settles_handlePromptResponse socketId adapter data now)
    · rw [step, if_neg hsender]
      exact h
  | disconnect now =>
    intro id tracked htracked
    simp only [step, handleDisconnect, PromptTracker.get_removeAllForSocket] at htracked
    by_cases hlisted : id ∈ adapter.tracker.socketPrompts socketId
    · rw [if_pos hlisted] at htracked
      cases htracked
    · rw [if_neg hlisted] at htracked
      exact absurd (h id tracked htracked).listed hlisted
  | wait now => exact h

theorem registered_run (socketId : SocketId) (events : List (PromptEvent η)) :
    Registered socketId (run (step socketId) create events) :=
  invariant_of_step (fun _ _ h => by cases h) registered_step events

end Registration

end PromptAdapter

section Validation

-- An action that ends a prompt without what it asks for.
def NonSubmit (payload : PromptPayload) (action : JsString) : Prop :=
  action = js "dismissed" ∨ action = js "timeout" ∨
    action = js "cancel" ∧ ∃ button ∈ payload.buttons.getD [], button.action = action

-- A response to the prompt with this action and no inputs: none at all, or none in
-- an object.
structure RespondsWithout (fields : List (JsString × JsonValue)) (id : PromptId)
    (action : JsString) : Prop where
  names : Json.lookup (js "id") fields = some (.string id)
  wellFormed : isPromptId (some (.string id)) = some id
  acts : Json.lookup (js "action") fields = some (.string action)
  without : Json.lookup (js "inputs") fields = none ∨
    Json.lookup (js "inputs") fields = some .null ∨
    Json.lookup (js "inputs") fields = some (.object [])

-- The inputs that the response is read with.
def givenInputs (fields : List (JsString × JsonValue)) : Option (List (JsString × JsString)) :=
  if Json.lookup (js "inputs") fields = some (.object []) then some [] else none

variable {payload : PromptPayload} {action : JsString}

theorem validateAction_nonSubmit (h : NonSubmit payload action) :
    validateAction (some (.string action)) = .ok action := by
  rcases h with rfl | rfl | ⟨rfl, _⟩ <;> decide

theorem validatePromptResponse_of_respondsWithout {fields : List (JsString × JsonValue)}
    {id : PromptId} (h : RespondsWithout fields id action) (haction : NonSubmit payload action) :
    validatePromptResponse (some (.object fields)) =
      .ok { id, action, inputs := givenInputs fields } := by
  unfold validatePromptResponse givenInputs
  dsimp only
  rw [h.names, h.wellFormed]
  dsimp only
  rw [h.acts, validateAction_nonSubmit haction]
  dsimp only
  rcases h.without with hinputs | hinputs | hinputs
  · simp [hinputs]
  · simp [hinputs]
  · simp [hinputs, validateResponseInputs, validateInputEntries, maxInputs]

theorem validateResponseAction_nonSubmit (h : NonSubmit payload action) :
    validateResponseAction action (payload.buttons.getD []) = .ok () := by
  have hmem : action ∈ ((payload.buttons.getD []).map (·.action) ++
      [js "dismissed", js "timeout"]).eraseDups := by
    rw [List.mem_eraseDups, List.mem_append]
    rcases h with rfl | rfl | ⟨_, button, hbutton, hoffered⟩
    · exact .inr List.mem_cons_self
    · exact .inr (List.mem_cons_of_mem _ List.mem_cons_self)
    · exact .inl (List.mem_map.mpr ⟨button, hbutton, hoffered⟩)
  unfold validateResponseAction
  dsimp only
  rw [if_pos hmem]

-- A required input counts as given only under the name of a property that every
-- object has, and only where the response has an object of inputs.
def MayLack (inputs : Option (List (JsString × JsString))) (input : PromptInput) : Prop :=
  input.required = some true → inputs = some [] ∧ input.id ∈ inheritedProperties

theorem validateResponseInputKeys_iff {inputs : Option (List (JsString × JsString))}
    (hempty : inputs = none ∨ inputs = some []) (expected : Option (List PromptInput)) :
    validateResponseInputKeys inputs expected = .ok () ↔
      ∀ input ∈ expected.getD [], MayLack inputs input := by
  have hrequired : ∀ (inputs : List PromptInput) (P : JsString → Prop),
      (∀ key ∈ ((inputs.filter (·.required = some true)).map (·.id)).eraseDups, P key) ↔
        ∀ input ∈ inputs, input.required = some true → P input.id := by
    intro inputs P
    simp only [List.mem_eraseDups, List.mem_map, List.mem_filter, decide_eq_true_eq]
    exact ⟨fun h input hinput hreq => h _ ⟨input, ⟨hinput, hreq⟩, rfl⟩,
      by rintro h key ⟨input, ⟨hinput, hreq⟩, rfl⟩; exact h input hinput hreq⟩
  cases expected with
  | none => rcases hempty with rfl | rfl <;> simp [validateResponseInputKeys]
  | some expected =>
    cases expected with
    | nil => rcases hempty with rfl | rfl <;> simp [validateResponseInputKeys]
    | cons first rest =>
      rw [Option.getD_some]
      rcases hempty with rfl | rfl
      · have hnone := hrequired (first :: rest) fun _ => False
        simp only [validateResponseInputKeys, MayLack, reduceCtorEq, false_and]
        rw [← hnone, ← List.eq_nil_iff_forall_not_mem]
        split
        · rename_i hne
          exact iff_of_false (fun h => by cases h) hne
        · rename_i hnil
          exact iff_of_true rfl (not_not.mp hnil)
      · have hinherited := hrequired (first :: rest) (· ∈ inheritedProperties)
        simp only [validateResponseInputKeys, MayLack, true_and, List.map_nil, List.find?_nil]
        rw [← hinherited]
        split
        · rename_i key hfind
          refine iff_of_false (fun h => by cases h) fun h => ?_
          have hmem := h key (List.mem_of_find?_eq_some hfind)
          have hlacks := List.find?_some hfind
          simp [lacksValue, hmem] at hlacks
        · rename_i hfind
          refine iff_of_true rfl fun key hkey => ?_
          have hlacks := List.find?_eq_none.mp hfind key hkey
          simpa [lacksValue] using hlacks

end Validation

section Cancelling

variable {η : Type}

-- The prompt is gone, and its handler was called once, with the action.
def Accepted (adapter next : PromptAdapter η) (id : PromptId) (action : JsString) : Prop :=
  next.tracker.promptsById.get id = none ∧ next.responseHandlers.get id = none ∧
    ∃ handler response, adapter.responseHandlers.get id = some handler ∧
      response.id = id ∧ response.action = action ∧
      next.called = adapter.called ++ [(handler, response)]

-- A prompt that waits for an answer can be cancelled exactly when it requires no
-- input, in every state that any run of the adapter reaches.
theorem cancel_accepted_iff (socketId : SocketId) (events : List (PromptEvent η)) (id : PromptId)
    (tracked : TrackedPrompt) (now : Int) (action : JsString)
    (fields : List (JsString × JsonValue))
    (htracked : (run (PromptAdapter.step socketId) .create events).tracker.promptsById.get id =
      some tracked)
    (htime : now ≤ tracked.timeoutAt) (haction : NonSubmit tracked.payload action)
    (hresponse : RespondsWithout fields id action) :
    Accepted (run (PromptAdapter.step socketId) .create events)
        (PromptAdapter.step socketId (run (PromptAdapter.step socketId) .create events)
          (.response socketId (some (.object fields)) now)) id action ↔
      ∀ input ∈ tracked.payload.inputs.getD [], MayLack (givenInputs fields) input := by
  have hregistered := PromptAdapter.registered_run socketId events id tracked htracked
  obtain ⟨handler, hhandler⟩ := hregistered.handler
  obtain ⟨request, hrequest⟩ := hregistered.sent
  generalize run (PromptAdapter.step socketId) .create events = adapter at *
  have hread := validatePromptResponse_of_respondsWithout hresponse haction
  have hbuttons : ∃ button rest, tracked.payload.buttons = some (button :: rest) := by
    rw [hrequest]
    cases request <;> exact ⟨_, _, rfl⟩
  obtain ⟨button, rest, hbuttons⟩ := hbuttons
  have hoffered := validateResponseAction_nonSubmit haction
  have hgiven : givenInputs fields = none ∨ givenInputs fields = some [] := by
    unfold givenInputs
    split
    · exact .inr rfl
    · exact .inl rfl
  have hchecks : validateForPrompt ⟨id, action, givenInputs fields⟩ tracked.payload =
      validateResponseInputKeys (givenInputs fields) tracked.payload.inputs := by
    rw [hbuttons, Option.getD_some] at hoffered
    simp [validateForPrompt, hbuttons, hoffered]
  rw [← validateResponseInputKeys_iff hgiven, ← hchecks, PromptAdapter.step, if_pos rfl]
  cases hresult : validateForPrompt ⟨id, action, givenInputs fields⟩ tracked.payload with
  | error message =>
    rw [PromptAdapter.handlePromptResponse_of_refused hread htracked hregistered.owner htime
      hresult]
    refine iff_of_false (fun haccepted => ?_) fun h => by cases h
    rw [haccepted.1] at htracked
    cases htracked
  | ok _ =>
    rw [PromptAdapter.handlePromptResponse_of_accepted hread htracked hregistered.owner htime
      hresult hhandler]
    refine iff_of_true ⟨?_, ?_, handler, _, hhandler, rfl, rfl, rfl⟩ rfl
    · rw [PromptTracker.get_remove, if_pos rfl]
    · rw [OrderedMap.get_delete, if_pos rfl]

-- One prompt, and the answer `cancel` to it.
def oneSend (request : PromptRequest) : List (PromptEvent Unit) :=
  [.send (js "one") request () 0]

def cancelFields : List (JsString × JsonValue) :=
  [(js "id", .string (js "one")), (js "action", .string (js "cancel"))]

def proceed : PromptRequest :=
  .confirm { title := js "Proceed?" }

def passwordRequest : PromptRequest :=
  .input {
    title := js "Authentication Required"
    inputs := [{ id := js "prompt_0", label := js "Password:", type := .password,
                 required := some true }] }

theorem respondsWithout_cancelFields : RespondsWithout cancelFields (js "one") (js "cancel") where
  names := by decide
  wellFormed := by decide
  acts := by decide
  without := .inl (by decide)

theorem confirm_cancelled :
    Accepted (run (PromptAdapter.step (js "s")) .create (oneSend proceed))
      (PromptAdapter.step (js "s") (run (PromptAdapter.step (js "s")) .create (oneSend proceed))
        (.response (js "s") (some (.object cancelFields)) 10)) (js "one") (js "cancel") :=
  (cancel_accepted_iff (js "s") (oneSend proceed) (js "one")
    (trackedPrompt (js "s") (proceed.payload (js "one")) 0) 10 (js "cancel") cancelFields
    (by decide) (by decide) (.inr (.inr ⟨rfl, by decide⟩))
    respondsWithout_cancelFields).mpr (fun _ h => by cases h)

-- The password prompt cannot be cancelled.
theorem password_prompt_not_cancelled :
    ¬ ∀ (socketId : SocketId) (events : List (PromptEvent Unit)) (id : PromptId)
      (tracked : TrackedPrompt) (now : Int) (action : JsString)
      (fields : List (JsString × JsonValue)),
      (run (PromptAdapter.step socketId) .create events).tracker.promptsById.get id =
        some tracked → now ≤ tracked.timeoutAt → NonSubmit tracked.payload action →
      RespondsWithout fields id action →
      Accepted (run (PromptAdapter.step socketId) .create events)
        (PromptAdapter.step socketId (run (PromptAdapter.step socketId) .create events)
          (.response socketId (some (.object fields)) now)) id action := by
  intro h
  have haccepted := h (js "s") (oneSend passwordRequest) (js "one")
    (trackedPrompt (js "s") (passwordRequest.payload (js "one")) 0) 10 (js "cancel") cancelFields
    (by decide) (by decide) (.inr (.inr ⟨rfl, by decide⟩))
    respondsWithout_cancelFields
  have hgone := haccepted.1
  revert hgone
  decide

end Cancelling

end WebSsh2.Prompt

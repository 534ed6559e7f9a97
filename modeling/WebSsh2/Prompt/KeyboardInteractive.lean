import WebSsh2.Decimal
import WebSsh2.Prompt.Adapter
import WebSsh2.Socket.Authentication

namespace WebSsh2.Prompt

open WebSsh2.Library WebSsh2.Socket

-- The handlers: that of a round of the SSH server with its number and its number of
-- prompts, and any other.
inductive KeyboardHandler where
  | round (number : Nat) (prompts : Nat)
  | other
deriving DecidableEq

def promptKey (index : Nat) : JsString :=
  js "prompt_" ++ decimal index

def promptInput (index : Nat) (prompt : KeyboardPrompt) : PromptInput where
  id := promptKey index
  label := prompt.prompt
  type := if prompt.echo then .text else .password
  required := some true

def keyboardPromptOptions (name instructions : JsString) (prompts : List KeyboardPrompt) :
    InputPromptOptions where
  title := if name = [] then js "Authentication Required" else name
  message := if instructions = [] then none else some instructions
  inputs := prompts.mapIdx promptInput
  submitLabel := some (js "Submit")
  cancelLabel := some (js "Cancel")
  icon := some (js "Key")
  severity := some .info

def keyboardRequest (name instructions : JsString) (prompts : List KeyboardPrompt) :
    PromptRequest :=
  .input (keyboardPromptOptions name instructions prompts)

-- What the handler of a round gives to `finish`.
def finishResponses (prompts : Nat) (response : PromptResponse) : List JsString :=
  if response.action = js "cancel" ∨ response.action = js "dismissed" ∨
      response.action = js "timeout" then
    []
  else
    (List.range prompts).map fun index =>
      ((response.inputs.getD []).lookup (promptKey index)).getD []

def finishCall : KeyboardHandler × PromptResponse → Option (Nat × List JsString)
  | (.round number prompts, response) => some (number, finishResponses prompts response)
  | (.other, _) => none

-- The calls of `finish`, each with the number of its round.
def finishCalls (adapter : PromptAdapter KeyboardHandler) : List (Nat × List JsString) :=
  adapter.called.filterMap finishCall

def handleSSHKeyboardInteractive (socketId : SocketId) (adapter : PromptAdapter KeyboardHandler)
    (id : PromptId) (name instructions : JsString) (prompts : List KeyboardPrompt)
    (finishCallback : Nat) (now : Int) : PromptAdapter KeyboardHandler :=
  adapter.step socketId
    (.send id (keyboardRequest name instructions prompts)
      (.round finishCallback prompts.length) now)

section Keys

theorem promptKey_inj {first second : Nat} (h : promptKey first = promptKey second) :
    first = second := by
  have hdecimal := List.append_cancel_left h
  rw [← digitsValue_decimal first, hdecimal, digitsValue_decimal]

theorem inputKey_promptKey {index : Nat} (h : index < maxInputs) :
    inputKey (promptKey index) = true := by
  revert h
  revert index
  decide

-- A key that occurs once is looked up as the value beside it.
theorem lookup_of_mem {entries : List (JsString × JsString)} {key value : JsString}
    (hnodup : (entries.map Prod.fst).Nodup) (hmem : (key, value) ∈ entries) :
    entries.lookup key = some value := by
  induction entries with
  | nil => cases hmem
  | cons entry rest ih =>
    rw [List.map_cons, List.nodup_cons] at hnodup
    rcases List.mem_cons.mp hmem with heq | hrest
    · rw [← heq, List.lookup_cons_self]
    · have hne : key ≠ entry.1 := by
        rintro rfl
        exact hnodup.1 (List.mem_map.mpr ⟨_, hrest, rfl⟩)
      rw [List.lookup_cons, beq_false_of_ne hne]
      exact ih hnodup.2 hrest

end Keys

section Entries

def inputField (entry : JsString × JsString) : JsString × JsonValue :=
  (entry.1, .string entry.2)

-- Texts under valid keys that are not too long pass unless one looks like a tag.
theorem validateInputEntries_inputField {entries : List (JsString × JsString)}
    (hkeys : ∀ entry ∈ entries, inputKey entry.1 = true)
    (hlengths : ∀ entry ∈ entries, entry.2.length ≤ maxInputValueLength) :
    (∀ entry ∈ entries, htmlTag entry.2 = false) ∧
        validateInputEntries (entries.map inputField) = .ok entries ∨
      (¬ ∀ entry ∈ entries, htmlTag entry.2 = false) ∧
        ∃ message, validateInputEntries (entries.map inputField) = .error message := by
  induction entries with
  | nil => exact .inl ⟨fun _ h => (List.not_mem_nil h).elim, rfl⟩
  | cons entry rest ih =>
    obtain ⟨key, text⟩ := entry
    have hkey : inputKey key = true := hkeys _ List.mem_cons_self
    have hlength : ¬ maxInputValueLength < text.length :=
      Nat.not_lt.mpr (hlengths _ List.mem_cons_self)
    have hrest := ih (fun entry h => hkeys entry (List.mem_cons_of_mem _ h))
      fun entry h => hlengths entry (List.mem_cons_of_mem _ h)
    rw [List.map_cons, List.forall_mem_cons]
    by_cases htag : htmlTag text = true
    · refine .inr ⟨fun h => ?_, ?_⟩
      · rw [h.1] at htag
        cases htag
      · simp [validateInputEntries, inputField, validateInputEntry, hkey, hlength, htag]
    · rw [Bool.not_eq_true] at htag
      rcases hrest with ⟨hclean, hok⟩ | ⟨hdirty, message, herror⟩
      · refine .inl ⟨⟨htag, hclean⟩, ?_⟩
        simp [validateInputEntries, inputField, validateInputEntry, hkey, hlength, htag, hok]
      · refine .inr ⟨fun h => hdirty h.2, message, ?_⟩
        simp [validateInputEntries, inputField, validateInputEntry, hkey, hlength, htag, herror]

-- The answers under the ids of their prompts.
def answerEntries (answers : List JsString) : List (JsString × JsString) :=
  answers.mapIdx fun index answer => (promptKey index, answer)

theorem map_fst_answerEntries (answers : List JsString) :
    (answerEntries answers).map Prod.fst = (List.range answers.length).map promptKey := by
  apply List.ext_getElem
  · simp [answerEntries]
  · intro index _ _
    simp [answerEntries]

theorem map_id_promptInputs (prompts : List KeyboardPrompt) :
    (prompts.mapIdx promptInput).map (·.id) = (List.range prompts.length).map promptKey := by
  apply List.ext_getElem
  · simp
  · intro index _ _
    simp [promptInput]

theorem mem_answerEntries {answers : List JsString} {entry : JsString × JsString}
    (h : entry ∈ answerEntries answers) :
    ∃ index, index < answers.length ∧ entry.1 = promptKey index ∧ entry.2 ∈ answers := by
  obtain ⟨index, hindex, rfl⟩ := List.mem_mapIdx.mp h
  exact ⟨index, hindex, rfl, List.getElem_mem hindex⟩

-- The entries in whatever order the client puts them.
structure Answers (given : List (JsString × JsString)) (answers : List JsString) : Prop where
  perm : given.Perm (answerEntries answers)

variable {given : List (JsString × JsString)} {answers : List JsString}

theorem Answers.lookup (h : Answers given answers) {index : Nat} (hindex : index < answers.length) :
    given.lookup (promptKey index) = some answers[index] := by
  apply lookup_of_mem
  · rw [(h.perm.map Prod.fst).nodup_iff, map_fst_answerEntries]
    exact List.nodup_range.map fun _ _ heq => promptKey_inj heq
  · rw [h.perm.mem_iff]
    exact List.mem_mapIdx.mpr ⟨index, hindex, rfl⟩

theorem Answers.keys (h : Answers given answers) (key : JsString) :
    key ∈ given.map Prod.fst ↔ key ∈ (List.range answers.length).map promptKey := by
  rw [← map_fst_answerEntries]
  exact (h.perm.map Prod.fst).mem_iff

theorem Answers.forall_iff (h : Answers given answers) (P : JsString → Prop) :
    (∀ entry ∈ given, P entry.2) ↔ ∀ answer ∈ answers, P answer := by
  constructor
  · intro hall answer hanswer
    obtain ⟨index, hindex, rfl⟩ := List.getElem_of_mem hanswer
    exact hall (promptKey index, answers[index])
      (h.perm.mem_iff.mpr (List.mem_mapIdx.mpr ⟨index, hindex, rfl⟩))
  · intro hall entry hentry
    obtain ⟨_, _, _, hanswer⟩ := mem_answerEntries (h.perm.mem_iff.mp hentry)
    exact hall _ hanswer

theorem finishResponses_of_answers (h : Answers given answers) (id : PromptId) :
    finishResponses answers.length ⟨id, js "submit", some given⟩ = answers := by
  have hsubmit : ¬ (js "submit" = js "cancel" ∨ js "submit" = js "dismissed" ∨
      js "submit" = js "timeout") := by decide
  unfold finishResponses
  rw [if_neg hsubmit]
  apply List.ext_getElem
  · simp
  · intro index hfirst hsecond
    simp [h.lookup hsecond]

-- Filled answers under the ids of the prompts pass the check of the keys.
theorem validateResponseInputKeys_of_answers (h : Answers given answers)
    (hfilled : ∀ answer ∈ answers, answer ≠ []) {prompts : List KeyboardPrompt}
    (hlength : answers.length = prompts.length) :
    validateResponseInputKeys (some given) (some (prompts.mapIdx promptInput)) = .ok () := by
  have hids := map_id_promptInputs prompts
  cases hinputs : prompts.mapIdx promptInput with
  | nil =>
    have hprompts : prompts.length = 0 := by
      have hmapped := congrArg List.length hinputs
      simpa using hmapped
    have hnil : answers = [] := List.length_eq_zero_iff.mp (hlength.trans hprompts)
    have hgiven : given = [] := by
      have hperm := h.perm
      rw [hnil] at hperm
      exact hperm.eq_nil
    rw [hgiven]
    rfl
  | cons first rest =>
    rw [hinputs] at hids
    have hexpected : (given.map Prod.fst).find?
        (fun key => key ∉ (first :: rest).map (·.id)) = none := by
      rw [List.find?_eq_none]
      intro key hkey
      rw [hids, ← hlength]
      simpa using (h.keys key).mp hkey
    have hpresent :
        ((((first :: rest).filter (·.required = some true)).map (·.id)).eraseDups).find?
          (lacksValue given) = none := by
      rw [List.find?_eq_none]
      intro key hkey
      rw [List.mem_eraseDups] at hkey
      have hmem : key ∈ (first :: rest).map (·.id) := by
        obtain ⟨input, hinput, rfl⟩ := List.mem_map.mp hkey
        exact List.mem_map.mpr ⟨input, (List.mem_filter.mp hinput).1, rfl⟩
      rw [hids, ← hlength] at hmem
      obtain ⟨index, hindex, rfl⟩ := List.mem_map.mp hmem
      rw [List.mem_range] at hindex
      have hne := hfilled _ (List.getElem_mem hindex)
      simp [lacksValue, h.lookup hindex, hne]
    unfold validateResponseInputKeys
    dsimp only
    rw [hexpected, hpresent]

end Entries

section RoundTrip

-- The prompt of a round waits: it is tracked and not expired, and its handler is there.
structure RoundWaits (socketId : SocketId) (adapter : PromptAdapter KeyboardHandler)
    (id : PromptId) (round : Nat) (name instructions : JsString) (prompts : List KeyboardPrompt)
    (now : Int) : Prop where
  tracked : ∃ tracked, adapter.tracker.promptsById.get id = some tracked ∧
    tracked.socketId = socketId ∧ now ≤ tracked.timeoutAt ∧
    tracked.payload = (keyboardRequest name instructions prompts).payload id
  handler : adapter.responseHandlers.get id = some (.round round prompts.length)

-- A round that is forwarded while there is room waits for five minutes.
theorem roundWaits_forwarded {socketId : SocketId} {adapter : PromptAdapter KeyboardHandler}
    (hroom : adapter.tracker.getPendingCount socketId < maxPendingPromptsPerSocket)
    (id : PromptId) (name instructions : JsString) (prompts : List KeyboardPrompt) (round : Nat)
    {now later : Int} (hlater : later ≤ now + defaultPromptMs) :
    RoundWaits socketId
      (handleSSHKeyboardInteractive socketId adapter id name instructions prompts round now)
      id round name instructions prompts later := by
  unfold handleSSHKeyboardInteractive PromptAdapter.step PromptAdapter.sendPrompt
  dsimp only
  rw [PromptTracker.track_eq_ok_iff.mpr ⟨hroom, rfl⟩]
  constructor
  · exact ⟨_, OrderedMap.get_set_self _ _ _, rfl, hlater, rfl⟩
  · exact OrderedMap.get_set_self _ _ _

-- The client submits the answers, each under the id of its prompt.
structure Submits (fields : List (JsString × JsonValue)) (id : PromptId)
    (answers : List JsString) : Prop where
  names : Json.lookup (js "id") fields = some (.string id)
  wellFormed : isPromptId (some (.string id)) = some id
  acts : Json.lookup (js "action") fields = some (.string (js "submit"))
  gives : ∃ given, Answers given answers ∧
    Json.lookup (js "inputs") fields = some (.object (given.map inputField))

variable {socketId : SocketId} {adapter : PromptAdapter KeyboardHandler} {id : PromptId}
  {round : Nat} {name instructions : JsString} {prompts : List KeyboardPrompt}
  {answers : List JsString} {now : Int} {fields : List (JsString × JsonValue)}

-- The answers are read unless they are too many or one looks like a tag.
theorem validatePromptResponse_of_submits {given : List (JsString × JsString)}
    (hsubmits : Submits fields id answers) (hgiven : Answers given answers)
    (hinputs : Json.lookup (js "inputs") fields = some (.object (given.map inputField)))
    (hlengths : ∀ answer ∈ answers, answer.length ≤ maxInputValueLength) :
    (answers.length ≤ maxInputs ∧ ∀ answer ∈ answers, htmlTag answer = false) ∧
        validatePromptResponse (some (.object fields)) = .ok ⟨id, js "submit", some given⟩ ∨
      (¬ (answers.length ≤ maxInputs ∧ ∀ answer ∈ answers, htmlTag answer = false)) ∧
        ∃ message, validatePromptResponse (some (.object fields)) = .error message := by
  have haction : validateAction (some (.string (js "submit"))) = .ok (js "submit") := by
    decide
  have hcount : given.length = answers.length := by
    rw [hgiven.perm.length_eq]
    simp [answerEntries]
  unfold validatePromptResponse validateResponseInputs
  dsimp only
  rw [hsubmits.names, hsubmits.wellFormed]
  dsimp only
  rw [hsubmits.acts, haction, hinputs]
  dsimp only
  rw [List.length_map, hcount]
  by_cases hmany : maxInputs < answers.length
  · rw [if_pos hmany]
    exact .inr ⟨fun h => by omega, _, rfl⟩
  · rw [if_neg hmany]
    have hkeys : ∀ entry ∈ given, inputKey entry.1 = true := by
      intro entry hentry
      obtain ⟨index, hindex, hkey, _⟩ := mem_answerEntries (hgiven.perm.mem_iff.mp hentry)
      rw [hkey]
      exact inputKey_promptKey (by omega)
    have htexts : ∀ entry ∈ given, entry.2.length ≤ maxInputValueLength :=
      (hgiven.forall_iff (·.length ≤ maxInputValueLength)).mpr hlengths
    have hclean := hgiven.forall_iff (htmlTag · = false)
    rcases validateInputEntries_inputField hkeys htexts with ⟨hall, hok⟩ | ⟨hnot, message, herror⟩
    · rw [hok]
      exact .inl ⟨⟨by omega, hclean.mp hall⟩, rfl⟩
    · rw [herror]
      exact .inr ⟨fun h => hnot (hclean.mpr h.2), message, rfl⟩

-- The answers of the user reach the SSH server as they are exactly when there are no
-- more than ten and none of them has something like a tag in it.
theorem answers_reach_server_iff (socketId : SocketId) (adapter : PromptAdapter KeyboardHandler)
    (id : PromptId) (round : Nat) (name instructions : JsString) (prompts : List KeyboardPrompt)
    (answers : List JsString) (now : Int) (fields : List (JsString × JsonValue))
    (hwaits : RoundWaits socketId adapter id round name instructions prompts now)
    (hlength : answers.length = prompts.length) (hfilled : ∀ answer ∈ answers, answer ≠ [])
    (hlengths : ∀ answer ∈ answers, answer.length ≤ maxInputValueLength)
    (hsubmits : Submits fields id answers) :
    finishCalls (adapter.step socketId (.response socketId (some (.object fields)) now)) =
        finishCalls adapter ++ [(round, answers)] ↔
      answers.length ≤ maxInputs ∧ ∀ answer ∈ answers, htmlTag answer = false := by
  obtain ⟨tracked, htracked, howner, htime, hpayload⟩ := hwaits.tracked
  obtain ⟨given, hgiven, hinputs⟩ := hsubmits.gives
  rw [PromptAdapter.step, if_pos rfl]
  rcases validatePromptResponse_of_submits hsubmits hgiven hinputs hlengths with
    ⟨hfits, hread⟩ | ⟨hnot, message, hread⟩
  · refine iff_of_true ?_ hfits
    have hchecks : validateForPrompt ⟨id, js "submit", some given⟩ tracked.payload = .ok () := by
      have hkeys := validateResponseInputKeys_of_answers hgiven hfilled hlength
      have haction : validateResponseAction (js "submit")
          [⟨js "submit", js "Submit", some .primary⟩, ⟨js "cancel", js "Cancel", some .secondary⟩] =
            .ok () := by decide
      rw [hpayload]
      simp only [validateForPrompt, keyboardRequest, PromptRequest.payload, createInputPrompt,
        keyboardPromptOptions, Option.getD_some, haction, hkeys]
    rw [PromptAdapter.handlePromptResponse_of_accepted hread htracked howner htime hchecks
      hwaits.handler]
    unfold finishCalls
    dsimp only
    rw [List.filterMap_append]
    have hresponses := finishResponses_of_answers hgiven id
    rw [hlength] at hresponses
    simp [finishCall, hresponses]
  · refine iff_of_false (fun hcalls => ?_) hnot
    have hsame : adapter.handlePromptResponse socketId (some (.object fields)) now = adapter := by
      unfold PromptAdapter.handlePromptResponse
      rw [hread]
    rw [hsame] at hcalls
    have hlonger := congrArg List.length hcalls
    simp at hlonger

def passwordPrompts : List KeyboardPrompt :=
  [{ prompt := js "Password:", echo := false }]

def forwarded : PromptAdapter KeyboardHandler :=
  handleSSHKeyboardInteractive (js "s") .create (js "one") [] [] passwordPrompts 0 0

def submitFields (answer : JsString) : List (JsString × JsonValue) :=
  [(js "id", .string (js "one")), (js "action", .string (js "submit")),
    (js "inputs", .object [(promptKey 0, .string answer)])]

theorem submits_submitFields (answer : JsString) :
    Submits (submitFields answer) (js "one") [answer] where
  names := by simp [submitFields, Json.lookup]
  wellFormed := by decide
  acts := by
    have hne : js "id" ≠ js "action" := by decide
    simp [submitFields, Json.lookup, hne]
  gives := by
    have hid : js "id" ≠ js "inputs" := by decide
    have haction : js "action" ≠ js "inputs" := by decide
    exact ⟨[(promptKey 0, answer)], ⟨List.Perm.refl _⟩, by
      simp [submitFields, Json.lookup, hid, haction, inputField]⟩

theorem roundWaits_forwarded_one :
    RoundWaits (js "s") forwarded (js "one") 0 [] [] passwordPrompts 10 :=
  roundWaits_forwarded (by decide) (js "one") [] [] passwordPrompts 0 (by decide)

theorem plain_answer_reaches_server :
    finishCalls (forwarded.step (js "s")
        (.response (js "s") (some (.object (submitFields (js "secret")))) 10)) =
      finishCalls forwarded ++ [(0, [js "secret"])] :=
  (answers_reach_server_iff (js "s") forwarded (js "one") 0 [] [] passwordPrompts [js "secret"] 10
    (submitFields (js "secret")) roundWaits_forwarded_one rfl (by decide)
    (by decide) (submits_submitFields (js "secret"))).mpr (by decide)

-- A password with a tag in it never reaches the server.
theorem tagged_answer_lost :
    ¬ ∀ (socketId : SocketId) (adapter : PromptAdapter KeyboardHandler) (id : PromptId)
      (round : Nat) (name instructions : JsString) (prompts : List KeyboardPrompt)
      (answers : List JsString) (now : Int) (fields : List (JsString × JsonValue)),
      RoundWaits socketId adapter id round name instructions prompts now →
      answers.length = prompts.length → (∀ answer ∈ answers, answer ≠ []) →
      (∀ answer ∈ answers, answer.length ≤ maxInputValueLength) → Submits fields id answers →
      finishCalls (adapter.step socketId (.response socketId (some (.object fields)) now)) =
        finishCalls adapter ++ [(round, answers)] := by
  intro h
  have hcalls := h (js "s") forwarded (js "one") 0 [] [] passwordPrompts [js "a<b>c"] 10
    (submitFields (js "a<b>c")) roundWaits_forwarded_one rfl (by decide)
    (by decide) (submits_submitFields (js "a<b>c"))
  revert hcalls
  decide

end RoundTrip

end WebSsh2.Prompt

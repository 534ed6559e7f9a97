import WebSsh2.Socket.Terminal

namespace WebSsh2.Socket

open WebSsh2.Library WebSsh2.State WebSsh2.Validation

-- The text that the parameter `env` of a request carries. Several parameters are
-- joined, and whatever is not a text is passed over.
def environmentText (params : JsonValue) : Option JsString :=
  match params.field (js "env") with
  | some (.string text) => if text = [] then none else some text
  | some (.array items) =>
    let validStrings := items.filterMap fun
      | .string text => if text = [] then none else some text
      | _ => none
    if validStrings = [] then none else some ([44].intercalate validStrings)
  | _ => none

def extractEnvironmentVars (params : JsonValue) : Option EnvVars :=
  (environmentText params).bind parseEnvVars

-- What a route hands to `processAuthParameters`: the query, and for a form that
-- was posted the query with the fields of the body over it.
inductive RouteRequest where
  | get (query : List (JsString × JsonValue))
  | post (query body : List (JsString × JsonValue))

def RouteRequest.source : RouteRequest → JsonValue
  | .get query => .object query
  | .post query body => .object (body ++ query)

-- The environment of the session after a request.
def processEnvironmentVariables (envVars : Option EnvVars) (request : RouteRequest) :
    Option EnvVars :=
  match extractEnvironmentVars request.source with
  | some extracted => some extracted
  | none => envVars

variable (requests : List RouteRequest)

def sessionEnvironment : Option EnvVars :=
  requests.foldl processEnvironmentVariables none

-- The last text of the requests from which at least one pair is taken.
def storedText : Option JsString :=
  ((requests.filterMap fun request => environmentText request.source).filter
    fun text => admittedPairs text ≠ []).getLast?

theorem storedText_concat (request : RouteRequest) :
    storedText (requests ++ [request]) =
      match environmentText request.source with
      | none => storedText requests
      | some text => if admittedPairs text = [] then storedText requests else some text := by
  unfold storedText
  rw [List.filterMap_append, List.filter_append]
  cases htext : environmentText request.source with
  | none =>
    simp only [List.filterMap_cons, htext, List.filterMap_nil, List.filter_nil,
      List.append_nil]
  | some text =>
    simp only [List.filterMap_cons, htext, List.filterMap_nil]
    by_cases hpairs : admittedPairs text = []
    · simp only [hpairs, List.filter_cons, ne_eq, not_true_eq_false, decide_false,
        Bool.false_eq_true, if_false, List.filter_nil, List.append_nil, if_true]
    · simp only [hpairs, List.filter_cons, ne_eq, not_false_eq_true, decide_true, if_true,
        List.filter_nil, List.getLast?_append, List.getLast?_singleton, Option.some_or, if_false]

-- A session holds what its last such text gives.
theorem sessionEnvironment_eq :
    sessionEnvironment requests =
      (storedText requests).map fun text => setPairs OrderedMap.empty (admittedPairs text) := by
  induction requests using List.reverseRecOn with
  | nil => rfl
  | append_singleton requests request ih =>
    have hstep : sessionEnvironment (requests ++ [request]) =
        processEnvironmentVariables (sessionEnvironment requests) request := by
      unfold sessionEnvironment
      rw [List.foldl_append, List.foldl_cons, List.foldl_nil]
    rw [hstep, ih, storedText_concat]
    unfold processEnvironmentVariables extractEnvironmentVars
    cases environmentText request.source with
    | none => rfl
    | some text =>
      rw [Option.bind_some, parseEnvVars_eq]
      dsimp only
      by_cases hpairs : admittedPairs text = []
      · rw [if_pos hpairs, if_pos hpairs]
      · rw [if_neg hpairs, if_neg hpairs]
        rfl

variable {text : JsString}

theorem storedText_of_mem {requests : List RouteRequest} (h : storedText requests = some text) :
    ∃ request ∈ requests, environmentText request.source = some text := by
  have hmem := List.mem_of_mem_filter (List.mem_of_getLast? h)
  exact List.mem_filterMap.mp hmem

-- The user asked for a variable: a piece of some `env` text reads `key:value`, up
-- to blanks.
def RequestedBy (entry : JsString × JsString) : Prop :=
  ∃ request ∈ requests, ∃ text, environmentText request.source = some text ∧
    ∃ pairString ∈ text.splitOn 44, ∃ keyRaw valueRaw,
      pairString.splitOn 58 = [keyRaw, valueRaw] ∧ entry = (trim keyRaw, trim valueRaw)

-- What the documentation promises of the variables that leave for the remote
-- side. The allowlist appears here only: nothing on the way reads it.
structure EnvCompliant (allowlist : Option (List JsString)) (requests : List RouteRequest)
    (env : EnvVars) : Prop where
  requested : ∀ entry ∈ env.entries, RequestedBy requests entry
  validKeys : ∀ entry ∈ env.entries, isValidEnvKey entry.1 = true
  safeValues : ∀ entry ∈ env.entries, isValidEnvValue entry.2 = true
  listed : ∀ names, allowlist = some names → ∀ entry ∈ env.entries, entry.1 ∈ names
  bounded : env.entries.length ≤ EnvLimits.maxPairs

-- Of the text the session holds, every admitted name is on the list.
def NamesListed (allowlist : Option (List JsString)) (requests : List RouteRequest) : Prop :=
  ∀ names, allowlist = some names → ∀ text, storedText requests = some text →
    ∀ pair ∈ admittedPairs text, pair.1 ∈ names

variable {entry : JsString × JsString}

theorem requestedBy_of_admitted {requests : List RouteRequest}
    (hstored : storedText requests = some text) (hentry : entry ∈ admittedPairs text) :
    RequestedBy requests entry := by
  obtain ⟨request, hrequest, htext⟩ := storedText_of_mem hstored
  obtain ⟨pairString, hpiece, hpair⟩ := mem_admittedPairs hentry
  obtain ⟨-, -, -, -, keyRaw, valueRaw, hsplit, hkey, hvalue⟩ := parsePair_spec hpair
  exact ⟨request, hrequest, text, htext, pairString, hpiece, keyRaw, valueRaw, hsplit,
    Prod.ext hkey hvalue⟩

theorem valid_of_admitted (hentry : entry ∈ admittedPairs text) :
    isValidEnvKey entry.1 = true ∧ isValidEnvValue entry.2 = true := by
  obtain ⟨pairString, -, hpair⟩ := mem_admittedPairs hentry
  obtain ⟨hkey, hvalue, -⟩ := parsePair_spec hpair
  exact ⟨hkey, hvalue⟩

theorem mem_of_mem_setPairs_empty {pairs : List (JsString × JsString)}
    (h : entry ∈ (setPairs OrderedMap.empty pairs).entries) : entry ∈ pairs :=
  (mem_setPairs h).resolve_left List.not_mem_nil

-- Everything but the allowlist is kept by the parser itself.
theorem sessionEnvironment_compliant_iff (allowlist : Option (List JsString))
    (requests : List RouteRequest) :
    EnvCompliant allowlist requests ((sessionEnvironment requests).getD OrderedMap.empty) ↔
      NamesListed allowlist requests := by
  rw [sessionEnvironment_eq]
  unfold NamesListed
  cases hstored : storedText requests with
  | none =>
    constructor
    · intro _ names _ text htext
      cases htext
    · intro _
      exact {
        requested := fun entry hentry => absurd hentry List.not_mem_nil
        validKeys := fun entry hentry => absurd hentry List.not_mem_nil
        safeValues := fun entry hentry => absurd hentry List.not_mem_nil
        listed := fun names _ entry hentry => absurd hentry List.not_mem_nil
        bounded := Nat.zero_le _ }
  | some text =>
    show EnvCompliant allowlist requests (setPairs OrderedMap.empty (admittedPairs text)) ↔ _
    constructor
    · intro h names hnames text' htext pair hpair
      cases htext
      have hkey : pair.1 ∈ (setPairs OrderedMap.empty (admittedPairs text)).entries.map
          Prod.fst := by
        rw [mem_keys_setPairs]
        exact .inr (List.mem_map_of_mem hpair)
      obtain ⟨entry, hentry, heq⟩ := List.mem_map.mp hkey
      rw [← heq]
      exact h.listed names hnames entry hentry
    · intro h
      have hlength := length_setPairs OrderedMap.empty (admittedPairs text)
      have hadmitted := length_admittedPairs text
      exact {
        requested := fun entry hentry =>
          requestedBy_of_admitted hstored (mem_of_mem_setPairs_empty hentry)
        validKeys := fun entry hentry =>
          (valid_of_admitted (mem_of_mem_setPairs_empty hentry)).1
        safeValues := fun entry hentry =>
          (valid_of_admitted (mem_of_mem_setPairs_empty hentry)).2
        listed := fun names hnames entry hentry =>
          h names hnames text rfl entry (mem_of_mem_setPairs_empty hentry)
        bounded := by
          change _ ≤ 0 + _ at hlength
          omega }

section Forwarding

variable {σ : Type}

-- The request for a shell carries the environment of the session as it is.
theorem handleTerminal_ssh_env {services services' : TerminalServices}
    {state : AdapterSharedState σ} {sessionEnv : Option EnvVars} {settings : JsValue}
    {request : ShellRequest}
    (h : handleTerminal .ssh services state sessionEnv settings =
      (services', .called (.ssh request))) :
    request.env = some (sessionEnv.getD OrderedMap.empty) := by
  unfold handleTerminal at h
  split at h
  · dsimp only [openShell] at h
    unfold SshService.shell at h
    split at h
    · rename_i hshell
      obtain ⟨-, hrefused⟩ := Prod.mk.inj h
      cases hrefused
    · rename_i asked hshell
      obtain ⟨-, hcalled⟩ := Prod.mk.inj h
      cases hcalled
      split at hshell
      · cases hshell
      · split at hshell
        · cases hshell
        · cases hshell
          rfl
  · obtain ⟨-, hignored⟩ := Prod.mk.inj h
    cases hignored

theorem forwarded_environment_compliant_iff (allowlist : Option (List JsString))
    (requests : List RouteRequest) {services services' : TerminalServices}
    {state : AdapterSharedState σ} {settings : JsValue} {request : ShellRequest}
    (h : handleTerminal .ssh services state (sessionEnvironment requests) settings =
      (services', .called (.ssh request))) :
    EnvCompliant allowlist requests (request.env.getD OrderedMap.empty) ↔
      NamesListed allowlist requests := by
  rw [handleTerminal_ssh_env h]
  exact sessionEnvironment_compliant_iff allowlist requests

end Forwarding

section Runs

-- One connection is up, and no terminal was made so far.
def readyServices : TerminalServices where
  terminal := {
    terminals := OrderedMap.empty
    defaultTerm := defaultTerm
    defaultRows := defaultRows
    defaultCols := defaultCols }
  ssh := OrderedMap.empty.set (js "c") .connected
  telnet := none

def readyState : AdapterSharedState Unit where
  sessionId := some (js "s")
  connectionId := some (js "c")

def defaultShellRequest (env : EnvVars) : ShellRequest where
  connectionId := js "c"
  term := some defaultTerm
  size := { rows := some defaultRows, cols := some defaultCols }
  env := some env

theorem handleTerminal_ready (requests : List RouteRequest) :
    handleTerminal .ssh readyServices readyState (sessionEnvironment requests) none =
      ((handleTerminal .ssh readyServices readyState (sessionEnvironment requests) none).1,
        .called (.ssh (defaultShellRequest
          ((sessionEnvironment requests).getD OrderedMap.empty)))) := rfl

-- `?env=LANG:C`
def langRequest : RouteRequest := .get [(js "env", .string (js "LANG:C"))]

-- `?env=PATH:/x`
def pathRequest : RouteRequest := .get [(js "env", .string (js "PATH:/x"))]

theorem lang_environment_compliant :
    EnvCompliant (some [js "LANG"]) [langRequest]
      ((sessionEnvironment [langRequest]).getD OrderedMap.empty) := by
  have hstored : storedText [langRequest] = some (js "LANG:C") := by decide
  have hpairs : admittedPairs (js "LANG:C") = [(js "LANG", js "C")] := by decide
  refine (forwarded_environment_compliant_iff (some [js "LANG"]) [langRequest]
    (handleTerminal_ready [langRequest])).mpr ?_
  intro names hnames text htext pair hpair
  cases hnames
  rw [hstored] at htext
  cases htext
  rw [hpairs, List.mem_singleton] at hpair
  rw [hpair]
  exact List.mem_singleton_self _

-- `PATH` is forwarded although only `LANG` is on the list.
theorem path_environment_not_compliant :
    (handleTerminal .ssh readyServices readyState (sessionEnvironment [pathRequest]) none).2 =
        .called (.ssh (defaultShellRequest
          ((sessionEnvironment [pathRequest]).getD OrderedMap.empty))) ∧
      ¬ EnvCompliant (some [js "LANG"]) [pathRequest]
        ((sessionEnvironment [pathRequest]).getD OrderedMap.empty) := by
  refine ⟨rfl, fun h => ?_⟩
  have hentries : ((sessionEnvironment [pathRequest]).getD OrderedMap.empty).entries =
      [(js "PATH", js "/x")] := by decide
  have hlisted := h.listed _ rfl (js "PATH", js "/x")
    (by rw [hentries]; exact List.mem_singleton_self _)
  revert hlisted
  decide

end Runs

end WebSsh2.Socket

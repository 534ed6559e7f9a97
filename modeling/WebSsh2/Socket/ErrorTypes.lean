import WebSsh2.Socket.Authentication
import WebSsh2.Ssh.ConnectionHandlers
import WebSsh2.Ssh.Ipv6Reading

namespace WebSsh2.Socket

open WebSsh2.Library WebSsh2.Ssh

section Validator

def messageContains (message : JsString) (patterns : List String) : Bool :=
  patterns.any fun pattern => includes (js pattern) message

variable (code : Option JsString)

def codeMatches (expected : List String) : Bool :=
  match code with
  | none => false
  | some code => expected.any fun candidate => decide (js candidate = code)

def dnsErrorCodes : List String := ["ENOTFOUND"]
def connectionRefusedCodes : List String := ["ECONNREFUSED"]
def timeoutErrorCodes : List String := ["ETIMEDOUT", "ECONNRESET"]
def networkUnreachableCodes : List String := ["ENETUNREACH"]

def dnsMessagePatterns : List String := ["getaddrinfo", "enotfound"]
def connectionRefusedPatterns : List String := ["connection refused", "econnrefused"]
def timeoutMessagePatterns : List String := ["timeout", "etimedout", "econnreset"]
def networkUnreachablePatterns : List String := ["network is unreachable", "enetunreach"]
def authenticationMessagePatterns : List String :=
  ["authentication failed", "all configured authentication methods failed", "permission denied",
    "password"]

def isDnsResolutionIssue (message : JsString) : Bool :=
  codeMatches code dnsErrorCodes || messageContains message dnsMessagePatterns

def isConnectionRefused (message : JsString) : Bool :=
  codeMatches code connectionRefusedCodes || messageContains message connectionRefusedPatterns

def isTimeoutScenario (message : JsString) : Bool :=
  codeMatches code timeoutErrorCodes || messageContains message timeoutMessagePatterns

def isNetworkUnreachable (message : JsString) : Bool :=
  codeMatches code networkUnreachableCodes || messageContains message networkUnreachablePatterns

def isAuthenticationFailure (level : Option JsString) (message : JsString) : Bool :=
  decide (level = some (js "client-authentication")) ||
    messageContains message authenticationMessagePatterns

-- Of the types of an error it knows all but `algorithm`.
def analyzeConnectionError (runtime : Runtime) (code level : Option JsString)
    (message : JsString) : ErrorType :=
  let normalizedMessage := runtime.toLowerCase message
  if isDnsResolutionIssue code normalizedMessage then .network
  else if isConnectionRefused code normalizedMessage then .network
  else if isTimeoutScenario code normalizedMessage then .timeout
  else if isNetworkUnreachable code normalizedMessage then .network
  else if isAuthenticationFailure level normalizedMessage then .auth
  else .unknown

end Validator

section NodeErrors

inductive NetworkCode where
  | enotfound | econnrefused | etimedout | ehostunreach | enetunreach
deriving DecidableEq

namespace NetworkCode

def name : NetworkCode → String
  | enotfound => "ENOTFOUND"
  | econnrefused => "ECONNREFUSED"
  | etimedout => "ETIMEDOUT"
  | ehostunreach => "EHOSTUNREACH"
  | enetunreach => "ENETUNREACH"

variable (code : NetworkCode)

def text : JsString :=
  js code.name

-- The call that fails with it.
def syscall : NetworkCode → JsString
  | enotfound => js "getaddrinfo"
  | _ => js "connect"

-- The message as far as it does not name the host.
def failure : JsString :=
  code.syscall ++ js " " ++ code.text

-- What names the host: a lookup has no port, and an address that is not known is left out.
def details (host : JsString) (port : Nat) : JsString :=
  if code ≠ enotfound ∧ 0 < port then js " " ++ host ++ js ":" ++ Json.digitsText port
  else if host ≠ [] then js " " ++ host
  else []

def message (host : JsString) (port : Nat) : JsString :=
  code.failure ++ code.details host port

def error (host : JsString) (port : Nat) (stack : Option JsString) (name : JsString) :
    SSHConnectionError where
  message := code.message host port
  code := some code.text
  stack := stack
  name := name

end NetworkCode

-- What `toLowerCase` does with the ASCII letters that begin a text, whatever follows.
def LowersStart (runtime : Runtime) : Prop :=
  ∀ ascii rest : JsString, (∀ unit ∈ ascii, unit < 128) →
    ascii.map lowerUnit <+: runtime.toLowerCase (ascii ++ rest)

theorem lowersStart_asciiRuntime : LowersStart asciiRuntime := by
  intro ascii rest _
  show ascii.map lowerUnit <+: (ascii ++ rest).map lowerUnit
  rw [List.map_append]
  exact List.prefix_append _ _

-- The error is reported as one of the network, the session keeps its credentials, the
-- report is that of the error without its host, and the validator says the same.
structure ReportedAsNetwork (runtime : Runtime) (code : NetworkCode) (level : Option JsString)
    (error : SSHConnectionError) : Prop where
  kind : determineErrorType runtime (normalizeSSHErrorMessage error) = .network ∨
    determineErrorType runtime (normalizeSSHErrorMessage error) = .timeout
  kept : ∀ session,
    emitConnectionError runtime (normalizeSSHErrorMessage error) session = session
  hostless : determineErrorType runtime (normalizeSSHErrorMessage error) =
    determineErrorType runtime code.failure
  agrees : analyzeConnectionError runtime error.code level error.message =
    determineErrorType runtime (normalizeSSHErrorMessage error)

-- The words of a message by which it is reported as something else than of the network.
def flippingWords : List String :=
  ["authentication", "auth", "password", "permission denied", "algorithm", "handshake",
    "no matching", "timeout", "timed out"]

def resolvingWords : List String :=
  dnsMessagePatterns ++ connectionRefusedPatterns

def resetWords : List String :=
  ["etimedout", "econnreset"]

-- The lower-cased message has none of the flipping words, and the validator's words as
-- the code needs them.
structure Undisturbed (code : NetworkCode) (lower : JsString) : Prop where
  unflipped : messageContains lower flippingWords = false
  timedOut : code = .etimedout → messageContains lower resolvingWords = true
  hostUnreachable : code = .ehostunreach → messageContains lower resolvingWords = true ∨
    messageContains lower resetWords = false ∧
      messageContains lower networkUnreachablePatterns = true
  networkUnreachable : code = .enetunreach → messageContains lower resolvingWords = true ∨
    messageContains lower resetWords = false

end NodeErrors

section Classification

variable {runtime : Runtime}

theorem messageContains_append (message : JsString) (first second : List String) :
    messageContains message (first ++ second) =
      (messageContains message first || messageContains message second) :=
  List.any_append

theorem includes_of_prefix {pattern start text : JsString} (hstart : start <+: text)
    (h : includes pattern start = true) : includes pattern text = true := by
  rw [includes, Text.cut_isSome_iff] at h ⊢
  exact h.trans hstart.isInfix

variable (code : NetworkCode)

theorem message_ne_nil (host : JsString) (port : Nat) : code.message host port ≠ [] := by
  refine List.append_ne_nil_of_left_ne_nil ?_ _
  cases code with
  | enotfound => decide
  | econnrefused => decide
  | etimedout => decide
  | ehostunreach => decide
  | enetunreach => decide

theorem normalize_error (host : JsString) (port : Nat) (stack : Option JsString) (name : JsString) :
    normalizeSSHErrorMessage (code.error host port stack name) = code.message host port :=
  if_pos (message_ne_nil code host port)

theorem failure_ascii : ∀ unit ∈ code.failure, unit < 128 := by
  cases code with
  | enotfound => decide
  | econnrefused => decide
  | etimedout => decide
  | ehostunreach => decide
  | enetunreach => decide

theorem determineErrorType_eq (runtime : Runtime) (message : JsString) :
    determineErrorType runtime message =
      if messageContains (runtime.toLowerCase message)
        ["authentication", "auth", "password", "permission denied"] then .auth
      else if messageContains (runtime.toLowerCase message)
        ["algorithm", "handshake", "no matching"] then .algorithm
      else if messageContains (runtime.toLowerCase message) ["timeout", "timed out"] then .timeout
      else if messageContains (runtime.toLowerCase message)
        ["econnrefused", "enotfound", "connect", "network", "unreachable"] then .network
      else .unknown :=
  rfl

theorem determineErrorType_network_iff {message : JsString}
    (hnetwork : messageContains (runtime.toLowerCase message)
      ["econnrefused", "enotfound", "connect", "network", "unreachable"] = true) :
    determineErrorType runtime message = .network ↔
      messageContains (runtime.toLowerCase message) flippingWords = false := by
  have hsplit : flippingWords = ["authentication", "auth", "password", "permission denied"] ++
      (["algorithm", "handshake", "no matching"] ++ ["timeout", "timed out"]) := rfl
  rw [determineErrorType_eq, hsplit, messageContains_append, messageContains_append, hnetwork]
  generalize messageContains _ ["authentication", "auth", "password", "permission denied"] = auth
  generalize messageContains _ ["algorithm", "handshake", "no matching"] = algorithm
  generalize messageContains _ ["timeout", "timed out"] = timeout
  cases auth <;> cases algorithm <;> cases timeout <;> decide

theorem message_networkWords (hstart : LowersStart runtime) (code : NetworkCode)
    (host : JsString) (port : Nat) :
    messageContains (runtime.toLowerCase (code.message host port))
      ["econnrefused", "enotfound", "connect", "network", "unreachable"] = true := by
  have hlower := hstart code.failure (code.details host port) (failure_ascii code)
  have hword : ∀ word : String,
      word ∈ ["econnrefused", "enotfound", "connect", "network", "unreachable"] →
      includes (js word) (code.failure.map lowerUnit) = true →
      messageContains (runtime.toLowerCase (code.message host port))
        ["econnrefused", "enotfound", "connect", "network", "unreachable"] = true := by
    intro word hmem hincludes
    exact List.any_eq_true.mpr ⟨word, hmem, includes_of_prefix hlower hincludes⟩
  cases code with
  | enotfound => exact hword "enotfound" (by decide) (by decide)
  | econnrefused | etimedout | ehostunreach | enetunreach =>
    exact hword "connect" (by decide) (by decide)

theorem determineErrorType_failure (hlower : LowersAscii runtime) (code : NetworkCode) :
    determineErrorType runtime code.failure = .network := by
  rw [determineErrorType_eq, hlower _ (failure_ascii code)]
  cases code with
  | enotfound => decide +kernel
  | econnrefused => decide +kernel
  | etimedout => decide +kernel
  | ehostunreach => decide +kernel
  | enetunreach => decide +kernel

-- Each of the validator's lists has one of the codes, and `EHOSTUNREACH` is in none.
theorem codeMatches_text :
    codeMatches (some code.text) dnsErrorCodes = decide (code = .enotfound) ∧
      codeMatches (some code.text) connectionRefusedCodes = decide (code = .econnrefused) ∧
      codeMatches (some code.text) timeoutErrorCodes = decide (code = .etimedout) ∧
      codeMatches (some code.text) networkUnreachableCodes = decide (code = .enetunreach) := by
  cases code with
  | enotfound => decide +kernel
  | econnrefused => decide +kernel
  | etimedout => decide +kernel
  | ehostunreach => decide +kernel
  | enetunreach => decide +kernel

-- The validator by what it finds in the message.
theorem analyze_network_iff (code : NetworkCode) (level : Option JsString)
    (message : JsString) :
    let lower := runtime.toLowerCase message
    analyzeConnectionError runtime (some code.text) level message = .network ↔
      (code = .etimedout → messageContains lower resolvingWords = true) ∧
      (code = .ehostunreach → messageContains lower resolvingWords = true ∨
        messageContains lower timeoutMessagePatterns = false ∧
          messageContains lower networkUnreachablePatterns = true) ∧
      (code = .enetunreach → messageContains lower resolvingWords = true ∨
        messageContains lower timeoutMessagePatterns = false) := by
  unfold analyzeConnectionError isDnsResolutionIssue isConnectionRefused isTimeoutScenario
    isNetworkUnreachable
  dsimp only
  generalize runtime.toLowerCase message = lower
  have hresolving : messageContains lower resolvingWords =
      (messageContains lower dnsMessagePatterns ||
        messageContains lower connectionRefusedPatterns) :=
    messageContains_append lower _ _
  obtain ⟨hdns, hrefused, htimeout, hunreachable⟩ := codeMatches_text code
  rw [hresolving, hdns, hrefused, htimeout, hunreachable]
  generalize messageContains lower dnsMessagePatterns = dns
  generalize messageContains lower connectionRefusedPatterns = refused
  generalize messageContains lower timeoutMessagePatterns = timeout
  generalize messageContains lower networkUnreachablePatterns = unreachable
  generalize isAuthenticationFailure level lower = authentication
  cases code with
  | enotfound => simp
  | econnrefused => simp
  | etimedout => cases dns <;> cases refused <;> simp
  | ehostunreach =>
    cases dns <;> cases refused <;> cases timeout <;> cases unreachable <;>
      cases authentication <;> simp
  | enetunreach => cases dns <;> cases refused <;> cases timeout <;> simp

-- A message without flipping words names no other timeout than a reset.
theorem timeoutPatterns_of_unflipped {lower : JsString}
    (h : messageContains lower flippingWords = false) :
    messageContains lower timeoutMessagePatterns = messageContains lower resetWords := by
  have hflipping : flippingWords = ["authentication", "auth", "password", "permission denied",
      "algorithm", "handshake", "no matching"] ++ (["timeout"] ++ ["timed out"]) := rfl
  have htimeout : timeoutMessagePatterns = ["timeout"] ++ resetWords := rfl
  rw [hflipping, messageContains_append, messageContains_append, Bool.or_eq_false_iff,
    Bool.or_eq_false_iff] at h
  rw [htimeout, messageContains_append, h.2.1, Bool.false_or]

-- A network error is reported as one exactly where its host has none of the words that
-- the two classifiers look for, or those by which they meet.
theorem reportedAsNetwork_iff (runtime : Runtime) (hlower : LowersAscii runtime)
    (hstart : LowersStart runtime) (code : NetworkCode) (host : JsString) (port : Nat)
    (level stack : Option JsString) (name : JsString) :
    ReportedAsNetwork runtime code level (code.error host port stack name) ↔
      Undisturbed code (runtime.toLowerCase (code.message host port)) := by
  have hnormalized := normalize_error code host port stack name
  have hdetermine := determineErrorType_network_iff (message_networkWords hstart code host port)
  have hanalyze := @analyze_network_iff runtime code level (code.message host port)
  dsimp only at hanalyze
  constructor
  · intro h
    have hnetwork := h.hostless
    rw [hnormalized, determineErrorType_failure hlower] at hnetwork
    have hunflipped := hdetermine.mp hnetwork
    have hagrees : analyzeConnectionError runtime (some code.text) level
        (code.message host port) = .network := by
      have := h.agrees
      rwa [hnormalized, hnetwork] at this
    obtain ⟨htimed, hhost, hnet⟩ := hanalyze.mp hagrees
    rw [timeoutPatterns_of_unflipped hunflipped] at hhost hnet
    exact ⟨hunflipped, htimed, hhost, hnet⟩
  · intro h
    have hnetwork := hdetermine.mpr h.unflipped
    have hagrees : analyzeConnectionError runtime (some code.text) level
        (code.message host port) = .network := by
      refine hanalyze.mpr ⟨h.timedOut, ?_, ?_⟩
      · rw [timeoutPatterns_of_unflipped h.unflipped]
        exact h.hostUnreachable
      · rw [timeoutPatterns_of_unflipped h.unflipped]
        exact h.networkUnreachable
    refine ⟨?_, fun session => ?_, ?_, ?_⟩
    · rw [hnormalized]
      exact .inl hnetwork
    · rw [hnormalized, emitConnectionError, hnetwork]
      exact if_neg (by decide)
    · rw [hnormalized, hnetwork, determineErrorType_failure hlower]
    · rw [hnormalized, hnetwork]
      exact hagrees

-- A host that is not found, with no keyword in its name.
theorem reportedAsNetwork_iff_plain :
    ReportedAsNetwork asciiRuntime .enotfound none
        (NetworkCode.enotfound.error (js "host.example.com") 22 none (js "Error")) ↔
      Undisturbed .enotfound (asciiRuntime.toLowerCase
        (NetworkCode.enotfound.message (js "host.example.com") 22)) :=
  reportedAsNetwork_iff asciiRuntime lowersAscii_asciiRuntime lowersStart_asciiRuntime .enotfound
    (js "host.example.com") 22 none none (js "Error")

-- One that is not found either, with a keyword in its name.
theorem reportedAsNetwork_not_authHost :
    ¬∀ (code : NetworkCode) (host : JsString) (port : Nat) (level stack : Option JsString)
      (name : JsString),
      ReportedAsNetwork asciiRuntime code level (code.error host port stack name) := by
  intro hall
  have hkind := (hall .enotfound (js "auth.example.com") 22 none none (js "Error")).kind
  have hauth : determineErrorType asciiRuntime (normalizeSSHErrorMessage
      (NetworkCode.enotfound.error (js "auth.example.com") 22 none (js "Error"))) = .auth := by
    decide
  rw [hauth] at hkind
  rcases hkind with h | h
  · cases h
  · cases h

end Classification

end WebSsh2.Socket

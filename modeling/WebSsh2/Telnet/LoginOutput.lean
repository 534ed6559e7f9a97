import WebSsh2.Telnet.Credentials

namespace WebSsh2.Telnet

open WebSsh2.Library.Run WebSsh2.Library.Trace

def entersResult (entry : LoginEntry) : Bool :=
  entry.state ≠ .waitingResult ∧ entry.next = .waitingResult

-- What was received and delivered after the authenticator began to wait for the result.
def receivedSince (log : List LoginEntry) : Bytes :=
  (since entersResult log).flatMap LoginEntry.received

def deliveredSince (log : List LoginEntry) : Bytes :=
  (since entersResult log).flatMap fun entry => entry.shown.delivered

-- A complete authenticator holds nothing back, and the buffer is bounded.
def Login.Conserves (login : Login) : Prop :=
  login.auth.buffer.length ≤ MAX_AUTH_BUFFER_BYTES ∧
    (login.auth.currentState.isWaiting = false → deliveredSince login.log = receivedSince login.log)

-- The failure pattern matches only with what an earlier chunk brought.
def Loses (options : AuthOptions) (state : AuthState) (buffer received : Bytes) : Prop :=
  state = .waitingResult ∧ buffer ≠ [] ∧ received ≠ [] ∧
    (buffer ++ received).length ≤ MAX_AUTH_BUFFER_BYTES ∧
    isFailure options (buffer ++ received) = true

def Login.Spares (options : AuthOptions) (login : Login) (event : AuthEvent) : Prop :=
  ¬Loses options login.auth.currentState login.auth.buffer event.received

-- What the log says in each state: nothing is delivered before the result is known, and
-- until then the buffer has everything.
structure Buffered (state : AuthState) (buffer : Bytes) (log : List LoginEntry) : Prop where
  bounded : buffer.length ≤ MAX_AUTH_BUFFER_BYTES
  atResult : state = .waitingResult → log.any entersResult = true ∧ deliveredSince log = [] ∧
    receivedSince log = buffer
  before : state = .waitingLogin ∨ state = .waitingPassword → log.any entersResult = false

section Log

variable {log : List LoginEntry} {entry : LoginEntry}

theorem since_entered (h : log.any entersResult = true) :
    receivedSince (log ++ [entry]) = receivedSince log ++ entry.received ∧
      deliveredSince (log ++ [entry]) = deliveredSince log ++ entry.shown.delivered := by
  unfold receivedSince deliveredSince
  rw [since_concat, if_pos h, List.flatMap_append, List.flatMap_append, List.flatMap_singleton,
    List.flatMap_singleton]
  exact ⟨rfl, rfl⟩

theorem since_not_entered (h : log.any entersResult = false) :
    receivedSince (log ++ [entry]) = [] ∧ deliveredSince (log ++ [entry]) = [] := by
  unfold receivedSince deliveredSince
  rw [since_concat, h]
  exact ⟨rfl, rfl⟩

theorem any_concat : (log ++ [entry]).any entersResult =
    (log.any entersResult || entersResult entry) := by
  rw [List.any_append, List.any_cons, List.any_nil, Bool.or_false]

end Log

section Steps

variable {options : AuthOptions} {state next : AuthState} {buffer received nextBuffer : Bytes}
  {shown : Shown} {log : List LoginEntry}

theorem Moves.bounded (h : Moves options state buffer received next nextBuffer shown)
    (hbuffer : buffer.length ≤ MAX_AUTH_BUFFER_BYTES) :
    nextBuffer.length ≤ MAX_AUTH_BUFFER_BYTES := by
  cases h with
  | stays | passes => exact hbuffer
  | buffers _ hlength => exact hlength
  | overflows | username | password | fails | timesOut | settles => exact Nat.zero_le _

theorem entersResult_same : entersResult { state := state, next := state, received, shown } =
    false := by
  simp [entersResult]

theorem Buffered.atResult_concat (hlog : Buffered state buffer log)
    (hstate : state = .waitingResult) {entry : LoginEntry} (hquiet : entry.shown.delivered = []) :
    (log ++ [entry]).any entersResult = true ∧ deliveredSince (log ++ [entry]) = [] ∧
      receivedSince (log ++ [entry]) = buffer ++ entry.received := by
  obtain ⟨hentered, hdelivered, hreceived⟩ := hlog.atResult hstate
  obtain ⟨hreceivedNow, hdeliveredNow⟩ := @since_entered log entry hentered
  rw [any_concat, hentered, hreceivedNow, hdeliveredNow, hdelivered, hreceived, hquiet]
  exact ⟨rfl, rfl, rfl⟩

theorem Buffered.enters (hlog : Buffered state buffer log)
    (hstate : state = .waitingLogin ∨ state = .waitingPassword) {entry : LoginEntry}
    (henters : entersResult entry = true) :
    (log ++ [entry]).any entersResult = true ∧ deliveredSince (log ++ [entry]) = [] ∧
      receivedSince (log ++ [entry]) = [] := by
  obtain ⟨hreceived, hdelivered⟩ := @since_not_entered log entry (hlog.before hstate)
  rw [any_concat, henters, Bool.or_true]
  exact ⟨rfl, hdelivered, hreceived⟩

theorem Buffered.moves (hlog : Buffered state buffer log)
    (h : Moves options state buffer received next nextBuffer shown) :
    Buffered next nextBuffer (log ++ [{ state := state, next, received, shown }]) where
  bounded := h.bounded hlog.bounded
  atResult := by
    intro hnext
    cases h with
    | stays =>
      have hsame := @Buffered.atResult_concat _ _ _ hlog hnext
        { state := state, next := state, received := [], shown := {} } rfl
      rwa [List.append_nil] at hsame
    | passes _ _ hcomplete =>
      rw [hnext] at hcomplete
      cases hcomplete
    | buffers => exact hlog.atResult_concat hnext rfl
    | username hchoice =>
      subst hnext
      exact hlog.enters (.inl rfl) rfl
    | password => exact hlog.enters (.inr rfl) rfl
    | overflows | fails | timesOut | settles => cases hnext
  before := by
    intro hnext
    rw [any_concat]
    cases h with
    | stays | passes | buffers => rw [hlog.before hnext, entersResult_same, Bool.or_false]
    | username =>
      rw [hlog.before (.inl rfl)]
      rcases hnext with rfl | rfl <;> rfl
    | password | overflows | fails | timesOut | settles =>
      rcases hnext with hnext | hnext <;> cases hnext

theorem balanced_concat {entry : LoginEntry} (hlog : deliveredSince log = receivedSince log)
    (hentry : entry.shown.delivered = entry.received) :
    deliveredSince (log ++ [entry]) = receivedSince (log ++ [entry]) := by
  cases hentered : log.any entersResult with
  | true =>
    obtain ⟨hreceived, hdelivered⟩ := @since_entered log entry hentered
    rw [hreceived, hdelivered, hlog, hentry]
  | false =>
    obtain ⟨hreceived, hdelivered⟩ := @since_not_entered log entry hentered
    rw [hreceived, hdelivered]

-- The whole buffer goes out, with what came last.
theorem Buffered.flushed (hlog : Buffered state buffer log) (hstate : state.isWaiting = true)
    {entry : LoginEntry} (hentry : entry.shown.delivered = buffer ++ entry.received) :
    deliveredSince (log ++ [entry]) = receivedSince (log ++ [entry]) := by
  by_cases hresult : state = .waitingResult
  · obtain ⟨hentered, hdelivered, hreceived⟩ := hlog.atResult hresult
    obtain ⟨hreceivedNow, hdeliveredNow⟩ := @since_entered log entry hentered
    rw [hreceivedNow, hdeliveredNow, hdelivered, hreceived, hentry]
    rfl
  · have hbefore : state = .waitingLogin ∨ state = .waitingPassword := by
      cases state <;> simp_all [AuthState.isWaiting]
    obtain ⟨hreceived, hdelivered⟩ := @since_not_entered log entry (hlog.before hbefore)
    rw [hreceived, hdelivered]

theorem Buffered.fails_iff (hlog : Buffered .waitingResult buffer log) {entry : LoginEntry}
    (hentry : entry.shown.delivered = entry.received) :
    deliveredSince (log ++ [entry]) = receivedSince (log ++ [entry]) ↔ buffer = [] := by
  obtain ⟨hentered, hdelivered, hreceived⟩ := hlog.atResult rfl
  obtain ⟨hreceivedNow, hdeliveredNow⟩ := @since_entered log entry hentered
  rw [hreceivedNow, hdeliveredNow, hdelivered, hreceived, hentry, List.nil_append,
    List.self_eq_append_left]

theorem not_loses_of_state (hstate : state ≠ .waitingResult) :
    ¬Loses options state buffer received :=
  fun hloses => hstate hloses.1

theorem not_loses_nil : ¬Loses options state buffer [] :=
  fun hloses => hloses.2.2.1 rfl

theorem Buffered.conserved_iff (hlog : Buffered state buffer log)
    (hbalanced : state.isWaiting = false → deliveredSince log = receivedSince log)
    (h : Moves options state buffer received next nextBuffer shown) :
    (next.isWaiting = false →
        deliveredSince (log ++ [{ state := state, next, received, shown }]) =
          receivedSince (log ++ [{ state := state, next, received, shown }])) ↔
      ¬Loses options state buffer received := by
  cases h with
  | stays =>
    refine iff_of_true (fun hcomplete => ?_) not_loses_nil
    exact balanced_concat (hbalanced hcomplete) rfl
  | passes _ _ hcomplete =>
    refine iff_of_true (fun _ => balanced_concat (hbalanced hcomplete) rfl) ?_
    apply not_loses_of_state
    rintro rfl
    cases hcomplete
  | buffers hwaiting _ hresult =>
    refine iff_of_true (fun hcomplete => Bool.noConfusion (hwaiting.symm.trans hcomplete)) ?_
    rintro ⟨hstate, -, -, -, hfailure⟩
    exact Bool.noConfusion (hfailure.symm.trans (hresult hstate))
  | overflows hwaiting hlength =>
    refine iff_of_true (fun _ => hlog.flushed hwaiting rfl) ?_
    rintro ⟨-, -, -, hle, -⟩
    omega
  | username hnext =>
    refine iff_of_true (fun hcomplete => ?_) (not_loses_of_state (by decide))
    rcases hnext with rfl | rfl <;> cases hcomplete
  | password =>
    exact iff_of_true (fun hcomplete => Bool.noConfusion hcomplete)
      (not_loses_of_state (by decide))
  | fails hreceived hlength hfailure =>
    rw [forall_prop_of_true (show AuthState.failed.isWaiting = false from rfl),
      hlog.fails_iff rfl]
    constructor
    · rintro rfl ⟨-, hbuffer, -⟩
      exact hbuffer rfl
    · intro hspared
      by_contra hbuffer
      exact hspared ⟨rfl, hbuffer, hreceived, hlength, hfailure⟩
  | timesOut _ hwaiting =>
    exact iff_of_true (fun _ => hlog.flushed hwaiting (List.append_nil _).symm) not_loses_nil
  | settles =>
    exact iff_of_true (fun _ => hlog.flushed rfl (List.append_nil _).symm) not_loses_nil

end Steps

theorem buffered_nil {state : AuthState} (hstate : state ≠ .waitingResult) :
    Buffered state [] [] where
  bounded := Nat.zero_le _
  atResult := fun h => (hstate h).elim
  before := fun _ => rfl

theorem step_conserves_iff {options : AuthOptions} {login : Login}
    (hbuffered : login.Holds options Buffered) (h : login.Conserves) (event : AuthEvent) :
    (login.step event).Conserves ↔ login.Spares options event := by
  obtain ⟨hoptions, hsettled, hlog⟩ := hbuffered
  obtain ⟨hmoves, -, -⟩ := react_reacts login.auth hsettled event
  rw [hoptions] at hmoves
  have hbounded : (login.step event).auth.buffer.length ≤ MAX_AUTH_BUFFER_BYTES :=
    (hlog.moves hmoves).bounded
  unfold Login.Conserves
  rw [and_iff_right hbounded]
  exact hlog.conserved_iff h.2 hmoves

-- However the output is cut, and whatever timers fire: everything that comes after the
-- credentials is delivered once and in order, exactly when no failure message is matched
-- with the help of an earlier chunk.
theorem throughout_conserves_iff (options : AuthOptions) (events : List AuthEvent) :
    Throughout Login.step Login.Conserves (Login.start options) events ↔
      Along Login.step (Login.Spares options) (Login.start options) events := by
  refine @throughout_iff_along _ _ Login.step (Login.Holds options Buffered) Login.Conserves
    (Login.Spares options) ?_ ?_ _ ?_ ?_ events
  · exact fun login event h =>
      step_holds (fun _ _ _ _ _ _ _ hlog hmoves => hlog.moves hmoves) h event
  · exact fun login event hbuffered h => step_conserves_iff hbuffered h event
  · exact start_holds (buffered_nil (resolveInitialState_ne options).2)
  · obtain ⟨-, -, hbuffered⟩ := start_holds (P := Buffered)
      (buffered_nil (resolveInitialState_ne options).2)
    exact ⟨hbuffered.bounded, fun _ => rfl⟩

-- A login without a password, where the failure message comes in two parts.
def incorrectLogin : AuthOptions where
  username := some (js "guest")
  loginPrompt := some fun text => decide (bufferFrom (js "login:") <:+: text)
  failurePattern := some fun text => decide (bufferFrom (js "incorrect") <:+: text)

theorem incorrectLogin_not_conserved :
    ¬Throughout Login.step Login.Conserves (Login.start incorrectLogin)
      [.data (bufferFrom (js "login:")), .data (bufferFrom (js "Login in")),
        .data (bufferFrom (js "correct"))] := by
  intro h
  have hlast := (throughout_last Login.step h).2 (by decide)
  exact absurd hlast (by decide)

end WebSsh2.Telnet

import WebSsh2.Library.Run
import WebSsh2.Telnet.Authenticator

namespace WebSsh2.Telnet

open WebSsh2.Library.Run

structure LoginEntry where
  state : AuthState
  next : AuthState
  received : Bytes
  shown : Shown

-- The authenticator, and what it was given and did so far.
structure Login where
  auth : Authenticator
  log : List LoginEntry := []

def AuthEvent.received : AuthEvent → Bytes
  | .data cleanData => cleanData
  | _ => []

def Login.step (login : Login) (event : AuthEvent) : Login :=
  let (auth, shown) := login.auth.react event
  { auth
    log := login.log ++ [{
      state := login.auth.currentState, next := auth.currentState, received := event.received,
      shown }] }

def Login.start (options : AuthOptions) : Login where
  auth := Authenticator.start options

-- Everything that one step can do: from a state and a buffer, with the bytes received, to
-- a state and a buffer.
inductive Moves (options : AuthOptions) :
    AuthState → Bytes → Bytes → AuthState → Bytes → Shown → Prop where
  | stays (state : AuthState) (buffer : Bytes) : Moves options state buffer [] state buffer {}
  | passes {state : AuthState} (buffer received : Bytes) (hstate : state.isWaiting = false) :
      Moves options state buffer received state buffer { delivered := received }
  | buffers {state : AuthState} {buffer received : Bytes} (hstate : state.isWaiting = true)
      (hlength : (buffer ++ received).length ≤ MAX_AUTH_BUFFER_BYTES)
      (hresult : state = .waitingResult → isFailure options (buffer ++ received) = false) :
      Moves options state buffer received state (buffer ++ received) {}
  | overflows {state : AuthState} {buffer received : Bytes} (hstate : state.isWaiting = true)
      (hlength : MAX_AUTH_BUFFER_BYTES < (buffer ++ received).length) :
      Moves options state buffer received .passThrough [] { delivered := buffer ++ received }
  | username {buffer received : Bytes} {next : AuthState}
      (hnext : next = .waitingPassword ∨ next = .waitingResult) :
      Moves options .waitingLogin buffer received next []
        { written := some (line options.username) }
  | password {buffer received : Bytes} {passwordPrompt : Bytes → Bool}
      (hprompt : options.passwordPrompt = some passwordPrompt)
      (hmatch : passwordPrompt (buffer ++ received) = true) :
      Moves options .waitingPassword buffer received .waitingResult []
        { written := some (line options.password) }
  | fails {buffer received : Bytes} (hreceived : received ≠ [])
      (hlength : (buffer ++ received).length ≤ MAX_AUTH_BUFFER_BYTES)
      (hfailure : isFailure options (buffer ++ received) = true) :
      Moves options .waitingResult buffer received .failed [] { delivered := received }
  | timesOut {state : AuthState} (buffer : Bytes) (hstate : state.isWaiting = true) :
      Moves options state buffer [] .passThrough [] { delivered := buffer }
  | settles (buffer : Bytes) :
      Moves options .waitingResult buffer [] .authenticated [] { delivered := buffer }

section Frames

-- What a step leaves as it is, and what it reads.
def Authenticator.view (auth : Authenticator) : AuthOptions × AuthState × Bytes × Bool :=
  (auth.options, auth.currentState, auth.buffer, auth.onAuthSettled)

variable (auth : Authenticator)

@[simp] theorem cancelTimeout_view : auth.cancelTimeout.view = auth.view := by
  unfold Authenticator.cancelTimeout
  cases auth.timeoutHandle with
  | none => rfl
  | some handle => rfl

@[simp] theorem cancelResultSettle_view : auth.cancelResultSettle.view = auth.view := by
  unfold Authenticator.cancelResultSettle
  cases auth.resultSettleHandle with
  | none => rfl
  | some handle => rfl

@[simp] theorem destroy_view : auth.destroy.view = auth.view := by
  unfold Authenticator.destroy
  rw [cancelResultSettle_view, cancelTimeout_view]

theorem startTimeout_view : auth.startTimeout.view = auth.view := by
  show auth.cancelTimeout.view = auth.view
  exact cancelTimeout_view auth

theorem start_view (options : AuthOptions) :
    (Authenticator.start options).view = (options, resolveInitialState options, [], true) := by
  have hview := startTimeout_view (.new options)
  unfold Authenticator.view at hview ⊢
  simp only [Prod.mk.injEq] at hview ⊢
  exact ⟨hview.1, hview.2.1, hview.2.2.1, rfl⟩

theorem transitionToPassThrough_view : (auth.transitionToPassThrough).1.view =
    (auth.options, .passThrough, [], auth.onAuthSettled) := by
  unfold Authenticator.transitionToPassThrough
  rw [cancelResultSettle_view, cancelTimeout_view]
  rfl

end Frames

section Steps

-- A step that ends in `next`, with what it shows.
def Reacts (auth : Authenticator) (received : Bytes) (next : Authenticator) (shown : Shown) :
    Prop :=
  Moves auth.options auth.currentState auth.buffer received next.currentState next.buffer shown ∧
    next.options = auth.options ∧ next.onAuthSettled = auth.onAuthSettled

theorem Reacts.of_view {auth next : Authenticator} {received : Bytes} {shown : Shown}
    {state : AuthState} {buffer : Bytes}
    (hview : next.view = (auth.options, state, buffer, auth.onAuthSettled))
    (hmoves : Moves auth.options auth.currentState auth.buffer received state buffer shown) :
    Reacts auth received next shown := by
  unfold Authenticator.view at hview
  simp only [Prod.mk.injEq] at hview
  obtain ⟨hoptions, rfl, rfl, hsettled⟩ := hview
  exact ⟨hmoves, hoptions, hsettled⟩

theorem moves_buffers {auth : Authenticator} {data : Bytes}
    (hstate : auth.currentState.isWaiting = true)
    (hlength : ¬MAX_AUTH_BUFFER_BYTES < (auth.buffer ++ data).length)
    (hresult : auth.currentState = .waitingResult →
      isFailure auth.options (auth.buffer ++ data) = false) :
    Moves auth.options auth.currentState auth.buffer data auth.currentState (auth.buffer ++ data)
      {} :=
  .buffers hstate (Nat.le_of_not_lt hlength) hresult

-- What an answer of the authenticator shows.
def ProcessDataResult.shown (result : ProcessDataResult) : Shown where
  written := result.writeToSocket
  delivered := result.forwardToClient.getD []

variable (auth : Authenticator)

theorem handleWaitingLogin_reacts (hstate : auth.currentState = .waitingLogin) (data : Bytes) :
    Reacts auth data (auth.handleWaitingLogin data).1 (auth.handleWaitingLogin data).2.shown := by
  unfold Authenticator.handleWaitingLogin
  dsimp only
  have hwaiting : auth.currentState.isWaiting = true := by rw [hstate]; rfl
  by_cases hlength : MAX_AUTH_BUFFER_BYTES < (auth.buffer ++ data).length
  · rw [if_pos hlength]
    exact .of_view (transitionToPassThrough_view _) (.overflows hwaiting hlength)
  · rw [if_neg hlength]
    have hbuffers := moves_buffers hwaiting hlength fun hresult =>
      AuthState.noConfusion (hstate.symm.trans hresult)
    cases auth.options.loginPrompt with
    | none => exact .of_view rfl hbuffers
    | some loginPrompt =>
      dsimp only
      by_cases hmatch : loginPrompt (auth.buffer ++ data) = true
      · rw [if_pos hmatch]
        refine .of_view rfl ?_
        rw [hstate]
        apply Moves.username
        by_cases hpassword : hasPassword auth.options = true
        · exact .inl (if_pos hpassword)
        · exact .inr (if_neg hpassword)
      · rw [if_neg hmatch]
        exact .of_view rfl hbuffers

theorem handleWaitingPassword_reacts (hstate : auth.currentState = .waitingPassword)
    (data : Bytes) :
    Reacts auth data (auth.handleWaitingPassword data).1
      (auth.handleWaitingPassword data).2.shown := by
  unfold Authenticator.handleWaitingPassword
  dsimp only
  have hwaiting : auth.currentState.isWaiting = true := by rw [hstate]; rfl
  by_cases hlength : MAX_AUTH_BUFFER_BYTES < (auth.buffer ++ data).length
  · rw [if_pos hlength]
    exact .of_view (transitionToPassThrough_view _) (.overflows hwaiting hlength)
  · rw [if_neg hlength]
    have hbuffers := moves_buffers hwaiting hlength fun hresult =>
      AuthState.noConfusion (hstate.symm.trans hresult)
    cases hprompt : auth.options.passwordPrompt with
    | none => exact .of_view rfl hbuffers
    | some passwordPrompt =>
      dsimp only
      by_cases hmatch : passwordPrompt (auth.buffer ++ data) = true
      · rw [if_pos hmatch]
        refine .of_view rfl ?_
        rw [hstate]
        exact .password hprompt hmatch
      · rw [if_neg hmatch]
        exact .of_view rfl hbuffers

theorem handleWaitingResult_reacts (hstate : auth.currentState = .waitingResult) {data : Bytes}
    (hdata : data ≠ []) :
    Reacts auth data (auth.handleWaitingResult data).1
      (auth.handleWaitingResult data).2.shown := by
  unfold Authenticator.handleWaitingResult
  dsimp only
  have hwaiting : auth.currentState.isWaiting = true := by rw [hstate]; rfl
  by_cases hlength : MAX_AUTH_BUFFER_BYTES < (auth.buffer ++ data).length
  · rw [if_pos hlength]
    exact .of_view (transitionToPassThrough_view _) (.overflows hwaiting hlength)
  · rw [if_neg hlength]
    by_cases hfailure : isFailure auth.options (auth.buffer ++ data) = true
    · rw [if_pos hfailure]
      apply Reacts.of_view
      · rw [cancelResultSettle_view, cancelTimeout_view]
        rfl
      · rw [hstate]
        exact .fails hdata (Nat.le_of_not_lt hlength) hfailure
    · rw [if_neg hfailure]
      have hbuffers := moves_buffers hwaiting hlength fun _ => Bool.eq_false_iff.mpr hfailure
      cases auth.resultSettleHandle with
      | some | none => exact .of_view rfl hbuffers

theorem not_isAuthComplete_iff :
    isAuthComplete auth = false ↔ auth.currentState.isWaiting = true := by
  unfold isAuthComplete AuthState.isWaiting
  cases auth.currentState <;> decide

theorem handleCleanData_reacts (data : Bytes) :
    Reacts auth data (handleCleanData auth data).1 (handleCleanData auth data).2 := by
  unfold handleCleanData
  by_cases hempty : data.length = 0
  · rw [if_pos hempty, List.length_eq_zero_iff.mp hempty]
    exact ⟨.stays _ _, rfl, rfl⟩
  · rw [if_neg hempty]
    have hdata : data ≠ [] := fun hnil => hempty (List.length_eq_zero_iff.mpr hnil)
    by_cases hcomplete : isAuthComplete auth = true
    · rw [if_neg (by simp [hcomplete])]
      refine ⟨.passes _ _ ?_, rfl, rfl⟩
      by_contra hwaiting
      rw [Bool.not_eq_false, ← not_isAuthComplete_iff] at hwaiting
      exact Bool.noConfusion (hwaiting.symm.trans hcomplete)
    · rw [Bool.not_eq_true] at hcomplete
      rw [if_pos (by simp [hcomplete])]
      have hwaiting := (not_isAuthComplete_iff auth).mp hcomplete
      unfold Authenticator.processData
      cases hstate : auth.currentState with
      | waitingLogin => exact handleWaitingLogin_reacts auth hstate data
      | waitingPassword => exact handleWaitingPassword_reacts auth hstate data
      | waitingResult => exact handleWaitingResult_reacts auth hstate hdata
      | authenticated | passThrough | failed => cases hstate ▸ hwaiting

theorem onTimeout_reacts :
    Reacts auth [] auth.onTimeout.1 { delivered := auth.onTimeout.2 } := by
  unfold Authenticator.onTimeout
  by_cases hwaiting : auth.currentState.isWaiting = true
  · rw [if_pos hwaiting]
    exact .of_view rfl (.timesOut _ hwaiting)
  · rw [if_neg hwaiting]
    exact ⟨.stays _ _, rfl, rfl⟩

theorem settleAuthResult_reacts (hsettled : auth.onAuthSettled = true) :
    Reacts auth [] auth.settleAuthResult.1 { delivered := auth.settleAuthResult.2 } := by
  unfold Authenticator.settleAuthResult
  by_cases hstate : auth.currentState = .waitingResult
  · rw [if_neg (not_not_intro hstate)]
    have hview := cancelTimeout_view { auth with currentState := .authenticated, buffer := [] }
    have hregistered : (Authenticator.cancelTimeout
        { auth with currentState := .authenticated, buffer := [] }).onAuthSettled = true :=
      (congrArg (fun view => view.2.2.2) hview).trans hsettled
    dsimp only
    rw [if_pos hregistered]
    refine .of_view hview ?_
    rw [hstate]
    exact .settles auth.buffer
  · rw [if_pos hstate]
    exact ⟨.stays _ _, rfl, rfl⟩

theorem fireTimer_reacts (hsettled : auth.onAuthSettled = true) (handle : Nat) :
    Reacts auth [] (fireTimer auth handle).1 (fireTimer auth handle).2 := by
  unfold fireTimer
  cases auth.timers.callback? handle with
  | none => exact ⟨.stays _ _, rfl, rfl⟩
  | some callback =>
    cases callback with
    | timeout => exact onTimeout_reacts { auth with timers := auth.timers.clearTimeout handle }
    | settle =>
      exact settleAuthResult_reacts { auth with timers := auth.timers.clearTimeout handle }
        hsettled

theorem destroy_reacts : Reacts auth [] auth.destroy {} :=
  .of_view (destroy_view auth) (.stays _ _)

theorem react_reacts (hsettled : auth.onAuthSettled = true) (event : AuthEvent) :
    Reacts auth event.received (auth.react event).1 (auth.react event).2 := by
  cases event with
  | data cleanData => exact handleCleanData_reacts auth cleanData
  | timer handle => exact fireTimer_reacts auth hsettled handle
  | destroy => exact destroy_reacts auth

end Steps

section Runs

variable {options : AuthOptions} {P : AuthState → Bytes → List LoginEntry → Prop}

def KeptByMoves (options : AuthOptions) (P : AuthState → Bytes → List LoginEntry → Prop) : Prop :=
  ∀ state buffer received next nextBuffer shown log, P state buffer log →
    Moves options state buffer received next nextBuffer shown →
      P next nextBuffer (log ++ [{ state := state, next, received, shown }])

-- What the runs of an authenticator that is wired as `shell` does it keep.
def Login.Holds (options : AuthOptions) (P : AuthState → Bytes → List LoginEntry → Prop)
    (login : Login) : Prop :=
  login.auth.options = options ∧ login.auth.onAuthSettled = true ∧
    P login.auth.currentState login.auth.buffer login.log

theorem start_holds (hstart : P (resolveInitialState options) [] []) :
    (Login.start options).Holds options P := by
  have hview := start_view options
  unfold Authenticator.view at hview
  simp only [Prod.mk.injEq] at hview
  obtain ⟨hoptions, hstate, hbuffer, hsettled⟩ := hview
  refine ⟨hoptions, hsettled, ?_⟩
  show P (Authenticator.start options).currentState (Authenticator.start options).buffer []
  rwa [hstate, hbuffer]

theorem step_holds (hmoves : KeptByMoves options P) {login : Login} (h : login.Holds options P)
    (event : AuthEvent) : (login.step event).Holds options P := by
  obtain ⟨hoptions, hsettled, hholds⟩ := h
  obtain ⟨hreacts, hnextOptions, hnextSettled⟩ := react_reacts login.auth hsettled event
  rw [hoptions] at hreacts
  exact ⟨hnextOptions.trans hoptions, hnextSettled.trans hsettled,
    hmoves _ _ _ _ _ _ _ hholds hreacts⟩

theorem run_holds (hstart : P (resolveInitialState options) [] [])
    (hmoves : KeptByMoves options P) (events : List AuthEvent) :
    (run Login.step (Login.start options) events).Holds options P :=
  invariant_of_step (start_holds hstart) (fun _ event h => step_holds hmoves h event) events

end Runs

end WebSsh2.Telnet

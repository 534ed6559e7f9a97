import WebSsh2.Library.Trace
import WebSsh2.Telnet.LoginSteps

namespace WebSsh2.Telnet

open WebSsh2.Library.Run WebSsh2.Library.Trace

-- The username was written once and nothing else was, and the prompt matches what was
-- received after that.
def Prompted (options : AuthOptions) (before : List LoginEntry) (received : Bytes) : Prop :=
  ∃ first login between passwordPrompt, before = first ++ login :: between ∧
    login.state = .waitingLogin ∧ login.shown.written = some (line options.username) ∧
    (∀ other ∈ first ++ between, other.shown.written = none) ∧
    options.passwordPrompt = some passwordPrompt ∧
    passwordPrompt (between.flatMap LoginEntry.received ++ received) = true

-- The buffer is what was received since the username was written.
def AfterUsername (options : AuthOptions) (buffer : Bytes) (log : List LoginEntry) : Prop :=
  ∃ first login between, log = first ++ login :: between ∧
    login.state = .waitingLogin ∧ login.shown.written = some (line options.username) ∧
    (∀ other ∈ first ++ between, other.shown.written = none) ∧
    buffer = between.flatMap LoginEntry.received

structure Discreet (options : AuthOptions) (before : List LoginEntry) (entry : LoginEntry) :
    Prop where
  credentials : ∀ bytes, entry.shown.written = some bytes →
    (entry.state = .waitingLogin ∧ bytes = line options.username ∧
        ∀ earlier ∈ before, earlier.shown.written = none) ∨
      (entry.state = .waitingPassword ∧ bytes = line options.password ∧
        Prompted options before entry.received)
  complete : entry.state.isWaiting = false → entry.shown.written = none ∧ entry.next = entry.state
  absorbing : ∀ earlier ∈ before, earlier.next.isWaiting = false → entry.state = earlier.next

def writesUsername (entry : LoginEntry) : Bool :=
  entry.state = .waitingLogin ∧ entry.shown.written.isSome

def writesPassword (entry : LoginEntry) : Bool :=
  entry.state = .waitingPassword ∧ entry.shown.written.isSome

-- What the log says in each state of the authenticator.
structure Guarded (options : AuthOptions) (state : AuthState) (buffer : Bytes)
    (log : List LoginEntry) : Prop where
  history : History (Discreet options) log
  absorbing : ∀ entry ∈ log, entry.next.isWaiting = false → state = entry.next
  atLogin : state = .waitingLogin → ∀ entry ∈ log, entry.shown.written = none
  atPassword : state = .waitingPassword → AfterUsername options buffer log

section Steps

variable {options : AuthOptions} {state next : AuthState} {buffer received nextBuffer : Bytes}
  {shown : Shown} {log : List LoginEntry}

theorem Moves.of_complete (h : Moves options state buffer received next nextBuffer shown)
    (hstate : state.isWaiting = false) : shown.written = none ∧ next = state := by
  cases h with
  | stays | passes => exact ⟨rfl, rfl⟩
  | buffers hwaiting | overflows hwaiting | timesOut _ hwaiting =>
    exact Bool.noConfusion (hwaiting.symm.trans hstate)
  | username | password | fails | settles => cases hstate

theorem Moves.discreet (h : Moves options state buffer received next nextBuffer shown)
    (hlog : Guarded options state buffer log) :
    Discreet options log { state := state, next, received, shown } where
  credentials := by
    intro bytes hwritten
    cases h with
    | stays | passes | buffers | overflows | fails | timesOut | settles => cases hwritten
    | username => exact .inl ⟨rfl, (Option.some.inj hwritten).symm, hlog.atLogin rfl⟩
    | @password _ _ passwordPrompt hprompt hmatch =>
      obtain ⟨first, login, between, hsplit, hlogin, husername, hothers, rfl⟩ :=
        hlog.atPassword rfl
      exact .inr ⟨rfl, (Option.some.inj hwritten).symm, first, login, between, passwordPrompt,
        hsplit, hlogin, husername, hothers, hprompt, hmatch⟩
  complete := fun hstate => h.of_complete hstate
  absorbing := hlog.absorbing

theorem Guarded.atLogin_moves (hlog : Guarded options state buffer log)
    (h : Moves options state buffer received next nextBuffer shown) (hnext : next = .waitingLogin) :
    state = .waitingLogin ∧ shown.written = none := by
  cases h with
  | stays | passes | buffers => exact ⟨hnext, rfl⟩
  | username hstate =>
    rcases hstate with rfl | rfl <;> cases hnext
  | password | overflows | fails | timesOut | settles => cases hnext

theorem AfterUsername.concat {entry : LoginEntry} (h : AfterUsername options buffer log)
    (hnone : entry.shown.written = none) (hbuffer : nextBuffer = buffer ++ entry.received) :
    AfterUsername options nextBuffer (log ++ [entry]) := by
  obtain ⟨first, login, between, rfl, hlogin, husername, hothers, rfl⟩ := h
  refine ⟨first, login, between ++ [entry], ?_, hlogin, husername, ?_, ?_⟩
  · rw [List.append_assoc, List.cons_append]
  · intro other hmem
    rw [← List.append_assoc] at hmem
    rcases List.mem_append.mp hmem with hold | hnew
    · exact hothers other hold
    · rw [List.mem_singleton.mp hnew]
      exact hnone
  · rw [hbuffer, List.flatMap_append, List.flatMap_singleton]

theorem Guarded.moves (hlog : Guarded options state buffer log)
    (h : Moves options state buffer received next nextBuffer shown) :
    Guarded options next nextBuffer (log ++ [{ state := state, next, received, shown }]) where
  history := history_concat.mpr ⟨hlog.history, h.discreet hlog⟩
  absorbing := by
    intro entry hmem hcomplete
    rcases List.mem_append.mp hmem with hold | hnew
    · have hstate := hlog.absorbing entry hold hcomplete
      rw [← hstate] at hcomplete ⊢
      exact (h.of_complete hcomplete).2
    · rw [List.mem_singleton.mp hnew]
  atLogin := by
    intro hnext entry hmem
    obtain ⟨hstate, hnone⟩ := hlog.atLogin_moves h hnext
    rcases List.mem_append.mp hmem with hold | hnew
    · exact hlog.atLogin hstate entry hold
    · rw [List.mem_singleton.mp hnew]
      exact hnone
  atPassword := by
    intro hnext
    cases h with
    | stays =>
      refine AfterUsername.concat (hlog.atPassword hnext) rfl ?_
      exact (List.append_nil _).symm
    | passes _ _ hcomplete =>
      rw [hnext] at hcomplete
      exact Bool.noConfusion hcomplete
    | buffers => exact AfterUsername.concat (hlog.atPassword hnext) rfl rfl
    | username =>
      refine ⟨log, _, [], rfl, rfl, rfl, ?_, rfl⟩
      rw [List.append_nil]
      exact hlog.atLogin rfl
    | password | overflows | fails | timesOut | settles => cases hnext

end Steps

theorem guarded_nil (options : AuthOptions) (state : AuthState)
    (hstate : state ≠ .waitingPassword) : Guarded options state [] [] where
  history := history_nil _
  absorbing := nofun
  atLogin := fun _ => nofun
  atPassword := fun h => (hstate h).elim

theorem resolveInitialState_ne (options : AuthOptions) :
    resolveInitialState options ≠ .waitingPassword ∧
      resolveInitialState options ≠ .waitingResult := by
  unfold resolveInitialState
  by_cases h : options.loginPrompt.isNone = true ∨ options.username.isNone = true
  · rw [if_pos h]
    decide
  · rw [if_neg h]
    decide

theorem Discreet.username_first {options : AuthOptions} {before : List LoginEntry}
    {entry : LoginEntry} (h : Discreet options before entry) (hmark : writesUsername entry = true) :
    ∀ earlier ∈ before, writesUsername earlier = false := by
  simp only [writesUsername, Bool.decide_and, Bool.and_eq_true, decide_eq_true_eq] at hmark
  obtain ⟨hstate, hsome⟩ := hmark
  obtain ⟨bytes, hwritten⟩ := Option.isSome_iff_exists.mp hsome
  intro earlier hmem
  rcases h.credentials bytes hwritten with ⟨-, -, hnone⟩ | ⟨hpassword, -⟩
  · simp [writesUsername, hnone earlier hmem]
  · cases hstate.symm.trans hpassword

theorem Discreet.password_first {options : AuthOptions} {before : List LoginEntry}
    {entry : LoginEntry} (h : Discreet options before entry) (hmark : writesPassword entry = true) :
    ∀ earlier ∈ before, writesPassword earlier = false := by
  simp only [writesPassword, Bool.decide_and, Bool.and_eq_true, decide_eq_true_eq] at hmark
  obtain ⟨hstate, hsome⟩ := hmark
  obtain ⟨bytes, hwritten⟩ := Option.isSome_iff_exists.mp hsome
  intro earlier hmem
  rcases h.credentials bytes hwritten with ⟨hlogin, -⟩ | ⟨-, -, hprompted⟩
  · cases hstate.symm.trans hlogin
  · obtain ⟨first, login, between, _, rfl, hlogin, -, hothers, -⟩ := hprompted
    rcases List.mem_append.mp hmem with hfirst | hlater
    · simp [writesPassword, hothers earlier (List.mem_append_left _ hfirst)]
    · rcases List.mem_cons.mp hlater with rfl | hbetween
      · simp [writesPassword, hlogin]
      · simp [writesPassword, hothers earlier (List.mem_append_right _ hbetween)]

-- Whatever the patterns match and however data, timers and the end of the shell interleave:
-- each credential is written at most once, in the state that waits for it, the password
-- after its prompt, and a complete authenticator writes nothing and stays as it is.
theorem credentials_guarded (options : AuthOptions) (events : List AuthEvent) :
    History (Discreet options) (run Login.step (Login.start options) events).log ∧
      (run Login.step (Login.start options) events).log.countP writesUsername ≤ 1 ∧
      (run Login.step (Login.start options) events).log.countP writesPassword ≤ 1 ∧
      ∀ entry ∈ (run Login.step (Login.start options) events).log,
        entry.next.isWaiting = false →
          (run Login.step (Login.start options) events).auth.currentState = entry.next := by
  obtain ⟨-, -, hguarded⟩ := @run_holds options (Guarded options)
    (guarded_nil options _ (resolveInitialState_ne options).1)
    (fun _ _ _ _ _ _ _ hlog h => hlog.moves h) events
  refine ⟨hguarded.history, countP_le_one ?_, countP_le_one ?_, hguarded.absorbing⟩
  · exact history_mono (fun before entry h => h.username_first) hguarded.history
  · exact history_mono (fun before entry h => h.password_first) hguarded.history

end WebSsh2.Telnet

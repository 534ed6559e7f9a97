import WebSsh2.Socket.Terminal
import WebSsh2.Library.Requests
import WebSsh2.Library.Run

namespace WebSsh2.Socket

open WebSsh2.Library WebSsh2.Library.Requests WebSsh2.State WebSsh2.Validation

-- The handlers of a socket between their messages: the shell calls that did not
-- answer yet are kept with their numbers. `requested` records the sizes that were
-- asked for and not refused, newest first; no handler reads it.
structure TerminalRun where
  services : TerminalServices
  shared : AdapterSharedState Shell
  pending : OrderedMap Nat ShellCall := OrderedMap.empty
  calls : Nat := 0
  requested : List (Entry Nat Dimensions) := []

inductive TerminalEvent where
  | terminal (settings : JsValue)
  | resize (dimensions : JsValue)
  | complete (call : Nat) (opened : Bool)
  | connections (ssh : OrderedMap ConnectionId ConnectionStatus)

-- The size in the registry of terminals.
def registered (services : TerminalServices) (shared : AdapterSharedState Shell) :
    Option Dimensions :=
  shared.sessionId.bind fun sessionId =>
    (services.terminal.terminals.get sessionId).map Terminal.size

-- The window of the remote side, as it was announced last.
def remoteWindow (protocol : Protocol) (services : TerminalServices)
    (shared : AdapterSharedState Shell) : Option Dimensions :=
  match protocol with
  | .ssh =>
    match shared.shellStream with
    | some (.channel window) => some window
    | _ => none
  | .telnet =>
    match services.telnet, shared.connectionId with
    | some connections, some connectionId => (connections.get connectionId).bind (·.window)
    | _, _ => none

namespace TerminalRun

def registeredSize (state : TerminalRun) : Option Dimensions :=
  registered state.services state.shared

def remoteSize (protocol : Protocol) (state : TerminalRun) : Option Dimensions :=
  remoteWindow protocol state.services state.shared

end TerminalRun

section Step

variable (runtime : Runtime) (windowChange : Dimensions → Bool) (protocol : Protocol)
  (sessionEnv : Option EnvVars)

variable (state : TerminalRun)

def stepTerminal (settings : JsValue) : TerminalRun :=
  let size := (buildTerminalDefaults settings sessionEnv state.shared.initialTermSettings).size
  match handleTerminal protocol state.services state.shared sessionEnv settings with
  | (services, .called call) => {
      state with
      services
      pending := state.pending.set state.calls call
      calls := state.calls + 1
      requested := { call := some state.calls, value := size } :: state.requested }
  | (services, _) => { state with services }

def resizeOutcome (dimensions : JsValue) : ResizeOutcome :=
  (handleResize runtime windowChange protocol state.services state.shared dimensions).2.2

def stepResize (dimensions : JsValue) : TerminalRun :=
  let (services, shared, outcome) :=
    handleResize runtime windowChange protocol state.services state.shared dimensions
  let requested :=
    match readDimensions dimensions with
    | some size =>
      if outcome = .done ∨ outcome = .deferred then
        { call := none, value := size } :: state.requested
      else
        state.requested
    | none => state.requested
  { state with services, shared, requested }

-- An SSH server may refuse the shell; a telnet stream is there in any case.
def stepComplete (call : Nat) (opened : Bool) : TerminalRun :=
  match state.pending.get call with
  | none => state
  | some (.telnet _) => {
      state with
      pending := state.pending.delete call
      shared := { state.shared with shellStream := some .duplex } }
  | some (.ssh request) =>
    if opened then {
      state with
      pending := state.pending.delete call
      shared := { state.shared with shellStream := some (.channel request.size) } }
    else {
      state with
      pending := state.pending.delete call
      requested := withdraw call state.requested }

def terminalStep : TerminalEvent → TerminalRun
  | .terminal settings => stepTerminal protocol sessionEnv state settings
  | .resize dimensions => stepResize runtime windowChange protocol state dimensions
  | .complete call opened => stepComplete state call opened
  | .connections ssh => { state with services := { state.services with ssh } }

-- The shell is open and no call waits: all three sizes are one.
def SizesAgree : Prop :=
  state.shared.shellStream ≠ none → state.pending.entries = [] →
    state.registeredSize ≠ none ∧ state.remoteSize protocol = state.registeredSize ∧
      state.requested.head?.map Entry.value = state.registeredSize

def Refused (outcome : ResizeOutcome) : Prop :=
  outcome = .thrown ∨ ∃ message, outcome = .refused message

def RefusalKeeps : TerminalEvent → Prop
  | .resize dimensions =>
    let next := stepResize runtime windowChange protocol state dimensions
    Refused (resizeOutcome runtime windowChange protocol state dimensions) →
      next.registeredSize = state.registeredSize ∧
        next.remoteSize protocol = state.remoteSize protocol
  | _ => True

-- The remote side takes a size that is sent now, or there is none to send it to.
def reachesRemote (services : TerminalServices) (shared : AdapterSharedState Shell)
    (size : Dimensions) : Bool :=
  match protocol with
  | .ssh =>
    match shared.shellStream with
    | some (.channel _) => windowChange size
    | _ => true
  | .telnet =>
    match services.telnet, shared.connectionId with
    | some _, some _ => (remoteWindow .telnet services shared).isSome
    | _, _ => true

-- A resize that one side refuses asks for what the other side has, and a shell
-- that opens brings the registered size.
def sizeSafe : TerminalEvent → Bool
  | .resize dimensions =>
    match readDimensions dimensions, state.registeredSize with
    | some size, some current =>
      match TerminalService.checkDimensions runtime size with
      | .ok () =>
        reachesRemote windowChange protocol state.services state.shared size ||
          size = current
      | .error _ =>
        !reachesRemote windowChange protocol state.services state.shared size ||
          (state.remoteSize protocol).all (· = size)
    | _, _ => true
  | .complete call opened =>
    match state.pending.get call with
    | some (.ssh request) => !opened || state.registeredSize = some request.size
    | some (.telnet _) => state.remoteSize protocol = state.registeredSize
    | none => true
  | _ => true

end Step

section Resize

variable {runtime : Runtime} {windowChange : Dimensions → Bool} {protocol : Protocol}

-- A size the registry compares with its bounds can be put into bytes.
theorem encodable_of_checkDimensions {size : Dimensions}
    (h : TerminalService.checkDimensions runtime size = .ok ()) :
    TelnetService.encodable runtime size = true := by
  unfold TerminalService.checkDimensions TerminalService.either TerminalService.compare at h
  unfold TelnetService.encodable
  cases hrows : toNumber runtime size.rows with
  | none =>
    simp only [hrows] at h
    cases h
  | some rows =>
    cases hcols : toNumber runtime size.cols with
    | none =>
      simp only [hrows, hcols] at h
      cases hsmall : rows.le (.ofInt 0) <;> rw [hsmall] at h <;> cases h
    | some cols => rfl

theorem resizeRemote_frame (services : TerminalServices) (shared : AdapterSharedState Shell)
    (size : Dimensions) :
    let sent := resizeRemote runtime windowChange protocol services shared size
    sent.1.terminal = services.terminal ∧ sent.2.1.sessionId = shared.sessionId ∧
      (sent.2.1.shellStream = none ↔ shared.shellStream = none) := by
  unfold resizeRemote
  cases protocol with
  | telnet => cases services.telnet <;> cases shared.connectionId <;> exact ⟨rfl, rfl, Iff.rfl⟩
  | ssh =>
    cases hshell : shared.shellStream with
    | none => exact ⟨rfl, rfl, Iff.of_eq (by rw [hshell])⟩
    | some shell =>
      cases hwindow : setWindow windowChange shell size with
      | none =>
        dsimp only
        rw [hwindow]
        exact ⟨rfl, rfl, Iff.of_eq (by rw [hshell])⟩
      | some next =>
        dsimp only
        rw [hwindow]
        exact ⟨rfl, rfl, by simp⟩

theorem resizeRemote_window (services : TerminalServices) (shared : AdapterSharedState Shell)
    (size : Dimensions) :
    let sent := resizeRemote runtime windowChange protocol services shared size
    remoteWindow protocol sent.1 sent.2.1 =
      if reachesRemote windowChange protocol services shared size then
        (remoteWindow protocol services shared).map fun _ => size
      else
        remoteWindow protocol services shared := by
  unfold resizeRemote reachesRemote
  cases protocol with
  | telnet =>
    cases htelnet : services.telnet with
    | none => simp [remoteWindow, htelnet]
    | some connections =>
      cases hid : shared.connectionId with
      | none => simp [remoteWindow, htelnet, hid]
      | some connectionId =>
        unfold TelnetService.resize
        cases hget : connections.get connectionId with
        | none => simp [remoteWindow, htelnet, hid, hget]
        | some connection =>
          cases hwindow : connection.window with
          | none => simp [remoteWindow, htelnet, hid, hget, hwindow]
          | some window => simp [remoteWindow, htelnet, hid, hget, hwindow]
  | ssh =>
    cases hshell : shared.shellStream with
    | none => simp [remoteWindow, hshell]
    | some shell =>
      cases shell with
      | duplex => simp [remoteWindow, hshell, setWindow]
      | channel window =>
        cases hfits : windowChange size <;> simp [remoteWindow, hshell, setWindow, hfits]

theorem resizeRemote_settles (services : TerminalServices) (shared : AdapterSharedState Shell)
    (size : Dimensions) :
    let sent := resizeRemote runtime windowChange protocol services shared size
    sent.2.2 = .done ∨ Refused sent.2.2 := by
  unfold resizeRemote
  cases protocol with
  | telnet =>
    cases services.telnet with
    | none => exact .inl rfl
    | some connections =>
      cases shared.connectionId with
      | none => exact .inl rfl
      | some connectionId =>
        dsimp only [TelnetService.resize]
        split
        · exact .inr (.inr ⟨_, rfl⟩)
        · split
          · exact .inr (.inr ⟨_, rfl⟩)
          · cases TelnetService.encodable runtime size
            · exact .inr (.inl rfl)
            · exact .inl rfl
  | ssh =>
    cases shared.shellStream with
    | none => exact .inl rfl
    | some shell =>
      dsimp only
      cases setWindow windowChange shell size with
      | none => exact .inr (.inl rfl)
      | some next => exact .inl rfl

theorem resizeRemote_outcome (services : TerminalServices) (shared : AdapterSharedState Shell)
    (size : Dimensions) (hbytes : TelnetService.encodable runtime size = true) :
    let sent := resizeRemote runtime windowChange protocol services shared size
    if reachesRemote windowChange protocol services shared size then sent.2.2 = .done
    else Refused sent.2.2 := by
  unfold resizeRemote reachesRemote
  cases protocol with
  | telnet =>
    cases htelnet : services.telnet with
    | none => simp
    | some connections =>
      cases hid : shared.connectionId with
      | none => simp
      | some connectionId =>
        unfold TelnetService.resize
        cases hget : connections.get connectionId with
        | none => simp [remoteWindow, htelnet, hid, hget, Refused]
        | some connection =>
          cases hwindow : connection.window with
          | none => simp [remoteWindow, htelnet, hid, hget, hwindow, Refused]
          | some window => simp [remoteWindow, htelnet, hid, hget, hwindow, hbytes]
  | ssh =>
    cases hshell : shared.shellStream with
    | none => simp
    | some shell =>
      cases shell with
      | duplex => simp [setWindow]
      | channel window => cases hfits : windowChange size <;> simp [setWindow, hfits, Refused]

end Resize

section SafeResize

variable {runtime : Runtime} {windowChange : Dimensions → Bool} {protocol : Protocol}

-- A resize that leaves both sides as they were.
structure ResizeKeeps (protocol : Protocol) (state next : TerminalRun) : Prop where
  registered : next.registeredSize = state.registeredSize
  remote : next.remoteSize protocol = state.remoteSize protocol

theorem stepResize_frame (state : TerminalRun) (dimensions : JsValue) :
    let next := stepResize runtime windowChange protocol state dimensions
    next.pending = state.pending ∧ next.calls = state.calls ∧
      (next.shared.shellStream = none ↔ state.shared.shellStream = none) := by
  refine ⟨rfl, rfl, ?_⟩
  unfold stepResize handleResize
  cases hid : state.shared.sessionId with
  | none => exact Iff.rfl
  | some sessionId =>
    cases hread : readDimensions dimensions with
    | none => exact Iff.rfl
    | some size =>
      cases hget : state.services.terminal.terminals.get sessionId with
      | none => simp only [hget]
      | some terminal =>
        simp only [hget]
        cases state.services.terminal.resize runtime sessionId size with
        | ok terminals => exact (resizeRemote_frame _ _ _).2.2
        | error message => exact (resizeRemote_frame _ _ _).2.2

theorem registered_congr {services services' : TerminalServices}
    {shared shared' : AdapterSharedState Shell} (hterminal : services'.terminal = services.terminal)
    (hid : shared'.sessionId = shared.sessionId) :
    registered services' shared' = registered services shared := by
  unfold registered
  rw [hterminal, hid]

theorem registered_eq {services : TerminalServices} {shared : AdapterSharedState Shell}
    {sessionId : SessionId} {terminal : Terminal} (hid : shared.sessionId = some sessionId)
    (hget : services.terminal.terminals.get sessionId = some terminal) :
    registered services shared = some terminal.size := by
  simp [registered, hid, hget]

-- The registry takes the size.
theorem handleResize_accepted {services : TerminalServices} {shared : AdapterSharedState Shell}
    {sessionId : SessionId} {terminal : Terminal} {dimensions : JsValue} {size : Dimensions}
    (hid : shared.sessionId = some sessionId) (hread : readDimensions dimensions = some size)
    (hget : services.terminal.terminals.get sessionId = some terminal)
    (hcheck : TerminalService.checkDimensions runtime size = .ok ()) :
    ∃ terminals : TerminalService,
      handleResize runtime windowChange protocol services shared dimensions =
          resizeRemote runtime windowChange protocol { services with terminal := terminals }
            shared size ∧
        registered { services with terminal := terminals } shared = some size := by
  refine ⟨{ services.terminal with
    terminals := services.terminal.terminals.set sessionId { terminal with size } }, ?_, ?_⟩
  · unfold handleResize TerminalService.resize
    simp only [hid, hread, hget, hcheck]
  · simp [registered, hid]

-- The registry refuses it.
theorem handleResize_refused {services : TerminalServices} {shared : AdapterSharedState Shell}
    {sessionId : SessionId} {terminal : Terminal} {message : JsString} {dimensions : JsValue}
    {size : Dimensions} (hid : shared.sessionId = some sessionId)
    (hread : readDimensions dimensions = some size)
    (hget : services.terminal.terminals.get sessionId = some terminal)
    (h : TerminalService.checkDimensions runtime size = .error message) :
    let sent := resizeRemote runtime windowChange protocol services shared size
    let result := handleResize runtime windowChange protocol services shared dimensions
    result.1 = sent.1 ∧ result.2.1 = sent.2.1 ∧ Refused result.2.2 := by
  have hsettles := @resizeRemote_settles runtime windowChange protocol services shared size
  unfold handleResize TerminalService.resize
  simp only [hid, hread, hget, h]
  refine ⟨trivial, trivial, ?_⟩
  by_cases hdone : (resizeRemote runtime windowChange protocol services shared size).2.2 = .done
  · rw [if_pos hdone]
    exact .inr ⟨message, rfl⟩
  · rw [if_neg hdone]
    exact hsettles.resolve_left hdone

theorem not_refused_done : ¬ Refused .done := by
  rintro (h | ⟨message, h⟩) <;> cases h

theorem not_refused_deferred : ¬ Refused .deferred := by
  rintro (h | ⟨message, h⟩) <;> cases h

theorem stepResize_requested {state : TerminalRun} {dimensions : JsValue} {size : Dimensions}
    (hread : readDimensions dimensions = some size) :
    let outcome := resizeOutcome runtime windowChange protocol state dimensions
    (Refused outcome → (stepResize runtime windowChange protocol state dimensions).requested =
        state.requested) ∧
      (outcome = .done ∨ outcome = .deferred →
        (stepResize runtime windowChange protocol state dimensions).requested =
          { call := none, value := size } :: state.requested) := by
  unfold stepResize resizeOutcome
  simp only [hread]
  constructor
  · intro hrefused
    rw [if_neg]
    rintro (h | h)
    · exact not_refused_done (h ▸ hrefused)
    · exact not_refused_deferred (h ▸ hrefused)
  · intro h
    rw [if_pos h]

-- Both sides of a step of the run, read off the handler.
theorem stepResize_registered (state : TerminalRun) (dimensions : JsValue) :
    (stepResize runtime windowChange protocol state dimensions).registeredSize =
      let result :=
        handleResize runtime windowChange protocol state.services state.shared dimensions
      registered result.1 result.2.1 := rfl

theorem stepResize_remote (state : TerminalRun) (dimensions : JsValue) :
    (stepResize runtime windowChange protocol state dimensions).remoteSize protocol =
      let result :=
        handleResize runtime windowChange protocol state.services state.shared dimensions
      remoteWindow protocol result.1 result.2.1 := rfl

-- Without a session, or without a size, nothing happens.
theorem stepResize_ignored {state : TerminalRun} {dimensions : JsValue}
    (h : state.shared.sessionId = none ∨ readDimensions dimensions = none) :
    ResizeKeeps protocol state (stepResize runtime windowChange protocol state dimensions) ∧
      (stepResize runtime windowChange protocol state dimensions).requested =
        state.requested := by
  have hhandle : ∃ outcome, ¬ (outcome = ResizeOutcome.done ∨ outcome = .deferred) ∧
      handleResize runtime windowChange protocol state.services state.shared dimensions =
        (state.services, state.shared, outcome) := by
    unfold handleResize
    cases hid : state.shared.sessionId with
    | none => exact ⟨.ignored, by decide, rfl⟩
    | some sessionId =>
      rw [h.resolve_left (by rw [hid]; exact Option.some_ne_none sessionId)]
      exact ⟨.thrown, by decide, rfl⟩
  obtain ⟨outcome, houtcome, hhandle⟩ := hhandle
  refine ⟨⟨?_, ?_⟩, ?_⟩
  · rw [stepResize_registered, hhandle]
    rfl
  · rw [stepResize_remote, hhandle]
    rfl
  · unfold stepResize
    rw [hhandle]
    dsimp only
    cases readDimensions dimensions with
    | none => rfl
    | some size => exact if_neg houtcome

theorem stepResize_deferred {state : TerminalRun} {dimensions : JsValue} {sessionId : SessionId}
    {size : Dimensions} (hid : state.shared.sessionId = some sessionId)
    (hread : readDimensions dimensions = some size)
    (hget : state.services.terminal.terminals.get sessionId = none) :
    ResizeKeeps protocol state (stepResize runtime windowChange protocol state dimensions) ∧
      resizeOutcome runtime windowChange protocol state dimensions = .deferred := by
  have hhandle : handleResize runtime windowChange protocol state.services state.shared
      dimensions = (state.services, { state.shared with initialTermSettings :=
        { state.shared.initialTermSettings with rows := size.rows, cols := size.cols } },
          .deferred) := by
    unfold handleResize
    simp only [hid, hread, hget]
  refine ⟨⟨?_, ?_⟩, ?_⟩
  · rw [stepResize_registered, hhandle]
    rfl
  · rw [stepResize_remote, hhandle]
    rfl
  · unfold resizeOutcome
    rw [hhandle]

theorem stepResize_accepted {state : TerminalRun} {dimensions : JsValue} {sessionId : SessionId}
    {terminal : Terminal} {size : Dimensions} (hid : state.shared.sessionId = some sessionId)
    (hread : readDimensions dimensions = some size)
    (hget : state.services.terminal.terminals.get sessionId = some terminal)
    (hcheck : TerminalService.checkDimensions runtime size = .ok ()) :
    let next := stepResize runtime windowChange protocol state dimensions
    let outcome := resizeOutcome runtime windowChange protocol state dimensions
    next.registeredSize = some size ∧
      if reachesRemote windowChange protocol state.services state.shared size then
        outcome = .done ∧ next.remoteSize protocol = (state.remoteSize protocol).map fun _ => size
      else
        Refused outcome ∧ next.remoteSize protocol = state.remoteSize protocol := by
  obtain ⟨terminals, hhandle, hregistered⟩ :=
    @handleResize_accepted runtime windowChange protocol _ _ _ _ _ _ hid hread hget hcheck
  have hframe := @resizeRemote_frame runtime windowChange protocol
    { state.services with terminal := terminals } state.shared size
  have hwindow := @resizeRemote_window runtime windowChange protocol
    { state.services with terminal := terminals } state.shared size
  have houtcome := @resizeRemote_outcome runtime windowChange protocol
    { state.services with terminal := terminals } state.shared size
    (encodable_of_checkDimensions hcheck)
  intro next outcome
  have hreach : reachesRemote windowChange protocol { state.services with terminal := terminals }
      state.shared size = reachesRemote windowChange protocol state.services state.shared size := by
    cases protocol <;> rfl
  rw [hreach] at hwindow houtcome
  have hremote : next.remoteSize protocol = _ := stepResize_remote state dimensions
  have hout : outcome = (handleResize runtime windowChange protocol state.services state.shared
      dimensions).2.2 := rfl
  rw [hhandle] at hremote hout
  refine ⟨?_, ?_⟩
  · have hregister : next.registeredSize = _ := stepResize_registered state dimensions
    rw [hregister, hhandle]
    dsimp only
    rw [registered_congr hframe.1 hframe.2.1]
    exact hregistered
  · rw [hremote, hout]
    dsimp only at hwindow houtcome ⊢
    rw [hwindow]
    split
    · rename_i htrue
      rw [if_pos htrue] at houtcome
      exact ⟨houtcome, by cases protocol <;> rfl⟩
    · rename_i hfalse
      rw [if_neg hfalse] at houtcome
      exact ⟨houtcome, by cases protocol <;> rfl⟩

theorem stepResize_refused {state : TerminalRun} {dimensions : JsValue} {sessionId : SessionId}
    {terminal : Terminal} {message : JsString} {size : Dimensions}
    (hid : state.shared.sessionId = some sessionId)
    (hread : readDimensions dimensions = some size)
    (hget : state.services.terminal.terminals.get sessionId = some terminal)
    (hcheck : TerminalService.checkDimensions runtime size = .error message) :
    let next := stepResize runtime windowChange protocol state dimensions
    Refused (resizeOutcome runtime windowChange protocol state dimensions) ∧
      next.registeredSize = state.registeredSize ∧
      next.remoteSize protocol =
        if reachesRemote windowChange protocol state.services state.shared size then
          (state.remoteSize protocol).map fun _ => size
        else
          state.remoteSize protocol := by
  obtain ⟨hservices, hshared, hrefused⟩ :=
    @handleResize_refused runtime windowChange protocol _ _ _ _ _ _ _ hid hread hget hcheck
  have hframe := @resizeRemote_frame runtime windowChange protocol state.services state.shared size
  have hwindow := @resizeRemote_window runtime windowChange protocol state.services state.shared
    size
  refine ⟨hrefused, ?_, ?_⟩
  · rw [stepResize_registered]
    dsimp only
    rw [hservices, hshared]
    exact registered_congr hframe.1 hframe.2.1
  · rw [stepResize_remote]
    dsimp only
    rw [hservices, hshared]
    exact hwindow

-- What a safe resize does: nothing, or it is put off until there is a terminal, or
-- both sides take the size.
theorem stepResize_safe {state : TerminalRun} {dimensions : JsValue}
    (hsafe : sizeSafe runtime windowChange protocol state (.resize dimensions) = true) :
    let next := stepResize runtime windowChange protocol state dimensions
    let outcome := resizeOutcome runtime windowChange protocol state dimensions
    (ResizeKeeps protocol state next ∧ next.requested = state.requested) ∨
      (¬ Refused outcome ∧ ∃ size,
        next.requested = { call := none, value := size } :: state.requested ∧
        ((ResizeKeeps protocol state next ∧ state.registeredSize = none) ∨
          (next.registeredSize = some size ∧
            next.remoteSize protocol = (state.remoteSize protocol).map fun _ => size))) := by
  intro next outcome
  cases hid : state.shared.sessionId with
  | none => exact .inl (stepResize_ignored (.inl hid))
  | some sessionId =>
    cases hread : readDimensions dimensions with
    | none => exact .inl (stepResize_ignored (.inr hread))
    | some size =>
      have hrequested := @stepResize_requested runtime windowChange protocol state _ _ hread
      cases hget : state.services.terminal.terminals.get sessionId with
      | none =>
        obtain ⟨hkeeps, houtcome⟩ :=
          @stepResize_deferred runtime windowChange protocol _ _ _ _ hid hread hget
        have hnone : state.registeredSize = none := by
          simp [TerminalRun.registeredSize, registered, hid, hget]
        have hrefused : ¬ Refused outcome := by
          show ¬ Refused (resizeOutcome _ _ _ _ _)
          rw [houtcome]
          exact not_refused_deferred
        exact .inr ⟨hrefused, size, hrequested.2 (.inr houtcome), .inl ⟨hkeeps, hnone⟩⟩
      | some terminal =>
        have hcurrent : state.registeredSize = some terminal.size := registered_eq hid hget
        unfold sizeSafe at hsafe
        simp only [hread, hcurrent] at hsafe
        cases hcheck : TerminalService.checkDimensions runtime size with
        | error message =>
          obtain ⟨hrefused, hregistered, hremote⟩ :=
            @stepResize_refused runtime windowChange protocol _ _ _ _ _ _ hid hread hget
              hcheck
          refine .inl ⟨⟨hregistered, hremote.trans ?_⟩, hrequested.1 hrefused⟩
          simp only [hcheck, Bool.or_eq_true, Bool.not_eq_true'] at hsafe
          split
          · rename_i hreach
            have hall := hsafe.resolve_left (by rw [hreach]; decide)
            cases hwindow : state.remoteSize protocol with
            | none => rfl
            | some window =>
              rw [hwindow] at hall
              exact congrArg some (of_decide_eq_true hall).symm
          · rfl
        | ok _ =>
          obtain ⟨hregistered, hremote⟩ :=
            @stepResize_accepted runtime windowChange protocol _ _ _ _ _ hid hread hget
              hcheck
          simp only [hcheck, Bool.or_eq_true, decide_eq_true_eq] at hsafe
          split at hremote
          · have hrefused : ¬ Refused outcome := by
              show ¬ Refused (resizeOutcome _ _ _ _ _)
              rw [hremote.1]
              exact not_refused_done
            exact .inr ⟨hrefused, size, hrequested.2 (.inl hremote.1),
              .inr ⟨hregistered, hremote.2⟩⟩
          · rename_i hreach
            have hsize := hsafe.resolve_left hreach
            refine .inl ⟨⟨?_, hremote.2⟩, hrequested.1 hremote.1⟩
            exact hregistered.trans (by rw [hcurrent, hsize])

end SafeResize

section Requests

variable {runtime : Runtime} {windowChange : Dimensions → Bool} {sessionEnv : Option EnvVars}

theorem createTerminal_registered {services : TerminalServices}
    {shared : AdapterSharedState Shell} {sessionId : SessionId} (options : ShellOptions)
    (hid : shared.sessionId = some sessionId) :
    registered (createTerminal services sessionId options) shared ≠ none ∧
      ∀ size, registered services shared = some size →
        registered (createTerminal services sessionId options) shared = some size := by
  simp only [registered, hid, Option.bind_some, createTerminal, TerminalService.create]
  cases hget : services.terminal.terminals.get sessionId with
  | none => simp
  | some existing => simp [hget]

theorem buildTerminalDefaults_present (settings : JsValue) (sessionEnv : Option EnvVars)
    (initial : TermSettings) :
    let size := (buildTerminalDefaults settings sessionEnv initial).size
    present size.rows = true ∧ present size.cols = true :=
  ⟨present_nullish _ (present_nullish _ rfl), present_nullish _ (present_nullish _ rfl)⟩

-- A shell is asked for in the size that was built, and no default comes between.
theorem openShell_ssh_size {services services' : TerminalServices} {connectionId : ConnectionId}
    {options : ShellOptions} {call : ShellCall} (hrows : present options.size.rows = true)
    (hcols : present options.size.cols = true)
    (h : openShell .ssh services connectionId options = (services', .called call)) :
    services' = services ∧ ∃ request, call = .ssh request ∧ request.size = options.size := by
  unfold openShell SshService.shell at h
  dsimp only at h
  split at h
  · cases h
  · rename_i request hshell
    cases h
    refine ⟨rfl, request, rfl, ?_⟩
    split at hshell
    · cases hshell
    · split at hshell
      · cases hshell
      · cases hshell
        dsimp only
        rw [nullish_of_present hrows, nullish_of_present hcols]

theorem openShell_terminal (protocol : Protocol) (services : TerminalServices)
    (connectionId : ConnectionId) (options : ShellOptions) :
    (openShell protocol services connectionId options).1.terminal = services.terminal := by
  unfold openShell
  cases protocol with
  | telnet =>
    dsimp only
    split
    · rfl
    · split <;> rfl
  | ssh =>
    dsimp only
    split <;> rfl

-- A telnet connection announces the size with which its shell is asked for.
theorem openShell_telnet {services services' : TerminalServices}
    {shared : AdapterSharedState Shell} {connectionId : ConnectionId} {options : ShellOptions}
    (hid : shared.connectionId = some connectionId) (hrows : present options.size.rows = true)
    (hcols : present options.size.cols = true) {outcome : TerminalOutcome}
    (h : openShell .telnet services connectionId options = (services', outcome)) :
    (remoteWindow .telnet services' shared = remoteWindow .telnet services shared ∧
        ∃ message, outcome = .refused message) ∨
      (remoteWindow .telnet services' shared = some options.size ∧
        outcome = .called (.telnet connectionId)) := by
  unfold openShell TelnetService.shell at h
  dsimp only at h
  cases htelnet : services.telnet with
  | none =>
    rw [htelnet] at h
    cases h
    exact .inl ⟨rfl, _, rfl⟩
  | some connections =>
    rw [htelnet] at h
    dsimp only at h
    cases hget : connections.get connectionId with
    | none =>
      rw [hget] at h
      cases h
      exact .inl ⟨rfl, _, rfl⟩
    | some connection =>
      rw [hget] at h
      dsimp only at h
      cases h
      refine .inr ⟨?_, rfl⟩
      simp only [remoteWindow, hid, OrderedMap.get_set_self, Option.bind_some,
        nullish_of_present hrows, nullish_of_present hcols]

section Terminals

variable {protocol : Protocol} {services services' : TerminalServices}
  {shared : AdapterSharedState Shell} {settings : JsValue}

theorem handleTerminal_registered (size : Dimensions) (h : registered services shared = some size) :
    registered (handleTerminal protocol services shared sessionEnv settings).1 shared =
      some size := by
  unfold handleTerminal
  split
  · rename_i sessionId connectionId hid hconnection
    rw [registered_congr (openShell_terminal _ _ _ _) rfl]
    exact (createTerminal_registered _ hid).2 size h
  · exact h

theorem handleTerminal_ssh {outcome : TerminalOutcome}
    (h : handleTerminal .ssh services shared sessionEnv settings = (services', outcome)) :
    (∀ call, outcome ≠ .called call) ∨
      ∃ request, outcome = .called (.ssh request) ∧ registered services' shared ≠ none ∧
        request.size =
          (buildTerminalDefaults settings sessionEnv shared.initialTermSettings).size := by
  cases outcome with
  | ignored => exact .inl nofun
  | refused message => exact .inl nofun
  | called call =>
    unfold handleTerminal at h
    split at h
    · rename_i sessionId connectionId hid hconnection
      obtain ⟨hrows, hcols⟩ :=
        buildTerminalDefaults_present settings sessionEnv shared.initialTermSettings
      obtain ⟨rfl, request, rfl, hsize⟩ := openShell_ssh_size hrows hcols h
      exact .inr ⟨request, rfl, (createTerminal_registered _ hid).1, hsize⟩
    · cases h

theorem handleTerminal_telnet {outcome : TerminalOutcome}
    (h : handleTerminal .telnet services shared sessionEnv settings = (services', outcome)) :
    ((∀ call, outcome ≠ .called call) ∧
        remoteWindow .telnet services' shared = remoteWindow .telnet services shared) ∨
      ∃ connectionId, outcome = .called (.telnet connectionId) ∧
        registered services' shared ≠ none ∧
        remoteWindow .telnet services' shared =
          some (buildTerminalDefaults settings sessionEnv shared.initialTermSettings).size := by
  unfold handleTerminal at h
  split at h
  · rename_i sessionId connectionId hid hconnection
    obtain ⟨hrows, hcols⟩ :=
      buildTerminalDefaults_present settings sessionEnv shared.initialTermSettings
    have hterminal := openShell_terminal .telnet (createTerminal services sessionId
      (buildTerminalDefaults settings sessionEnv shared.initialTermSettings)) connectionId
      (buildTerminalDefaults settings sessionEnv shared.initialTermSettings)
    rw [h] at hterminal
    rcases openShell_telnet hconnection hrows hcols h with ⟨hwindow, message, rfl⟩ | ⟨hwindow, rfl⟩
    · exact .inl ⟨nofun, hwindow⟩
    · refine .inr ⟨connectionId, rfl, ?_, hwindow⟩
      rw [registered_congr hterminal rfl]
      exact (createTerminal_registered _ hid).1
  · cases h
    exact .inl ⟨nofun, rfl⟩

end Terminals

end Requests

def TerminalRun.waiting (state : TerminalRun) (call : Nat) : Bool :=
  (state.pending.get call).isSome

theorem waiting_delete {state : TerminalRun} {call : Nat} :
    (fun other => ((state.pending.delete call).get other).isSome) =
      answered state.waiting call := by
  funext other
  unfold answered TerminalRun.waiting
  rw [OrderedMap.get_delete]
  by_cases h : call = other
  · simp [h]
  · simp [h, Ne.symm h]

theorem waiting_of_quiet {state : TerminalRun} (h : state.pending.entries = []) (call : Nat) :
    state.waiting call = false := by
  unfold TerminalRun.waiting OrderedMap.get
  rw [h]
  rfl

section SshRuns

variable {runtime : Runtime} {windowChange : Dimensions → Bool} {sessionEnv : Option EnvVars}

-- What the safe steps of an SSH socket keep. A call that was answered may be older
-- than others that still wait, so the newest size is looked for behind these.
structure SshSettled (state : TerminalRun) : Prop where
  shell : state.shared.shellStream ≠ none →
    state.registeredSize ≠ none ∧ state.remoteSize .ssh = state.registeredSize
  newest : NewestIs state.waiting (state.shared.shellStream ≠ none) state.registeredSize
    state.requested
  idle : state.registeredSize = none → ∀ call, state.waiting call = false
  asked : ∀ call shellCall, state.pending.get call = some shellCall →
    ∃ request, shellCall = .ssh request ∧ (∃ entry ∈ state.requested, entry.call = some call) ∧
      ∀ entry ∈ state.requested, entry.call = some call → entry.value = request.size
  numbered : ∀ entry ∈ state.requested, ∀ call, entry.call = some call → call < state.calls

variable {state : TerminalRun}

theorem sshSettled_agree (h : SshSettled state) : SizesAgree .ssh state := by
  intro hopen hquiet
  obtain ⟨hregistered, hremote⟩ := h.shell hopen
  obtain ⟨entry, hhead, hcurrent⟩ := newestIs_quiet (waiting_of_quiet hquiet) hopen h.newest
  refine ⟨hregistered, hremote, ?_⟩
  rw [hhead, hcurrent]
  rfl

theorem sshSettled_resize {dimensions : JsValue} (h : SshSettled state)
    (hsafe : sizeSafe runtime windowChange .ssh state (.resize dimensions) = true) :
    SshSettled (stepResize runtime windowChange .ssh state dimensions) := by
  obtain ⟨hpending, hcalls, hshell⟩ :=
    @stepResize_frame runtime windowChange .ssh state dimensions
  have hsafe := stepResize_safe hsafe
  dsimp only at hpending hcalls hshell hsafe
  generalize stepResize runtime windowChange .ssh state dimensions = next at *
  have hopen : (next.shared.shellStream ≠ none) = (state.shared.shellStream ≠ none) :=
    propext (not_congr hshell)
  have hwaiting : next.waiting = state.waiting := by
    funext call
    unfold TerminalRun.waiting
    rw [hpending]
  rcases hsafe with ⟨hkeeps, hrequested⟩ | ⟨-, size, hrequested, hresized⟩
  · exact {
      shell := by
        rw [hopen, hkeeps.registered, hkeeps.remote]
        exact h.shell
      newest := by
        rw [hopen, hkeeps.registered, hrequested, hwaiting]
        exact h.newest
      idle := by
        rw [hkeeps.registered, hwaiting]
        exact h.idle
      asked := by
        rw [hpending, hrequested]
        exact h.asked
      numbered := by
        rw [hrequested, hcalls]
        exact h.numbered }
  · have hasked : ∀ call shellCall, next.pending.get call = some shellCall →
        ∃ request, shellCall = .ssh request ∧
          (∃ entry ∈ next.requested, entry.call = some call) ∧
          ∀ entry ∈ next.requested, entry.call = some call → entry.value = request.size := by
      intro call shellCall hget
      rw [hpending] at hget
      obtain ⟨request, hssh, ⟨entry, hentry, hcall⟩, hvalue⟩ := h.asked call shellCall hget
      rw [hrequested]
      refine ⟨request, hssh, ⟨entry, List.mem_cons_of_mem _ hentry, hcall⟩, ?_⟩
      intro other hother hothercall
      rcases List.mem_cons.mp hother with rfl | hold
      · cases hothercall
      · exact hvalue other hold hothercall
    have hnumbered : ∀ entry ∈ next.requested, ∀ call, entry.call = some call →
        call < next.calls := by
      intro entry hentry call hcall
      rw [hrequested] at hentry
      rw [hcalls]
      rcases List.mem_cons.mp hentry with rfl | hold
      · cases hcall
      · exact h.numbered entry hold call hcall
    rcases hresized with ⟨hkeeps, hnone⟩ | ⟨hregistered, hremote⟩
    · -- There is no terminal yet, so nothing waits and no shell is open.
      have hclosed : ¬ (state.shared.shellStream ≠ none) := fun hshell =>
        (h.shell hshell).1 hnone
      have hidle := h.idle hnone
      exact {
        shell := by
          rw [hopen]
          exact fun hshell => absurd hshell hclosed
        newest := by
          rw [hopen, hwaiting]
          refine newestIs_of_idle hclosed (fun entry _ => ?_) _
          unfold Entry.waits
          cases entry.call with
          | none => rfl
          | some call => exact hidle call
        idle := by
          rw [hwaiting]
          exact fun _ => hidle
        asked := hasked
        numbered := hnumbered }
    · exact {
        shell := by
          rw [hopen, hregistered, hremote]
          intro hshell
          obtain ⟨hsome, hsame⟩ := h.shell hshell
          rw [hsame]
          cases hsize : state.registeredSize with
          | none => exact absurd hsize hsome
          | some current => exact ⟨Option.some_ne_none size, rfl⟩
        newest := by
          rw [hrequested, hregistered]
          exact fun _ => rfl
        idle := by
          rw [hregistered]
          exact fun hsize => absurd hsize (Option.some_ne_none size)
        asked := hasked
        numbered := hnumbered }

-- As long as no terminal is registered the size that is registered next is free.
theorem newestIs_registered (h : SshSettled state) {current : Option Dimensions}
    (hcurrent : ∀ size, state.registeredSize = some size → current = some size) :
    NewestIs state.waiting (state.shared.shellStream ≠ none) current state.requested := by
  cases hsize : state.registeredSize with
  | some size =>
    rw [hcurrent size hsize, ← hsize]
    exact h.newest
  | none =>
    have hclosed : ¬ (state.shared.shellStream ≠ none) := fun hshell =>
      (h.shell hshell).1 hsize
    refine newestIs_of_idle hclosed (fun entry _ => ?_) _
    unfold Entry.waits
    cases entry.call with
    | none => rfl
    | some call => exact h.idle hsize call

-- The entry of a new call waits, and its number is not that of an older one.
theorem newestIs_called {request : ShellRequest} (h : SshSettled state)
    {current : Option Dimensions}
    (hcurrent : ∀ size, state.registeredSize = some size → current = some size) :
    NewestIs (fun call => ((state.pending.set state.calls (.ssh request)).get call).isSome)
      (state.shared.shellStream ≠ none) current
      ({ call := some state.calls, value := request.size } :: state.requested) := by
  have hsame : ∀ entry ∈ state.requested, entry.waits state.waiting = entry.waits
      fun call => ((state.pending.set state.calls (.ssh request)).get call).isSome := by
    intro entry hentry
    unfold Entry.waits
    cases hcall : entry.call with
    | none => rfl
    | some call =>
      have hlt := h.numbered entry hentry call hcall
      have hne : ¬ state.calls = call := by omega
      simp [TerminalRun.waiting, hne]
  unfold NewestIs
  rw [if_pos (by simp [Entry.waits])]
  exact newestIs_congr hsame (newestIs_registered h hcurrent)

-- A request that is ignored or refused at once may still register a terminal.
theorem sshSettled_services {services : TerminalServices} (h : SshSettled state)
    (hkept : ∀ size, state.registeredSize = some size → registered services state.shared = some size) :
    SshSettled { state with services } where
  shell := by
    intro hopen
    obtain ⟨hsome, hsame⟩ := h.shell hopen
    obtain ⟨size, hsize⟩ := Option.ne_none_iff_exists'.mp hsome
    have hnext := hkept size hsize
    exact ⟨fun hnone => Option.some_ne_none size (hnext.symm.trans hnone),
      (hsame.trans hsize).trans hnext.symm⟩
  newest := newestIs_registered h hkept
  idle := by
    intro hnone
    refine h.idle ?_
    cases hsize : state.registeredSize with
    | none => rfl
    | some size => exact absurd ((hkept size hsize).symm.trans hnone) (Option.some_ne_none size)
  asked := h.asked
  numbered := h.numbered

theorem sshSettled_terminal {settings : JsValue} (h : SshSettled state) :
    SshSettled (stepTerminal .ssh sessionEnv state settings) := by
  have hkept := fun size => @handleTerminal_registered sessionEnv .ssh state.services state.shared
    settings size
  unfold stepTerminal
  cases hhandle : handleTerminal .ssh state.services state.shared sessionEnv settings with
  | mk services outcome =>
    rw [hhandle] at hkept
    have hcases := handleTerminal_ssh hhandle
    cases outcome with
    | ignored => exact sshSettled_services h hkept
    | refused message => exact sshSettled_services h hkept
    | called call =>
      obtain ⟨request, hcall, hregistered, hsize⟩ := hcases.resolve_left fun hnone =>
        hnone call rfl
      cases hcall
      dsimp only
      rw [← hsize]
      exact {
        shell := (sshSettled_services h hkept).shell
        newest := newestIs_called h hkept
        idle := fun hnone => absurd hnone hregistered
        asked := by
          intro other shellCall hget
          rw [OrderedMap.get_set] at hget
          split at hget
          · rename_i hcalls
            cases hget
            refine ⟨request, rfl, ⟨_, List.mem_cons_self, congrArg some hcalls⟩, ?_⟩
            intro entry hentry hcall
            rcases List.mem_cons.mp hentry with rfl | hold
            · rfl
            · have hlt := h.numbered entry hold other hcall
              omega
          · rename_i hcalls
            obtain ⟨asked, hssh, ⟨entry, hentry, hcall⟩, hvalue⟩ := h.asked other _ hget
            refine ⟨asked, hssh, ⟨entry, List.mem_cons_of_mem _ hentry, hcall⟩, ?_⟩
            intro entry hentry hcall
            rcases List.mem_cons.mp hentry with rfl | hold
            · exact absurd (Option.some.inj hcall) hcalls
            · exact hvalue entry hold hcall
        numbered := by
          intro entry hentry other hcall
          rcases List.mem_cons.mp hentry with rfl | hold
          · cases hcall
            exact Nat.lt_succ_self _
          · have hlt := h.numbered entry hold other hcall
            exact Nat.lt_succ_of_lt hlt }

theorem sshSettled_complete {call : Nat} {opened : Bool} (h : SshSettled state)
    (hsafe : sizeSafe runtime windowChange .ssh state (.complete call opened) = true) :
    SshSettled (stepComplete state call opened) := by
  unfold sizeSafe at hsafe
  unfold stepComplete
  cases hget : state.pending.get call with
  | none => exact h
  | some shellCall =>
    obtain ⟨request, rfl, hasked, hvalue⟩ := h.asked call shellCall hget
    have hwaits : state.waiting call = true := by
      unfold TerminalRun.waiting
      rw [hget]
      rfl
    have hregistered : state.registeredSize ≠ none := by
      intro hnone
      rw [h.idle hnone call] at hwaits
      cases hwaits
    simp only [hget, Bool.or_eq_true, Bool.not_eq_true', decide_eq_true_eq] at hsafe
    cases opened with
    | false =>
      simp only [Bool.false_eq_true, if_false]
      exact {
        shell := h.shell
        newest := by
          show NewestIs (fun other => ((state.pending.delete call).get other).isSome) _ _ _
          rw [waiting_delete]
          exact newestIs_withdraw hwaits h.newest
        idle := fun hnone => absurd hnone hregistered
        asked := by
          intro other shellCall hother
          rw [OrderedMap.get_delete] at hother
          split at hother
          · cases hother
          · rename_i hne
            obtain ⟨asked, hssh, ⟨entry, hentry, hcall⟩, hothers⟩ := h.asked other _ hother
            refine ⟨asked, hssh, ⟨entry, List.mem_filter.mpr ⟨hentry, ?_⟩, hcall⟩, ?_⟩
            · rw [hcall]
              simp [Ne.symm hne]
            · intro entry hentry
              exact hothers entry (List.mem_of_mem_filter hentry)
        numbered := fun entry hentry => h.numbered entry (List.mem_of_mem_filter hentry) }
    | true =>
      have hsize := hsafe.resolve_left (by decide)
      simp only [if_true]
      exact {
        shell := fun _ => ⟨hregistered, hsize.symm⟩
        newest := by
          show NewestIs (fun other => ((state.pending.delete call).get other).isSome)
            (some (Shell.channel request.size) ≠ none) _ _
          rw [waiting_delete, eq_true (Option.some_ne_none (Shell.channel request.size))]
          exact newestIs_answered hwaits hasked (fun entry hentry hcall =>
            hsize.trans (congrArg some (hvalue entry hentry hcall).symm)) h.newest
        idle := fun hnone => absurd hnone hregistered
        asked := by
          intro other shellCall hother
          rw [OrderedMap.get_delete] at hother
          split at hother
          · cases hother
          · exact h.asked other _ hother
        numbered := h.numbered }

end SshRuns

section TelnetRuns

variable {runtime : Runtime} {windowChange : Dimensions → Bool} {sessionEnv : Option EnvVars}

-- What the safe steps of a telnet socket keep. A telnet connection announces a size
-- when the shell is asked for, so its window is the newest size at any time, and
-- only the registry may be behind while a call waits.
structure TelnetSettled (state : TerminalRun) : Prop where
  window : ∀ size, state.remoteSize .telnet = some size →
    state.requested.head?.map Entry.value = some size
  announced : (state.shared.shellStream ≠ none ∨ ∃ call, state.waiting call = true) →
    state.remoteSize .telnet ≠ none
  terminal : state.remoteSize .telnet ≠ none → state.registeredSize ≠ none
  shell : state.shared.shellStream ≠ none → (∀ call, state.waiting call = false) →
    state.registeredSize = state.remoteSize .telnet
  calls : ∀ call shellCall, state.pending.get call = some shellCall →
    ∃ connectionId, shellCall = .telnet connectionId

variable {state : TerminalRun}

theorem telnetSettled_agree (h : TelnetSettled state) : SizesAgree .telnet state := by
  intro hopen hquiet
  have hremote := h.announced (.inl hopen)
  have hsame := h.shell hopen (waiting_of_quiet hquiet)
  obtain ⟨size, hsize⟩ := Option.ne_none_iff_exists'.mp hremote
  refine ⟨h.terminal hremote, hsame.symm, ?_⟩
  rw [h.window size hsize, hsame, hsize]

theorem telnetSettled_resize {dimensions : JsValue} (h : TelnetSettled state)
    (hsafe : sizeSafe runtime windowChange .telnet state (.resize dimensions) = true) :
    TelnetSettled (stepResize runtime windowChange .telnet state dimensions) := by
  obtain ⟨hpending, -, hshell⟩ :=
    @stepResize_frame runtime windowChange .telnet state dimensions
  have hsafe := stepResize_safe hsafe
  dsimp only at hpending hshell hsafe
  generalize stepResize runtime windowChange .telnet state dimensions = next at *
  have hopen : (next.shared.shellStream ≠ none) = (state.shared.shellStream ≠ none) :=
    propext (not_congr hshell)
  have hwaiting : next.waiting = state.waiting := by
    funext call
    unfold TerminalRun.waiting
    rw [hpending]
  have hcalls : ∀ call shellCall, next.pending.get call = some shellCall →
      ∃ connectionId, shellCall = .telnet connectionId := by
    rw [hpending]
    exact h.calls
  have hkept (hkeeps : ResizeKeeps .telnet state next)
      (hhead : ∀ size, state.remoteSize .telnet = some size →
        next.requested.head?.map Entry.value = some size) : TelnetSettled next := {
    window := by
      rw [hkeeps.remote]
      exact hhead
    announced := by
      rw [hopen, hwaiting, hkeeps.remote]
      exact h.announced
    terminal := by
      rw [hkeeps.remote, hkeeps.registered]
      exact h.terminal
    shell := by
      rw [hopen, hwaiting, hkeeps.remote, hkeeps.registered]
      exact h.shell
    calls := hcalls }
  rcases hsafe with ⟨hkeeps, hrequested⟩ | ⟨-, size, hrequested, ⟨hkeeps, hnone⟩ | hboth⟩
  · refine hkept hkeeps ?_
    rw [hrequested]
    exact h.window
  · refine hkept hkeeps fun window hwindow => ?_
    have hremote : state.remoteSize .telnet ≠ none := by
      rw [hwindow]
      exact Option.some_ne_none window
    exact absurd hnone (h.terminal hremote)
  · obtain ⟨hregistered, hremote⟩ := hboth
    exact {
      window := by
        rw [hremote, hrequested]
        intro window hwindow
        cases hsize : state.remoteSize .telnet with
        | none =>
          rw [hsize] at hwindow
          cases hwindow
        | some current =>
          rw [hsize] at hwindow
          exact hwindow
      announced := by
        rw [hopen, hwaiting, hremote]
        intro hannounced
        obtain ⟨current, hcurrent⟩ := Option.ne_none_iff_exists'.mp (h.announced hannounced)
        rw [hcurrent]
        exact Option.some_ne_none size
      terminal := by
        rw [hregistered]
        exact fun _ => Option.some_ne_none size
      shell := by
        rw [hopen, hregistered, hremote]
        intro hshell _
        obtain ⟨current, hcurrent⟩ := Option.ne_none_iff_exists'.mp (h.announced (.inl hshell))
        rw [hcurrent]
        rfl
      calls := hcalls }

theorem telnetSettled_terminal {settings : JsValue} (h : TelnetSettled state) :
    TelnetSettled (stepTerminal .telnet sessionEnv state settings) := by
  have hkept := fun size => @handleTerminal_registered sessionEnv .telnet state.services
    state.shared settings size
  unfold stepTerminal
  cases hhandle : handleTerminal .telnet state.services state.shared sessionEnv settings with
  | mk services outcome =>
    rw [hhandle] at hkept
    have hstay (hwindow : remoteWindow .telnet services state.shared =
        remoteWindow .telnet state.services state.shared) :
        TelnetSettled { state with services } := by
      have hterminal : remoteWindow .telnet state.services state.shared ≠ none →
          registered services state.shared ≠ none := by
        intro hremote
        obtain ⟨size, hsize⟩ := Option.ne_none_iff_exists'.mp (h.terminal hremote)
        rw [hkept size hsize]
        exact Option.some_ne_none size
      exact {
        window := fun size hsize => h.window size (hwindow.symm.trans hsize)
        announced := fun hannounced hnone => h.announced hannounced (hwindow.symm.trans hnone)
        terminal := fun hremote => hterminal (hwindow ▸ hremote)
        shell := by
          intro hshell hquiet
          obtain ⟨size, hsize⟩ := Option.ne_none_iff_exists'.mp
            (h.terminal (h.announced (.inl hshell)))
          have hsame := h.shell hshell hquiet
          exact (hkept size hsize).trans (hsize.symm.trans (hsame.trans hwindow.symm))
        calls := h.calls }
    rcases handleTerminal_telnet hhandle with ⟨hnone, hwindow⟩ | ⟨_, rfl, hregistered, hwindow⟩
    · cases outcome with
      | ignored => exact hstay hwindow
      | refused message => exact hstay hwindow
      | called call => exact absurd rfl (hnone call)
    · exact {
        window := fun size hsize => hwindow.symm.trans hsize
        announced := by
          intro _ hnone
          exact Option.some_ne_none _ (hwindow.symm.trans hnone)
        terminal := fun _ => hregistered
        shell := by
          intro _ hquiet
          have hwaits := hquiet state.calls
          unfold TerminalRun.waiting at hwaits
          rw [OrderedMap.get_set_self] at hwaits
          cases hwaits
        calls := by
          intro call shellCall hget
          rw [OrderedMap.get_set] at hget
          split at hget
          · cases hget
            exact ⟨_, rfl⟩
          · exact h.calls call shellCall hget }

theorem telnetSettled_complete {call : Nat} {opened : Bool} (h : TelnetSettled state)
    (hsafe : sizeSafe runtime windowChange .telnet state (.complete call opened) = true) :
    TelnetSettled (stepComplete state call opened) := by
  unfold sizeSafe at hsafe
  unfold stepComplete
  cases hget : state.pending.get call with
  | none => exact h
  | some shellCall =>
    obtain ⟨connectionId, rfl⟩ := h.calls call shellCall hget
    have hwaits : state.waiting call = true := by
      unfold TerminalRun.waiting
      rw [hget]
      rfl
    simp only [hget, decide_eq_true_eq] at hsafe
    exact {
      window := h.window
      announced := fun _ => h.announced (.inr ⟨call, hwaits⟩)
      terminal := h.terminal
      shell := fun _ _ => hsafe.symm
      calls := by
        intro other shellCall hother
        dsimp only at hother
        rw [OrderedMap.get_delete] at hother
        split at hother
        · cases hother
        · exact h.calls other shellCall hother }

end TelnetRuns

section Agreement

variable {runtime : Runtime} {windowChange : Dimensions → Bool} {protocol : Protocol}
  {sessionEnv : Option EnvVars}

-- A socket whose shell was not asked for yet: a telnet connection has announced
-- nothing. The session may have a terminal already.
structure Unopened (protocol : Protocol) (state : TerminalRun) : Prop where
  shell : state.shared.shellStream = none
  pending : state.pending.entries = []
  requested : state.requested = []
  window : state.remoteSize protocol = none

variable {state : TerminalRun} {event : TerminalEvent}

theorem refusalKeeps_of_safe (hsafe : sizeSafe runtime windowChange protocol state event = true) :
    RefusalKeeps runtime windowChange protocol state event := by
  cases event with
  | terminal | complete | connections => exact trivial
  | resize dimensions =>
    intro hrefused
    rcases stepResize_safe hsafe with ⟨hkeeps, -⟩ | ⟨haccepted, -⟩
    · exact ⟨hkeeps.registered, hkeeps.remote⟩
    · exact absurd hrefused haccepted

theorem sshSettled_step (h : SshSettled state)
    (hsafe : sizeSafe runtime windowChange .ssh state event = true) :
    SshSettled (terminalStep runtime windowChange .ssh sessionEnv state event) := by
  cases event with
  | terminal settings => exact sshSettled_terminal h
  | resize dimensions => exact sshSettled_resize h hsafe
  | complete call opened => exact sshSettled_complete h hsafe
  | connections ssh => exact sshSettled_services h fun _ hsize => hsize

theorem telnetSettled_step (h : TelnetSettled state)
    (hsafe : sizeSafe runtime windowChange .telnet state event = true) :
    TelnetSettled (terminalStep runtime windowChange .telnet sessionEnv state event) := by
  cases event with
  | terminal settings => exact telnetSettled_terminal h
  | resize dimensions => exact telnetSettled_resize h hsafe
  | complete call opened => exact telnetSettled_complete h hsafe
  | connections ssh => exact ⟨h.window, h.announced, h.terminal, h.shell, h.calls⟩

theorem sshSettled_unopened (h : Unopened .ssh state) :
    SshSettled state where
  shell := fun hopen => absurd h.shell hopen
  newest := by
    rw [h.requested]
    exact fun hopen => hopen h.shell
  idle := fun _ => waiting_of_quiet h.pending
  asked := by
    intro call shellCall hget
    have hquiet := waiting_of_quiet h.pending call
    unfold TerminalRun.waiting at hquiet
    rw [hget] at hquiet
    cases hquiet
  numbered := by
    rw [h.requested]
    exact fun entry hentry => absurd hentry List.not_mem_nil

theorem telnetSettled_unopened (h : Unopened .telnet state) :
    TelnetSettled state where
  window := by
    rw [h.window]
    exact nofun
  announced := by
    rintro (hopen | ⟨call, hcall⟩)
    · exact absurd h.shell hopen
    · rw [waiting_of_quiet h.pending call] at hcall
      cases hcall
  terminal := fun hremote => absurd h.window hremote
  shell := fun hopen => absurd h.shell hopen
  calls := by
    intro call shellCall hget
    have hquiet := waiting_of_quiet h.pending call
    unfold TerminalRun.waiting at hquiet
    rw [hget] at hquiet
    cases hquiet

-- In every run of safe steps the sizes agree, and whatever is refused changes nothing.
theorem sizes_agree_along {start : TerminalRun} (hstart : Unopened protocol start)
    (events : List TerminalEvent)
    (hsafe : Run.Along (terminalStep runtime windowChange protocol sessionEnv)
      (fun state event => sizeSafe runtime windowChange protocol state event = true)
      start events) :
    Run.Throughout (terminalStep runtime windowChange protocol sessionEnv) (SizesAgree protocol)
        start events ∧
      Run.Along (terminalStep runtime windowChange protocol sessionEnv)
        (RefusalKeeps runtime windowChange protocol) start events := by
  refine ⟨?_, Run.along_mono (fun _ _ => refusalKeeps_of_safe) hsafe⟩
  cases protocol with
  | ssh =>
    have hsettled := Run.throughout_of_step (sshSettled_unopened hstart)
      (fun _ _ h hevent => sshSettled_step h hevent) hsafe
    exact Run.throughout_mono (fun _ => sshSettled_agree) hsettled
  | telnet =>
    have hsettled := Run.throughout_of_step (telnetSettled_unopened hstart)
      (fun _ _ h hevent => telnetSettled_step h hevent) hsafe
    exact Run.throughout_mono (fun _ => telnetSettled_agree) hsettled

end Agreement

section Runs

def sizeMessage (rows cols : Int) : JsValue :=
  some (.object [(js "rows", .number (.ofInt rows)), (js "cols", .number (.ofInt cols))])

-- An SSH socket right after the login.
def loggedIn : TerminalRun where
  services := {
    terminal := {
      terminals := OrderedMap.empty
      defaultTerm := defaultTerm
      defaultRows := defaultRows
      defaultCols := defaultCols }
    ssh := OrderedMap.empty.set (js "c") .connected
    telnet := none }
  shared := { sessionId := some (js "s"), connectionId := some (js "c") }

-- The shell opens in 24 by 80, then the window grows.
def growingRun : List TerminalEvent :=
  [.terminal (sizeMessage 24 80), .complete 0 true, .resize (sizeMessage 40 120)]

theorem growing_sizes_agree :
    Run.Throughout (terminalStep asciiRuntime (fun _ => true) .ssh none) (SizesAgree .ssh)
        loggedIn growingRun ∧
      Run.Along (terminalStep asciiRuntime (fun _ => true) .ssh none)
        (RefusalKeeps asciiRuntime (fun _ => true) .ssh) loggedIn growingRun :=
  sizes_agree_along ⟨rfl, rfl, rfl, rfl⟩ growingRun (by decide)

-- A resize to 2000 rows is refused by the registry and sent to the server.
def tallRun : List TerminalEvent :=
  [.terminal (sizeMessage 24 80), .complete 0 true, .resize (sizeMessage 2000 80)]

theorem tall_sizes_disagree :
    ¬ (Run.Throughout (terminalStep asciiRuntime (fun _ => true) .ssh none) (SizesAgree .ssh)
          loggedIn tallRun ∧
        Run.Along (terminalStep asciiRuntime (fun _ => true) .ssh none)
          (RefusalKeeps asciiRuntime (fun _ => true) .ssh) loggedIn tallRun) := by
  rintro ⟨hagree, -⟩
  have hlast := Run.throughout_last _ hagree
  revert hlast
  unfold SizesAgree
  decide

end Runs

end WebSsh2.Socket

import WebSsh2.Logging.SyslogTransport

namespace WebSsh2.Logging.Connections

open Library Library.Run

section Model

def defaultReconnectDelayMs : Nat := 1000

def maxReconnectDelayMs : Nat := 30000

structure ConnectionOptions where
  transport : SyslogTransportOptions := {}
  socketFactory : Bool := false

-- What a call finds outside: where there is a factory, what the writes on the socket it
-- makes return, or none when it throws; and what the writes on the current socket return.
structure Outside where
  factory : Option (List Bool) := some []
  results : List Bool := []

structure SyslogConnection where
  transport : SyslogTransport := {}
  socket : Option Nat := none
  connecting : Bool := false
  reconnectTimer : Bool := false
  reconnectDelay : Nat := defaultReconnectDelayMs

inductive SocketPhase where
  | connecting | connected | errored | closed
deriving DecidableEq

-- The transport with all the sockets it ever made, in their order.
structure Network where
  connection : SyslogConnection := {}
  sockets : List SocketPhase := []

def bindSocket (net : Network) : Network where
  connection := { net.connection with socket := some net.sockets.length }
  sockets := net.sockets ++ [.connecting]

def connectUsingFactory (outside : Outside) (net : Network) : Network :=
  match outside.factory with
  | none => { net with connection := { net.connection with connecting := false } }
  | some results =>
    let bound := bindSocket net
    { bound with connection := { bound.connection with
        connecting := false
        reconnectDelay := defaultReconnectDelayMs
        transport := bound.connection.transport.flushQueue results } }

def ensureConnection (options : ConnectionOptions) (outside : Outside) (net : Network) :
    Network :=
  if net.connection.socket ≠ none ∨ net.connection.connecting = true then
    net
  else
    let started := { net with connection := { net.connection with connecting := true } }
    if options.socketFactory then connectUsingFactory outside started else bindSocket started

def flushQueue (options : ConnectionOptions) (outside : Outside) (net : Network) : Network :=
  if net.connection.socket = none then
    ensureConnection options outside net
  else
    { net with connection := { net.connection with
        transport := net.connection.transport.flushQueue outside.results } }

def scheduleReconnect (connection : SyslogConnection) : SyslogConnection :=
  if connection.reconnectTimer then connection else { connection with reconnectTimer := true }

def handleConnected (options : ConnectionOptions) (connectedSocket : Nat) (outside : Outside)
    (net : Network) : Network :=
  if net.connection.socket ≠ some connectedSocket then
    net
  else
    flushQueue options outside { net with connection := { net.connection with
      connecting := false
      reconnectDelay := defaultReconnectDelayMs } }

def handleSocketClose (options : ConnectionOptions) (net : Network) : Network :=
  let dropped := { net.connection with connecting := false, socket := none }
  { net with
    connection := if options.socketFactory then dropped else scheduleReconnect dropped }

-- The error's line on stderr apart, the same as at a close.
def handleSocketError (options : ConnectionOptions) (net : Network) : Network :=
  handleSocketClose options net

def publish (options : ConnectionOptions) (host : SyslogHost) (payload : JsString)
    (outside later : Outside) (net : Network) : Network :=
  match formatSyslogMessage host options.transport.formatter payload with
  | .error _ => net
  | .ok message =>
    if options.transport.bufferSize ≤ net.connection.transport.box.waiting.length then
      net
    else
      let accepted := { net with connection := { net.connection with
        transport := net.connection.transport.accept message } }
      let flushed := flushQueue options later (ensureConnection options outside accepted)
      if 0 < flushed.connection.transport.box.waiting.length then
        { flushed with connection := { flushed.connection with
            transport := flushed.connection.transport.scheduleFlush } }
      else
        flushed

def flushTick (options : ConnectionOptions) (outside : Outside) (net : Network) : Network :=
  if net.connection.transport.box.waiting.length = 0 then
    { net with connection := { net.connection with
        transport := { net.connection.transport with flushTimer := false } } }
  else
    flushQueue options outside net

def reconnectTick (options : ConnectionOptions) (outside : Outside) (net : Network) : Network :=
  let ensured := ensureConnection options outside
    { net with connection := { net.connection with reconnectTimer := false } }
  { ensured with connection := { ensured.connection with
      reconnectDelay := min (ensured.connection.reconnectDelay * 2) maxReconnectDelayMs } }

-- The constructor.
def create (options : ConnectionOptions) (outside : Outside) : Network :=
  ensureConnection options outside {}

end Model

section Events

inductive SocketSignal where
  | connect | error | close | drain
deriving DecidableEq

-- What a socket can still emit: it closes last, and after an error only that.
def SocketSignal.possible : SocketSignal → SocketPhase → Bool
  | .connect, phase => phase = .connecting
  | .error, phase => phase = .connecting ∨ phase = .connected
  | .close, phase => phase ≠ .closed
  | .drain, phase => phase = .connected

def SocketSignal.next : SocketSignal → SocketPhase → SocketPhase
  | .connect, _ => .connected
  | .error, _ => .errored
  | .close, _ => .closed
  | .drain, phase => phase

inductive ConnectionEvent where
  | publish (host : SyslogHost) (payload : JsString) (outside later : Outside)
  | flush (outside : Outside)
  | flushTimer (outside : Outside)
  | reconnectTimer (outside : Outside)
  | signal (socket : Nat) (signal : SocketSignal) (outside : Outside)

def handle (options : ConnectionOptions) (socket : Nat) (outside : Outside) (net : Network) :
    SocketSignal → Network
  | .connect => handleConnected options socket outside net
  | .error => handleSocketError options net
  | .close => handleSocketClose options net
  | .drain => flushQueue options outside net

def Emits (net : Network) (socket : Nat) (signal : SocketSignal) : Prop :=
  ∃ phase, net.sockets[socket]? = some phase ∧ signal.possible phase = true

-- A timer that is not running does not fire, and a socket emits what it can.
def step (options : ConnectionOptions) (net : Network) : ConnectionEvent → Network
  | .publish host payload outside later => publish options host payload outside later net
  | .flush outside => flushQueue options outside net
  | .flushTimer outside =>
    if net.connection.transport.flushTimer then flushTick options outside net else net
  | .reconnectTimer outside =>
    if net.connection.reconnectTimer then reconnectTick options outside net else net
  | .signal socket signal outside =>
    match net.sockets[socket]? with
    | none => net
    | some phase =>
      if signal.possible phase then
        handle options socket outside
          { net with sockets := net.sockets.set socket (signal.next phase) } signal
      else
        net

end Events

section Invariant

variable {options : ConnectionOptions} {net : Network}

-- It has neither errored nor closed.
def Live (net : Network) (socket : Nat) : Prop :=
  ∃ phase, net.sockets[socket]? = some phase ∧ (phase = .connecting ∨ phase = .connected)

-- No other socket than the current one lives, and without one a reconnect is due,
-- unless a factory makes the sockets.
structure Orderly (options : ConnectionOptions) (net : Network) : Prop where
  live : ∀ socket, Live net socket → net.connection.socket = some socket
  idle : net.connection.socket = none → net.connection.connecting = false
  waits : net.connection.socket = none → options.socketFactory = false →
    net.connection.reconnectTimer = true

-- What `ensureConnection` does where there is no socket: it makes one, unless the
-- factory throws.
theorem ensureConnection_cases (outside : Outside) (hsocket : net.connection.socket = none)
    (hidle : net.connection.connecting = false) :
    ((ensureConnection options outside net).sockets = net.sockets ∧
      (ensureConnection options outside net).connection.socket = none ∧
      (ensureConnection options outside net).connection.connecting = false ∧
      options.socketFactory = true) ∨
    ((ensureConnection options outside net).sockets = net.sockets ++ [.connecting] ∧
      (ensureConnection options outside net).connection.socket = some net.sockets.length) := by
  have hopen : ¬(net.connection.socket ≠ none ∨ net.connection.connecting = true) := by
    simp [hsocket, hidle]
  rw [ensureConnection, if_neg hopen]
  dsimp only
  by_cases hfactory : options.socketFactory = true
  · rw [if_pos hfactory, connectUsingFactory]
    cases outside.factory with
    | none => exact .inl ⟨rfl, hsocket, rfl, hfactory⟩
    | some results => exact .inr ⟨rfl, rfl⟩
  · rw [if_neg hfactory]
    exact .inr ⟨rfl, rfl⟩

-- Without a current socket there is none to lose, so a new one is the only one.
theorem orderly_ensureConnection (outside : Outside)
    (hlive : ∀ socket, Live net socket → net.connection.socket = some socket)
    (hidle : net.connection.socket = none → net.connection.connecting = false) :
    Orderly options (ensureConnection options outside net) := by
  by_cases hsocket : net.connection.socket = none
  · have hnone : ∀ socket, ¬Live net socket := fun socket h => by
      have := hlive socket h
      rw [hsocket] at this
      cases this
    obtain ⟨hsockets, hnull, hconnecting, hfactory⟩ | ⟨hsockets, hnew⟩ :=
      @ensureConnection_cases options net outside hsocket (hidle hsocket)
    · refine ⟨fun socket h => ?_, fun _ => hconnecting, fun _ hno => ?_⟩
      · rw [Live, hsockets] at h
        exact absurd h (hnone socket)
      · rw [hfactory] at hno
        cases hno
    · refine ⟨fun socket h => ?_, fun h => ?_, fun h => ?_⟩
      · obtain ⟨phase, hget, hphase⟩ := h
        rw [hsockets] at hget
        by_cases hold : socket < net.sockets.length
        · rw [List.getElem?_append_left hold] at hget
          exact absurd ⟨phase, hget, hphase⟩ (hnone socket)
        · have hlt := (List.getElem?_eq_some_iff.mp hget).1
          rw [List.length_append, List.length_singleton] at hlt
          rw [hnew, show socket = net.sockets.length by omega]
      · rw [hnew] at h
        cases h
      · rw [hnew] at h
        cases h
  · have hsame : ensureConnection options outside net = net := if_pos (.inl hsocket)
    rw [hsame]
    exact ⟨hlive, hidle, fun h => absurd h hsocket⟩

theorem orderly_transport (transport : SyslogTransport) (h : Orderly options net) :
    Orderly options { net with connection := { net.connection with transport := transport } } :=
  ⟨h.live, h.idle, h.waits⟩

variable (outside : Outside)

theorem orderly_flushQueue (h : Orderly options net) :
    Orderly options (flushQueue options outside net) := by
  unfold flushQueue
  split
  · exact orderly_ensureConnection outside h.live h.idle
  · exact ⟨h.live, h.idle, h.waits⟩

theorem orderly_publish (host : SyslogHost) (payload : JsString) (outside later : Outside)
    (h : Orderly options net) :
    Orderly options (publish options host payload outside later net) := by
  unfold publish
  dsimp only
  split
  · exact h
  · split
    · exact h
    · rename_i message _ _
      have haccepted := orderly_transport (net.connection.transport.accept message) h
      have hensured := @orderly_ensureConnection options _ outside haccepted.live
        haccepted.idle
      have hflushed := orderly_flushQueue later hensured
      split
      · exact orderly_transport _ hflushed
      · exact hflushed

theorem orderly_flushTick (h : Orderly options net) :
    Orderly options (flushTick options outside net) := by
  unfold flushTick
  split
  · exact orderly_transport _ h
  · exact orderly_flushQueue outside h

theorem orderly_reconnectTick (h : Orderly options net) :
    Orderly options (reconnectTick options outside net) := by
  have hensured := @orderly_ensureConnection options
    { net with connection := { net.connection with reconnectTimer := false } }
    outside h.live h.idle
  exact ⟨hensured.live, hensured.idle, hensured.waits⟩

theorem orderly_create : Orderly options (create options outside) := by
  refine orderly_ensureConnection outside (fun socket h => ?_) (fun _ => rfl)
  obtain ⟨phase, hget, -⟩ := h
  cases hget

theorem live_set {socket other : Nat} {phase : SocketPhase}
    (h : Live { net with sockets := net.sockets.set socket phase } other) :
    other = socket ∧ (phase = .connecting ∨ phase = .connected) ∨
      other ≠ socket ∧ Live net other := by
  obtain ⟨now, hget, hnow⟩ := h
  by_cases hsame : other = socket
  · subst hsame
    have hlt : other < net.sockets.length := by
      simpa using (List.getElem?_eq_some_iff.mp hget).1
    rw [List.getElem?_set_self hlt] at hget
    exact .inl ⟨rfl, Option.some.inj hget ▸ hnow⟩
  · rw [List.getElem?_set_ne (Ne.symm hsame)] at hget
    exact .inr ⟨hsame, now, hget, hnow⟩

theorem orderly_handleSocketClose (hnone : ∀ socket, ¬Live net socket) :
    Orderly options (handleSocketClose options net) := by
  unfold handleSocketClose
  dsimp only
  by_cases hfactory : options.socketFactory = true
  · rw [if_pos hfactory]
    refine ⟨fun socket h => absurd h (hnone socket), fun _ => rfl, fun _ hno => ?_⟩
    rw [hfactory] at hno
    cases hno
  · rw [if_neg hfactory, scheduleReconnect]
    split
    · rename_i htimer
      exact ⟨fun socket h => absurd h (hnone socket), fun _ => rfl, fun _ _ => htimer⟩
    · exact ⟨fun socket h => absurd h (hnone socket), fun _ => rfl, fun _ _ => rfl⟩

end Invariant

section Late

-- No socket errs or closes while another one is the current one.
def NoLateLoss (net : Network) (event : ConnectionEvent) : Prop :=
  ∀ socket signal outside, event = .signal socket signal outside →
    signal = .error ∨ signal = .close → Emits net socket signal →
      net.connection.socket = none ∨ net.connection.socket = some socket

-- What a socket that is not the current one emits changes nothing.
def Quiet (options : ConnectionOptions) (net : Network) (event : ConnectionEvent) : Prop :=
  ∀ socket signal outside, event = .signal socket signal outside →
    net.connection.socket ≠ some socket →
      (step options net event).connection = net.connection

variable {options : ConnectionOptions} {net : Network}

variable {signal : SocketSignal} {socket : Nat}

theorem step_signal_of_emits {phase : SocketPhase} (hphase : net.sockets[socket]? = some phase)
    (hpossible : signal.possible phase = true) (outside : Outside) :
    step options net (.signal socket signal outside) = handle options socket outside
      { net with sockets := net.sockets.set socket (signal.next phase) } signal := by
  simp only [step, hphase, hpossible, if_true]

theorem step_signal_of_not_emits (h : ¬Emits net socket signal) (outside : Outside) :
    step options net (.signal socket signal outside) = net := by
  unfold step
  dsimp only
  split
  · rfl
  · rename_i phase hphase
    split
    · rename_i hpossible
      exact absurd ⟨phase, hphase, hpossible⟩ h
    · rfl

-- Connecting and draining are for live sockets.
theorem live_of_possible {phase : SocketPhase} (hphase : net.sockets[socket]? = some phase)
    (hpossible : signal.possible phase = true) (hsignal : signal ≠ .close) : Live net socket := by
  refine ⟨phase, hphase, ?_⟩
  cases signal with
  | connect => exact .inl (by simpa [SocketSignal.possible] using hpossible)
  | error => simpa [SocketSignal.possible] using hpossible
  | close => exact absurd rfl hsignal
  | drain => exact .inr (by simpa [SocketSignal.possible] using hpossible)

theorem orderly_signal (outside : Outside) (h : Orderly options net)
    (hcondition : NoLateLoss net (.signal socket signal outside)) :
    Orderly options (step options net (.signal socket signal outside)) := by
  by_cases hemits : Emits net socket signal
  · obtain ⟨phase, hphase, hpossible⟩ := hemits
    rw [step_signal_of_emits hphase hpossible]
    by_cases hloss : signal = .error ∨ signal = .close
    · have hcurrent := hcondition socket signal outside rfl hloss ⟨phase, hphase, hpossible⟩
      have hnone : ∀ other, ¬Live { net with
          sockets := net.sockets.set socket (signal.next phase) } other := by
        intro other hlive
        obtain ⟨-, hnext⟩ | ⟨hother, hlive⟩ := live_set hlive
        · rcases hloss with rfl | rfl
          · simp [SocketSignal.next] at hnext
          · simp [SocketSignal.next] at hnext
        · have hsocket := h.live other hlive
          rcases hcurrent with hnull | hsame
          · rw [hnull] at hsocket
            cases hsocket
          · rw [hsame] at hsocket
            exact hother (Option.some.inj hsocket).symm
      rcases hloss with rfl | rfl
      · exact orderly_handleSocketClose hnone
      · exact orderly_handleSocketClose hnone
    · rw [not_or] at hloss
      have hlive := live_of_possible hphase hpossible hloss.2
      have hkept : Orderly options { net with
          sockets := net.sockets.set socket (signal.next phase) } := by
        refine ⟨fun other hother => ?_, h.idle, h.waits⟩
        obtain ⟨rfl, -⟩ | ⟨-, hother⟩ := live_set hother
        · exact h.live other hlive
        · exact h.live other hother
      cases signal with
      | connect =>
        simp only [handle, handleConnected]
        split
        · exact hkept
        · exact orderly_flushQueue outside ⟨hkept.live, fun _ => rfl, hkept.waits⟩
      | error => exact absurd rfl hloss.1
      | close => exact absurd rfl hloss.2
      | drain => exact orderly_flushQueue outside hkept
  · rw [step_signal_of_not_emits hemits]
    exact h

theorem orderly_step (event : ConnectionEvent) (h : Orderly options net)
    (hcondition : NoLateLoss net event) : Orderly options (step options net event) := by
  cases event with
  | publish host payload outside later => exact orderly_publish host payload outside later h
  | flush outside => exact orderly_flushQueue outside h
  | flushTimer outside =>
    simp only [step]
    split
    · exact orderly_flushTick outside h
    · exact h
  | reconnectTimer outside =>
    simp only [step]
    split
    · exact orderly_reconnectTick outside h
    · exact h
  | signal socket signal outside => exact orderly_signal outside h hcondition

theorem handleSocketClose_socket (options : ConnectionOptions) (net : Network) :
    (handleSocketClose options net).connection.socket = none := by
  unfold handleSocketClose scheduleReconnect
  dsimp only
  split
  · rfl
  · split
    · rfl
    · rfl

-- A loss where nothing is current leaves what an earlier one left.
theorem handleSocketClose_of_none (h : Orderly options net)
    (hsocket : net.connection.socket = none) (sockets : List SocketPhase) :
    (handleSocketClose options { net with sockets := sockets }).connection = net.connection := by
  have hdropped : { net.connection with connecting := false, socket := none } =
      net.connection := by
    rw [← hsocket, ← h.idle hsocket]
  simp only [handleSocketClose]
  rw [hdropped]
  by_cases hfactory : options.socketFactory = true
  · rw [if_pos hfactory]
  · have htimer := h.waits hsocket (by simpa using hfactory)
    rw [if_neg hfactory, scheduleReconnect, if_pos htimer]

theorem quiet_iff (event : ConnectionEvent) (h : Orderly options net) :
    Quiet options net event ↔ NoLateLoss net event := by
  constructor
  · intro hquiet socket signal outside hevent hloss hemits
    subst hevent
    by_cases hcurrent : net.connection.socket = some socket
    · exact .inr hcurrent
    · left
      have hsame := hquiet socket signal outside rfl hcurrent
      obtain ⟨phase, hphase, hpossible⟩ := hemits
      rw [step_signal_of_emits hphase hpossible] at hsame
      rw [← hsame]
      rcases hloss with rfl | rfl
      · exact handleSocketClose_socket _ _
      · exact handleSocketClose_socket _ _
  · intro hcondition socket signal outside hevent hstale
    subst hevent
    by_cases hemits : Emits net socket signal
    · obtain ⟨phase, hphase, hpossible⟩ := hemits
      by_cases hclose : signal = .close
      · have hcurrent := (hcondition socket signal outside rfl (.inr hclose)
          ⟨phase, hphase, hpossible⟩).resolve_right hstale
        rw [step_signal_of_emits hphase hpossible]
        subst hclose
        exact handleSocketClose_of_none h hcurrent _
      · exact absurd (h.live socket (live_of_possible hphase hpossible hclose)) hstale
    · rw [step_signal_of_not_emits hemits]

-- Late events change nothing and one socket lives at most, along the whole run,
-- exactly when no socket errs or closes behind its successor's back.
theorem syslogConnections_iff (options : ConnectionOptions) (outside : Outside)
    (events : List ConnectionEvent) :
    (Along (step options) (Quiet options) (create options outside) events ∧
      Throughout (step options) (fun net => ∀ first second, Live net first → Live net second →
        first = second) (create options outside) events) ↔
      Along (step options) NoLateLoss (create options outside) events := by
  have hquiet : Along (step options) (Quiet options) (create options outside) events ↔
      Along (step options) NoLateLoss (create options outside) events := by
    apply @along_congr_of_kept _ _ (step options) (Orderly options)
    · intro net event h hcondition
      exact orderly_step event h hcondition
    · intro net event h
      exact quiet_iff event h
    · exact orderly_create outside
  constructor
  · intro h
    exact hquiet.mp h.1
  · intro hcondition
    refine ⟨hquiet.mpr hcondition, ?_⟩
    have horderly : Throughout (step options) (Orderly options) (create options outside)
        events := by
      refine throughout_of_step (orderly_create outside) ?_ hcondition
      intro net event h hevent
      exact orderly_step event h hevent
    refine throughout_mono (fun net h first second hfirst hsecond => ?_) horderly
    exact Option.some.inj ((h.live first hfirst).symm.trans (h.live second hsecond))

-- A record is published between the error of the first socket and its close.
def lateClose : List ConnectionEvent :=
  [.signal 0 .error {}, .publish (loginHost (js "ann")) (loginPayload (js "ann")) {} {},
    .signal 0 .close {}, .reconnectTimer {}]

theorem syslogConnections_not_lateClose :
    ¬∀ (options : ConnectionOptions) (outside : Outside) (events : List ConnectionEvent),
      Along (step options) (Quiet options) (create options outside) events ∧
        Throughout (step options) (fun net => ∀ first second, Live net first → Live net second →
          first = second) (create options outside) events := by
  intro hall
  have hlast := throughout_last (step {}) (hall {} {} lateClose).2
  have hsockets : (run (step {}) (create {} {}) lateClose).sockets =
      [.closed, .connecting, .connecting] := by
    decide +kernel
  have hsame : 1 = 2 := hlast 1 2 ⟨.connecting, by rw [hsockets]; rfl, .inl rfl⟩
    ⟨.connecting, by rw [hsockets]; rfl, .inl rfl⟩
  cases hsame

end Late

end WebSsh2.Logging.Connections

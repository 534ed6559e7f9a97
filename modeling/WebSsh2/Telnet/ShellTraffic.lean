import WebSsh2.Telnet.Framing
import WebSsh2.Telnet.ServiceLifecycle

namespace WebSsh2.Telnet

open WebSsh2.Library WebSsh2.Library.Transducer WebSsh2.State

section Parser

variable (negotiator : Negotiator)

-- What of the parser decides how the next bytes are read.
def Negotiator.parser : ParserState × UInt8 × Bytes :=
  (negotiator.state, negotiator.currentCommand, negotiator.subnegBuffer)

-- The options have no part in it.
theorem parser_processOneByte {first second : Negotiator} (h : first.parser = second.parser)
    (byte : UInt8) :
    (first.processOneByte byte).1.parser = (second.processOneByte byte).1.parser ∧
      cleanData (first.processOneByte byte).2 = cleanData (second.processOneByte byte).2 := by
  obtain ⟨options, state, currentCommand, subnegBuffer⟩ := first
  obtain ⟨others, state', currentCommand', subnegBuffer'⟩ := second
  simp only [Negotiator.parser, Prod.mk.injEq] at h
  obtain ⟨rfl, rfl, rfl⟩ := h
  constructor
  · cases state with
    | data =>
      by_cases hbyte : byte = IAC <;>
        simp [Negotiator.processOneByte, Negotiator.handleDataByte, Negotiator.parser, hbyte]
    | gotIAC =>
      simp only [Negotiator.processOneByte, Negotiator.handleAfterIAC]
      split
      · rfl
      · split
        · rfl
        · split <;> rfl
    | gotCommand => rfl
    | inSubnegotiation =>
      by_cases hbyte : byte = IAC <;>
        simp [Negotiator.processOneByte, Negotiator.handleSubnegByte, Negotiator.parser, hbyte]
    | subnegotiationGotIAC =>
      simp only [Negotiator.processOneByte, Negotiator.handleSubnegIACByte,
        Negotiator.processSubnegotiation]
      split
      · split <;> rfl
      · split <;> rfl
  · rw [cleanData_processOneByte, cleanData_processOneByte]
    rfl

theorem parser_feed {first second : Negotiator} (h : first.parser = second.parser)
    (bytes : Bytes) :
    (feed Negotiator.processOneByte first bytes).1.parser =
        (feed Negotiator.processOneByte second bytes).1.parser ∧
      cleanData (feed Negotiator.processOneByte first bytes).2 =
        cleanData (feed Negotiator.processOneByte second bytes).2 := by
  induction bytes generalizing first second with
  | nil => exact ⟨h, rfl⟩
  | cons byte rest ih =>
    obtain ⟨hnext, hclean⟩ := parser_processOneByte h byte
    obtain ⟨hlast, hrest⟩ := ih hnext
    rw [feed_cons, feed_cons, cleanData_append, cleanData_append, hclean, hrest]
    exact ⟨hlast, rfl⟩

-- A message of the negotiation, whole.
def IsMessage (bytes : Bytes) : Prop :=
  (∃ verb option, bytes = (Item.negotiation verb option).encode) ∨
    ∃ payload, bytes = (Item.subnegotiation payload).encode

def Spelled (terminalType : JsString) : Prop :=
  ∀ unit ∈ terminalType, unit.toUInt8 ≠ IAC

theorem isMessage_naws (cols rows : Number) : IsMessage (encodeNaws cols rows) :=
  .inr ⟨_, encodeNaws_item cols rows⟩

theorem isMessage_terminalType {options : Options} (h : Spelled options.terminalType) :
    IsMessage options.encodeTerminalType :=
  .inr ⟨_, (readsAs_iff _ _).mp ((encodeTerminalType_readsAs_iff options).mpr h)⟩

theorem isMessage_will (option : UInt8) : IsMessage [IAC, WILL, option] :=
  .inl ⟨.will, option, rfl⟩

theorem handleCommand_sends (options : Options) (command option : UInt8) :
    (options.handleCommand command option).1.terminalType = options.terminalType ∧
      ∀ message ∈ (options.handleCommand command option).2, IsMessage message := by
  have hone : ∀ (verb : Verb) message, message ∈ [[IAC, verb.byte, option]] → IsMessage message := by
    intro verb message hmem
    obtain rfl := List.mem_singleton.mp hmem
    exact .inl ⟨verb, option, rfl⟩
  unfold Options.handleCommand
  split
  · unfold Options.handleDo
    split
    · exact ⟨rfl, hone .wont⟩
    · refine ⟨rfl, fun message hmem => ?_⟩
      rcases List.mem_append.mp hmem with hwill | hnaws
      · split at hwill
        · exact hone .will message hwill
        · cases hwill
      · split at hnaws
        · obtain rfl := List.mem_singleton.mp hnaws
          exact isMessage_naws _ _
        · cases hnaws
  · split
    · exact ⟨rfl, hone .wont⟩
    · split
      · refine ⟨rfl, ?_⟩
        unfold Options.handleWill
        split
        · exact hone .do
        · exact hone .dont
      · split
        · exact ⟨rfl, hone .dont⟩
        · exact ⟨rfl, nofun⟩

-- What a byte has the negotiator send, and that it keeps the name of the terminal.
theorem processOneByte_sends (byte : UInt8) :
    (negotiator.processOneByte byte).1.terminalType = negotiator.terminalType ∧
      (Spelled negotiator.terminalType →
        ∀ message ∈ responses (negotiator.processOneByte byte).2, IsMessage message) := by
  have hmap : ∀ sent : List Bytes, responses (sent.map .response) = sent := by
    intro sent
    simp [responses]
  have hquiet : ∀ outputs : List Output, responses outputs = [] →
      (Spelled negotiator.terminalType → ∀ message ∈ responses outputs, IsMessage message) := by
    intro outputs hnone _ message hmem
    rw [hnone] at hmem
    cases hmem
  unfold Negotiator.processOneByte
  cases negotiator.state with
  | data =>
    dsimp only
    unfold Negotiator.handleDataByte
    split
    · exact ⟨rfl, hquiet [] rfl⟩
    · exact ⟨rfl, hquiet [_] rfl⟩
  | gotIAC =>
    dsimp only
    unfold Negotiator.handleAfterIAC
    split
    · exact ⟨rfl, hquiet [_] rfl⟩
    · split
      · exact ⟨rfl, hquiet [] rfl⟩
      · split
        · exact ⟨rfl, hquiet [] rfl⟩
        · exact ⟨rfl, hquiet [] rfl⟩
  | gotCommand =>
    obtain ⟨hname, hsent⟩ :=
      handleCommand_sends negotiator.toOptions negotiator.currentCommand byte
    refine ⟨hname, fun _ => ?_⟩
    unfold Negotiator.handleOptionByte
    dsimp only
    rw [hmap]
    exact hsent
  | inSubnegotiation =>
    dsimp only
    unfold Negotiator.handleSubnegByte
    split
    · exact ⟨rfl, hquiet [] rfl⟩
    · exact ⟨rfl, hquiet [] rfl⟩
  | subnegotiationGotIAC =>
    obtain ⟨hoptions, hout⟩ := processSubnegotiation_spec negotiator
    dsimp only
    unfold Negotiator.handleSubnegIACByte
    split
    · refine ⟨congrArg Options.terminalType hoptions, fun hspelled => ?_⟩
      dsimp only
      rw [hout, hmap]
      unfold Negotiator.subnegotiationResponse
      split
      · split
        · intro message hmem
          obtain rfl := List.mem_singleton.mp hmem
          exact isMessage_terminalType hspelled
        · exact fun _ hmem => absurd hmem List.not_mem_nil
      · exact fun _ hmem => absurd hmem List.not_mem_nil
    · split
      · exact ⟨rfl, hquiet [] rfl⟩
      · exact ⟨rfl, hquiet [] rfl⟩

theorem feed_sends (bytes : Bytes) :
    (feed Negotiator.processOneByte negotiator bytes).1.terminalType = negotiator.terminalType ∧
      (Spelled negotiator.terminalType → ∀ message ∈
        responses (feed Negotiator.processOneByte negotiator bytes).2, IsMessage message) := by
  induction bytes generalizing negotiator with
  | nil => exact ⟨rfl, fun _ => nofun⟩
  | cons byte rest ih =>
    obtain ⟨hname, hsent⟩ := processOneByte_sends negotiator byte
    obtain ⟨hlast, hrest⟩ := ih (negotiator.processOneByte byte).1
    refine ⟨hlast.trans hname, fun hspelled message hmem => ?_⟩
    rw [feed_cons, responses_append, List.mem_append] at hmem
    rcases hmem with hnow | hlater
    · exact hsent hspelled message hnow
    · refine hrest ?_ message hlater
      rw [hname]
      exact hspelled

theorem offers_sends (options : Options) :
    options.buildProactiveOffers.1.terminalType = options.terminalType ∧
      ∀ message ∈ options.buildProactiveOffers.2, IsMessage message := by
  have hstep : ∀ (wanted : List UInt8) (offered : Options × List Bytes),
      (wanted.foldl Options.offerOption offered).1.terminalType = offered.1.terminalType ∧
        ((∀ message ∈ offered.2, IsMessage message) →
          ∀ message ∈ (wanted.foldl Options.offerOption offered).2, IsMessage message) := by
    intro wanted
    induction wanted with
    | nil => exact fun offered => ⟨rfl, id⟩
    | cons option rest ih =>
      intro offered
      rw [List.foldl_cons]
      obtain ⟨hname, hall⟩ := ih (Options.offerOption offered option)
      refine ⟨hname.trans ?_, fun hbefore => hall ?_⟩
      · unfold Options.offerOption
        split <;> rfl
      · unfold Options.offerOption
        split
        · rw [List.forall_mem_append]
          refine ⟨hbefore, fun message hmem => ?_⟩
          obtain rfl := List.mem_singleton.mp hmem
          exact isMessage_will option
        · exact hbefore
  obtain ⟨hname, hall⟩ := hstep [TERMINAL_TYPE, NAWS] (options, [])
  exact ⟨hname, hall nofun⟩

end Parser

section Text

theorem toUInt8_ne_iac {value : Nat} (h : value < 255) : value.toUInt8 ≠ IAC := by
  intro heq
  have hvalue := congrArg UInt8.toNat heq
  simp [IAC] at hvalue
  omega

theorem encodeUnit_ne (unit : UInt16) : ∀ byte ∈ bufferFrom.encodeUnit unit, byte ≠ IAC := by
  have hunit := unit.toNat_lt
  intro byte hbyte
  unfold bufferFrom.encodeUnit at hbyte
  split at hbyte
  · rename_i hascii
    obtain rfl := List.mem_singleton.mp hbyte
    intro heq
    have hvalue := congrArg UInt8.toNat heq
    rw [UInt16.lt_iff_toNat_lt] at hascii
    simp [IAC] at hvalue hascii
    omega
  · split at hbyte
    · rename_i hshort
      rw [UInt16.lt_iff_toNat_lt] at hshort
      simp only [List.mem_cons, List.not_mem_nil, or_false] at hbyte
      simp at hshort
      rcases hbyte with rfl | rfl
      · exact toUInt8_ne_iac (by omega)
      · exact toUInt8_ne_iac (by omega)
    · split at hbyte
      · simp only [List.mem_cons, List.not_mem_nil, or_false] at hbyte
        rcases hbyte with rfl | rfl | rfl <;> decide
      · simp only [List.mem_cons, List.not_mem_nil, or_false] at hbyte
        rcases hbyte with rfl | rfl | rfl
        · exact toUInt8_ne_iac (by omega)
        · exact toUInt8_ne_iac (by omega)
        · exact toUInt8_ne_iac (by omega)

-- UTF-8 has no use for the byte that starts a command.
theorem iac_not_mem_bufferFrom (text : JsString) : IAC ∉ bufferFrom text := by
  induction text using bufferFrom.induct with
  | case1 => exact List.not_mem_nil
  | case2 unit => exact fun hmem => encodeUnit_ne unit IAC hmem rfl
  | case3 unit next rest hpair ih =>
    obtain ⟨hlow, hhigh, hnextLow, hnextHigh⟩ := hpair
    rw [bufferFrom, if_pos ⟨hlow, hhigh, hnextLow, hnextHigh⟩]
    rw [UInt16.lt_iff_toNat_lt] at hhigh hnextHigh
    simp at hhigh hnextHigh
    simp only [List.mem_append, List.mem_cons, List.not_mem_nil, or_false, not_or]
    refine ⟨⟨Ne.symm (toUInt8_ne_iac ?_), Ne.symm (toUInt8_ne_iac ?_),
      Ne.symm (toUInt8_ne_iac ?_), Ne.symm (toUInt8_ne_iac ?_)⟩, ih⟩
    · omega
    · omega
    · omega
    · omega
  | case4 unit next rest hpair ih =>
    rw [bufferFrom, if_neg hpair, List.mem_append, not_or]
    exact ⟨fun hmem => encodeUnit_ne unit IAC hmem rfl, ih⟩

end Text

section Shells

-- The data in everything that a shell's listener was called with.
def decoded (received : List Bytes) : Bytes :=
  cleanData (feed Negotiator.processOneByte { terminalType := [] } received.flatten).2

variable (shell : Shell)

-- What there was to show: the data itself, or what the authenticator let through of it.
def Shell.handed : Bytes :=
  match shell.authenticator with
  | none => decoded shell.received
  | some login => login.log.flatMap fun entry => entry.shown.delivered

-- A stream shows all that it is handed until it is destroyed.
def ShellDuplex.Shows (stream : ShellDuplex) (handed : Bytes) : Prop :=
  stream.pushed.flatten <+: handed ∧ (stream.destroyed = false → stream.pushed.flatten = handed)

structure Screen (shell : Shell) : Prop where
  parser : shell.negotiator.parser = (feed Negotiator.processOneByte { terminalType := [] }
    shell.received.flatten).1.parser
  login : ∀ login, shell.authenticator = some login →
    (∃ options events, login = Run.run Login.step (Login.start options) events) ∧
      login.log.flatMap LoginEntry.received = decoded shell.received
  shows : shell.stream.Shows shell.handed

def Sent.Proper : Sent → Prop
  | .negotiation bytes => IsMessage bytes
  | .login bytes => IAC ∉ bytes
  | .client _ => True

variable (socket : NetSocket)

-- Either nothing changes, or the socket is paused until the consumer reads, or it reads.
def FlowStep (next : Shell) (after : NetSocket) : Prop :=
  (after.paused = socket.paused ∧ next.stream.needsDrain = shell.stream.needsDrain) ∨
  (after.paused = true ∧ next.stream.needsDrain = true) ∨
  (after.paused = false ∧ next.stream.needsDrain = false)

-- What one handler does with its shell and the socket.
structure Acts (shell : Shell) (socket : NetSocket) (next : Shell) (after : NetSocket) : Prop where
  call : next.call = shell.call
  name : next.negotiator.terminalType = shell.negotiator.terminalType
  screen : Screen shell → Screen next
  written : ∃ more, after.written = socket.written ++ more ∧
    (Screen shell → Spelled shell.negotiator.terminalType → ∀ sent ∈ more, sent.Proper)
  flow : FlowStep shell socket next after

theorem Acts.refl : Acts shell socket shell socket where
  call := rfl
  name := rfl
  screen := id
  written := ⟨[], (List.append_nil _).symm, fun _ _ => nofun⟩
  flow := .inl ⟨rfl, rfl⟩

@[simp] theorem NetSocket.paused_write (sent : Sent) :
    (socket.write sent).paused = socket.paused := by
  unfold NetSocket.write
  split <;> rfl

theorem NetSocket.writeAll_written (sents : List Sent) :
    (socket.writeAll sents).paused = socket.paused ∧ ∃ more,
      (socket.writeAll sents).written = socket.written ++ more ∧ ∀ sent ∈ more, sent ∈ sents := by
  unfold NetSocket.writeAll
  induction sents generalizing socket with
  | nil => exact ⟨rfl, [], (List.append_nil _).symm, nofun⟩
  | cons sent rest ih =>
    obtain ⟨hpaused, more, hmore, hmem⟩ := ih (socket.write sent)
    rw [List.foldl_cons, hmore, hpaused, NetSocket.paused_write]
    refine ⟨rfl, ?_⟩
    unfold NetSocket.write
    split
    · exact ⟨more, rfl, fun other hother => List.mem_cons_of_mem _ (hmem other hother)⟩
    · refine ⟨sent :: more, ?_, List.forall_mem_cons.mpr ⟨List.mem_cons_self,
        fun other hother => List.mem_cons_of_mem _ (hmem other hother)⟩⟩
      exact List.append_cons _ _ _ ▸ rfl

-- What pushing leaves as it is, what it adds, and when it pauses the socket.
structure Pushes (shell : Shell) (socket : NetSocket) (bytes : Bytes) (next : Shell)
    (after : NetSocket) : Prop where
  rest : next = { shell with stream := next.stream }
  shows : ∀ handed, shell.stream.Shows handed → next.stream.Shows (handed ++ bytes)
  written : after.written = socket.written
  flow : FlowStep shell socket next after

theorem push_shows {stream : ShellDuplex} {handed : Bytes} (h : stream.Shows handed)
    (chunk : Bytes) : (stream.push chunk).1.Shows (handed ++ chunk) := by
  unfold ShellDuplex.push
  split
  · rename_i hdestroyed
    refine ⟨h.1.trans (List.prefix_append handed chunk), fun hopen => ?_⟩
    cases hdestroyed.symm.trans hopen
  · rename_i hopen
    have hall : (stream.pushed ++ [chunk]).flatten = handed ++ chunk := by
      rw [List.flatten_append, h.2 (by simpa using hopen), List.flatten_singleton]
    exact ⟨hall ▸ List.prefix_rfl, fun _ => hall⟩

theorem push_needsDrain (stream : ShellDuplex) (chunk : Bytes) :
    (stream.push chunk).1.needsDrain = stream.needsDrain := by
  unfold ShellDuplex.push
  split <;> rfl

theorem pushData_pushes (bytes : Bytes) :
    Pushes shell socket bytes (shell.pushData socket bytes).1 (shell.pushData socket bytes).2 := by
  unfold Shell.pushData
  dsimp only
  split
  · exact ⟨rfl, fun _ h => push_shows h bytes, rfl, .inr (.inl ⟨rfl, rfl⟩)⟩
  · exact ⟨rfl, fun _ h => push_shows h bytes, rfl, .inl ⟨rfl, push_needsDrain _ _⟩⟩

theorem deliver_pushes (bytes : Bytes) :
    Pushes shell socket bytes (shell.deliver socket bytes).1 (shell.deliver socket bytes).2 := by
  unfold Shell.deliver
  split
  · exact pushData_pushes shell socket bytes
  · rename_i hnone
    have hempty : bytes = [] := List.eq_nil_of_length_eq_zero (by omega)
    refine ⟨rfl, fun handed h => ?_, rfl, .inl ⟨rfl, rfl⟩⟩
    rw [hempty, List.append_nil]
    exact h

theorem read_acts : Acts shell socket (shell.read socket).1 (shell.read socket).2 := by
  unfold Shell.read
  split
  · exact ⟨rfl, rfl, fun h => ⟨h.parser, h.login, h.shows⟩,
      ⟨[], (List.append_nil _).symm, fun _ _ => nofun⟩, .inr (.inr ⟨rfl, rfl⟩)⟩
  · exact .refl shell socket

theorem writeStream_acts (text : JsString) (shell : Shell) (socket : NetSocket) :
    Acts shell socket (TelnetServiceImpl.writeStream text shell socket).1
      (TelnetServiceImpl.writeStream text shell socket).2 := by
  unfold TelnetServiceImpl.writeStream
  split
  · exact .refl shell socket
  · obtain ⟨hpaused, more, hmore, hmem⟩ := socket.writeAll_written [.client text]
    refine ⟨rfl, rfl, id, ⟨more, hmore, fun _ _ sent hsent => ?_⟩, .inl ⟨hpaused, rfl⟩⟩
    obtain rfl := List.mem_singleton.mp (hmem sent hsent)
    trivial

def WritesText (log : List LoginEntry) : Prop :=
  ∀ entry ∈ log, ∀ bytes, entry.shown.written = some bytes → IAC ∉ bytes

theorem moves_text {options : AuthOptions} {state next : AuthState}
    {buffer received nextBuffer : Bytes} {shown : Shown}
    (h : Moves options state buffer received next nextBuffer shown) {bytes : Bytes}
    (hwritten : shown.written = some bytes) : IAC ∉ bytes := by
  cases h with
  | username | password => exact Option.some.inj hwritten ▸ iac_not_mem_bufferFrom _
  | stays | passes | buffers | overflows | fails | timesOut | settles => cases hwritten

-- What a step of the authenticator of a run writes is a line of text.
theorem written_proper {options : AuthOptions} {events : List AuthEvent} {login : Login}
    (hrun : login = Run.run Login.step (Login.start options) events) (event : AuthEvent)
    {bytes : Bytes} (hwritten : (login.auth.react event).2.written = some bytes) : IAC ∉ bytes := by
  subst hrun
  have hkept : KeptByMoves options fun _ _ log => WritesText log := by
    intro state buffer received next nextBuffer shown log hlog hmoves
    refine List.forall_mem_append.mpr ⟨hlog, fun entry hentry bytes hsome => ?_⟩
    obtain rfl := List.mem_singleton.mp hentry
    exact moves_text hmoves hsome
  obtain ⟨_, _, hlog⟩ := @run_holds options (fun _ _ log => WritesText log) nofun hkept
    (events ++ [event])
  rw [Run.run_append] at hlog
  exact hlog _ (List.mem_append_right _ List.mem_cons_self) bytes hwritten

-- The authenticator takes one more event, and what it lets through is pushed.
theorem Screen.react {shell : Shell} {login : Login} (h : Screen shell)
    (hlogin : shell.authenticator = some login) (event : AuthEvent) {received : List Bytes}
    {negotiator : Negotiator} {stream : ShellDuplex}
    (hparser : negotiator.parser = (feed Negotiator.processOneByte { terminalType := [] }
      received.flatten).1.parser)
    (hdecoded : decoded received = decoded shell.received ++ event.received)
    (hshows : ∀ handed, shell.stream.Shows handed →
      stream.Shows (handed ++ (login.auth.react event).2.delivered)) :
    Screen { shell with negotiator, received, stream, authenticator := some (login.step event) } := by
  obtain ⟨⟨options, events, hrun⟩, hreceived⟩ := h.login login hlogin
  have hlog : (login.step event).log = login.log ++ [⟨login.auth.currentState,
      (login.auth.react event).1.currentState, event.received, (login.auth.react event).2⟩] := rfl
  refine ⟨hparser, fun other hother => ?_, ?_⟩
  · obtain rfl := Option.some.inj hother
    refine ⟨⟨options, events ++ [event], by rw [Run.run_append, ← hrun]; rfl⟩, ?_⟩
    rw [hlog, List.flatMap_append, hreceived, hdecoded]
    exact congrArg _ (List.append_nil _)
  · have hnow := hshows _ h.shows
    unfold Shell.handed at hnow ⊢
    rw [hlogin] at hnow
    dsimp only at hnow ⊢
    rw [hlog, List.flatMap_append, List.flatMap_singleton]
    exact hnow

theorem fireTimer_acts (handle : Nat) (shell : Shell) (socket : NetSocket) :
    Acts shell socket (shell.fireTimer socket handle).1 (shell.fireTimer socket handle).2 := by
  unfold Shell.fireTimer
  split
  · exact .refl shell socket
  · rename_i login hlogin
    dsimp only
    generalize hreacted : ({ shell with
      authenticator := some (login.step (.timer handle)) } : Shell) = reacted
    have hpushes := deliver_pushes reacted socket (login.auth.react (.timer handle)).2.delivered
    generalize reacted.deliver socket (login.auth.react (.timer handle)).2.delivered = outcome
      at hpushes
    obtain ⟨next, after⟩ := outcome
    obtain ⟨hrest, hshows, hwritten, hflow⟩ := hpushes
    subst hreacted
    dsimp only at hrest hshows hwritten hflow ⊢
    rw [hrest] at hflow ⊢
    refine ⟨rfl, rfl, fun h => ?_, ⟨[], by rw [hwritten, List.append_nil], fun _ _ => nofun⟩, hflow⟩
    exact h.react hlogin (.timer handle) h.parser (List.append_nil _).symm hshows

-- One more chunk, wherever the stream was cut.
theorem Screen.receives {shell : Shell} (h : Screen shell) (data : Bytes) :
    (shell.negotiator.processInbound data).1.parser = (feed Negotiator.processOneByte
        { terminalType := [] } (shell.received ++ [data]).flatten).1.parser ∧
      decoded (shell.received ++ [data]) =
        decoded shell.received ++ (shell.negotiator.processInbound data).2.cleanData := by
  have hflatten : (shell.received ++ [data]).flatten = shell.received.flatten ++ data := by simp
  obtain ⟨hparser, hclean⟩ := parser_feed h.parser data
  unfold decoded
  rw [hflatten, feed_append, cleanData_append]
  exact ⟨hparser, congrArg _ hclean.symm⟩

theorem handleSocketData_acts (data : Bytes) (shell : Shell) (socket : NetSocket) :
    Acts shell socket (shell.handleSocketData socket data).1
      (shell.handleSocketData socket data).2 := by
  obtain ⟨hname, hmessages⟩ := feed_sends shell.negotiator data
  obtain ⟨hpaused, sent, hsent, hmem⟩ := socket.writeAll_written
    ((shell.negotiator.processInbound data).2.responses.map .negotiation)
  have hproper : Spelled shell.negotiator.terminalType → ∀ one ∈ sent, one.Proper := by
    intro hspelled one hone
    obtain ⟨message, hmessage, rfl⟩ := List.mem_map.mp (hmem one hone)
    exact hmessages hspelled message hmessage
  unfold Shell.handleSocketData
  dsimp only
  generalize hanswered : socket.writeAll
    ((shell.negotiator.processInbound data).2.responses.map .negotiation) = answered at hpaused hsent
  split
  · rename_i hnone
    have hempty := List.eq_nil_of_length_eq_zero hnone
    refine ⟨rfl, hname, fun h => ?_, ⟨sent, hsent, fun _ => hproper⟩, .inl ⟨hpaused, rfl⟩⟩
    obtain ⟨hparser, hdecoded⟩ := h.receives data
    rw [hempty, List.append_nil] at hdecoded
    have hshows := h.shows
    unfold Shell.handed at hshows
    refine ⟨hparser, fun login hlogin => ?_, ?_⟩
    · rw [hdecoded]
      exact h.login login hlogin
    · unfold Shell.handed
      dsimp only
      rw [hdecoded]
      exact hshows
  · split
    · rename_i hplain
      have hpushes := pushData_pushes { shell with
        negotiator := (shell.negotiator.processInbound data).1
        received := shell.received ++ [data] } answered
        (shell.negotiator.processInbound data).2.cleanData
      generalize Shell.pushData _ answered _ = outcome at hpushes ⊢
      obtain ⟨next, after⟩ := outcome
      obtain ⟨hrest, hshows, hwritten, hflow⟩ := hpushes
      dsimp only at hrest hshows hwritten hflow ⊢
      rw [hrest] at hflow ⊢
      refine ⟨rfl, hname, fun h => ?_, ⟨sent, hwritten.trans hsent, fun _ => hproper⟩, ?_⟩
      · obtain ⟨hparser, hdecoded⟩ := h.receives data
        refine ⟨hparser, fun login hlogin => ?_, ?_⟩
        · cases hplain.symm.trans hlogin
        · have hnow := hshows _ h.shows
          unfold Shell.handed at hnow ⊢
          simp only [hplain] at hnow ⊢
          rw [hdecoded]
          exact hnow
      · unfold FlowStep at hflow ⊢
        rw [← hpaused]
        exact hflow
    · rename_i login hlogin
      obtain ⟨hpausedLogin, lines, hlines, hmemLines⟩ := answered.writeAll_written
        ((login.auth.react (.data (shell.negotiator.processInbound data).2.cleanData)).2.written.toList.map
          .login)
      generalize answered.writeAll _ = typed at hpausedLogin hlines ⊢
      have hpushes := deliver_pushes { shell with
        negotiator := (shell.negotiator.processInbound data).1
        received := shell.received ++ [data]
        authenticator := some (login.step
          (.data (shell.negotiator.processInbound data).2.cleanData)) } typed
        (login.auth.react (.data (shell.negotiator.processInbound data).2.cleanData)).2.delivered
      generalize Shell.deliver _ typed _ = outcome at hpushes ⊢
      obtain ⟨next, after⟩ := outcome
      obtain ⟨hrest, hshows, hwritten, hflow⟩ := hpushes
      dsimp only at hrest hshows hwritten hflow ⊢
      rw [hrest] at hflow ⊢
      refine ⟨rfl, hname, fun h => ?_, ⟨sent ++ lines, ?_, fun h hspelled => ?_⟩, ?_⟩
      · obtain ⟨hparser, hdecoded⟩ := h.receives data
        exact h.react hlogin (.data _) hparser hdecoded hshows
      · rw [hwritten, hlines, hsent, List.append_assoc]
      · refine List.forall_mem_append.mpr ⟨hproper hspelled, fun one hone => ?_⟩
        obtain ⟨bytes, hbytes, rfl⟩ := List.mem_map.mp (hmemLines one hone)
        obtain ⟨⟨options, events, hrun⟩, _⟩ := h.login login hlogin
        exact written_proper hrun _ (Option.mem_toList.mp hbytes)
      · unfold FlowStep at hflow ⊢
        rw [← hpaused, ← hpausedLogin]
        exact hflow

theorem dataListener_acts (call : Nat) (data : Bytes) (shell : Shell) (socket : NetSocket) :
    Acts shell socket (TelnetServiceImpl.dataListener call data shell socket).1
      (TelnetServiceImpl.dataListener call data shell socket).2 := by
  unfold TelnetServiceImpl.dataListener
  split
  · exact handleSocketData_acts data shell socket
  · exact .refl shell socket

end Shells

end WebSsh2.Telnet

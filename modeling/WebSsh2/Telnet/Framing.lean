import WebSsh2.Telnet.Exchange

namespace WebSsh2.Telnet

open WebSsh2.Library.Transducer

-- What a receiver makes of the bytes it is sent.
inductive Reading where
  | data (byte : UInt8)
  | command (code : UInt8)
  | negotiation (command option : UInt8)
  | subnegotiation (payload : Bytes)
  | brokenOff (payload : Bytes) (byte : UInt8)
deriving DecidableEq

namespace Negotiator

-- What the byte completes, with the parser in its present state.
def reading (negotiator : Negotiator) (byte : UInt8) : List Reading :=
  match negotiator.state with
  | .data => if byte = IAC then [] else [.data byte]
  | .gotIAC =>
    if byte = IAC then [.data IAC]
    else if byte ∈ [SB, DO, DONT, WILL, WONT] then []
    else [.command byte]
  | .gotCommand => [.negotiation negotiator.currentCommand byte]
  | .inSubnegotiation => []
  | .subnegotiationGotIAC =>
    if byte = SE then [.subnegotiation negotiator.subnegBuffer]
    else if byte = IAC then []
    else [.brokenOff negotiator.subnegBuffer byte]

def receive (negotiator : Negotiator) (byte : UInt8) : Negotiator × List Reading :=
  ((negotiator.processOneByte byte).1, negotiator.reading byte)

end Negotiator

-- The bytes are one subnegotiation with the payload, and nothing else.
def ReadsAs (bytes payload : Bytes) : Prop :=
  ∀ receiver : Negotiator, receiver.state = .data →
    (feed Negotiator.receive receiver bytes).2 = [.subnegotiation payload] ∧
      (feed Negotiator.receive receiver bytes).1.state = .data

section Reader

variable {negotiator : Negotiator}

-- The data of the readings is the clean data of the parser.
theorem cleanData_processOneByte (negotiator : Negotiator) (byte : UInt8) :
    cleanData (negotiator.processOneByte byte).2 =
      (negotiator.reading byte).filterMap fun
        | .data clean => some clean
        | _ => none := by
  have hresponses : ∀ sent : List Bytes, cleanData (sent.map .response) = [] := by
    intro sent
    simp [cleanData]
  unfold Negotiator.processOneByte Negotiator.reading
  cases negotiator.state with
  | data =>
    unfold Negotiator.handleDataByte
    by_cases hbyte : byte = IAC
    · simp [hbyte, cleanData]
    · simp [hbyte, cleanData]
  | gotIAC =>
    unfold Negotiator.handleAfterIAC
    by_cases hbyte : byte = IAC
    · simp [hbyte, cleanData]
    · dsimp only
      rw [if_neg hbyte, if_neg hbyte]
      split <;> split <;> try split
      all_goals rfl
  | gotCommand => exact hresponses _
  | inSubnegotiation => rfl
  | subnegotiationGotIAC =>
    unfold Negotiator.handleSubnegIACByte
    by_cases hend : byte = SE
    · dsimp only
      rw [if_pos hend, if_pos hend, (processSubnegotiation_spec negotiator).2]
      exact hresponses _
    · dsimp only
      rw [if_neg hend, if_neg hend]
      split <;> rfl

theorem receive_data (hstate : negotiator.state = .data) (byte : UInt8) :
    negotiator.receive byte =
      if byte = IAC then ({ negotiator with state := .gotIAC }, [])
      else (negotiator, [.data byte]) := by
  simp only [Negotiator.receive, Negotiator.processOneByte, Negotiator.reading, hstate,
    Negotiator.handleDataByte]
  split <;> rfl

theorem receive_begin (hstate : negotiator.state = .gotIAC) :
    negotiator.receive SB =
      ({ negotiator with subnegBuffer := [], state := .inSubnegotiation }, []) := by
  simp only [Negotiator.receive, Negotiator.processOneByte, Negotiator.reading, hstate]
  rfl

-- After an IAC, only SB leads to a subnegotiation.
theorem begin_of_feed (hstate : negotiator.state = .gotIAC) {bytes payload : Bytes}
    (hreadings : (feed Negotiator.receive negotiator bytes).2 = [.subnegotiation payload]) :
    ∃ rest, bytes = SB :: rest := by
  cases bytes with
  | nil => cases hreadings
  | cons byte rest =>
    by_cases hbegin : byte = SB
    · exact ⟨rest, by rw [hbegin]⟩
    · exfalso
      rw [feed_cons] at hreadings
      by_cases hknown : byte = DO ∨ byte = DONT ∨ byte = WILL ∨ byte = WONT
      · have hescape : byte ≠ IAC := by
          rcases hknown with rfl | rfl | rfl | rfl <;> decide
        have hcommand : negotiator.receive byte =
            ({ negotiator with currentCommand := byte, state := .gotCommand }, []) := by
          simp [Negotiator.receive, Negotiator.processOneByte, Negotiator.reading, hstate,
            Negotiator.handleAfterIAC, hescape, hbegin, hknown]
        rw [hcommand] at hreadings
        cases rest with
        | nil => cases hreadings
        | cons option later =>
          rw [feed_cons] at hreadings
          cases (List.cons.inj hreadings).1
      · have hcompleted : (negotiator.receive byte).2 =
            [if byte = IAC then .data IAC else .command byte] := by
          unfold Negotiator.receive Negotiator.reading
          rw [hstate]
          dsimp only
          split
          · rfl
          · rw [if_neg (by simpa [hbegin] using hknown)]
        rw [hcompleted] at hreadings
        have hfirst := (List.cons.inj hreadings).1
        split at hfirst <;> cases hfirst

theorem receive_inSubnegotiation (hstate : negotiator.state = .inSubnegotiation) (byte : UInt8) :
    negotiator.receive byte =
      if byte = IAC then ({ negotiator with state := .subnegotiationGotIAC }, [])
      else ({ negotiator with subnegBuffer := negotiator.subnegBuffer ++ [byte] }, []) := by
  simp only [Negotiator.receive, Negotiator.processOneByte, Negotiator.reading, hstate,
    Negotiator.handleSubnegByte]
  split <;> rfl

theorem receive_escape (hstate : negotiator.state = .subnegotiationGotIAC) :
    negotiator.receive IAC = ({ negotiator with
      subnegBuffer := negotiator.subnegBuffer ++ [IAC], state := .inSubnegotiation }, []) := by
  unfold Negotiator.receive Negotiator.processOneByte Negotiator.reading
  rw [hstate]
  rfl

theorem receive_end (hstate : negotiator.state = .subnegotiationGotIAC) :
    (negotiator.receive SE).1.state = .data ∧
      (negotiator.receive SE).2 = [.subnegotiation negotiator.subnegBuffer] := by
  unfold Negotiator.receive Negotiator.processOneByte Negotiator.reading
  rw [hstate]
  exact ⟨rfl, rfl⟩

theorem receive_broken (hstate : negotiator.state = .subnegotiationGotIAC) {byte : UInt8}
    (hend : byte ≠ SE) (hescape : byte ≠ IAC) :
    (negotiator.receive byte).2 = [.brokenOff negotiator.subnegBuffer byte] := by
  unfold Negotiator.receive Negotiator.reading
  rw [hstate]
  dsimp only
  rw [if_neg hend, if_neg hescape]

theorem receive_payload (hstate : negotiator.state = .inSubnegotiation) (payload : Bytes) :
    feed Negotiator.receive negotiator (payload.flatMap escaped) =
      ({ negotiator with subnegBuffer := negotiator.subnegBuffer ++ payload }, []) := by
  induction payload generalizing negotiator with
  | nil =>
    rw [List.append_nil]
    rfl
  | cons byte rest ih =>
    have hbyte : feed Negotiator.receive negotiator (escaped byte) =
        ({ negotiator with subnegBuffer := negotiator.subnegBuffer ++ [byte] }, []) := by
      unfold escaped
      by_cases hescape : byte = IAC
      · rw [if_pos hescape, feed_cons, receive_inSubnegotiation hstate, if_pos rfl, feed_cons,
          receive_escape rfl, hescape, ← hstate]
        rfl
      · rw [if_neg hescape, feed_cons, receive_inSubnegotiation hstate, if_neg hescape]
        rfl
    have hrest := @ih { negotiator with subnegBuffer := negotiator.subnegBuffer ++ [byte] } hstate
    rw [List.flatMap_cons, feed_append, hbyte]
    dsimp only
    rw [hrest, List.append_assoc, List.singleton_append, List.append_nil]

-- A subnegotiation with its payload escaped is read as that.
theorem readsAs_encode (payload : Bytes) :
    ReadsAs (Item.subnegotiation payload).encode payload := by
  intro receiver hstate
  have hbegin : feed Negotiator.receive receiver [IAC, SB] =
      ({ receiver with subnegBuffer := [], state := .inSubnegotiation }, []) := by
    rw [feed_cons, receive_data hstate, if_pos rfl, feed_cons, receive_begin rfl]
    rfl
  unfold Item.encode
  rw [feed_append, feed_append, hbegin, receive_payload rfl, feed_cons,
    receive_inSubnegotiation rfl, if_pos rfl, feed_cons]
  exact ⟨rfl, rfl⟩

-- A byte that completes nothing leaves something to complete.
theorem receive_pending {byte : UInt8} (h : (negotiator.receive byte).2 = []) :
    (negotiator.receive byte).1.state ≠ .data := by
  obtain ⟨options, state, currentCommand, subnegBuffer⟩ := negotiator
  unfold Negotiator.receive Negotiator.reading at h
  unfold Negotiator.receive Negotiator.processOneByte
  cases state with
  | data =>
    by_cases hbyte : byte = IAC
    · simp [Negotiator.handleDataByte, hbyte]
    · simp [hbyte] at h
  | gotIAC =>
    by_cases hbyte : byte = IAC
    · simp [hbyte] at h
    · by_cases hknown : byte ∈ [SB, DO, DONT, WILL, WONT]
      · simp only [List.mem_cons, List.not_mem_nil, or_false] at hknown
        unfold Negotiator.handleAfterIAC
        dsimp only
        rw [if_neg hbyte]
        by_cases hbegin : byte = SB
        · rw [if_pos hbegin]
          intro hdata
          cases hdata
        · rw [if_neg hbegin, if_pos (hknown.resolve_left hbegin)]
          intro hdata
          cases hdata
      · simp [hbyte, hknown] at h
  | gotCommand => cases h
  | inSubnegotiation =>
    unfold Negotiator.handleSubnegByte
    by_cases hbyte : byte = IAC
    · simp [hbyte]
    · simp [hbyte]
  | subnegotiationGotIAC =>
    by_cases hend : byte = SE
    · simp [hend] at h
    · by_cases hbyte : byte = IAC
      · simp [Negotiator.handleSubnegIACByte, hbyte, show IAC ≠ SE by decide]
      · simp [hend, hbyte] at h

-- Nothing but the empty input reads as nothing and ends in the data state.
theorem nil_of_silent {bytes : Bytes}
    (hreadings : (feed Negotiator.receive negotiator bytes).2 = [])
    (hlast : (feed Negotiator.receive negotiator bytes).1.state = .data) :
    negotiator.state = .data ∧ bytes = [] := by
  induction bytes generalizing negotiator with
  | nil => exact ⟨hlast, rfl⟩
  | cons byte rest ih =>
    rw [feed_cons] at hreadings hlast
    obtain ⟨hbyte, hrest⟩ := List.append_eq_nil_iff.mp hreadings
    exact absurd (ih hrest hlast).1 (receive_pending hbyte)

-- What a subnegotiation under way was sent as: `held` is the escape that has begun.
theorem payload_of_feed {bytes payload held : Bytes}
    (hstate : negotiator.state = .inSubnegotiation ∧ held = [] ∨
      negotiator.state = .subnegotiationGotIAC ∧ held = [IAC])
    (hreadings : (feed Negotiator.receive negotiator bytes).2 = [.subnegotiation payload])
    (hlast : (feed Negotiator.receive negotiator bytes).1.state = .data) :
    ∃ later, payload = negotiator.subnegBuffer ++ later ∧
      held ++ bytes = later.flatMap escaped ++ [IAC, SE] := by
  induction bytes generalizing negotiator held with
  | nil => cases hreadings
  | cons byte rest ih =>
    rw [feed_cons] at hreadings hlast
    rcases hstate with ⟨hstate, rfl⟩ | ⟨hstate, rfl⟩
    · rw [receive_inSubnegotiation hstate] at hreadings hlast
      by_cases hbyte : byte = IAC
      · rw [if_pos hbyte] at hreadings hlast
        rw [hbyte]
        exact @ih { negotiator with state := .subnegotiationGotIAC } [IAC] (.inr ⟨rfl, rfl⟩)
          hreadings hlast
      · rw [if_neg hbyte] at hreadings hlast
        obtain ⟨later, hpayload, hrest⟩ :=
          @ih { negotiator with subnegBuffer := negotiator.subnegBuffer ++ [byte] } []
            (.inl ⟨hstate, rfl⟩) hreadings hlast
        refine ⟨byte :: later, ?_, ?_⟩
        · rw [hpayload, List.append_assoc]
          rfl
        · rw [List.flatMap_cons, escaped, if_neg hbyte, List.append_assoc, ← hrest]
          rfl
    · by_cases hend : byte = SE
      · rw [hend] at hreadings hlast
        obtain ⟨hdata, hpayload⟩ := receive_end hstate
        rw [hpayload] at hreadings
        obtain ⟨hsame, hrest⟩ := List.cons.inj hreadings
        obtain ⟨_, hnil⟩ := nil_of_silent hrest hlast
        refine ⟨[], ?_, ?_⟩
        · rw [List.append_nil]
          exact (Reading.subnegotiation.inj hsame).symm
        · rw [hend, hnil]
          rfl
      · by_cases hbyte : byte = IAC
        · rw [hbyte, receive_escape hstate] at hreadings hlast
          obtain ⟨later, hpayload, hrest⟩ :=
            @ih { negotiator with
                subnegBuffer := negotiator.subnegBuffer ++ [IAC], state := .inSubnegotiation } []
              (.inl ⟨rfl, rfl⟩) hreadings hlast
          refine ⟨IAC :: later, ?_, ?_⟩
          · rw [hpayload, List.append_assoc]
            rfl
          · rw [hbyte, List.flatMap_cons, escaped, if_pos rfl, List.append_assoc, ← hrest]
            rfl
        · rw [receive_broken hstate hend hbyte] at hreadings
          cases (List.cons.inj hreadings).1

-- The encoding of a subnegotiation is all that is read as it.
theorem readsAs_iff (bytes payload : Bytes) :
    ReadsAs bytes payload ↔ bytes = (Item.subnegotiation payload).encode := by
  constructor
  · intro h
    obtain ⟨hreadings, hlast⟩ := h { terminalType := [] } rfl
    cases bytes with
    | nil => cases hreadings
    | cons byte rest =>
      rw [feed_cons, receive_data rfl] at hreadings hlast
      by_cases hbyte : byte = IAC
      · rw [if_pos hbyte] at hreadings hlast
        obtain ⟨later, rfl⟩ := begin_of_feed rfl hreadings
        rw [feed_cons, receive_begin rfl] at hreadings hlast
        obtain ⟨sent, hpayload, hlater⟩ := payload_of_feed (.inl ⟨rfl, rfl⟩) hreadings hlast
        rw [hpayload, hbyte]
        exact congrArg (IAC :: SB :: ·) hlater
      · rw [if_neg hbyte] at hreadings
        cases (List.cons.inj hreadings).1
  · rintro rfl
    exact readsAs_encode payload

end Reader

-- The two numbers as two bytes each, the higher one first.
def nawsPayload (cols rows : Nat) : Bytes :=
  [NAWS, UInt8.ofNat (cols / 256), UInt8.ofNat (cols % 256), UInt8.ofNat (rows / 256),
    UInt8.ofNat (rows % 256)]

-- `Buffer.from(terminalType, 'ascii')` takes the low byte of each character.
def terminalTypePayload (terminalType : JsString) : Bytes :=
  [TERMINAL_TYPE, IS] ++ terminalType.map UInt16.toUInt8

theorem byteOf_ofInt (value index : Nat) :
    byteOf (.ofInt value) index = UInt8.ofNat (value / 256 ^ index % 256) := by
  have hwhole : (0 : ℚ) ≤ ((value : Int) : ℚ) := by exact_mod_cast Nat.zero_le value
  have hfloor : ((value : Int) : ℚ).floor = value := Rat.floor_intCast value
  unfold byteOf Number.ofInt
  dsimp only
  rw [if_pos hwhole, hfloor]
  congr 1

theorem byteOf_high {value : Nat} (h : value ≤ 65535) :
    byteOf (.ofInt value) 1 = UInt8.ofNat (value / 256) := by
  have hbyte : value / 256 < 256 := by omega
  rw [byteOf_ofInt, Nat.pow_one, Nat.mod_eq_of_lt hbyte]

theorem byteOf_low (value : Nat) : byteOf (.ofInt value) 0 = UInt8.ofNat (value % 256) := by
  rw [byteOf_ofInt, Nat.pow_zero, Nat.div_one]

theorem length_flatMap_escaped (bytes : Bytes) :
    (bytes.flatMap escaped).length = bytes.length + bytes.count IAC := by
  induction bytes with
  | nil => rfl
  | cons byte rest ih =>
    rw [List.flatMap_cons, List.length_append, ih, List.length_cons, List.count_cons, escaped]
    by_cases hbyte : byte = IAC
    · simp only [hbyte, if_true, List.length_cons, List.length_nil, beq_self_eq_true]
      omega
    · simp only [hbyte, if_false, List.length_cons, List.length_nil, beq_iff_eq]
      omega

theorem flatMap_escaped_eq_self_iff (bytes : Bytes) :
    bytes.flatMap escaped = bytes ↔ IAC ∉ bytes := by
  constructor
  · intro h
    have hlength := length_flatMap_escaped bytes
    rw [h] at hlength
    exact List.count_eq_zero.mp (by omega)
  · intro h
    induction bytes with
    | nil => rfl
    | cons byte rest ih =>
      rw [List.mem_cons, not_or] at h
      rw [List.flatMap_cons, ih h.2, escaped, if_neg (Ne.symm h.1)]
      rfl

theorem encodeNaws_readsAs {cols rows : Nat} (hcols : cols ≤ 65535) (hrows : rows ≤ 65535) :
    ReadsAs (encodeNaws (.ofInt cols) (.ofInt rows)) (nawsPayload cols rows) := by
  rw [readsAs_iff, encodeNaws_item, byteOf_high hcols, byteOf_high hrows, byteOf_low, byteOf_low]
  rfl

theorem encodeTerminalType_readsAs_iff (options : Options) :
    ReadsAs options.encodeTerminalType (terminalTypePayload options.terminalType) ↔
      ∀ unit ∈ options.terminalType, unit.toUInt8 ≠ IAC := by
  have hencoded : options.encodeTerminalType =
      [IAC, SB] ++ terminalTypePayload options.terminalType ++ [IAC, SE] := rfl
  rw [readsAs_iff, hencoded, Item.encode, List.append_left_inj, List.append_right_inj, eq_comm,
    flatMap_escaped_eq_self_iff]
  simp [terminalTypePayload, show IAC ≠ TERMINAL_TYPE by decide, show IAC ≠ IS by decide]

-- Both kinds of subnegotiation reach the other side whole exactly when no
-- character of the terminal type gives the byte that starts a command.
theorem wellFramed_iff (options : Options) {cols rows : Nat} (hcols : cols ≤ 65535)
    (hrows : rows ≤ 65535) :
    (ReadsAs (encodeNaws (.ofInt cols) (.ofInt rows)) (nawsPayload cols rows) ∧
        ReadsAs options.encodeTerminalType (terminalTypePayload options.terminalType)) ↔
      ∀ unit ∈ options.terminalType, unit.toUInt8 ≠ IAC := by
  rw [← encodeTerminalType_readsAs_iff]
  exact and_iff_right (encodeNaws_readsAs hcols hrows)

theorem wellFramed_wide :
    ReadsAs (encodeNaws (.ofInt 255) (.ofInt 65535)) (nawsPayload 255 65535) ∧
      ReadsAs (Options.encodeTerminalType { terminalType := js "xterm" })
        (terminalTypePayload (js "xterm")) :=
  (@wellFramed_iff { terminalType := js "xterm" } 255 65535 (by decide) (by decide)).mpr (by decide)

-- A name that ends in `ÿ` swallows the IAC of the frame's end.
theorem encodeTerminalType_unescaped :
    ¬ReadsAs (Options.encodeTerminalType { terminalType := js "ÿ" })
      (terminalTypePayload (js "ÿ")) := by
  intro h
  exact absurd (h { terminalType := [] } rfl).2 (by decide)

end WebSsh2.Telnet

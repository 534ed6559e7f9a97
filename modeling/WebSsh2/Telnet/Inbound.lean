import WebSsh2.Telnet.Negotiation

namespace WebSsh2.Telnet

open WebSsh2.Library WebSsh2.Library.Transducer

inductive Verb where
  | do | dont | will | wont
deriving DecidableEq

def Verb.byte : Verb → UInt8
  | .do => DO
  | .dont => DONT
  | .will => WILL
  | .wont => WONT

-- What a telnet server sends. A byte that would start a command is sent twice.
inductive Item where
  | data (byte : UInt8) (hbyte : byte ≠ IAC)
  | escaped
  | command (code : UInt8) (hcode : code ∉ [IAC, SB, DO, DONT, WILL, WONT])
  | negotiation (verb : Verb) (option : UInt8)
  | subnegotiation (payload : Bytes)

namespace Item

def encode : Item → Bytes
  | .data byte _ => [byte]
  | .escaped => [IAC, IAC]
  | .command code _ => [IAC, code]
  | .negotiation verb option => [IAC, verb.byte, option]
  | .subnegotiation payload => [IAC, SB] ++ payload.flatMap Telnet.escaped ++ [IAC, SE]

def dataBytes : Item → Bytes
  | .data byte _ => [byte]
  | .escaped => [IAC]
  | _ => []

-- What an item does to the options, and the responses to it.
def answer (options : Options) : Item → Options × List Bytes
  | .negotiation verb option => options.handleCommand verb.byte option
  | .subnegotiation payload => (options, Negotiator.subnegotiationResponse options payload)
  | _ => (options, [])

def serve (options : Options) (item : Item) : Options × List Output :=
  ((item.answer options).1,
    item.dataBytes.map .clean ++ (item.answer options).2.map .response)

end Item

variable (options : Options)

-- The responses to a sequence of items, in order.
def answers (items : List Item) : Options × List Bytes :=
  feed Item.answer options items

section Parser

variable {negotiator : Negotiator}

-- The payload of a subnegotiation, taken out of its escapes.
theorem feed_payload (hstate : negotiator.state = .inSubnegotiation) (payload : Bytes) :
    feed Negotiator.processOneByte negotiator (payload.flatMap escaped) =
      ({ negotiator with subnegBuffer := negotiator.subnegBuffer ++ payload }, []) := by
  induction payload generalizing negotiator with
  | nil =>
    rw [List.append_nil]
    rfl
  | cons byte rest ih =>
    have hbyte : feed Negotiator.processOneByte negotiator (escaped byte) =
        ({ negotiator with subnegBuffer := negotiator.subnegBuffer ++ [byte] }, []) := by
      unfold escaped
      by_cases hescape : byte = IAC
      · rw [if_pos hescape, hescape]
        simp only [feed_cons, feed_nil, Negotiator.processOneByte, hstate,
          Negotiator.handleSubnegByte, if_true, Negotiator.handleSubnegIACByte,
          if_neg (show IAC ≠ SE by decide), List.append_nil]
      · rw [if_neg hescape]
        simp only [feed_cons, feed_nil, Negotiator.processOneByte, hstate,
          Negotiator.handleSubnegByte, if_neg hescape, List.append_nil]
    have hrest := @ih { negotiator with subnegBuffer := negotiator.subnegBuffer ++ [byte] } hstate
    rw [List.flatMap_cons, feed_append, hbyte]
    dsimp only
    rw [hrest]
    simp only [List.append_assoc, List.singleton_append, List.append_nil]

-- Between two items the parser is in its data state, and nothing else of it is read.
def Related (negotiator : Negotiator) (options : Options) : Prop :=
  negotiator.state = .data ∧ negotiator.toOptions = options

theorem processSubnegotiation_spec (negotiator : Negotiator) :
    negotiator.processSubnegotiation.1.toOptions = negotiator.toOptions ∧
      negotiator.processSubnegotiation.2 =
        (Negotiator.subnegotiationResponse negotiator.toOptions
          negotiator.subnegBuffer).map .response := by
  unfold Negotiator.processSubnegotiation
  by_cases hshort : negotiator.subnegBuffer.length < 2
  · rw [if_pos hshort]
    refine ⟨rfl, ?_⟩
    match hbuffer : negotiator.subnegBuffer with
    | [] => rfl
    | [_] => rfl
    | _ :: _ :: rest =>
      rw [hbuffer, List.length_cons, List.length_cons] at hshort
      omega
  · rw [if_neg hshort]
    exact ⟨rfl, rfl⟩

theorem feed_item {options : Options} (h : Related negotiator options) (item : Item) :
    (feed Negotiator.processOneByte negotiator item.encode).2 = (item.serve options).2 ∧
      Related (feed Negotiator.processOneByte negotiator item.encode).1
        (item.serve options).1 := by
  obtain ⟨hstate, rfl⟩ := h
  cases item with
  | data byte hbyte =>
    simp only [Item.encode, feed_cons, feed_nil, Negotiator.processOneByte, hstate,
      Negotiator.handleDataByte, if_neg hbyte]
    exact ⟨rfl, hstate, rfl⟩
  | escaped =>
    simp only [Item.encode, feed_cons, feed_nil, Negotiator.processOneByte, hstate,
      Negotiator.handleDataByte, if_true, Negotiator.handleAfterIAC]
    exact ⟨rfl, rfl, rfl⟩
  | command code hcode =>
    simp only [List.mem_cons, List.not_mem_nil, or_false, not_or] at hcode
    obtain ⟨hIAC, hSB, hDO, hDONT, hWILL, hWONT⟩ := hcode
    simp only [Item.encode, feed_cons, feed_nil, Negotiator.processOneByte, hstate,
      Negotiator.handleDataByte, if_true, Negotiator.handleAfterIAC, if_neg hIAC, if_neg hSB,
      hDO, hDONT, hWILL, hWONT, or_self, if_false]
    exact ⟨rfl, rfl, rfl⟩
  | negotiation verb option =>
    have hverb : verb.byte ≠ IAC ∧ verb.byte ≠ SB ∧
        (verb.byte = DO ∨ verb.byte = DONT ∨ verb.byte = WILL ∨ verb.byte = WONT) := by
      cases verb <;> decide
    obtain ⟨hIAC, hSB, hknown⟩ := hverb
    simp only [Item.encode, feed_cons, feed_nil, Negotiator.processOneByte, hstate,
      Negotiator.handleDataByte, if_true, Negotiator.handleAfterIAC, if_neg hIAC, if_neg hSB,
      if_pos hknown, Negotiator.handleOptionByte, List.nil_append, List.append_nil]
    exact ⟨rfl, rfl, rfl⟩
  | subnegotiation payload =>
    simp only [Item.encode, List.cons_append, List.nil_append, feed_cons, feed_append, feed_nil,
      Negotiator.processOneByte, hstate, Negotiator.handleDataByte, if_true,
      Negotiator.handleAfterIAC, if_neg (show SB ≠ IAC by decide)]
    rw [feed_payload rfl]
    simp only [Negotiator.handleSubnegByte, if_true, Negotiator.handleSubnegIACByte,
      List.nil_append, List.append_nil]
    obtain ⟨hoptions, hout⟩ := processSubnegotiation_spec { negotiator with
      state := .subnegotiationGotIAC, subnegBuffer := payload }
    exact ⟨hout, rfl, hoptions⟩

end Parser

@[simp] theorem cleanData_append (first second : List Output) :
    cleanData (first ++ second) = cleanData first ++ cleanData second :=
  List.filterMap_append

@[simp] theorem responses_append (first second : List Output) :
    responses (first ++ second) = responses first ++ responses second :=
  List.filterMap_append

-- Where the input is cut into chunks does not show.
theorem processChunks_feed (negotiator : Negotiator) (chunks : List Bytes) :
    (negotiator.processChunks chunks).1 =
        (feed Negotiator.processOneByte negotiator chunks.flatten).1 ∧
      (negotiator.processChunks chunks).2.flatMap ProcessResult.cleanData =
        cleanData (feed Negotiator.processOneByte negotiator chunks.flatten).2 ∧
      (negotiator.processChunks chunks).2.flatMap ProcessResult.responses =
        responses (feed Negotiator.processOneByte negotiator chunks.flatten).2 := by
  induction chunks generalizing negotiator with
  | nil => exact ⟨rfl, rfl, rfl⟩
  | cons chunk chunks ih =>
    obtain ⟨hnext, hclean, hresponses⟩ := ih (negotiator.processInbound chunk).1
    rw [List.flatten_cons, feed_append]
    refine ⟨hnext, ?_, ?_⟩
    · rw [cleanData_append]
      exact congrArg (cleanData (feed _ negotiator chunk).2 ++ ·) hclean
    · rw [responses_append]
      exact congrArg (responses (feed _ negotiator chunk).2 ++ ·) hresponses

theorem cleanData_serve (item : Item) : cleanData (item.serve options).2 = item.dataBytes := by
  unfold Item.serve
  rw [cleanData_append]
  simp [cleanData]

theorem responses_serve (item : Item) :
    responses (item.serve options).2 = (item.answer options).2 := by
  unfold Item.serve
  rw [responses_append]
  simp [responses]

-- A message in the data state, as an item.
theorem processInbound_item {negotiator : Negotiator} (hstate : negotiator.state = .data)
    (item : Item) :
    (negotiator.processInbound item.encode).1.state = .data ∧
      (negotiator.processInbound item.encode).1.toOptions = (item.answer negotiator.toOptions).1 ∧
      (negotiator.processInbound item.encode).2.responses =
        (item.answer negotiator.toOptions).2 := by
  obtain ⟨hout, hdata, hoptions⟩ := feed_item (show Related negotiator negotiator.toOptions from
    ⟨hstate, rfl⟩) item
  refine ⟨hdata, hoptions, ?_⟩
  show responses (feed Negotiator.processOneByte negotiator item.encode).2 = _
  rw [hout, responses_serve]

theorem served (items : List Item) :
    (feed Item.serve options items).1 =
        (answers options items).1 ∧
      cleanData (feed Item.serve options items).2 =
        items.flatMap Item.dataBytes ∧
      responses (feed Item.serve options items).2 =
        (answers options items).2 := by
  induction items generalizing options with
  | nil => exact ⟨rfl, rfl, rfl⟩
  | cons item items ih =>
    obtain ⟨hnext, hclean, hresponses⟩ := ih (item.serve options).1
    unfold answers
    rw [feed_cons, feed_cons, cleanData_append, responses_append, cleanData_serve,
      responses_serve, hclean, hresponses]
    exact ⟨hnext, rfl, rfl⟩

-- From the data state, whatever the options are and however the items arrive: the clean
-- data is the data of the items, and the responses and the options depend on nothing else.
theorem inbound_parsed (negotiator : Negotiator) (hstate : negotiator.state = .data)
    (items : List Item) (chunks : List Bytes)
    (hchunks : chunks.flatten = items.flatMap Item.encode) :
    (negotiator.processChunks chunks).2.flatMap ProcessResult.cleanData =
        items.flatMap Item.dataBytes ∧
      (negotiator.processChunks chunks).2.flatMap ProcessResult.responses =
        (answers negotiator.toOptions items).2 ∧
      (negotiator.processChunks chunks).1.state = .data ∧
      (negotiator.processChunks chunks).1.toOptions = (answers negotiator.toOptions items).1 := by
  obtain ⟨hlast, hclean, hresponses⟩ := processChunks_feed negotiator chunks
  obtain ⟨hout, hdata, hoptions⟩ := @feed_encoded _ _ _ _ _ Negotiator.processOneByte Item.serve
    Item.encode Related (fun _ _ item h => feed_item h item) negotiator negotiator.toOptions
    ⟨hstate, rfl⟩ items
  obtain ⟨hserved, hservedClean, hservedResponses⟩ := served negotiator.toOptions items
  rw [hchunks] at hlast hclean hresponses
  rw [hclean, hresponses, hlast, hout, hservedClean, hservedResponses, hoptions, hserved]
  exact ⟨rfl, rfl, hdata, rfl⟩

-- An escaped byte in the data and in a payload, cut in the middle, and a payload that
-- holds the code of its end.
def sampleItems : List Item :=
  [.data 65 (by decide), .escaped, .negotiation .do NAWS, .subnegotiation [TERMINAL_TYPE, SEND],
    .subnegotiation [SE, IAC], .command SE (by decide)]

theorem sampleItems_parsed :
    ((({ terminalType := js "vt100" } : Negotiator).processChunks
        [[65, 255], [], [255, 255, 253], [31, 255, 250, 24, 1, 255, 240, 255, 250, 240],
          [255, 255, 255], [240, 255, 240]]).2.flatMap ProcessResult.cleanData) = [65, 255] :=
  (inbound_parsed { terminalType := js "vt100" } rfl sampleItems
    [[65, 255], [], [255, 255, 253], [31, 255, 250, 24, 1, 255, 240, 255, 250, 240],
      [255, 255, 255], [240, 255, 240]] (by decide)).1.trans (by decide)

end WebSsh2.Telnet

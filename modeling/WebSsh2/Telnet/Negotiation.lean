import WebSsh2.Library.OrderedMap
import WebSsh2.Library.Transducer
import WebSsh2.Values

namespace WebSsh2.Telnet

open WebSsh2.Library

def IAC : UInt8 := 0xff
def DONT : UInt8 := 0xfe
def DO : UInt8 := 0xfd
def WONT : UInt8 := 0xfc
def WILL : UInt8 := 0xfb
def SB : UInt8 := 0xfa
def SE : UInt8 := 0xf0

def ECHO : UInt8 := 1
def SGA : UInt8 := 3
def TERMINAL_TYPE : UInt8 := 24
def NAWS : UInt8 := 31

def IS : UInt8 := 0
def SEND : UInt8 := 1

def supportedOptions : List UInt8 := [ECHO, SGA, TERMINAL_TYPE, NAWS]

inductive OptionState where
  | inactive | offered | active
deriving DecidableEq

inductive ParserState where
  | data | gotIAC | gotCommand | inSubnegotiation | subnegotiationGotIAC
deriving DecidableEq

-- What the responses are made from.
structure Options where
  terminalType : JsString
  cols : Number := .ofInt 80
  rows : Number := .ofInt 24
  optionStates : OrderedMap UInt8 OptionState := .empty

structure Negotiator extends Options where
  state : ParserState := .data
  currentCommand : UInt8 := 0
  subnegBuffer : Bytes := []

-- A byte of the input gives a byte of clean data, responses, or nothing.
inductive Output where
  | clean (byte : UInt8)
  | response (bytes : Bytes)

structure ProcessResult where
  cleanData : Bytes
  responses : List Bytes

-- `(value >> (8 * index)) & 0xFF`
def byteOf (value : Number) (index : Nat) : UInt8 :=
  match value with
  | .finite value =>
    let whole : Int := if 0 ≤ value then value.floor else value.ceil
    (whole / 256 ^ index % 256).toNat.toUInt8
  | _ => 0

def escaped (value : UInt8) : Bytes :=
  if value = IAC then [IAC, IAC] else [value]

def encodeNaws (cols rows : Number) : Bytes :=
  [IAC, SB, NAWS] ++ escaped (byteOf cols 1) ++ escaped (byteOf cols 0) ++
    escaped (byteOf rows 1) ++ escaped (byteOf rows 0) ++ [IAC, SE]

namespace Options

variable (options : Options)

def setWindowSize (cols rows : Number) : Options :=
  { options with cols, rows }

def encodeTerminalType : Bytes :=
  [IAC, SB, TERMINAL_TYPE, IS] ++ options.terminalType.map UInt16.toUInt8 ++ [IAC, SE]

variable (option : UInt8)

def getOptionState : OptionState :=
  (options.optionStates.get option).getD .inactive

def setOptionState (state : OptionState) : Options :=
  { options with optionStates := options.optionStates.set option state }

@[simp] theorem getOptionState_set (option other : UInt8) (state : OptionState) :
    (options.setOptionState option state).getOptionState other =
      if other = option then state else options.getOptionState other := by
  unfold Options.setOptionState Options.getOptionState
  rw [OrderedMap.get_set]
  by_cases hsame : option = other
  · rw [if_pos hsame, if_pos hsame.symm]
    rfl
  · rw [if_neg hsame, if_neg (Ne.symm hsame)]

-- One round of the loop over the options to offer.
def offerOption (offered : Options × List Bytes) (option : UInt8) : Options × List Bytes :=
  if offered.1.getOptionState option = .inactive then
    (offered.1.setOptionState option .offered, offered.2 ++ [[IAC, WILL, option]])
  else
    offered

def buildProactiveOffers : Options × List Bytes :=
  [TERMINAL_TYPE, NAWS].foldl offerOption (options, [])

def handleDo : Options × List Bytes :=
  if option ∉ supportedOptions then
    (options, [[IAC, WONT, option]])
  else
    let will := if options.getOptionState option = .inactive then [[IAC, WILL, option]] else []
    let naws := if option = NAWS then [encodeNaws options.cols options.rows] else []
    (options.setOptionState option .active, will ++ naws)

def handleWill : List Bytes :=
  if option ∈ supportedOptions then [[IAC, DO, option]] else [[IAC, DONT, option]]

-- A command with its option.
def handleCommand (command option : UInt8) : Options × List Bytes :=
  if command = DO then options.handleDo option
  else if command = DONT then (options, [[IAC, WONT, option]])
  else if command = WILL then (options, handleWill option)
  else if command = WONT then (options, [[IAC, DONT, option]])
  else (options, [])

end Options

namespace Negotiator

variable (negotiator : Negotiator) (byte : UInt8)

def handleDataByte : Negotiator × List Output :=
  if byte = IAC then ({ negotiator with state := .gotIAC }, []) else (negotiator, [.clean byte])

def handleAfterIAC : Negotiator × List Output :=
  if byte = IAC then
    ({ negotiator with state := .data }, [.clean IAC])
  else if byte = SB then
    ({ negotiator with subnegBuffer := [], state := .inSubnegotiation }, [])
  else if byte = DO ∨ byte = DONT ∨ byte = WILL ∨ byte = WONT then
    ({ negotiator with currentCommand := byte, state := .gotCommand }, [])
  else
    ({ negotiator with state := .data }, [])

def handleOptionByte : Negotiator × List Output :=
  let (options, responses) := negotiator.toOptions.handleCommand negotiator.currentCommand byte
  ({ negotiator with toOptions := options, state := .data }, responses.map .response)

def handleSubnegByte : Negotiator :=
  if byte = IAC then
    { negotiator with state := .subnegotiationGotIAC }
  else
    { negotiator with subnegBuffer := negotiator.subnegBuffer ++ [byte] }

-- The response to a subnegotiation, if there is one.
def subnegotiationResponse (options : Options) (payload : Bytes) : List Bytes :=
  match payload with
  | option :: qualifier :: _ =>
    if option = TERMINAL_TYPE ∧ qualifier = SEND then [options.encodeTerminalType] else []
  | _ => []

def processSubnegotiation : Negotiator × List Output :=
  if negotiator.subnegBuffer.length < 2 then
    (negotiator, [])
  else
    ({ negotiator with subnegBuffer := [] },
      (subnegotiationResponse negotiator.toOptions negotiator.subnegBuffer).map .response)

def handleSubnegIACByte : Negotiator × List Output :=
  if byte = SE then
    let (negotiator, outputs) := negotiator.processSubnegotiation
    ({ negotiator with state := .data }, outputs)
  else if byte = IAC then
    ({ negotiator with
        subnegBuffer := negotiator.subnegBuffer ++ [IAC], state := .inSubnegotiation }, [])
  else
    ({ negotiator with state := .data }, [])

def processOneByte : Negotiator × List Output :=
  match negotiator.state with
  | .data => negotiator.handleDataByte byte
  | .gotIAC => negotiator.handleAfterIAC byte
  | .gotCommand => negotiator.handleOptionByte byte
  | .inSubnegotiation => (negotiator.handleSubnegByte byte, [])
  | .subnegotiationGotIAC => negotiator.handleSubnegIACByte byte

end Negotiator

def cleanData (outputs : List Output) : Bytes :=
  outputs.filterMap fun
    | .clean byte => some byte
    | .response _ => none

def responses (outputs : List Output) : List Bytes :=
  outputs.filterMap fun
    | .clean _ => none
    | .response bytes => some bytes

namespace Negotiator

def processInbound (negotiator : Negotiator) (data : Bytes) : Negotiator × ProcessResult :=
  let (negotiator, outputs) := Transducer.feed processOneByte negotiator data
  (negotiator, { cleanData := cleanData outputs, responses := responses outputs })

-- One chunk after the other, as they come from the socket.
def processChunks : Negotiator → List Bytes → Negotiator × List ProcessResult
  | negotiator, [] => (negotiator, [])
  | negotiator, chunk :: chunks =>
    let (negotiator, result) := negotiator.processInbound chunk
    let (negotiator, results) := negotiator.processChunks chunks
    (negotiator, result :: results)

end Negotiator

end WebSsh2.Telnet

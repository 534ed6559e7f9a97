import WebSsh2.Logging.StdoutTransport
import WebSsh2.Logging.SyslogFormatter
import WebSsh2.Telnet.Authenticator

namespace WebSsh2.Logging

open WebSsh2.Library

section Transport

structure SyslogTransportOptions where
  formatter : SyslogFormatterOptions := {}
  bufferSize : Nat := 1000

-- One connection that stays up: `socket` is never `null`. The queue is what waits in the
-- box, `sent` is what the socket was handed, and `messages` are those for which `publish`
-- has returned ok.
structure SyslogTransport where
  box : Outbox JsString := {}
  flushTimer : Bool := false
  messages : List JsString := []
  sent : Bytes := []

inductive SyslogTransportFailure where
  | format (failure : SyslogFailure)
  | queueFull
deriving DecidableEq

-- `Buffer.byteLength(message, 'utf8')` is the length of the buffer.
def frameMessage (message : JsString) : JsString :=
  Json.digitsText (Telnet.bufferFrom message).length ++ js " " ++ message

namespace SyslogTransport

-- What the calls of `socket.write` return; beyond those given, true.
def flushQueue (results : List Bool) (state : SyslogTransport) : SyslogTransport :=
  let flushed := flushLoop (results.map fun result => if result then .ready else .full)
    state.box.waiting
  { state with
    box := state.box.hand flushed.written flushed.left
    sent := state.sent ++ flushed.written.flatMap fun entry => Telnet.bufferFrom entry.1 }

def scheduleFlush (state : SyslogTransport) : SyslogTransport :=
  if state.flushTimer then state else { state with flushTimer := true }

-- The frame is put into the queue.
def accept (message : JsString) (state : SyslogTransport) : SyslogTransport :=
  { state with box := state.box.enqueue (frameMessage message) }

def publish (options : SyslogTransportOptions) (host : SyslogHost) (payload : JsString)
    (results : List Bool) (state : SyslogTransport) :
    SyslogTransport × Except SyslogTransportFailure Unit :=
  match formatSyslogMessage host options.formatter payload with
  | .error failure => (state, .error (.format failure))
  | .ok message =>
    if options.bufferSize ≤ state.box.waiting.length then
      (state, .error .queueFull)
    else
      let flushed := flushQueue results (accept message state)
      (if 0 < flushed.box.waiting.length then scheduleFlush flushed else flushed, .ok ())

-- The callback of the interval that `scheduleFlush` starts.
def flushTick (results : List Bool) (state : SyslogTransport) : SyslogTransport :=
  if state.box.waiting.length = 0 then
    { state with flushTimer := false }
  else
    flushQueue results state

end SyslogTransport

end Transport

section Frames

end Frames

section Queue

-- Nothing that waits has been taken.
def Fresh (box : Outbox JsString) : Prop :=
  box.taken ++ box.waiting = box.accepted.zipIdx

variable {box : Outbox JsString}

end Queue

section Delivery

variable (options : SyslogTransportOptions) (state : SyslogTransport)

-- What every run keeps, whatever is written twice.
structure SyslogKept (state : SyslogTransport) : Prop where
  tracked : state.box.Tracked
  frames : state.box.accepted = state.messages.map frameMessage
  bytes : state.sent = state.box.taken.flatMap fun entry => Telnet.bufferFrom entry.1
  bounded : state.box.waiting.length ≤ options.bufferSize

variable {options state}

-- Two states that differ in the timer at most.
structure SameQueue (first second : SyslogTransport) : Prop where
  box : second.box = first.box
  messages : second.messages = first.messages
  sent : second.sent = first.sent

theorem kept_of_same {after : SyslogTransport} (hsame : SameQueue state after)
    (h : SyslogKept options state) : SyslogKept options after := by
  obtain ⟨hbox, hmessages, hsent⟩ := hsame
  constructor
  · rw [hbox]
    exact h.tracked
  · rw [hbox, hmessages, h.frames]
  · rw [hbox, hsent, h.bytes]
  · rw [hbox]
    exact h.bounded

-- A message that is in the queue and in the record.
def enter (message : JsString) (state : SyslogTransport) : SyslogTransport :=
  { state.accept message with messages := state.messages ++ [message] }

variable {event : SyslogEvent}

end Delivery

end WebSsh2.Logging

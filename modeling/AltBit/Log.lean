import AltBit.Event
import AltBit.Handler
import AltBit.Dispatcher
import AltBit.Text.Json
import AltBit.Text.Outline
import AltBit.Text.Quoted

/-!
What of the events is told to whoever runs the program: a record has a level, a message and named
values, and is written as a line of text or as a JSON object.
-/
namespace AltBit

inductive Level where
  | error
  | warn
  | info
  | debug
  | trace
  deriving DecidableEq, Repr

namespace Level

def name : Level → String
  | error => "ERROR"
  | warn => "WARN"
  | info => "INFO"
  | debug => "DEBUG"
  | trace => "TRACE"

def detail : Level → Nat
  | error => 0
  | warn => 1
  | info => 2
  | debug => 3
  | trace => 4

end Level

/-- A value in a record: a number or truth value as it is written, or any other text. -/
inductive LogValue where
  | literal (written : String)
  | text (s : String)
  deriving DecidableEq, Repr

structure LogRecord where
  level : Level
  message : String
  fields : List (String × LogValue) := []
  deriving DecidableEq, Repr

def Delivery.outline : Delivery → Outline
  | unreliable => Outline.atom "Unreliable"
  | accepted ack => Outline.record "Accepted" [("ack", Outline.nat ack.toNat)]
  | duplicate ack => Outline.record "Duplicate" [("ack", Outline.nat ack.toNat)]

def Delivery.render (d : Delivery) : String := d.outline .oneLine

namespace LogRecord

private def byte (name : String) (b : UInt8) : String × LogValue := (name, .literal (toString b))

private def nat (name : String) (n : Nat) : String × LogValue := (name, .literal (toString n))

private def cause (message : String) : String × LogValue := ("error", .text message)

private def quotedPath (path : String) : String × LogValue :=
  ("path", .text (Quoted.quote path))

private def delivered (d : Delivery) : String × LogValue := ("delivery", .text d.render)

/-- The record of an event; invocations and preparations are not told. -/
def ofEvent? : Event → Option LogRecord
  | .received count buffered =>
    some ⟨.trace, "received bytes", [nat "bytes" count, nat "buffered" buffered]⟩
  | .sessionKeepalive => some ⟨.debug, "session keepalive", []⟩
  | .sessionConnected => some ⟨.info, "session connected", []⟩
  | .sessionDisconnected => some ⟨.info, "session disconnected", []⟩
  | .prepared _ => none
  | .identifierTaken id => some ⟨.warn, "identifier already registered", [byte "id" id]⟩
  | .registered id reliable =>
    some ⟨.debug, "registered handler",
      [byte "id" id, ("reliable", .literal (toString reliable))]⟩
  | .deregistered id => some ⟨.debug, "deregistered handler", [byte "id" id]⟩
  | .invoked _ _ => none
  | .handlerFailed id e => some ⟨.warn, "handler failed", [byte "id" id, cause e.message]⟩
  | .duplicateSuppressed id seq ack =>
    some ⟨.debug, "duplicate suppressed", [byte "id" id, byte "seq" seq, byte "ack" ack]⟩
  | .dispatched id seq ack d =>
    some ⟨.debug, "frame dispatched",
      [byte "id" id, byte "seq" seq, byte "ack" ack, delivered d]⟩
  | .noHandler id => some ⟨.warn, "no handler for identifier", [byte "id" id]⟩
  | .readinessFailed e => some ⟨.warn, "readiness check failed", [cause e.message]⟩
  | .readFailed e => some ⟨.warn, "frame read failed", [cause e.message]⟩
  | .replyFailed id e => some ⟨.warn, "reply write failed", [byte "id" id, cause e.message]⟩
  | .unknownReplyFailed id e =>
    some ⟨.warn, "reply to unregistered identifier failed", [byte "id" id, cause e.message]⟩
  | .linkReplaced => some ⟨.info, "transport replaced; reliable channels reset", []⟩
  | .sent id seq attempt =>
    some ⟨.debug, "frame sent", [byte "id" id, byte "seq" seq, nat "attempt" attempt]⟩
  | .acknowledged id seq attempt =>
    some ⟨.debug, "frame acknowledged", [byte "id" id, byte "seq" seq, nat "attempt" attempt]⟩
  | .retransmitting id seq attempt =>
    some ⟨.warn, "no acknowledgment, retransmitting",
      [byte "id" id, byte "seq" seq, nat "attempt" attempt]⟩
  | .unreliableSent id => some ⟨.debug, "unreliable frame sent", [byte "id" id]⟩
  | .staleReply id seq ack =>
    some ⟨.debug, "stale reply ignored", [byte "id" id, byte "seq" seq, byte "ack" ack]⟩
  | .removingStaleSocket path => some ⟨.debug, "removing stale socket", [quotedPath path]⟩
  | .listening path => some ⟨.info, "listening for frame peers", [quotedPath path]⟩
  | .accepted path => some ⟨.debug, "accepted frame peer", [quotedPath path]⟩
  | .connected path => some ⟨.debug, "connected to frame peer", [quotedPath path]⟩
  | .removingSocket path => some ⟨.debug, "cleaning up socket file", [quotedPath path]⟩
  | .socketReplaced path =>
    some ⟨.debug, "socket path replaced; skipping cleanup", [quotedPath path]⟩
  | .echoesRegistered ids =>
    some ⟨.info, "echo handlers registered",
      [("ids", .text (Outline.list (ids.map fun id => Outline.nat id.toNat) .oneLine))]⟩
  | .serving path => some ⟨.info, "serving", [("path", .text path)]⟩
  | .peerConnected who =>
    some ⟨.info, "peer connected", [nat "pid" who.pid, nat "uid" who.uid]⟩
  | .peerDisconnected => some ⟨.info, "peer disconnected", []⟩
  | .echoed id d => some ⟨.info, "frame echoed", [byte "id" id, delivered d]⟩
  | .dispatchFailed e => some ⟨.warn, "dispatch failed", [cause e.message]⟩

private def written : LogValue → String
  | .literal s => s
  | .text s => s

def body (r : LogRecord) : String :=
  String.join (r.message :: r.fields.map fun f => " " ++ f.1 ++ "=" ++ written f.2)

/-- A line of text: time, level flush right, message and values. -/
def toText (r : LogRecord) (timestamp : String) : String :=
  let level := r.level.name
  let blanks := String.ofList (List.replicate (5 - level.length) ' ')
  timestamp ++ " " ++ blanks ++ level ++ " " ++ r.body

private def toJsonValue : LogValue → String
  | .literal s => s
  | .text s => Json.string s

/-- A JSON object in which the values stand beside time, level and message. -/
def toJson (r : LogRecord) (timestamp : String) : String :=
  Json.object <|
    [("timestamp", Json.string timestamp), ("level", Json.string r.level.name),
      ("message", Json.string r.message)] ++ r.fields.map fun f => (f.1, toJsonValue f.2)

def upTo (level : Level) (events : List Event) : List LogRecord :=
  (events.filterMap ofEvent?).filter fun r => r.level.detail ≤ level.detail

end LogRecord

end AltBit

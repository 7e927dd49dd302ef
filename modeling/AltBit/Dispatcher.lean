import AltBit.Delivery
import AltBit.Link
import AltBit.Session

/-!
A dispatcher polls a link, has each frame answered by its registry and writes the reply back. It
counts what happens. A failing link loses frames or replies and nothing else: the registry and the
counters are those of the frames that were read.
-/
namespace AltBit

structure Counters where
  framesReceived : Nat := 0
  accepted : Nat := 0
  duplicates : Nat := 0
  unreliable : Nat := 0
  unknown : Nat := 0
  handlerErrors : Nat := 0
  linkErrors : Nat := 0
  sessionResets : Nat := 0
  deriving DecidableEq, Repr

namespace Counters

def countLinkError (c : Counters) : Counters := { c with linkErrors := c.linkErrors + 1 }

def countDelivery (c : Counters) : Option Delivery → Counters
  | none => { c with unknown := c.unknown + 1 }
  | some .unreliable => { c with unreliable := c.unreliable + 1 }
  | some (.accepted _) => { c with accepted := c.accepted + 1 }
  | some (.duplicate _) => { c with duplicates := c.duplicates + 1 }

/-- Whether an accepted frame has ended a session. -/
def isSessionReset (id : Identifier) : Option Delivery → Option (Except HandlerError Outcome) → Bool
  | some (.accepted _), some (.ok .sessionReset) => id.isReserved
  | _, _ => false

def isHandlerError : Option (Except HandlerError Outcome) → Bool
  | some (.error _) => true
  | _ => false

def countFrame {σ : Type} {m : Nat} (c : Counters) (h : Handled σ m) : Counters :=
  let c := { c with framesReceived := c.framesReceived + 1 }
  let c := c.countDelivery h.delivery
  let c := if isHandlerError h.result then { c with handlerErrors := c.handlerErrors + 1 } else c
  if isSessionReset h.reply.id h.delivery h.result then
    { c with sessionResets := c.sessionResets + 1 }
  else c

end Counters

inductive Polled where
  | idle
  | delivered (id : Identifier) (delivery : Delivery)
  deriving DecidableEq, Repr

namespace DispatchError

def name : DispatchError → String
  | duplicateIdentifier _ => "DuplicateIdentifier"
  | unknownIdentifier _ => "UnknownIdentifier"
  | link e => s!"Transport({e.name})"
  | invalidSessionHandler _ => "InvalidSessionHandler"

def message : DispatchError → String
  | duplicateIdentifier id => s!"identifier {id} is already registered"
  | unknownIdentifier id => s!"no handler registered for identifier {id}"
  | link e => s!"transport error: {e.message}"
  | invalidSessionHandler id => s!"session-control handler must use identifier 1, got {id}"

end DispatchError

structure Dispatcher (T σ : Type) where
  link : T
  registry : Registry σ
  counters : Counters := {}

namespace Dispatcher
variable {T σ : Type} {m : Nat}

def startingWith (link : T) (h : Handler σ) : Traced (Dispatcher T σ) := do
  let registry ← Registry.empty.install h
  pure { link, registry }

/-- A dispatcher with the given session handler, which must be registered for session control. -/
def withSession (link : T) (h : Handler σ) : Except DispatchError (Traced (Dispatcher T σ)) :=
  if h.id.isReserved then .ok (startingWith link h) else .error (.invalidSessionHandler h.id)

def new {τ : Type} (link : T) : Traced (Dispatcher T (Service τ)) :=
  startingWith link Service.sessionHandler

/-- Attaches another link and returns the old one. The new peer begins its sequences at zero, so all
channels start over. -/
def replaceLink (d : Dispatcher T σ) (link : T) : Traced (T × Dispatcher T σ) := do
  Traced.emit .linkReplaced
  pure (d.link, { d with link, registry := d.registry.resetChannels })

section
variable [Behaviour σ] [Link T m]

/-- Writes a reply. A reply that is lost is counted; it is an error only where a handler is
registered, as a frame for an unknown identifier is one already. -/
def reply (d : Dispatcher T σ) (h : Handled σ m) :
    Traced (Except DispatchError Polled × Dispatcher T σ) := do
  let (written, link) ← Link.write d.link h.reply
  let d := { d with link }
  match h.delivery, written with
  | some delivery, .ok () => pure (.ok (.delivered h.reply.id delivery), d)
  | some _, .error e =>
    Traced.emit (.replyFailed h.reply.id e)
    pure (.error (.link e), { d with counters := d.counters.countLinkError })
  | none, .ok () => pure (.error (.unknownIdentifier h.reply.id), d)
  | none, .error e =>
    Traced.emit (.unknownReplyFailed h.reply.id e)
    pure (.error (.unknownIdentifier h.reply.id), { d with counters := d.counters.countLinkError })

def answer (d : Dispatcher T σ) (f : Frame m) :
    Traced (Except DispatchError Polled × Dispatcher T σ) := do
  let h ← d.registry.handle f
  reply { d with registry := h.registry, counters := d.counters.countFrame h } h

/-- Reads and answers at most one frame. -/
def poll (d : Dispatcher T σ) : Traced (Except DispatchError Polled × Dispatcher T σ) := do
  let (ready, link) ← Link.isReady d.link
  let d := { d with link }
  match ready with
  | .ok false => pure (.ok .idle, d)
  | .error e =>
    Traced.emit (.readinessFailed e)
    pure (.error (.link e), { d with counters := d.counters.countLinkError })
  | .ok true =>
    let (frame, link) ← Link.receive d.link
    let d := { d with link }
    match frame with
    | .ok none => pure (.ok .idle, d)
    | .error e =>
      Traced.emit (.readFailed e)
      pure (.error (.link e), { d with counters := d.counters.countLinkError })
    | .ok (some f) => d.answer f

end

end Dispatcher

end AltBit

import AltBit.Registry

/-!
How one frame is answered. The registry alone decides: the handler of the frame's identifier, if
there is one, and for reliable handlers the state of their channel. Every frame has exactly one
reply, which keeps its identifier and sequence number.
-/
namespace AltBit

/-- A frame's reply and what became of the registry on the way to it. -/
structure Handled (σ : Type) (m : Nat) where
  registry : Registry σ
  reply : Frame m
  /-- Absent when no handler is registered for the identifier. -/
  delivery : Option Delivery
  /-- Absent when no handler was invoked. -/
  result : Option (Except HandlerError Outcome)

namespace Registry
variable {σ : Type} [Behaviour σ] {m : Nat}

/-- The channel a handler's frames go through, if it is reliable. -/
def channelOf? (r : Registry σ) (h : Handler σ) (id : Identifier) : Option ChannelState :=
  if h.reliable then r.channels.get? id else none

def handleUnreliable (r : Registry σ) (h : Handler σ) (f : Frame m) : Traced (Handled σ m) := do
  let i ← h.invoke f
  pure {
    registry := { r with handlers := r.handlers.insert f.id i.handler }
    reply := i.frame
    delivery := some .unreliable
    result := some i.result }

def handleReliable (r : Registry σ) (h : Handler σ) (c : ChannelState) (f : Frame m) :
    Traced (Handled σ m) :=
  match c.classify f.seq with
  | .accept ack => do
    let i ← h.invoke f
    pure {
      registry := { r with
        handlers := r.handlers.insert f.id i.handler
        channels := r.channels.insert f.id (c.afterAccept f.id (Outcome.ofResult i.result)) }
      reply := { i.frame with ack }
      delivery := some (.accepted ack)
      result := some i.result }
  | .duplicate ack => do
    Traced.emit (.duplicateSuppressed f.id f.seq ack)
    pure {
      registry := r
      reply := { f.clearPayload with ack }
      delivery := some (.duplicate ack)
      result := none }

def answer (r : Registry σ) (h : Handler σ) (f : Frame m) : Traced (Handled σ m) :=
  match r.channelOf? h f.id with
  | none => r.handleUnreliable h f
  | some c => r.handleReliable h c f

/-- Answers a frame; one that no handler is registered for comes back with a zeroed payload. -/
def handle (r : Registry σ) (f : Frame m) : Traced (Handled σ m) := do
  match r.handlers.get? f.id with
  | none =>
    Traced.emit (.noHandler f.id)
    pure { registry := r, reply := f.clearPayload, delivery := none, result := none }
  | some h =>
    let handled ← r.answer h f
    if let some delivery := handled.delivery then
      Traced.emit (.dispatched f.id handled.reply.seq handled.reply.ack delivery)
    pure handled

end Registry

end AltBit

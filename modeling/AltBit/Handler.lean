import AltBit.Event

/-!
Handlers: who answers the frames of one identifier, and how. A handler's identifier and reliability
never change; what changes from frame to frame is its state.
-/
namespace AltBit

/-- What a handler made of a payload: its new state, the answer, and how it went. -/
structure Reaction (σ : Type) (m : Nat) where
  state : σ
  payload : Vector UInt8 m
  result : Except HandlerError Outcome

/-- States that know how to react to a payload. Invocations are recorded by whoever invokes a
handler, never by the handler. -/
class Behaviour (σ : Type) where
  react {m : Nat} : σ → Vector UInt8 m → Traced (Reaction σ m)
  invocations_react {m : Nat} (s : σ) (payload : Vector UInt8 m) (id : Identifier) :
    invocations id (react s payload).events = []

structure Handler (σ : Type) where
  id : Identifier
  reliable : Bool
  state : σ
  deriving DecidableEq, Repr

def HandlerError.name : HandlerError → String
  | unsupportedOperation _ => "UnsupportedOperation"
  | failed _ => "Failed"

def HandlerError.message : HandlerError → String
  | unsupportedOperation op =>
    let digits := Nat.toDigits 16 op.toNat
    "unsupported operation 0x" ++ String.ofList (List.replicate (2 - digits.length) '0' ++ digits)
  | failed reason => reason

namespace Handler
variable {σ : Type} [Behaviour σ] {m : Nat}

/-- What a handler answers to a frame: itself afterwards, the frame with the payload it left, and
how it went. -/
structure Invocation (σ : Type) (m : Nat) where
  handler : Handler σ
  frame : Frame m
  result : Except HandlerError Outcome

/-- Gives a frame's payload to the handler; a failure is recorded and the payload kept as it is
left. -/
def invoke (h : Handler σ) (f : Frame m) : Traced (Invocation σ m) := do
  Traced.emit (.invoked f.id f.payload.toList)
  let r ← Behaviour.react h.state f.payload
  if let .error e := r.result then Traced.emit (.handlerFailed f.id e)
  pure ⟨{ h with state := r.state }, { f with payload := r.payload }, r.result⟩

end Handler

/-- What a reaction amounts to: a failed handler counts as one that had nothing to report. -/
def Outcome.ofResult : Except HandlerError Outcome → Outcome
  | .ok outcome => outcome
  | .error _ => .normal

end AltBit

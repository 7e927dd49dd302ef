import AltBit.Handler

/-!
The session handler. The first byte of a payload names an operation: keepalive answers with the
payload itself, connect with two ones, disconnect with zeros and the end of the session.
-/
namespace AltBit

inductive SessionOperation where
  | keepalive
  | connect
  | disconnect
  deriving DecidableEq, Repr

namespace SessionOperation

def opcode : SessionOperation → UInt8
  | keepalive => 0
  | connect => 1
  | disconnect => 2

def name : SessionOperation → String
  | keepalive => "Keepalive"
  | connect => "Connect"
  | disconnect => "Disconnect"

def ofOpcode (b : UInt8) : Except HandlerError SessionOperation :=
  if b = 0 then .ok keepalive
  else if b = 1 then .ok connect
  else if b = 2 then .ok disconnect
  else .error (.unsupportedOperation b)

end SessionOperation

/-- Whether a connect has been seen since the last disconnect. -/
structure SessionControl where
  connected : Bool := false
  deriving DecidableEq, Repr

namespace SessionControl
variable {m : Nat}

/-- The answer to connect: its opcode, then a one for "accepted", as far as there is room. -/
def connectReply (m : Nat) : Vector UInt8 m :=
  Vector.ofFn fun i => if i.val ≤ 1 then 1 else 0

def requested (payload : Vector UInt8 m) : Except HandlerError SessionOperation :=
  match payload[0]? with
  | none => .error (.failed "empty session payload")
  | some b => SessionOperation.ofOpcode b

def react (s : SessionControl) (payload : Vector UInt8 m) :
    Traced (Reaction SessionControl m) :=
  match requested payload with
  | .error e => pure ⟨s, payload, .error e⟩
  | .ok .keepalive => do
    Traced.emit .sessionKeepalive
    pure ⟨s, payload, .ok .normal⟩
  | .ok .connect => do
    Traced.emit .sessionConnected
    pure ⟨⟨true⟩, connectReply m, .ok .normal⟩
  | .ok .disconnect => do
    Traced.emit .sessionDisconnected
    pure ⟨⟨false⟩, Vector.replicate m 0, .ok .sessionReset⟩

theorem invocations_react (s : SessionControl) (payload : Vector UInt8 m) (id : Identifier) :
    invocations id (s.react payload).events = [] := by
  unfold react
  split <;> rfl

instance : Behaviour SessionControl := ⟨react, invocations_react⟩

end SessionControl

/-- The session handler's state or the state of a handler of some other kind. -/
inductive Service (τ : Type) where
  | session (s : SessionControl)
  | custom (t : τ)
  deriving DecidableEq, Repr

namespace Service
variable {τ : Type} {m : Nat}

def react [Behaviour τ] (s : Service τ) (payload : Vector UInt8 m) :
    Traced (Reaction (Service τ) m) :=
  match s with
  | session c => do
    let r ← c.react payload
    pure ⟨session r.state, r.payload, r.result⟩
  | custom t => do
    let r ← Behaviour.react t payload
    pure ⟨custom r.state, r.payload, r.result⟩

theorem invocations_react [Behaviour τ] (s : Service τ) (payload : Vector UInt8 m)
    (id : Identifier) : invocations id (s.react payload).events = [] := by
  cases s with
  | session c => simpa [react] using c.invocations_react payload id
  | custom t => simpa [react] using Behaviour.invocations_react t payload id

instance [Behaviour τ] : Behaviour (Service τ) := ⟨react, invocations_react⟩

/-- The handler that every dispatcher starts with unless it is given another one. -/
def sessionHandler : Handler (Service τ) := ⟨Identifier.sessionControl, true, session {}⟩

end Service

end AltBit

import AltBit.Event

/-!
Links carry whole frames to and from a peer. A link is a state with three operations; what an
operation answers and the state after it are one result, so a run of a link is a fold over its
operations.
-/
namespace AltBit

/-- States `T` of a link for frames over `m` payload bytes. A frame can be read without waiting once
`available` has answered `true`; "nothing yet" is `false` or an error for which
`LinkError.isWouldBlock` holds. -/
class Link (T : Type) (m : outParam Nat) where
  available : T → Traced (Except LinkError Bool × T)
  read : T → Traced (Except LinkError (Frame m) × T)
  write : T → Frame m → Traced (Except LinkError Unit × T)

namespace Link
variable {T : Type} {m : Nat} [Link T m]

/-- An answer in which "nothing yet" is no failure any more but the given value. -/
def settle {α : Type} (nothing : α) : Except LinkError α → Except LinkError α
  | .ok a => .ok a
  | .error e => if e.isWouldBlock then .ok nothing else .error e

def isReady (t : T) : Traced (Except LinkError Bool × T) := do
  let (r, t) ← available t
  pure (settle false r, t)

def receive (t : T) : Traced (Except LinkError (Option (Frame m)) × T) := do
  let (r, t) ← read t
  pure (settle none (r.map some), t)

end Link

/-- A link that may be absent. An absent one is never ready, and reading or writing finds it
closed. -/
instance {T : Type} {m : Nat} [Link T m] : Link (Option T) m where
  available
    | some t => do
      let (r, t) ← Link.available t
      pure (r, some t)
    | none => pure (.ok false, none)
  read
    | some t => do
      let (r, t) ← Link.read t
      pure (r, some t)
    | none => pure (.error .closed, none)
  write
    | some t, f => do
      let (r, t) ← Link.write t f
      pure (r, some t)
    | none, _ => pure (.error .closed, none)

end AltBit

import AltBit.Command.Invocation
import AltBit.Command.Timeout

/-!
Sending one frame and reporting the reply. The arguments are checked before a connection is made.
-/
namespace AltBit.Command.Send

/-- What a run of the command comes to, and the link it has used. -/
structure Outcome (T : Type) where
  /-- Absent if a wait needed more rounds than allowed. -/
  result : Option (Except Failure (List UInt8))
  link : Option T := none

variable {T : Type} {m : Nat} [Link T m]

def exchange (rounds : Nat) (s : Sender T) (reliable : Bool) (id : Identifier)
    (payload : List UInt8) : Traced (Option (Except SendError (Frame m)) × Sender T) :=
  if reliable then s.sendReliable rounds id payload else s.sendUnreliable rounds id payload

/-- The timeout and the payload that the arguments ask for; a fault in the timeout is told first. -/
def check (args : SendArgs) : Except Failure (Duration × List UInt8) := do
  let timeout ← Timeout.parse args.timeout
  let payload ← Payload.resolve args.data args.hex
  pure (timeout, payload)

/-- Runs the command; `connect` makes the connection. -/
def run (rounds : Nat) (clock : Clock) (connect : String → Traced (Except LinkError T))
    (format : Format) (timestamp : String) (args : SendArgs) : Traced (Outcome T) := do
  match check args with
  | .error f => pure { result := some (.error f) }
  | .ok (timeout, payload) =>
    match ← connect args.path with
    | .error e => pure { result := some (.error (.ofLink "connect failed" e)) }
    | .ok link =>
      let config := Timeout.senderConfig timeout args.attempts
      let (r, s) ← exchange rounds { link, config, clock } args.reliable args.id payload
      let result := r.map fun
        | .ok reply => .ok (Report.reply reply timestamp format)
        | .error e => .error (.ofSend "send failed" e)
      pure { result, link := some s.link }

end AltBit.Command.Send

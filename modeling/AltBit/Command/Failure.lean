import AltBit.Dispatcher
import AltBit.Link.Stream
import AltBit.Sender

/-!
How a command fails: an exit code for the kind of failure and a message that starts with what the
command was about to do.
-/
namespace AltBit.Command

inductive ExitCode where
  | success
  | failure
  | linkError
  | permissionDenied
  | dataInvalid
  | usage
  | timeout
  | internal
  /-- Broken off where no failure was foreseen. -/
  | aborted
  deriving DecidableEq, Repr

def ExitCode.toNat : ExitCode → Nat
  | success => 0
  | failure => 1
  | linkError => 3
  | permissionDenied => 50
  | dataInvalid => 60
  | usage => 64
  | timeout => 124
  | internal => 125
  | aborted => 101

structure Failure where
  code : ExitCode
  message : String
  deriving DecidableEq, Repr

namespace Failure

private def inContext (context message : String) : String := context ++ ": " ++ message

def ofIo (context : String) (e : IoError) : Failure :=
  let code : ExitCode :=
    match e.kind with
    | .permissionDenied => .permissionDenied
    | .timedOut | .wouldBlock => .timeout
    | .notFound | .connectionRefused => .failure
    | _ => .internal
  ⟨code, inContext context e.message⟩

/-- A failure below the link is told in the words of the system alone. -/
def ofLink (context : String) (e : LinkError) : Failure :=
  match e with
  | .bind _ source | .connect _ source | .accept source | .io source => ofIo context source
  | .pathTooLong .. => ⟨.usage, inContext context e.message⟩
  | .closed => ⟨.failure, inContext context e.message⟩
  | .wouldBlock | .injected _ => ⟨.linkError, inContext context e.message⟩

def ofFrame (context : String) (e : FrameError) : Failure :=
  ⟨.dataInvalid, inContext context e.message⟩

def ofDispatch (context : String) (e : DispatchError) : Failure :=
  match e with
  | .link e => ofLink context e
  | .duplicateIdentifier _ | .invalidSessionHandler _ => ⟨.usage, inContext context e.message⟩
  | .unknownIdentifier _ => ⟨.failure, inContext context e.message⟩

/-- A wait whose end the clock cannot show is no failure that is told in its context: it breaks the
command off. -/
def ofWait (context : String) (e : Link.Stream.WaitError) : Failure :=
  match e with
  | .link e => ofLink context e
  | .deadlineUnreachable => ⟨.aborted, e.message⟩

def ofSend (context : String) (e : SendError) : Failure :=
  match e with
  | .link e => ofLink context e
  | .frame e => ofFrame context e
  | .exhausted .. | .timeout _ => ⟨.timeout, inContext context e.message⟩
  | .deadlineUnreachable => ⟨.aborted, e.message⟩

end Failure

end AltBit.Command

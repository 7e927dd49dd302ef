import AltBit.Link

/-!
A link inside one process: a queue of frames to read and a log of the frames written. Each operation
can be made to fail once.
-/
namespace AltBit.Link

structure Memory (m : Nat) where
  inbound : List (Frame m) := []
  outbound : List (Frame m) := []
  pollFault : Option String := none
  readFault : Option String := none
  writeFault : Option String := none
  /-- Whether an empty queue is an error instead of "not ready". -/
  reportWouldBlock : Bool := false
  deriving DecidableEq, Repr

namespace Memory
variable {m : Nat}

def push (t : Memory m) (f : Frame m) : Memory m := { t with inbound := t.inbound ++ [f] }

def pending (t : Memory m) : Nat := t.inbound.length

def takeOutbound (t : Memory m) : List (Frame m) × Memory m :=
  (t.outbound, { t with outbound := [] })

def failNextPoll (t : Memory m) (reason : String) : Memory m := { t with pollFault := some reason }

def failNextRead (t : Memory m) (reason : String) : Memory m := { t with readFault := some reason }

def failNextWrite (t : Memory m) (reason : String) : Memory m :=
  { t with writeFault := some reason }

def available (t : Memory m) : Except LinkError Bool × Memory m :=
  match t.pollFault with
  | some reason => (.error (.injected reason), { t with pollFault := none })
  | none =>
    if t.inbound.isEmpty && t.reportWouldBlock then (.error .wouldBlock, t)
    else (.ok !t.inbound.isEmpty, t)

/-- A failed read loses the frame it should have returned. -/
def read (t : Memory m) : Except LinkError (Frame m) × Memory m :=
  match t.readFault with
  | some reason =>
    (.error (.injected reason), { t with readFault := none, inbound := t.inbound.tail })
  | none =>
    match t.inbound with
    | [] => (.error .wouldBlock, t)
    | f :: rest => (.ok f, { t with inbound := rest })

def write (t : Memory m) (f : Frame m) : Except LinkError Unit × Memory m :=
  match t.writeFault with
  | some reason => (.error (.injected reason), { t with writeFault := none })
  | none => (.ok (), { t with outbound := t.outbound ++ [f] })

instance : Link (Memory m) m where
  available t := pure t.available
  read t := pure t.read
  write t f := pure (t.write f)

end Memory

end AltBit.Link

import AltBit.Link

/-!
A link that gives prescribed answers. Any finite run of any link is a run of a scripted one, since
only the answers matter to whoever uses the link.
-/
namespace AltBit.Link

structure Scripted (m : Nat) where
  /-- Answers to readiness checks; then the link is never ready. -/
  readiness : List (Except LinkError Bool) := []
  /-- Answers to reads; then a read would block. -/
  reads : List (Except LinkError (Frame m)) := []
  /-- Answers to writes; then every write succeeds. -/
  writes : List (Except LinkError Unit) := []
  written : List (Frame m) := []

namespace Scripted
variable {m : Nat}

def available (t : Scripted m) : Except LinkError Bool × Scripted m :=
  match t.readiness with
  | [] => (.ok false, t)
  | r :: rest => (r, { t with readiness := rest })

def read (t : Scripted m) : Except LinkError (Frame m) × Scripted m :=
  match t.reads with
  | [] => (.error .wouldBlock, t)
  | r :: rest => (r, { t with reads := rest })

def write (t : Scripted m) (f : Frame m) : Except LinkError Unit × Scripted m :=
  match t.writes with
  | [] => (.ok (), { t with written := t.written ++ [f] })
  | .ok () :: rest => (.ok (), { t with writes := rest, written := t.written ++ [f] })
  | .error e :: rest => (.error e, { t with writes := rest })

instance : Link (Scripted m) m where
  available t := pure t.available
  read t := pure t.read
  write t f := pure (t.write f)

end Scripted

end AltBit.Link

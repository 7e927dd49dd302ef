import AltBit.Dispatcher
import AltBit.Link.Memory

/-!
A link whose far end is a dispatcher. The way there and back keeps the order but may lose, repeat or
delay what it carries, as a plan says for one written frame after another.
-/
namespace AltBit.Link

/-- What becomes of a written frame and of the replies to it. -/
structure Passage where
  /-- How often the frame arrives. -/
  arrivals : Nat := 1
  /-- How often each reply is returned. -/
  copies : Nat := 1
  /-- Whether the replies are held back until the next frame is written. -/
  held : Bool := false
  deriving DecidableEq, Repr

structure Peer (σ : Type) (m : Nat) where
  dispatcher : Dispatcher (Memory m) σ
  /-- What becomes of the frames still to be written; then every frame passes undisturbed. -/
  plan : List Passage := []
  replies : List (Frame m) := []
  late : List (Frame m) := []
  written : List (Frame m) := []

namespace Peer
variable {σ : Type} [Behaviour σ] {m : Nat}

def arrive (f : Frame m) : Nat → Dispatcher (Memory m) σ → Traced (Dispatcher (Memory m) σ)
  | 0, d => pure d
  | n + 1, d => do
    let (_, d) ← Dispatcher.poll { d with link := d.link.push f }
    arrive f n d

def write (p : Peer σ m) (f : Frame m) : Traced (Peer σ m) := do
  let passage := p.plan.head?.getD {}
  let d ← arrive f passage.arrivals p.dispatcher
  let (replies, link) := d.link.takeOutbound
  let returned := replies.flatMap (List.replicate passage.copies)
  let due := p.replies ++ p.late
  pure {
    dispatcher := { d with link }
    plan := p.plan.tail
    replies := if passage.held then due else due ++ returned
    late := if passage.held then returned else []
    written := p.written ++ [f] }

def read (p : Peer σ m) : Except LinkError (Frame m) × Peer σ m :=
  match p.replies with
  | [] => (.error .wouldBlock, p)
  | f :: rest => (.ok f, { p with replies := rest })

instance : Link (Peer σ m) m where
  available p := pure (.ok !p.replies.isEmpty, p)
  read p := pure p.read
  write p f := do
    let p ← p.write f
    pure (.ok (), p)

end Peer

end AltBit.Link

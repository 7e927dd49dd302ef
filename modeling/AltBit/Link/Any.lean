import AltBit.Link.Peer
import AltBit.Link.Scripted
import AltBit.Link.Stream

/-!
A link of any kind.
-/
namespace AltBit.Link

inductive Any (σ : Type) (m : Nat) where
  | memory (t : Memory m)
  | stream (t : Stream m)
  | scripted (t : Scripted m)
  | peer (t : Peer σ m)

namespace Any
variable {σ : Type} [Behaviour σ] {m : Nat}

instance : Link (Any σ m) m where
  available
    | memory t => do let (r, t) ← Link.available t; pure (r, memory t)
    | stream t => do let (r, t) ← Link.available t; pure (r, stream t)
    | scripted t => do let (r, t) ← Link.available t; pure (r, scripted t)
    | peer t => do let (r, t) ← Link.available t; pure (r, peer t)
  read
    | memory t => do let (r, t) ← Link.read t; pure (r, memory t)
    | stream t => do let (r, t) ← Link.read t; pure (r, stream t)
    | scripted t => do let (r, t) ← Link.read t; pure (r, scripted t)
    | peer t => do let (r, t) ← Link.read t; pure (r, peer t)
  write
    | memory t, f => do let (r, t) ← Link.write t f; pure (r, memory t)
    | stream t, f => do let (r, t) ← Link.write t f; pure (r, stream t)
    | scripted t, f => do let (r, t) ← Link.write t f; pure (r, scripted t)
    | peer t, f => do let (r, t) ← Link.write t f; pure (r, peer t)

end Any

end AltBit.Link

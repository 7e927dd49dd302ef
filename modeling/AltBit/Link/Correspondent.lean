import AltBit.Link.Stream

/-!
A byte stream to a far end that answers one written frame after another as it has been told to.
-/
namespace AltBit.Link

structure Response (m : Nat) where
  /-- The bytes it sends back. -/
  bytes : Frame m → List UInt8 := fun _ => []
  closes : Bool := false

/-- Sends a frame back with other header bytes where such are given; by default it acknowledges the
frame's own sequence number. -/
def Response.echo {m : Nat} (id seq ack : Option UInt8) (f : Frame m) : List UInt8 :=
  Frame.bytes { f with id := id.getD f.id, seq := seq.getD f.seq, ack := ack.getD f.seq }

structure Correspondent (m : Nat) where
  stream : Stream m := ⟨{ ending := .silence }, []⟩
  /-- What becomes of the frames still to be written; then every frame is ignored. -/
  responses : List (Response m) := []
  /-- The frames the far end has received, oldest first. -/
  received : List (Frame m) := []

namespace Correspondent
variable {m : Nat}

def hasLeft (t : Correspondent m) : Bool := t.stream.channel.ending == .endOfStream

def answer (c : ByteChannel) (r : Response m) (f : Frame m) : ByteChannel :=
  let bytes := r.bytes f
  { c with
    reads := if bytes.isEmpty then c.reads else c.reads ++ [.ok bytes]
    ending := if r.closes then .endOfStream else c.ending }

def write (t : Correspondent m) (f : Frame m) : Except LinkError Unit × Correspondent m :=
  if t.hasLeft then (.error (.io (.system 32)), t)
  else
    match t.stream.write f with
    | (.error e, stream) => (.error e, { t with stream })
    | (.ok (), stream) =>
      let response := t.responses.head?.getD {}
      (.ok (), {
        stream := { stream with channel := answer stream.channel response f }
        responses := t.responses.tail
        received := t.received ++ [f] })

instance : Link (Correspondent m) m where
  available t := do
    let (r, stream) ← Link.available t.stream
    pure (r, { t with stream })
  read t := do
    let (r, stream) ← Link.read t.stream
    pure (r, { t with stream })
  write t f := pure (t.write f)

end Correspondent

end AltBit.Link

import AltBit.ByteChannel
import AltBit.Duration
import AltBit.Link

/-!
Frames over a byte channel. Bytes are collected until a whole frame is there; never more are asked
for than the frame at hand still lacks, so bytes of a later frame stay in the channel.
-/
namespace AltBit.Link

structure Stream (m : Nat) where
  channel : ByteChannel
  /-- Bytes received and not yet returned as part of a frame. -/
  buffer : List UInt8 := []

namespace Stream
variable {m : Nat}

def chunkSize : Nat := 4096

def wanted (s : Stream m) : Nat :=
  min (Frame.length m - s.buffer.length % Frame.length m) chunkSize

def isComplete (s : Stream m) : Bool := Frame.length m ≤ s.buffer.length

def fill (s : Stream m) : Traced (Except LinkError Unit × Stream m) :=
  match s.channel.readUninterrupted s.wanted with
  | (.ok [], c) => pure (.error .closed, { s with channel := c })
  | (.ok bytes, c) => do
    let buffer := s.buffer ++ bytes
    Traced.emit (.received bytes.length buffer.length)
    pure (.ok (), { s with channel := c, buffer })
  | (.error e, c) =>
    pure (.error (if e.isWouldBlock then .wouldBlock else .io e), { s with channel := c })

def available (s : Stream m) : Traced (Except LinkError Bool × Stream m) :=
  if s.isComplete then pure (.ok true, s)
  else
    match s.channel.poll false with
    | (.error e, c) => pure (.error (.io e), { s with channel := c })
    | (.ok false, c) => pure (.ok false, { s with channel := c })
    | (.ok true, c) => do
      match ← fill { s with channel := c } with
      | (.error e, s) => pure (.error e, s)
      | (.ok (), s) => pure (.ok s.isComplete, s)

/-- Fills the buffer up to a whole frame; each read adds a byte at least, so as many reads as bytes
are missing suffice. -/
def complete : (missing : Nat) → Stream m → Traced (Except LinkError Unit × Stream m)
  | 0, s => pure (.ok (), s)
  | missing + 1, s =>
    if s.isComplete then pure (.ok (), s)
    else do
      match ← s.fill with
      | (.error e, s) => pure (.error e, s)
      | (.ok (), s) => complete missing s

def read (s : Stream m) : Traced (Except LinkError (Frame m) × Stream m) := do
  match ← complete (Frame.length m - s.buffer.length) s with
  | (.error e, s) => pure (.error e, s)
  | (.ok (), s) =>
    match Frame.decode? m s.buffer with
    | some (f, rest) => pure (.ok f, { s with buffer := rest })
    | none => pure (.error .wouldBlock, s)

/-- Offers bytes to the channel until all are taken. Every round takes a byte at least, so as many
rounds as there are bytes suffice. -/
def writeAll : (rounds : Nat) → List UInt8 → ByteChannel → Except LinkError Unit × ByteChannel
  | 0, _, c => (.ok (), c)
  | _ + 1, [], c => (.ok (), c)
  | rounds + 1, bytes, c =>
    match c.writeUninterrupted bytes with
    | (.error e, c) => (.error (.io e), c)
    | (.ok 0, c) => (.error .closed, c)
    | (.ok taken, c) => writeAll rounds (bytes.drop taken) c

def write (s : Stream m) (f : Frame m) : Except LinkError Unit × Stream m :=
  match writeAll f.bytes.length f.bytes s.channel with
  | (.error e, c) => (.error e, { s with channel := c })
  | (.ok (), c) =>
    match c.flushUninterrupted with
    | (.error e, c) => (.error (.io e), { s with channel := c })
    | (.ok (), c) => (.ok (), { s with channel := c })

instance : Link (Stream m) m where
  available := available
  read := read
  write s f := pure (s.write f)

/-- Why waiting for a frame fails. -/
inductive WaitError where
  | link (e : LinkError)
  /-- The clock cannot show the end of the wait. -/
  | deadlineUnreachable
  deriving DecidableEq, Repr

def WaitError.message : WaitError → String
  | link e => e.message
  | deadlineUnreachable => Instant.overflowMessage

structure Waiting (m : Nat) where
  result : Except WaitError Bool
  stream : Stream m
  clock : Clock

/-- Waits for a frame until the deadline. Every round ends the wait, uses up an answer of the
channel or adds a byte, so there are at most `rounds` of them. -/
def waitUntil (deadline : Instant) : (rounds : Nat) → Clock → Stream m → Traced (Waiting m)
  | 0, clock, s => pure ⟨.ok s.isComplete, s, clock⟩
  | rounds + 1, clock, s =>
    if s.isComplete then pure ⟨.ok true, s, clock⟩
    else
      let (now, clock) := clock.read
      let mayWait := decide (now.nanos < deadline.nanos)
      match s.channel.poll mayWait with
      | (.error e, c) => pure ⟨.error (.link (.io e)), { s with channel := c }, clock⟩
      | (.ok false, c) => pure ⟨.ok false, { s with channel := c }, clock⟩
      | (.ok true, c) => do
        let (r, s) ← fill { s with channel := c }
        match r with
        | .error e =>
          if !e.isWouldBlock then pure ⟨.error (.link e), s, clock⟩
          else if mayWait then waitUntil deadline rounds clock s
          else pure ⟨.ok s.isComplete, s, clock⟩
        | .ok () =>
          if mayWait then waitUntil deadline rounds clock s
          else pure ⟨.ok s.isComplete, s, clock⟩

/-- A wait whose end the clock cannot show is broken off before the stream is looked at. -/
def waitForFrame (s : Stream m) (timeout : Duration) (clock : Clock) : Traced (Waiting m) :=
  let (now, clock) := clock.read
  match now.add? timeout with
  | none => pure ⟨.error .deadlineUnreachable, s, clock⟩
  | some deadline =>
    let rounds := s.channel.polls.length + s.channel.reads.length + Frame.length m + 1
    waitUntil deadline rounds clock s

/-- Gives up the stream and returns its channel; buffered bytes are lost. -/
def intoChannel (s : Stream m) : ByteChannel := s.channel

end Stream

end AltBit.Link

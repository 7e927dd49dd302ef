import AltBit.IoError

/-!
Byte channels, given by the answers they will give: one queue for each kind of call, and what
happens once a queue has run out. A channel remembers the calls made on it, the bytes it has
delivered and the bytes it has accepted.
-/
namespace AltBit

/-- A call on a byte channel: how many bytes were asked for or offered, or how long it may wait. -/
inductive ChannelCall where
  | read (size : Nat)
  | poll (mayWait : Bool)
  | write (size : Nat)
  | flush
  deriving DecidableEq, Repr

/-- What a channel has to say when nothing is left to read. -/
inductive Ending where
  /-- Reads return no bytes, for good. -/
  | endOfStream
  /-- The channel is not readable and reads would block. -/
  | silence
  deriving DecidableEq, Repr

structure ByteChannel where
  reads : List (Except IoError (List UInt8)) := []
  polls : List (Except IoError Bool) := []
  /-- How many bytes each write takes at most; then a write takes all it is offered. -/
  writes : List (Except IoError Nat) := []
  flushes : List (Except IoError Unit) := []
  ending : Ending := .endOfStream
  calls : List ChannelCall := []
  delivered : List UInt8 := []
  accepted : List UInt8 := []

namespace ByteChannel

def record (c : ByteChannel) (calls : List ChannelCall) : ByteChannel :=
  { c with calls := c.calls ++ calls }

private def deliver (c : ByteChannel) (bytes : List UInt8) : ByteChannel :=
  { c with delivered := c.delivered ++ bytes }

/-- Reads at most `size` bytes; what does not fit is left for the next read. -/
def read (c : ByteChannel) (size : Nat) : Except IoError (List UInt8) × ByteChannel :=
  let c := c.record [.read size]
  match c.reads with
  | [] =>
    match c.ending with
    | .endOfStream => (.ok [], c)
    | .silence => (.error (.system 11), c)
  | .error e :: rest => (.error e, { c with reads := rest })
  | .ok bytes :: rest =>
    if bytes.length ≤ size then (.ok bytes, { c.deliver bytes with reads := rest })
    else (.ok (bytes.take size), { c.deliver (bytes.take size) with
      reads := .ok (bytes.drop size) :: rest })

/-- Whether a read would return at once; a channel at its end counts as readable. -/
def poll (c : ByteChannel) (mayWait : Bool) : Except IoError Bool × ByteChannel :=
  let c := c.record [.poll mayWait]
  match c.polls with
  | [] => (.ok (!c.reads.isEmpty || c.ending == .endOfStream), c)
  | answer :: rest => (answer, { c with polls := rest })

/-- Offers bytes and returns how many of them were taken. -/
def write (c : ByteChannel) (bytes : List UInt8) : Except IoError Nat × ByteChannel :=
  let c := c.record [.write bytes.length]
  match c.writes with
  | [] => (.ok bytes.length, { c with accepted := c.accepted ++ bytes })
  | .error e :: rest => (.error e, { c with writes := rest })
  | .ok k :: rest =>
    (.ok (min k bytes.length), { c with writes := rest, accepted := c.accepted ++ bytes.take k })

def flush (c : ByteChannel) : Except IoError Unit × ByteChannel :=
  let c := c.record [.flush]
  match c.flushes with
  | [] => (.ok (), c)
  | answer :: rest => (answer, { c with flushes := rest })

def isInterruption {α : Type} : Except IoError α → Bool
  | .error e => e.isInterrupted
  | .ok _ => false

/-- The calls that the interruptions in front of a queue cost. -/
private def repeated {α : Type} (call : ChannelCall) (answers : List (Except IoError α)) :
    List ChannelCall :=
  List.replicate (answers.takeWhile isInterruption).length call

def readUninterrupted (c : ByteChannel) (size : Nat) : Except IoError (List UInt8) × ByteChannel :=
  read { c.record (repeated (.read size) c.reads) with
    reads := c.reads.dropWhile isInterruption } size

def writeUninterrupted (c : ByteChannel) (bytes : List UInt8) : Except IoError Nat × ByteChannel :=
  write { c.record (repeated (.write bytes.length) c.writes) with
    writes := c.writes.dropWhile isInterruption } bytes

def flushUninterrupted (c : ByteChannel) : Except IoError Unit × ByteChannel :=
  flush { c.record (repeated .flush c.flushes) with flushes := c.flushes.dropWhile isInterruption }

/-! Interruptions cost calls and nothing else. -/

theorem readUninterrupted_eq (c : ByteChannel) (size : Nat) : ∃ calls, c.readUninterrupted size =
    read { c.record calls with reads := c.reads.dropWhile isInterruption } size :=
  ⟨_, rfl⟩

theorem writeUninterrupted_eq (c : ByteChannel) (bytes : List UInt8) :
    ∃ calls, c.writeUninterrupted bytes =
      write { c.record calls with writes := c.writes.dropWhile isInterruption } bytes :=
  ⟨_, rfl⟩

theorem flushUninterrupted_eq (c : ByteChannel) : ∃ calls, c.flushUninterrupted =
    flush { c.record calls with flushes := c.flushes.dropWhile isInterruption } :=
  ⟨_, rfl⟩

/-! A call that is interrupted is made again. -/

section
variable {c : ByteChannel} {bytes : List UInt8}

theorem writeUninterrupted_of_interruption (h : isInterruption (c.write bytes).1 = true) :
    c.writeUninterrupted bytes = (c.write bytes).2.writeUninterrupted bytes := by
  unfold write at h ⊢
  dsimp only [record] at h ⊢
  split at h
  · cases h
  · rename_i e rest hwrites
    simp [writeUninterrupted, hwrites, repeated, record, h, List.replicate_succ]
  · cases h

theorem writeUninterrupted_of_not (h : isInterruption (c.write bytes).1 = false) :
    c.writeUninterrupted bytes = c.write bytes := by
  rcases hwrites : c.writes with _ | ⟨answer, rest⟩
  · simp [writeUninterrupted, hwrites, repeated, record, write]
  · have hanswer : isInterruption answer = false := by
      cases answer with
      | error e => simpa [write, record, hwrites] using h
      | ok k => rfl
    simp [writeUninterrupted, hwrites, repeated, record, write, hanswer]

theorem flushUninterrupted_of_interruption (h : isInterruption c.flush.1 = true) :
    c.flushUninterrupted = c.flush.2.flushUninterrupted := by
  unfold flush at h ⊢
  dsimp only [record] at h ⊢
  split at h
  · cases h
  · rename_i answer rest hflushes
    simp [flushUninterrupted, hflushes, repeated, record, h, List.replicate_succ]

theorem flushUninterrupted_of_not (h : isInterruption c.flush.1 = false) :
    c.flushUninterrupted = c.flush := by
  rcases hflushes : c.flushes with _ | ⟨answer, rest⟩
  · simp [flushUninterrupted, hflushes, repeated, record, flush]
  · have hanswer : isInterruption answer = false := by
      simpa [flush, record, hflushes] using h
    simp [flushUninterrupted, hflushes, repeated, record, flush, hanswer]

end

/-- The bytes that a read has brought; a failed one brings none. -/
def brought : Except IoError (List UInt8) → List UInt8
  | .ok bytes => bytes
  | .error _ => []

/-- The bytes that are still to be read. -/
def unread (c : ByteChannel) : List UInt8 := c.reads.flatMap brought

/-- What every read of at most `size` bytes is like: it brings the next bytes, no more than asked
for, and changes nothing but the reads. -/
structure Reads (size : Nat) (c : ByteChannel) (r : Except IoError (List UInt8))
    (c' : ByteChannel) : Prop where
  fits : (brought r).length ≤ size
  delivered : c'.delivered = c.delivered ++ brought r
  unread : c.unread = brought r ++ c'.unread
  others : c' = { c with reads := c'.reads, calls := c'.calls, delivered := c'.delivered }

theorem reads_read (c : ByteChannel) (size : Nat) :
    c.Reads size (c.read size).1 (c.read size).2 := by
  unfold read
  dsimp only [record]
  split
  next hreads =>
    have hunread : c.unread = [] := by rw [unread, hreads, List.flatMap_nil]
    split <;> exact ⟨Nat.zero_le _, (List.append_nil _).symm, hunread.trans hunread.symm, rfl⟩
  next e rest hreads =>
    exact ⟨Nat.zero_le _, (List.append_nil _).symm, by simp [unread, hreads, brought], rfl⟩
  next bytes rest hreads =>
    split
    next hfits => exact ⟨hfits, rfl, by simp [unread, hreads, brought], rfl⟩
    next =>
      refine ⟨List.length_take_le .., rfl, ?_, rfl⟩
      simp [unread, hreads, brought, ← List.append_assoc]

theorem unread_dropWhile_isInterruption (c : ByteChannel) :
    unread { c with reads := c.reads.dropWhile isInterruption } = c.unread := by
  unfold unread
  dsimp only
  induction c.reads with
  | nil => rfl
  | cons answer rest ih =>
    cases h : isInterruption answer with
    | false => rw [List.dropWhile_cons_of_neg (by simp [h])]
    | true =>
      rw [List.dropWhile_cons_of_pos h, ih]
      cases answer with
      | error e => rfl
      | ok bytes => cases h

theorem reads_readUninterrupted (c : ByteChannel) (size : Nat) :
    c.Reads size (c.readUninterrupted size).1 (c.readUninterrupted size).2 := by
  obtain ⟨calls, heq⟩ := c.readUninterrupted_eq size
  rw [heq]
  have h := reads_read { c.record calls with reads := c.reads.dropWhile isInterruption } size
  exact ⟨h.fits, h.delivered, (unread_dropWhile_isInterruption c).symm.trans h.unread, h.others⟩

end ByteChannel

end AltBit

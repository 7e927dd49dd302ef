import AltBit.Identifier

/-!
Frames and their wire form. A frame over `m` payload bytes is written as three header bytes
followed by its payload, so all frames of one kind have the same length on the wire.
-/
namespace AltBit

/-- Identifier, sequence number and acknowledgment number. -/
def headerSize : Nat := 3

/-- A frame with room for `m` payload bytes. -/
structure Frame (m : Nat) where
  id : Identifier
  seq : UInt8
  ack : UInt8
  payload : Vector UInt8 m
  deriving DecidableEq, Repr

inductive FrameError where
  | payloadTooLarge (size max : Nat)
  | lengthMismatch (actual expected : Nat)
  deriving DecidableEq, Repr

def FrameError.name : FrameError → String
  | payloadTooLarge .. => "PayloadTooLarge"
  | lengthMismatch .. => "LengthMismatch"

def FrameError.message : FrameError → String
  | payloadTooLarge size max => s!"payload too large ({size} bytes, max {max})"
  | lengthMismatch actual expected =>
    s!"frame length mismatch ({actual} bytes, expected {expected})"

/-- A list cut off or filled up with zeros to length `m`. -/
def zeroPadded (m : Nat) (bytes : List UInt8) : Vector UInt8 m :=
  Vector.ofFn fun i => bytes.getD i.val 0

namespace Frame
variable {m : Nat}

def length (m : Nat) : Nat := headerSize + m

def zero : Frame m := ⟨0, 0, 0, Vector.replicate m 0⟩

instance : Inhabited (Frame m) := ⟨zero⟩

/-- A frame around a payload, which is padded with zeros and must fit. -/
def build (m : Nat) (id : Identifier) (seq ack : UInt8) (payload : List UInt8) :
    Except FrameError (Frame m) :=
  if payload.length ≤ m then .ok ⟨id, seq, ack, zeroPadded m payload⟩
  else .error (.payloadTooLarge payload.length m)

def bytes (f : Frame m) : List UInt8 := f.id :: f.seq :: f.ack :: f.payload.toList

@[simp] theorem length_bytes (f : Frame m) : f.bytes.length = length m := by
  simp only [bytes, List.length_cons, Vector.length_toList, length, headerSize]
  omega

/-- The frame whose wire form starts the list; missing bytes count as zero. -/
def ofBytes (m : Nat) (bs : List UInt8) : Frame m :=
  ⟨bs.getD 0 0, bs.getD 1 0, bs.getD 2 0, zeroPadded m (bs.drop headerSize)⟩

theorem ofBytes_bytes_append (f : Frame m) (rest : List UInt8) :
    ofBytes m (f.bytes ++ rest) = f := by
  obtain ⟨id, seq, ack, payload⟩ := f
  simp only [ofBytes, bytes, headerSize, zeroPadded, List.cons_append, List.drop_succ_cons,
    List.drop_zero, List.getD_cons_zero, List.getD_cons_succ, mk.injEq, true_and]
  ext i hi
  simp [List.getElem?_append_left, List.getD]

theorem bytes_ofBytes {bs : List UInt8} (h : length m ≤ bs.length) :
    (ofBytes m bs).bytes = bs.take (length m) := by
  refine List.ext_getElem (by rw [length_bytes, List.length_take, Nat.min_eq_left h]) ?_
  intro i hi _
  rw [length_bytes] at hi
  have hbs : i < bs.length := Nat.lt_of_lt_of_le hi h
  rw [List.getElem_take]
  match i with
  | 0 | 1 | 2 => simp [bytes, ofBytes, hbs]
  | i + 3 => simp [bytes, ofBytes, zeroPadded, headerSize, Nat.add_comm 3 i, hbs]

def ofExactBytes (m : Nat) (bs : List UInt8) : Except FrameError (Frame m) :=
  if bs.length = length m then .ok (ofBytes m bs)
  else .error (.lengthMismatch bs.length (length m))

def clearPayload (f : Frame m) : Frame m := { f with payload := Vector.replicate m 0 }

/-- Overwrites one payload byte; indices beyond the payload change nothing. -/
def setPayloadByte (f : Frame m) (i : Nat) (b : UInt8) : Frame m :=
  { f with payload := f.payload.setIfInBounds i b }

def setByte (f : Frame m) (i : Nat) (b : UInt8) : Frame m := ofBytes m (f.bytes.set i b)

def encode (f : Frame m) (buffer : List UInt8) : List UInt8 := buffer ++ f.bytes

/-- Takes one frame off the front of a buffer that holds at least one. -/
def decode? (m : Nat) (buffer : List UInt8) : Option (Frame m × List UInt8) :=
  if length m ≤ buffer.length then some (ofBytes m buffer, buffer.drop (length m)) else none

theorem bytes_append_of_decode? {f : Frame m} {buffer rest : List UInt8}
    (h : decode? m buffer = some (f, rest)) : f.bytes ++ rest = buffer := by
  unfold decode? at h
  split at h
  · cases h
    rw [bytes_ofBytes ‹_›, List.take_append_drop]
  · cases h

theorem decode?_bytes_append (f : Frame m) (rest : List UInt8) :
    decode? m (f.bytes ++ rest) = some (f, rest) := by
  have hlength : length m ≤ (f.bytes ++ rest).length := by
    rw [List.length_append, length_bytes]
    exact Nat.le_add_right _ _
  rw [decode?, if_pos hlength, ofBytes_bytes_append, ← length_bytes f, List.drop_left]

end Frame

end AltBit

import AltBit.Duration.Text
import AltBit.Link

/-!
The sending half of the alternating-bit protocol. A reliable send writes a frame and waits for a
reply with the same identifier that acknowledges its sequence number; if none comes in time, the
same frame is written again, up to a number of attempts. The next frame on that identifier carries
the other number.

A wait looks at the clock only when the link has nothing to read, so it need not end on a link that
always has. Waits therefore take the number of rounds they may go on for, and a send whose wait
needs more rounds has no result.
-/
namespace AltBit

structure SenderConfig where
  /-- How long to wait before a frame is written again. -/
  retransmitAfter : Duration
  /-- How often a frame is written at most; zero counts as one. -/
  maxAttempts : UInt32
  /-- How long to sleep between readiness checks. -/
  pollInterval : Duration
  deriving DecidableEq, Repr

namespace SenderConfig

/-- 200 ms, five attempts, 2 ms. -/
def standard : SenderConfig := ⟨Duration.ofMillis 200, 5, Duration.ofMillis 2⟩

def attempts (c : SenderConfig) : Nat := max c.maxAttempts.toNat 1

/-- The longest a send can wait over all its attempts. -/
def totalWait (c : SenderConfig) : Duration := c.retransmitAfter.saturatingMul c.attempts

end SenderConfig

inductive SendError where
  | link (e : LinkError)
  | frame (e : FrameError)
  | exhausted (id : Identifier) (seq : UInt8) (attempts : Nat)
  | timeout (window : Duration)
  /-- The clock cannot show the end of the wait. -/
  | deadlineUnreachable
  deriving DecidableEq, Repr

def SendError.name : SendError → String
  | link e => s!"Transport({e.name})"
  | frame e => s!"Frame({e.name})"
  | exhausted .. => "Exhausted"
  | timeout _ => "Timeout"
  | deadlineUnreachable => "DeadlineUnreachable"

def SendError.message : SendError → String
  | link e => s!"transport error: {e.message}"
  | frame e => s!"invalid frame: {e.message}"
  | exhausted id seq attempts =>
    s!"no acknowledgment for id {id} seq {seq} after {attempts} attempts"
  | timeout window => s!"no reply within {window.render}"
  | deadlineUnreachable => Instant.overflowMessage

structure Sender (T : Type) where
  link : T
  config : SenderConfig
  clock : Clock
  /-- The sequence number of the next reliable frame on each identifier. -/
  sequence : Vector UInt8 256 := Vector.replicate 256 0

inductive Awaited (m : Nat) where
  | reply (f : Frame m)
  | expired
  | failed (e : SendError)
  | unfinished

namespace Sender
variable {T : Type} {m : Nat}

def nextSeq (s : Sender T) (id : Identifier) : UInt8 :=
  have := id.toNat_lt
  s.sequence[id.toNat]

def setNextSeq (s : Sender T) (id : Identifier) (seq : UInt8) : Sender T :=
  { s with sequence := s.sequence.set id.toNat seq id.toNat_lt }

theorem nextSeq_setNextSeq (s : Sender T) (id : Identifier) (seq : UInt8) (j : Identifier) :
    (s.setNextSeq id seq).nextSeq j = if j = id then seq else s.nextSeq j := by
  by_cases h : j = id
  · subst h
    simp [nextSeq, setNextSeq]
  · have hn : id.toNat ≠ j.toNat := fun e => h (UInt8.toNat_inj.mp e.symm)
    simp [nextSeq, setNextSeq, h, hn]

def reset (s : Sender T) (id : Identifier) : Sender T := s.setNextSeq id 0

def resetAll (s : Sender T) : Sender T := { s with sequence := Vector.replicate 256 0 }

variable [Link T m]

/-- Reads until a reply to `id` is acceptable. The clock is read whenever nothing is there. -/
def awaitUntil (id : Identifier) (accepts : Frame m → Bool) (deadline : Instant) :
    (rounds : Nat) → Sender T → Traced (Awaited m × Sender T)
  | 0, s => pure (.unfinished, s)
  | rounds + 1, s => do
    let (ready, link) ← Link.isReady s.link
    let s := { s with link }
    match ready with
    | .error e => pure (.failed (.link e), s)
    | .ok false =>
      let (now, clock) := s.clock.read
      let s := { s with clock }
      if deadline.nanos ≤ now.nanos then pure (.expired, s)
      else awaitUntil id accepts deadline rounds s
    | .ok true =>
      let (frame, link) ← Link.receive s.link
      let s := { s with link }
      match frame with
      | .error e => pure (.failed (.link e), s)
      | .ok none => awaitUntil id accepts deadline rounds s
      | .ok (some f) =>
        if f.id == id && accepts f then pure (.reply f, s)
        else
          Traced.emit (.staleReply f.id f.seq f.ack)
          awaitUntil id accepts deadline rounds s

def awaitReply (rounds : Nat) (id : Identifier) (window : Duration) (accepts : Frame m → Bool)
    (s : Sender T) : Traced (Awaited m × Sender T) :=
  let (now, clock) := s.clock.read
  let s := { s with clock }
  match now.add? window with
  | none => pure (.failed .deadlineUnreachable, s)
  | some deadline => awaitUntil id accepts deadline rounds s

/-- Writes a frame until it is acknowledged, `left` times at most, counting attempts from
`attempt`. -/
def transmit (rounds : Nat) (f : Frame m) (attempt : Nat) :
    (left : Nat) → Sender T → Traced (Option (Except SendError (Frame m)) × Sender T)
  | 0, s => pure (some (.error (.exhausted f.id f.seq s.config.attempts)), s)
  | left + 1, s => do
    let (written, link) ← Link.write s.link f
    let s := { s with link }
    match written with
    | .error e => pure (some (.error (.link e)), s)
    | .ok () =>
      Traced.emit (.sent f.id f.seq attempt)
      match ← s.awaitReply rounds f.id s.config.retransmitAfter fun r => r.ack == f.seq with
      | (.unfinished, s) => pure (none, s)
      | (.failed e, s) => pure (some (.error e), s)
      | (.reply r, s) =>
        Traced.emit (.acknowledged f.id f.seq attempt)
        pure (some (.ok r), s.setNextSeq f.id (flipBit f.seq))
      | (.expired, s) =>
        if left ≠ 0 then Traced.emit (.retransmitting f.id f.seq attempt)
        transmit rounds f (attempt + 1) left s

/-- Sends a payload reliably and returns the acknowledging reply. -/
def sendReliable (rounds : Nat) (s : Sender T) (id : Identifier) (payload : List UInt8) :
    Traced (Option (Except SendError (Frame m)) × Sender T) :=
  match Frame.build m id (s.nextSeq id) 0 payload with
  | .error e => pure (some (.error (.frame e)), s)
  | .ok f => transmit rounds f 1 s.config.attempts s

/-- Sends a payload once and returns the next reply with its identifier. -/
def sendUnreliable (rounds : Nat) (s : Sender T) (id : Identifier) (payload : List UInt8) :
    Traced (Option (Except SendError (Frame m)) × Sender T) :=
  match Frame.build m id 0 0 payload with
  | .error e => pure (some (.error (.frame e)), s)
  | .ok f => do
    let (written, link) ← Link.write s.link f
    let s := { s with link }
    match written with
    | .error e => pure (some (.error (.link e)), s)
    | .ok () =>
      Traced.emit (.unreliableSent id)
      let window := s.config.totalWait
      match ← s.awaitReply rounds id window fun _ => true with
      | (.unfinished, s) => pure (none, s)
      | (.failed e, s) => pure (some (.error e), s)
      | (.reply r, s) => pure (some (.ok r), s)
      | (.expired, s) => pure (some (.error (.timeout window)), s)

end Sender

end AltBit

import AltBit.Identifier

/-!
The receiving half of the alternating-bit protocol. Every reliable identifier has a channel that
remembers whether an even or an odd frame comes next. A frame with the expected number is accepted
and acknowledged with that number; any other frame is taken for a repetition of the frame before and
acknowledged with the other number.
-/
namespace AltBit

inductive Outcome where
  | normal
  /-- The handler has ended a session; only the session channel takes notice. -/
  | sessionReset
  deriving DecidableEq, Repr

inductive ChannelState where
  | awaitingEven
  | awaitingOdd
  deriving DecidableEq, Repr

/-- How a reliable channel treats a frame, and the number it answers with. -/
inductive Verdict where
  | accept (ack : UInt8)
  | duplicate (ack : UInt8)
  deriving DecidableEq, Repr

inductive Delivery where
  | unreliable
  | accepted (ack : UInt8)
  | duplicate (ack : UInt8)
  deriving DecidableEq, Repr

def flipBit (seq : UInt8) : UInt8 := seq ^^^ 1

@[simp] theorem flipBit_flipBit (seq : UInt8) : flipBit (flipBit seq) = seq := by
  rw [flipBit, flipBit, UInt8.xor_assoc, UInt8.xor_self, UInt8.xor_zero]

namespace ChannelState

def expected : ChannelState → UInt8
  | awaitingEven => 0
  | awaitingOdd => 1

def classify (c : ChannelState) (seq : UInt8) : Verdict :=
  if seq = c.expected then .accept c.expected else .duplicate (flipBit c.expected)

/-- The state after an accepted frame: a session that ends at an even frame starts over at even. -/
def afterAccept (c : ChannelState) (id : Identifier) (outcome : Outcome) : ChannelState :=
  match c with
  | awaitingEven =>
    if id = Identifier.sessionControl ∧ outcome = .sessionReset then awaitingEven else awaitingOdd
  | awaitingOdd => awaitingEven

def name : ChannelState → String
  | awaitingEven => "AwaitingEven"
  | awaitingOdd => "AwaitingOdd"

theorem classify_eq_accept_iff (c : ChannelState) (seq ack : UInt8) :
    c.classify seq = .accept ack ↔ seq = c.expected ∧ ack = c.expected := by
  unfold classify
  split <;> simp_all [eq_comm]

/-- Away from session control, accepted frames take turns. -/
theorem expected_afterAccept (c : ChannelState) {id : Identifier} (outcome : Outcome)
    (h : id ≠ Identifier.sessionControl) :
    (c.afterAccept id outcome).expected = flipBit c.expected := by
  cases c with
  | awaitingEven => simp [afterAccept, h, expected, flipBit]
  | awaitingOdd => simp [afterAccept, expected, flipBit]

end ChannelState

abbrev ChannelTable := IdTable ChannelState

namespace ChannelTable

/-- Opens a channel, or starts it over, at an even frame. -/
def start (t : ChannelTable) (id : Identifier) : ChannelTable := t.insert id .awaitingEven

/-- Changes the state of an open channel; a closed one stays closed. -/
def setState? (t : ChannelTable) (id : Identifier) (c : ChannelState) : Option ChannelTable :=
  if t.contains id then some (t.insert id c) else none

end ChannelTable

end AltBit

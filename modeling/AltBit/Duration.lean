/-!
Spans of time to the nanosecond, as whole seconds in 64 bits and a rest below one second. Division
carries the seconds left over into the rest; multiplication saturates at the longest duration.
-/
namespace AltBit

def nanosPerSecond : Nat := 1000000000

structure Duration where
  secs : Nat
  nanos : Nat
  secs_lt : secs < UInt64.size
  nanos_lt : nanos < nanosPerSecond
  deriving DecidableEq, Repr

namespace Duration

def toNanos (d : Duration) : Nat := nanosPerSecond * d.secs + d.nanos

def zero : Duration := ⟨0, 0, by decide, by decide⟩

instance : Inhabited Duration := ⟨zero⟩

def longest : Duration := ⟨UInt64.size - 1, nanosPerSecond - 1, by decide, by decide⟩

def isZero (d : Duration) : Bool := d.secs == 0 && d.nanos == 0

/-- A duration with the given seconds and nanoseconds, if the full seconds among the latter fit. -/
def ofParts? (secs nanos : Nat) : Option Duration :=
  if h : secs + nanos / nanosPerSecond < UInt64.size then
    some ⟨secs + nanos / nanosPerSecond, nanos % nanosPerSecond, h, Nat.mod_lt _ (by decide)⟩
  else none

def ofSecs (secs : UInt64) : Duration := ⟨secs.toNat, 0, secs.toNat_lt, by decide⟩

def ofMillis (millis : UInt64) : Duration :=
  ⟨millis.toNat / 1000, millis.toNat % 1000 * 1000000,
    Nat.lt_of_le_of_lt (Nat.div_le_self ..) millis.toNat_lt,
    by have := Nat.mod_lt millis.toNat (show 1000 > 0 by decide); unfold nanosPerSecond; omega⟩

/-- Nanoseconds of one part out of `k`: its share of the rest and of the seconds left over. -/
def shareNanos (d : Duration) (k : Nat) : Nat :=
  d.nanos / k + (d.secs % k * nanosPerSecond + d.nanos % k) / k

theorem shareNanos_lt (d : Duration) (k : Nat) : d.shareNanos k < nanosPerSecond := by
  rcases Nat.eq_zero_or_pos k with rfl | hk
  · simp [shareNanos, nanosPerSecond]
  have hs : d.secs % k + 1 ≤ k := Nat.mod_lt _ hk
  have hcarry : (d.secs % k + 1) * nanosPerSecond ≤ k * nanosPerSecond :=
    Nat.mul_le_mul_right _ hs
  have hrest := Nat.div_add_mod d.nanos k
  have hn := d.nanos_lt
  have hsum : d.shareNanos k =
      (k * (d.nanos / k) + (d.secs % k * nanosPerSecond + d.nanos % k)) / k := by
    rw [shareNanos, Nat.mul_add_div hk]
  rw [hsum, Nat.div_lt_iff_lt_mul hk]
  rw [Nat.add_mul] at hcarry
  rw [Nat.mul_comm nanosPerSecond k]
  omega

/-- One part out of `k`, rounded down to a nanosecond. -/
def div (d : Duration) (k : Nat) : Duration :=
  ⟨d.secs / k, d.shareNanos k, Nat.lt_of_le_of_lt (Nat.div_le_self ..) d.secs_lt, d.shareNanos_lt k⟩

/-- The `k`-fold duration, or the longest one if that is too long. -/
def saturatingMul (d : Duration) (k : Nat) : Duration :=
  (ofParts? (d.secs * k) (d.nanos * k)).getD longest

end Duration

/-- The first nanosecond that a clock cannot show any more: its seconds are held in 63 bits. -/
def clockEnd : Nat := UInt64.size / 2 * nanosPerSecond

structure Instant where
  nanos : Nat
  nanos_lt : nanos < clockEnd
  deriving DecidableEq, Repr

namespace Instant

def ofNanos? (n : Nat) : Option Instant :=
  if h : n < clockEnd then some ⟨n, h⟩ else none

def last : Instant := ⟨clockEnd - 1, by decide⟩

/-- The instant a duration later, if the clock can show it. -/
def add? (t : Instant) (d : Duration) : Option Instant :=
  -- in this order, as a sum that ends in a large numeral is unfolded by ones when it is compared
  ofNanos? (d.toNanos + t.nanos)

@[simp] theorem add?_zero (t : Instant) : t.add? .zero = some t := by
  have hsum : Duration.zero.toNanos + t.nanos = t.nanos := Nat.zero_add _
  unfold add? ofNanos?
  simp only [hsum, t.nanos_lt, dif_pos]

/-- What is said if the clock cannot show the sum. -/
def overflowMessage : String := "overflow when adding duration to instant"

/-- A wait of this length that begins now ends where the clock cannot show it. -/
def Overruns (now : Instant) (window : Duration) : Prop :=
  clockEnd ≤ now.nanos + window.toNanos

theorem add?_eq_none_iff {now : Instant} {window : Duration} :
    now.add? window = none ↔ now.Overruns window := by
  unfold add? ofNanos? Overruns
  rw [Nat.add_comm]
  split
  next h => simp [h]
  next h => simpa using h

theorem Overruns.of_le {now later : Instant} {window : Duration} (h : now.Overruns window)
    (hle : now.nanos ≤ later.nanos) : later.Overruns window := by
  unfold Overruns at h ⊢
  omega

end Instant

/-- A clock, given by the readings it shows one after another. -/
structure Clock where
  readings : Nat → Instant
  monotone : ∀ i, (readings i).nanos ≤ (readings (i + 1)).nanos
  taken : Nat := 0

namespace Clock

def read (c : Clock) : Instant × Clock := (c.readings c.taken, { c with taken := c.taken + 1 })

/-- A clock that moves by a fixed number of nanoseconds from one reading to the next. -/
def ticking (step : Nat) : Clock where
  readings k := (Instant.ofNanos? (k * step)).getD Instant.last
  monotone i := by
    have hstep : i * step ≤ (i + 1) * step := Nat.mul_le_mul_right _ (Nat.le_succ i)
    unfold Instant.ofNanos?
    by_cases h : (i + 1) * step < clockEnd
    · rw [dif_pos h, dif_pos (Nat.lt_of_le_of_lt hstep h)]
      exact hstep
    · rw [dif_neg h]
      by_cases h' : i * step < clockEnd
      · rw [dif_pos h']
        exact Nat.le_sub_one_of_lt h'
      · exact Nat.le_of_eq (by rw [dif_neg h'])

end Clock

end AltBit

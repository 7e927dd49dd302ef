import AltBit.Command.Timeout
import Mathlib.Tactic.Ring

/-!
Durations as counts of nanoseconds, and a time that is split into equal shares. A share is rounded
down to a nanosecond, so what the shares lack of the whole is less than a nanosecond for each of
them. No number on the way is too long for the word that holds it.
-/
namespace AltBit

namespace Duration
variable {d : Duration} {k : Nat}

theorem toNanos_injective : Function.Injective toNanos := by
  rintro ⟨secs, nanos, _, hnanos⟩ ⟨secs', nanos', _, hnanos'⟩ h
  simp only [toNanos, nanosPerSecond] at h hnanos hnanos'
  have hsecs : secs = secs' := by omega
  have hrest : nanos = nanos' := by omega
  subst hsecs hrest
  rfl

theorem toNanos_ofSecs (secs : UInt64) : (ofSecs secs).toNanos = secs.toNat * nanosPerSecond := by
  rw [toNanos, ofSecs, Nat.add_zero, Nat.mul_comm]

theorem toNanos_ofMillis (millis : UInt64) :
    (ofMillis millis).toNanos = millis.toNat * 1000000 := by
  have hsplit := Nat.div_add_mod millis.toNat 1000
  simp only [toNanos, ofMillis, nanosPerSecond]
  omega

theorem toNanos_lt (d : Duration) : d.toNanos < nanosPerSecond * UInt64.size := by
  have hsecs : nanosPerSecond * (d.secs + 1) ≤ nanosPerSecond * UInt64.size :=
    Nat.mul_le_mul_left _ d.secs_lt
  have hnanos := d.nanos_lt
  rw [Nat.mul_add] at hsecs
  unfold toNanos
  omega

/-- What is left over of the seconds and of the rest when each is split into `k` parts. -/
def leftOver (d : Duration) (k : Nat) : Nat := d.secs % k * nanosPerSecond + d.nanos % k

theorem leftOver_lt (hk : 0 < k) : d.leftOver k < k * nanosPerSecond + k := by
  have hsecs : d.secs % k * nanosPerSecond ≤ k * nanosPerSecond :=
    Nat.mul_le_mul_right _ (Nat.mod_lt _ hk).le
  have hnanos := Nat.mod_lt d.nanos hk
  unfold leftOver
  omega

theorem toNanos_eq_mul_add (d : Duration) (k : Nat) :
    d.toNanos = k * (nanosPerSecond * (d.secs / k) + d.nanos / k) + d.leftOver k := by
  have hsecs := Nat.div_add_mod d.secs k
  have hnanos := Nat.div_add_mod d.nanos k
  calc
    d.toNanos = nanosPerSecond * (k * (d.secs / k) + d.secs % k) +
        (k * (d.nanos / k) + d.nanos % k) := by
      rw [hsecs, hnanos, toNanos]
    _ = k * (nanosPerSecond * (d.secs / k) + d.nanos / k) + d.leftOver k := by
      rw [leftOver]
      ring

/-- Splitting the seconds and the rest apart, with a carry, is splitting the nanoseconds. -/
theorem toNanos_div (hk : 0 < k) : (d.div k).toNanos = d.toNanos / k := by
  have hshare : (d.div k).toNanos =
      nanosPerSecond * (d.secs / k) + d.nanos / k + d.leftOver k / k := by
    rw [Nat.add_assoc]
    rfl
  rw [toNanos_eq_mul_add d k, Nat.mul_add_div hk, hshare]

theorem ofParts?_eq_some_iff {secs nanos : Nat} :
    ofParts? secs nanos = some d ↔ d.toNanos = nanosPerSecond * secs + nanos := by
  have hsplit := Nat.div_add_mod nanos nanosPerSecond
  constructor
  · intro h
    unfold ofParts? at h
    split at h <;> cases h
    show nanosPerSecond * (secs + nanos / nanosPerSecond) + nanos % nanosPerSecond = _
    rw [Nat.mul_add]
    omega
  · intro h
    have hlt : secs + nanos / nanosPerSecond < UInt64.size := by
      have hd := d.toNanos_lt
      apply Nat.lt_of_mul_lt_mul_left (a := nanosPerSecond)
      rw [Nat.mul_add]
      omega
    rw [ofParts?, dif_pos hlt]
    congr 1
    apply toNanos_injective
    show nanosPerSecond * (secs + nanos / nanosPerSecond) + nanos % nanosPerSecond = _
    rw [h, Nat.mul_add]
    omega

/-- The numbers that a division by `k` comes across fit the words that hold them: 64 bits for the
nanoseconds left over, 32 bits for those of a share. -/
structure DivFits (d : Duration) (k : Nat) : Prop where
  divisor : 0 < k
  leftOver : d.leftOver k < UInt64.size
  carry : d.leftOver k / k < UInt32.size
  share : d.shareNanos k < UInt32.size

theorem divFits (hk : 0 < k) (hword : k < UInt32.size) : d.DivFits k := by
  have hleft : d.leftOver k < k * nanosPerSecond + k := leftOver_lt hk
  have hshare := d.shareNanos_lt k
  have hcarry : d.leftOver k / k ≤ d.shareNanos k := Nat.le_add_left _ _
  have hnanos : nanosPerSecond < UInt32.size := by decide
  refine ⟨hk, ?_, by omega, by omega⟩
  simp only [nanosPerSecond, UInt32.size, UInt64.size] at *
  omega

/-- The numbers that a multiplication by `k` comes across fit 64 bits. -/
structure MulFits (d : Duration) (k : Nat) : Prop where
  nanos : d.nanos * k < UInt64.size
  secs : d.secs * k < UInt64.size
  carried : d.secs * k + d.nanos * k / nanosPerSecond < UInt64.size

theorem mulFits (hword : k < UInt32.size) (h : k * d.toNanos < nanosPerSecond * UInt64.size) :
    d.MulFits k := by
  have hcarried : d.secs * k + d.nanos * k / nanosPerSecond < UInt64.size := by
    have hsplit := Nat.div_add_mod (d.nanos * k) nanosPerSecond
    have hproduct : k * d.toNanos = nanosPerSecond * (d.secs * k) + d.nanos * k := by
      rw [toNanos]
      ring
    apply Nat.lt_of_mul_lt_mul_left (a := nanosPerSecond)
    rw [Nat.mul_add]
    omega
  refine ⟨?_, Nat.lt_of_le_of_lt (Nat.le_add_right _ _) hcarried, hcarried⟩
  calc
    d.nanos * k ≤ nanosPerSecond * UInt32.size := Nat.mul_le_mul d.nanos_lt.le hword.le
    _ < UInt64.size := by decide

/-- A multiplication whose numbers fit is exact; it does not fall back on the longest duration. -/
theorem MulFits.toNanos_saturatingMul (h : d.MulFits k) :
    ofParts? (d.secs * k) (d.nanos * k) = some (d.saturatingMul k) ∧
      (d.saturatingMul k).toNanos = k * d.toNanos := by
  have hparts : ofParts? (d.secs * k) (d.nanos * k) = some (d.saturatingMul k) := by
    simp [saturatingMul, ofParts?, h.carried]
  refine ⟨hparts, ?_⟩
  rw [ofParts?_eq_some_iff.mp hparts, toNanos]
  ring

end Duration

namespace Command.Timeout
open Duration
variable {timeout : Duration} {attempts : UInt32}

theorem toNat_max_one (attempts : UInt32) : (max attempts 1).toNat = max attempts.toNat 1 := by
  show (if attempts ≤ 1 then 1 else attempts : UInt32).toNat = _
  split
  next h => exact (Nat.max_eq_right (UInt32.le_iff_toNat_le.mp h)).symm
  next h => exact (Nat.max_eq_left (UInt32.lt_iff_toNat_lt.mp (UInt32.not_le.mp h)).le).symm

theorem retransmitAfter_senderConfig :
    (senderConfig timeout attempts).retransmitAfter = timeout.div (max attempts.toNat 1) := by
  rw [senderConfig, toNat_max_one]

theorem totalWait_senderConfig :
    (senderConfig timeout attempts).totalWait =
      (timeout.div (max attempts.toNat 1)).saturatingMul (max attempts.toNat 1) := by
  simp [SenderConfig.totalWait, SenderConfig.attempts, senderConfig, toNat_max_one]

/-- The attempts of a sender together take the time that it was given, up to a nanosecond for each
of them. Splitting the time and multiplying it again is exact on the way. -/
theorem shares_add_up (timeout : Duration) (attempts : UInt32) :
    let c := senderConfig timeout attempts
    let k := max attempts.toNat 1
    c.totalWait.toNanos ≤ timeout.toNanos ∧ timeout.toNanos - c.totalWait.toNanos < k ∧
      timeout.DivFits k ∧ c.retransmitAfter.MulFits k ∧
      ofParts? (c.retransmitAfter.secs * k) (c.retransmitAfter.nanos * k) = some c.totalWait := by
  intro c k
  have hk : 0 < k := Nat.le_max_right _ _
  have hword : k < UInt32.size := Nat.max_lt.mpr ⟨attempts.toNat_lt, by decide⟩
  have hshare : c.retransmitAfter.toNanos = timeout.toNanos / k := by
    rw [retransmitAfter_senderConfig, toNanos_div hk]
  have hwhole := Nat.div_add_mod timeout.toNanos k
  have hlost := Nat.mod_lt timeout.toNanos hk
  have hfits : c.retransmitAfter.MulFits k := by
    apply mulFits hword
    have hlt := timeout.toNanos_lt
    rw [hshare]
    omega
  obtain ⟨hparts, htotal⟩ := hfits.toNanos_saturatingMul
  have hsaturating : c.totalWait = c.retransmitAfter.saturatingMul k := by
    rw [totalWait_senderConfig, retransmitAfter_senderConfig]
  rw [hsaturating, htotal, hshare]
  exact ⟨by omega, by omega, divFits hk hword, hfits, hparts⟩

/-- A nanosecond is lost when a second is split into three. -/
example : (senderConfig (ofSecs 1) 3).totalWait.toNanos = 999999999 := by decide

end Command.Timeout

end AltBit

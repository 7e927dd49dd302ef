import AltBit.Channel
import AltBit.Proofs.Carrier

/-!
Queues of sequence numbers that change over at most once. Everything between the two ends of a
channel, read from the oldest reply on its way back to the newest request on its way there, is some
copies of the old number followed by some copies of the number that the sender uses now. Loss,
repetition in place, delivery and new requests all keep that shape.
-/
namespace AltBit

theorem flipBit_ne (seq : UInt8) : flipBit seq ≠ seq := by
  intro h
  have hone : seq ^^^ (seq ^^^ 1) = seq ^^^ seq := congrArg (seq ^^^ ·) h
  rw [← UInt8.xor_assoc, UInt8.xor_self, UInt8.zero_xor] at hone
  exact absurd hone (by decide)

theorem flipBit_inj {a b : UInt8} (h : flipBit a = flipBit b) : a = b := by
  rw [← flipBit_flipBit a, h, flipBit_flipBit]

/-- Copies of the other number followed by copies of `bit`. -/
structure Settling (bit : UInt8) (l : List UInt8) : Prop where
  changesOnce : l.Pairwise fun a b => a = bit → b = bit
  bits : ∀ a ∈ l, a = bit ∨ a = flipBit bit

namespace Settling
variable {bit : UInt8} {l l' before after : List UInt8}

theorem start (bit : UInt8) : Settling bit [flipBit bit] :=
  ⟨List.pairwise_singleton _ _, fun _ ha => Or.inr (List.mem_singleton.mp ha)⟩

theorem sublist (h : Settling bit l) (hl : l'.Sublist l) : Settling bit l' :=
  ⟨h.changesOnce.sublist hl, fun a ha => h.bits a (hl.subset ha)⟩

theorem repeated {a : UInt8} (h : Settling bit (before ++ a :: after)) :
    Settling bit (before ++ a :: a :: after) := by
  obtain ⟨hbefore, hafter, hcross⟩ := List.pairwise_append.mp h.changesOnce
  have hcopy : (a :: a :: after).Pairwise fun a b => a = bit → b = bit := by
    refine List.pairwise_cons.mpr ⟨fun b hb => ?_, hafter⟩
    rcases List.mem_cons.mp hb with rfl | hb
    · exact id
    · exact (List.pairwise_cons.mp hafter).1 b hb
  constructor
  · refine List.pairwise_append.mpr ⟨hbefore, hcopy, fun b hb c hc => hcross b hb c ?_⟩
    simpa using hc
  · intro b hb
    exact h.bits b (by simpa using hb)

theorem disturbed (h : Settling bit (before ++ l ++ after)) (hl : Disturbed l l') :
    Settling bit (before ++ l' ++ after) := by
  cases hl with
  | lost x a y =>
    refine h.sublist ?_
    exact (((List.sublist_cons_self a y).append_left x).append_left before).append_right after
  | repeated x a y =>
    have h' := h
    rw [List.append_assoc, List.append_assoc, ← List.append_assoc, List.cons_append] at h'
    simpa using h'.repeated

theorem concat (h : Settling bit l) : Settling bit (l ++ [bit]) := by
  constructor
  · refine List.pairwise_append.mpr ⟨h.changesOnce, List.pairwise_singleton _ _, ?_⟩
    intro a _ b hb _
    exact List.mem_singleton.mp hb
  · intro a ha
    rcases List.mem_append.mp ha with ha | ha
    · exact h.bits a ha
    · exact Or.inl (List.mem_singleton.mp ha)

/-- Once the number in use comes first, there is no other. -/
theorem of_head (h : Settling bit (bit :: l)) : ∀ a ∈ l, a = bit :=
  fun a ha => (List.pairwise_cons.mp h.changesOnce).1 a ha rfl

/-- With one number only, the other one can be taken into use. -/
theorem flip (h : ∀ a ∈ l, a = bit) : Settling (flipBit bit) l := by
  constructor
  · refine List.pairwise_of_forall_mem_list fun a ha b hb hab => ?_
    rw [h a ha] at hab
    exact absurd hab.symm (flipBit_ne bit)
  · intro a ha
    rw [flipBit_flipBit]
    exact Or.inr (h a ha)

/-- A receiver at `e` that finds `e` next in line finds the number in use, and takes it on. -/
theorem accept {e : UInt8} (h : Settling bit (before ++ flipBit e :: e :: after)) :
    e = bit ∧ Settling bit (before ++ e :: e :: after) := by
  obtain ⟨hbefore, hafter, hcross⟩ := List.pairwise_append.mp h.changesOnce
  obtain ⟨hold, hnew⟩ := List.pairwise_cons.mp hafter
  have hne : flipBit e ≠ bit := by
    intro hbit
    have := hold e List.mem_cons_self hbit
    exact flipBit_ne e (hbit.trans this.symm)
  have he : e = bit :=
    flipBit_inj ((h.bits (flipBit e) (by simp)).resolve_left hne)
  have hrest : Settling bit (before ++ e :: after) :=
    h.sublist ((List.sublist_cons_self _ _).append_left before)
  exact ⟨he, hrest.repeated⟩

/-- A receiver at `e` that finds anything else next in line finds the number before. -/
theorem other {e a : UInt8} (h : Settling bit (before ++ flipBit e :: a :: after)) (ha : a ≠ e) :
    a = flipBit e := by
  have hnext := h.bits a (by simp)
  rcases h.bits (flipBit e) (by simp) with hbit | hbit
  · rw [← hbit, flipBit_flipBit] at hnext
    exact hnext.resolve_right ha
  · rw [← flipBit_inj hbit] at hnext
    exact hnext.resolve_left ha

end Settling

end AltBit

import Mathlib.Data.List.Forall2

/-!
Submissions on one identifier, grouped by the acknowledgments between them. A handler that has been
given one payload out of every acknowledged group, and perhaps one of those still pending, has been
given a subsequence of what was submitted; where a group repeats one payload, it has been given that
payload.
-/
namespace AltBit

/-- The payloads submitted on an identifier: the groups that an acknowledgment has ended, and the
payloads submitted since the last of them. -/
structure Ledger where
  acknowledged : List (List (List UInt8)) := []
  pending : List (List UInt8) := []

namespace Ledger
variable {l : Ledger} {ahead : Bool} {received : List (List UInt8)} {payload : List UInt8}

def submit (l : Ledger) (payload : List UInt8) : Ledger :=
  { l with pending := l.pending ++ [payload] }

def acknowledge (l : Ledger) : Ledger := ⟨l.acknowledged ++ [l.pending], []⟩

@[simp] theorem acknowledged_submit : (l.submit payload).acknowledged = l.acknowledged := rfl

@[simp] theorem pending_submit : (l.submit payload).pending = l.pending ++ [payload] := rfl

@[simp] theorem acknowledged_acknowledge :
    l.acknowledge.acknowledged = l.acknowledged ++ [l.pending] := rfl

@[simp] theorem pending_acknowledge : l.acknowledge.pending = [] := rfl

/-- The payloads received are one out of every acknowledged group, followed by one of the pending
payloads if the receiver is ahead of the acknowledgments. -/
def Covers (l : Ledger) (ahead : Bool) (received : List (List UInt8)) : Prop :=
  List.Forall₂ (fun payload group => payload ∈ group) received
    (if ahead then l.acknowledged ++ [l.pending] else l.acknowledged)

theorem Covers.receive (h : l.Covers false received) (hpayload : payload ∈ l.pending) :
    l.Covers true (received ++ [payload]) :=
  List.rel_append h (.cons hpayload .nil)

theorem covers_true_iff : l.Covers true received ↔
    ∃ before payload, received = before ++ [payload] ∧ l.Covers false before ∧
      payload ∈ l.pending := by
  constructor
  · intro h
    have hbefore := List.forall₂_take_append _ _ _ h
    have hlast := List.forall₂_drop_append _ _ _ h
    obtain ⟨payload, rest, hpayload, hrest, hdrop⟩ := List.forall₂_cons_right_iff.mp hlast
    rw [List.forall₂_nil_right_iff.mp hrest] at hdrop
    refine ⟨_, payload, ?_, hbefore, hpayload⟩
    rw [← hdrop, List.take_append_drop]
  · rintro ⟨before, payload, rfl, hbefore, hpayload⟩
    exact hbefore.receive hpayload

theorem Covers.submit (h : l.Covers ahead received) (payload : List UInt8) :
    (l.submit payload).Covers ahead received := by
  cases ahead with
  | false => exact h
  | true =>
    obtain ⟨before, p, rfl, hbefore, hp⟩ := covers_true_iff.mp h
    exact covers_true_iff.mpr ⟨before, p, rfl, hbefore, List.mem_append_left _ hp⟩

theorem Covers.acknowledge (h : l.Covers true received) : l.acknowledge.Covers false received := h

/-- Nothing is received twice or out of order. -/
theorem Covers.sublist (h : l.Covers ahead received) :
    received.Sublist (l.acknowledged.flatten ++ l.pending) := by
  have hflatten {groups : List (List (List UInt8))} {ps : List (List UInt8)}
      (h : List.Forall₂ (fun payload group => payload ∈ group) ps groups) :
      ps.Sublist groups.flatten := by
    induction h with
    | nil => exact List.Sublist.refl _
    | cons hp _ ih => exact (List.singleton_sublist.mpr hp).append ih
  cases ahead with
  | false => exact (hflatten h).trans (List.sublist_append_left _ _)
  | true => simpa using hflatten h

end Ledger

end AltBit

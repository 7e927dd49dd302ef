import AltBit.Event

/-!
Triples for traced computations. The record of events plays the part of the state: a triple says
what holds of the value and of the record with the new events at its end, given what held of the
record before. An invariant of a state that is passed along by hand is a triple too.
-/
namespace AltBit.Traced
variable {α β : Type}

/-- From a record with `P`, the computation goes on to a value and a longer record with `Q`. -/
def Triple (P : List Event → Prop) (x : Traced α) (Q : α → List Event → Prop) : Prop :=
  ∀ log, P log → Q x.val (log ++ x.events)

namespace Triple
variable {P : List Event → Prop} {Q : α → List Event → Prop} {R : β → List Event → Prop}

theorem pure {a : α} (h : ∀ log, P log → Q a log) : Triple P (Pure.pure a) Q := by
  intro log hlog
  rw [events_pure, List.append_nil]
  exact h log hlog

theorem bind {x : Traced α} {f : α → Traced β} (hx : Triple P x Q)
    (hf : ∀ a, Triple (Q a) (f a) R) : Triple P (x >>= f) R := by
  intro log hlog
  have h := hf x.val _ (hx log hlog)
  rwa [List.append_assoc] at h

theorem emit {e : Event} {Q : Unit → List Event → Prop} (h : ∀ log, P log → Q () (log ++ [e])) :
    Triple P (Traced.emit e) Q := h

theorem of_imp {x : Traced α} {P' : List Event → Prop} (h : ∀ log, P' log → P log)
    (hx : Triple P x Q) : Triple P' x Q :=
  fun log hlog => hx log (h log hlog)

theorem of_and {x : Traced α} {p : Prop} (h : p → Triple P x Q) :
    Triple (fun log => p ∧ P log) x Q :=
  fun log hlog => h hlog.1 log hlog.2

end Triple

end AltBit.Traced

import AltBit.Proofs.Opening
import AltBit.Proofs.Polling

/-!
Runs of a dispatcher: polls mixed with registrations. Between polls the link may change in any way,
so a poll of a run brings the state of the link that it finds. The history of a run holds the frames
that its polls have taken, each with the way it was handled.
-/
namespace AltBit

inductive Operation (T σ : Type) where
  /-- A poll that finds the link in the given state. -/
  | poll (link : T)
  | register (h : Handler σ)
  | deregister (id : Identifier)
  | enqueue (h : Handler σ)
  | drain
  | replaceLink (link : T)

/-- Whether an operation neither closes the channel of `id` nor starts it over. -/
def Operation.keeps {T σ : Type} (id : Identifier) : Operation T σ → Prop
  | deregister j => id ≠ j
  | replaceLink _ => False
  | _ => True

/-- A frame that a poll has taken, and how it was handled. -/
structure Exchange (σ : Type) (m : Nat) where
  frame : Frame m
  handled : Handled σ m

namespace Dispatcher
variable {T σ : Type} {m : Nat} [Link T m] [Behaviour σ]

def perform (d : Dispatcher T σ) : Operation T σ → Traced (Dispatcher T σ)
  | .poll link => do
    let (_, d) ← poll { d with link }
    pure d
  | .register h => do
    let (_, registry) ← d.registry.register h
    pure { d with registry }
  | .deregister id => do
    let (_, registry) ← d.registry.deregister id
    pure { d with registry }
  | .enqueue h => pure { d with registry := d.registry.enqueue h }
  | .drain => do
    let (_, registry) ← d.registry.drain
    pure { d with registry }
  | .replaceLink link => do
    let (_, d) ← d.replaceLink link
    pure d

def run (d : Dispatcher T σ) : List (Operation T σ) → Traced (Dispatcher T σ)
  | [] => pure d
  | o :: rest => do
    let d ← d.perform o
    d.run rest

/-- What an operation takes from the link. -/
def exchange? (d : Dispatcher T σ) : Operation T σ → Option (Exchange σ m)
  | .poll link => (incoming? { d with link }).map fun f => ⟨f, (d.registry.handle f).val⟩
  | _ => none

def history (d : Dispatcher T σ) : List (Operation T σ) → List (Exchange σ m)
  | [] => []
  | o :: rest => (d.exchange? o).toList ++ (d.perform o).val.history rest

/-- An operation that takes a frame does to registry and handlers what answering it does. -/
theorem perform_exchange [Link.Quiet T] {d : Dispatcher T σ} {o : Operation T σ}
    {x : Exchange σ m} (hx : d.exchange? o = some x) :
    x.handled = (d.registry.handle x.frame).val ∧
      (d.perform o).val.registry = x.handled.registry ∧
      ∀ id, invocations id (d.perform o).events =
        invocations id (d.registry.handle x.frame).events := by
  cases o with
  | poll link =>
    obtain ⟨f, hf, rfl⟩ := Option.map_eq_some_iff.mp hx
    have haccount := poll_account { d with link }
    simp only [hf] at haccount
    refine ⟨rfl, ?_, ?_⟩
    · simpa [perform] using haccount.1
    · simpa [perform] using haccount.2
  | register _ | deregister _ | enqueue _ | drain | replaceLink _ => cases hx

/-- Any other operation leaves the channels alone that it does not close or start over. -/
theorem perform_of_no_exchange [Link.Quiet T] {d : Dispatcher T σ} {o : Operation T σ}
    {id : Identifier} {c : ChannelState} (hx : d.exchange? o = none) (ho : o.keeps id)
    (hd : d.registry.Awaits id c) :
    (d.perform o).val.registry.Awaits id c ∧ invocations id (d.perform o).events = [] := by
  cases o with
  | poll link =>
    have haccount := poll_account { d with link }
    simp only [Option.map_eq_none_iff.mp hx] at haccount
    obtain ⟨hregistry, hevents⟩ := haccount
    constructor
    · simpa [perform, hregistry] using hd
    · simpa [perform] using hevents id
  | register h =>
    constructor
    · simpa [perform] using hd.register h
    · simpa [perform] using d.registry.invocations_register h id
  | deregister j =>
    constructor
    · simpa [perform] using hd.deregister ho
    · simpa [perform] using d.registry.invocations_deregister j id
  | enqueue h => exact ⟨⟨hd.reliable, hd.channel⟩, rfl⟩
  | drain =>
    constructor
    · simpa [perform, Registry.drain] using hd.registerAll d.registry.queue
    · simpa [perform, Registry.drain] using d.registry.invocations_registerAll d.registry.queue id
  | replaceLink link => cases ho

end Dispatcher

end AltBit

import AltBit.Proofs.Awaiting
import AltBit.Dispatcher
import AltBit.Link.Memory
import AltBit.Link.Scripted

/-!
What a poll does. It takes at most one frame from its link; the registry and the record of
invocations afterwards are those of answering that frame, whatever becomes of the reply. The link
only carries, so it records no invocations of its own.
-/
namespace AltBit

/-- A link that records no invocations. -/
class Link.Quiet (T : Type) {m : outParam Nat} [Link T m] : Prop where
  available (t : T) (id : Identifier) : invocations id (Link.available t).events = []
  read (t : T) (id : Identifier) : invocations id (Link.read t).events = []
  write (t : T) (f : Frame m) (id : Identifier) : invocations id (Link.write t f).events = []

instance {m : Nat} : Link.Quiet (Link.Memory m) where
  available _ _ := rfl
  read _ _ := rfl
  write _ _ _ := rfl

instance {m : Nat} : Link.Quiet (Link.Scripted m) where
  available _ _ := rfl
  read _ _ := rfl
  write _ _ _ := rfl

namespace Link
variable {T : Type} {m : Nat} [Link T m] [Quiet T]

theorem invocations_isReady (t : T) (id : Identifier) : invocations id (isReady t).events = [] := by
  simpa [isReady] using Quiet.available t id

theorem invocations_receive (t : T) (id : Identifier) : invocations id (receive t).events = [] := by
  simpa [receive] using Quiet.read t id

end Link

namespace Dispatcher
variable {T σ : Type} {m : Nat} [Link T m]

theorem registry_reply (d : Dispatcher T σ) (h : Handled σ m) :
    (d.reply h).val.2.registry = d.registry := by
  unfold reply
  cases hw : (Link.write d.link h.reply).val with
  | mk written link => cases h.delivery <;> cases written <;> simp [hw]

theorem invocations_reply [Link.Quiet T] (d : Dispatcher T σ) (h : Handled σ m) (id : Identifier) :
    invocations id (d.reply h).events = [] := by
  have hquiet := Link.Quiet.write d.link h.reply id
  unfold reply
  cases hw : (Link.write d.link h.reply).val with
  | mk written link =>
    cases h.delivery <;> cases written <;> simp [hw, hquiet, Event.invokedOn?]

/-- The frame that a poll takes from the link, if it gets one. -/
def incoming? (d : Dispatcher T σ) : Option (Frame m) :=
  match (Link.isReady d.link).val with
  | (.ok true, link) =>
    match (Link.receive link).val.1 with
    | .ok f => f
    | .error _ => none
  | _ => none

/-- The registry after a poll is that of answering the frame it takes, over whatever link. -/
theorem registry_poll [Behaviour σ] (d : Dispatcher T σ) :
    d.poll.val.2.registry =
      (d.incoming?.map fun f => (d.registry.handle f).val.registry).getD d.registry := by
  unfold poll incoming?
  rcases hready : (Link.isReady d.link).val with ⟨ready, link⟩
  rcases hframe : (Link.receive link).val with ⟨frame, link'⟩
  cases ready with
  | error e => simp [hready]
  | ok b =>
    cases b with
    | false => simp [hready]
    | true =>
      cases frame with
      | error e => simp [hready, hframe]
      | ok f => cases f <;> simp [hready, hframe, answer, registry_reply]

theorem invocations_poll [Behaviour σ] [Link.Quiet T] (d : Dispatcher T σ) (id : Identifier) :
    invocations id d.poll.events =
      (d.incoming?.map fun f => invocations id (d.registry.handle f).events).getD [] := by
  have hquiet := Link.invocations_isReady d.link
  unfold poll incoming?
  rcases hready : (Link.isReady d.link).val with ⟨ready, link⟩
  have hquiet' := Link.invocations_receive link
  rcases hframe : (Link.receive link).val with ⟨frame, link'⟩
  cases ready with
  | error e => simp [hready, hquiet, Event.invokedOn?]
  | ok b =>
    cases b with
    | false => simp [hready, hquiet]
    | true =>
      cases frame with
      | error e => simp [hready, hframe, hquiet, hquiet', Event.invokedOn?]
      | ok f => cases f <;> simp [hready, hframe, hquiet, hquiet', answer, invocations_reply]

/-- The registry and the invocations after a poll are those of answering the frame it takes. -/
theorem poll_account [Behaviour σ] [Link.Quiet T] (d : Dispatcher T σ) :
    match d.incoming? with
    | none => d.poll.val.2.registry = d.registry ∧ ∀ id, invocations id d.poll.events = []
    | some f => d.poll.val.2.registry = (d.registry.handle f).val.registry ∧
        ∀ id, invocations id d.poll.events = invocations id (d.registry.handle f).events := by
  have hregistry := d.registry_poll
  have hinvocations := d.invocations_poll
  cases h : d.incoming? with
  | none =>
    rw [h] at hregistry hinvocations
    exact ⟨hregistry, hinvocations⟩
  | some f =>
    rw [h] at hregistry hinvocations
    exact ⟨hregistry, hinvocations⟩

end Dispatcher

end AltBit

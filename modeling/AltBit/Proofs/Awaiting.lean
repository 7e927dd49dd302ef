import AltBit.Delivery

/-!
What answering a frame does to the channels. A frame for another identifier leaves a channel and its
handler's reliability alone. On a reliable identifier there are two cases: the frame that the
channel waits for is accepted, handed to the handler once and moves the channel on; any other frame
is a duplicate, which changes nothing and does not reach the handler.
-/
namespace AltBit

namespace Handler
variable {σ : Type} [Behaviour σ] {m : Nat}

theorem val_invoke (h : Handler σ) (f : Frame m) :
    (h.invoke f).val = ⟨{ h with state := (Behaviour.react h.state f.payload).val.state },
      { f with payload := (Behaviour.react h.state f.payload).val.payload },
      (Behaviour.react h.state f.payload).val.result⟩ := by
  cases hresult : (Behaviour.react h.state f.payload).val.result with
  | ok outcome => simp [invoke, hresult]
  | error e => simp [invoke, hresult]

theorem invocations_invoke (h : Handler σ) (f : Frame m) (id : Identifier) :
    invocations id (h.invoke f).events = if f.id = id then [f.payload.toList] else [] := by
  have hreact := Behaviour.invocations_react h.state f.payload id
  cases hresult : (Behaviour.react h.state f.payload).val.result with
  | ok outcome =>
    simp only [invoke, hresult, Traced.events_bind, Traced.events_emit, Traced.events_pure]
    by_cases hid : f.id = id <;> simp [hreact, Event.invokedOn?, hid]
  | error e =>
    simp only [invoke, hresult, Traced.events_bind, Traced.events_emit, Traced.events_pure]
    by_cases hid : f.id = id <;> simp [hreact, Event.invokedOn?, hid]

end Handler

/-- What the handler reported, if it was invoked and did not fail; otherwise nothing special. -/
def Handled.outcome {σ : Type} {m : Nat} (h : Handled σ m) : Outcome :=
  (h.result.map Outcome.ofResult).getD .normal

namespace Registry
variable {σ : Type}

/-- A reliable handler is registered for `id`, and its channel is in state `c`. -/
structure Awaits (r : Registry σ) (id : Identifier) (c : ChannelState) : Prop where
  reliable : r.isReliable? id = some true
  channel : r.channelState? id = some c

variable {m : Nat} {r : Registry σ} {h : Handler σ} {f : Frame m} {id : Identifier}
  {c : ChannelState}

theorem channelOf?_eq_some_iff : r.channelOf? h id = some c ↔
    h.reliable = true ∧ r.channelState? id = some c := by
  unfold channelOf? channelState?
  cases h.reliable <;> simp

variable [Behaviour σ]

theorem handle_of_none (hh : r.handlers.get? f.id = none) :
    (r.handle f).val = ⟨r, f.clearPayload, none, none⟩ ∧
      ∀ id, invocations id (r.handle f).events = [] := by
  simp [handle, hh, Event.invokedOn?]

theorem handle_of_some (hh : r.handlers.get? f.id = some h) :
    (r.handle f).val = (r.answer h f).val ∧
      ∀ id, invocations id (r.handle f).events = invocations id (r.answer h f).events := by
  cases hd : (r.answer h f).val.delivery with
  | none => simp [handle, hh, hd]
  | some delivery => simp [handle, hh, hd, Event.invokedOn?]

/-- What handling a frame can come to. -/
inductive HandleCase (r : Registry σ) (f : Frame m) : Handled σ m → Prop
  | unknown (hh : r.handlers.get? f.id = none) : HandleCase r f ⟨r, f.clearPayload, none, none⟩
  | unreliable {h : Handler σ} (hh : r.handlers.get? f.id = some h)
      (hc : r.channelOf? h f.id = none) :
      HandleCase r f ⟨{ r with handlers := r.handlers.insert f.id (h.invoke f).val.handler },
        (h.invoke f).val.frame, some .unreliable, some (h.invoke f).val.result⟩
  | accepted {h : Handler σ} {c : ChannelState} (hh : r.handlers.get? f.id = some h)
      (hc : r.channelOf? h f.id = some c) (hseq : f.seq = c.expected) :
      HandleCase r f ⟨{ r with
          handlers := r.handlers.insert f.id (h.invoke f).val.handler
          channels := r.channels.insert f.id
            (c.afterAccept f.id (Outcome.ofResult (h.invoke f).val.result)) },
        { (h.invoke f).val.frame with ack := c.expected }, some (.accepted c.expected),
        some (h.invoke f).val.result⟩
  | duplicate {h : Handler σ} {c : ChannelState} (hh : r.handlers.get? f.id = some h)
      (hc : r.channelOf? h f.id = some c) (hseq : f.seq ≠ c.expected) :
      HandleCase r f ⟨r, { f.clearPayload with ack := flipBit c.expected },
        some (.duplicate (flipBit c.expected)), none⟩

theorem handle_cases (r : Registry σ) (f : Frame m) : HandleCase r f (r.handle f).val := by
  cases hh : r.handlers.get? f.id with
  | none =>
    rw [(handle_of_none hh).1]
    exact .unknown hh
  | some h =>
    rw [(handle_of_some hh).1, answer]
    cases hc : r.channelOf? h f.id with
    | none => exact .unreliable hh hc
    | some c =>
      by_cases hseq : f.seq = c.expected
      · have hv := (c.classify_eq_accept_iff f.seq c.expected).mpr ⟨hseq, rfl⟩
        simpa [handleReliable, hv] using HandleCase.accepted hh hc hseq
      · have hv : c.classify f.seq = .duplicate (flipBit c.expected) := if_neg hseq
        simpa [handleReliable, hv] using HandleCase.duplicate hh hc hseq

theorem header_handle (r : Registry σ) (f : Frame m) :
    (r.handle f).val.reply.id = f.id ∧ (r.handle f).val.reply.seq = f.seq := by
  have hcase := r.handle_cases f
  generalize (r.handle f).val = x at hcase ⊢
  cases hcase with
  | unknown | duplicate => exact ⟨rfl, rfl⟩
  | unreliable | accepted => simp [Handler.val_invoke]

/-- A frame leaves the handlers and the channels of other identifiers as they are. -/
theorem get?_handle_other (r : Registry σ) (f : Frame m) (hid : f.id ≠ id) :
    (r.handle f).val.registry.handlers.get? id = r.handlers.get? id ∧
      (r.handle f).val.registry.channels.get? id = r.channels.get? id := by
  have hcase := r.handle_cases f
  generalize (r.handle f).val = x at hcase ⊢
  cases hcase with
  | unknown | duplicate => exact ⟨rfl, rfl⟩
  | unreliable | accepted => simp [IdTable.get?_insert, Ne.symm hid]

theorem invocations_handle_other (r : Registry σ) (f : Frame m) (hid : f.id ≠ id) :
    invocations id (r.handle f).events = [] := by
  cases hh : r.handlers.get? f.id with
  | none => exact (handle_of_none hh).2 id
  | some h =>
    rw [(handle_of_some hh).2, answer]
    cases r.channelOf? h f.id with
    | none => simp [handleUnreliable, Handler.invocations_invoke, hid]
    | some c =>
      cases hv : c.classify f.seq <;>
        simp [handleReliable, hv, Handler.invocations_invoke, Event.invokedOn?, hid]

/-- A frame changes nothing for identifiers other than its own. -/
theorem handle_other (r : Registry σ) (f : Frame m) (hid : f.id ≠ id) :
    (r.handle f).val.registry.isReliable? id = r.isReliable? id ∧
      (r.handle f).val.registry.channelState? id = r.channelState? id ∧
      invocations id (r.handle f).events = [] := by
  obtain ⟨hhandler, hchannel⟩ := r.get?_handle_other f hid
  exact ⟨congrArg (Option.map Handler.reliable) hhandler, hchannel,
    r.invocations_handle_other f hid⟩

namespace Awaits

theorem answer_eq (hr : r.Awaits f.id c) : ∃ h, r.handlers.get? f.id = some h ∧
    h.reliable = true ∧ r.answer h f = r.handleReliable h c f := by
  obtain ⟨h, hh, hreliable⟩ := Option.map_eq_some_iff.mp hr.reliable
  have hc : r.channelOf? h f.id = some c := channelOf?_eq_some_iff.mpr ⟨hreliable, hr.channel⟩
  exact ⟨h, hh, hreliable, by rw [answer, hc]⟩

/-- The frame that the channel waits for reaches the handler and moves the channel on. -/
theorem handle_expected (hr : r.Awaits f.id c) (hseq : f.seq = c.expected) :
    (r.handle f).val.registry.Awaits f.id (c.afterAccept f.id (r.handle f).val.outcome) ∧
      (r.handle f).val.reply.ack = c.expected ∧
      (r.handle f).val.delivery = some (.accepted c.expected) ∧
      invocations f.id (r.handle f).events = [f.payload.toList] := by
  obtain ⟨h, hh, hreliable, hanswer⟩ := hr.answer_eq
  have hv := (c.classify_eq_accept_iff f.seq c.expected).mpr ⟨hseq, rfl⟩
  rw [(handle_of_some hh).1, (handle_of_some hh).2, hanswer]
  refine ⟨⟨?_, ?_⟩, ?_, ?_, ?_⟩
  · simp [handleReliable, hv, isReliable?, IdTable.get?_insert, Handler.val_invoke, hreliable]
  · simp [handleReliable, hv, channelState?, IdTable.get?_insert, Handled.outcome]
  · simp [handleReliable, hv]
  · simp [handleReliable, hv]
  · simp [handleReliable, hv, Handler.invocations_invoke]

/-- Any other frame is a duplicate, which changes nothing. -/
theorem handle_unexpected (hr : r.Awaits f.id c) (hseq : f.seq ≠ c.expected) :
    (r.handle f).val.registry = r ∧
      (r.handle f).val.reply.ack = flipBit c.expected ∧
      (r.handle f).val.delivery = some (.duplicate (flipBit c.expected)) ∧
      invocations f.id (r.handle f).events = [] := by
  obtain ⟨h, hh, -, hanswer⟩ := hr.answer_eq
  have hv : c.classify f.seq = .duplicate (flipBit c.expected) := if_neg hseq
  rw [(handle_of_some hh).1, (handle_of_some hh).2, hanswer]
  simp [handleReliable, hv, Event.invokedOn?]

end Awaits

end Registry

end AltBit

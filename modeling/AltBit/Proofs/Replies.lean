import AltBit.Proofs.Answering
import AltBit.Proofs.Matching

/-!
Each frame has its reply. A dispatcher whose in-memory link does not fail answers the frames that
are waiting one by one, each with one reply that can be told from the handler and the channel that
the frame finds: whose frame it is, which number it acknowledges and what is in it.
-/
namespace AltBit

theorem ChannelState.expected_eq_zero_or_one (c : ChannelState) :
    c.expected = 0 ∨ c.expected = 1 := by
  cases c with
  | awaitingEven => exact .inl rfl
  | awaitingOdd => exact .inr rfl

/-- Of the two sequence numbers the one that is not expected is acknowledged as it is. -/
theorem ChannelState.flipBit_expected (c : ChannelState) {seq : UInt8} (hseq : seq = 0 ∨ seq = 1)
    (hne : seq ≠ c.expected) : flipBit c.expected = seq := by
  cases c with
  | awaitingEven => exact (hseq.resolve_left hne).symm
  | awaitingOdd => exact (hseq.resolve_right hne).symm

variable {σ : Type} [Behaviour σ] {m : Nat}

/-- The payload that a handler leaves behind, whether it fails or not. -/
def Handler.left (h : Handler σ) (payload : Vector UInt8 m) : Vector UInt8 m :=
  (Behaviour.react h.state payload).val.payload

omit [Behaviour σ] in
theorem Handled.polled_ne_idle (h : Handled σ m) : h.polled ≠ .ok .idle := by
  unfold Handled.polled
  cases h.delivery <;> exact fun h => by cases h

namespace Registry
variable {r : Registry σ} {f : Frame m} {h : Handler σ} {c : ChannelState}

/-- What the reply to a frame and the answer of its poll must be, told from the handler and the
channel that the frame finds. -/
structure Owes (r : Registry σ) (f reply : Frame m) (answer : Except DispatchError Polled) :
    Prop where
  header : reply.id = f.id ∧ reply.seq = f.seq
  unregistered : r.handlers.get? f.id = none →
    reply.ack = f.ack ∧ reply.payload = Vector.replicate m 0 ∧
      answer = .error (.unknownIdentifier f.id)
  unreliable : ∀ h, r.handlers.get? f.id = some h → h.reliable = false →
    reply.ack = f.ack ∧ reply.payload = h.left f.payload ∧
      answer = .ok (.delivered f.id .unreliable)
  reliable : ∀ h, r.handlers.get? f.id = some h → h.reliable = true →
    ∃ c, r.channelState? f.id = some c ∧
      reply.ack = (if f.seq = 0 ∨ f.seq = 1 then f.seq else flipBit c.expected) ∧
      if f.seq = c.expected then
        reply.payload = h.left f.payload ∧ answer = .ok (.delivered f.id (.accepted reply.ack))
      else
        reply.payload = Vector.replicate m 0 ∧
          answer = .ok (.delivered f.id (.duplicate reply.ack))

/-- The reply over a reliable handler's channel: the number that is acknowledged is that of the
frame if it can be one, and the payload is the handler's if the frame is new. -/
theorem handleReliable_reply (r : Registry σ) (h : Handler σ) (c : ChannelState) (f : Frame m) :
    let handled := (r.handleReliable h c f).val
    handled.reply.ack = (if f.seq = 0 ∨ f.seq = 1 then f.seq else flipBit c.expected) ∧
      if f.seq = c.expected then
        handled.reply.payload = h.left f.payload ∧
          handled.polled = .ok (.delivered f.id (.accepted handled.reply.ack))
      else
        handled.reply.payload = Vector.replicate m 0 ∧
          handled.polled = .ok (.delivered f.id (.duplicate handled.reply.ack)) := by
  intro handled
  by_cases hseq : f.seq = c.expected
  · have hv : c.classify f.seq = .accept c.expected := if_pos hseq
    have hbit : f.seq = 0 ∨ f.seq = 1 := hseq ▸ c.expected_eq_zero_or_one
    rw [if_pos hbit, if_pos hseq]
    simp [handled, handleReliable, hv, Handler.val_invoke, Handler.left, Handled.polled]
    exact hseq.symm
  · have hv : c.classify f.seq = .duplicate (flipBit c.expected) := if_neg hseq
    have hack : flipBit c.expected =
        if f.seq = 0 ∨ f.seq = 1 then f.seq else flipBit c.expected := by
      split
      next hbit => exact c.flipBit_expected hbit hseq
      next => rfl
    rw [← hack, if_neg hseq]
    simp [handled, handleReliable, hv, Frame.clearPayload, Handled.polled]

theorem Matched.owes_handle (hr : r.Matched) (f : Frame m) :
    r.Owes f (r.handle f).val.reply (r.handle f).val.polled := by
  refine ⟨r.header_handle f, fun hnone => ?_, fun h hh hreliable => ?_, fun h hh hreliable => ?_⟩
  · rw [(handle_of_none hnone).1]
    exact ⟨rfl, rfl, rfl⟩
  · have hchannel := hr.isSome_channelOf? hh
    rw [hreliable, Option.isSome_eq_false_iff, Option.isNone_iff_eq_none] at hchannel
    rw [(handle_of_some hh).1, answer, hchannel]
    simp [handleUnreliable, Handler.val_invoke, Handler.left, Handled.polled]
  · have hchannel := hr.isSome_channelOf? hh
    rw [hreliable] at hchannel
    obtain ⟨c, hc⟩ := Option.isSome_iff_exists.mp hchannel
    rw [(handle_of_some hh).1, answer, hc]
    exact ⟨c, (channelOf?_eq_some_iff.mp hc).2, r.handleReliable_reply h c f⟩

theorem Matched.handleAll (hr : r.Matched) (fs : List (Frame m)) :
    (r.handleAll fs).val.2.Matched := by
  induction fs generalizing r with
  | nil => exact hr
  | cons f fs ih => exact ih (hr.handle f)

end Registry

namespace Dispatcher
variable {d : Dispatcher (Link.Memory m) σ}

/-- Polling until nothing is left gives each frame one reply, in the order of the frames, and each
reply is what the registry owes to the frame when its turn comes. -/
theorem Reachable.one_reply_each (hd : d.Reachable) (hlink : d.link.armed = []) :
    let polls := d.polls d.link.inbound.length
    let last := polls.val.2
    last.poll.val = (.ok .idle, last) ∧ .ok .idle ∉ polls.val.1 ∧
    ∃ replies, last.link.outbound = d.link.outbound ++ replies ∧
      replies.length = d.link.inbound.length ∧
      ∀ k f, d.link.inbound[k]? = some f → ∃ reply answer, replies[k]? = some reply ∧
        polls.val.1[k]? = some answer ∧ (d.polls k).val.2.registry.Owes f reply answer := by
  intro polls last
  have hall : d.link.inbound = d.link.inbound ++ [] := (List.append_nil _).symm
  have hwhole := polls_of_writable hlink hall
  have hlast : last = (d.withRequests []).afterFrames (d.registry.handleAll d.link.inbound).val :=
    congrArg (fun x => x.val.2) hwhole
  have hanswers : polls.val.1 =
      (d.registry.handleAll d.link.inbound).val.1.map Handled.polled :=
    congrArg (fun x => x.val.1) hwhole
  have hregistry (k : Nat) (hk : k ≤ d.link.inbound.length) :
      (d.polls k).val.2.registry = (d.registry.handleAll (d.link.inbound.take k)).val.2 := by
    have hsplit : d.link.inbound = d.link.inbound.take k ++ d.link.inbound.drop k :=
      (List.take_append_drop k _).symm
    have hfirst := polls_of_writable hlink hsplit
    rw [List.length_take_of_le hk] at hfirst
    exact congrArg (fun x => x.val.2.registry) hfirst
  refine ⟨?_, ?_, (d.registry.handleAll d.link.inbound).val.1.map Handled.reply, ?_, ?_, ?_⟩
  · have hcalm : last.link.armed = [] := by rw [hlast]; exact hlink
    have hnone : last.link.inbound = [] := by rw [hlast]; rfl
    have hpoll : last.link.pollFault = none := by
      simp only [Link.Memory.armed, List.append_eq_nil_iff, Option.toList_eq_nil_iff] at hcalm
      exact hcalm.1.1
    rw [poll_of_empty hpoll hnone]
    rfl
  · rw [hanswers]
    intro hidle
    obtain ⟨h, -, hpolled⟩ := List.mem_map.mp hidle
    exact h.polled_ne_idle hpolled
  · rw [hlast]
    rfl
  · rw [List.length_map, Registry.length_handleAll]
  · intro k f hf
    have hk := (List.getElem?_eq_some_iff.mp hf).choose
    have hhandled := d.registry.getElem?_handleAll d.link.inbound k
    rw [hf, Option.map_some] at hhandled
    have hmatched := hd.matched.handleAll (d.link.inbound.take k)
    rw [hregistry k (Nat.le_of_lt hk)]
    refine ⟨_, _, ?_, ?_, hmatched.owes_handle f⟩
    · rw [List.getElem?_map, hhandled, Option.map_some]
    · rw [hanswers, List.getElem?_map, hhandled, Option.map_some]

/-- A reliable handler that counts, one that fails and an unreliable one. -/
def serving : Dispatcher (Link.Memory 2) (Service Rule) :=
  ((new ({} : Link.Memory 2)).val.act (.registerAll
    [⟨5, true, .custom (.count 0)⟩, ⟨8, true, .custom (.fail "no")⟩,
      ⟨6, false, .custom .double⟩])).val

/-- A frame, its repetition and one that is out of range, then an unreliable frame, one that nobody
is registered for and one whose handler fails. -/
theorem one_reply_each_assorted :
    let frames : List (Frame 2) :=
      [⟨5, 0, 7, #v[9, 9]⟩, ⟨5, 0, 7, #v[9, 9]⟩, ⟨5, 9, 7, #v[9, 9]⟩, ⟨6, 3, 4, #v[3, 1]⟩,
        ⟨7, 2, 2, #v[1, 1]⟩, ⟨8, 0, 1, #v[4, 4]⟩]
    let d := (serving.act (.useLink { inbound := frames })).val
    d.Reachable ∧ d.link.armed = [] ∧ ∃ replies : List (Frame 2),
      replies = [⟨5, 0, 0, #v[1, 9]⟩, ⟨5, 0, 0, #v[0, 0]⟩, ⟨5, 9, 0, #v[0, 0]⟩,
        ⟨6, 3, 4, #v[6, 1]⟩, ⟨7, 2, 2, #v[0, 0]⟩, ⟨8, 0, 0, #v[0xEE, 4]⟩] ∧
      ∀ k f, frames[k]? = some f → ∃ reply answer, replies[k]? = some reply ∧
        (d.polls k).val.2.registry.Owes f reply answer := by
  intro frames d
  have hd : d.Reachable := .act (.act (.made _ _ rfl) _) _
  obtain ⟨-, -, replies, houtbound, -, howes⟩ := hd.one_reply_each rfl
  refine ⟨hd, rfl, replies, ?_, fun k f hf => ?_⟩
  · exact houtbound.symm.trans (by decide +kernel)
  · obtain ⟨reply, answer, hreply, -, h⟩ := howes k f hf
    exact ⟨reply, answer, hreply, h⟩

end Dispatcher

end AltBit

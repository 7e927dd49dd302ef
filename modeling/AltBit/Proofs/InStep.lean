import AltBit.Proofs.Ledger
import AltBit.Proofs.Settling

/-!
What ties the two ends of a reliable channel together. While frames are lost, repeated and delayed,
the numbers on their way settle towards the one that the sender uses; a request that carries it
holds one of the payloads submitted since the last acknowledgment; and the handler has been given
one payload out of every group of submissions that an acknowledgment has ended, and at most one of
those not yet acknowledged.
-/
namespace AltBit
variable {m : Nat}

/-- The acknowledgment numbers for `id` in a queue of replies. -/
def acksOf (id : Identifier) (fs : List (Frame m)) : List UInt8 :=
  (fs.filter fun f => f.id = id).map Frame.ack

/-- The sequence numbers for `id` in a queue of requests. -/
def seqsOf (id : Identifier) (fs : List (Frame m)) : List UInt8 :=
  (fs.filter fun f => f.id = id).map Frame.seq

variable {σ : Type}

/-- The two ends of the channel of `id`: the sender uses the number `bit`, the receiver is in state
`c`, and `log` records what has happened. -/
structure InStep (id : Identifier) (bit : UInt8) (c : ChannelState) (ledger : Ledger)
    (log : List Event) (d : Dispatcher (Link.Memory m) σ) : Prop where
  awaits : d.registry.Awaits id c
  settling : Settling bit
    (acksOf id d.link.outbound ++ flipBit c.expected :: seqsOf id d.link.inbound)
  submitted : ∀ f ∈ d.link.inbound, f.id = id → f.seq = bit → f.payload.toList ∈ ledger.pending
  received : ledger.Covers (c.expected ≠ bit) (invocations id log)

namespace InStep
variable {id : Identifier} {bit : UInt8} {c : ChannelState} {ledger : Ledger} {log : List Event}
  {d : Dispatcher (Link.Memory m) σ}

theorem requests (h : InStep id bit c ledger log d) {fs : List (Frame m)}
    (hfs : Disturbed d.link.inbound fs) : InStep id bit c ledger log (d.withRequests fs) where
  awaits := h.awaits
  settling := by
    have hsettling := h.settling
    change Settling bit (acksOf id d.link.outbound ++ flipBit c.expected :: seqsOf id fs)
    rcases hfs.map_filter (fun f => f.id = id) Frame.seq with heq | hseqs
    · rw [seqsOf, heq]
      exact hsettling
    · rw [List.append_cons, ← List.append_nil (_ ++ seqsOf id d.link.inbound)] at hsettling
      rw [List.append_cons, ← List.append_nil (_ ++ seqsOf id fs)]
      exact hsettling.disturbed hseqs
  submitted f hf := h.submitted f (hfs.subset hf)
  received := h.received

theorem replies (h : InStep id bit c ledger log d) {fs : List (Frame m)}
    (hfs : Disturbed d.link.outbound fs) : InStep id bit c ledger log (d.withReplies fs) where
  awaits := h.awaits
  settling := by
    have hsettling := h.settling
    change Settling bit (acksOf id fs ++ flipBit c.expected :: seqsOf id d.link.inbound)
    rcases hfs.map_filter (fun f => f.id = id) Frame.ack with heq | hacks
    · rw [acksOf, heq]
      exact hsettling
    · have hsettling' : Settling bit ([] ++ acksOf id d.link.outbound ++ _) := hsettling
      exact hsettling'.disturbed hacks
  submitted := h.submitted
  received := h.received

variable [Behaviour σ] {d' : Dispatcher (Link.Memory m) σ} {events : List Event} {f : Frame m}

/-- The oldest request `f` arrives, and the reply to it joins those on their way. -/
structure Arrival (d d' : Dispatcher (Link.Memory m) σ) (f : Frame m) (events : List Event) :
    Prop where
  registry : d'.registry = (d.registry.handle f).val.registry
  invoked (id : Identifier) : invocations id events = invocations id (d.registry.handle f).events
  inbound : d.link.inbound = f :: d'.link.inbound
  outbound : d'.link.outbound = d.link.outbound ++ [(d.registry.handle f).val.reply]

theorem submitted_arrival (h : InStep id bit c ledger log d) (ha : Arrival d d' f events) :
    ∀ f ∈ d'.link.inbound, f.id = id → f.seq = bit → f.payload.toList ∈ ledger.pending :=
  fun g hg => h.submitted g (ha.inbound ▸ List.mem_cons_of_mem f hg)

theorem acksOf_arrival (ha : Arrival d d' f events) :
    acksOf f.id d'.link.outbound =
      acksOf f.id d.link.outbound ++ [(d.registry.handle f).val.reply.ack] := by
  simp [ha.outbound, acksOf, (d.registry.header_handle f).1]

theorem arrival_other (h : InStep id bit c ledger log d) (ha : Arrival d d' f events)
    (hf : f.id ≠ id) : InStep id bit c ledger (log ++ events) d' := by
  obtain ⟨hreliable, hchannel, hinvoked⟩ := d.registry.handle_other f hf
  refine ⟨⟨?_, ?_⟩, ?_, h.submitted_arrival ha, ?_⟩
  · rw [ha.registry, hreliable, h.awaits.reliable]
  · rw [ha.registry, hchannel, h.awaits.channel]
  · have hsettling := h.settling
    rw [ha.inbound] at hsettling
    simpa [ha.outbound, acksOf, seqsOf, (d.registry.header_handle f).1, hf] using hsettling
  · rw [invocations_append, ha.invoked, hinvoked, List.append_nil]
    exact h.received

/-- The receiver gets a payload that was submitted since the last acknowledgment, and is ahead. -/
theorem arrival_expected (h : InStep f.id bit c ledger log d) (ha : Arrival d d' f events)
    (hid : f.id ≠ Identifier.sessionControl) (hseq : f.seq = c.expected) :
    InStep f.id bit (c.afterAccept f.id (d.registry.handle f).val.outcome) ledger
      (log ++ events) d' := by
  obtain ⟨hawaits, hack, -, hinvoked⟩ := h.awaits.handle_expected hseq
  have hnext := c.expected_afterAccept (d.registry.handle f).val.outcome hid
  have hsettling := h.settling
  rw [ha.inbound, seqsOf, List.filter_cons_of_pos (by simp), List.map_cons, hseq] at hsettling
  obtain ⟨hbit, hsettling⟩ := hsettling.accept
  have hpayload : f.payload.toList ∈ ledger.pending :=
    h.submitted f (ha.inbound ▸ List.mem_cons_self) rfl (hseq.trans hbit)
  have hbehind : ledger.Covers false (invocations f.id log) := by
    simpa [hbit] using h.received
  refine ⟨ha.registry ▸ hawaits, ?_, h.submitted_arrival ha, ?_⟩
  · rw [acksOf_arrival ha, hack, hnext, flipBit_flipBit, List.append_assoc]
    exact hsettling
  · rw [invocations_append, ha.invoked, hinvoked, hnext, hbit]
    simpa [flipBit_ne] using hbehind.receive hpayload

/-- Any other request on the identifier repeats the one before. -/
theorem arrival_unexpected (h : InStep f.id bit c ledger log d) (ha : Arrival d d' f events)
    (hseq : f.seq ≠ c.expected) : InStep f.id bit c ledger (log ++ events) d' := by
  obtain ⟨hregistry, hack, -, hinvoked⟩ := h.awaits.handle_unexpected hseq
  have hsettling := h.settling
  rw [ha.inbound, seqsOf, List.filter_cons_of_pos (by simp), List.map_cons] at hsettling
  refine ⟨?_, ?_, h.submitted_arrival ha, ?_⟩
  · rw [ha.registry, hregistry]
    exact h.awaits
  · rw [acksOf_arrival ha, hack, List.append_assoc]
    rw [hsettling.other hseq] at hsettling
    exact hsettling
  · rw [invocations_append, ha.invoked, hinvoked, List.append_nil]
    exact h.received

theorem arrival (h : InStep id bit c ledger log d) (ha : Arrival d d' f events)
    (hid : id ≠ Identifier.sessionControl) : ∃ c, InStep id bit c ledger (log ++ events) d' := by
  by_cases hf : f.id = id
  · subst hf
    by_cases hseq : f.seq = c.expected
    · exact ⟨_, h.arrival_expected ha hid hseq⟩
    · exact ⟨c, h.arrival_unexpected ha hseq⟩
  · exact ⟨c, h.arrival_other ha hf⟩

/-- A poll answers the oldest request; a request or a reply may be lost on the way. -/
theorem poll (h : InStep id bit c ledger log d) (hid : id ≠ Identifier.sessionControl) :
    ∃ c, InStep id bit c ledger (log ++ d.poll.events) d.poll.val.2 := by
  rcases d.poll_cases with ⟨hregistry, hinvoked, hinbound, houtbound⟩ |
    ⟨f, hregistry, hinvoked, hinbound, houtbound⟩
  · refine ⟨c, ?_, ?_, ?_, ?_⟩
    · rw [hregistry]
      exact h.awaits
    · rw [houtbound]
      refine h.settling.sublist (List.Sublist.append_left (List.Sublist.cons_cons _ ?_) _)
      exact (hinbound.filter _).map _
    · exact fun f hf => h.submitted f (hinbound.subset hf)
    · rw [invocations_append, hinvoked, List.append_nil]
      exact h.received
  · rcases houtbound with hlost | hkept
    · let reply := (d.registry.handle f).val.reply
      let answered := d.poll.val.2.withReplies (d.link.outbound ++ [reply])
      have ha : Arrival d answered f d.poll.events := ⟨hregistry, hinvoked, hinbound, rfl⟩
      obtain ⟨c', h'⟩ := h.arrival ha hid
      have hdisturbed := h'.replies (.lost d.link.outbound reply [])
      rw [List.append_nil, ← hlost] at hdisturbed
      exact ⟨c', hdisturbed⟩
    · exact h.arrival ⟨hregistry, hinvoked, hinbound, hkept⟩ hid

theorem transit (h : InStep id bit c ledger log d) (ht : d.Transit events d')
    (hid : id ≠ Identifier.sessionControl) : ∃ c, InStep id bit c ledger (log ++ events) d' := by
  induction ht with
  | still =>
    rw [List.append_nil]
    exact ⟨c, h⟩
  | requests _ hfs ih =>
    obtain ⟨c', h'⟩ := ih
    exact ⟨c', h'.requests hfs⟩
  | replies _ hfs ih =>
    obtain ⟨c', h'⟩ := ih
    exact ⟨c', h'.replies hfs⟩
  | poll _ ih =>
    obtain ⟨c', h'⟩ := ih
    rw [← List.append_assoc]
    exact h'.poll hid

omit [Behaviour σ]

theorem submit (h : InStep id bit c ledger log d) (payload : List UInt8) :
    InStep id bit c (ledger.submit payload) log d where
  awaits := h.awaits
  settling := h.settling
  submitted f hf hid hseq := List.mem_append_left _ (h.submitted f hf hid hseq)
  received := h.received.submit payload

/-- A request is sent that carries the number in use, if it is one on this identifier. -/
theorem send (h : InStep id bit c ledger log d)
    (hf : f.id = id → f.seq = bit ∧ f.payload.toList ∈ ledger.pending) :
    InStep id bit c ledger log (d.withRequests (d.link.inbound ++ [f])) where
  awaits := h.awaits
  settling := by
    have hsettling := h.settling
    change Settling bit (acksOf id d.link.outbound ++
      flipBit c.expected :: seqsOf id (d.link.inbound ++ [f]))
    by_cases hid : f.id = id
    · have hseqs : seqsOf id (d.link.inbound ++ [f]) = seqsOf id d.link.inbound ++ [bit] := by
        simp [seqsOf, hid, (hf hid).1]
      rw [hseqs, ← List.cons_append, ← List.append_assoc]
      exact hsettling.concat
    · have hseqs : seqsOf id (d.link.inbound ++ [f]) = seqsOf id d.link.inbound := by
        simp [seqsOf, hid]
      rwa [hseqs]
  submitted g hg hid hseq := by
    rcases List.mem_append.mp hg with hg | hg
    · exact h.submitted g hg hid hseq
    · obtain rfl := List.mem_singleton.mp hg
      exact (hf hid).2
  received := h.received

theorem ignore (h : InStep id bit c ledger log d) {rest : List (Frame m)}
    (hd : d.link.outbound = f :: rest) : InStep id bit c ledger log (d.withReplies rest) :=
  h.replies (hd ▸ .lost [] f rest)

/-- The reply that acknowledges the number in use ends the group of submissions, and the sender can
use the other number. -/
theorem acknowledged (h : InStep id bit c ledger log d) {rest : List (Frame m)}
    (hd : d.link.outbound = f :: rest) (hid : f.id = id) (hack : f.ack = bit) :
    InStep id (flipBit bit) c ledger.acknowledge log (d.withReplies rest) := by
  have hsettling := h.settling
  rw [hd, acksOf, List.filter_cons_of_pos (by simpa using hid), List.map_cons, hack,
    List.cons_append] at hsettling
  have hall := hsettling.of_head
  have hexpected : c.expected = flipBit bit := by
    rw [← hall (flipBit c.expected) (by simp), flipBit_flipBit]
  refine ⟨h.awaits, Settling.flip hall, ?_, ?_⟩
  · intro g hg hgid hgseq
    have hmem : g.seq ∈ seqsOf id d.link.inbound :=
      List.mem_map_of_mem (List.mem_filter.mpr ⟨hg, by simpa using hgid⟩)
    have hold := hall g.seq (by simp [hmem])
    exact absurd (hgseq.symm.trans hold) (flipBit_ne bit)
  · have hahead : ledger.Covers true (invocations id log) := by
      simpa [hexpected, flipBit_ne] using h.received
    simpa [hexpected] using hahead.acknowledge

end InStep

end AltBit

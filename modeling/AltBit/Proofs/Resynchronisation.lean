import AltBit.Proofs.ExactlyOnce
import AltBit.Proofs.Lossy.Peer
import AltBit.Proofs.Replies

/-!
Two ends that are out of step. Over a link that only loses frames, a sender may start with the
number that the receiver does not expect, as it does when one of them has been restarted. Its first
payload is then taken for a repetition and acknowledged without being processed, and from there on
both ends agree: every further payload is processed once and in order.
-/
namespace AltBit
open Traced

variable {T σ : Type} {m : Nat} {id : Identifier} {r : Registry σ}

/-- A reliable handler is registered for `id`, its channel waits for `bit`, and it has been given
`payloads`. -/
def Awaiting (id : Identifier) (bit : UInt8) (payloads : List (List UInt8)) : Stage σ :=
  fun r given => (∃ c, r.Awaits id c ∧ c.expected = bit) ∧ given = payloads

/-- The payload of a call as it is sent. -/
def Call.padded (m : Nat) (call : Call) : List UInt8 := (zeroPadded m call.payload).toList

variable [Behaviour σ]

namespace Awaiting
variable {bit : UInt8} {payloads given : List (List UInt8)} {f : Frame m}

theorem handle_expected (h : Awaiting f.id f.seq payloads r given)
    (hid : f.id ≠ Identifier.sessionControl) :
    Awaiting f.id (flipBit f.seq) (payloads ++ [f.payload.toList]) (r.handle f).val.registry
      (given ++ invocations f.id (r.handle f).events) := by
  obtain ⟨⟨c, hawaits, hseq⟩, rfl⟩ := h
  obtain ⟨hnext, -, -, hinvoked⟩ := hawaits.handle_expected hseq.symm
  refine ⟨⟨_, hnext, ?_⟩, by rw [hinvoked]⟩
  rw [c.expected_afterAccept _ hid, hseq]

theorem handle_unexpected (h : Awaiting f.id bit payloads r given) (hseq : f.seq ≠ bit) :
    Awaiting f.id bit payloads (r.handle f).val.registry
      (given ++ invocations f.id (r.handle f).events) := by
  obtain ⟨⟨c, hawaits, rfl⟩, rfl⟩ := h
  obtain ⟨hsame, -, -, hinvoked⟩ := hawaits.handle_unexpected hseq
  rw [hsame, hinvoked, List.append_nil]
  exact ⟨⟨c, hawaits, rfl⟩, rfl⟩

/-- A request is processed if its number is the one that is waited for; in either case the other
number is waited for then, and the same request is not processed again. -/
theorem brings (hid : f.id ≠ Identifier.sessionControl) (hbit : bit = f.seq ∨ bit = flipBit f.seq)
    (payloads : List (List UInt8)) :
    Brings (σ := σ) f.id f (Awaiting f.id bit payloads) (Awaiting f.id (flipBit f.seq)
      (payloads ++ if f.seq = bit then [f.payload.toList] else [])) where
  first h := by
    rcases hbit with rfl | rfl
    · rw [if_pos rfl]
      exact h.handle_expected hid
    · have hne : f.seq ≠ flipBit f.seq := (flipBit_ne f.seq).symm
      rw [if_neg hne, List.append_nil]
      exact h.handle_unexpected hne
  again h := h.handle_unexpected (flipBit_ne f.seq).symm

end Awaiting

namespace Sender
variable [Link T m] [Remote T σ] {P : T → Prop} {s : Sender T} {bit : UInt8}
  {payloads : List (List UInt8)}

/-- The link only loses frames and none is on its way; the far end waits for `bit` and its handler
has been given `payloads`. -/
def Faces (P : T → Prop) (id : Identifier) (bit : UInt8) (payloads : List (List UInt8))
    (s : Sender T) : List Event → Prop :=
  Across P (Rested id (Awaiting id bit payloads)) s.link

theorem faces_sendReliable (hP : Lossy P) (hid : id ≠ Identifier.sessionControl)
    (hbit : bit = s.nextSeq id ∨ bit = flipBit (s.nextSeq id)) (rounds : Nat)
    (payload : List UInt8) :
    Triple (s.Faces P id bit payloads) (s.sendReliable rounds id payload) fun x log =>
      isReply x.1 = true → x.2.nextSeq id = flipBit (s.nextSeq id) ∧
        x.2.Faces P id (x.2.nextSeq id) (payloads ++
          if s.nextSeq id = bit then [(zeroPadded m payload).toList] else []) log := by
  let f : Frame m := ⟨id, s.nextSeq id, 0, zeroPadded m payload⟩
  have hbrings := Awaiting.brings (σ := σ) (f := f) hid hbit payloads
  rintro log ⟨hlink, hempty, hawaiting⟩ hreply
  have hsent := Sends.sendReliable (fun _ => hP.sends hbrings) rounds log
    ⟨hlink, hempty, .inl hawaiting⟩
  rcases hx : (s.sendReliable rounds id payload).val with ⟨_ | e | r, s'⟩
  · simp [hx, isReply] at hreply
  · simp [hx, isReply] at hreply
  · rw [hx] at hsent
    have hnext : s'.nextSeq id = flipBit (s.nextSeq id) := by
      rw [hsent.nextSeq, if_pos rfl]
    rw [hnext]
    exact ⟨rfl, hsent.2⟩

theorem faces_cons (hP : Lossy P) (hid : id ≠ Identifier.sessionControl)
    (hbit : bit = s.nextSeq id ∨ bit = flipBit (s.nextSeq id)) {call : Call} (hcall : call.id = id)
    {calls : List Call}
    (hrest : ∀ (s : Sender T) (payloads : List (List UInt8)),
      Triple (s.Faces P id (s.nextSeq id) payloads) (s.sendAll calls) fun x log =>
        (∀ sub ∈ x.1, sub.isAcknowledged = true) →
          x.2.Faces P id (x.2.nextSeq id) (payloads ++ calls.map (Call.padded m)) log) :
    Triple (s.Faces P id bit payloads) (s.sendAll (call :: calls)) fun x log =>
      (∀ sub ∈ x.1, sub.isAcknowledged = true) →
        x.2.Faces P id (x.2.nextSeq id) (payloads ++
          ((if s.nextSeq id = bit then [call.padded m] else []) ++ calls.map (Call.padded m)))
          log := by
  subst hcall
  intro log hfaces hall
  obtain ⟨hreply, hsubs⟩ := List.forall_mem_cons.mp hall
  obtain ⟨-, hfirst⟩ := faces_sendReliable hP hid hbit call.rounds call.payload log hfaces hreply
  have hafter := hrest _ _ _ hfirst hsubs
  have hevents : (s.sendAll (call :: calls)).events =
      (s.sendReliable call.rounds call.id call.payload).events ++
        ((s.sendReliable call.rounds call.id call.payload).val.2.sendAll calls).events := by
    simp [sendAll]
  rw [hevents, ← List.append_assoc, ← List.append_assoc]
  exact hafter

/-- Ends in step stay so, and each acknowledged payload is processed. -/
theorem faces_sendAll (hP : Lossy P) (hid : id ≠ Identifier.sessionControl) (calls : List Call)
    (hcalls : ∀ call ∈ calls, call.id = id) (s : Sender T) (payloads : List (List UInt8)) :
    Triple (s.Faces P id (s.nextSeq id) payloads) (s.sendAll calls) fun x log =>
      (∀ sub ∈ x.1, sub.isAcknowledged = true) →
        x.2.Faces P id (x.2.nextSeq id) (payloads ++ calls.map (Call.padded m)) log := by
  induction calls generalizing s payloads with
  | nil => exact Triple.pure fun _ hlog _ => by simpa using hlog
  | cons call calls ih =>
    obtain ⟨hcall, hrest⟩ := List.forall_mem_cons.mp hcalls
    have hrun : Triple (s.Faces P id (s.nextSeq id) payloads) (s.sendAll (call :: calls)) _ :=
      faces_cons hP hid (.inl rfl) hcall (ih hrest)
    rw [if_pos rfl] at hrun
    exact hrun

omit [Behaviour σ] [Remote T σ] in
theorem sendAll_take (calls : List Call) (s : Sender T) (k : Nat) :
    (s.sendAll (calls.take k)).val.1 = (s.sendAll calls).val.1.take k := by
  induction calls generalizing s k with
  | nil => simp [sendAll]
  | cons call calls ih =>
    cases k with
    | zero => rfl
    | succ k => exact congrArg (_ :: ·) (ih _ k)

/-- Whatever number the sender starts with and whichever one the receiver expects, if all calls are
acknowledged, all payloads but the first are processed, once each and in order, and the first is
too if the two numbers agree; from the first call on they do. -/
theorem resynchronises (hP : Lossy P) (hlink : P s.link) (hempty : (Remote.far s.link).link.Empty)
    (hid : id ≠ Identifier.sessionControl) {c : ChannelState}
    (hawaits : (Remote.far s.link).registry.Awaits id c)
    (hbit : s.nextSeq id = 0 ∨ s.nextSeq id = 1) {calls : List Call}
    (hcalls : ∀ call ∈ calls, call.id = id)
    (hacknowledged : ∀ sub ∈ (s.sendAll calls).val.1, sub.isAcknowledged = true) :
    let payloads := calls.map (Call.padded m)
    invocations id (s.sendAll calls).events =
        (if s.nextSeq id = c.expected then payloads else payloads.tail) ∧
      ∀ k, 0 < k → k ≤ calls.length →
        let after := (s.sendAll (calls.take k)).val.2
        ∃ c', (Remote.far after.link).registry.Awaits id c' ∧
          after.nextSeq id = c'.expected := by
  intro payloads
  have hstart : s.Faces P id c.expected [] [] := ⟨hlink, hempty, ⟨c, hawaits, rfl⟩, rfl⟩
  have hexpected : c.expected = s.nextSeq id ∨ c.expected = flipBit (s.nextSeq id) := by
    by_cases hseq : s.nextSeq id = c.expected
    · exact .inl hseq.symm
    · right
      rw [← c.flipBit_expected hbit hseq, flipBit_flipBit]
  cases calls with
  | nil => exact ⟨by simp [sendAll, payloads], fun k hpos hk => absurd hk (Nat.not_le.mpr hpos)⟩
  | cons call calls =>
    obtain ⟨hcall, hrest⟩ := List.forall_mem_cons.mp hcalls
    constructor
    · obtain ⟨-, -, -, hgiven⟩ := faces_cons hP hid hexpected hcall
        (faces_sendAll hP hid calls hrest) [] hstart hacknowledged
      rw [List.nil_append, List.nil_append] at hgiven
      rw [hgiven]
      split <;> rfl
    · intro k hpos _
      obtain ⟨k, rfl⟩ := Nat.exists_eq_succ_of_ne_zero (Nat.ne_of_gt hpos)
      have hprefix : ∀ sub ∈ (s.sendAll ((call :: calls).take (k + 1))).val.1,
          sub.isAcknowledged = true := by
        rw [sendAll_take]
        exact fun sub hsub => hacknowledged sub (List.mem_of_mem_take hsub)
      have hrest' : ∀ call ∈ calls.take k, call.id = id :=
        fun call hcall => hrest call (List.mem_of_mem_take hcall)
      obtain ⟨-, -, ⟨c', hawaits', hseq⟩, -⟩ := faces_cons hP hid hexpected hcall
        (faces_sendAll hP hid (calls.take k) hrest') [] hstart hprefix
      exact ⟨c', hawaits', hseq.symm⟩

/-- The sender starts with one where zero is expected; a request and two replies get lost. -/
theorem resynchronises_sample :
    let s := { sample [{ copies := 0 }, {}, { arrivals := 0 }, { copies := 0 }] with
      config := ⟨.zero, 3, .zero⟩ }.setNextSeq 5 1
    let calls : List Call := [⟨3, 5, [7]⟩, ⟨3, 5, [8]⟩, ⟨3, 5, [9]⟩]
    s.nextSeq 5 = 1 ∧ (∀ sub ∈ (s.sendAll calls).val.1, sub.isAcknowledged = true) ∧
      invocations 5 (s.sendAll calls).events = [[8, 0], [9, 0]] := by
  intro s calls
  have hlink : s.link.OnlyLoses := ⟨by decide, rfl, rfl, rfl, rfl⟩
  have hacknowledged : ∀ sub ∈ (s.sendAll calls).val.1, sub.isAcknowledged = true := by
    decide +kernel
  have hawaits : (Remote.far s.link).registry.Awaits 5 .awaitingEven :=
    ⟨by decide +kernel, by decide +kernel⟩
  have hbit : s.nextSeq 5 = 1 := by decide +kernel
  obtain ⟨hprocessed, -⟩ := resynchronises Link.Peer.lossy hlink ⟨rfl, rfl⟩ (by decide) hawaits
    (.inr hbit) (by decide) hacknowledged
  rw [hbit] at hprocessed
  exact ⟨hbit, hacknowledged, hprocessed⟩

end Sender

end AltBit

import AltBit.Proofs.Triple
import AltBit.Sender

/-!
Rules for sending. What the link and the record have to satisfy is said once: what holds while a
reply is awaited, what holds whenever the link has nothing to be read, and what is wanted once an
acceptable reply has been read; events of the sender do not matter. The wait, the attempts of a
reliable send and the send itself then keep to it too.
-/
namespace AltBit
open Traced

variable {T : Type} {m : Nat}

theorem Sender.nextSeq_congr {s s' : Sender T} (h : s.sequence = s'.sequence) (id : Identifier) :
    s.nextSeq id = s'.nextSeq id := by
  simp only [nextSeq, h]

variable [Link T m]

/-- Whether what is recorded besides invocations does not matter. -/
def Silent (I : T → List Event → Prop) : Prop :=
  ∀ {t log e}, (∀ id, e.invokedOn? id = none) → I t log → I t (log ++ [e])

/-- While a sender waits for a reply to `id`, the link and the record satisfy `I`; they satisfy `J`
if there is nothing to be read or the link fails, and `G` once an acceptable reply has been read. -/
structure Waits (id : Identifier) (accepts : Frame m → Bool) (I J : T → List Event → Prop)
    (G : Frame m → T → List Event → Prop) : Prop where
  available (t : T) : Triple (I t) (Link.available t) fun x log =>
    match Link.settle false x.1 with
    | .ok true => I x.2 log
    | _ => J x.2 log
  read (t : T) : Triple (I t) (Link.read t) fun x log =>
    match x.1 with
    | .ok f => if f.id == id && accepts f then G f x.2 log else I x.2 log
    | .error e => if e.isWouldBlock then I x.2 log else J x.2 log
  idle {t : T} {log : List Event} : J t log → I t log
  silent : Silent I

namespace Waits
variable {id : Identifier} {accepts : Frame m → Bool} {I J : T → List Event → Prop}
  {G : Frame m → T → List Event → Prop} {t : T}

/-- An invariant that looking for replies keeps. -/
theorem ofInvariant (available : ∀ t, Triple (I t) (Link.available t) fun x => I x.2)
    (read : ∀ t, Triple (I t) (Link.read t) fun x log =>
      match x.1 with
      | .ok r => if r.id == id && accepts r then G r x.2 log else I x.2 log
      | .error _ => I x.2 log)
    (silent : Silent I) : Waits id accepts I I G where
  available t log h := by
    have hafter := available t log h
    dsimp only
    split <;> exact hafter
  read t log h := by
    have hafter := read t log h
    cases hread : (Link.read t).val.1 with
    | ok r => simpa [hread] using hafter
    | error e => simpa [hread] using hafter
  idle h := h
  silent := silent

theorem isReady (h : Waits id accepts I J G) :
    Triple (I t) (Link.isReady t) fun x log =>
      match x.1 with
      | .ok true => I x.2 log
      | _ => J x.2 log :=
  Triple.bind (h.available t) fun _ => Triple.pure fun _ hlog => hlog

theorem receive (h : Waits id accepts I J G) :
    Triple (I t) (Link.receive t) fun x log =>
      match x.1 with
      | .ok (some f) => if f.id == id && accepts f then G f x.2 log else I x.2 log
      | .ok none => I x.2 log
      | .error _ => J x.2 log := by
  refine Triple.bind (h.read t) ?_
  rintro ⟨r, t'⟩
  cases r with
  | ok f => exact Triple.pure fun _ hlog => hlog
  | error e =>
    cases he : e.isWouldBlock <;>
      exact Triple.pure fun _ hlog => by simpa [Link.settle, Except.map, he] using hlog

/-- How a wait ends: the numbers in use stay as they are. -/
def Ended (I J : T → List Event → Prop) (G : Frame m → T → List Event → Prop)
    (sequence : Vector UInt8 256) (x : Awaited m × Sender T) (log : List Event) : Prop :=
  x.2.sequence = sequence ∧
    match x.1 with
    | .reply f => G f x.2.link log
    | .unfinished | .failed .deadlineUnreachable => I x.2.link log
    | .expired | .failed _ => J x.2.link log

theorem awaitUntil (h : Waits id accepts I J G) (deadline : Instant) (rounds : Nat)
    (s : Sender T) :
    Triple (I s.link) (s.awaitUntil id accepts deadline rounds) (Ended I J G s.sequence) := by
  induction rounds generalizing s with
  | zero => exact Triple.pure fun _ hlog => ⟨rfl, hlog⟩
  | succ rounds ih =>
    refine Triple.bind h.isReady ?_
    rintro ⟨ready, t⟩
    cases ready with
    | error e => exact Triple.pure fun _ hlog => ⟨rfl, hlog⟩
    | ok b =>
      cases b with
      | false =>
        dsimp only
        split
        · exact Triple.pure fun _ hlog => ⟨rfl, hlog⟩
        · exact Triple.of_imp (fun _ => h.idle) (ih { s with link := t, clock := s.clock.read.2 })
      | true =>
        refine Triple.bind h.receive ?_
        rintro ⟨frame, t'⟩
        cases frame with
        | error e => exact Triple.pure fun _ hlog => ⟨rfl, hlog⟩
        | ok f =>
          cases f with
          | none => exact ih { s with link := t' }
          | some f =>
            cases hf : f.id == id && accepts f with
            | true =>
              simp only [hf, if_true]
              exact Triple.pure fun _ hlog => ⟨rfl, hlog⟩
            | false =>
              simp only [hf, Bool.false_eq_true, if_false]
              have hstale (log : List Event) (hlog : I t' log) :
                  I t' (log ++ [.staleReply f.id f.seq f.ack]) := h.silent (fun _ => rfl) hlog
              exact Triple.bind (Triple.emit hstale) fun _ => ih { s with link := t' }

theorem awaitReply (h : Waits id accepts I J G) (rounds : Nat) (window : Duration)
    (s : Sender T) :
    Triple (I s.link) (s.awaitReply rounds id window accepts) (Ended I J G s.sequence) := by
  unfold Sender.awaitReply
  dsimp only
  split
  · exact Triple.pure fun _ hlog => ⟨rfl, hlog⟩
  · exact h.awaitUntil _ rounds { s with clock := s.clock.read.2 }

end Waits

/-- `J` holds between the attempts to send `f`, `I` while one of them is awaited, and `G` once it is
acknowledged. -/
structure Sends (f : Frame m) (I J : T → List Event → Prop) (G : Frame m → T → List Event → Prop) :
    Prop extends Waits f.id (fun r => r.ack == f.seq) I J G where
  write (t : T) : Triple (J t) (Link.write t f) fun x log =>
    match x.1 with
    | .ok _ => I x.2 log
    | .error _ => J x.2 log
  between : Silent J
  settled (r : Frame m) : Silent (G r)

namespace Sends
variable {f : Frame m} {I J : T → List Event → Prop} {G : Frame m → T → List Event → Prop}

/-- An invariant that all operations of the link keep. -/
theorem ofInvariant (available : ∀ t, Triple (I t) (Link.available t) fun x => I x.2)
    (read : ∀ t, Triple (I t) (Link.read t) fun x log =>
      match x.1 with
      | .ok r => if r.id == f.id && r.ack == f.seq then G r x.2 log else I x.2 log
      | .error _ => I x.2 log)
    (write : ∀ t, Triple (I t) (Link.write t f) fun x => I x.2)
    (silent : Silent I) (settled : ∀ r, Silent (G r)) : Sends f I I G where
  toWaits := .ofInvariant available read silent
  write t log h := by
    have hafter := write t log h
    dsimp only
    split <;> exact hafter
  between := silent
  settled := settled

/-- How a send ends: only an acknowledged frame changes the number in use. -/
def Sent (f : Frame m) (I J : T → List Event → Prop) (G : Frame m → T → List Event → Prop)
    (sequence : Vector UInt8 256) (x : Option (Except SendError (Frame m)) × Sender T)
    (log : List Event) : Prop :=
  match x.1 with
  | some (.ok r) => x.2.sequence = sequence.set f.id.toNat (flipBit f.seq) f.id.toNat_lt ∧
      G r x.2.link log
  | none | some (.error .deadlineUnreachable) => x.2.sequence = sequence ∧ I x.2.link log
  | some (.error _) => x.2.sequence = sequence ∧ J x.2.link log

omit [Link T m] in
theorem Sent.nextSeq {s s' : Sender T} {r : Frame m} {log : List Event}
    (hsent : Sent f I J G s.sequence (some (.ok r), s') log) (id : Identifier) :
    s'.nextSeq id = if id = f.id then flipBit f.seq else s.nextSeq id := by
  have hset : s'.nextSeq id = (s.setNextSeq f.id (flipBit f.seq)).nextSeq id :=
    Sender.nextSeq_congr hsent.1 id
  rw [hset, Sender.nextSeq_setNextSeq]

theorem sent_error (h : Sends f I J G) {sequence : Vector UInt8 256} {e : SendError}
    {s : Sender T} {log : List Event} (hsent : Sent f I J G sequence (some (.error e), s) log) :
    s.sequence = sequence ∧ I s.link log := by
  cases e with
  | deadlineUnreachable => exact hsent
  | link _ | frame _ | exhausted _ _ _ | timeout _ => exact ⟨hsent.1, h.idle hsent.2⟩

theorem transmit (h : Sends f I J G) (rounds attempt left : Nat) (s : Sender T) :
    Triple (J s.link) (s.transmit rounds f attempt left) (Sent f I J G s.sequence) := by
  induction left generalizing attempt s with
  | zero => exact Triple.pure fun _ hlog => ⟨rfl, hlog⟩
  | succ left ih =>
    refine Triple.bind (h.write s.link) ?_
    rintro ⟨written, t⟩
    cases written with
    | error e => exact Triple.pure fun _ hlog => ⟨rfl, hlog⟩
    | ok _ =>
      refine Triple.bind (Triple.emit (Q := fun _ => I t)
        fun _ hlog => h.silent (fun _ => rfl) hlog) fun _ => ?_
      refine Triple.bind (h.awaitReply rounds s.config.retransmitAfter { s with link := t }) ?_
      rintro ⟨awaited, s'⟩
      cases awaited with
      | unfinished => exact Triple.pure fun _ hlog => hlog
      | failed e => cases e <;> exact Triple.pure fun _ hlog => hlog
      | reply r =>
        refine Triple.bind (Triple.emit (Q := fun _ => Waits.Ended I J G s.sequence (.reply r, s'))
          fun log hlog => ⟨hlog.1, h.settled r (fun _ => rfl) hlog.2⟩) fun _ => ?_
        refine Triple.pure fun _ hlog => ⟨?_, hlog.2⟩
        rw [Sender.setNextSeq, hlog.1]
      | expired =>
        refine Triple.of_and fun hsequence => ?_
        have hagain := ih (attempt + 1) s'
        rw [hsequence] at hagain
        have hretransmitting : Triple (J s'.link)
            (Traced.emit (.retransmitting f.id f.seq attempt)) fun _ => J s'.link :=
          Triple.emit fun _ hlog => h.between (fun _ => rfl) hlog
        dsimp only
        split
        · exact Triple.bind hretransmitting fun _ => hagain
        · exact hagain

end Sends

namespace Sender

variable {id : Identifier} {payload : List UInt8}

theorem sendReliable_of_le (h : payload.length ≤ m) (rounds : Nat) (s : Sender T) :
    s.sendReliable (m := m) rounds id payload =
      s.transmit rounds ⟨id, s.nextSeq id, 0, zeroPadded m payload⟩ 1 s.config.attempts := by
  rw [sendReliable, Frame.build, if_pos h]

theorem sendReliable_of_not_le (h : ¬ payload.length ≤ m) (rounds : Nat) (s : Sender T) :
    s.sendReliable (m := m) rounds id payload =
      pure (some (.error (.frame (.payloadTooLarge payload.length m))), s) := by
  rw [sendReliable, Frame.build, if_neg h]

end Sender

/-- A payload that does not fit leaves everything as it is. -/
theorem Sends.sendReliable {id : Identifier} {payload : List UInt8} {s : Sender T}
    {I J : T → List Event → Prop} {G : Frame m → T → List Event → Prop}
    (h : payload.length ≤ m → Sends ⟨id, s.nextSeq id, 0, zeroPadded m payload⟩ I J G)
    (rounds : Nat) :
    Triple (J s.link) (s.sendReliable rounds id payload)
      (Sent ⟨id, s.nextSeq id, 0, zeroPadded m payload⟩ I J G s.sequence) := by
  by_cases hfits : payload.length ≤ m
  · rw [Sender.sendReliable_of_le hfits]
    exact (h hfits).transmit rounds 1 s.config.attempts s
  · rw [Sender.sendReliable_of_not_le hfits]
    exact Triple.pure fun _ hlog => ⟨rfl, hlog⟩

theorem Sender.sendUnreliable_of_not_le {id : Identifier} {payload : List UInt8}
    (h : ¬ payload.length ≤ m) (rounds : Nat) (s : Sender T) :
    s.sendUnreliable (m := m) rounds id payload =
      pure (some (.error (.frame (.payloadTooLarge payload.length m))), s) := by
  rw [sendUnreliable, Frame.build, if_neg h]

namespace Waits
variable {id : Identifier} {payload : List UInt8} {I₀ I : T → List Event → Prop}
  {G : Frame m → T → List Event → Prop}

/-- How an unreliable send ends: the numbers in use stay as they are, and unless there is a reply,
the frame may have been written or not. -/
def Exchanged (I₀ I : T → List Event → Prop) (G : Frame m → T → List Event → Prop)
    (sequence : Vector UInt8 256) (x : Option (Except SendError (Frame m)) × Sender T)
    (log : List Event) : Prop :=
  x.2.sequence = sequence ∧
    match x.1 with
    | some (.ok r) => G r x.2.link log
    | none | some (.error _) => I₀ x.2.link log ∨ I x.2.link log

/-- An unreliable send writes once, unless the payload does not fit, and takes the first reply. -/
theorem exchange (h : Waits id (fun _ : Frame m => true) I I G)
    (write : ∀ t, Triple (I₀ t) (Link.write t (⟨id, 0, 0, zeroPadded m payload⟩ : Frame m))
      fun x => I x.2)
    (rounds : Nat) (s : Sender T) :
    Triple (I₀ s.link) (s.sendUnreliable (m := m) rounds id payload)
      (Exchanged I₀ I G s.sequence) := by
  by_cases hfits : payload.length ≤ m
  · rw [Sender.sendUnreliable, Frame.build, if_pos hfits]
    refine Triple.bind (write s.link) ?_
    rintro ⟨written, t⟩
    cases written with
    | error e => exact Triple.pure fun _ hlog => ⟨rfl, .inr hlog⟩
    | ok _ =>
      refine Triple.bind (Triple.emit (Q := fun _ => I t)
        fun _ hlog => h.silent (fun _ => rfl) hlog) fun _ => ?_
      refine Triple.bind (h.awaitReply rounds s.config.totalWait { s with link := t }) ?_
      rintro ⟨awaited, s'⟩
      cases awaited with
      | reply _ => exact Triple.pure fun _ hlog => hlog
      | expired | unfinished => exact Triple.pure fun _ hlog => ⟨hlog.1, .inr hlog.2⟩
      | failed e => exact Triple.pure fun _ hlog => ⟨hlog.1, .inr (by cases e <;> exact hlog.2)⟩
  · rw [Sender.sendUnreliable_of_not_le hfits]
    exact Triple.pure fun _ hlog => ⟨rfl, .inl hlog⟩

/-- An invariant that the operations of the link keep is kept by an unreliable send. -/
theorem sendUnreliable (h : Waits id (fun _ : Frame m => true) I I fun _ => I)
    (write : ∀ t, Triple (I t) (Link.write t (⟨id, 0, 0, zeroPadded m payload⟩ : Frame m))
      fun x => I x.2)
    (rounds : Nat) (s : Sender T) :
    Triple (I s.link) (s.sendUnreliable (m := m) rounds id payload) fun x log =>
      x.2.sequence = s.sequence ∧ I x.2.link log := by
  intro log hlog
  have hsent := h.exchange write rounds s log hlog
  rcases hx : (s.sendUnreliable (m := m) rounds id payload).val with ⟨_ | e | r, s'⟩
  · rw [hx] at hsent
    exact ⟨hsent.1, or_self_iff.mp hsent.2⟩
  · rw [hx] at hsent
    exact ⟨hsent.1, or_self_iff.mp hsent.2⟩
  · rw [hx] at hsent
    exact hsent

end Waits

end AltBit

import AltBit.Proofs.ExactlyOnce
import AltBit.Proofs.Matching
import AltBit.Proofs.Remote

/-!
Reliable sends where no reliable handler is. The reply to a frame that no handler or an unreliable
one is registered for keeps the acknowledgment number of the frame, and a sender always writes zero
there. So the reply cannot be told from an acknowledgment of number zero, and can never be one of
number one, whatever gets lost, repeated, delayed or out of order.
-/
namespace AltBit
open Traced

/-- Frames may get lost or out of order and may come several times, but none is made up. -/
def Scattering {m : Nat} (fs gs : List (Frame m)) : Prop := gs ⊆ fs

variable {T σ : Type} {m : Nat} {id : Identifier}

/-- No reliable handler is registered for `id`, and its frames on their way acknowledge zero. -/
structure Unacknowledging (id : Identifier) (d : Dispatcher (Link.Memory m) σ) : Prop where
  unreliable : d.registry.isReliable? id ≠ some true
  requests : ∀ f ∈ d.link.inbound, f.id = id → f.ack = 0
  replies : ∀ f ∈ d.link.outbound, f.id = id → f.ack = 0

section
variable [Behaviour σ]

theorem Registry.ack_handle {r : Registry σ} {f : Frame m} (h : r.isReliable? f.id ≠ some true) :
    (r.handle f).val.reply.ack = f.ack := by
  have hcase := r.handle_cases f
  generalize (r.handle f).val = x at hcase ⊢
  cases hcase with
  | unknown => rfl
  | unreliable => simp [Handler.val_invoke]
  | accepted hh hc | duplicate hh hc =>
    refine absurd ?_ h
    rw [isReliable?, hh, Option.map_some, (channelOf?_eq_some_iff.mp hc).1]

theorem kept_unacknowledging (id : Identifier) :
    Kept (m := m) (σ := σ) Scattering fun d _ => Unacknowledging id d where
  requests h hfs := ⟨h.unreliable, fun f hf => h.requests f (hfs hf), h.replies⟩
  replies h hfs := ⟨h.unreliable, h.requests, fun f hf => h.replies f (hfs hf)⟩
  poll {d log} h := by
    rcases d.poll_cases with ⟨hregistry, -, hlost, hkept⟩ | ⟨g, hregistry, -, htaken, hreplied⟩
    · refine ⟨?_, fun f hf => h.requests f (hlost.subset hf), fun f hf => ?_⟩
      · rw [hregistry]
        exact h.unreliable
      · exact h.replies f (hkept ▸ hf)
    · refine ⟨?_, fun f hf => ?_, fun f hf hfid => ?_⟩
      · rw [hregistry, Registry.isReliable?_handle]
        exact h.unreliable
      · exact h.requests f (htaken ▸ List.mem_cons_of_mem g hf)
      · rcases hreplied with hlost | hkept
        · exact h.replies f (hlost ▸ hf) hfid
        · rcases List.mem_append.mp (hkept ▸ hf) with hold | hnew
          · exact h.replies f hold hfid
          · obtain rfl := List.mem_singleton.mp hnew
            rw [(d.registry.header_handle g).1] at hfid
            have hunreliable : d.registry.isReliable? g.id ≠ some true := hfid ▸ h.unreliable
            rw [Registry.ack_handle hunreliable]
            exact h.requests g (htaken ▸ List.mem_cons_self) hfid

end

namespace Sender

/-- What a sender can be asked to do. -/
inductive Act where
  | reliable (rounds : Nat) (id : Identifier) (payload : List UInt8)
  | unreliable (rounds : Nat) (id : Identifier) (payload : List UInt8)
  | reset (id : Identifier)
  | resetAll

section
variable [Link T m]

def act (s : Sender T) : Act → Traced (Sender T)
  | .reliable rounds id payload => do
    let (_, s) ← s.sendReliable rounds id payload
    pure s
  | .unreliable rounds id payload => do
    let (_, s) ← s.sendUnreliable rounds id payload
    pure s
  | .reset id => pure (s.reset id)
  | .resetAll => pure s.resetAll

def actAll : List Act → Sender T → Traced (Sender T)
  | [], s => pure s
  | a :: acts, s => do
    let s ← s.act a
    actAll acts s

end

variable [Behaviour σ] [Link T m] [Remote T σ] {P : T → Prop} {s : Sender T}

/-- `Unacknowledging` for the far end of a link. -/
def Unacknowledged (P : T → Prop) (id : Identifier) : T → List Event → Prop :=
  Across P fun d _ => Unacknowledging id d

omit [Behaviour σ] in
theorem silent_unacknowledged (P : T → Prop) (id : Identifier) : Silent (Unacknowledged P id) :=
  fun _ hlog => hlog

theorem read_unacknowledged (hP : Conveys Scattering P) (id : Identifier) (t : T) :
    Triple (Unacknowledged P id t) (Link.read t) fun x log =>
      match x.1 with
      | .ok r => (r.id = id → r.ack = 0) ∧ Unacknowledged P id x.2 log
      | .error _ => Unacknowledged P id x.2 log := by
  intro log hlog
  have hafter := hP.triple_read (kept_unacknowledging id)
    (G := fun r d _ => (r.id = id → r.ack = 0) ∧ Unacknowledging id d)
    (fun r => (kept_unacknowledging id).of_and _)
    (fun {d _ r rest} hd houtbound => ⟨hd.replies r (houtbound ▸ List.mem_cons_self),
      hd.unreliable, hd.requests,
      fun f hf => hd.replies f (houtbound ▸ List.mem_cons_of_mem r hf)⟩) t log hlog
  cases hread : (Link.read t).val.1 with
  | ok r =>
    simp only [hread] at hafter
    exact ⟨hafter.2.1, hafter.1, hafter.2.2⟩
  | error e =>
    simp only [hread] at hafter
    exact hafter

theorem write_unacknowledged (hP : Conveys Scattering P) (id : Identifier) {f : Frame m}
    (hf : f.ack = 0) (t : T) :
    Triple (Unacknowledged P id t) (Link.write t f) fun x => Unacknowledged P id x.2 := by
  refine hP.triple_write (kept_unacknowledging id) (kept_unacknowledging id)
    (fun {d _} hd => ⟨hd.unreliable, fun g hg hgid => ?_, hd.replies⟩) t
  rcases List.mem_append.mp hg with hold | hnew
  · exact hd.requests g hold hgid
  · rw [List.mem_singleton.mp hnew, hf]

theorem sends_unacknowledged (hP : Conveys Scattering P) (id : Identifier) {f : Frame m}
    (hf : f.ack = 0) :
    Sends f (Unacknowledged P id) (Unacknowledged P id) fun r t log =>
      (f.id = id → f.seq = 0 ∧ r.ack = 0) ∧ Unacknowledged P id t log := by
  refine .ofInvariant (hP.triple_available (kept_unacknowledging id)) (fun t log hlog => ?_)
    (write_unacknowledged hP id hf) (silent_unacknowledged P id)
    fun _ _ _ _ _ hlog => hlog
  have hafter := read_unacknowledged hP id t log hlog
  cases hread : (Link.read t).val.1 with
  | error e => simpa only [hread] using hafter
  | ok r =>
    simp only [hread] at hafter ⊢
    split
    · rename_i hmatch
      obtain ⟨hrid, hack⟩ : r.id = f.id ∧ r.ack = f.seq := by simpa using hmatch
      refine ⟨fun hown => ?_, hafter.2⟩
      have hzero := hafter.1 (hrid.trans hown)
      exact ⟨hack.symm.trans hzero, hzero⟩
    · exact hafter.2

theorem waits_unacknowledged (hP : Conveys Scattering P) (id j : Identifier) :
    Waits j (fun _ : Frame m => true) (Unacknowledged P id) (Unacknowledged P id) fun _ =>
      Unacknowledged P id := by
  refine .ofInvariant (hP.triple_available (kept_unacknowledging id)) (fun t log hlog => ?_)
    (silent_unacknowledged P id)
  have hafter := read_unacknowledged hP id t log hlog
  cases hread : (Link.read t).val.1 with
  | error e => simpa only [hread] using hafter
  | ok r =>
    simp only [hread, ite_self] at hafter ⊢
    exact hafter.2

theorem unacknowledged_act (hP : Conveys Scattering P) (id : Identifier) (s : Sender T) (a : Act) :
    Triple (Unacknowledged P id s.link) (s.act a) fun s' => Unacknowledged P id s'.link := by
  cases a with
  | reliable rounds j payload =>
    let f : Frame m := ⟨j, s.nextSeq j, 0, zeroPadded m payload⟩
    have hsends := sends_unacknowledged hP id (f := f) rfl
    refine Triple.bind (Sends.sendReliable (fun _ => hsends) rounds) ?_
    rintro ⟨result, s'⟩
    refine Triple.pure fun log hsent => ?_
    rcases result with _ | e | r
    · exact hsent.2
    · exact (hsends.sent_error hsent).2
    · exact hsent.2.2
  | unreliable rounds j payload =>
    refine Triple.bind ((waits_unacknowledged hP id j).sendUnreliable
      (write_unacknowledged hP id rfl) rounds s) fun x => ?_
    exact Triple.pure fun _ hlog => hlog.2
  | reset j => exact Triple.pure fun _ hlog => hlog
  | resetAll => exact Triple.pure fun _ hlog => hlog

theorem unacknowledged_actAll (hP : Conveys Scattering P) (id : Identifier) (acts : List Act)
    (s : Sender T) :
    Triple (Unacknowledged P id s.link) (s.actAll acts) fun s' => Unacknowledged P id s'.link := by
  induction acts generalizing s with
  | nil => exact Triple.pure fun _ hlog => hlog
  | cons a acts ih => exact Triple.bind (unacknowledged_act hP id s a) ih

/-- Whatever a sender has done before, a reliable send that succeeds where no reliable handler is
registered had the number zero, has taken a courtesy reply for an acknowledgment and goes on with
one; with the number one no reliable send succeeds. -/
theorem courtesy_acknowledges_zero (hP : Conveys Scattering P) (hlink : P s.link)
    (hempty : (Remote.far s.link).link.Empty)
    (hunreliable : (Remote.far s.link).registry.isReliable? id ≠ some true) (acts : List Act)
    (rounds : Nat) (payload : List UInt8) :
    let s' := (s.actAll acts).val
    let sending := (s'.sendReliable rounds id payload).val
    (s'.nextSeq id = 1 → isReply sending.1 = false) ∧
      ∀ r, sending.1 = some (.ok r) →
        s'.nextSeq id = 0 ∧ r.ack = 0 ∧ sending.2.nextSeq id = 1 := by
  intro s' sending
  have hstart : Unacknowledged P id s.link [] :=
    ⟨hlink, hunreliable, fun f hf => by simp [hempty.1] at hf, fun f hf => by simp [hempty.2] at hf⟩
  let f : Frame m := ⟨id, s'.nextSeq id, 0, zeroPadded m payload⟩
  have hsent := Sends.sendReliable (s := s') (fun _ => sends_unacknowledged hP id (f := f) rfl)
    rounds _ (unacknowledged_actAll hP id acts s [] hstart)
  rcases hx : (s'.sendReliable rounds id payload).val with ⟨_ | e | r, s''⟩
  · simp [sending, hx, isReply]
  · simp [sending, hx, isReply]
  · rw [hx] at hsent
    obtain ⟨hseq, hack⟩ : s'.nextSeq id = 0 ∧ r.ack = 0 := hsent.2.1 rfl
    have hnext : s''.nextSeq id = 1 := by
      rw [hsent.nextSeq, if_pos rfl]
      exact congrArg flipBit hseq
    simp [sending, hx, hseq, hack, hnext]

/-- The courtesy reply to the first frame on 7 is taken for its acknowledgment. -/
theorem acknowledged_without_handler :
    let s := sample []
    (∀ j, s.nextSeq j = 0) ∧ (Remote.far s.link).registry.isReliable? 7 = none ∧
      (s.sendReliable 3 7 [1]).val.1 = some (.ok ⟨7, 0, 0, #v[0, 0]⟩) :=
  ⟨(fresh_sample []).unused, by decide +kernel, by decide +kernel⟩

/-- The frame after it carries the number one and gets no acknowledgment. -/
theorem courtesy_acknowledges_zero_sample :
    let s' := ((sample []).actAll [.reliable 3 7 [1], .unreliable 3 7 [2]]).val
    s'.nextSeq 7 = 1 ∧ isReply (s'.sendReliable 3 7 [3]).val.1 = false := by
  intro s'
  have hnext : s'.nextSeq 7 = 1 := by decide +kernel
  have hunreliable : (Remote.far (sample []).link).registry.isReliable? 7 ≠ some true := by
    decide +kernel
  obtain ⟨hnever, -⟩ := courtesy_acknowledges_zero (Carrier.conveys fun hfs => hfs.subset) trivial
    ⟨rfl, rfl⟩ hunreliable [.reliable 3 7 [1], .unreliable 3 7 [2]] 3 [3]
  exact ⟨hnext, hnever hnext⟩

end Sender

end AltBit

import AltBit.Link.Scripted
import AltBit.Proofs.Sending

/-!
Sends step by step. A wait goes round by round and a reliable send attempt by attempt. What lets
them come to an end is a link that runs dry and a clock that goes on.
-/
namespace AltBit

namespace Sender
variable {T : Type} {m : Nat} [Link T m]

/-- One round of a wait, and how the wait ends if it ends with it. -/
def round (id : Identifier) (accepts : Frame m → Bool) (deadline : Instant) (s : Sender T) :
    Traced (Option (Awaited m) × Sender T) := do
  let (ready, link) ← Link.isReady s.link
  let s := { s with link }
  match ready with
  | .error e => pure (some (.failed (.link e)), s)
  | .ok false =>
    let (now, clock) := s.clock.read
    let s := { s with clock }
    pure (if deadline.nanos ≤ now.nanos then some .expired else none, s)
  | .ok true =>
    let (frame, link) ← Link.receive s.link
    let s := { s with link }
    match frame with
    | .error e => pure (some (.failed (.link e)), s)
    | .ok none => pure (none, s)
    | .ok (some f) =>
      if f.id == id && accepts f then pure (some (.reply f), s)
      else
        Traced.emit (.staleReply f.id f.seq f.ack)
        pure (none, s)

theorem awaitUntil_succ (id : Identifier) (accepts : Frame m → Bool) (deadline : Instant)
    (rounds : Nat) (s : Sender T) :
    s.awaitUntil id accepts deadline (rounds + 1) = (do
      let (ended, s) ← s.round id accepts deadline
      match ended with
      | some awaited => pure (awaited, s)
      | none => s.awaitUntil id accepts deadline rounds) := by
  rw [awaitUntil, round, bind_assoc]
  refine congrArg _ (funext fun ⟨ready, link⟩ => ?_)
  cases ready with
  | error e => rfl
  | ok b =>
    cases b with
    | false =>
      rw [pure_bind]
      dsimp only
      split <;> rfl
    | true =>
      dsimp only
      rw [bind_assoc]
      refine congrArg _ (funext fun ⟨frame, link⟩ => ?_)
      cases frame with
      | error e => rfl
      | ok f =>
        cases f with
        | none => rfl
        | some f =>
          dsimp only
          split
          · rfl
          · rw [bind_assoc]
            rfl

/-- What a round can come to. -/
inductive RoundCase (id : Identifier) (accepts : Frame m → Bool) (deadline : Instant)
    (s : Sender T) : Option (Awaited m) × Sender T → Prop
  | unavailable {e : LinkError} {t : T} (hready : (Link.isReady s.link).val = (.error e, t)) :
      RoundCase id accepts deadline s (some (.failed (.link e)), { s with link := t })
  | expired {t : T} (hready : (Link.isReady s.link).val = (.ok false, t))
      (hlate : deadline.nanos ≤ s.clock.read.1.nanos) :
      RoundCase id accepts deadline s
        (some .expired, { s with link := t, clock := s.clock.read.2 })
  | early {t : T} (hready : (Link.isReady s.link).val = (.ok false, t))
      (hearly : s.clock.read.1.nanos < deadline.nanos) :
      RoundCase id accepts deadline s (none, { s with link := t, clock := s.clock.read.2 })
  | unreadable {e : LinkError} {t t' : T} (hready : (Link.isReady s.link).val = (.ok true, t))
      (hread : (Link.receive (m := m) t).val = (.error e, t')) :
      RoundCase id accepts deadline s (some (.failed (.link e)), { s with link := t' })
  | incomplete {t t' : T} (hready : (Link.isReady s.link).val = (.ok true, t))
      (hread : (Link.receive (m := m) t).val = (.ok none, t')) :
      RoundCase id accepts deadline s (none, { s with link := t' })
  | reply {t t' : T} {f : Frame m} (hready : (Link.isReady s.link).val = (.ok true, t))
      (hread : (Link.receive t).val = (.ok (some f), t'))
      (haccepts : (f.id == id && accepts f) = true) :
      RoundCase id accepts deadline s (some (.reply f), { s with link := t' })
  | stale {t t' : T} {f : Frame m} (hready : (Link.isReady s.link).val = (.ok true, t))
      (hread : (Link.receive t).val = (.ok (some f), t'))
      (haccepts : (f.id == id && accepts f) = false) :
      RoundCase id accepts deadline s (none, { s with link := t' })

theorem round_cases (id : Identifier) (accepts : Frame m → Bool) (deadline : Instant)
    (s : Sender T) :
    RoundCase id accepts deadline s (s.round id accepts deadline).val := by
  unfold round
  rcases hready : (Link.isReady s.link).val with ⟨ready, t⟩
  simp only [Traced.val_bind, hready]
  cases ready with
  | error e => exact .unavailable hready
  | ok b =>
    cases b with
    | false =>
      dsimp only [Traced.val_pure]
      split
      · rename_i hlate
        exact .expired hready hlate
      · rename_i hearly
        exact .early hready (Nat.lt_of_not_le hearly)
    | true =>
      rcases hread : (Link.receive t).val with ⟨frame, t'⟩
      simp only [Traced.val_bind, hread]
      cases frame with
      | error e => exact .unreadable hready hread
      | ok f =>
        cases f with
        | none => exact .incomplete hready hread
        | some f =>
          dsimp only
          split
          · rename_i haccepts
            exact .reply hready hread haccepts
          · rename_i haccepts
            exact .stale hready hread (Bool.eq_false_iff.mpr haccepts)

/-- Writes a frame and waits for its acknowledgment. -/
def attempt (rounds : Nat) (f : Frame m) (s : Sender T) : Traced (Awaited m × Sender T) := do
  let (written, link) ← Link.write s.link f
  let s := { s with link }
  match written with
  | .error e => pure (.failed (.link e), s)
  | .ok () => s.awaitReply rounds f.id s.config.retransmitAfter fun r => r.ack == f.seq

theorem val_transmit_succ (rounds : Nat) (f : Frame m) (n left : Nat) (s : Sender T) :
    (s.transmit rounds f n (left + 1)).val =
      match (s.attempt rounds f).val with
      | (.unfinished, s) => (none, s)
      | (.failed e, s) => (some (.error e), s)
      | (.reply r, s) => (some (.ok r), s.setNextSeq f.id (flipBit f.seq))
      | (.expired, s) => (s.transmit rounds f (n + 1) left).val := by
  rw [transmit, attempt]
  rcases hwritten : (Link.write s.link f).val with ⟨written, t⟩
  cases written with
  | error e => simp [hwritten]
  | ok _ =>
    rcases hx : (awaitReply rounds f.id s.config.retransmitAfter (fun r => r.ack == f.seq)
      { s with link := t }).val with ⟨awaited, s'⟩
    cases awaited with
    | unfinished | failed e | reply r => simp [hwritten, hx]
    | expired => by_cases hleft : left = 0 <;> simp [hwritten, hx, hleft]

end Sender

variable {T : Type} {m : Nat}

/-- `rank` bounds the reads that are still to come: it grows neither when the link is asked whether
it is ready nor when a frame is written, and a read from a link that is ready lowers it. -/
structure Link.RunsDry [Link T m] (rank : T → Nat) : Prop where
  isReady (t : T) : rank (Link.isReady t).val.2 ≤ rank t
  receive (t : T) : (Link.isReady t).val.1 = .ok true →
    rank (Link.receive (Link.isReady t).val.2).val.2 < rank t
  write (t : T) (f : Frame m) : rank (Link.write t f).val.2 ≤ rank t

theorem Link.Scripted.runsDry :
    Link.RunsDry fun t : Link.Scripted m => t.readiness.length where
  isReady t := by
    rcases h : t.readiness with _ | ⟨answer, rest⟩ <;>
      simp [Link.isReady, Link.available, available, h]
  receive t hready := by
    rcases h : t.readiness with _ | ⟨answer, rest⟩
    · simp [Link.isReady, Link.available, available, h, Link.settle] at hready
    · rcases hreads : t.reads with _ | ⟨frame, more⟩ <;>
        simp [Link.isReady, Link.available, available, Link.receive, Link.read, read, h, hreads]
  write t f := by
    rcases h : t.writes with _ | ⟨⟨e⟩ | ⟨u⟩, rest⟩ <;> simp [Link.write, write, h]

/-- The clock passes every instant that it can show. -/
def Clock.Advances (c : Clock) : Prop := ∀ t : Instant, ∃ i, t.nanos ≤ (c.readings i).nanos

theorem Clock.nanos_le (c : Clock) {i j : Nat} (hij : i ≤ j) :
    (c.readings i).nanos ≤ (c.readings j).nanos := by
  induction hij with
  | refl => exact Nat.le_refl _
  | step _ ih => exact Nat.le_trans ih (c.monotone _)

theorem Instant.le_last (t : Instant) : t.nanos ≤ Instant.last.nanos := Nat.le_pred_of_lt t.nanos_lt

theorem Clock.advances_ticking {step : Nat} (hstep : 0 < step) : (ticking step).Advances := by
  intro t
  refine ⟨t.nanos, ?_⟩
  have hle : t.nanos ≤ t.nanos * step := Nat.le_mul_of_pos_right _ hstep
  by_cases h : t.nanos * step < clockEnd
  · simpa [ticking, Instant.ofNanos?, h] using hle
  · simpa [ticking, Instant.ofNanos?, h] using t.le_last

end AltBit

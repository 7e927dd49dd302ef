import AltBit.Proofs.Attempts
import AltBit.Proofs.Counting
import Mathlib.Order.WellFounded

/-!
When sends come to an end. A wait looks at the clock only in rounds in which there is nothing to be
read, so the deadline ends it unless the link is ready in every round from some round on and never
brings what is waited for. That is the one way in which a send can go on for good.
-/
namespace AltBit

variable {T : Type} {m : Nat} [Link T m]

namespace Link
variable {id : Identifier} {accepts : Frame m → Bool} {t t' : T}

/-- The link is ready, but what a wait reads then is not accepted or would block. -/
structure Distracts (id : Identifier) (accepts : Frame m → Bool) (t t' : T) : Prop where
  ready : (isReady t).val.1 = .ok true
  next : (receive (m := m) (isReady t).val.2).val.2 = t'
  nothing : ∃ frame, (receive (isReady t).val.2).val.1 = .ok frame ∧
    ∀ f, frame = some f → (f.id == id && accepts f) = false

/-- From `t` on the link distracts a wait in each round. -/
def Holds (id : Identifier) (accepts : Frame m → Bool) (t : T) : Prop :=
  ∃ ts : Nat → T, ts 0 = t ∧ ∀ n, Distracts id accepts (ts n) (ts (n + 1))

theorem Holds.next (h : Holds id accepts t) :
    ∃ t', Distracts id accepts t t' ∧ Holds id accepts t' := by
  obtain ⟨ts, rfl, hts⟩ := h
  exact ⟨ts 1, hts 0, fun n => ts (n + 1), rfl, fun n => hts (n + 1)⟩

/-- A link that runs dry cannot hold a sender up. -/
theorem RunsDry.not_holds {rank : T → Nat} (h : RunsDry rank) : ¬Holds id accepts t := by
  induction hrank : rank t using Nat.strongRecOn generalizing t with
  | ind n ih =>
    intro hheld
    obtain ⟨t', hdistracts, hheld'⟩ := hheld.next
    have hless := h.receive t hdistracts.ready
    rw [hdistracts.next, hrank] at hless
    exact ih _ hless rfl hheld'

/-- A link that is always ready and whose reads all have the same answer. -/
structure Restless (m : Nat) where
  answer : Except LinkError (Frame m)

instance : Link (Restless m) m where
  available t := pure (.ok true, t)
  read t := pure (t.answer, t)
  write t _ := pure (.ok (), t)

/-- Whether a wait for a reply to `id` goes on after a read with this answer. -/
def passesOver (id : Identifier) (accepts : Frame m → Bool) : Except LinkError (Frame m) → Bool
  | .error e => e.isWouldBlock
  | .ok f => !(f.id == id && accepts f)

omit [Link T m] in
theorem Restless.distracts {t : Recorded (Restless m) m}
    (h : passesOver id accepts t.link.answer = true) :
    Distracts id accepts t
      { t with calls := t.calls ++ [.available (.ok true)] ++ [.read t.link.answer] } := by
  refine ⟨rfl, rfl, ?_⟩
  have hreceive : (receive (m := m) (isReady t).val.2).val.1 =
      settle none (t.link.answer.map some) := rfl
  rw [hreceive]
  cases hanswer : t.link.answer with
  | error e =>
    have he : e.isWouldBlock = true := by
      rw [hanswer] at h
      exact h
    exact ⟨none, by simp [settle, Except.map, he], nofun⟩
  | ok f =>
    have hf : (f.id == id && accepts f) = false := by
      rw [hanswer] at h
      exact (Bool.not_eq_true' _).mp h
    refine ⟨some f, rfl, ?_⟩
    rintro g hg
    cases hg
    exact hf

end Link

theorem SenderConfig.attempts_pos (c : SenderConfig) : 0 < c.attempts :=
  Nat.le_max_right ..

namespace Sender
variable {id : Identifier} {accepts : Frame m → Bool} {deadline : Instant} {s s' : Sender T}

theorem round_of_distracts {t' : T} (h : Link.Distracts id accepts s.link t') :
    (s.round id accepts deadline).val = (none, { s with link := t' }) := by
  obtain ⟨hready, rfl, frame, hframe, hnothing⟩ := h
  unfold round
  simp only [Traced.val_bind, hready, hframe]
  cases frame with
  | none => rfl
  | some f => simp [hnothing f rfl]

/-- A round that does not end the wait was a distraction, or the clock was read and the deadline is
still to come. -/
theorem distracts_or_early (h : (s.round id accepts deadline).val = (none, s')) :
    Link.Distracts id accepts s.link s'.link ∧ s'.clock = s.clock ∨
      s'.clock = s.clock.read.2 ∧ s.clock.read.1.nanos < deadline.nanos := by
  have hcase := s.round_cases id accepts deadline
  rw [h] at hcase
  cases hcase with
  | early hready hearly => exact .inr ⟨rfl, hearly⟩
  | incomplete hready hread =>
    exact .inl ⟨⟨by rw [hready], by rw [hready, hread], none, by rw [hready, hread], nofun⟩, rfl⟩
  | @stale _ _ f hready hread haccepts =>
    refine .inl ⟨⟨by rw [hready], by rw [hready, hread], some f, by rw [hready, hread], ?_⟩, rfl⟩
    rintro g hg
    cases hg
    exact haccepts

/-- A round keeps to the clock, and it never leaves open how the wait ends. -/
theorem round_clock (id : Identifier) (accepts : Frame m → Bool) (deadline : Instant)
    (s : Sender T) :
    let x := (s.round id accepts deadline).val
    x.1 ≠ some .unfinished ∧ x.2.clock.readings = s.clock.readings := by
  intro x
  have hcase : RoundCase id accepts deadline s x := s.round_cases id accepts deadline
  clear_value x
  cases hcase <;> exact ⟨nofun, rfl⟩

theorem val_awaitUntil_succ (id : Identifier) (accepts : Frame m → Bool) (deadline : Instant)
    (rounds : Nat) (s : Sender T) :
    (s.awaitUntil id accepts deadline (rounds + 1)).val =
      match (s.round id accepts deadline).val with
      | (some awaited, s') => (awaited, s')
      | (none, s') => (s'.awaitUntil id accepts deadline rounds).val := by
  rw [awaitUntil_succ, Traced.val_bind]
  rcases (s.round id accepts deadline).val with ⟨_ | awaited, s'⟩ <;> rfl

theorem readings_awaitUntil (id : Identifier) (accepts : Frame m → Bool) (deadline : Instant)
    (rounds : Nat) (s : Sender T) :
    (s.awaitUntil id accepts deadline rounds).val.2.clock.readings = s.clock.readings := by
  induction rounds generalizing s with
  | zero => rfl
  | succ rounds ih =>
    obtain ⟨-, hclock⟩ := s.round_clock id accepts deadline
    rw [val_awaitUntil_succ]
    rcases hx : (s.round id accepts deadline).val with ⟨_ | awaited, s'⟩
    · rw [hx] at hclock
      exact (ih s').trans hclock
    · rw [hx] at hclock
      exact hclock

/-- More rounds go on where the others have left off, unless they have ended the wait. -/
theorem val_awaitUntil_add (id : Identifier) (accepts : Frame m → Bool) (deadline : Instant)
    (rounds more : Nat) (s : Sender T) :
    (s.awaitUntil id accepts deadline (rounds + more)).val =
      match (s.awaitUntil id accepts deadline rounds).val with
      | (.unfinished, s') => (s'.awaitUntil id accepts deadline more).val
      | x => x := by
  induction rounds generalizing s with
  | zero =>
    rw [Nat.zero_add]
    rfl
  | succ rounds ih =>
    obtain ⟨hended, -⟩ := s.round_clock id accepts deadline
    rw [Nat.add_right_comm, val_awaitUntil_succ, val_awaitUntil_succ]
    rcases hx : (s.round id accepts deadline).val with ⟨_ | awaited, s'⟩
    · exact ih s'
    · rw [hx] at hended
      cases awaited with
      | unfinished => exact absurd rfl hended
      | reply | expired | failed => rfl

/-- Each round of a wait that goes on for good leaves it open. -/
theorem round_of_unfinished
    (hnever : ∀ rounds, (s.awaitUntil id accepts deadline rounds).val.1 = .unfinished) (n : Nat) :
    ((s.awaitUntil id accepts deadline n).val.2.round id accepts deadline).val =
      (none, (s.awaitUntil id accepts deadline (n + 1)).val.2) := by
  have hbefore : (s.awaitUntil id accepts deadline n).val =
      (.unfinished, (s.awaitUntil id accepts deadline n).val.2) := Prod.ext (hnever n) rfl
  have hafter := hnever (n + 1)
  rw [val_awaitUntil_add, hbefore] at hafter ⊢
  dsimp only at hafter ⊢
  rw [val_awaitUntil_succ] at hafter ⊢
  generalize (s.awaitUntil id accepts deadline n).val.2 = s₁ at hafter ⊢
  obtain ⟨hended, -⟩ := s₁.round_clock id accepts deadline
  rcases hx : (s₁.round id accepts deadline).val with ⟨_ | awaited, s'⟩
  · rfl
  · rw [hx] at hended hafter
    exact absurd (congrArg some hafter) hended

/-- A run of rounds comes to an end and stays as it is with more of them, unless the link holds it
up; if the link does so, it never ends. -/
structure EndsUnlessHeld {α : Type} (finished : α → Prop) (id : Identifier)
    (accepts : Frame m → Bool) (run : Nat → α × Sender T) : Prop where
  stable {rounds rounds' : Nat} (hle : rounds ≤ rounds') (h : finished (run rounds).1) :
    run rounds' = run rounds
  held {rounds : Nat} (h : ¬finished (run rounds).1)
    (hheld : Link.Holds id accepts (run rounds).2.link) (rounds' : Nat) : ¬finished (run rounds').1
  ends (h : ∀ rounds, ¬finished (run rounds).1) :
    ∃ enough, ∀ rounds, enough ≤ rounds → Link.Holds id accepts (run rounds).2.link

/-- A wait that goes on for good reads the clock `i` times at most, and all rounds after the last
reading are distractions. -/
theorem eventually_held {i : Nat} (hi : deadline.nanos ≤ (s.clock.readings i).nanos)
    (hnever : ∀ rounds, (s.awaitUntil id accepts deadline rounds).val.1 = .unfinished) :
    ∃ enough, ∀ rounds, enough ≤ rounds →
      Link.Holds id accepts (s.awaitUntil id accepts deadline rounds).val.2.link := by
  let state (n : Nat) : Sender T := (s.awaitUntil id accepts deadline n).val.2
  let left (n : Nat) : Nat := i - (state n).clock.taken
  have hstep (n : Nat) :
      Link.Distracts id accepts (state n).link (state (n + 1)).link ∧ left (n + 1) = left n ∨
        left (n + 1) < left n := by
    have hclock : (state n).clock.readings = s.clock.readings :=
      readings_awaitUntil id accepts deadline n s
    rcases distracts_or_early (round_of_unfinished hnever n) with
      ⟨hdistracts, hsame⟩ | ⟨hread, hearly⟩
    · exact .inl ⟨hdistracts, congrArg (fun c : Clock => i - c.taken) hsame⟩
    · refine .inr ?_
      have htaken : (state n).clock.taken < i := by
        refine Nat.lt_of_not_le fun hle => Nat.not_le_of_lt hearly ?_
        exact Nat.le_trans (hclock ▸ hi) ((state n).clock.nanos_le hle)
      have hnext : (state (n + 1)).clock.taken = (state n).clock.taken + 1 :=
        congrArg Clock.taken hread
      simp only [left, hnext]
      omega
  have hanti : Antitone left := antitone_nat_of_succ_le fun n =>
    (hstep n).elim (fun h => Nat.le_of_eq h.2) Nat.le_of_lt
  -- from where the readings left are fewest on, no round can read the clock again
  refine ⟨Function.argmin left, fun rounds hrounds => ?_⟩
  refine ⟨fun n => (state (rounds + n)).link, rfl, fun n => ?_⟩
  have hlast : left (rounds + n) ≤ left (rounds + n + 1) :=
    Nat.le_trans (hanti (Nat.le_add_right_of_le hrounds)) (Function.argmin_le left _)
  exact ((hstep (rounds + n)).resolve_right (Nat.not_lt_of_le hlast)).1

theorem awaitUntil_of_holds (h : Link.Holds id accepts s.link) (rounds : Nat) :
    (s.awaitUntil id accepts deadline rounds).val.1 = .unfinished := by
  induction rounds generalizing s with
  | zero => rfl
  | succ rounds ih =>
    obtain ⟨t', hdistracts, h'⟩ := h.next
    rw [val_awaitUntil_succ, round_of_distracts hdistracts]
    exact ih h'

namespace EndsUnlessHeld
variable {α β : Type} {finished : α → Prop} {finished' : β → Prop}

/-- What does not depend on the rounds has ended. -/
theorem const {x : α × Sender T} (hx : finished x.1) :
    EndsUnlessHeld finished id accepts fun _ => x where
  stable _ _ := rfl
  held h _ _ := absurd hx h
  ends h := absurd hx (h 0)

theorem eq_of_finished {run : Nat → α × Sender T} (h : EndsUnlessHeld finished id accepts run)
    {rounds rounds' : Nat} (hrounds : finished (run rounds).1)
    (hrounds' : finished (run rounds').1) : run rounds' = run rounds := by
  rcases Nat.le_total rounds rounds' with hle | hle
  · exact h.stable hle hrounds
  · exact (h.stable hle hrounds').symm

/-- One run after another: what comes second may take as many rounds as the first, and depends on
how the first has ended. -/
theorem andThen {first : Nat → α × Sender T} (h : EndsUnlessHeld finished id accepts first)
    (next : Nat → α × Sender T → β × Sender T)
    (hopen : ∀ rounds, ¬finished (first rounds).1 →
      ¬finished' (next rounds (first rounds)).1 ∧
        (next rounds (first rounds)).2.link = (first rounds).2.link)
    (hnext : ∀ rounds, finished (first rounds).1 →
      EndsUnlessHeld finished' id accepts fun rounds' => next rounds' (first rounds)) :
    EndsUnlessHeld finished' id accepts fun rounds => next rounds (first rounds) where
  stable {rounds rounds'} hle hfinished := by
    have hfirst : finished (first rounds).1 :=
      not_not.mp fun hnot => (hopen rounds hnot).1 hfinished
    rw [h.stable hle hfirst]
    exact (hnext rounds hfirst).stable hle hfinished
  held {rounds} hnot hheld rounds' := by
    by_cases hfirst' : finished (first rounds').1
    · by_cases hfirst : finished (first rounds).1
      · rw [h.eq_of_finished hfirst hfirst']
        exact (hnext rounds hfirst).held hnot hheld rounds'
      · rw [(hopen rounds hfirst).2] at hheld
        exact absurd hfirst' (h.held hfirst hheld rounds')
    · exact (hopen rounds' hfirst').1
  ends hnever := by
    by_cases hfirst : ∃ r, finished (first r).1
    · obtain ⟨r, hr⟩ := hfirst
      have hnever' (rounds : Nat) : ¬finished' (next rounds (first r)).1 := fun hfinished => by
        have hmax := (hnext r hr).stable (Nat.le_max_left rounds r) hfinished
        refine hnever (max rounds r) ?_
        rw [h.stable (Nat.le_max_right rounds r) hr, hmax]
        exact hfinished
      obtain ⟨enough, henough⟩ := (hnext r hr).ends hnever'
      refine ⟨max enough r, fun rounds hrounds => ?_⟩
      rw [h.stable (Nat.le_trans (Nat.le_max_right ..) hrounds) hr]
      exact henough rounds (Nat.le_trans (Nat.le_max_left ..) hrounds)
    · have hopen' (rounds : Nat) := hopen rounds fun h => hfirst ⟨rounds, h⟩
      obtain ⟨enough, henough⟩ := h.ends fun rounds h => hfirst ⟨rounds, h⟩
      exact ⟨enough, fun rounds hrounds => (hopen' rounds).2 ▸ henough rounds hrounds⟩

/-- With enough rounds a run ends if its link cannot hold it up. -/
theorem finished_of_not_holds {run : Nat → α × Sender T}
    (h : EndsUnlessHeld finished id accepts run) (hlink : ∀ t : T, ¬Link.Holds id accepts t) :
    ∃ enough, ∀ rounds, enough ≤ rounds → finished (run rounds).1 := by
  by_cases hnever : ∀ rounds, ¬finished (run rounds).1
  · obtain ⟨enough, henough⟩ := h.ends hnever
    exact absurd (henough enough (Nat.le_refl _)) (hlink _)
  · obtain ⟨enough, hfinished⟩ := not_forall_not.mp hnever
    exact ⟨enough, fun rounds hrounds => h.stable hrounds hfinished ▸ hfinished⟩

end EndsUnlessHeld

/-- What a send comes to after a wait, given what a reply does to the sender and what is done when
the time is up. -/
def afterWait (acknowledge : Sender T → Sender T)
    (late : Sender T → Option (Except SendError (Frame m)) × Sender T) :
    Awaited m × Sender T → Option (Except SendError (Frame m)) × Sender T
  | (.unfinished, s) => (none, s)
  | (.failed e, s) => (some (.error e), s)
  | (.reply r, s) => (some (.ok r), acknowledge s)
  | (.expired, s) => late s

theorem EndsUnlessHeld.afterWait {acknowledge : Sender T → Sender T}
    {late : Nat → Sender T → Option (Except SendError (Frame m)) × Sender T}
    {wait : Nat → Awaited m × Sender T} (h : EndsUnlessHeld (· ≠ .unfinished) id accepts wait)
    (hlate : ∀ rounds, EndsUnlessHeld (·.isSome = true) id accepts fun rounds' =>
      late rounds' (wait rounds).2) :
    EndsUnlessHeld (·.isSome = true) id accepts fun rounds =>
      afterWait acknowledge (late rounds) (wait rounds) := by
  refine h.andThen (fun rounds => Sender.afterWait acknowledge (late rounds))
    (fun rounds hopen => ?_) fun rounds hfinished => ?_
  · rcases hx : wait rounds with ⟨awaited, s'⟩
    rw [hx] at hopen
    obtain rfl : awaited = .unfinished := not_not.mp hopen
    exact ⟨Bool.false_ne_true, rfl⟩
  · replace hlate := hlate rounds
    rcases hx : wait rounds with ⟨awaited, s'⟩
    rw [hx] at hfinished hlate
    cases awaited with
    | unfinished => exact absurd rfl hfinished
    | failed e | reply r => exact .const rfl
    | expired => exact hlate

/-! Sends whose clock goes on. -/

theorem endsUnlessHeld_awaitUntil (hclock : s.clock.Advances) (id : Identifier)
    (accepts : Frame m → Bool) (deadline : Instant) :
    EndsUnlessHeld (· ≠ .unfinished) id accepts fun rounds =>
      (s.awaitUntil id accepts deadline rounds).val := by
  have hstable {rounds rounds' : Nat} (hle : rounds ≤ rounds')
      (h : (s.awaitUntil id accepts deadline rounds).val.1 ≠ .unfinished) :
      (s.awaitUntil id accepts deadline rounds').val =
        (s.awaitUntil id accepts deadline rounds).val := by
    obtain ⟨more, rfl⟩ := Nat.exists_eq_add_of_le hle
    rw [val_awaitUntil_add]
    split
    next s' hx => exact absurd (congrArg Prod.fst hx) h
    next => rfl
  refine ⟨hstable, fun {rounds} hopen hheld rounds' hfinished => ?_, fun hnever => ?_⟩
  · replace hopen := not_not.mp hopen
    rcases Nat.le_total rounds rounds' with hle | hle
    · obtain ⟨more, rfl⟩ := Nat.exists_eq_add_of_le hle
      refine hfinished ?_
      rcases hx : (s.awaitUntil id accepts deadline rounds).val with ⟨awaited, s'⟩
      rw [hx] at hopen hheld
      obtain rfl : awaited = .unfinished := hopen
      rw [val_awaitUntil_add, hx]
      exact awaitUntil_of_holds hheld more
    · exact hfinished (hstable hle hfinished ▸ hopen)
  · obtain ⟨i, hi⟩ := hclock deadline
    exact eventually_held hi fun rounds => not_not.mp (hnever rounds)

theorem endsUnlessHeld_awaitReply (hclock : s.clock.Advances) (id : Identifier)
    (accepts : Frame m → Bool) (window : Duration) :
    EndsUnlessHeld (· ≠ .unfinished) id accepts fun rounds =>
      (s.awaitReply rounds id window accepts).val := by
  unfold awaitReply
  dsimp only
  cases s.clock.read.1.add? window with
  | none => exact .const nofun
  | some deadline =>
    have hclock' : { s with clock := s.clock.read.2 }.clock.Advances := hclock
    exact endsUnlessHeld_awaitUntil hclock' id accepts deadline

theorem readings_awaitReply (rounds : Nat) (id : Identifier) (window : Duration)
    (accepts : Frame m → Bool) (s : Sender T) :
    (s.awaitReply rounds id window accepts).val.2.clock.readings = s.clock.readings := by
  unfold awaitReply
  dsimp only
  cases s.clock.read.1.add? window with
  | none => rfl
  | some deadline => exact readings_awaitUntil id accepts deadline rounds _

theorem endsUnlessHeld_attempt (hclock : s.clock.Advances) (f : Frame m) :
    EndsUnlessHeld (· ≠ .unfinished) f.id (fun r => r.ack == f.seq) fun rounds =>
      (s.attempt rounds f).val := by
  unfold attempt
  rcases hwritten : (Link.write s.link f).val with ⟨e | _, t⟩
  · simp only [Traced.val_bind, hwritten]
    exact .const nofun
  · simp only [Traced.val_bind, hwritten]
    have hclock' : { s with link := t }.clock.Advances := hclock
    exact endsUnlessHeld_awaitReply hclock' f.id _ s.config.retransmitAfter

theorem readings_attempt (rounds : Nat) (f : Frame m) (s : Sender T) :
    (s.attempt rounds f).val.2.clock.readings = s.clock.readings := by
  unfold attempt
  rcases hwritten : (Link.write s.link f).val with ⟨e | _, t⟩
  · simp [hwritten]
  · simp only [Traced.val_bind, hwritten]
    exact readings_awaitReply ..

theorem endsUnlessHeld_transmit (hclock : s.clock.Advances) (f : Frame m) (n left : Nat) :
    EndsUnlessHeld (·.isSome = true) f.id (fun r => r.ack == f.seq) fun rounds =>
      (s.transmit rounds f n left).val := by
  induction left generalizing n s with
  | zero => exact .const rfl
  | succ left ih =>
    have hrun (rounds : Nat) :
        (s.transmit rounds f n (left + 1)).val =
          afterWait (fun s => s.setNextSeq f.id (flipBit f.seq))
            (fun s => (s.transmit rounds f (n + 1) left).val) (s.attempt rounds f).val :=
      val_transmit_succ rounds f n left s
    simp only [hrun]
    refine (endsUnlessHeld_attempt hclock f).afterWait fun rounds => ?_
    have hclock' : (s.attempt rounds f).val.2.clock.Advances := by
      intro t
      rw [readings_attempt]
      exact hclock t
    exact ih hclock' (n + 1)

theorem endsUnlessHeld_sendReliable (hclock : s.clock.Advances) (id : Identifier)
    (payload : List UInt8) :
    EndsUnlessHeld (·.isSome = true) id (fun r : Frame m => r.ack == s.nextSeq id) fun rounds =>
      (s.sendReliable rounds id payload).val := by
  by_cases hfits : payload.length ≤ m
  · simp only [sendReliable_of_le hfits]
    exact endsUnlessHeld_transmit hclock ⟨id, s.nextSeq id, 0, zeroPadded m payload⟩ 1 _
  · simp only [sendReliable_of_not_le hfits]
    exact .const rfl

theorem val_sendUnreliable_of_written {payload : List UInt8} {t : T} (hfits : payload.length ≤ m)
    (hwritten :
      (Link.write s.link (⟨id, 0, 0, zeroPadded m payload⟩ : Frame m)).val = (.ok (), t))
    (rounds : Nat) :
    (s.sendUnreliable (m := m) rounds id payload).val =
      afterWait (fun s' => s') (fun s' => (some (.error (.timeout s.config.totalWait)), s'))
        (awaitReply rounds id s.config.totalWait (fun _ => true) { s with link := t }).val := by
  rw [sendUnreliable, Frame.build, if_pos hfits]
  simp only [Traced.val_bind, hwritten]
  rcases (awaitReply rounds id s.config.totalWait (fun _ : Frame m => true)
    { s with link := t }).val with ⟨awaited, s'⟩
  cases awaited <;> rfl

theorem endsUnlessHeld_sendUnreliable (hclock : s.clock.Advances) (id : Identifier)
    (payload : List UInt8) :
    EndsUnlessHeld (·.isSome = true) id (fun _ : Frame m => true) fun rounds =>
      (s.sendUnreliable rounds id payload).val := by
  by_cases hfits : payload.length ≤ m
  · let f : Frame m := ⟨id, 0, 0, zeroPadded m payload⟩
    rcases hwritten : (Link.write s.link f).val with ⟨e | _, t⟩
    · have hrun (rounds : Nat) : (s.sendUnreliable (m := m) rounds id payload).val =
          (some (.error (.link e)), { s with link := t }) := by
        simp [sendUnreliable, Frame.build, hfits, f, hwritten]
      simp only [hrun]
      exact .const rfl
    · have hclock' : { s with link := t }.clock.Advances := hclock
      simp only [val_sendUnreliable_of_written hfits hwritten]
      exact (endsUnlessHeld_awaitReply hclock' id _ _).afterWait fun _ => .const rfl
  · simp only [sendUnreliable_of_not_le hfits]
    exact .const rfl

/-- Over a link that runs dry a send has a result, if its waits may take enough rounds. -/
theorem sendReliable_ends {rank : T → Nat} (h : Link.RunsDry rank) (hclock : s.clock.Advances)
    (id : Identifier) (payload : List UInt8) :
    ∃ enough, ∀ rounds, enough ≤ rounds →
      (s.sendReliable (m := m) rounds id payload).val.1.isSome = true :=
  (endsUnlessHeld_sendReliable hclock id payload).finished_of_not_holds fun _ => h.not_holds

/-- If the clock goes on, a wait and so a send come to an end unless the link, from some round on,
is ready whenever it is asked and never brings what is waited for; then they go on for good. -/
theorem gives_up_unless_held (hclock : s.clock.Advances) (id : Identifier)
    (accepts : Frame m → Bool) (window : Duration) (payload : List UInt8) :
    EndsUnlessHeld (· ≠ .unfinished) id accepts
        (fun rounds => (s.awaitReply rounds id window accepts).val) ∧
      EndsUnlessHeld (·.isSome = true) id (fun r : Frame m => r.ack == s.nextSeq id)
        (fun rounds => (s.sendReliable rounds id payload).val) ∧
      EndsUnlessHeld (·.isSome = true) id (fun _ : Frame m => true)
        (fun rounds => (s.sendUnreliable rounds id payload).val) :=
  ⟨endsUnlessHeld_awaitReply hclock id accepts window,
    endsUnlessHeld_sendReliable hclock id payload,
    endsUnlessHeld_sendUnreliable hclock id payload⟩

/-- A link that has a frame for another identifier and then nothing does not hold a sender up. -/
theorem gives_up_unless_held_scripted :
    let link : Link.Scripted 2 := { readiness := [.ok true], reads := [.ok ⟨6, 0, 0, #v[8, 8]⟩] }
    let s : Sender (Link.Scripted 2) := { link, config := .standard, clock := .ticking 1000000 }
    s.clock.Advances ∧
      (∃ enough, ∀ rounds, enough ≤ rounds →
        (s.awaitReply rounds 5 (.ofMillis 200) fun r => r.ack == 0).val.1 ≠ .unfinished) ∧
      (∃ enough, ∀ rounds, enough ≤ rounds →
        (s.sendReliable rounds 5 [1]).val.1.isSome = true) ∧
      ∃ enough, ∀ rounds, enough ≤ rounds →
        (s.sendUnreliable rounds 5 [1]).val.1.isSome = true := by
  intro link s
  have hclock : s.clock.Advances := Clock.advances_ticking (by decide)
  obtain ⟨hwait, hreliable, hunreliable⟩ :=
    gives_up_unless_held hclock 5 (fun r => r.ack == 0) (.ofMillis 200) [1]
  exact ⟨hclock, hwait.finished_of_not_holds fun _ => Link.Scripted.runsDry.not_holds,
    hreliable.finished_of_not_holds fun _ => Link.Scripted.runsDry.not_holds,
    hunreliable.finished_of_not_holds fun _ => Link.Scripted.runsDry.not_holds⟩

/-! Links that are always ready. -/

/-- Each round of a wait for what such a link does not bring takes two calls on the link. -/
theorem awaitUntil_restless {s : Sender (Link.Recorded (Link.Restless m) m)}
    (h : Link.passesOver id accepts s.link.link.answer = true) (rounds : Nat) :
    let x := (s.awaitUntil id accepts deadline rounds).val
    x.1 = .unfinished ∧ x.2.link.calls.length = s.link.calls.length + 2 * rounds := by
  induction rounds generalizing s with
  | zero => exact ⟨rfl, rfl⟩
  | succ rounds ih =>
    let t : Link.Recorded (Link.Restless m) m :=
      { s.link with calls := s.link.calls ++ [.available (.ok true)] ++ [.read s.link.link.answer] }
    have hround : (s.round id accepts deadline).val = (none, { s with link := t }) :=
      round_of_distracts (Link.Restless.distracts h)
    obtain ⟨hopen, hcalls⟩ := ih (s := { s with link := t }) h
    rw [val_awaitUntil_succ, hround]
    refine ⟨hopen, hcalls.trans ?_⟩
    simp only [t, List.length_append, List.length_singleton]
    omega

theorem awaitReply_restless {s : Sender (Link.Recorded (Link.Restless m) m)} {window : Duration}
    (h : Link.passesOver id accepts s.link.link.answer = true)
    (hwindow : s.clock.read.1.add? window = some deadline) (rounds : Nat) :
    let x := (s.awaitReply rounds id window accepts).val
    x.1 = .unfinished ∧ x.2.link.calls.length = s.link.calls.length + 2 * rounds := by
  unfold awaitReply
  dsimp only
  rw [hwindow]
  exact awaitUntil_restless (s := { s with clock := s.clock.read.2 }) h rounds

/-- Sends of `payload` go on for good: after the write, each round takes two more calls. -/
def Endless (s : Sender (Link.Recorded (Link.Restless m) m)) (id : Identifier)
    (payload : List UInt8) : Prop :=
  ∀ rounds,
    let reliable := (s.sendReliable (m := m) rounds id payload).val
    let unreliable := (s.sendUnreliable (m := m) rounds id payload).val
    (reliable.1 = none ∧ reliable.2.link.calls.length = s.link.calls.length + 1 + 2 * rounds) ∧
      unreliable.1 = none ∧
      unreliable.2.link.calls.length = s.link.calls.length + 1 + 2 * rounds

/-- After its write, a send over such a link is held up by its first wait. -/
theorem endless_of_passesOver {s : Sender (Link.Recorded (Link.Restless m) m)}
    {payload : List UInt8} (hfits : payload.length ≤ m)
    (h : ∀ accepts : Frame m → Bool, Link.passesOver id accepts s.link.link.answer = true)
    (hattempt : (s.clock.read.1.add? s.config.retransmitAfter).isSome = true)
    (htotal : (s.clock.read.1.add? s.config.totalWait).isSome = true) : s.Endless id payload := by
  intro rounds
  let written (f : Frame m) : Sender (Link.Recorded (Link.Restless m) m) :=
    { s with link := { s.link with calls := s.link.calls ++ [.write f (.ok ())] } }
  have hwaits (f : Frame m) (accepts : Frame m → Bool) {window : Duration}
      (hwindow : (s.clock.read.1.add? window).isSome = true) :
      let x := (awaitReply rounds id window accepts (written f)).val
      x.1 = .unfinished ∧ x.2.link.calls.length = s.link.calls.length + 1 + 2 * rounds := by
    obtain ⟨deadline, hdeadline⟩ := Option.isSome_iff_exists.mp hwindow
    obtain ⟨hopen, hcalls⟩ := awaitReply_restless (s := written f) (h accepts) hdeadline rounds
    refine ⟨hopen, hcalls.trans ?_⟩
    simp [written]
  constructor
  · obtain ⟨left, hleft⟩ := Nat.exists_eq_add_one.mpr s.config.attempts_pos
    let f : Frame m := ⟨id, s.nextSeq id, 0, zeroPadded m payload⟩
    have hfirst : (s.attempt rounds f).val =
        (awaitReply rounds id s.config.retransmitAfter (fun r => r.ack == f.seq) (written f)).val :=
      rfl
    have hawaited := hwaits f (fun r => r.ack == f.seq) hattempt
    rw [sendReliable_of_le hfits, hleft, val_transmit_succ, hfirst]
    rcases hx : (awaitReply rounds id s.config.retransmitAfter (fun r => r.ack == f.seq)
      (written f)).val with ⟨awaited, s'⟩
    rw [hx] at hawaited
    obtain ⟨rfl, hcalls⟩ := hawaited
    exact ⟨rfl, hcalls⟩
  · let f : Frame m := ⟨id, 0, 0, zeroPadded m payload⟩
    have hawaited := hwaits f (fun _ => true) htotal
    rw [val_sendUnreliable_of_written hfits rfl]
    rcases hx : (awaitReply rounds id s.config.totalWait (fun _ => true) (written f)).val
      with ⟨awaited, s'⟩
    rw [hx] at hawaited
    obtain ⟨rfl, hcalls⟩ := hawaited
    exact ⟨rfl, hcalls⟩

/-- A sender to a link that is always ready and whose reads have the given answer. -/
def toRestless (answer : Except LinkError (Frame 2)) :
    Sender (Link.Recorded (Link.Restless 2) 2) where
  link := { link := ⟨answer⟩ }
  config := .standard
  clock := .ticking 1000000

/-- The link always claims to be ready, but its reads would block or bring frames for another
identifier: the clock passes any deadline, and the calls on the link go on. -/
theorem never_gives_up :
    (Clock.ticking 1000000).Advances ∧ (toRestless (.error .wouldBlock)).Endless 5 [1] ∧
      (toRestless (.ok ⟨6, 0, 0, #v[0, 0]⟩)).Endless 5 [1] := by
  have hattempt : ((Clock.ticking 1000000).read.1.add?
      SenderConfig.standard.retransmitAfter).isSome = true := by decide +kernel
  have htotal : ((Clock.ticking 1000000).read.1.add?
      SenderConfig.standard.totalWait).isSome = true := by decide +kernel
  exact ⟨Clock.advances_ticking (by decide),
    endless_of_passesOver (by decide) (fun _ => rfl) hattempt htotal,
    endless_of_passesOver (by decide) (fun _ => rfl) hattempt htotal⟩

end Sender

end AltBit

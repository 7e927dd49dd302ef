import AltBit.Proofs.Courtesy
import AltBit.Proofs.Deadlines
import AltBit.Proofs.Verdicts

/-!
What a reliable send does to its link. Observed through a link that keeps a record of the calls, a
send writes one frame again and again and no other one, and goes on until a read brings the
acknowledgment, a call fails or the attempts are used up. Only an acknowledgment changes a number in
use.
-/
namespace AltBit
open Traced

variable {T : Type} {m : Nat}

namespace Sender
variable [Link T m]

/-- The sender with its link under observation. -/
def recording (s : Sender T) : Sender (Link.Recorded T m) := { s with link := { link := s.link } }

/-- The sender with its link not under observation any more. -/
def unobserved (s : Sender (Link.Recorded T m)) : Sender T := { s with link := s.link.link }

theorem round_unobserved (id : Identifier) (accepts : Frame m → Bool) (deadline : Instant)
    (s : Sender (Link.Recorded T m)) :
    let x := (s.round id accepts deadline).val
    (s.unobserved.round id accepts deadline).val = (x.1, x.2.unobserved) := by
  unfold round Link.isReady Link.receive unobserved
  rcases hready : (Link.available s.link.link).val with ⟨ready, t⟩
  rcases hframe : (Link.read t).val with ⟨frame, t'⟩
  simp only [Traced.val_bind, Traced.val_pure, Link.val_available_recorded, hready]
  cases Link.settle false ready with
  | error e => rfl
  | ok b =>
    cases b with
    | false => rfl
    | true =>
      simp only [Traced.val_bind, Traced.val_pure, Link.val_read_recorded, hframe]
      cases Link.settle none (frame.map some) with
      | error e => rfl
      | ok f =>
        cases f with
        | none => rfl
        | some f =>
          dsimp only
          split <;> rfl

theorem awaitUntil_unobserved (id : Identifier) (accepts : Frame m → Bool) (deadline : Instant)
    (rounds : Nat) (s : Sender (Link.Recorded T m)) :
    let x := (s.awaitUntil id accepts deadline rounds).val
    (s.unobserved.awaitUntil id accepts deadline rounds).val = (x.1, x.2.unobserved) := by
  induction rounds generalizing s with
  | zero => rfl
  | succ rounds ih =>
    rw [awaitUntil_succ, awaitUntil_succ, Traced.val_bind, Traced.val_bind, round_unobserved]
    rcases (s.round id accepts deadline).val with ⟨ended, s'⟩
    cases ended with
    | some awaited => rfl
    | none => exact ih s'

theorem awaitReply_unobserved (rounds : Nat) (id : Identifier) (window : Duration)
    (accepts : Frame m → Bool) (s : Sender (Link.Recorded T m)) :
    let x := (s.awaitReply rounds id window accepts).val
    (s.unobserved.awaitReply rounds id window accepts).val = (x.1, x.2.unobserved) := by
  have hclock : s.unobserved.clock = s.clock := rfl
  unfold awaitReply
  dsimp only
  rw [hclock]
  cases s.clock.read.1.add? window with
  | none => rfl
  | some deadline =>
    exact awaitUntil_unobserved id accepts deadline rounds { s with clock := s.clock.read.2 }

theorem attempt_unobserved (rounds : Nat) (f : Frame m) (s : Sender (Link.Recorded T m)) :
    let x := (s.attempt rounds f).val
    (s.unobserved.attempt rounds f).val = (x.1, x.2.unobserved) := by
  unfold attempt
  rw [Traced.val_bind, Traced.val_bind, Link.val_write_recorded, unobserved]
  rcases (Link.write s.link.link f).val with ⟨written, t⟩
  cases written with
  | error e => rfl
  | ok _ =>
    exact awaitReply_unobserved rounds f.id s.config.retransmitAfter _ { s with link := ⟨t, _⟩ }

theorem transmit_unobserved (rounds : Nat) (f : Frame m) (n left : Nat)
    (s : Sender (Link.Recorded T m)) :
    let x := (s.transmit rounds f n left).val
    (s.unobserved.transmit rounds f n left).val = (x.1, x.2.unobserved) := by
  induction left generalizing n s with
  | zero => rfl
  | succ left ih =>
    rw [val_transmit_succ, val_transmit_succ, attempt_unobserved]
    rcases (s.attempt rounds f).val with ⟨awaited, s'⟩
    cases awaited with
    | unfinished | failed e | reply r => rfl
    | expired => exact ih (n + 1) s'

theorem sendReliable_unobserved (rounds : Nat) (s : Sender (Link.Recorded T m)) (id : Identifier)
    (payload : List UInt8) :
    let x := (s.sendReliable rounds id payload).val
    (s.unobserved.sendReliable rounds id payload).val = (x.1, x.2.unobserved) := by
  by_cases hfits : payload.length ≤ m
  · rw [sendReliable_of_le hfits, sendReliable_of_le hfits]
    exact transmit_unobserved ..
  · rw [sendReliable_of_not_le hfits, sendReliable_of_not_le hfits]
    rfl

variable {s : Sender T}

/-- Nothing is asked of link and record: what remains is how the numbers change. -/
theorem waits_unconditionally (id : Identifier) (accepts : Frame m → Bool) :
    Waits id accepts (fun (_ : T) _ => True) (fun _ _ => True) fun _ _ _ => True where
  available _ _ _ := by dsimp only; split <;> trivial
  read _ _ _ := by dsimp only; split <;> split <;> trivial
  idle _ := trivial
  silent _ _ := trivial

theorem sends_unconditionally (f : Frame m) :
    Sends f (fun (_ : T) _ => True) (fun _ _ => True) fun _ _ _ => True where
  toWaits := waits_unconditionally f.id _
  write _ _ _ := by dsimp only; split <;> trivial
  between _ _ := trivial
  settled _ _ _ _ _ _ := trivial

/-- Only an acknowledgment changes a number in use, that of its identifier. -/
theorem nextSeq_sendReliable (rounds : Nat) (s : Sender T) (id : Identifier)
    (payload : List UInt8) (j : Identifier) :
    let x := (s.sendReliable (m := m) rounds id payload).val
    x.2.nextSeq j =
      if j = id ∧ isReply x.1 = true then flipBit (s.nextSeq j) else s.nextSeq j := by
  let f : Frame m := ⟨id, s.nextSeq id, 0, zeroPadded m payload⟩
  have hsends := sends_unconditionally (T := T) f
  have hsent := Sends.sendReliable (fun _ => hsends) rounds [] trivial
  rcases hx : (s.sendReliable (m := m) rounds id payload).val with ⟨_ | e | r, s'⟩
  · rw [hx] at hsent
    simpa [isReply] using nextSeq_congr hsent.1 j
  · rw [hx] at hsent
    simpa [isReply] using nextSeq_congr (hsends.sent_error hsent).1 j
  · rw [hx] at hsent
    have hnext := hsent.nextSeq j
    by_cases hj : j = id
    · subst hj
      simpa [isReply] using hnext
    · simpa [isReply, hj] using hnext

theorem sequence_sendUnreliable (rounds : Nat) (s : Sender T) (id : Identifier)
    (payload : List UInt8) :
    (s.sendUnreliable (m := m) rounds id payload).val.2.sequence = s.sequence :=
  ((waits_unconditionally id _).sendUnreliable (fun _ _ _ => trivial) rounds s [] trivial).1

/-- The states that a sender can get into. -/
inductive Reachable : Sender T → Prop
  | new (link : T) (config : SenderConfig) (clock : Clock) : Reachable { link, config, clock }
  | act {s : Sender T} (hs : Reachable s) (a : Act) : Reachable (s.act a).val
  /-- The link is used for something else and left in the given state. -/
  | useLink {s : Sender T} (hs : Reachable s) (link : T) : Reachable { s with link }

theorem Reachable.nextSeq_eq_zero_or_one (hs : s.Reachable) (j : Identifier) :
    s.nextSeq j = 0 ∨ s.nextSeq j = 1 := by
  induction hs with
  | new link config clock => exact .inl (by simp [nextSeq])
  | @act s _ a ih =>
    cases a with
    | reliable rounds id payload =>
      have hact : (s.act (.reliable rounds id payload)).val.nextSeq j =
        (s.sendReliable (m := m) rounds id payload).val.2.nextSeq j := rfl
      rw [hact, nextSeq_sendReliable]
      split
      · rcases ih with hzero | hone
        · exact .inr (congrArg flipBit hzero)
        · exact .inl (congrArg flipBit hone)
      · exact ih
    | unreliable rounds id payload =>
      have hsame := nextSeq_congr (sequence_sendUnreliable rounds s id payload) j
      exact hsame.symm ▸ ih
    | reset id =>
      have hact : (s.act (.reset id)).val.nextSeq j = (s.setNextSeq id 0).nextSeq j := rfl
      rw [hact, nextSeq_setNextSeq]
      split
      · exact .inl rfl
      · exact ih
    | resetAll => exact .inl (by simp [Sender.act, resetAll, nextSeq])
  | useLink _ link ih => exact ih

end Sender

theorem verdict?_eq_ok {result : Option (Except SendError (Frame m))} {r : Frame m} :
    verdict? result = some (.ok r) ↔ result = some (.ok r) := by
  rcases result with _ | e | _
  · simp [verdict?]
  · cases e <;> simp [verdict?]
  · simp [verdict?]

theorem verdict?_eq_error {result : Option (Except SendError (Frame m))} {e : LinkError} :
    verdict? result = some (.error e) ↔ result = some (.error (.link e)) := by
  rcases result with _ | e | _
  · simp [verdict?]
  · cases e <;> simp [verdict?]
  · simp [verdict?]

/-- What sending a payload comes to: the calls that are made on the link, the result and the sender
afterwards. -/
structure Transmission (s : Sender T) (id : Identifier) (payload : List UInt8)
    (calls : List (LinkCall m)) (result : Option (Except SendError (Frame m))) (s' : Sender T) :
    Prop where
  oversized : m < payload.length → s' = s ∧ calls = [] ∧
    result = some (.error (.frame (.payloadTooLarge payload.length m)))
  written : payload.length ≤ m → ∃ n, n ≤ s.config.attempts ∧
    calls.filterMap LinkCall.written? =
      List.replicate n ⟨id, s.nextSeq id, 0, zeroPadded m payload⟩
  exhausted : ∀ j seq attempts, result = some (.error (.exhausted j seq attempts)) →
    j = id ∧ seq = s.nextSeq id ∧ attempts = s.config.attempts ∧
      calls.countP LinkCall.isSent = s.config.attempts
  acknowledged : ∀ r, result = some (.ok r) ↔
    ∃ stale, calls.filterMap LinkCall.received? = stale ++ [r] ∧
      (r.id = id ∧ r.ack = s.nextSeq id) ∧ ∀ g ∈ stale, ¬(g.id = id ∧ g.ack = s.nextSeq id)
  failed : ∀ e, result = some (.error (.link e)) ↔
    ∃ before c, calls = before ++ [c] ∧ c.failure? = some e
  nothing_after_failure : ∀ before c after, calls = before ++ c :: after → c.failure? ≠ none →
    after = []
  number : ∀ j, s'.nextSeq j =
    if j = id ∧ isReply result = true then flipBit (s.nextSeq j) else s.nextSeq j

namespace Sender
variable [Link T m] {s : Sender T}

/-- What a send comes to, told from the calls that its link has seen under observation. -/
theorem transmission_sendReliable (rounds : Nat) (s : Sender T) (id : Identifier)
    (payload : List UInt8) :
    let sent := (s.sendReliable (m := m) rounds id payload).val
    let observed := ((s.recording (m := m)).sendReliable rounds id payload).val
    sent = (observed.1, observed.2.unobserved) ∧
      Transmission s id payload observed.2.link.calls sent.1 sent.2 := by
  intro sent observed
  have hnumber := nextSeq_sendReliable (m := m) rounds s id payload
  have hsent : sent = (observed.1, observed.2.unobserved) :=
    sendReliable_unobserved rounds s.recording id payload
  have hresult : observed.1 = sent.1 := (congrArg Prod.fst hsent).symm
  refine ⟨hsent, ?_⟩
  by_cases hfits : payload.length ≤ m
  · let f : Frame m := ⟨id, s.nextSeq id, 0, zeroPadded m payload⟩
    have hobserved : observed = (s.recording.transmit rounds f 1 s.config.attempts).val :=
      congrArg Traced.val (sendReliable_of_le hfits rounds s.recording)
    obtain ⟨n, calls, haccount, hle, hexhausted⟩ :=
      Accounts.transmit f rounds 1 s.config.attempts s.recording
    rw [← hobserved, hresult] at haccount hexhausted
    have hcalls : observed.2.link.calls = calls := haccount.seen
    rw [hcalls]
    refine ⟨fun hlong => absurd hfits (Nat.not_le_of_lt hlong),
      fun _ => ⟨n, hle, haccount.written⟩, fun j seq attempts hx => ?_, fun r => ?_,
      fun e => verdict?_eq_error.symm.trans haccount.settles.failed_iff,
      fun before c after hsplit => ?_, hnumber⟩
    · obtain ⟨hn, hj, hseq, hattempts⟩ := hexhausted j seq attempts hx
      have hsettles := haccount.settles
      rw [hx] at hsettles
      refine ⟨hj, hseq, hattempts, ?_⟩
      rw [hsettles.countP_isSent, haccount.written, List.length_replicate, hn]
    · rw [← verdict?_eq_ok, haccount.settles.acknowledged_iff]
      simp only [← Bool.not_eq_true, Frame.acknowledges_iff, f]
    · exact (hsplit ▸ haccount.settles).nothing_after_failure
  · have hlong : observed = (some (.error (.frame (.payloadTooLarge payload.length m))),
        s.recording) :=
      congrArg Traced.val (sendReliable_of_not_le hfits rounds s.recording)
    rw [hlong] at hsent
    have hcalls : observed.2.link.calls = [] := by rw [hlong]; rfl
    rw [hsent, hcalls]
    refine ⟨fun _ => ⟨rfl, rfl, rfl⟩, fun h => absurd h hfits, (fun _ _ _ h => by cases h),
      by simp, by simp, by simp, fun j => ?_⟩
    exact (if_neg fun h => Bool.false_ne_true h.2).symm

/-- Whatever a sender has done before, a reliable send writes one frame up to the number of attempts
and goes on until a read brings its acknowledgment, a call fails or the attempts are used up. An
acknowledgment, and nothing else, moves the number of its identifier on. If the link runs dry, each
send comes to an end. -/
theorem Reachable.sends_until_settled (hs : s.Reachable) (id : Identifier) (payload : List UInt8) :
    (∀ rounds,
      let sent := (s.sendReliable (m := m) rounds id payload).val
      let observed := ((s.recording (m := m)).sendReliable rounds id payload).val
      sent = (observed.1, observed.2.unobserved) ∧
        Transmission s id payload observed.2.link.calls sent.1 sent.2 ∧
        ∀ j, sent.2.nextSeq j = 0 ∨ sent.2.nextSeq j = 1) ∧
    (∀ j, s.nextSeq j = 0 ∨ s.nextSeq j = 1) ∧
    ∀ rank : T → Nat, Link.RunsDry rank → s.clock.Advances →
      ∃ enough, ∀ rounds, enough ≤ rounds →
        (s.sendReliable (m := m) rounds id payload).val.1.isSome = true := by
  refine ⟨fun rounds => ?_, hs.nextSeq_eq_zero_or_one,
    fun rank hrank hclock => sendReliable_ends hrank hclock id payload⟩
  obtain ⟨hsent, htransmission⟩ := transmission_sendReliable (m := m) rounds s id payload
  exact ⟨hsent, htransmission, (hs.act (.reliable rounds id payload)).nextSeq_eq_zero_or_one⟩

/-- A frame with the number one, which is acknowledged after its second writing. Of what is read
before, one frame acknowledges zero and one is for another identifier. -/
theorem sends_until_settled_scripted :
    let quick : SenderConfig := ⟨Duration.zero, 3, Duration.zero⟩
    let first : Link.Scripted 2 := { readiness := [.ok true], reads := [.ok ⟨5, 0, 0, #v[9, 9]⟩] }
    let link : Link.Scripted 2 := {
      readiness := [.ok true, .ok true, .error .wouldBlock, .ok true, .ok true]
      reads := [.ok ⟨5, 0, 0, #v[9, 9]⟩, .error .wouldBlock, .ok ⟨6, 1, 1, #v[8, 8]⟩,
        .ok ⟨5, 1, 1, #v[7, 7]⟩] }
    let start : Sender (Link.Scripted 2) := { link := first, config := quick, clock := .ticking 1 }
    let s : Sender (Link.Scripted 2) := { (start.act (.reliable 2 5 [3])).val with link }
    let observed := (s.recording.sendReliable 4 5 [4]).val
    s.Reachable ∧ s.nextSeq 5 = 1 ∧
      observed.2.link.calls.filterMap LinkCall.written? = List.replicate 2 ⟨5, 1, 0, #v[4, 0]⟩ ∧
      (s.sendReliable 4 5 [4]).val.1 = some (.ok ⟨5, 1, 1, #v[7, 7]⟩) ∧
      (s.sendReliable 4 5 [4]).val.2.nextSeq 5 = 0 ∧
      ∃ enough, ∀ rounds, enough ≤ rounds → (s.sendReliable rounds 5 [4]).val.1.isSome = true := by
  intro quick first link start s observed
  have hs : s.Reachable := .useLink (.act (.new first quick (.ticking 1)) _) link
  obtain ⟨hsends, -, hends⟩ := hs.sends_until_settled 5 [4]
  obtain ⟨hsent, htransmission, -⟩ := hsends 4
  have hone : s.nextSeq 5 = 1 := by decide +kernel
  have hreceived : observed.2.link.calls.filterMap LinkCall.received? =
      [⟨5, 0, 0, #v[9, 9]⟩, ⟨6, 1, 1, #v[8, 8]⟩] ++ [⟨5, 1, 1, #v[7, 7]⟩] := by decide +kernel
  have hok : (s.sendReliable 4 5 [4]).val.1 = some (.ok ⟨5, 1, 1, #v[7, 7]⟩) :=
    (htransmission.acknowledged _).mpr ⟨_, hreceived, by rw [hone]; decide, by rw [hone]; decide⟩
  have hnext := htransmission.number 5
  rw [hok, hone] at hnext
  exact ⟨hs, hone, by decide +kernel, hok, hnext,
    hends _ Link.Scripted.runsDry (Clock.advances_ticking Nat.one_pos)⟩

end Sender

end AltBit

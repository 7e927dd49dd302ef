import AltBit.Command.Send
import AltBit.Proofs.Hexadecimal
import AltBit.Proofs.Deadlines
import AltBit.Proofs.Timeouts

/-!
How far ahead a wait may end. The clock shows its seconds in 63 bits, but the time given to a sender
may fill 64. A wait that would end where the clock cannot show it breaks the send off; that is the
only way in which a send is broken off, and the time given to the command together with the reading
of the clock tells when it happens.
-/
namespace AltBit

/-- The link takes the frame that is written. -/
def Link.Carries {T : Type} {m : Nat} [Link T m] (t : T) (f : Frame m) : Prop :=
  (Link.write t f).val.1 = .ok ()

namespace Sender
variable {T : Type} {m : Nat} [Link T m] {s : Sender T} {id : Identifier} {rounds : Nat}

/-! What a wait leaves alone, and how it can fail. -/

theorem round_kept (id : Identifier) (accepts : Frame m → Bool) (deadline : Instant)
    (s : Sender T) :
    let x := (s.round id accepts deadline).val
    x.1 ≠ some (.failed .deadlineUnreachable) ∧ x.2.config = s.config := by
  intro x
  have hcase : RoundCase id accepts deadline s x := s.round_cases id accepts deadline
  clear_value x
  cases hcase <;> exact ⟨nofun, rfl⟩

theorem awaitUntil_kept (id : Identifier) (accepts : Frame m → Bool) (deadline : Instant)
    (rounds : Nat) (s : Sender T) :
    let x := (s.awaitUntil id accepts deadline rounds).val
    x.1 ≠ .failed .deadlineUnreachable ∧ x.2.config = s.config := by
  induction rounds generalizing s with
  | zero => exact ⟨nofun, rfl⟩
  | succ rounds ih =>
    have hround := s.round_kept id accepts deadline
    rw [val_awaitUntil_succ]
    rcases hx : (s.round id accepts deadline).val with ⟨_ | awaited, s'⟩
    · rw [hx] at hround
      have hrest := ih s'
      exact ⟨hrest.1, hrest.2.trans hround.2⟩
    · rw [hx] at hround
      exact ⟨fun h => hround.1 (congrArg some h), hround.2⟩

/-- A wait is broken off exactly if its end is beyond the clock, and then at once. -/
theorem awaitReply_broken_iff (rounds : Nat) (id : Identifier) (window : Duration)
    (accepts : Frame m → Bool) (s : Sender T) :
    (s.awaitReply rounds id window accepts).val.1 = .failed .deadlineUnreachable ↔
      (s.clock.readings s.clock.taken).Overruns window := by
  have hread : s.clock.read.1 = s.clock.readings s.clock.taken := rfl
  rw [← hread, ← Instant.add?_eq_none_iff]
  unfold awaitReply
  dsimp only
  cases s.clock.read.1.add? window with
  | none => simp
  | some deadline =>
    have hwait := awaitUntil_kept id accepts deadline rounds { s with clock := s.clock.read.2 }
    simpa using hwait.1

theorem config_awaitReply (rounds : Nat) (id : Identifier) (window : Duration)
    (accepts : Frame m → Bool) (s : Sender T) :
    (s.awaitReply rounds id window accepts).val.2.config = s.config := by
  unfold awaitReply
  dsimp only
  cases s.clock.read.1.add? window with
  | none => rfl
  | some deadline =>
    exact (awaitUntil_kept id accepts deadline rounds { s with clock := s.clock.read.2 }).2

/-! Sends. A first wait that is too long breaks a send off, and no other wait can if none is. -/

theorem attempt_broken_iff (rounds : Nat) (f : Frame m) (s : Sender T) :
    (s.attempt rounds f).val.1 = .failed .deadlineUnreachable ↔
      Link.Carries s.link f ∧
        (s.clock.readings s.clock.taken).Overruns s.config.retransmitAfter := by
  unfold attempt Link.Carries
  rcases hwritten : (Link.write s.link f).val with ⟨e | _, t⟩
  · simp [hwritten]
  · have hwait := awaitReply_broken_iff rounds f.id s.config.retransmitAfter
      (fun r => r.ack == f.seq) { s with link := t }
    simpa [hwritten] using hwait

theorem config_attempt (rounds : Nat) (f : Frame m) (s : Sender T) :
    (s.attempt rounds f).val.2.config = s.config := by
  unfold attempt
  rcases hwritten : (Link.write s.link f).val with ⟨e | _, t⟩
  · simp [hwritten]
  · simp only [Traced.val_bind, hwritten]
    exact config_awaitReply ..

theorem carries_of_attempt {f : Frame m} (h : (s.attempt rounds f).val.1 = .expired) :
    Link.Carries s.link f := by
  unfold attempt at h
  unfold Link.Carries
  rcases hwritten : (Link.write s.link f).val with ⟨e | _, t⟩
  · simp [hwritten] at h
  · rfl

theorem transmit_broken_of {f : Frame m} {n left : Nat} (hleft : 0 < left)
    (hcarries : Link.Carries s.link f)
    (hover : (s.clock.readings s.clock.taken).Overruns s.config.retransmitAfter) :
    (s.transmit rounds f n left).val.1 = some (.error .deadlineUnreachable) := by
  obtain ⟨left, rfl⟩ := Nat.exists_eq_add_one.mpr hleft
  have hfirst := (attempt_broken_iff rounds f s).mpr ⟨hcarries, hover⟩
  rw [val_transmit_succ]
  rcases hx : (s.attempt rounds f).val with ⟨awaited, s'⟩
  rw [hx] at hfirst
  obtain rfl : awaited = .failed .deadlineUnreachable := hfirst
  rfl

theorem of_transmit_broken {f : Frame m} {n left : Nat}
    (h : (s.transmit rounds f n left).val.1 = some (.error .deadlineUnreachable)) :
    Link.Carries s.link f ∧ ∃ i, (s.clock.readings i).Overruns s.config.retransmitAfter := by
  induction left generalizing n s with
  | zero => cases h
  | succ left ih =>
    have hbroken := attempt_broken_iff rounds f s
    have hcarries : (s.attempt rounds f).val.1 = .expired → Link.Carries s.link f :=
      carries_of_attempt
    have hconfig := config_attempt rounds f s
    have hclock := readings_attempt rounds f s
    rw [val_transmit_succ] at h
    rcases hx : (s.attempt rounds f).val with ⟨awaited, s'⟩
    rw [hx] at h hbroken hcarries hconfig hclock
    cases awaited with
    | unfinished | reply r => cases h
    | failed e =>
      cases h
      obtain ⟨hwritten, hover⟩ := hbroken.mp rfl
      exact ⟨hwritten, _, hover⟩
    | expired =>
      obtain ⟨-, i, hover⟩ := ih h
      rw [hclock, hconfig] at hover
      exact ⟨hcarries rfl, i, hover⟩

theorem sendReliable_broken_of {payload : List UInt8} (hfits : payload.length ≤ m)
    (hcarries : Link.Carries s.link (⟨id, s.nextSeq id, 0, zeroPadded m payload⟩ : Frame m))
    (hover : (s.clock.readings s.clock.taken).Overruns s.config.retransmitAfter) :
    (s.sendReliable (m := m) rounds id payload).val.1 = some (.error .deadlineUnreachable) := by
  rw [sendReliable_of_le hfits]
  exact transmit_broken_of s.config.attempts_pos hcarries hover

theorem of_sendReliable_broken {payload : List UInt8}
    (h : (s.sendReliable (m := m) rounds id payload).val.1 =
      some (.error .deadlineUnreachable)) :
    payload.length ≤ m ∧
      Link.Carries s.link (⟨id, s.nextSeq id, 0, zeroPadded m payload⟩ : Frame m) ∧
      ∃ i, (s.clock.readings i).Overruns s.config.retransmitAfter := by
  by_cases hfits : payload.length ≤ m
  · rw [sendReliable_of_le hfits] at h
    exact ⟨hfits, of_transmit_broken h⟩
  · rw [sendReliable_of_not_le hfits] at h
    cases h

/-- An unreliable send waits once. -/
theorem sendUnreliable_broken_iff (rounds : Nat) (s : Sender T) (id : Identifier)
    (payload : List UInt8) :
    (s.sendUnreliable (m := m) rounds id payload).val.1 = some (.error .deadlineUnreachable) ↔
      payload.length ≤ m ∧
        Link.Carries s.link (⟨id, 0, 0, zeroPadded m payload⟩ : Frame m) ∧
        (s.clock.readings s.clock.taken).Overruns s.config.totalWait := by
  by_cases hfits : payload.length ≤ m
  · let f : Frame m := ⟨id, 0, 0, zeroPadded m payload⟩
    unfold Link.Carries
    rcases hwritten : (Link.write s.link f).val with ⟨e | _, t⟩
    · have hsent : (s.sendUnreliable (m := m) rounds id payload).val.1 =
          some (.error (.link e)) := by
        simp [sendUnreliable, Frame.build, hfits, f, hwritten]
      simp [hsent]
    · have hwait := awaitReply_broken_iff rounds id s.config.totalWait (fun _ : Frame m => true)
        { s with link := t }
      rw [val_sendUnreliable_of_written hfits hwritten]
      rcases hx : (awaitReply rounds id s.config.totalWait (fun _ : Frame m => true)
        { s with link := t }).val with ⟨awaited, s'⟩
      rw [hx] at hwait
      cases awaited with
      | failed e => simpa [afterWait, f, hwritten, hfits] using hwait
      | unfinished | reply r | expired => simpa [afterWait, f, hwritten, hfits] using hwait
  · rw [sendUnreliable_of_not_le hfits]
    simp [hfits]

end Sender

namespace Command

namespace Failure

theorem code_ofIo_ne_aborted (context : String) (e : IoError) :
    (ofIo context e).code ≠ .aborted := by
  unfold ofIo
  dsimp only
  split <;> nofun

theorem code_ofLink_ne_aborted (context : String) (e : LinkError) :
    (ofLink context e).code ≠ .aborted := by
  unfold ofLink
  cases e with
  | bind _ source | connect _ source | accept source | io source =>
    exact code_ofIo_ne_aborted context source
  | pathTooLong _ _ _ | closed | wouldBlock | injected _ => nofun

/-- Of the ways in which a send can fail, one breaks the command off. -/
theorem code_ofSend_eq_aborted_iff (context : String) (e : SendError) :
    (ofSend context e).code = .aborted ↔ e = .deadlineUnreachable := by
  cases e with
  | link e => simp [ofSend, code_ofLink_ne_aborted]
  | frame e => simp [ofSend, ofFrame]
  | exhausted _ _ _ | timeout _ => simp [ofSend]
  | deadlineUnreachable => simp [ofSend]

end Failure

theorem Payload.code_of_resolve_ne_aborted {data hex : Option String} {f : Failure}
    (h : Payload.resolve data hex = .error f) : f.code ≠ .aborted := by
  have hfit (payload : List UInt8) (h : (if payload.length ≤ payloadSize then .ok payload
      else .error ⟨.dataInvalid,
        s!"payload is {payload.length} bytes, frame holds {payloadSize}"⟩ :
          Except Failure (List UInt8)) = .error f) : f.code ≠ .aborted := by
    split at h
    · cases h
    · cases h
      nofun
  cases data with
  | some text => exact hfit (utf8 text) h
  | none =>
    cases hex with
    | none => exact hfit [] h
    | some digits =>
      cases hparse : Payload.parseHex digits with
      | ok payload =>
        simp only [Payload.resolve, hparse] at h
        exact hfit payload h
      | error e =>
        simp only [Payload.resolve, hparse] at h
        cases h
        rw [code_of_parseHex hparse]
        nofun

namespace Send
variable {T : Type} {m : Nat}

/-- How long the command waits for a reply to what it has written. -/
def window (timeout : Duration) (args : SendArgs) : Duration :=
  let config := Timeout.senderConfig timeout args.attempts
  if args.reliable then config.retransmitAfter else config.totalWait

/-- An attempt takes its share of the time, and a single wait all shares together. -/
theorem toNanos_window (timeout : Duration) (args : SendArgs) :
    let k := max args.attempts.toNat 1
    (window timeout args).toNanos =
      if args.reliable then timeout.toNanos / k else k * (timeout.toNanos / k) := by
  intro k
  have hk : 0 < k := Nat.le_max_right _ _
  have hword : k < UInt32.size := Nat.max_lt.mpr ⟨args.attempts.toNat_lt, by decide⟩
  have hshare : (timeout.div k).toNanos = timeout.toNanos / k := Duration.toNanos_div hk
  have hfits : (timeout.div k).MulFits k := by
    have hwhole := Nat.mul_div_le timeout.toNanos k
    have hlt := timeout.toNanos_lt
    apply Duration.mulFits hword
    rw [hshare]
    omega
  have htotal := hfits.toNanos_saturatingMul.2
  unfold window
  cases args.reliable with
  | true => simpa [Timeout.retransmitAfter_senderConfig] using hshare
  | false => simpa [Timeout.totalWait_senderConfig, hshare] using htotal

/-- The command is broken off. -/
def Outcome.Aborted (o : Outcome T) : Prop :=
  ∃ f, o.result = some (.error f) ∧ f.code = .aborted

variable [Link T m]

/-- The command gets as far as a wait: its payload fits, a connection is made, and the link takes
the frame. -/
def Transmits (connect : String → Traced (Except LinkError T)) (args : SendArgs) : Prop :=
  ∃ payload link, Payload.resolve args.data args.hex = .ok payload ∧ payload.length ≤ m ∧
    (connect args.path).val = .ok link ∧
    Link.Carries link (⟨args.id, 0, 0, zeroPadded m payload⟩ : Frame m)

theorem aborted_run_iff {args : SendArgs} {timeout : Duration}
    (hparse : Timeout.parse args.timeout = .ok timeout) (rounds : Nat) (clock : Clock)
    (connect : String → Traced (Except LinkError T)) (format : Format) (timestamp : String) :
    (run rounds clock connect format timestamp args).val.Aborted ↔
      ∃ payload link, Payload.resolve args.data args.hex = .ok payload ∧
        (connect args.path).val = .ok link ∧
        (exchange rounds { link, config := Timeout.senderConfig timeout args.attempts, clock }
          args.reliable args.id payload).val.1 = some (.error .deadlineUnreachable) := by
  unfold run Outcome.Aborted
  cases hresolve : Payload.resolve args.data args.hex with
  | error f =>
    have hcheck : check args = .error f := by
      unfold check
      rw [hparse, hresolve]
      rfl
    have hcode : f.code ≠ .aborted := Payload.code_of_resolve_ne_aborted hresolve
    simp [hcheck, hcode]
  | ok payload =>
    have hcheck : check args = .ok (timeout, payload) := by
      unfold check
      rw [hparse, hresolve]
      rfl
    rcases hconnect : (connect args.path).val with e | link
    · simp [hcheck, hconnect, Failure.code_ofLink_ne_aborted]
    · let s : Sender T := { link, config := Timeout.senderConfig timeout args.attempts, clock }
      rcases hx : (exchange rounds s args.reliable args.id payload).val with ⟨_ | e | r, s'⟩
      · simp [hcheck, hconnect, s, hx]
      · simp [hcheck, hconnect, s, hx, Failure.code_ofSend_eq_aborted_iff]
      · simp [hcheck, hconnect, s, hx]

section Exchange
variable {link : T} {config : SenderConfig} {clock : Clock} {reliable : Bool} {id : Identifier}
  {payload : List UInt8} {rounds : Nat}

theorem exchange_broken_of (hfits : payload.length ≤ m)
    (hcarries : Link.Carries link (⟨id, 0, 0, zeroPadded m payload⟩ : Frame m))
    (hover : (clock.readings clock.taken).Overruns
      (if reliable then config.retransmitAfter else config.totalWait)) :
    (exchange (m := m) rounds { link, config, clock } reliable id payload).val.1 =
      some (.error .deadlineUnreachable) := by
  have hseq : ({ link, config, clock } : Sender T).nextSeq id = 0 := by simp [Sender.nextSeq]
  unfold exchange
  cases reliable with
  | true =>
    apply Sender.sendReliable_broken_of hfits
    · rwa [hseq]
    · exact hover
  | false =>
    rw [if_neg Bool.false_ne_true, Sender.sendUnreliable_broken_iff]
    exact ⟨hfits, hcarries, hover⟩

theorem of_exchange_broken
    (h : (exchange (m := m) rounds { link, config, clock } reliable id payload).val.1 =
      some (.error .deadlineUnreachable)) :
    payload.length ≤ m ∧ Link.Carries link (⟨id, 0, 0, zeroPadded m payload⟩ : Frame m) ∧
      ∃ i, (clock.readings i).Overruns
        (if reliable then config.retransmitAfter else config.totalWait) := by
  have hseq : ({ link, config, clock } : Sender T).nextSeq id = 0 := by simp [Sender.nextSeq]
  unfold exchange at h
  cases reliable with
  | true =>
    obtain ⟨hfits, hcarries, i, hover⟩ := Sender.of_sendReliable_broken h
    rw [hseq] at hcarries
    exact ⟨hfits, hcarries, i, hover⟩
  | false =>
    rw [if_neg Bool.false_ne_true, Sender.sendUnreliable_broken_iff] at h
    obtain ⟨hfits, hcarries, hover⟩ := h
    exact ⟨hfits, hcarries, _, hover⟩

end Exchange

/-- A time that was read from the command line leads to a deadline exactly if the clock reads early
enough for it. The command is broken off only after it has written its frame, and only if some
reading of the clock is too late; it is broken off for sure if the first one is. -/
theorem aborts_beyond_clock {args : SendArgs} {timeout : Duration}
    (hparse : Timeout.parse args.timeout = .ok timeout) (rounds : Nat) (clock : Clock)
    (connect : String → Traced (Except LinkError T)) (format : Format) (timestamp : String) :
    let k := max args.attempts.toNat 1
    let w := window timeout args
    let aborted := (run rounds clock connect format timestamp args).val.Aborted
    w.toNanos = (if args.reliable then timeout.toNanos / k else k * (timeout.toNanos / k)) ∧
      (∀ now : Instant, (∃ deadline, now.add? w = some deadline) ↔
        now.nanos + w.toNanos < clockEnd) ∧
      (aborted → Transmits connect args ∧
        ∃ i, clock.taken ≤ i ∧ clockEnd ≤ (clock.readings i).nanos + w.toNanos) ∧
      (Transmits connect args →
        clockEnd ≤ (clock.readings clock.taken).nanos + w.toNanos → aborted) := by
  intro k w aborted
  have hrun : aborted ↔ _ := aborted_run_iff hparse rounds clock connect format timestamp
  refine ⟨toNanos_window timeout args, fun now => ?_, fun h => ?_, fun htransmits hover => ?_⟩
  · have hnone : now.add? w = none ↔ now.Overruns w := Instant.add?_eq_none_iff
    rw [← Option.ne_none_iff_exists', Ne, hnone]
    exact Nat.not_le
  · obtain ⟨payload, link, hresolve, hconnect, hbroken⟩ := hrun.mp h
    obtain ⟨hfits, hcarries, i, hover⟩ := of_exchange_broken hbroken
    -- a reading from before the command began is no later than its first one
    have hlater := hover.of_le (clock.nanos_le (Nat.le_max_right clock.taken i))
    exact ⟨⟨payload, link, hresolve, hfits, hconnect, hcarries⟩, _, Nat.le_max_left _ _, hlater⟩
  · obtain ⟨payload, link, hresolve, hfits, hconnect, hcarries⟩ := htransmits
    exact hrun.mpr ⟨payload, link, hresolve, hconnect, exchange_broken_of hfits hcarries hover⟩

/-- A time that ends with the clock: it is short enough at the start of the clock and too long a
second later. -/
theorem aborts_beyond_clock_lastSecond :
    let args : SendArgs :=
      { path := "s.sock", id := 5, timeout := "9223372036854775807s", attempts := 1 }
    let connect (_ : String) : Traced (Except LinkError (Link.Memory payloadSize)) := pure (.ok {})
    let second : Clock := { Clock.ticking nanosPerSecond with taken := 1 }
    Timeout.parse args.timeout = .ok (.ofSecs 9223372036854775807) ∧
      ¬(run 1 (Clock.ticking 0) connect .json "" args).val.Aborted ∧
      (run 1 second connect .json "" args).val.Aborted := by
  intro args connect second
  have hparse : Timeout.parse args.timeout = .ok (.ofSecs 9223372036854775807) := by
    decide +kernel
  have htransmits : Transmits connect args := ⟨[], {}, rfl, Nat.zero_le _, rfl, rfl⟩
  have hwindow : nanosPerSecond + (window (.ofSecs 9223372036854775807) args).toNanos =
      clockEnd := by decide +kernel
  obtain ⟨-, -, honly, -⟩ :=
    aborts_beyond_clock hparse 1 (Clock.ticking 0) connect .json ""
  obtain ⟨-, -, -, hsure⟩ := aborts_beyond_clock hparse 1 second connect .json ""
  refine ⟨hparse, fun h => ?_, hsure htransmits ?_⟩
  · obtain ⟨-, i, -, hover⟩ := honly h
    have hzero : ((Clock.ticking 0).readings i).nanos = 0 := by
      have hpos : 0 < clockEnd := by decide
      simp [Clock.ticking, Instant.ofNanos?, hpos]
    rw [hzero] at hover
    unfold nanosPerSecond at hwindow
    omega
  · have hone : (second.readings second.taken).nanos = nanosPerSecond := by decide +kernel
    rw [hone, hwindow]

/-- Two to the 64th seconds less one are read as a time, but no clock can show the end of a wait
that goes on for so long: the command writes its frame and is broken off, though the reply is
there. -/
theorem accepted_timeout_overruns :
    let args : SendArgs := { path := "s.sock", id := 5, timeout := "18446744073709551615s" }
    let link : Link.Memory payloadSize := { inbound := [⟨5, 0, 0, Vector.replicate _ 0⟩] }
    ∃ timeout, Timeout.parse args.timeout = .ok timeout ∧ 1 ≤ args.attempts ∧
      (∀ now : Instant, now.add? (window timeout args) = none) ∧
      ∀ rounds clock format timestamp,
        (run rounds clock (fun _ => pure (.ok link)) format timestamp args).val.Aborted := by
  intro args link
  have hparse : Timeout.parse args.timeout = .ok (.ofSecs 18446744073709551615) := by
    decide +kernel
  have hwindow : clockEnd ≤ (window (.ofSecs 18446744073709551615) args).toNanos := by
    decide +kernel
  have hover (now : Instant) : now.Overruns (window (.ofSecs 18446744073709551615) args) :=
    Nat.le_add_left_of_le hwindow
  refine ⟨_, hparse, by decide, fun now => Instant.add?_eq_none_iff.mpr (hover now), ?_⟩
  intro rounds clock format timestamp
  rw [aborted_run_iff hparse]
  exact ⟨[], link, rfl, rfl, exchange_broken_of (Nat.zero_le _) rfl (hover _)⟩

end Send

end Command

end AltBit

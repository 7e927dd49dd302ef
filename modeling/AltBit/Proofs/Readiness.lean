import AltBit.Proofs.Calm

/-!
Whether a frame is there: the two ways to ask a stream. Both answer `true` exactly if they leave a
whole frame in the buffer, which the next read then returns without a call on the channel. A wait
that may take no time is one look at the stream, except that it takes a read that would block for
the answer that nothing is there. A wait whose end the clock cannot show is broken off before it has
looked, whatever is in the buffer.
-/
namespace AltBit

namespace ByteChannel
variable {c : ByteChannel}

/-- A read that has failed has used up an answer, unless there was none left. -/
theorem length_reads_readUninterrupted (c : ByteChannel) (size : Nat) :
    (c.readUninterrupted size).2.reads.length ≤ c.reads.length ∧
      ∀ e, (c.readUninterrupted size).1 = .error e →
        (c.readUninterrupted size).2.reads.length < c.reads.length ∨
          c.reads = [] ∧ c.ending = .silence := by
  obtain ⟨calls, heq⟩ := c.readUninterrupted_eq size
  have hlength := (List.dropWhile_sublist (l := c.reads) isInterruption).length_le
  rw [heq]
  unfold read
  dsimp only [record]
  split
  next hnone =>
    have hreads : 0 < c.reads.length ∨ c.reads = [] :=
      (Nat.eq_zero_or_pos _).symm.imp_right List.eq_nil_of_length_eq_zero
    split
    next => exact ⟨hlength, fun e he => by cases he⟩
    next hsilent => exact ⟨hlength, fun e _ => by simpa [hnone, hsilent] using hreads⟩
  next e rest hreads =>
    have hrest : rest.length < c.reads.length := by
      rw [hreads, List.length_cons] at hlength
      exact hlength
    exact ⟨Nat.le_of_lt hrest, fun _ _ => .inl hrest⟩
  next bytes rest hreads =>
    rw [hreads, List.length_cons] at hlength
    split
    next => exact ⟨Nat.le_of_succ_le hlength, fun e he => by cases he⟩
    next => exact ⟨hlength, fun e he => by cases he⟩

/-- A poll that has answered that the channel is readable has used up an answer, unless there was
none left; then a read does not block for good. -/
theorem length_polls_poll {mayWait : Bool} (h : (c.poll mayWait).1 = .ok true) :
    (c.poll mayWait).2.reads = c.reads ∧ (c.poll mayWait).2.ending = c.ending ∧
      ((c.poll mayWait).2.polls.length < c.polls.length ∨
        (c.poll mayWait).2.polls = c.polls ∧ ¬(c.reads = [] ∧ c.ending = .silence)) := by
  unfold poll at h ⊢
  dsimp only [record] at h ⊢
  split at h
  next hnone =>
    refine ⟨rfl, rfl, .inr ⟨rfl, ?_⟩⟩
    rintro ⟨hreads, hsilent⟩
    simp [hreads, hsilent] at h
  next answer rest hpolls =>
    exact ⟨rfl, rfl, .inl (by simp [hpolls])⟩

end ByteChannel

namespace Link.Stream
open ByteChannel Traced

variable {m : Nat} {s : Stream m}

/-- How many answers of its channel and bytes to come a stream has left for one wait. -/
def left (s : Stream m) : Nat :=
  s.channel.polls.length + s.channel.reads.length + (Frame.length m - s.buffer.length)

/-- What filling the buffer comes to: it is left as it was, or a byte at least is added and no more
than the frame at hand lacks. -/
inductive FillCase (s : Stream m) : Traced (Except LinkError Unit × Stream m) → Prop
  | failed {e : LinkError} {c : ByteChannel} (he : e.isWouldBlock = false) :
      FillCase s (pure (.error e, { s with channel := c }))
  | blocked {c : ByteChannel} (hpolls : c.polls = s.channel.polls)
      (hreads : c.reads.length < s.channel.reads.length ∨
        c.reads.length ≤ s.channel.reads.length ∧ s.channel.reads = [] ∧
          s.channel.ending = .silence) :
      FillCase s (pure (.error .wouldBlock, { s with channel := c }))
  | filled {bytes : List UInt8} {c : ByteChannel} {events : List Event} (hbytes : bytes ≠ [])
      (hbounded : (s.buffer ++ bytes).length ≤ Frame.length m) (hpolls : c.polls = s.channel.polls)
      (hreads : c.reads.length ≤ s.channel.reads.length) :
      FillCase s ⟨(.ok (), { s with channel := c, buffer := s.buffer ++ bytes }), events⟩

theorem fill_cases (hs : s.isComplete = false) : s.FillCase s.fill := by
  have hread := s.channel.reads_readUninterrupted s.wanted
  obtain ⟨hless, hfailed⟩ := s.channel.length_reads_readUninterrupted s.wanted
  unfold fill
  rcases hr : s.channel.readUninterrupted s.wanted with ⟨r, c⟩
  rw [hr] at hread hless hfailed
  have hpolls : c.polls = s.channel.polls := by
    have hothers := congrArg ByteChannel.polls hread.others
    exact hothers
  cases r with
  | error e =>
    dsimp only
    split
    next => exact .blocked hpolls ((hfailed e rfl).imp_right (⟨hless, ·⟩))
    next he => exact .failed (Bool.eq_false_iff.mpr he)
  | ok bytes =>
    cases bytes with
    | nil => exact .failed rfl
    | cons b bytes =>
      exact .filled (List.cons_ne_nil b bytes) (length_buffer_append_brought hs hread) hpolls hless

/-- One look at the channel: whether there was anything to read, which then is in the buffer. -/
def look (s : Stream m) (mayWait : Bool) : Traced (Except LinkError Bool × Stream m) :=
  match s.channel.poll mayWait with
  | (.error e, c) => pure (.error (.io e), { s with channel := c })
  | (.ok false, c) => pure (.ok false, { s with channel := c })
  | (.ok true, c) => (fun x => (x.1.map fun _ => true, x.2)) <$> fill { s with channel := c }

/-- What a look at a stream without a whole frame comes to. The channel may answer that it would
block, or bring bytes of the frame at hand; both leave less for later looks. -/
inductive LookCase (s : Stream m) : Traced (Except LinkError Bool × Stream m) → Prop
  | failed {e : LinkError} {c : ByteChannel} (he : e ≠ .wouldBlock) :
      LookCase s (pure (.error e, { s with channel := c }))
  | nothing {c : ByteChannel} : LookCase s (pure (.ok false, { s with channel := c }))
  | blocked {c : ByteChannel} (hleft : (⟨c, s.buffer⟩ : Stream m).left < s.left) :
      LookCase s (pure (.error .wouldBlock, { s with channel := c }))
  | filled {bytes : List UInt8} {c : ByteChannel} {events : List Event}
      (hbounded : (s.buffer ++ bytes).length ≤ Frame.length m)
      (hleft : (⟨c, s.buffer ++ bytes⟩ : Stream m).left < s.left) :
      LookCase s ⟨(.ok true, { s with channel := c, buffer := s.buffer ++ bytes }), events⟩

theorem look_cases (hs : s.isComplete = false) (mayWait : Bool) :
    s.LookCase (s.look mayWait) := by
  unfold look
  rcases hpoll : s.channel.poll mayWait with ⟨e | _ | _, c⟩
  · exact .failed nofun
  · exact .nothing
  · have hready : (s.channel.poll mayWait).1 = .ok true := congrArg Prod.fst hpoll
    obtain ⟨hreads, hending, hpolls⟩ := length_polls_poll hready
    rw [hpoll] at hreads hending hpolls
    dsimp only at hreads hending hpolls ⊢
    have hs' : (⟨c, s.buffer⟩ : Stream m).isComplete = false := hs
    have hpartial : s.buffer.length < Frame.length m := by simpa [isComplete] using hs
    generalize hx : fill { s with channel := c } = x
    cases hx ▸ fill_cases hs' with
    | failed he => exact .failed (by rintro rfl; cases he)
    | blocked hpolls' hreads' =>
      refine .blocked ?_
      simp only [left]
      dsimp only at hpolls' hreads'
      rw [hreads, hending] at hreads'
      rw [hpolls']
      rcases hpolls with hpolls | ⟨hpolls, hmore⟩
      · have hle : _ ≤ s.channel.reads.length := hreads'.elim Nat.le_of_lt And.left
        omega
      · have hlt := hreads'.resolve_right fun h => hmore h.2
        rw [hpolls]
        omega
    | filled hbytes hbounded hpolls' hreads' =>
      refine .filled hbounded ?_
      have hpos := List.length_pos_iff.mpr hbytes
      have hpolls : c.polls.length ≤ s.channel.polls.length :=
        hpolls.elim Nat.le_of_lt fun h => Nat.le_of_eq (congrArg List.length h.1)
      dsimp only at hpolls' hreads'
      simp only [left, List.length_append, hpolls']
      rw [hreads] at hreads'
      omega

/-- Whether a wait goes on after a look. -/
def goesOn : Except LinkError Bool → Bool
  | .ok true | .error .wouldBlock => true
  | _ => false

/-- What a wait answers for a read that would block: that nothing is there. -/
def unblocked : Except LinkError Bool → Except LinkError Bool
  | .error .wouldBlock => .ok false
  | r => r

theorem goesOn_error {e : LinkError} (he : e ≠ .wouldBlock) : goesOn (.error e) = false := by
  cases e with
  | wouldBlock => exact absurd rfl he
  | _ => rfl

theorem unblocked_error {e : LinkError} (he : e ≠ .wouldBlock) :
    unblocked (.error e) = .error e := by
  cases e with
  | wouldBlock => exact absurd rfl he
  | _ => rfl

/-- The answer after the last look: whether the buffer holds a whole frame now. -/
def verdict (x : Except LinkError Bool × Stream m) : Except LinkError Bool :=
  x.1.map fun _ => x.2.isComplete

theorem available_of_complete (hs : s.isComplete = true) : s.available = pure (.ok true, s) :=
  if_pos hs

theorem available_of_incomplete (hs : s.isComplete = false) :
    s.available = (fun x => (verdict x, x.2)) <$> s.look false := by
  unfold available look
  rw [hs, if_neg Bool.false_ne_true]
  rcases s.channel.poll false with ⟨e | _ | _, c⟩
  · rfl
  · have hverdict : verdict (.ok false, ⟨c, s.buffer⟩) = .ok false := congrArg Except.ok hs
    simp [hverdict]
  · dsimp only
    rw [Functor.map_map, ← bind_pure_comp]
    congr 1
    funext ⟨r, t⟩
    cases r <;> rfl

theorem isComplete_iff (h : s.buffer.length ≤ Frame.length m) :
    s.isComplete = true ↔ s.buffer.length = Frame.length m := by
  rw [isComplete, decide_eq_true_iff]
  exact ⟨Nat.le_antisymm h, fun h => Nat.le_of_eq h.symm⟩

/-- The answer `r`, given with the stream left as `s`, is `true` exactly if a whole frame is in the
buffer. That frame is what a read returns then, without a call on the channel. -/
structure Tells {ε : Type} (s : Stream m) (r : Except ε Bool) : Prop where
  bounded : s.buffer.length ≤ Frame.length m
  ok_true_iff : r = .ok true ↔ s.buffer.length = Frame.length m
  read : r = .ok true →
    ∃ f : Frame m, f.bytes = s.buffer ∧ s.read = pure (.ok f, { s with buffer := [] })

namespace Tells
variable {ε : Type} {r : Except ε Bool}

theorem of_iff (h : s.buffer.length ≤ Frame.length m)
    (hr : r = .ok true ↔ s.buffer.length = Frame.length m) : s.Tells r := by
  refine ⟨h, hr, fun hready => ?_⟩
  have hbytes : (Frame.ofBytes m s.buffer).bytes = s.buffer := by
    rw [Frame.bytes_ofBytes (Nat.le_of_eq (hr.mp hready).symm), List.take_of_length_le h]
  exact ⟨_, hbytes, read_of_buffer hbytes.symm⟩

theorem of_bounded (h : s.buffer.length ≤ Frame.length m) :
    s.Tells (.ok s.isComplete : Except ε Bool) :=
  of_iff h (by rw [Except.ok.injEq, isComplete_iff h])

theorem of_incomplete (hs : s.isComplete = false) (hr : r ≠ .ok true) : s.Tells r := by
  have hpartial : s.buffer.length < Frame.length m := by simpa [isComplete] using hs
  exact of_iff (Nat.le_of_lt hpartial)
    ⟨fun h => absurd h hr, fun h => absurd h (Nat.ne_of_lt hpartial)⟩

theorem unblocked {r : Except LinkError Bool} (h : s.Tells r) : s.Tells (unblocked r) := by
  refine of_iff h.bounded (Iff.trans ?_ h.ok_true_iff)
  unfold Stream.unblocked
  split <;> simp

theorem mapError {ε' : Type} (h : s.Tells r) (f : ε → ε') : s.Tells (r.mapError f) := by
  refine of_iff h.bounded (Iff.trans ?_ h.ok_true_iff)
  cases r <;> simp [Except.mapError]

end Tells

/-- After a look, whether the buffer holds a whole frame is the answer. -/
theorem LookCase.tells {x : Traced (Except LinkError Bool × Stream m)} (h : s.LookCase x)
    (hs : s.isComplete = false) : x.val.2.Tells (verdict x.val) := by
  cases h with
  | failed | blocked => exact .of_incomplete hs nofun
  | nothing => exact .of_bounded (Nat.le_of_lt (by simpa [isComplete] using hs))
  | filled hbounded => exact .of_bounded hbounded

theorem tells_available (h : s.buffer.length ≤ Frame.length m) :
    s.available.val.2.Tells s.available.val.1 := by
  cases hs : s.isComplete with
  | true =>
    rw [available_of_complete hs]
    exact hs ▸ Tells.of_bounded h
  | false =>
    rw [available_of_incomplete hs]
    exact (look_cases hs false).tells hs

/-- Whether the deadline is still to come when the clock is read next. -/
def hasTime (deadline : Instant) (clock : Clock) : Bool := clock.read.1.nanos < deadline.nanos

section
variable {deadline : Instant} {clock : Clock}

theorem waitUntil_of_complete (hs : s.isComplete = true) (rounds : Nat) :
    waitUntil deadline rounds clock s = pure ⟨.ok true, s, clock⟩ := by
  cases rounds with
  | zero => rw [waitUntil, hs]
  | succ rounds => rw [waitUntil, if_pos hs]

/-- A round of a wait is a look, after which it goes on as long as there is time. -/
theorem waitUntil_of_incomplete (hs : s.isComplete = false) (rounds : Nat) :
    waitUntil deadline (rounds + 1) clock s =
      s.look (hasTime deadline clock) >>= fun x =>
        if goesOn x.1 && hasTime deadline clock then waitUntil deadline rounds clock.read.2 x.2
        else pure ⟨(unblocked (verdict x)).mapError .link, x.2, clock.read.2⟩ := by
  rw [waitUntil, hs, if_neg Bool.false_ne_true]
  unfold look
  have hmayWait : decide (clock.read.1.nanos < deadline.nanos) = hasTime deadline clock := rfl
  dsimp only
  rw [hmayWait]
  rcases s.channel.poll (hasTime deadline clock) with ⟨e | _ | _, c⟩
  · rfl
  · have hverdict : verdict (.ok false, ⟨c, s.buffer⟩) = .ok false := congrArg Except.ok hs
    simp [hverdict, goesOn, unblocked, Except.mapError]
  · have hs' : (⟨c, s.buffer⟩ : Stream m).isComplete = false := hs
    have hcases := fill_cases hs'
    dsimp only
    rw [bind_map_left]
    refine bind_congr_val ?_
    generalize fill { s with channel := c } = x at hcases ⊢
    cases hcases with
    | @failed e _ he =>
      have hne : e ≠ .wouldBlock := by
        rintro rfl
        cases he
      simp [he, goesOn_error hne, unblocked_error hne, verdict, Except.map, Except.mapError]
    | @blocked c' =>
      have hs' : (⟨c', s.buffer⟩ : Stream m).isComplete = false := hs
      cases htime : hasTime deadline clock with
      | false =>
        change (pure ⟨.ok (isComplete ⟨c', s.buffer⟩), _, _⟩ : Traced (Waiting m)) =
          pure ⟨.ok false, _, _⟩
        rw [hs']
      | true => rfl
    | filled => cases htime : hasTime deadline clock <;> rfl

/-- A wait is not cut short: from as many rounds on as the stream has left, they change nothing. -/
theorem waitUntil_of_left_le {rounds rounds' : Nat} (h : s.left ≤ rounds) (h' : s.left ≤ rounds') :
    waitUntil deadline rounds clock s = waitUntil deadline rounds' clock s := by
  induction rounds generalizing rounds' s clock with
  | zero =>
    have hs : s.isComplete = true := by
      rw [isComplete, decide_eq_true_iff]
      simp only [left] at h
      omega
    rw [waitUntil_of_complete hs, waitUntil_of_complete hs]
  | succ rounds ih =>
    cases hs : s.isComplete with
    | true => rw [waitUntil_of_complete hs, waitUntil_of_complete hs]
    | false =>
      have hpartial : s.buffer.length < Frame.length m := by simpa [isComplete] using hs
      obtain ⟨rounds', rfl⟩ : ∃ k, rounds' = k + 1 :=
        Nat.exists_eq_add_one_of_ne_zero (by simp only [left] at h'; omega)
      rw [waitUntil_of_incomplete hs, waitUntil_of_incomplete hs]
      refine bind_congr_val ?_
      have hlook := look_cases hs (hasTime deadline clock)
      generalize s.look (hasTime deadline clock) = x at hlook ⊢
      split
      next hmore =>
        have hless : x.val.2.left < s.left := by
          cases hlook with
          | blocked hleft | filled _ hleft => exact hleft
          | nothing => cases hmore
          | failed he => simp [goesOn_error he] at hmore
        exact ih (by omega) (by omega)
      next => rfl

/-- A wait that has begun tells the truth; it is not broken off any more. -/
theorem tells_waitUntil (h : s.buffer.length ≤ Frame.length m) (rounds : Nat) :
    let wait := (waitUntil deadline rounds clock s).val
    wait.result ≠ .error .deadlineUnreachable ∧ wait.stream.Tells wait.result := by
  induction rounds generalizing s clock with
  | zero => exact ⟨nofun, .of_bounded h⟩
  | succ rounds ih =>
    cases hs : s.isComplete with
    | true =>
      rw [waitUntil_of_complete hs]
      exact ⟨nofun, hs ▸ Tells.of_bounded h⟩
    | false =>
      have htells := (look_cases hs (hasTime deadline clock)).tells hs
      rw [waitUntil_of_incomplete hs, val_bind]
      split
      next => exact ih htells.bounded
      next =>
        refine ⟨?_, htells.unblocked.mapError _⟩
        cases unblocked (verdict (s.look (hasTime deadline clock)).val) <;> nofun

variable {timeout : Duration}

theorem waitForFrame_of_overruns (h : clock.read.1.Overruns timeout) (s : Stream m) :
    s.waitForFrame timeout clock = pure ⟨.error .deadlineUnreachable, s, clock.read.2⟩ := by
  have hnone : clock.read.1.add? timeout = none := Instant.add?_eq_none_iff.mpr h
  unfold waitForFrame
  dsimp only
  rw [hnone]

theorem waitForFrame_of_add? (h : clock.read.1.add? timeout = some deadline) {rounds : Nat}
    (hrounds : s.left ≤ rounds) :
    s.waitForFrame timeout clock = waitUntil deadline rounds clock.read.2 s := by
  unfold waitForFrame
  dsimp only
  rw [h]
  exact waitUntil_of_left_le (by simp only [left]; omega) hrounds

theorem tells_waitForFrame (h : s.buffer.length ≤ Frame.length m)
    (hclock : ¬clock.read.1.Overruns timeout) :
    let wait := (s.waitForFrame timeout clock).val
    wait.result ≠ .error .deadlineUnreachable ∧ wait.stream.Tells wait.result := by
  rw [← Instant.add?_eq_none_iff] at hclock
  obtain ⟨deadline, hdeadline⟩ := Option.ne_none_iff_exists'.mp hclock
  rw [waitForFrame_of_add? hdeadline (Nat.le_refl s.left)]
  exact tells_waitUntil h _

end

/-- A wait that may take no time has one round: a look, as the other way to ask takes it. -/
theorem waitForFrame_zero (s : Stream m) (clock : Clock) :
    ∃ clock', s.waitForFrame .zero clock =
      (fun x => ⟨(unblocked x.1).mapError .link, x.2, clock'⟩) <$> s.available := by
  have htime : hasTime clock.read.1 clock.read.2 = false := by
    rw [hasTime, decide_eq_false_iff_not, Nat.not_lt]
    exact clock.monotone clock.taken
  rw [waitForFrame_of_add? (Instant.add?_zero _) (Nat.le_succ s.left)]
  cases hs : s.isComplete with
  | true =>
    refine ⟨clock.read.2, ?_⟩
    rw [available_of_complete hs]
    exact waitUntil_of_complete hs _
  | false =>
    refine ⟨clock.read.2.read.2, ?_⟩
    rw [available_of_incomplete hs, Functor.map_map, ← bind_pure_comp, waitUntil_of_incomplete hs,
      htime]
    simp only [Bool.and_false, Bool.false_eq_true, if_false]

/-- A stream that may come about: begun on any channel, then asked for frames, read and written in
any order; between the calls its channel may become any other. -/
inductive Reachable : Stream m → Prop
  | start (c : ByteChannel) : Reachable { channel := c }
  | change {s : Stream m} (c : ByteChannel) : Reachable s → Reachable { s with channel := c }
  | available {s : Stream m} : Reachable s → Reachable s.available.val.2
  | wait {s : Stream m} (timeout : Duration) (clock : Clock) :
      Reachable s → Reachable (s.waitForFrame timeout clock).val.stream
  | read {s : Stream m} : Reachable s → Reachable s.read.val.2
  | write {s : Stream m} (f : Frame m) : Reachable s → Reachable (s.write f).2

theorem bounded_waitForFrame (h : s.buffer.length ≤ Frame.length m) (timeout : Duration)
    (clock : Clock) : (s.waitForFrame timeout clock).val.stream.buffer.length ≤ Frame.length m := by
  by_cases hclock : clock.read.1.Overruns timeout
  · rw [waitForFrame_of_overruns hclock]
    exact h
  · exact (tells_waitForFrame h hclock).2.bounded

theorem bounded_complete (h : s.buffer.length ≤ Frame.length m) (missing : Nat) :
    (complete missing s).val.2.buffer.length ≤ Frame.length m := by
  induction missing generalizing s with
  | zero => exact h
  | succ missing ih =>
    unfold complete
    cases hs : s.isComplete with
    | true => exact h
    | false =>
      have hfill := fill_cases hs
      rw [if_neg Bool.false_ne_true]
      generalize s.fill = x at hfill ⊢
      cases hfill with
      | failed | blocked => exact h
      | filled _ hbounded => exact ih hbounded

theorem bounded_read (h : s.buffer.length ≤ Frame.length m) :
    s.read.val.2.buffer.length ≤ Frame.length m := by
  have hcomplete := bounded_complete h (Frame.length m - s.buffer.length)
  unfold read
  generalize complete (Frame.length m - s.buffer.length) s = x at hcomplete ⊢
  obtain ⟨⟨e | _, t⟩, events⟩ := x
  · exact hcomplete
  · cases hdecode : Frame.decode? m t.buffer with
    | none => simpa [hdecode] using hcomplete
    | some taken =>
      have hbuffer := congrArg List.length (Frame.bytes_append_of_decode? hdecode)
      rw [List.length_append] at hbuffer
      simpa [hdecode] using Nat.le_trans (Nat.le.intro ((Nat.add_comm ..).trans hbuffer)) hcomplete

theorem buffer_write (s : Stream m) (f : Frame m) : (s.write f).2.buffer = s.buffer := by
  unfold write
  rcases writeAll f.bytes.length f.bytes s.channel with ⟨e | _, c⟩
  · rfl
  · dsimp only
    rcases c.flushUninterrupted with ⟨e | _, c'⟩ <;> rfl

theorem Reachable.bounded (h : s.Reachable) : s.buffer.length ≤ Frame.length m := by
  induction h with
  | start => exact Nat.zero_le _
  | change _ _ ih => exact ih
  | available _ ih => exact (tells_available ih).bounded
  | wait timeout clock _ ih => exact bounded_waitForFrame ih timeout clock
  | read _ ih => exact bounded_read ih
  | write f _ ih => rwa [buffer_write]

/-- Both ways to ask a stream tell the truth, and one that may take no time is the other one. A wait
is broken off exactly if the clock cannot show its end, and then it has changed nothing. -/
theorem probes_agree (h : s.Reachable) (timeout : Duration) (clock : Clock) :
    let look := s.available
    let wait := s.waitForFrame timeout clock
    let glance := s.waitForFrame .zero clock
    look.val.2.Tells look.val.1 ∧
      (wait.val.result ≠ .error .deadlineUnreachable → wait.val.stream.Tells wait.val.result) ∧
      (wait.val.result = .error .deadlineUnreachable ↔ clock.read.1.Overruns timeout) ∧
      (clock.read.1.Overruns timeout → wait.val.stream = s) ∧
      glance.val.stream = look.val.2 ∧
      glance.val.result = (unblocked look.val.1).mapError .link ∧
      glance.events = look.events := by
  intro look wait glance
  have hlook : look.val.2.Tells look.val.1 := tells_available h.bounded
  obtain ⟨clock', hglance⟩ := waitForFrame_zero s clock
  have hagree : glance.val.stream = look.val.2 ∧
      glance.val.result = (unblocked look.val.1).mapError .link ∧ glance.events = look.events := by
    unfold glance
    rw [hglance]
    exact ⟨rfl, rfl, events_map ..⟩
  by_cases hclock : clock.read.1.Overruns timeout
  · have hwait : wait = pure ⟨.error .deadlineUnreachable, s, clock.read.2⟩ :=
      waitForFrame_of_overruns hclock s
    rw [hwait]
    exact ⟨hlook, fun hreturns => absurd rfl hreturns, iff_of_true rfl hclock, fun _ => rfl, hagree⟩
  · obtain ⟨hreturns, htells⟩ := tells_waitForFrame h.bounded hclock
    exact ⟨hlook, fun _ => htells, iff_of_false hreturns hclock, fun h => absurd h hclock, hagree⟩

/-- Two bytes of a frame have come, the channel claims to have more, and the read would block. -/
theorem probes_agree_halfway :
    let c : ByteChannel :=
      { reads := [.ok [5, 0], .error (.system 11)], polls := [.ok true, .ok true] }
    let s : Stream 1 := (available { channel := c }).val.2
    let glance := s.waitForFrame .zero (.ticking 1)
    s.Reachable ∧ s.buffer = [5, 0] ∧ s.available.val.1 = .error .wouldBlock ∧
      glance.val.result = .ok false ∧
      glance.val.stream.channel.calls = [.poll false, .read 4, .poll false, .read 2] := by
  intro c s glance
  have hreachable : s.Reachable := .available (.start c)
  obtain ⟨-, -, -, -, hstream, hresult, -⟩ := probes_agree hreachable .zero (.ticking 1)
  refine ⟨hreachable, by decide +kernel, by decide +kernel, hresult.trans (by decide +kernel), ?_⟩
  rw [hstream]
  decide +kernel

/-- A frame is there, but the clock has come to its last second, and the wait is for two. -/
example :
    let s : Stream 1 := { channel := {}, buffer := [5, 0, 0, 9] }
    let lastSecond : Clock := { Clock.ticking nanosPerSecond with taken := 9223372036854775807 }
    s.available.val.1 = .ok true ∧
      (s.waitForFrame (.ofSecs 2) lastSecond).val.result = .error .deadlineUnreachable := by
  decide +kernel

end Link.Stream

end AltBit

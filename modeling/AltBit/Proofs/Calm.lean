import AltBit.Proofs.Answering
import AltBit.Proofs.Reassembly

/-!
Streams whose channel cuts its bytes as it likes and lets its callers wait, but does not fail. A
call then either moves bytes from the channel to the buffer or leaves one answer of the channel
fewer, so the bytes on their way to a frame do not get stuck; a frame that is written is accepted
whole.
-/
namespace AltBit

namespace ByteChannel

/-- A read that brings a byte at least, or one that has to be repeated. -/
def isCalmRead : Except IoError (List UInt8) → Bool
  | .ok bytes => !bytes.isEmpty
  | .error e => e.isInterrupted || e.isWouldBlock

def isCalmPoll : Except IoError Bool → Bool
  | .ok _ => true
  | .error e => e.isWouldBlock

/-- A write that takes a byte at least, or one that has to be repeated. -/
def isCalmWrite : Except IoError Nat → Bool
  | .ok taken => 0 < taken
  | .error e => e.isInterrupted

def isCalmFlush : Except IoError Unit → Bool
  | .ok () => true
  | .error e => e.isInterrupted

structure Calm (c : ByteChannel) : Prop where
  reads : ∀ r ∈ c.reads, isCalmRead r = true
  polls : ∀ r ∈ c.polls, isCalmPoll r = true
  writes : ∀ r ∈ c.writes, isCalmWrite r = true
  flushes : ∀ r ∈ c.flushes, isCalmFlush r = true

/-- How many answers and bytes a channel still has for its reader. -/
def remaining (c : ByteChannel) : Nat := c.polls.length + c.reads.length + c.unread.length

/-- What is in front of a queue once its interruptions are gone is no interruption. -/
theorem dropWhile_isInterruption {α : Type} {answers : List (Except IoError α)}
    {p : Except IoError α → Bool} (h : ∀ a ∈ answers, p a = true) :
    answers.dropWhile isInterruption = [] ∨
      ∃ a rest, answers.dropWhile isInterruption = a :: rest ∧ isInterruption a = false ∧
        p a = true ∧ ∀ b ∈ rest, p b = true := by
  induction answers with
  | nil => exact .inl rfl
  | cons a rest ih =>
    obtain ⟨ha, hrest⟩ := List.forall_mem_cons.mp h
    cases hi : isInterruption a with
    | true =>
      rw [List.dropWhile_cons_of_pos hi]
      exact ih hrest
    | false =>
      rw [List.dropWhile_cons_of_neg (by simp [hi])]
      exact .inr ⟨a, rest, rfl, hi, ha, hrest⟩

/-- A read that was not in vain: it has brought bytes or used up an answer. -/
structure Advances (c : ByteChannel) (r : Except IoError (List UInt8)) (c' : ByteChannel) :
    Prop where
  calm : c'.Calm
  remaining : c'.remaining < c.remaining
  brought : match r with
    | .ok bytes => bytes ≠ []
    | .error e => e.isWouldBlock = true

variable {c c' : ByteChannel} {size : Nat} {r : Except IoError (List UInt8)}

theorem Reads.calm (h : c.Reads size r c') (hc : c.Calm)
    (hreads : ∀ r ∈ c'.reads, isCalmRead r = true) : c'.Calm := by
  rw [h.others]
  exact { hc with reads := hreads }

theorem Reads.accepted (h : c.Reads size r c') : c'.accepted = c.accepted := by rw [h.others]

theorem Reads.remaining_add (h : c.Reads size r c') :
    c'.remaining + c.reads.length + (brought r).length = c.remaining + c'.reads.length := by
  have hpolls : c'.polls = c.polls := by rw [h.others]
  rw [remaining, remaining, hpolls, h.unread, List.length_append]
  omega

theorem advances_read (h : c.Calm) (hsize : 0 < size) {a : Except IoError (List UInt8)}
    {rest : List (Except IoError (List UInt8))} (hreads : c.reads = a :: rest)
    (ha : isInterruption a = false) : c.Advances (c.read size).1 (c.read size).2 := by
  have hread := c.reads_read size
  have hremaining := hread.remaining_add
  obtain ⟨hcalm, hrest⟩ := List.forall_mem_cons.mp (hreads ▸ h.reads)
  cases a with
  | error e =>
    have heq : (c.read size).1 = .error e ∧ (c.read size).2.reads = rest := by
      simp [ByteChannel.read, record, hreads]
    rw [heq.1] at hread hremaining ⊢
    rw [heq.2, hreads, List.length_cons] at hremaining
    have hinterrupted : e.isInterrupted = false := ha
    refine ⟨hread.calm h (heq.2 ▸ hrest), by omega, ?_⟩
    simpa [isCalmRead, hinterrupted] using hcalm
  | ok bytes =>
    have hbytes : bytes ≠ [] := by simpa [isCalmRead] using hcalm
    have htake : bytes.take size ≠ [] := by simpa [hbytes] using Nat.ne_of_gt hsize
    have heq : (c.read size).1 = .ok (bytes.take size) ∧ (c.read size).2.reads =
        if bytes.length ≤ size then rest else .ok (bytes.drop size) :: rest := by
      simp only [ByteChannel.read, record, hreads]
      split
      · rw [List.take_of_length_le ‹_›]
        exact ⟨rfl, rfl⟩
      · exact ⟨rfl, rfl⟩
    rw [heq.1] at hread hremaining ⊢
    have hpos : 0 < (brought (.ok (bytes.take size))).length := List.length_pos_iff.mpr htake
    refine ⟨hread.calm h ?_, ?_, htake⟩
    · rw [heq.2]
      split
      · exact hrest
      · refine List.forall_mem_cons.mpr ⟨?_, hrest⟩
        have hdrop : bytes.drop size ≠ [] := by simpa using ‹¬bytes.length ≤ size›
        simpa [isCalmRead] using hdrop
    · have hlength : (c.read size).2.reads.length ≤ c.reads.length := by
        rw [heq.2, hreads]
        split
        · exact Nat.le_succ _
        · exact Nat.le_refl _
      omega

/-- While bytes are there to be read, no read is in vain. -/
theorem advances_readUninterrupted (h : c.Calm) (hmore : c.unread ≠ []) {size : Nat}
    (hsize : 0 < size) :
    c.Advances (c.readUninterrupted size).1 (c.readUninterrupted size).2 := by
  have hsublist := List.dropWhile_sublist (l := c.reads) isInterruption
  have hunread := unread_dropWhile_isInterruption c
  obtain ⟨calls, heq⟩ := c.readUninterrupted_eq size
  rcases dropWhile_isInterruption h.reads with hnone | ⟨a, rest, hreads, ha, -⟩
  · rw [unread, hnone] at hunread
    exact absurd hunread.symm hmore
  · rw [heq]
    have hadvances := advances_read (c := { c.record calls with
      reads := c.reads.dropWhile isInterruption })
      { h with reads := fun r hr => h.reads r (hsublist.mem hr) } hsize hreads ha
    refine { hadvances with remaining := Nat.lt_of_lt_of_le hadvances.remaining ?_ }
    have hlength := hsublist.length_le
    have hsame : (unread { c.record calls with
        reads := c.reads.dropWhile isInterruption }) = c.unread := hunread
    rw [remaining, remaining, hsame]
    dsimp only [record]
    omega

/-- A poll that was not in vain: it shows that bytes are there or has used up an answer. -/
structure Shows (c : ByteChannel) (r : Except IoError Bool) (c' : ByteChannel) : Prop where
  calm : c'.Calm
  unread : c'.unread = c.unread
  accepted : c'.accepted = c.accepted
  remaining_le : c'.remaining ≤ c.remaining
  remaining : r = .ok true ∨ c'.remaining < c.remaining
  blocked : ∀ e, r = .error e → e.isWouldBlock = true

theorem shows_poll (h : c.Calm) (hmore : c.unread ≠ []) (mayWait : Bool) :
    c.Shows (c.poll mayWait).1 (c.poll mayWait).2 := by
  unfold ByteChannel.poll
  dsimp only [record]
  split
  next hpolls =>
    have hreads : c.reads ≠ [] := by
      intro hnone
      rw [unread, hnone] at hmore
      exact hmore rfl
    have hshown : (!c.reads.isEmpty || c.ending == .endOfStream) = true := by simp [hreads]
    rw [hshown]
    exact ⟨{ h with }, rfl, rfl, Nat.le_refl _, .inl rfl, fun e he => by cases he⟩
  next answer rest hpolls =>
    obtain ⟨hanswer, hrest⟩ := List.forall_mem_cons.mp (hpolls ▸ h.polls)
    have hremaining : rest.length + c.reads.length + c.unread.length < c.remaining := by
      rw [remaining, hpolls, List.length_cons]
      omega
    refine ⟨{ h with polls := hrest }, rfl, rfl, Nat.le_of_lt hremaining, .inr hremaining, ?_⟩
    rintro e rfl
    exact hanswer

/-- A channel that has accepted `bytes` more, of which its reader notices nothing. -/
structure Takes (c : ByteChannel) (bytes : List UInt8) (c' : ByteChannel) : Prop where
  calm : c'.Calm
  accepted : c'.accepted = c.accepted ++ bytes
  others : c' = { c with
    writes := c'.writes, flushes := c'.flushes, calls := c'.calls, accepted := c'.accepted }

namespace Takes
variable {bytes more : List UInt8} {c'' : ByteChannel}

theorem nothing (h : c.Calm) : c.Takes [] c :=
  ⟨h, (List.append_nil _).symm, rfl⟩

theorem trans (h : c.Takes bytes c') (h' : c'.Takes more c'') : c.Takes (bytes ++ more) c'' := by
  refine ⟨h'.calm, ?_, ?_⟩
  · rw [h'.accepted, h.accepted, List.append_assoc]
  · rw [h'.others, h.others]

theorem unread (h : c.Takes bytes c') : c'.unread = c.unread := by
  rw [h.others]
  rfl

theorem remaining (h : c.Takes bytes c') : c'.remaining = c.remaining := by
  rw [h.others]
  rfl

end Takes

variable {bytes : List UInt8}

theorem takes_writeUninterrupted (h : c.Calm) (hbytes : bytes ≠ []) :
    ∃ taken c', c.writeUninterrupted bytes = (.ok (taken + 1), c') ∧
      c.Takes (bytes.take (taken + 1)) c' := by
  obtain ⟨calls, heq⟩ := c.writeUninterrupted_eq bytes
  obtain ⟨size, hsize⟩ := Nat.exists_eq_add_one_of_ne_zero (mt List.length_eq_zero_iff.mp hbytes)
  rw [heq]
  unfold ByteChannel.write
  rcases dropWhile_isInterruption h.writes with hnone | ⟨a, rest, hwrites, ha, hcalm, hrest⟩
  · simp only [record, hnone, hsize]
    refine ⟨size, _, rfl, { h with writes := by simp }, ?_, rfl⟩
    rw [← hsize, List.take_length]
  · simp only [record, hwrites]
    cases a with
    | error e => exact absurd (ha.symm.trans hcalm) Bool.false_ne_true
    | ok k =>
      have hk : 0 < k := by simpa [isCalmWrite] using hcalm
      obtain ⟨taken, htaken⟩ : ∃ taken, min k bytes.length = taken + 1 :=
        Nat.exists_eq_add_one_of_ne_zero (by omega)
      simp only [htaken]
      refine ⟨taken, _, rfl, { h with writes := hrest }, ?_, rfl⟩
      rw [← htaken, ← List.take_eq_take_min]

theorem takes_flushUninterrupted (h : c.Calm) :
    ∃ c', c.flushUninterrupted = (.ok (), c') ∧ c.Takes [] c' := by
  obtain ⟨calls, heq⟩ := c.flushUninterrupted_eq
  rw [heq]
  unfold ByteChannel.flush
  rcases dropWhile_isInterruption h.flushes with hnone | ⟨a, rest, hflushes, ha, hcalm, hrest⟩
  · simp only [record, hnone]
    exact ⟨_, rfl, { h with flushes := by simp }, (List.append_nil _).symm, rfl⟩
  · simp only [record, hflushes]
    cases a with
    | error e => exact absurd (ha.symm.trans hcalm) Bool.false_ne_true
    | ok => exact ⟨_, rfl, { h with flushes := hrest }, (List.append_nil _).symm, rfl⟩

end ByteChannel

namespace Link.Stream
open ByteChannel

variable {m : Nat}

theorem takes_writeAll (rounds : Nat) {bytes : List UInt8} {c : ByteChannel} (h : c.Calm)
    (hrounds : bytes.length ≤ rounds) :
    ∃ c', writeAll rounds bytes c = (.ok (), c') ∧ c.Takes bytes c' := by
  induction rounds generalizing bytes c with
  | zero =>
    obtain rfl := List.length_eq_zero_iff.mp (Nat.le_zero.mp hrounds)
    exact ⟨c, rfl, .nothing h⟩
  | succ rounds ih =>
    cases bytes with
    | nil => exact ⟨c, rfl, .nothing h⟩
    | cons b bytes =>
      obtain ⟨taken, c₁, hwrite, htakes⟩ := takes_writeUninterrupted h (List.cons_ne_nil b bytes)
      have hrounds' : ((b :: bytes).drop (taken + 1)).length ≤ rounds := by
        rw [List.length_cons] at hrounds
        rw [List.drop_succ_cons, List.length_drop]
        omega
      obtain ⟨c₂, hrest, htakes'⟩ := ih htakes.calm hrounds'
      refine ⟨c₂, ?_, ?_⟩
      · simp only [writeAll, hwrite]
        exact hrest
      · rw [← List.take_append_drop (taken + 1) (b :: bytes)]
        exact htakes.trans htakes'

/-- A frame is accepted whole, in whatever pieces. -/
theorem takes_write {s : Stream m} (h : s.channel.Calm) (f : Frame m) :
    ∃ c, s.write f = (.ok (), { s with channel := c }) ∧ s.channel.Takes f.bytes c := by
  obtain ⟨c₁, hwrite, htakes⟩ := takes_writeAll f.bytes.length h (Nat.le_refl _)
  obtain ⟨c₂, hflush, htakes'⟩ := takes_flushUninterrupted htakes.calm
  refine ⟨c₂, by simp only [write, hwrite, hflush], ?_⟩
  rw [← List.append_nil f.bytes]
  exact htakes.trans htakes'

/-- The stream `s'` is what has become of `s` while bytes went from its channel to its buffer. -/
structure Progress (s s' : Stream m) : Prop where
  calm : s'.channel.Calm
  bytes : s'.buffer ++ s'.channel.unread = s.buffer ++ s.channel.unread
  bounded : s'.buffer.length ≤ Frame.length m
  accepted : s'.channel.accepted = s.channel.accepted
  remaining : s'.channel.remaining < s.channel.remaining

section
variable {s : Stream m}

theorem progress_fill (h : s.channel.Calm) (hs : s.isComplete = false)
    (hmore : s.channel.unread ≠ []) :
    s.Progress s.fill.val.2 ∧ handlerCalls s.fill.events = [] ∧
      ∀ e, s.fill.val.1 = .error e → e.isWouldBlock = true ∧ s.fill.val.2.buffer = s.buffer := by
  have hpartial : s.buffer.length < Frame.length m := by simpa [isComplete] using hs
  have hwanted : 0 < s.wanted := by
    have hpos := Nat.sub_pos_of_lt hpartial
    rw [wanted, Nat.mod_eq_of_lt hpartial]
    exact Nat.lt_min.mpr ⟨hpos, by decide⟩
  have hadvances := advances_readUninterrupted h hmore hwanted
  have hread := s.channel.reads_readUninterrupted s.wanted
  unfold fill
  rcases hr : s.channel.readUninterrupted s.wanted with ⟨r, c⟩
  rw [hr] at hadvances hread
  have hprogress : s.Progress { s with channel := c, buffer := s.buffer ++ brought r } := by
    refine ⟨hadvances.calm, ?_, length_buffer_append_brought hs hread, hread.accepted,
      hadvances.remaining⟩
    rw [hread.unread, List.append_assoc]
  have hbrought := hadvances.brought
  cases r with
  | error e =>
    have hblock : e.isWouldBlock = true := hbrought
    refine ⟨by simpa [brought] using hprogress, rfl, ?_⟩
    simp [hblock, LinkError.isWouldBlock]
  | ok bytes =>
    cases bytes with
    | nil => exact absurd rfl hbrought
    | cons b bytes => exact ⟨hprogress, rfl, fun e he => by cases he⟩

/-- While a frame is on its way, a look at the stream brings it nearer. -/
theorem progress_isReady (h : s.channel.Calm) (hs : s.isComplete = false)
    (hmore : s.channel.unread ≠ []) :
    s.Progress (Link.isReady s).val.2 ∧ handlerCalls (Link.isReady s).events = [] ∧
      (Link.isReady s).val.1 = .ok (Link.isReady s).val.2.isComplete := by
  have hlook : Link.isReady s = s.available >>= fun x => pure (Link.settle false x.1, x.2) := rfl
  have hshows := shows_poll h hmore false
  rw [hlook, available, hs, if_neg Bool.false_ne_true]
  rcases hc : s.channel.poll false with ⟨ready, c⟩
  rw [hc] at hshows
  have hunread : c.unread = s.channel.unread := hshows.unread
  have hpolled (hlt : c.remaining < s.channel.remaining) :
      s.Progress { s with channel := c } := by
    refine ⟨hshows.calm, by rw [hunread], ?_, hshows.accepted, hlt⟩
    exact Nat.le_of_lt (by simpa [isComplete] using hs)
  cases ready with
  | error e =>
    have hlt := hshows.remaining.resolve_left (fun h => by cases h)
    have hnothing : Link.settle false (.error (.io e)) = .ok false := by
      simp [Link.settle, LinkError.isWouldBlock, hshows.blocked e rfl]
    exact ⟨hpolled hlt, rfl, hnothing.trans (by rw [← hs]; rfl)⟩
  | ok b =>
    cases b with
    | false =>
      have hlt := hshows.remaining.resolve_left (fun h => by cases h)
      exact ⟨hpolled hlt, rfl, congrArg Except.ok hs.symm⟩
    | true =>
      have hfill := progress_fill (s := { s with channel := c }) hshows.calm hs (hunread ▸ hmore)
      dsimp only
      rcases hx : (fill { s with channel := c }).val with ⟨r, t⟩
      rw [hx] at hfill
      obtain ⟨hfilled, hevents, hfailed⟩ := hfill
      have hprogress : s.Progress t :=
        ⟨hfilled.calm, hfilled.bytes.trans (by rw [hunread]), hfilled.bounded,
          hfilled.accepted.trans hshows.accepted,
          Nat.lt_of_lt_of_le hfilled.remaining hshows.remaining_le⟩
      cases r with
      | error e =>
        obtain ⟨hblock, hsame⟩ := hfailed e rfl
        have hpartial : t.isComplete = false := by
          rw [isComplete, hsame]
          exact hs
        simp only [Traced.val_bind, Traced.events_bind, hx]
        exact ⟨hprogress, by simpa using hevents, by simp [Link.settle, hblock, hpartial]⟩
      | ok =>
        simp only [Traced.val_bind, Traced.events_bind, hx]
        exact ⟨hprogress, by simpa using hevents, rfl⟩

theorem read_of_buffer {f : Frame m} (hs : s.buffer = f.bytes) :
    s.read = pure (.ok f, { s with buffer := [] }) := by
  have hdecode := Frame.decode?_bytes_append f []
  rw [List.append_nil, ← hs] at hdecode
  have hmissing : Frame.length m - s.buffer.length = 0 := by rw [hs, f.length_bytes, Nat.sub_self]
  rw [read, hmissing, complete, pure_bind]
  simp only [hdecode]

/-- Once a frame is there it is what comes next, and nothing is left in the buffer. -/
theorem receive_of_complete {f : Frame m} {rest : List UInt8} (hs : s.isComplete = true)
    (hbounded : s.buffer.length ≤ Frame.length m)
    (hbytes : s.buffer ++ s.channel.unread = f.bytes ++ rest) :
    Link.receive s = pure (.ok (some f), { s with buffer := [] }) ∧ s.channel.unread = rest := by
  have hlength : Frame.length m ≤ s.buffer.length := by simpa [isComplete] using hs
  obtain ⟨hbuffer, hunread⟩ := List.append_inj hbytes
    ((Nat.le_antisymm hbounded hlength).trans f.length_bytes.symm)
  refine ⟨?_, hunread⟩
  have hreceive : Link.receive s =
      s.read >>= fun x => pure (Link.settle none (x.1.map some), x.2) := rfl
  rw [hreceive, read_of_buffer hbuffer]
  rfl

end

end Link.Stream

end AltBit

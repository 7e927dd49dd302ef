import AltBit.Link.Stream
import AltBit.Proofs.Triple
import Mathlib.Data.List.Basic

/-!
Frames put together from a stream of bytes. The bytes that a channel has delivered are those of the
frames that were returned, followed by the bytes in the buffer. The invariant holds after each read
of the channel, so it also covers calls that fail halfway.
-/
namespace AltBit.Link.Stream
open ByteChannel Traced

variable {m : Nat}

theorem length_buffer_append_brought {s : Stream m} (hs : s.isComplete = false)
    {r : Except IoError (List UInt8)} {c : ByteChannel} (hread : s.channel.Reads s.wanted r c) :
    (s.buffer ++ brought r).length ≤ Frame.length m := by
  have hpartial : s.buffer.length < Frame.length m := by simpa [isComplete] using hs
  have hfits := hread.fits
  rw [wanted, Nat.mod_eq_of_lt hpartial] at hfits
  rw [List.length_append]
  omega

/-- How far a stream has come. Its channel had the bytes `all` to give, of which it has delivered
`before` and then what is in the buffer; the buffer still begins with `kept` and has never been
longer than a frame. -/
structure Sound (all before kept : List UInt8) (s : Stream m) (log : List Event) : Prop where
  all : s.channel.delivered ++ s.channel.unread = all
  delivered : s.channel.delivered = before ++ s.buffer
  kept : kept <+: s.buffer
  bounded : s.buffer.length ≤ Frame.length m
  received : ∀ count buffered, .received count buffered ∈ log → buffered ≤ Frame.length m

namespace Sound
variable {all before kept : List UInt8} {s : Stream m} {log : List Event}

/-- Nothing need be known of what the buffer begins with. -/
theorem forget (h : Sound all before kept s log) : Sound all before [] s log :=
  { h with kept := List.nil_prefix }

theorem poll (h : Sound all before kept s log) (mayWait : Bool) :
    Sound (m := m) all before kept { s with channel := (s.channel.poll mayWait).2 } log := by
  have hpoll : (s.channel.poll mayWait).2.delivered = s.channel.delivered ∧
      (s.channel.poll mayWait).2.unread = s.channel.unread := by
    unfold ByteChannel.poll
    dsimp only [record]
    split <;> exact ⟨rfl, rfl⟩
  exact { h with
    all := by rw [hpoll.1, hpoll.2, h.all]
    delivered := hpoll.1.trans h.delivered }

theorem read (h : Sound all before kept s log) (hs : s.isComplete = false)
    {r : Except IoError (List UInt8)} {c : ByteChannel} (hread : s.channel.Reads s.wanted r c) :
    Sound (m := m) all before kept
      { s with channel := c, buffer := s.buffer ++ brought r } log := by
  refine ⟨?_, ?_, h.kept.trans (List.prefix_append ..), length_buffer_append_brought hs hread,
    h.received⟩
  · rw [← h.all, hread.delivered, hread.unread, List.append_assoc]
  · rw [hread.delivered, h.delivered, List.append_assoc]

/-- Reading the channel is told truly. -/
theorem emit (h : Sound all before kept s log) (count : Nat) :
    Sound all before kept s (log ++ [.received count s.buffer.length]) := by
  refine { h with received := fun n buffered hmem => ?_ }
  rcases List.mem_append.mp hmem with hmem | hmem
  · exact h.received n buffered hmem
  · obtain ⟨-, rfl⟩ : n = count ∧ buffered = s.buffer.length := by simpa using hmem
    exact h.bounded

/-- A frame that is taken off the buffer adds to what was delivered before. -/
theorem decode (h : Sound all before kept s log) {f : Frame m} {rest : List UInt8}
    (hdecode : Frame.decode? m s.buffer = some (f, rest)) :
    Sound (m := m) all (before ++ f.bytes) [] { s with buffer := rest } log := by
  have hbuffer := Frame.bytes_append_of_decode? hdecode
  refine ⟨h.all, ?_, List.nil_prefix, ?_, h.received⟩
  · rw [List.append_assoc, hbuffer]
    exact h.delivered
  · refine Nat.le_trans ?_ h.bounded
    rw [← hbuffer, List.length_append]
    exact Nat.le_add_left ..

end Sound

section
variable {all before kept : List UInt8}

theorem sound_fill (s : Stream m) (hs : s.isComplete = false) :
    Triple (Sound all before kept s) s.fill fun x => Sound all before kept x.2 := by
  have hread := s.channel.reads_readUninterrupted s.wanted
  unfold fill
  rcases hr : s.channel.readUninterrupted s.wanted with ⟨r, c⟩
  rw [hr] at hread
  have hsound (log : List Event) (h : Sound all before kept s log) := h.read hs hread
  cases r with
  | error e => exact Triple.pure fun log hlog => by simpa [brought] using hsound log hlog
  | ok bytes =>
    cases bytes with
    | nil => exact Triple.pure fun log hlog => by simpa [brought] using hsound log hlog
    | cons b bytes =>
      refine Triple.bind (Triple.emit (Q := fun _ => Sound (m := m) all before kept
        { s with channel := c, buffer := s.buffer ++ b :: bytes }) ?_) fun _ => ?_
      · exact fun log hlog => (hsound log hlog).emit _
      · exact Triple.pure fun _ hlog => hlog

theorem sound_available (s : Stream m) :
    Triple (Sound all before kept s) s.available fun x => Sound all before kept x.2 := by
  have hpoll (log : List Event) (h : Sound all before kept s log) := h.poll false
  unfold available
  cases hs : s.isComplete with
  | true => exact Triple.pure fun _ hlog => hlog
  | false =>
    rcases hc : s.channel.poll false with ⟨ready, c⟩
    rw [hc] at hpoll
    cases ready with
    | error e => exact Triple.pure hpoll
    | ok b =>
      cases b with
      | false => exact Triple.pure hpoll
      | true =>
        refine Triple.bind (Triple.of_imp hpoll (sound_fill _ hs)) ?_
        rintro ⟨_ | _, t⟩ <;> exact Triple.pure fun _ hlog => hlog

theorem sound_complete (missing : Nat) (s : Stream m) :
    Triple (Sound all before kept s) (complete missing s) fun x => Sound all before kept x.2 := by
  induction missing generalizing s with
  | zero => exact Triple.pure fun _ hlog => hlog
  | succ missing ih =>
    unfold complete
    cases hs : s.isComplete with
    | true => exact Triple.pure fun _ hlog => hlog
    | false =>
      refine Triple.bind (sound_fill s hs) ?_
      rintro ⟨e | _, t⟩
      · exact Triple.pure fun _ hlog => hlog
      · exact ih t

theorem sound_read (s : Stream m) :
    Triple (Sound all before kept s) s.read fun x log =>
      match x.1 with
      | .ok f => Sound all (before ++ f.bytes) [] x.2 log
      | .error _ => Sound all before kept x.2 log := by
  refine Triple.bind (sound_complete _ s) ?_
  rintro ⟨e | _, t⟩
  · exact Triple.pure fun _ hlog => hlog
  · dsimp only
    cases hdecode : Frame.decode? m t.buffer with
    | none => exact Triple.pure fun _ hlog => hlog
    | some taken => exact Triple.pure fun _ hlog => hlog.decode hdecode

theorem sound_waitUntil (deadline : Instant) (rounds : Nat) (clock : Clock) (s : Stream m) :
    Triple (Sound all before kept s) (waitUntil deadline rounds clock s) fun w =>
      Sound all before kept w.stream := by
  induction rounds generalizing clock s with
  | zero => exact Triple.pure fun _ hlog => hlog
  | succ rounds ih =>
    unfold waitUntil
    cases hs : s.isComplete with
    | true => exact Triple.pure fun _ hlog => hlog
    | false =>
      obtain ⟨now, clock⟩ := clock.read
      have hpoll (log : List Event) (h : Sound all before kept s log) :=
        h.poll (decide (now.nanos < deadline.nanos))
      dsimp only
      rcases hc : s.channel.poll (decide (now.nanos < deadline.nanos)) with ⟨ready, c⟩
      rw [hc] at hpoll
      cases ready with
      | error e => exact Triple.pure hpoll
      | ok b =>
        cases b with
        | false => exact Triple.pure hpoll
        | true =>
          refine Triple.bind (Triple.of_imp hpoll (sound_fill _ hs)) ?_
          rintro ⟨e | _, t⟩ <;> dsimp only
          · split
            · exact Triple.pure fun _ hlog => hlog
            · split
              · exact ih clock t
              · exact Triple.pure fun _ hlog => hlog
          · split
            · exact ih clock t
            · exact Triple.pure fun _ hlog => hlog

theorem sound_waitForFrame (s : Stream m) (timeout : Duration) (clock : Clock) :
    Triple (Sound all before kept s) (s.waitForFrame timeout clock) fun w =>
      Sound all before kept w.stream := by
  unfold waitForFrame
  dsimp only
  cases clock.read.1.add? timeout with
  | none => exact Triple.pure fun _ hlog => hlog
  | some deadline => exact sound_waitUntil _ _ _ s

end

/-- A call made for incoming frames. -/
inductive Request where
  | available
  | wait (timeout : Duration) (clock : Clock)
  | read

/-- A stream in the hands of a caller, who passes the frame to be overwritten to each read. -/
structure Reader (m : Nat) where
  stream : Stream m
  frame : Frame m
  /-- The frames that reads have returned. -/
  returned : List (Frame m) := []

namespace Reader

/-- Makes a call; the error it fails with, if any, comes first. -/
def request (r : Reader m) : Request → Traced (Option WaitError × Reader m)
  | .available => do
    match ← r.stream.available with
    | (.ok _, stream) => pure (none, { r with stream })
    | (.error e, stream) => pure (some (.link e), { r with stream })
  | .wait timeout clock => do
    let waiting ← r.stream.waitForFrame timeout clock
    match waiting.result with
    | .ok _ => pure (none, { r with stream := waiting.stream })
    | .error e => pure (some e, { r with stream := waiting.stream })
  | .read => do
    match ← r.stream.read with
    | (.ok f, stream) => pure (none, { stream, frame := f, returned := r.returned ++ [f] })
    | (.error e, stream) => pure (some (.link e), { r with stream })

def requests (r : Reader m) : List Request → Traced (Reader m)
  | [] => pure r
  | q :: qs => do
    let (_, r) ← r.request q
    r.requests qs

/-- The frames that were returned and the bytes in the buffer are what the channel has delivered
since it had delivered `earlier`. -/
def Sound (all earlier : List UInt8) (r : Reader m) (log : List Event) : Prop :=
  r.stream.Sound all (earlier ++ r.returned.flatMap Frame.bytes) [] log

/-- A call that fails leaves the caller's frame as it was and adds to the buffer at most. -/
def Undone (r : Reader m) (x : Option WaitError × Reader m) : Prop :=
  x.1.isSome = true →
    x.2.frame = r.frame ∧ x.2.returned = r.returned ∧ r.stream.buffer <+: x.2.stream.buffer

theorem sound_request (all earlier : List UInt8) (r : Reader m) (q : Request) :
    Triple (r.Sound all earlier) (r.request q) fun x log =>
      x.2.Sound all earlier log ∧ r.Undone x := by
  have hkept (log : List Event) (h : r.Sound all earlier log) :
      r.stream.Sound all (earlier ++ r.returned.flatMap Frame.bytes) r.stream.buffer log :=
    { h with kept := List.prefix_rfl }
  cases q with
  | available =>
    refine Triple.bind (Triple.of_imp hkept (sound_available r.stream)) ?_
    rintro ⟨_ | _, t⟩ <;>
      exact Triple.pure fun _ hlog => ⟨hlog.forget, fun _ => ⟨rfl, rfl, hlog.kept⟩⟩
  | wait timeout clock =>
    refine Triple.bind (Triple.of_imp hkept (sound_waitForFrame r.stream timeout clock)) ?_
    rintro ⟨_ | _, t, clock⟩ <;>
      exact Triple.pure fun _ hlog => ⟨hlog.forget, fun _ => ⟨rfl, rfl, hlog.kept⟩⟩
  | read =>
    refine Triple.bind (Triple.of_imp hkept (sound_read r.stream)) ?_
    rintro ⟨e | f, t⟩
    · exact Triple.pure fun _ hlog => ⟨hlog.forget, fun _ => ⟨rfl, rfl, hlog.kept⟩⟩
    · refine Triple.pure fun log hlog => ⟨?_, fun h => nomatch h⟩
      simpa [Sound] using hlog

theorem sound_requests (all earlier : List UInt8) (r : Reader m) (qs : List Request) :
    Triple (r.Sound all earlier) (r.requests qs) fun r => r.Sound all earlier := by
  induction qs generalizing r with
  | nil => exact Triple.pure fun _ hlog => hlog
  | cons q qs ih =>
    refine Triple.bind (sound_request all earlier r q) fun x => ?_
    exact Triple.of_imp (fun _ hlog => hlog.1) (ih x.2)

/-- The `i`-th block of `n` bytes. -/
def block (n i : Nat) (bytes : List UInt8) : List UInt8 := (bytes.drop (i * n)).take n

theorem block_flatMap_bytes (fs : List (Frame m)) (rest : List UInt8) (i : Nat)
    (hi : i < fs.length) :
    block (Frame.length m) i (fs.flatMap Frame.bytes ++ rest) = fs[i].bytes := by
  unfold block
  induction fs generalizing i with
  | nil => exact absurd hi (Nat.not_lt_zero i)
  | cons f fs ih =>
    rw [List.flatMap_cons, List.append_assoc]
    cases i with
    | zero =>
      rw [Nat.zero_mul, List.drop_zero, List.take_left' f.length_bytes]
      rfl
    | succ i =>
      rw [Nat.succ_mul, Nat.add_comm, ← List.drop_drop, List.drop_left' f.length_bytes]
      exact ih i (Nat.lt_of_succ_lt_succ hi)

/-- However a channel cuts its bytes and whichever calls fail on the way, the frames returned and
the bytes in the buffer are the bytes delivered, each frame a block of them; the buffer never holds
more than a frame, and a call that fails takes nothing away. -/
theorem reassembles (c : ByteChannel) (frame : Frame m) (qs : List Request) :
    let run := requests (m := m) { stream := { channel := c }, frame } qs
    let reader := run.val
    let bytes := reader.returned.flatMap Frame.bytes ++ reader.stream.buffer
    reader.stream.channel.delivered = c.delivered ++ bytes ∧
      c.unread = bytes ++ reader.stream.channel.unread ∧
      (∀ i (hi : i < reader.returned.length),
        reader.returned[i].bytes = block (Frame.length m) i bytes) ∧
      reader.stream.buffer.length ≤ Frame.length m ∧
      (∀ count buffered, .received count buffered ∈ run.events → buffered ≤ Frame.length m) ∧
      ∀ q, reader.Undone (reader.request q).val := by
  intro run reader bytes
  have hstart : Sound (m := m) (c.delivered ++ c.unread) c.delivered
      { stream := { channel := c }, frame } [] :=
    ⟨rfl, by simp, List.nil_prefix, Nat.zero_le _, by simp⟩
  have hsound : reader.Sound (c.delivered ++ c.unread) c.delivered run.events :=
    sound_requests _ _ _ qs [] hstart
  have hdelivered : reader.stream.channel.delivered = c.delivered ++ bytes := by
    rw [hsound.delivered, List.append_assoc]
  refine ⟨hdelivered, ?_, ?_, hsound.bounded, hsound.received, ?_⟩
  · have hall := hsound.all
    rw [hdelivered, List.append_assoc] at hall
    exact (List.append_cancel_left hall).symm
  · intro i hi
    exact (block_flatMap_bytes _ _ i hi).symm
  · intro q
    exact (sound_request _ _ reader q _ hsound).2

/-- The second frame is cut short by the end of the stream: its bytes stay where they are. -/
example :
    let channel : ByteChannel :=
      { reads := [.ok [7, 0], .error (.system 4), .ok [0, 9, 8], .error (.system 11), .ok [1]] }
    let reader := requests (m := 1) { stream := { channel }, frame := .zero }
      [.read, .available, .available, .read]
    reader.val.returned.map Frame.bytes = [[7, 0, 0, 9]] ∧ reader.val.stream.buffer = [8, 1] := by
  decide +kernel

end Reader

end AltBit.Link.Stream

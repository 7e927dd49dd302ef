import AltBit.Proofs.Calm
import AltBit.Proofs.Framing

/-!
Whole frames and pieces of frames on the wire. A write that fails may leave a piece of its frame
behind, and the next write begins with a whole frame all the same. So a frame whose write succeeds
is read as it was written if the bytes accepted before it make up whole frames; otherwise it can be
lost.
-/
namespace AltBit

namespace ByteChannel

/-- How many bytes a write has taken; a failed one takes none. -/
def taken : Except IoError Nat → Nat
  | .ok k => k
  | .error _ => 0

theorem accepted_write (c : ByteChannel) (bytes : List UInt8) :
    (c.write bytes).2.accepted = c.accepted ++ bytes.take (taken (c.write bytes).1) := by
  unfold write
  dsimp only [record]
  split
  · simp [taken]
  · simp [taken]
  · simp [taken, ← List.take_eq_take_min]

theorem accepted_flush (c : ByteChannel) : c.flush.2.accepted = c.accepted := by
  unfold flush
  dsimp only [record]
  split <;> rfl

theorem accepted_writeUninterrupted (c : ByteChannel) (bytes : List UInt8) :
    (c.writeUninterrupted bytes).2.accepted =
      c.accepted ++ bytes.take (taken (c.writeUninterrupted bytes).1) := by
  obtain ⟨calls, heq⟩ := c.writeUninterrupted_eq bytes
  rw [heq]
  exact accepted_write _ bytes

theorem accepted_flushUninterrupted (c : ByteChannel) :
    c.flushUninterrupted.2.accepted = c.accepted := by
  obtain ⟨calls, heq⟩ := c.flushUninterrupted_eq
  rw [heq]
  exact accepted_flush _

end ByteChannel

namespace Link.Stream
open ByteChannel

variable {m : Nat}

/-- However a write ends, the channel has accepted a piece from the front, or all if it succeeds. -/
theorem accepted_writeAll (rounds : Nat) (bytes : List UInt8) (c : ByteChannel)
    (hrounds : bytes.length ≤ rounds) :
    ∃ piece, piece <+: bytes ∧ (writeAll rounds bytes c).2.accepted = c.accepted ++ piece ∧
      ((writeAll rounds bytes c).1 = .ok () → piece = bytes) := by
  induction rounds generalizing bytes c with
  | zero =>
    obtain rfl := List.length_eq_zero_iff.mp (Nat.le_zero.mp hrounds)
    exact ⟨[], List.nil_prefix, (List.append_nil _).symm, fun _ => rfl⟩
  | succ rounds ih =>
    cases bytes with
    | nil => exact ⟨[], List.nil_prefix, (List.append_nil _).symm, fun _ => rfl⟩
    | cons b bytes =>
      have haccepted := c.accepted_writeUninterrupted (b :: bytes)
      unfold writeAll
      rcases hwrite : c.writeUninterrupted (b :: bytes) with ⟨r, c'⟩
      rw [hwrite] at haccepted
      cases r with
      | error e => exact ⟨[], List.nil_prefix, haccepted, fun h => by cases h⟩
      | ok k =>
        cases k with
        | zero => exact ⟨[], List.nil_prefix, haccepted, fun h => by cases h⟩
        | succ k =>
          have hshorter : ((b :: bytes).drop (k + 1)).length ≤ rounds := by
            rw [List.length_cons] at hrounds
            rw [List.drop_succ_cons, List.length_drop]
            omega
          obtain ⟨piece, hpiece, hrest, hwhole⟩ := ih ((b :: bytes).drop (k + 1)) c' hshorter
          refine ⟨(b :: bytes).take (k + 1) ++ piece, ?_, ?_, fun hok => ?_⟩
          · obtain ⟨tail, htail⟩ := hpiece
            refine ⟨tail, ?_⟩
            rw [List.append_assoc, htail, List.take_append_drop]
          · rw [← List.append_assoc]
            exact hrest.trans (congrArg (· ++ piece) haccepted)
          · rw [hwhole hok, List.take_append_drop]

/-- What has become of a frame that was to be written. -/
structure Sent (m : Nat) where
  frame : Frame m
  result : Except LinkError Unit
  /-- The bytes of it that the channel has accepted. -/
  bytes : List UInt8

/-- The bytes are a piece from the front of the frame, and all of it if the write has succeeded. -/
structure Sent.Sound (w : Sent m) : Prop where
  piece : w.bytes <+: w.frame.bytes
  whole : w.result = .ok () → w.bytes = w.frame.bytes

/-- Writes frames one after another, whether or not writes fail. -/
def writes (s : Stream m) : List (Frame m) → List (Sent m) × Stream m
  | [] => ([], s)
  | f :: fs =>
    let (result, t) := s.write f
    let bytes := t.channel.accepted.drop s.channel.accepted.length
    let (sent, t) := writes t fs
    (⟨f, result, bytes⟩ :: sent, t)

theorem accepted_write (s : Stream m) (f : Frame m) :
    ∃ bytes, Sent.Sound ⟨f, (s.write f).1, bytes⟩ ∧
      (s.write f).2.channel.accepted = s.channel.accepted ++ bytes := by
  obtain ⟨piece, hpiece, haccepted, hwhole⟩ :=
    accepted_writeAll f.bytes.length f.bytes s.channel (Nat.le_refl _)
  unfold write
  rcases hwrite : writeAll f.bytes.length f.bytes s.channel with ⟨r, c⟩
  rw [hwrite] at haccepted hwhole
  refine ⟨piece, ?_⟩
  cases r with
  | error e => exact ⟨⟨hpiece, fun h => by cases h⟩, haccepted⟩
  | ok =>
    have hflush := c.accepted_flushUninterrupted
    rcases hflushed : c.flushUninterrupted with ⟨r, c'⟩
    rw [hflushed] at hflush
    cases r with
    | error e => simpa [hflushed] using ⟨⟨hpiece, fun h => by cases h⟩, hflush.trans haccepted⟩
    | ok => simpa [hflushed] using ⟨⟨hpiece, fun _ => hwhole rfl⟩, hflush.trans haccepted⟩

theorem sound_writes (s : Stream m) (fs : List (Frame m)) :
    (s.writes fs).1.map Sent.frame = fs ∧ (∀ w ∈ (s.writes fs).1, w.Sound) ∧
      (s.writes fs).2.channel.accepted =
        s.channel.accepted ++ (s.writes fs).1.flatMap Sent.bytes := by
  induction fs generalizing s with
  | nil => exact ⟨rfl, by simp [writes], (List.append_nil _).symm⟩
  | cons f fs ih =>
    obtain ⟨bytes, hsound, haccepted⟩ := s.accepted_write f
    obtain ⟨hframes, hsounds, hrest⟩ := ih (s.write f).2
    have hdrop : (s.write f).2.channel.accepted.drop s.channel.accepted.length = bytes := by
      rw [haccepted, List.drop_left]
    simp only [writes, hdrop]
    refine ⟨congrArg (f :: ·) hframes, List.forall_mem_cons.mpr ⟨hsound, hsounds⟩, ?_⟩
    rw [hrest, haccepted, List.flatMap_cons, List.append_assoc]

namespace Reader

/-- What the reader has returned, what it has in its buffer and what it has not yet read is what its
channel had to give. -/
theorem unread_requests (p : ByteChannel) (frame : Frame m) (qs : List Request) :
    let r := (requests { stream := { channel := p }, frame } qs).val
    p.unread = r.returned.flatMap Frame.bytes ++ (r.stream.buffer ++ r.stream.channel.unread) := by
  intro r
  have hstart : Sound (m := m) (p.delivered ++ p.unread) p.delivered
      { stream := { channel := p }, frame } [] :=
    ⟨rfl, by simp, List.nil_prefix, Nat.zero_le _, by simp⟩
  have hsound : r.Sound (p.delivered ++ p.unread) p.delivered _ :=
    sound_requests _ _ _ qs [] hstart
  have hall := hsound.all
  rw [hsound.delivered, List.append_assoc, List.append_assoc] at hall
  exact (List.append_cancel_left hall).symm

/-- All has been read, and what is in the buffer is less than a frame. -/
structure Finished (r : Reader m) : Prop where
  incomplete : r.stream.isComplete = false
  unread : r.stream.channel.unread = []

theorem val_requests_cons (r : Reader m) (q : Request) (qs : List Request) :
    (r.requests (q :: qs)).val = ((r.request q).val.2.requests qs).val := rfl

theorem val_request_available (r : Reader m) :
    (r.request .available).val.2 = { r with stream := (Link.isReady r.stream).val.2 } := by
  have hlook : (Link.isReady r.stream).val.2 = r.stream.available.val.2 := rfl
  rw [hlook]
  unfold request
  rcases h : r.stream.available.val with ⟨_ | _, t⟩ <;> simp [h]

theorem val_request_read {r : Reader m} {f : Frame m} (hs : r.stream.buffer = f.bytes) :
    (r.request .read).val.2 = ⟨{ r.stream with buffer := [] }, f, r.returned ++ [f]⟩ := by
  simp [request, read_of_buffer hs]

/-- A reader whose channel does not fail can read on until all has been read. The induction is on
what the channel still has to give: while bytes are left, each look at the stream uses up some. -/
theorem exists_finished {r : Reader m} (h : r.stream.channel.Calm)
    (hs : r.stream.isComplete = false) : ∃ qs, (r.requests qs).val.Finished := by
  induction hleft : r.stream.channel.remaining using Nat.strongRecOn generalizing r with
  | ind left ih =>
    by_cases hmore : r.stream.channel.unread = []
    · exact ⟨[], hs, hmore⟩
    · obtain ⟨hprogress, -, -⟩ := progress_isReady h hs hmore
      have hlook := r.val_request_available
      let t := (Link.isReady r.stream).val.2
      have hless : t.channel.remaining < left := hleft ▸ hprogress.remaining
      cases ht : t.isComplete with
      | false =>
        obtain ⟨qs, hfinished⟩ := ih _ hless (r := { r with stream := t }) hprogress.calm ht rfl
        refine ⟨.available :: qs, ?_⟩
        rw [val_requests_cons, hlook]
        exact hfinished
      | true =>
        have hlength : Frame.length m ≤ t.buffer.length := by simpa [isComplete] using ht
        have hbuffer : t.buffer = (Frame.ofBytes m t.buffer).bytes := by
          rw [Frame.bytes_ofBytes hlength, List.take_of_length_le hprogress.bounded]
        have hread := val_request_read (r := { r with stream := t }) hbuffer
        obtain ⟨qs, hfinished⟩ := ih _ hless
          (r := ⟨{ t with buffer := [] }, Frame.ofBytes m t.buffer, _⟩) hprogress.calm
          (decide_eq_false (by simp [Frame.length, headerSize])) rfl
        refine ⟨.available :: .read :: qs, ?_⟩
        rw [val_requests_cons, hlook, val_requests_cons, hread]
        exact hfinished

end Reader

section
variable {frames : List (Frame m)} {rest : List UInt8}

/-- A frame whose bytes come after whole frames' worth of bytes is one of the frames. Where it
stands among them is told from how many bytes come before it. -/
theorem getElem?_of_aligned (hrest : rest.length < Frame.length m) {before after : List UInt8}
    {f : Frame m} (hbytes : frames.flatMap Frame.bytes ++ rest = before ++ (f.bytes ++ after))
    (haligned : Frame.length m ∣ before.length) :
    frames[before.length / Frame.length m]? = some f := by
  obtain ⟨i, hi⟩ := haligned
  have hpos : 0 < Frame.length m := Nat.lt_of_le_of_lt (Nat.zero_le _) hrest
  rw [hi, Nat.mul_div_cancel_left i hpos]
  have hi' : before.length = i * Frame.length m := hi.trans (Nat.mul_comm ..)
  have hlt : i < frames.length := by
    have hlength := congrArg List.length hbytes
    simp only [List.length_append, Frame.length_flatMap_bytes, Frame.length_bytes, hi'] at hlength
    have hfits : (i + 1) * Frame.length m < (frames.length + 1) * Frame.length m := by
      rw [Nat.succ_mul, Nat.succ_mul]
      omega
    exact Nat.lt_of_succ_lt_succ (Nat.lt_of_mul_lt_mul_right hfits)
  have hblock : frames[i].bytes = f.bytes := by
    rw [← Reader.block_flatMap_bytes frames rest i hlt, hbytes, Reader.block,
      List.drop_left' hi', List.take_left' f.length_bytes]
  rw [List.getElem?_eq_getElem hlt, Frame.bytes_injective hblock]

/-- The bytes of frames tell which frames they are, also if less than a frame comes after them. -/
theorem eq_of_flatMap_bytes (hrest : rest.length < Frame.length m) {frames' : List (Frame m)}
    (hbytes : frames.flatMap Frame.bytes ++ rest = frames'.flatMap Frame.bytes) :
    frames = frames' := by
  induction frames generalizing frames' with
  | nil =>
    cases frames' with
    | nil => rfl
    | cons g gs =>
      have hlength : rest.length = (g.bytes ++ gs.flatMap Frame.bytes).length :=
        congrArg List.length hbytes
      rw [List.length_append, g.length_bytes] at hlength
      omega
  | cons f fs ih =>
    cases frames' with
    | nil =>
      have hlength := congrArg List.length hbytes
      simp [Frame.length, headerSize] at hlength
    | cons g gs =>
      rw [List.flatMap_cons, List.flatMap_cons, List.append_assoc] at hbytes
      obtain ⟨hfirst, hothers⟩ := List.append_inj hbytes (f.length_bytes.trans g.length_bytes.symm)
      rw [Frame.bytes_injective hfirst, ih hothers]

end

/-- As long as no write stops within its frame, the bytes accepted are those of whole frames. -/
theorem flatMap_bytes_of_whole {sent : List (Sent m)}
    (hwhole : ∀ w ∈ sent, w.bytes = [] ∨ w.bytes = w.frame.bytes) :
    sent.flatMap Sent.bytes =
      ((sent.filter fun w => !w.bytes.isEmpty).map Sent.frame).flatMap Frame.bytes := by
  induction sent with
  | nil => rfl
  | cons w sent ih =>
    obtain ⟨hw, hothers⟩ := List.forall_mem_cons.mp hwhole
    rw [List.flatMap_cons, ih hothers]
    rcases hw with hnone | hall
    · simp [hnone]
    · have hne : w.bytes.isEmpty = false := by rw [hall]; rfl
      rw [List.filter_cons_of_pos (by simp [hne]), List.map_cons, List.flatMap_cons, hall]

/-- Of each frame whose write has succeeded some bytes were accepted. -/
theorem sublist_of_sound {sent : List (Sent m)} (hsound : ∀ w ∈ sent, w.Sound) :
    (sent.filter (·.result.isOk)).Sublist (sent.filter fun w => !w.bytes.isEmpty) := by
  have hboth : sent.filter (·.result.isOk) =
      (sent.filter fun w => !w.bytes.isEmpty).filter (·.result.isOk) := by
    rw [List.filter_filter]
    refine List.filter_congr fun w hw => ?_
    cases hresult : w.result with
    | error e => rfl
    | ok =>
      rw [(hsound w hw).whole hresult]
      rfl
  rw [hboth]
  exact List.filter_sublist

/-- A peer that reads what the channel has accepted to its end is returned each frame whose write
has succeeded and before which whole frames' worth of bytes was accepted. If no write has stopped
within its frame, it is returned the frames of which bytes were accepted and no others, and so all
whose writes have succeeded. -/
theorem writes_read_back (s : Stream m) (fs : List (Frame m)) {p : ByteChannel} (hcalm : p.Calm)
    (haccepted : (s.writes fs).2.channel.accepted = s.channel.accepted ++ p.unread)
    (frame : Frame m) :
    let sent := (s.writes fs).1
    let peer : Reader m := { stream := { channel := p }, frame }
    sent.map Sent.frame = fs ∧ (∃ qs, (peer.requests qs).val.Finished) ∧
    ∀ qs, (peer.requests qs).val.Finished →
      let returned := (peer.requests qs).val.returned
      (∀ before w after, sent = before ++ w :: after → w.result = .ok () →
        Frame.length m ∣ (before.flatMap Sent.bytes).length →
        returned[(before.flatMap Sent.bytes).length / Frame.length m]? = some w.frame) ∧
      ((∀ w ∈ sent, w.bytes = [] ∨ w.bytes = w.frame.bytes) →
        returned = (sent.filter fun w => !w.bytes.isEmpty).map Sent.frame ∧
        ((sent.filter (·.result.isOk)).map Sent.frame).Sublist returned) := by
  intro sent peer
  obtain ⟨hframes, hsound, hsent⟩ := s.sound_writes fs
  refine ⟨hframes, peer.exists_finished hcalm ?_, ?_⟩
  · exact decide_eq_false (by simp [peer, Frame.length, headerSize])
  intro qs hfinished returned
  have hpartial : (peer.requests qs).val.stream.buffer.length < Frame.length m := by
    simpa [isComplete] using hfinished.incomplete
  have hbytes : returned.flatMap Frame.bytes ++ (peer.requests qs).val.stream.buffer =
      sent.flatMap Sent.bytes := by
    have hunread : sent.flatMap Sent.bytes = p.unread :=
      List.append_cancel_left (hsent.symm.trans haccepted)
    rw [hunread, Reader.unread_requests p frame qs, hfinished.unread, List.append_nil]
  refine ⟨fun before w after hsplit hok haligned => ?_, fun hwhole => ?_⟩
  · have hw : w.bytes = w.frame.bytes := (hsound w (by simp [sent, hsplit])).whole hok
    rw [hsplit, List.flatMap_append, List.flatMap_cons, hw] at hbytes
    exact getElem?_of_aligned hpartial hbytes haligned
  · rw [flatMap_bytes_of_whole hwhole] at hbytes
    have hreturned := eq_of_flatMap_bytes hpartial hbytes
    exact ⟨hreturned, hreturned ▸ (sublist_of_sound hsound).map Sent.frame⟩

/-- The first frame is taken in two pieces, the second not at all and the third at once. -/
theorem writes_read_back_afterRefusal :
    let s : Stream 2 := ⟨{ writes := [.ok 2, .ok 3, .error (.system 11)] }, []⟩
    let sent := s.writes [⟨5, 0, 0, #v[1, 2]⟩, ⟨6, 0, 0, #v[3, 4]⟩, ⟨7, 0, 0, #v[5, 6]⟩]
    let p : ByteChannel :=
      { reads := [.ok [5, 0, 0, 1], .error (.system 11), .ok [2, 7, 0, 0, 5, 6]] }
    sent.1.map (·.result.isOk) = [true, false, true] ∧ p.Calm ∧ sent.2.channel.accepted = p.unread ∧
      ∃ qs, (Reader.requests { stream := { channel := p }, frame := .zero } qs).val.returned =
        [(⟨5, 0, 0, #v[1, 2]⟩ : Frame 2), ⟨7, 0, 0, #v[5, 6]⟩] := by
  intro s sent p
  have hcalm : p.Calm := ⟨by decide, by decide, by decide, by decide⟩
  have haccepted : sent.2.channel.accepted = p.unread := by decide +kernel
  obtain ⟨-, ⟨qs, hfinished⟩, hread⟩ := s.writes_read_back _ hcalm haccepted .zero
  refine ⟨by decide +kernel, hcalm, haccepted, qs, ?_⟩
  exact ((hread qs hfinished).2 (by decide +kernel)).1.trans (by decide +kernel)

/-- The first write stops within its frame. The second succeeds, but nobody who reads what the
channel has accepted is returned its frame. -/
theorem writes_misaligned :
    let s : Stream 2 := ⟨{ writes := [.ok 2, .error (.system 11)] }, []⟩
    let f : Frame 2 := ⟨6, 0, 0, #v[3, 4]⟩
    let sent := s.writes [⟨5, 0, 0, #v[1, 2]⟩, f]
    sent.1.map Sent.result = [.error (.io (.system 11)), .ok ()] ∧
      ∀ p : ByteChannel, p.unread = sent.2.channel.accepted → ∀ frame qs,
        f ∉ (Reader.requests { stream := { channel := p }, frame } qs).val.returned := by
  intro s f sent
  refine ⟨by decide +kernel, fun p hp frame qs hmem => ?_⟩
  have haccepted : sent.2.channel.accepted = [5, 0, 6, 0, 0, 3, 4] := by decide +kernel
  have hunread := Reader.unread_requests p frame qs
  dsimp only at hunread
  obtain ⟨before, after, hsplit⟩ := List.append_of_mem hmem
  rw [hp, haccepted, hsplit, List.flatMap_append, List.append_assoc, List.flatMap_cons,
    List.append_assoc] at hunread
  -- There is room for one frame only, and the bytes begin like no frame for 6.
  have hlength := congrArg List.length hunread
  simp only [List.length_append, Frame.length_flatMap_bytes, f.length_bytes] at hlength
  cases before with
  | nil => exact absurd (List.head_eq_of_cons_eq hunread) (by decide)
  | cons g before =>
    simp [Frame.length, headerSize] at hlength
    omega

end Link.Stream

end AltBit

import AltBit.Frame
import Mathlib.Logic.Function.Defs

/-!
Buffers of frames. A buffer is its whole frames, one behind the other, and a rest that is too short
for one more; taking frames off until there is none finds just these.
-/
namespace AltBit

/-- Padding adds zeros and takes nothing away, if there is room. -/
theorem toList_zeroPadded {m : Nat} {bytes : List UInt8} (h : bytes.length ≤ m) :
    (zeroPadded m bytes).toList = bytes ++ List.replicate (m - bytes.length) 0 := by
  refine List.ext_getElem (by simp [h]) fun i hi _ => ?_
  rw [Vector.length_toList] at hi
  simp only [zeroPadded, Vector.getElem_toList, Vector.getElem_ofFn]
  by_cases hbytes : i < bytes.length
  · rw [List.getElem_append_left hbytes, ← List.getElem_eq_getD]
  · have hpadding : bytes.length ≤ i := Nat.le_of_not_lt hbytes
    rw [List.getElem_append_right hpadding, List.getElem_replicate, List.getD_eq_getElem?_getD,
      List.getElem?_eq_none hpadding, Option.getD_none]

namespace Frame
variable {m : Nat}

theorem bytes_injective : Function.Injective (bytes : Frame m → List UInt8) := by
  intro f g hbytes
  rw [← f.ofBytes_bytes_append [], hbytes, g.ofBytes_bytes_append]

theorem length_flatMap_bytes (fs : List (Frame m)) :
    (fs.flatMap bytes).length = fs.length * length m := by
  induction fs with
  | nil => simp
  | cons f fs ih =>
    rw [List.flatMap_cons, List.length_append, ih, length_bytes, List.length_cons, Nat.succ_mul,
      Nat.add_comm]

/-- Appends frames to a buffer, one after the other. -/
def encodeAll (fs : List (Frame m)) (buffer : List UInt8) : List UInt8 :=
  fs.foldl (fun buffer f => f.encode buffer) buffer

theorem encodeAll_eq (fs : List (Frame m)) (buffer : List UInt8) :
    encodeAll fs buffer = buffer ++ fs.flatMap bytes := by
  induction fs generalizing buffer with
  | nil => simp [encodeAll]
  | cons f fs ih =>
    have hothers : encodeAll (f :: fs) buffer = encodeAll fs (buffer ++ f.bytes) := rfl
    rw [hothers, ih, List.flatMap_cons, List.append_assoc]

/-- Takes one frame off the front of a buffer, which stays as it is if it holds none. -/
def decode (m : Nat) (buffer : List UInt8) : Option (Frame m) × List UInt8 :=
  match decode? m buffer with
  | some (f, rest) => (some f, rest)
  | none => (none, buffer)

theorem decode_of_short {buffer : List UInt8} (h : buffer.length < length m) :
    decode m buffer = (none, buffer) := by
  rw [decode, decode?, if_neg (Nat.not_le_of_lt h)]

theorem decode_bytes_append (f : Frame m) (rest : List UInt8) :
    decode m (f.bytes ++ rest) = (some f, rest) := by
  rw [decode, decode?_bytes_append]

/-- A call that finds a frame takes the bytes of that frame; one that does not changes nothing. -/
theorem append_decode (buffer : List UInt8) :
    (decode m buffer).1.toList.flatMap bytes ++ (decode m buffer).2 = buffer := by
  unfold decode
  split
  next f rest h => simpa using bytes_append_of_decode? h
  next => rfl

theorem decode_eq_none_iff (buffer : List UInt8) :
    (decode m buffer).1 = none ↔ buffer.length < length m := by
  refine ⟨fun h => Nat.lt_of_not_le fun hle => ?_, fun h => by rw [decode_of_short h]⟩
  simp [decode, decode?, hle] at h

theorem length_of_decode {buffer rest : List UInt8} {f : Frame m}
    (h : decode m buffer = (some f, rest)) : buffer.length = length m + rest.length := by
  have hbytes := append_decode (m := m) buffer
  rw [h] at hbytes
  simp [← hbytes]

/-- Takes frames off the front of a buffer until there is none. -/
def decodeAll (m : Nat) (buffer : List UInt8) : List (Frame m) × List UInt8 :=
  match _ : decode m buffer with
  | (none, rest) => ([], rest)
  | (some f, rest) => (f :: (decodeAll m rest).1, (decodeAll m rest).2)
termination_by buffer.length
decreasing_by
  all_goals
    rw [length_of_decode ‹decode m buffer = _›, length, headerSize]
    omega

theorem decodeAll_of_none {buffer rest : List UInt8} (h : decode m buffer = (none, rest)) :
    decodeAll m buffer = ([], rest) := by
  rw [decodeAll]
  split <;> simp_all

theorem decodeAll_of_some {buffer rest : List UInt8} {f : Frame m}
    (h : decode m buffer = (some f, rest)) :
    decodeAll m buffer = (f :: (decodeAll m rest).1, (decodeAll m rest).2) := by
  rw [decodeAll]
  split <;> simp_all

theorem decodeAll_flatMap_bytes (fs : List (Frame m)) {rest : List UInt8}
    (hrest : rest.length < length m) :
    decodeAll m (fs.flatMap bytes ++ rest) = (fs, rest) := by
  induction fs with
  | nil => exact decodeAll_of_none (decode_of_short hrest)
  | cons f fs ih =>
    have hfirst : decode m ((f :: fs).flatMap bytes ++ rest) =
        (some f, fs.flatMap bytes ++ rest) := by
      rw [List.flatMap_cons, List.append_assoc, decode_bytes_append]
    rw [decodeAll_of_some hfirst, ih]

/-- What a buffer is made of: the frames that are taken off it, and less than a frame. -/
theorem flatMap_bytes_decodeAll (buffer : List UInt8) :
    (decodeAll m buffer).1.flatMap bytes ++ (decodeAll m buffer).2 = buffer ∧
      (decodeAll m buffer).2.length < length m := by
  induction hn : buffer.length using Nat.strongRecOn generalizing buffer with
  | ind n ih =>
    rcases hdecode : decode m buffer with ⟨_ | f, rest⟩
    · have hshort : buffer.length < length m := (decode_eq_none_iff buffer).mp (by rw [hdecode])
      rw [decodeAll_of_none (decode_of_short hshort)]
      exact ⟨rfl, hshort⟩
    · have hlength := length_of_decode hdecode
      have hbuffer : f.bytes ++ rest = buffer := by
        have happend := append_decode (m := m) buffer
        rw [hdecode] at happend
        simpa using happend
      obtain ⟨hbytes, hshort⟩ := ih rest.length (by simp [length, headerSize] at hlength; omega)
        rest rfl
      rw [decodeAll_of_some hdecode, List.flatMap_cons, List.append_assoc, hbytes]
      exact ⟨hbuffer, hshort⟩

theorem length_decodeAll (buffer : List UInt8) :
    (decodeAll m buffer).1.length = buffer.length / length m := by
  obtain ⟨hbytes, hshort⟩ := flatMap_bytes_decodeAll (m := m) buffer
  have hlength : (decodeAll m buffer).1.length * length m + (decodeAll m buffer).2.length =
      buffer.length := by
    rw [← congrArg List.length hbytes, List.length_append, length_flatMap_bytes]
  have hpos : 0 < length m := Nat.lt_of_le_of_lt (Nat.zero_le _) hshort
  rw [← hlength, Nat.mul_comm, Nat.mul_add_div hpos, Nat.div_eq_of_lt hshort, Nat.add_zero]

theorem exists_build_iff (id : Identifier) (seq ack : UInt8) (payload : List UInt8) :
    (∃ f, build m id seq ack payload = .ok f) ↔ payload.length ≤ m := by
  unfold build
  split <;> simp_all

theorem payload_of_build {id : Identifier} {seq ack : UInt8} {payload : List UInt8} {f : Frame m}
    (h : build m id seq ack payload = .ok f) :
    f.payload.toList = payload ++ List.replicate (m - payload.length) 0 := by
  have hfits : payload.length ≤ m := (exists_build_iff id seq ack payload).mp ⟨f, h⟩
  rw [build, if_pos hfits] at h
  obtain rfl := Except.ok.inj h
  exact toList_zeroPadded hfits

/-- Frames and bytes stand for each other. Frames written to a buffer come off it again in their
order, and what follows them is left; every buffer is the frames that come off it and the rest; a
frame that can be built comes off with its header and its padded payload. -/
theorem codec_round_trip (m : Nat) :
    (∀ (fs : List (Frame m)) (rest : List UInt8), rest.length < length m →
      decodeAll m (encodeAll fs [] ++ rest) = (fs, rest)) ∧
    (∀ buffer : List UInt8,
      let (fs, rest) := decodeAll m buffer
      fs.length = buffer.length / length m ∧ encodeAll fs [] ++ rest = buffer ∧
        decode m rest = (none, rest)) ∧
    (∀ buffer : List UInt8, (decode m buffer).1 = none → (decode m buffer).2 = buffer) ∧
    ∀ (id : Identifier) (seq ack : UInt8) (payload : List UInt8),
      ((∃ f, build m id seq ack payload = .ok f) ↔ payload.length ≤ m) ∧
      ∀ f, build m id seq ack payload = .ok f → ∀ rest, ∃ g : Frame m,
        decode m (f.encode [] ++ rest) = (some g, rest) ∧
          g.id = id ∧ g.seq = seq ∧ g.ack = ack ∧
          g.payload.toList = payload ++ List.replicate (m - payload.length) 0 := by
  refine ⟨fun fs rest hrest => ?_, fun buffer => ?_, fun buffer hnone => ?_,
    fun id seq ack payload => ⟨exists_build_iff id seq ack payload, ?_⟩⟩
  · rw [encodeAll_eq]
    exact decodeAll_flatMap_bytes fs hrest
  · obtain ⟨hbytes, hshort⟩ := flatMap_bytes_decodeAll (m := m) buffer
    dsimp only
    rw [encodeAll_eq]
    exact ⟨length_decodeAll buffer, hbytes, decode_of_short hshort⟩
  · rw [decode_of_short ((decode_eq_none_iff buffer).mp hnone)]
  · intro f hbuild rest
    refine ⟨f, decode_bytes_append f rest, ?_⟩
    have hfits : payload.length ≤ m := (exists_build_iff id seq ack payload).mp ⟨f, hbuild⟩
    rw [build, if_pos hfits] at hbuild
    obtain rfl := Except.ok.inj hbuild
    exact ⟨rfl, rfl, rfl, toList_zeroPadded hfits⟩

/-- Two frames and the first bytes of a third. -/
theorem codec_round_trip_twoAndABit :
    let fs : List (Frame 2) := [⟨5, 0, 0, #v[1, 2]⟩, ⟨6, 1, 0, #v[3, 0]⟩]
    let rest : List UInt8 := [7, 0, 0, 9]
    rest.length < length 2 ∧ decodeAll 2 (encodeAll fs [] ++ rest) = (fs, rest) ∧
      (decode 2 rest).1 = none ∧ (decode 2 rest).2 = rest ∧
      build 2 6 1 0 [3] = .ok ⟨6, 1, 0, #v[3, 0]⟩ ∧
      ∃ g : Frame 2, decode 2 (encode (⟨6, 1, 0, #v[3, 0]⟩ : Frame 2) [] ++ rest) = (some g, rest) ∧
        g.id = 6 ∧ g.seq = 1 ∧ g.ack = 0 ∧ g.payload.toList = [3] ++ List.replicate 1 0 := by
  intro fs rest
  obtain ⟨hframes, -, hnone, hbuilt⟩ := codec_round_trip 2
  have hbuild : build 2 6 1 0 [3] = .ok ⟨6, 1, 0, #v[3, 0]⟩ := rfl
  exact ⟨by decide, hframes fs rest (by decide), by decide, hnone rest (by decide), hbuild,
    (hbuilt 6 1 0 [3]).2 _ hbuild rest⟩

end Frame

end AltBit

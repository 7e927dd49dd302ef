import AltBit.Command.Payload

/-!
Text as bytes. An ASCII character is one byte, with its own number; all bytes of any other character
lie beyond ASCII, so they are taken for no ASCII character.
-/
namespace AltBit

private theorem toList_loop (bytes : ByteArray) (i : Nat) (before : List UInt8) :
    ByteArray.toList.loop bytes i before = before.reverse ++ bytes.data.toList.drop i := by
  fun_induction ByteArray.toList.loop bytes i before with
  | case1 i before hi ih =>
    have hlt : i < bytes.data.toList.length := by simpa using hi
    rw [ih, List.drop_eq_getElem_cons hlt]
    simp [ByteArray.get!, hi]
  | case2 i before hi =>
    rw [List.drop_eq_nil_of_le (by simpa using Nat.le_of_not_lt hi), List.append_nil]

namespace Command

theorem utf8_eq_data (s : String) : utf8 s = s.toByteArray.data.toList := by
  rw [utf8, String.toUTF8_eq_toByteArray, ByteArray.toList, toList_loop]
  rfl

theorem utf8_eq (s : String) : utf8 s = s.toList.flatMap String.utf8EncodeChar := by
  have hbytes : s.toByteArray = (s.toList.flatMap String.utf8EncodeChar).toByteArray := by
    rw [← List.utf8Encode, ← String.toByteArray_ofList, String.ofList_toList]
  rw [utf8_eq_data, hbytes]
  simp

/-- Bytes are read as text exactly if they are the bytes of that text. -/
theorem fromUTF8?_eq_some_iff {bytes : List UInt8} {s : String} :
    String.fromUTF8? ⟨bytes.toArray⟩ = some s ↔ utf8 s = bytes := by
  have hbytes : utf8 s = bytes ↔ s.toByteArray = ⟨bytes.toArray⟩ := by
    rw [utf8_eq_data]
    constructor
    · rintro rfl
      rfl
    · intro h
      rw [h]
  rw [hbytes, String.fromUTF8?]
  split
  next hvalid =>
    rw [Option.some.injEq, ← String.toByteArray_inj, String.fromUTF8]
    exact eq_comm
  next hinvalid =>
    refine ⟨(nomatch ·), fun h => absurd ?_ hinvalid⟩
    rw [← h]
    exact s.isValidUTF8

end Command

namespace Utf8

/-- The byte of an ASCII character. -/
def byte (c : Char) : UInt8 := UInt8.ofNat c.toNat

variable {c : Char}

theorem toNat_byte (h : c.toNat < 128) : (byte c).toNat = c.toNat := by
  rw [byte, UInt8.toNat_ofNat']
  omega

theorem char_byte (h : c.toNat < 128) : Char.ofNat (byte c).toNat = c := by
  rw [toNat_byte h, Char.ofNat_toNat]

theorem encode_of_ascii (h : c.toNat < 128) : String.utf8EncodeChar c = [byte c] := by
  have hle : c.val.toNat ≤ 127 := Nat.le_of_lt_succ h
  unfold String.utf8EncodeChar
  rw [if_pos hle]
  rfl

theorem encode_of_not_ascii (h : 128 ≤ c.toNat) :
    String.utf8EncodeChar c ≠ [] ∧ ∀ b ∈ String.utf8EncodeChar c, 128 ≤ b.toNat := by
  have hlt : ¬ c.val.toNat ≤ 127 := Nat.not_le_of_lt h
  unfold String.utf8EncodeChar
  simp only [hlt, if_false]
  split
  · simp; omega
  · split <;> simp <;> omega

/-- If no byte lies beyond ASCII, no character does. -/
theorem ascii_of_bytes {text : List Char}
    (h : ∀ b ∈ text.flatMap String.utf8EncodeChar, b.toNat < 128) : ∀ c ∈ text, c.toNat < 128 := by
  intro c hc
  refine Nat.lt_of_not_le fun hbeyond => ?_
  obtain ⟨hne, hbytes⟩ := encode_of_not_ascii hbeyond
  obtain ⟨b, hb⟩ := List.exists_mem_of_ne_nil _ hne
  have hascii := h b (List.mem_flatMap.mpr ⟨c, hc, hb⟩)
  have := hbytes b hb
  omega

theorem flatMap_encode_of_ascii {text : List Char} (h : ∀ c ∈ text, c.toNat < 128) :
    text.flatMap String.utf8EncodeChar = text.map byte := by
  induction text with
  | nil => rfl
  | cons c text ih =>
    obtain ⟨hc, htext⟩ := List.forall_mem_cons.mp h
    rw [List.flatMap_cons, encode_of_ascii hc, ih htext]
    rfl

/-- Leaving out bytes that are all ASCII leaves out the characters with these bytes. -/
theorem filter_flatMap_encode {keep : UInt8 → Bool} (hkeep : ∀ b, 128 ≤ b.toNat → keep b = true)
    (text : List Char) :
    (text.flatMap String.utf8EncodeChar).filter keep =
      (text.filter fun c => decide (128 ≤ c.toNat) || keep (byte c)).flatMap
        String.utf8EncodeChar := by
  induction text with
  | nil => rfl
  | cons c text ih =>
    rw [List.flatMap_cons, List.filter_append, ih]
    by_cases hc : c.toNat < 128
    · have hbeyond : decide (128 ≤ c.toNat) = false := decide_eq_false (Nat.not_le_of_lt hc)
      cases hbyte : keep (byte c) <;> simp [encode_of_ascii hc, hbeyond, hbyte]
    · have hbeyond : 128 ≤ c.toNat := Nat.le_of_not_lt hc
      have hall : (String.utf8EncodeChar c).filter keep = String.utf8EncodeChar c :=
        List.filter_eq_self.mpr fun b hb => hkeep b ((encode_of_not_ascii hbeyond).2 b hb)
      simp [hall, hbeyond]

end Utf8

end AltBit

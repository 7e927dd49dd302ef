import AltBit.Proofs.Framing
import AltBit.Proofs.Hexadecimal

/-!
Payloads that are printed in hexadecimal digits and typed in again. Letters may be typed in either
case and blanks put in anywhere, also between the digits of a byte: what is read is what was
printed.
-/
namespace AltBit.Command.Payload
open Hex

/-- A printed text and one that was typed from it: its characters in lower or upper case, with
blanks put in anywhere. -/
inductive Retyped : List Char → List Char → Prop
  | nothing : Retyped [] []
  | character {c c' : Char} {printed typed : List Char} (hcase : c' = c ∨ c' = c.toUpper)
      (h : Retyped printed typed) : Retyped (c :: printed) (c' :: typed)
  | blank {c : Char} {printed typed : List Char} (hblank : c ∈ blanks)
      (h : Retyped printed typed) : Retyped printed (c :: typed)

theorem Retyped.refl (text : List Char) : Retyped text text := by
  induction text with
  | nil => exact .nothing
  | cons c text ih => exact .character (.inl rfl) ih

theorem notMem_blanks_of_isDigit {c : Char} {n : Nat} (h : IsDigit c n) : c ∉ blanks := by
  have hall : ∀ n < 16, digit n ∉ blanks ∧ (digit n).toUpper ∉ blanks := by decide
  obtain ⟨hn, rfl | rfl⟩ := h
  · exact (hall n hn).1
  · exact (hall n hn).2

theorem Retyped.of_nil {typed : List Char} (h : Retyped [] typed) :
    typed.filter (· ∉ blanks) = [] := by
  induction typed with
  | nil => rfl
  | cons c typed ih =>
    cases h with
    | blank hblank h => rw [List.filter_cons_of_neg (by simpa using hblank), ih h]

/-- Blanks in front of a digit are passed over, and what stands for it is that digit. -/
theorem Retyped.first {n : Nat} (hn : n < 16) {printed typed : List Char}
    (h : Retyped (digit n :: printed) typed) : ∃ c rest, IsDigit c n ∧ Retyped printed rest ∧
      typed.filter (· ∉ blanks) = c :: rest.filter (· ∉ blanks) := by
  induction typed with
  | nil => cases h
  | cons c typed ih =>
    cases h with
    | character hcase h =>
      have hc : IsDigit c n := ⟨hn, hcase⟩
      refine ⟨c, typed, hc, h, ?_⟩
      rw [List.filter_cons_of_pos (by simpa using notMem_blanks_of_isDigit hc)]
    | blank hblank h =>
      obtain ⟨c', rest, hc', hrest, htyped⟩ := ih h
      refine ⟨c', rest, hc', hrest, ?_⟩
      rw [List.filter_cons_of_neg (by simpa using hblank), htyped]

theorem Retyped.spells {bytes : List UInt8} {typed : List Char}
    (h : Retyped (bytes.flatMap encodeByte) typed) :
    Spells (typed.filter (· ∉ blanks)) bytes := by
  induction bytes generalizing typed with
  | nil =>
    rw [h.of_nil]
    exact .nothing
  | cons b bytes ih =>
    have hhigh : b.toNat / 16 < 16 := Nat.div_lt_of_lt_mul b.toNat_lt
    have hlow : b.toNat % 16 < 16 := Nat.mod_lt _ (by decide)
    obtain ⟨c, rest, hc, hrest, htyped⟩ := h.first hhigh
    obtain ⟨c', rest', hc', hrest', htyped'⟩ := hrest.first hlow
    have hbyte : UInt8.ofNat (16 * (b.toNat / 16) + b.toNat % 16) = b := by
      rw [Nat.div_add_mod, UInt8.ofNat_toNat]
    rw [htyped, htyped', ← hbyte]
    exact .byte hc hc' (ih hrest')

theorem parseHex_of_spells {text : String} {bytes : List UInt8}
    (h : Spells (text.toList.filter (· ∉ blanks)) bytes) : parseHex text = .ok bytes := by
  have hsign : '+' ∉ text.toList.filter (· ∉ blanks) := fun hmem =>
    absurd (((exists_spells_iff _).mp ⟨bytes, h⟩).2 '+' hmem) (by decide)
  rw [parseHex_eq_ok_iff, unsigned_eq_self hsign]
  exact h

theorem resolve_hex {text : String} {bytes : List UInt8} (h : parseHex text = .ok bytes)
    (payload : List UInt8) : resolve none (some text) = .ok payload ↔
      payload = bytes ∧ bytes.length ≤ payloadSize := by
  have hresolve : resolve none (some text) = if bytes.length ≤ payloadSize then .ok bytes
      else .error ⟨.dataInvalid,
        s!"payload is {bytes.length} bytes, frame holds {payloadSize}"⟩ := by
    simp only [resolve, h]
    rfl
  rw [hresolve]
  by_cases hfits : bytes.length ≤ payloadSize
  · simp [hfits, eq_comm]
  · simp [hfits]

/-- What is typed from the digits of a payload is read as that payload. It is taken if it fits a
frame, and then the frame can be built. -/
theorem parseHex_retyped (bytes : List UInt8) :
    parseHex (Hex.encode bytes) = .ok bytes ∧
    ∀ text : String, Retyped (Hex.encode bytes).toList text.toList →
      parseHex text = .ok bytes ∧
      (∀ payload, resolve none (some text) = .ok payload ↔
        payload = bytes ∧ bytes.length ≤ payloadSize) ∧
      (bytes.length ≤ payloadSize → ∀ (id : Identifier) (seq ack : UInt8),
        ∃ f, Frame.build payloadSize id seq ack bytes = .ok f) := by
  have hread : ∀ text : String, Retyped (Hex.encode bytes).toList text.toList →
      parseHex text = .ok bytes := by
    intro text h
    rw [Hex.encode, String.toList_ofList] at h
    exact parseHex_of_spells h.spells
  refine ⟨hread _ (.refl _), fun text h => ⟨hread text h, resolve_hex (hread text h), ?_⟩⟩
  exact fun hfits id seq ack => (Frame.exists_build_iff id seq ack bytes).mpr hfits

/-- Two bytes whose digits are parted. -/
theorem parseHex_retyped_parted :
    let text := String.ofList ['0', ' ', 'A', '\t', 'f', '\n', 'F']
    Retyped (Hex.encode [10, 255]).toList text.toList ∧ [10, 255].length ≤ payloadSize ∧
      parseHex text = .ok [10, 255] ∧ resolve none (some text) = .ok [10, 255] ∧
      ∃ f, Frame.build payloadSize 5 0 0 [10, 255] = .ok f := by
  intro text
  have htyped : Retyped (Hex.encode [10, 255]).toList text.toList := by
    rw [Hex.encode, String.toList_ofList, String.toList_ofList]
    exact .character (.inl rfl) (.blank (by decide) (.character (.inr rfl) (.blank (by decide)
      (.character (.inl rfl) (.blank (by decide) (.character (.inr rfl) .nothing))))))
  obtain ⟨hread, hresolve, hbuild⟩ := (parseHex_retyped [10, 255]).2 text htyped
  exact ⟨htyped, by decide, hread, (hresolve _).mpr ⟨rfl, by decide⟩, hbuild (by decide) 5 0 0⟩

end AltBit.Command.Payload

import AltBit.Handler.Rule
import AltBit.Proofs.Awaiting
import AltBit.Proofs.Framing
import AltBit.Proofs.Trimming
import AltBit.Proofs.Utf8
import AltBit.Session

/-!
Payloads shown as text. They are shown if they are text without control characters that was filled
up with zeros. As no byte of such a text is zero, it ends where the zeros begin, so what is sent as
text and echoed is shown as it was sent.
-/
namespace AltBit.Command

namespace Payload
variable {text : String}

/-- Text that has characters, none of them a control character. -/
structure Showable (text : String) : Prop where
  nonempty : text ≠ ""
  printable : ∀ c ∈ text.toList, Blank.isControl c = false

theorem utf8_eq_nil_iff : utf8 text = [] ↔ text = "" := by
  have hnil : utf8 "" = [] := by
    rw [utf8_eq]
    rfl
  constructor
  · intro h
    have hread : String.fromUTF8? ⟨[].toArray⟩ = some text := fromUTF8?_eq_some_iff.mpr h
    have hempty : String.fromUTF8? ⟨[].toArray⟩ = some "" := fromUTF8?_eq_some_iff.mpr hnil
    exact Option.some.inj (hread.symm.trans hempty)
  · rintro rfl
    exact hnil

theorem showable_iff : Showable text ↔
    ((utf8 text).isEmpty || text.toList.any Blank.isControl) = false := by
  rw [Bool.or_eq_false_iff, List.isEmpty_eq_false_iff, Ne, utf8_eq_nil_iff, List.any_eq_false]
  constructor
  · rintro ⟨hne, hprintable⟩
    exact ⟨hne, fun c hc => by simp [hprintable c hc]⟩
  · rintro ⟨hne, hprintable⟩
    exact ⟨hne, fun c hc => Bool.eq_false_iff.mpr (hprintable c hc)⟩

theorem notMem_zero_utf8 (h : ∀ c ∈ text.toList, c.toNat ≠ 0) : 0 ∉ utf8 text := by
  rw [utf8_eq]
  intro hzero
  obtain ⟨c, hc, hb⟩ := List.mem_flatMap.mp hzero
  by_cases hascii : c.toNat < 128
  · rw [Utf8.encode_of_ascii hascii, List.mem_singleton] at hb
    apply h c hc
    rw [← Utf8.toNat_byte hascii, ← hb]
    rfl
  · have hbyte := (Utf8.encode_of_not_ascii (Nat.le_of_not_lt hascii)).2 0 hb
    exact absurd hbyte (by decide)

theorem Showable.notMem_zero (h : Showable text) : 0 ∉ utf8 text := by
  refine notMem_zero_utf8 fun c hc hzero => ?_
  have hcontrol := h.printable c hc
  simp [Blank.isControl, hzero] at hcontrol

theorem Showable.unpadded_eq (h : Showable text) (k : Nat) :
    unpadded (utf8 text ++ List.replicate k 0) = utf8 text := by
  refine unpadded_append_replicate k fun hne hlast => h.notMem_zero ?_
  rw [← hlast]
  exact List.getLast_mem hne

/-- A payload is shown as a text exactly if it is that text and zeros behind it. -/
theorem preview?_eq_some_iff (payload : List UInt8) : preview? payload = some text ↔
    Showable text ∧ ∃ k, payload = utf8 text ++ List.replicate k 0 := by
  have hread : preview? payload = some text ↔ Showable text ∧ utf8 text = unpadded payload := by
    unfold preview?
    simp only [Option.bind_eq_bind, Option.bind_eq_some_iff, fromUTF8?_eq_some_iff]
    constructor
    · rintro ⟨s, hbytes, hs⟩
      rw [← hbytes] at hs
      split at hs
      · cases hs
      next hshow =>
        obtain rfl := Option.some.inj hs
        exact ⟨showable_iff.mpr (Bool.eq_false_iff.mpr hshow), hbytes⟩
    · rintro ⟨hshow, hbytes⟩
      refine ⟨text, hbytes, ?_⟩
      rw [← hbytes, showable_iff.mp hshow]
      rfl
  rw [hread]
  refine and_congr_right fun hshow => ⟨fun h => ?_, ?_⟩
  · rw [h]
    exact exists_eq_unpadded_append payload
  · rintro ⟨k, rfl⟩
    exact (hshow.unpadded_eq k).symm

theorem cell_of_preview? {payload : List UInt8} (h : preview? payload = some text) :
    cell payload = text := by
  rw [cell, h]

theorem resolve_text (hex : Option String) (hfits : (utf8 text).length ≤ payloadSize) :
    resolve (some text) hex = .ok (utf8 text) := by
  simp only [resolve]
  exact if_pos hfits

/-- The echo handler answers with the frame that it was given. -/
theorem frame_invoke_echo {m : Nat} {h : Handler (Service Rule)} (hecho : h.state = .custom .echo)
    (f : Frame m) : (h.invoke f).val.frame = f := by
  rw [Handler.val_invoke, hecho]
  rfl

/-- A payload is shown as text exactly if it is this text, with characters of which none is a
control character, and zeros behind it. So such a text can be sent if it fits a frame, and is shown
as it was when its frame is echoed. -/
theorem preview?_shows_text :
    (∀ (payload : List UInt8) (text : String), preview? payload = some text ↔
      text ≠ "" ∧ (∀ c ∈ text.toList, Blank.isControl c = false) ∧
        ∃ k, payload = utf8 text ++ List.replicate k 0) ∧
    ∀ (text : String) (hex : Option String), text ≠ "" →
      (∀ c ∈ text.toList, Blank.isControl c = false) → (utf8 text).length ≤ payloadSize →
      resolve (some text) hex = .ok (utf8 text) ∧
      ∀ (id : Identifier) (seq ack : UInt8), ∃ f,
        Frame.build payloadSize id seq ack (utf8 text) = .ok f ∧
        ∀ h : Handler (Service Rule), h.state = .custom .echo →
          let echoed := (h.invoke f).val.frame.payload.toList
          preview? echoed = some text ∧ cell echoed = text := by
  refine ⟨fun payload text => ?_, fun text hex hne hprintable hfits => ?_⟩
  · rw [preview?_eq_some_iff]
    constructor
    · rintro ⟨hshow, hpadded⟩
      exact ⟨hshow.nonempty, hshow.printable, hpadded⟩
    · rintro ⟨hne, hprintable, hpadded⟩
      exact ⟨⟨hne, hprintable⟩, hpadded⟩
  · refine ⟨resolve_text hex hfits, fun id seq ack => ?_⟩
    obtain ⟨f, hbuild⟩ := (Frame.exists_build_iff id seq ack (utf8 text)).mpr hfits
    have hpreview : preview? f.payload.toList = some text :=
      (preview?_eq_some_iff _).mpr ⟨⟨hne, hprintable⟩, _, Frame.payload_of_build hbuild⟩
    refine ⟨f, hbuild, fun h hecho => ?_⟩
    rw [frame_invoke_echo hecho]
    exact ⟨hpreview, cell_of_preview? hpreview⟩

/-- A text with a character of two bytes, given to the echo handler of the identifier 5. -/
theorem preview?_shows_text_accented :
    let text := String.ofList ['c', 'a', 'f', '\u00e9']
    text ≠ "" ∧ (∀ c ∈ text.toList, Blank.isControl c = false) ∧
      (utf8 text).length ≤ payloadSize ∧ resolve (some text) none = .ok (utf8 text) ∧
      ∃ f, Frame.build payloadSize 5 0 0 (utf8 text) = .ok f ∧
        let h : Handler (Service Rule) := ⟨5, true, .custom .echo⟩
        preview? (h.invoke f).val.frame.payload.toList = some text := by
  intro text
  have hne : text ≠ "" := by decide
  have hprintable : ∀ c ∈ text.toList, Blank.isControl c = false := by
    have hall : ['c', 'a', 'f', '\u00e9'].all (Blank.isControl · = false) = true := by decide
    rw [String.toList_ofList]
    exact fun c hc => of_decide_eq_true (List.all_eq_true.mp hall c hc)
  have hfits : (utf8 text).length ≤ payloadSize := by
    rw [utf8_eq, String.toList_ofList]
    decide
  obtain ⟨hresolve, hbuild⟩ := preview?_shows_text.2 text none hne hprintable hfits
  obtain ⟨f, hf, hechoed⟩ := hbuild 5 0 0
  exact ⟨hne, hprintable, hfits, hresolve, f, hf, (hechoed ⟨5, true, .custom .echo⟩ rfl).1⟩

end Payload

end AltBit.Command

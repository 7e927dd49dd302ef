import AltBit.Proofs.Utf8
import Mathlib.Data.List.Induction

/-!
Payloads written in hexadecimal digits. Reading them accepts text that spells bytes in digits of
either case, two for each byte; but a plus sign in front of a single digit passes for a zero.
-/
namespace AltBit

namespace Hex

/-- A digit of either case, and its value. -/
def IsDigit (c : Char) (n : Nat) : Prop := n < 16 ∧ (c = digit n ∨ c = (digit n).toUpper)

theorem toNat_lt_of_isDigit {c : Char} {n : Nat} (h : IsDigit c n) : c.toNat < 128 := by
  have hall : ∀ n < 16, (digit n).toNat < 128 ∧ (digit n).toUpper.toNat < 128 := by decide
  obtain ⟨hn, rfl | rfl⟩ := h
  · exact (hall n hn).1
  · exact (hall n hn).2

theorem digitValue?_eq_some_iff {c : Char} {n : Nat} : digitValue? c = some n ↔ IsDigit c n := by
  have hall : ∀ k < 128, (∀ n < 16, digitValue? (Char.ofNat k) = some n ↔
      Char.ofNat k = digit n ∨ Char.ofNat k = (digit n).toUpper) ∧
      ∀ n ∈ digitValue? (Char.ofNat k), n < 16 := by
    decide +kernel
  by_cases hc : c.toNat < 128
  · obtain ⟨hiff, hbound⟩ := hall c.toNat hc
    rw [Char.ofNat_toNat] at hiff hbound
    exact ⟨fun h => ⟨hbound n h, (hiff n (hbound n h)).mp h⟩, fun h => (hiff n h.1).mpr h.2⟩
  · refine ⟨fun h => absurd h ?_, fun h => absurd (toNat_lt_of_isDigit h) hc⟩
    have hbeyond {last : Char} (hlast : last.toNat < 128) : ¬ c ≤ last := fun hle =>
      hc (Nat.lt_of_le_of_lt hle hlast)
    simp [digitValue?, hbeyond]

def digits : List Char := "0123456789abcdefABCDEF".toList

theorem mem_digits_iff {c : Char} : c ∈ digits ↔ ∃ n, IsDigit c n := by
  constructor
  · intro h
    have hall : digits.all (fun c => (digitValue? c).isSome) = true := by decide
    obtain ⟨n, hn⟩ := Option.isSome_iff_exists.mp (List.all_eq_true.mp hall c h)
    exact ⟨n, digitValue?_eq_some_iff.mp hn⟩
  · have hall : ∀ n < 16, digit n ∈ digits ∧ (digit n).toUpper ∈ digits := by decide
    rintro ⟨n, hn, rfl | rfl⟩
    · exact (hall n hn).1
    · exact (hall n hn).2

/-- Every two characters of the text are the digits of a byte, the higher one first. -/
inductive Spells : List Char → List UInt8 → Prop
  | nothing : Spells [] []
  | byte {c c' : Char} {high low : Nat} {text : List Char} {bytes : List UInt8}
      (hhigh : IsDigit c high) (hlow : IsDigit c' low) (h : Spells text bytes) :
    Spells (c :: c' :: text) (UInt8.ofNat (16 * high + low) :: bytes)

/-- Text spells something if it is an even number of digits. -/
theorem exists_spells_iff (text : List Char) :
    (∃ bytes, Spells text bytes) ↔ text.length % 2 = 0 ∧ ∀ c ∈ text, c ∈ digits := by
  simp only [mem_digits_iff]
  constructor
  · rintro ⟨bytes, h⟩
    induction h with
    | nothing => exact ⟨rfl, fun c hc => nomatch hc⟩
    | byte hhigh hlow _ ih =>
      refine ⟨by simpa [Nat.add_assoc] using ih.1, ?_⟩
      exact List.forall_mem_cons.mpr ⟨⟨_, hhigh⟩, List.forall_mem_cons.mpr ⟨⟨_, hlow⟩, ih.2⟩⟩
  · rintro ⟨heven, hdigits⟩
    induction text using List.twoStepInduction with
    | nil => exact ⟨[], .nothing⟩
    | singleton c => simp at heven
    | cons_cons c c' text ih _ =>
      obtain ⟨⟨high, hhigh⟩, hrest⟩ := List.forall_mem_cons.mp hdigits
      obtain ⟨⟨low, hlow⟩, htext⟩ := List.forall_mem_cons.mp hrest
      obtain ⟨bytes, h⟩ := ih (by simpa [Nat.add_assoc] using heven) htext
      exact ⟨_, .byte hhigh hlow h⟩

end Hex

namespace Command.Payload
open Hex

/-- The characters that do not count in hexadecimal text. -/
def blanks : List Char := [' ', '\t', '\n', '\x0c', '\r']

/-- The text with a zero for each plus sign in front of a second character. -/
def unsigned : List Char → List Char
  | c :: c' :: text => (if c = '+' then '0' else c) :: c' :: unsigned text
  | text => text

theorem unsigned_eq_self {text : List Char} (h : '+' ∉ text) : unsigned text = text := by
  fun_induction unsigned text with
  | case1 c c' text ih =>
    simp only [List.mem_cons, not_or] at h
    rw [ih h.2.2, if_neg (Ne.symm h.1)]
  | case2 => rfl

theorem filter_utf8 (input : String) :
    (utf8 input).filter (fun b => !Blank.isAscii b) =
      (input.toList.filter (· ∉ blanks)).flatMap String.utf8EncodeChar := by
  have hkeep : ∀ b : UInt8, 128 ≤ b.toNat → (!Blank.isAscii b) = true := by
    intro b hb
    have hne {n : UInt8} (hn : n.toNat < 128) : (b == n) = false :=
      beq_eq_false_iff_ne.mpr fun h => by rw [h] at hb; omega
    simp [Blank.isAscii, hne]
  have hblank : ∀ k < 128,
      (!Blank.isAscii (Utf8.byte (Char.ofNat k))) = decide (Char.ofNat k ∉ blanks) := by
    decide +kernel
  have hbeyond : blanks.all (fun c => c.toNat < 128) = true := by decide
  rw [utf8_eq, Utf8.filter_flatMap_encode hkeep]
  congr 1
  refine List.filter_congr fun c _ => ?_
  by_cases hc : c.toNat < 128
  · have hascii := hblank c.toNat hc
    rw [Char.ofNat_toNat] at hascii
    rw [hascii, decide_eq_false (Nat.not_le_of_lt hc), Bool.false_or]
  · rw [decide_eq_true (Nat.le_of_not_lt hc), Bool.true_or]
    have hmem : c ∉ blanks := fun hmem => hc (by simpa using List.all_eq_true.mp hbeyond c hmem)
    simp [hmem]

theorem digitValue?_eq_none {b : UInt8} (h : 128 ≤ b.toNat) : digitValue? b = none := by
  have hall : ∀ k < 256, 128 ≤ k → Hex.digitValue? (Char.ofNat k) = none := by decide +kernel
  exact hall b.toNat b.toNat_lt h

/-- The value of a byte in the higher place. -/
def leading? (b : UInt8) : Option Nat := if b = '+'.toNat.toUInt8 then some 0 else digitValue? b

theorem pair?_eq_some_iff {first second b : UInt8} : pair? first second = some b ↔
    ∃ high low, leading? first = some high ∧ digitValue? second = some low ∧
      b = UInt8.ofNat (16 * high + low) := by
  have hpair : pair? first second = (leading? first).bind fun high =>
      (digitValue? second).bind fun low => some (UInt8.ofNat (16 * high + low)) := by
    unfold pair? leading?
    split <;> rfl
  simp only [hpair, Option.bind_eq_some_iff, Option.some.injEq]
  constructor
  · rintro ⟨high, hhigh, low, hlow, rfl⟩
    exact ⟨high, low, hhigh, hlow, rfl⟩
  · rintro ⟨high, low, hhigh, hlow, rfl⟩
    exact ⟨high, hhigh, low, hlow, rfl⟩

theorem pair?_ascii {first second b : UInt8} (h : pair? first second = some b) :
    first.toNat < 128 ∧ second.toNat < 128 := by
  obtain ⟨high, low, hhigh, hlow, -⟩ := pair?_eq_some_iff.mp h
  refine ⟨Nat.lt_of_not_le fun hbeyond => ?_, Nat.lt_of_not_le fun hbeyond => ?_⟩
  · have hsign : first ≠ '+'.toNat.toUInt8 := by
      rintro rfl
      exact absurd hbeyond (by decide)
    rw [leading?, if_neg hsign, digitValue?_eq_none hbeyond] at hhigh
    cases hhigh
  · rw [digitValue?_eq_none hbeyond] at hlow
    cases hlow

theorem pairs?_ascii {digits bytes : List UInt8} (h : pairs? digits = some bytes) :
    ∀ b ∈ digits, b.toNat < 128 := by
  fun_induction pairs? digits generalizing bytes with
  | case1 => exact fun b hb => nomatch hb
  | case2 => cases h
  | case3 first second rest ih =>
    simp only [Option.bind_eq_bind, Option.bind_eq_some_iff] at h
    obtain ⟨b, hpair, bytes', hrest, -⟩ := h
    obtain ⟨hfirst, hsecond⟩ := pair?_ascii hpair
    exact List.forall_mem_cons.mpr ⟨hfirst, List.forall_mem_cons.mpr ⟨hsecond, ih hrest⟩⟩

theorem digitValue?_byte {c : Char} (hc : c.toNat < 128) :
    digitValue? (Utf8.byte c) = Hex.digitValue? c := by
  rw [digitValue?, Utf8.char_byte hc]

theorem leading?_byte {c : Char} (hc : c.toNat < 128) :
    leading? (Utf8.byte c) = Hex.digitValue? (if c = '+' then '0' else c) := by
  have hsign : Utf8.byte c = '+'.toNat.toUInt8 ↔ c = '+' := by
    refine ⟨fun h => ?_, fun h => h ▸ rfl⟩
    rw [← Utf8.char_byte hc, h]
    rfl
  by_cases hplus : c = '+'
  · rw [leading?, if_pos (hsign.mpr hplus), if_pos hplus]
    rfl
  · rw [leading?, if_neg (mt hsign.mp hplus), if_neg hplus, digitValue?_byte hc]

theorem pairs?_map_byte {text : List Char} (h : ∀ c ∈ text, c.toNat < 128) (bytes : List UInt8) :
    pairs? (text.map Utf8.byte) = some bytes ↔ Spells (unsigned text) bytes := by
  induction text using List.twoStepInduction generalizing bytes with
  | nil =>
    refine ⟨fun hbytes => ?_, fun hspells => by cases hspells; rfl⟩
    cases hbytes
    exact .nothing
  | singleton c => exact ⟨(nomatch ·), (nomatch ·)⟩
  | cons_cons c c' text ih _ =>
    obtain ⟨hc, hrest⟩ := List.forall_mem_cons.mp h
    obtain ⟨hc', htext⟩ := List.forall_mem_cons.mp hrest
    simp only [List.map_cons, pairs?, unsigned, Option.bind_eq_bind, Option.bind_eq_some_iff,
      pair?_eq_some_iff, leading?_byte hc, digitValue?_byte hc', digitValue?_eq_some_iff, ih htext,
      Option.pure_def, Option.some.injEq]
    constructor
    · rintro ⟨_, ⟨high, low, hhigh, hlow, rfl⟩, rest, hspells, rfl⟩
      exact .byte hhigh hlow hspells
    · rintro (_ | ⟨hhigh, hlow, hspells⟩)
      exact ⟨_, ⟨_, _, hhigh, hlow, rfl⟩, _, hspells, rfl⟩

theorem ascii_of_spells {text : List Char} {bytes : List UInt8} (h : Spells (unsigned text) bytes) :
    ∀ c ∈ text, c.toNat < 128 := by
  induction text using List.twoStepInduction generalizing bytes with
  | nil => exact fun c hc => nomatch hc
  | singleton c => nomatch h
  | cons_cons c c' text ih _ =>
    rw [unsigned] at h
    cases h with
    | byte hhigh hlow hspells =>
      have hc : c.toNat < 128 := by
        by_cases hplus : c = '+'
        · rw [hplus]
          decide
        · rw [if_neg hplus] at hhigh
          exact toNat_lt_of_isDigit hhigh
      exact List.forall_mem_cons.mpr ⟨hc,
        List.forall_mem_cons.mpr ⟨toNat_lt_of_isDigit hlow, ih hspells⟩⟩

theorem pairs?_flatMap_encode (text : List Char) (bytes : List UInt8) :
    pairs? (text.flatMap String.utf8EncodeChar) = some bytes ↔ Spells (unsigned text) bytes := by
  constructor
  · intro h
    have hascii := Utf8.ascii_of_bytes (pairs?_ascii h)
    rw [Utf8.flatMap_encode_of_ascii hascii] at h
    exact (pairs?_map_byte hascii bytes).mp h
  · intro h
    have hascii := ascii_of_spells h
    rw [Utf8.flatMap_encode_of_ascii hascii]
    exact (pairs?_map_byte hascii bytes).mpr h

theorem even_of_pairs? {digits bytes : List UInt8} (h : pairs? digits = some bytes) :
    digits.length % 2 = 0 := by
  fun_induction pairs? digits generalizing bytes with
  | case1 => rfl
  | case2 => cases h
  | case3 first second rest ih =>
    simp only [Option.bind_eq_bind, Option.bind_eq_some_iff] at h
    obtain ⟨-, -, bytes', hrest, -⟩ := h
    simpa [Nat.add_assoc] using ih hrest

theorem parseHex_eq_ok_iff (input : String) (bytes : List UInt8) :
    parseHex input = .ok bytes ↔ Spells (unsigned (input.toList.filter (· ∉ blanks))) bytes := by
  rw [← pairs?_flatMap_encode, ← filter_utf8]
  unfold parseHex
  dsimp only
  split
  next hodd =>
    exact ⟨(nomatch ·), fun h => absurd (even_of_pairs? h) hodd⟩
  next => split <;> simp_all

theorem code_of_parseHex {input : String} {f : Failure} (h : parseHex input = .error f) :
    f.code = .usage := by
  unfold parseHex at h
  dsimp only at h
  split at h
  · cases h
    rfl
  · split at h <;> cases h
    rfl

/-- Blanks apart, text is read as the bytes that it spells, where a plus sign in front of a second
character counts as a zero. Without plus signs it has to be an even number of digits. Whatever is
refused is refused as a misuse. -/
theorem parseHex_reads_digits (input : String) :
    let text := input.toList.filter (· ∉ blanks)
    (∀ bytes, parseHex input = .ok bytes ↔ Spells (unsigned text) bytes) ∧
      ('+' ∉ text →
        ((∃ bytes, parseHex input = .ok bytes) ↔ text.length % 2 = 0 ∧ ∀ c ∈ text, c ∈ digits) ∧
          ∀ bytes, parseHex input = .ok bytes ↔ Spells text bytes) ∧
      ∀ f, parseHex input = .error f → f.code = .usage := by
  intro text
  have hread (bytes : List UInt8) :
      parseHex input = .ok bytes ↔ Spells (unsigned text) bytes := parseHex_eq_ok_iff input bytes
  refine ⟨hread, fun hplus => ?_, fun f h => code_of_parseHex h⟩
  rw [unsigned_eq_self hplus] at hread
  refine ⟨?_, hread⟩
  rw [← exists_spells_iff]
  exact exists_congr hread

/-- Blanks within a pair do not matter, and a letter beyond the digits does. -/
theorem parseHex_reads_digits_orRefuses :
    ((∃ bytes, parseHex "0 A\t0b" = .ok bytes) ↔
      ['0', 'A', '0', 'b'].length % 2 = 0 ∧ ∀ c ∈ ['0', 'A', '0', 'b'], c ∈ digits) ∧
    ∃ f, parseHex "0g" = .error f ∧ f.code = .usage := by
  have hrefused : parseHex "0g" = .error ⟨.usage, "--hex is not valid hex: 0g"⟩ := by decide +kernel
  exact ⟨((parseHex_reads_digits "0 A\t0b").2.1 (by decide)).1,
    _, hrefused, (parseHex_reads_digits "0g").2.2 _ hrefused⟩

/-- A sign and a digit are read as a byte, though a sign is no digit. -/
theorem parseHex_reads_sign :
    parseHex "+f" = .ok [15] ∧
      ¬ ((∃ bytes, parseHex "+f" = .ok bytes) ↔
        ("+f".toList.filter (· ∉ blanks)).length % 2 = 0 ∧
          ∀ c ∈ "+f".toList.filter (· ∉ blanks), c ∈ digits) := by
  have hread : parseHex "+f" = .ok [15] := by decide +kernel
  refine ⟨hread, fun hiff => ?_⟩
  exact absurd ((hiff.mp ⟨_, hread⟩).2 '+' (by decide)) (by decide)

end Command.Payload

end AltBit

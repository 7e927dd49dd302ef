import AltBit.Proofs.Shares
import AltBit.Proofs.Trimming

/-!
How long a sender may take, as it is written: a decimal number of seconds or of milliseconds with
white space around it. Exactly the positive numbers of 64 bits are read, and nothing is rounded.
-/
namespace AltBit

namespace Number

/-- One digit or more, which stand for `n`. Zeros in front do not count. -/
structure Numeral (digits : List Char) (n : Nat) : Prop where
  nonempty : digits ≠ []
  isDigit : ∀ c ∈ digits, c.isDigit = true
  value : Nat.ofDigitChars 10 digits 0 = n

variable {n : Nat} {text : List Char}

theorem digit?_eq_some_iff {c : Char} :
    digit? c = some n ↔ c.isDigit = true ∧ c.toNat - '0'.toNat = n := by
  have hdigit : ('0' ≤ c ∧ c ≤ '9') ↔ c.isDigit = true := by
    simp [Char.isDigit, Char.le_def]
  rw [digit?, ← hdigit]
  split <;> simp_all

/-- Puts one more digit behind a number. -/
def shift? (n? : Option Nat) (c : Char) : Option Nat := do
  pure (10 * (← n?) + (← digit? c))

theorem shift?_eq_some_iff {m? : Option Nat} {c : Char} : shift? m? c = some n ↔
    ∃ m, m? = some m ∧ c.isDigit = true ∧ 10 * m + (c.toNat - '0'.toNat) = n := by
  unfold shift?
  simp only [Option.bind_eq_bind, Option.bind_eq_some_iff, digit?_eq_some_iff, Option.pure_def,
    Option.some.injEq]
  grind

theorem foldl_shift?_eq_some_iff {m? : Option Nat} : text.foldl shift? m? = some n ↔
    ∃ m, m? = some m ∧ (∀ c ∈ text, c.isDigit = true) ∧ Nat.ofDigitChars 10 text m = n := by
  induction text generalizing m? with
  | nil => simp [Nat.ofDigitChars]
  | cons c text ih =>
    rw [List.foldl_cons, ih]
    simp only [shift?_eq_some_iff, List.forall_mem_cons, Nat.ofDigitChars_cons]
    grind

theorem ofDigits?_eq_some_iff : ofDigits? text = some n ↔ Numeral text n := by
  cases text with
  | nil => exact ⟨(nomatch ·), fun h => absurd rfl h.nonempty⟩
  | cons c text =>
    have hfold : ofDigits? (c :: text) = (c :: text).foldl shift? (some 0) := rfl
    rw [hfold, foldl_shift?_eq_some_iff]
    constructor
    · rintro ⟨_, ⟨⟩, hdigits, hvalue⟩
      exact ⟨List.cons_ne_nil _ _, hdigits, hvalue⟩
    · intro h
      exact ⟨0, rfl, h.isDigit, h.value⟩

theorem Numeral.ne_sign (h : Numeral text n) {c : Char} (hc : c ∈ text) : c ≠ '+' := by
  rintro rfl
  exact absurd (h.isDigit '+' hc) (by decide)

/-- A number of at most `max`, perhaps behind a plus sign. -/
theorem unsigned?_eq_some_iff {max : Nat} : unsigned? max text = some n ↔
    n ≤ max ∧ ∃ sign digits, text = sign ++ digits ∧ (sign = [] ∨ sign = ['+']) ∧
      Numeral digits n := by
  have hread : unsigned? max text = some n ↔
      n ≤ max ∧ Numeral (if text.head? = some '+' then text.tail else text) n := by
    unfold unsigned?
    simp only [Option.bind_eq_bind, Option.bind_eq_some_iff, ofDigits?_eq_some_iff]
    constructor
    · rintro ⟨m, hm, hle⟩
      split at hle <;> cases hle
      exact ⟨‹_›, hm⟩
    · rintro ⟨hle, hn⟩
      exact ⟨n, hn, if_pos hle⟩
  rw [hread]
  refine and_congr_right fun _ => ⟨fun h => ?_, ?_⟩
  · split at h
    next hsign =>
      refine ⟨['+'], text.tail, ?_, .inr rfl, h⟩
      exact (List.cons_head?_tail hsign).symm
    next => exact ⟨[], text, rfl, .inl rfl, h⟩
  · rintro ⟨sign, digits, rfl, rfl | rfl, hdigits⟩
    · have hsign : ¬ digits.head? = some '+' := fun h =>
        hdigits.ne_sign (List.mem_of_head? h) rfl
      rwa [List.nil_append, if_neg hsign]
    · exact hdigits

end Number

namespace Command.Timeout
open Number

/-- What stands behind a number of milliseconds or of seconds. -/
def spellings : (millis : Bool) → List (List Char)
  | true => [['m', 's']]
  | false => [[], ['s']]

def nanosPerUnit : (millis : Bool) → Nat
  | true => 1000000
  | false => nanosPerSecond

/-- The text says `v`, as a number of milliseconds or of seconds: digits, perhaps behind a plus sign
and in front of a unit, and any amount of white space around them. -/
def Says (text : List Char) (v : Nat) (millis : Bool) : Prop :=
  ∃ before sign digits unit after, text = before ++ (sign ++ digits ++ unit) ++ after ∧
    (∀ c ∈ before ++ after, Blank.isSpace c = true) ∧ (sign = [] ∨ sign = ['+']) ∧
    Numeral digits v ∧ unit ∈ spellings millis

theorem exists_eq_splitUnit_append (text : List Char) :
    ∃ unit ∈ spellings (splitUnit text).2, text = (splitUnit text).1 ++ unit := by
  unfold splitUnit
  split
  next number h =>
    refine ⟨['m', 's'], List.mem_singleton_self _, ?_⟩
    rw [← text.reverse_reverse, h]
    simp
  next number _ h =>
    refine ⟨['s'], List.mem_cons_of_mem _ (List.mem_singleton_self _), ?_⟩
    rw [← text.reverse_reverse, h]
    simp
  next => exact ⟨[], List.mem_cons_self, (List.append_nil _).symm⟩

/-- A digit ends the number, so no part of it is taken for the unit. -/
theorem splitUnit_append {number unit : List Char} {millis : Bool} (hunit : unit ∈ spellings millis)
    (hne : number ≠ []) (hlast : (number.getLast hne).isDigit = true) :
    splitUnit (number ++ unit) = (number, millis) := by
  obtain ⟨init, c, rfl⟩ := (List.eq_nil_or_concat' number).resolve_left hne
  rw [List.getLast_append_singleton] at hlast
  have hs : c ≠ 's' := by
    rintro rfl
    exact absurd hlast (by decide)
  have hm : c ≠ 'm' := by
    rintro rfl
    exact absurd hlast (by decide)
  cases millis with
  | true =>
    obtain rfl : unit = ['m', 's'] := by simpa [spellings] using hunit
    simp [splitUnit]
  | false =>
    obtain rfl | rfl : unit = [] ∨ unit = ['s'] := by simpa [spellings] using hunit
    · unfold splitUnit
      simp [hs]
    · unfold splitUnit
      simp [hm]

theorem isSpace_of_isDigit {c : Char} (h : c.isDigit = true) : Blank.isSpace c = false := by
  have hrange : 48 ≤ c.toNat ∧ c.toNat ≤ 57 := by
    simp only [Char.isDigit, Bool.and_eq_true, decide_eq_true_eq, ge_iff_le,
      UInt32.le_iff_toNat_le] at h
    exact h
  have hall : ∀ k < 58, 48 ≤ k → Blank.isSpace (Char.ofNat k) = false := by decide
  have hc := hall c.toNat (Nat.lt_succ_of_le hrange.2) hrange.1
  rwa [Char.ofNat_toNat] at hc

theorem ends_of_signed {sign digits : List Char} {v : Nat} (hsign : sign = [] ∨ sign = ['+'])
    (hdigits : Numeral digits v) : ∃ hne : sign ++ digits ≠ [],
      Blank.isSpace ((sign ++ digits).head hne) = false ∧
        ((sign ++ digits).getLast hne).isDigit = true := by
  have hne : sign ++ digits ≠ [] := List.append_ne_nil_of_right_ne_nil _ hdigits.nonempty
  refine ⟨hne, ?_, ?_⟩
  · rcases hsign with rfl | rfl
    · exact isSpace_of_isDigit (hdigits.isDigit _ (List.head_mem hdigits.nonempty))
    · show Blank.isSpace '+' = false
      decide
  · rw [List.getLast_append_of_ne_nil _ hdigits.nonempty]
    exact hdigits.isDigit _ (List.getLast_mem hdigits.nonempty)

theorem trim_says {before number unit after : List Char} {millis : Bool}
    (hspace : ∀ c ∈ before ++ after, Blank.isSpace c = true) (hunit : unit ∈ spellings millis)
    (hne : number ≠ []) (hhead : Blank.isSpace (number.head hne) = false)
    (hlast : (number.getLast hne).isDigit = true) :
    Blank.trim (before ++ (number ++ unit) ++ after) = number ++ unit := by
  have hunits : unit = [] ∨ unit = ['s'] ∨ unit = ['m', 's'] := by
    cases millis <;> simp only [spellings, List.mem_cons, List.not_mem_nil] at hunit <;> tauto
  have hbody : number ++ unit ≠ [] := List.append_ne_nil_of_left_ne_nil hne _
  apply Blank.trim_append hspace hbody
  · rwa [List.head_append_of_ne_nil]
  · have hs : Blank.isSpace 's' = false := by decide
    rcases hunits with rfl | rfl | rfl
    · simpa using isSpace_of_isDigit hlast
    · simpa using hs
    · simpa using hs

theorem toNanos_ofUnits (millis : Bool) {v : Nat} (hv : v < UInt64.size) :
    (if millis then Duration.ofMillis (UInt64.ofNat v)
      else Duration.ofSecs (UInt64.ofNat v)).toNanos = v * nanosPerUnit millis := by
  have hword : (UInt64.ofNat v).toNat = v := UInt64.toNat_ofNat_of_lt' hv
  cases millis with
  | true => exact (Duration.toNanos_ofMillis _).trans (by rw [hword]; rfl)
  | false => exact (Duration.toNanos_ofSecs _).trans (by rw [hword]; rfl)

theorem parse_eq_ok_iff_of_splitUnit {input : String} {number : List Char} {millis : Bool}
    (h : splitUnit (Blank.trim input.toList) = (number, millis)) (d : Duration) :
    parse input = .ok d ↔ ∃ v, unsigned? (UInt64.size - 1) number = some v ∧ v ≠ 0 ∧
      d.toNanos = v * nanosPerUnit millis := by
  unfold parse
  dsimp only
  split
  next hempty =>
    obtain ⟨rfl, rfl⟩ : number = [] ∧ millis = false := by
      rw [List.isEmpty_iff.mp hempty] at h
      exact ⟨congrArg Prod.fst h.symm, congrArg Prod.snd h.symm⟩
    exact ⟨(nomatch ·), fun ⟨v, hv, _⟩ => nomatch hv⟩
  next =>
    rw [h]
    dsimp only
    split
    next hnone =>
      refine ⟨(nomatch ·), fun ⟨v, hv, _⟩ => ?_⟩
      rw [hnone] at hv
      cases hv
    next hzero =>
      refine ⟨(nomatch ·), fun ⟨v, hv, hpos, _⟩ => ?_⟩
      rw [hzero] at hv
      exact absurd (Option.some.inj hv).symm hpos
    next v hpos hv =>
      have hlt : v < UInt64.size := by
        have hle := (unsigned?_eq_some_iff.mp hv).1
        simp only [UInt64.size] at *
        omega
      simp only [Except.ok.injEq, hv, Option.some.injEq, exists_eq_left']
      rw [← toNanos_ofUnits millis hlt, Duration.toNanos_injective.eq_iff]
      exact ⟨fun h => ⟨hpos, h.symm⟩, fun h => h.2.symm⟩

theorem parse_eq_ok_iff (input : String) (d : Duration) : parse input = .ok d ↔
    ∃ v millis, Says input.toList v millis ∧ 0 < v ∧ v < UInt64.size ∧
      d.toNanos = v * nanosPerUnit millis := by
  constructor
  · intro h
    obtain ⟨number, millis, hsplit⟩ : ∃ number millis,
        splitUnit (Blank.trim input.toList) = (number, millis) := ⟨_, _, rfl⟩
    obtain ⟨v, hv, hpos, hd⟩ := (parse_eq_ok_iff_of_splitUnit hsplit d).mp h
    obtain ⟨hmax, sign, digits, hnumber, hsign, hdigits⟩ := unsigned?_eq_some_iff.mp hv
    obtain ⟨before, after, htrim, hspace⟩ := Blank.exists_eq_append_trim input.toList
    obtain ⟨unit, hunit, htext⟩ := exists_eq_splitUnit_append (Blank.trim input.toList)
    rw [hsplit] at hunit htext
    rw [htext, hnumber] at htrim
    exact ⟨v, _, ⟨before, sign, digits, unit, after, htrim, hspace, hsign, hdigits, hunit⟩,
      Nat.pos_of_ne_zero hpos, Nat.lt_of_le_pred (by decide) hmax, hd⟩
  · rintro ⟨v, millis, ⟨before, sign, digits, unit, after, htext, hspace, hsign, hdigits, hunit⟩,
      hpos, hlt, hd⟩
    obtain ⟨hne, hhead, hlast⟩ := ends_of_signed hsign hdigits
    have hsplit : splitUnit (Blank.trim input.toList) = (sign ++ digits, millis) := by
      rw [htext, trim_says hspace hunit hne hhead hlast]
      exact splitUnit_append hunit hne hlast
    rw [parse_eq_ok_iff_of_splitUnit hsplit]
    refine ⟨v, unsigned?_eq_some_iff.mpr ⟨Nat.le_pred_of_lt hlt, sign, digits, rfl, hsign, hdigits⟩,
      hpos.ne', hd⟩

theorem code_of_parse {input : String} {f : Failure} (h : parse input = .error f) :
    f.code = .usage := by
  unfold parse at h
  dsimp only at h
  split at h
  · cases h
    rfl
  · split at h <;> cases h <;> rfl

/-- Text is read as a time exactly if it says a positive number of 64 bits, and then it is read as
that many of its unit, which is never no time at all. Whatever is refused is refused as a misuse. -/
theorem parse_reads_numerals (input : String) :
    ((∃ d, parse input = .ok d) ↔
      ∃ v millis, Says input.toList v millis ∧ 0 < v ∧ v < UInt64.size) ∧
    (∀ d, parse input = .ok d ↔ ∃ v millis, Says input.toList v millis ∧ 0 < v ∧ v < UInt64.size ∧
      d.toNanos = v * nanosPerUnit millis) ∧
    (∀ d, parse input = .ok d → d ≠ Duration.zero) ∧
    ∀ f, parse input = .error f → f.code = .usage := by
  have hread := parse_eq_ok_iff input
  refine ⟨⟨?_, ?_⟩, hread, ?_, fun f h => code_of_parse h⟩
  · rintro ⟨d, h⟩
    obtain ⟨v, millis, hsays, hpos, hlt, -⟩ := (hread d).mp h
    exact ⟨v, millis, hsays, hpos, hlt⟩
  · rintro ⟨v, millis, hsays, hpos, hlt⟩
    exact ⟨_, (hread _).mpr ⟨v, millis, hsays, hpos, hlt, toNanos_ofUnits millis hlt⟩⟩
  · rintro d h rfl
    obtain ⟨v, millis, -, hpos, -, hd⟩ := (hread _).mp h
    have hunit : 0 < nanosPerUnit millis := by cases millis <;> decide
    have hprod : 0 < v * nanosPerUnit millis := Nat.mul_pos hpos hunit
    rw [← hd] at hprod
    exact absurd hprod (by decide)

/-- The longest time that can be written, and one second more. -/
theorem parse_reads_numerals_longest :
    (∃ d, parse " +18446744073709551615s\n" = .ok d ∧ d ≠ Duration.zero) ∧
      ∃ f, parse "18446744073709551616" = .error f ∧ f.code = .usage := by
  have hlongest : parse " +18446744073709551615s\n" =
      .ok (Duration.ofSecs 18446744073709551615) := by decide +kernel
  have hbeyond : parse "18446744073709551616" =
      .error ⟨.usage, "invalid duration value: 18446744073709551616"⟩ := by decide +kernel
  exact ⟨⟨_, hlongest, (parse_reads_numerals _).2.2.1 _ hlongest⟩,
    _, hbeyond, (parse_reads_numerals _).2.2.2 _ hbeyond⟩

end Command.Timeout

end AltBit

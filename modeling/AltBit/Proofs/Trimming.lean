import AltBit.Command.Payload
import Mathlib.Data.List.DropRight

/-!
What is left out at the ends: white space on both sides of a text, and zeros behind a payload.
-/
namespace AltBit

theorem rdropWhile_append_of_pos {α : Type} {p : α → Bool} {xs ys : List α}
    (h : ∀ y ∈ ys, p y = true) : (xs ++ ys).rdropWhile p = xs.rdropWhile p := by
  have hreverse : ∀ y ∈ ys.reverse, p y = true := fun y hy => h y (List.mem_reverse.mp hy)
  rw [List.rdropWhile, List.reverse_append, List.dropWhile_append_of_pos hreverse, List.rdropWhile]

namespace Blank

theorem trim_eq (text : List Char) : trim text = (text.dropWhile isSpace).rdropWhile isSpace := rfl

theorem exists_eq_append_trim (text : List Char) : ∃ before after,
    text = before ++ trim text ++ after ∧ ∀ c ∈ before ++ after, isSpace c = true := by
  refine ⟨text.takeWhile isSpace, (text.dropWhile isSpace).rtakeWhile isSpace, ?_, ?_⟩
  · rw [trim_eq, List.append_assoc, List.rdropWhile_append_rtakeWhile,
      List.takeWhile_append_dropWhile]
  · intro c hc
    rcases List.mem_append.mp hc with hc | hc
    · exact List.mem_takeWhile_imp hc
    · exact List.mem_rtakeWhile_imp hc

/-- White space is left out up to the first and from behind the last character that is none. -/
theorem trim_append {before body after : List Char}
    (hspace : ∀ c ∈ before ++ after, isSpace c = true) (hne : body ≠ [])
    (hhead : isSpace (body.head hne) = false) (hlast : isSpace (body.getLast hne) = false) :
    trim (before ++ body ++ after) = body := by
  obtain ⟨hbefore, hafter⟩ := List.forall_mem_append.mp hspace
  have hdrop : (body ++ after).dropWhile isSpace = body ++ after := by
    cases body with
    | nil => exact absurd rfl hne
    | cons c body => exact List.dropWhile_cons_of_neg (by simpa using hhead)
  rw [trim_eq, List.append_assoc, List.dropWhile_append_of_pos hbefore, hdrop,
    rdropWhile_append_of_pos hafter]
  exact List.rdropWhile_eq_self_iff.mpr fun _ => by simp [hlast]

end Blank

namespace Command.Payload

theorem unpadded_eq (payload : List UInt8) : unpadded payload = payload.rdropWhile (· == 0) := rfl

theorem exists_eq_unpadded_append (payload : List UInt8) :
    ∃ k, payload = unpadded payload ++ List.replicate k 0 := by
  have hzeros : ∀ b ∈ payload.rtakeWhile (· == 0), b = 0 := fun b hb => by
    simpa using List.mem_rtakeWhile_imp hb
  refine ⟨(payload.rtakeWhile (· == 0)).length, ?_⟩
  rw [← List.eq_replicate_of_mem hzeros, unpadded_eq, List.rdropWhile_append_rtakeWhile]

theorem unpadded_append_replicate {bytes : List UInt8} (k : Nat)
    (hlast : ∀ h : bytes ≠ [], bytes.getLast h ≠ 0) :
    unpadded (bytes ++ List.replicate k 0) = bytes := by
  have hzeros : ∀ b ∈ List.replicate k (0 : UInt8), (b == 0) = true := by simp
  rw [unpadded_eq, rdropWhile_append_of_pos hzeros, List.rdropWhile_eq_self_iff]
  intro hne
  simpa using hlast hne

end Command.Payload

end AltBit

import AltBit.Proofs.Remote
import AltBit.Proofs.Sending

/-!
Links that lose frames and do nothing else to them. A frame that has not got lost can be read at
once, so when there is nothing to be read or an operation has failed, no frame is on its way any
more. That makes a reliable send a matter of the far end alone: all that has to be known is what
becomes of a registry that is given the same request once or several times.
-/
namespace AltBit
open Traced

def Losing {m : Nat} (fs gs : List (Frame m)) : Prop := gs.Sublist fs

variable {T σ : Type} {m : Nat}

/-- What is said of a registry and of what the handler of one identifier has been given. -/
abbrev Stage (σ : Type) := Registry σ → List (List UInt8) → Prop

/-- A request makes `S` out of `B`, and it is not known whether it has arrived. -/
def Between (B S : Stage σ) : Stage σ := fun r given => B r given ∨ S r given

variable {id : Identifier} {f : Frame m} {B S : Stage σ} {d : Dispatcher (Link.Memory m) σ}
  {log : List Event}

/-- No frame is on its way, and the far end has `S`. -/
def Rested (id : Identifier) (S : Stage σ) (d : Dispatcher (Link.Memory m) σ) (log : List Event) :
    Prop :=
  d.link.Empty ∧ S d.registry (invocations id log)

/-- The request `f` is on its way, which makes `S` out of `B`, or one reply to it; either may have
got lost. -/
def Underway (id : Identifier) (f : Frame m) (B S : Stage σ) (d : Dispatcher (Link.Memory m) σ)
    (log : List Event) : Prop :=
  (d.link.inbound.Sublist [f] ∧ d.link.outbound = [] ∧
      Between B S d.registry (invocations id log)) ∨
    (d.link.inbound = [] ∧ d.link.outbound.length ≤ 1 ∧ S d.registry (invocations id log))

namespace Rested

theorem send (hd : Rested id (Between B S) d log) (f : Frame m) :
    Underway id f B S (d.withRequests (d.link.inbound ++ [f])) log := by
  obtain ⟨⟨hinbound, houtbound⟩, hbetween⟩ := hd
  refine .inl ⟨?_, houtbound, hbetween⟩
  rw [hinbound]
  exact List.Sublist.refl _

theorem underway (hd : Rested id (Between B S) d log) (f : Frame m) : Underway id f B S d log :=
  .inl ⟨by simp [hd.1.1], hd.1.2, hd.2⟩

theorem of_empty (hd : Underway id f B S d log) (hempty : d.link.Empty) :
    Rested id (Between B S) d log := by
  rcases hd with ⟨-, -, hbetween⟩ | ⟨-, -, hS⟩
  · exact ⟨hempty, hbetween⟩
  · exact ⟨hempty, .inr hS⟩

/-- A reply can be read only after the request has been handled. -/
theorem of_reply {r : Frame m} {rest : List (Frame m)} (hd : Underway id f B S d log)
    (houtbound : d.link.outbound = r :: rest) : Rested id S (d.withReplies rest) log := by
  rcases hd with ⟨-, hnone, -⟩ | ⟨hinbound, hone, hS⟩
  · rw [houtbound] at hnone
    cases hnone
  · rw [houtbound] at hone
    have hrest : rest = [] := List.length_eq_zero_iff.mp (by simpa using hone)
    exact ⟨⟨hinbound, hrest⟩, hS⟩

end Rested

/-- Events that are no invocations change nothing about what has been given to handlers. -/
theorem invocations_concat {e : Event} (he : ∀ id, e.invokedOn? id = none) (id : Identifier)
    (log : List Event) : invocations id (log ++ [e]) = invocations id log := by
  simp [he]

section
variable [Link T m] [Remote T σ]

theorem silent_rested (P : T → Prop) (id : Identifier) (S : Stage σ) :
    Silent (Across P (Rested id S)) := by
  rintro t log e he ⟨hP, hempty, hS⟩
  refine ⟨hP, hempty, ?_⟩
  rwa [invocations_concat he]

theorem silent_underway (P : T → Prop) (id : Identifier) (f : Frame m) (B S : Stage σ) :
    Silent (Across P (Underway id f B S)) := by
  rintro t log e he ⟨hP, h⟩
  refine ⟨hP, ?_⟩
  rwa [Underway, invocations_concat he]

end

variable [Behaviour σ]

/-- With `f`, a registry with `B` becomes one with `S`, and it stays so if `f` comes again. -/
structure Brings (id : Identifier) (f : Frame m) (B S : Stage σ) : Prop where
  first {r : Registry σ} {given : List (List UInt8)} : B r given →
    S (r.handle f).val.registry (given ++ invocations id (r.handle f).events)
  again {r : Registry σ} {given : List (List UInt8)} : S r given →
    S (r.handle f).val.registry (given ++ invocations id (r.handle f).events)

theorem kept_rested (id : Identifier) (S : Stage σ) :
    Kept (m := m) Losing (Rested id S) where
  requests {d log fs} h hfs := by
    obtain ⟨⟨hinbound, houtbound⟩, hS⟩ := h
    rw [hinbound] at hfs
    exact ⟨⟨List.eq_nil_of_sublist_nil hfs, houtbound⟩, hS⟩
  replies {d log fs} h hfs := by
    obtain ⟨⟨hinbound, houtbound⟩, hS⟩ := h
    rw [houtbound] at hfs
    exact ⟨⟨hinbound, List.eq_nil_of_sublist_nil hfs⟩, hS⟩
  poll {d log} h := by
    obtain ⟨⟨hinbound, houtbound⟩, hS⟩ := h
    rcases d.poll_cases with ⟨hregistry, hinvoked, hlost, hkept⟩ | ⟨g, -, -, htaken, -⟩
    · refine ⟨⟨List.eq_nil_of_sublist_nil (hinbound ▸ hlost), hkept.trans houtbound⟩, ?_⟩
      rw [hregistry, invocations_append, hinvoked, List.append_nil]
      exact hS
    · rw [hinbound] at htaken
      cases htaken

theorem Brings.kept_underway (h : Brings id f B S) : Kept Losing (Underway id f B S) where
  requests {d log fs} hd hfs := by
    rcases hd with ⟨hinbound, hrest⟩ | ⟨hinbound, hrest⟩
    · exact .inl ⟨List.Sublist.trans hfs hinbound, hrest⟩
    · rw [hinbound] at hfs
      exact .inr ⟨List.eq_nil_of_sublist_nil hfs, hrest⟩
  replies {d log fs} hd hfs := by
    rcases hd with ⟨hinbound, houtbound, hbetween⟩ | ⟨hinbound, houtbound, hS⟩
    · rw [houtbound] at hfs
      exact .inl ⟨hinbound, List.eq_nil_of_sublist_nil hfs, hbetween⟩
    · exact .inr ⟨hinbound, Nat.le_trans (List.Sublist.length_le hfs) houtbound, hS⟩
  poll {d log} hd := by
    rcases d.poll_cases with ⟨hregistry, hinvoked, hlost, hkept⟩ |
      ⟨g, hregistry, hinvoked, htaken, hreplied⟩
    · have hgiven : invocations id (log ++ d.poll.events) = invocations id log := by
        rw [invocations_append, hinvoked, List.append_nil]
      rw [Underway, hregistry, hgiven, hkept]
      rcases hd with ⟨hinbound, hrest⟩ | ⟨hinbound, hrest⟩
      · exact .inl ⟨hlost.trans hinbound, hrest⟩
      · exact .inr ⟨List.eq_nil_of_sublist_nil (hinbound ▸ hlost), hrest⟩
    · rcases hd with ⟨hinbound, houtbound, hbetween⟩ | ⟨hinbound, -⟩
      · -- the one request arrives, and its reply is on its way or lost
        rw [htaken] at hinbound
        have hone : g :: d.poll.val.2.link.inbound = [f] :=
          hinbound.eq_of_length_le (by simp)
        obtain ⟨rfl, hempty⟩ := List.cons.inj hone
        right
        refine ⟨hempty, ?_, ?_⟩
        · rcases hreplied with hlost | hkept
          · simp [hlost, houtbound]
          · simp [hkept, houtbound]
        · rw [hregistry, invocations_append, hinvoked]
          exact hbetween.elim h.first h.again
      · rw [hinbound] at htaken
        cases htaken

/-- From states with `P` on, the link loses frames, but neither repeats nor delays them. -/
structure Lossy [Link T m] [Remote T σ] (P : T → Prop) : Prop extends Conveys Losing P where
  nothing_available {t : T} (h : P t) (hnot : (Link.available t).val.1 ≠ .ok true) :
    (Remote.far (Link.available t).val.2).link.Empty
  read_failed {t : T} {e : LinkError} (h : P t) (hread : (Link.read t).val.1 = .error e)
    (he : e.isWouldBlock = false) : (Remote.far (Link.read t).val.2).link.Empty
  write_failed {t : T} {f : Frame m} {e : LinkError} (h : P t)
    (hwrite : (Link.write t f).val.1 = .error e) :
    (Remote.far (Link.write t f).val.2).link.Empty

theorem Link.settle_eq_true_iff {r : Except LinkError Bool} :
    Link.settle false r = .ok true ↔ r = .ok true := by
  cases r with
  | ok b => rfl
  | error e => cases he : e.isWouldBlock <;> simp [Link.settle, he]

/-- Between the attempts to send `f` no frame is on its way, and once it is acknowledged, it has
brought the far end to `S`. -/
theorem Lossy.sends [Link T m] [Remote T σ] {P : T → Prop} (hP : Lossy P) (h : Brings id f B S) :
    Sends f (Across P (Underway id f B S)) (Across P (Rested id (Between B S))) fun _ =>
      Across P (Rested id S) where
  available t log hlog := by
    have hafter := hP.triple_available h.kept_underway t log hlog
    dsimp only
    split
    · exact hafter
    · rename_i hnot
      have hempty := hP.nothing_available hlog.1 fun hready =>
        hnot (Link.settle_eq_true_iff.mpr hready)
      exact ⟨hafter.1, .of_empty hafter.2 hempty⟩
  read t log hlog := by
    have hafter := hP.triple_read h.kept_underway (fun _ => kept_rested id S)
      Rested.of_reply t log hlog
    cases hread : (Link.read t).val.1 with
    | ok r =>
      simp only [hread] at hafter ⊢
      split
      · exact hafter
      · obtain ⟨hP', hempty, hS⟩ := hafter
        exact ⟨hP', Rested.underway ⟨hempty, .inr hS⟩ f⟩
    | error e =>
      simp only [hread] at hafter ⊢
      cases he : e.isWouldBlock with
      | true => exact hafter
      | false => exact ⟨hafter.1, .of_empty hafter.2 (hP.read_failed hlog.1 hread he)⟩
  idle hlog := ⟨hlog.1, hlog.2.underway f⟩
  silent := silent_underway P id f B S
  write t log hlog := by
    have hafter := hP.triple_write (kept_rested id (Between B S)) h.kept_underway
      (fun hd => hd.send f) t log hlog
    dsimp only
    split
    · exact hafter
    · rename_i e hwrite
      exact ⟨hafter.1, .of_empty hafter.2 (hP.write_failed hlog.1 hwrite)⟩
  between := silent_rested P id (Between B S)
  settled _ := silent_rested P id S

end AltBit

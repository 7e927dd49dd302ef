import AltBit.Proofs.Attempts
import AltBit.Proofs.Counting
import Mathlib.Data.List.Basic

/-!
What the calls on a link settle for a sender. A call settles the matter if it fails or if it brings
the frame that acknowledges the one that was sent; a wait, an attempt and a whole send go on until
one of their calls does, so only the last call of theirs can. A send writes its frame and no other.
-/
namespace AltBit
open Traced

/-- Whether a frame acknowledges another. -/
def Frame.acknowledges {m : Nat} (r f : Frame m) : Bool := r.id == f.id && r.ack == f.seq

theorem Frame.acknowledges_iff {m : Nat} (r f : Frame m) :
    r.acknowledges f = true ↔ r.id = f.id ∧ r.ack = f.seq := by
  simp [acknowledges]

namespace LinkCall
variable {m : Nat}

/-- The frame that the call has read. -/
def received? : LinkCall m → Option (Frame m)
  | read (.ok f) => some f
  | _ => none

/-- Why the call has failed; that nothing is there yet is no failure. -/
def failure? : LinkCall m → Option LinkError
  | available (.error e) | read (.error e) => if e.isWouldBlock then none else some e
  | write _ (.error e) => some e
  | _ => none

/-- Whether the call has written a frame, and without failing. -/
def isSent : LinkCall m → Bool
  | write _ (.ok _) => true
  | _ => false

/-- What the call settles for the sender of `f`: the link has failed, or here is the
acknowledgment. -/
def settles? (f : Frame m) (c : LinkCall m) : Option (Except LinkError (Frame m)) :=
  match c.failure? with
  | some e => some (.error e)
  | none => (c.received?.filter (·.acknowledges f)).map .ok

variable {f : Frame m} {c : LinkCall m}

theorem settles?_available (answer : Except LinkError Bool) :
    (available answer).settles? f = match Link.settle false answer with
      | .error e => some (.error e)
      | .ok _ => none := by
  cases answer with
  | ok b => rfl
  | error e => cases he : e.isWouldBlock <;> simp [settles?, failure?, received?, Link.settle, he]

theorem settles?_read (answer : Except LinkError (Frame m)) :
    (read answer).settles? f = match Link.settle none (answer.map some) with
      | .error e => some (.error e)
      | .ok none => none
      | .ok (some r) => if r.acknowledges f then some (.ok r) else none := by
  cases answer with
  | ok r =>
    cases hr : r.acknowledges f <;>
      simp [settles?, failure?, received?, Link.settle, Except.map, hr]
  | error e =>
    cases he : e.isWouldBlock <;>
      simp [settles?, failure?, received?, Link.settle, Except.map, he]

theorem settles?_write (g : Frame m) (answer : Except LinkError Unit) :
    (write g answer).settles? f = match answer with
      | .error e => some (.error e)
      | .ok _ => none := by
  cases answer <;> rfl

theorem settles?_eq_error {e : LinkError} :
    c.settles? f = some (.error e) ↔ c.failure? = some e := by
  unfold settles?
  cases c.failure? <;> simp

theorem settles?_eq_ok {r : Frame m} :
    c.settles? f = some (.ok r) ↔ c.received? = some r ∧ r.acknowledges f = true := by
  constructor
  · intro h
    unfold settles? at h
    cases hfailure : c.failure? with
    | none =>
      rw [hfailure] at h
      obtain ⟨g, hg, hr⟩ := Option.map_eq_some_iff.mp h
      obtain rfl := Except.ok.inj hr
      exact Option.filter_eq_some_iff.mp hg
    | some e =>
      rw [hfailure] at h
      cases h
  · rintro ⟨hread, hr⟩
    cases c with
    | read answer =>
      cases answer with
      | ok g =>
        obtain rfl : g = r := Option.some.inj hread
        simp [settles?, failure?, received?, hr]
      | error e => cases hread
    | available _ | write _ _ => cases hread

theorem settles?_eq_none (h : c.settles? f = none) :
    c.failure? = none ∧ ∀ r, c.received? = some r → r.acknowledges f = false := by
  unfold settles? at h
  cases hfailure : c.failure? with
  | none =>
    rw [hfailure] at h
    have hnone := Option.map_eq_none_iff.mp h
    exact ⟨rfl, fun r hr => Bool.eq_false_iff.mpr (Option.filter_eq_none_iff.mp hnone r hr)⟩
  | some e =>
    rw [hfailure] at h
    cases h

end LinkCall

/-- None of the calls settles anything for the sender of `f`, but the last one may. -/
structure Settles {m : Nat} (f : Frame m) (calls : List (LinkCall m))
    (verdict : Option (Except LinkError (Frame m))) : Prop where
  before : ∀ c ∈ calls.dropLast, c.settles? f = none
  last : calls.getLast?.bind (LinkCall.settles? f) = verdict

namespace Settles
variable {m : Nat} {f : Frame m} {calls calls' : List (LinkCall m)}
  {verdict : Option (Except LinkError (Frame m))}

theorem nothing (f : Frame m) : Settles f [] none := ⟨by simp, rfl⟩

theorem single (f : Frame m) (c : LinkCall m) : Settles f [c] (c.settles? f) := ⟨by simp, rfl⟩

theorem concat_iff {c : LinkCall m} : Settles f (calls ++ [c]) verdict ↔
    (∀ b ∈ calls, b.settles? f = none) ∧ c.settles? f = verdict := by
  constructor
  · rintro ⟨hbefore, hlast⟩
    rw [List.dropLast_concat] at hbefore
    rw [List.getLast?_concat] at hlast
    exact ⟨hbefore, hlast⟩
  · rintro ⟨hbefore, hlast⟩
    refine ⟨?_, ?_⟩
    · rwa [List.dropLast_concat]
    · rwa [List.getLast?_concat]

theorem of_none (h : Settles f calls none) : ∀ c ∈ calls, c.settles? f = none := by
  rcases List.eq_nil_or_concat' calls with rfl | ⟨before, c, rfl⟩
  · simp
  · obtain ⟨hbefore, hlast⟩ := concat_iff.mp h
    exact List.forall_mem_append.mpr ⟨hbefore, List.forall_mem_singleton.mpr hlast⟩

theorem append (h : Settles f calls none) (h' : Settles f calls' verdict) :
    Settles f (calls ++ calls') verdict := by
  rcases List.eq_nil_or_concat' calls' with rfl | ⟨before, c, rfl⟩
  · rw [List.append_nil, ← h'.last]
    exact h
  · obtain ⟨hbefore, hlast⟩ := concat_iff.mp h'
    rw [← List.append_assoc]
    exact concat_iff.mpr ⟨List.forall_mem_append.mpr ⟨h.of_none, hbefore⟩, hlast⟩

/-- The link has failed if the last call has. -/
theorem failed_iff {e : LinkError} (h : Settles f calls verdict) :
    verdict = some (.error e) ↔ ∃ before c, calls = before ++ [c] ∧ c.failure? = some e := by
  constructor
  · rintro rfl
    rcases List.eq_nil_or_concat' calls with rfl | ⟨before, c, rfl⟩
    · cases h.last
    · exact ⟨before, c, rfl, LinkCall.settles?_eq_error.mp (concat_iff.mp h).2⟩
  · rintro ⟨before, c, rfl, hc⟩
    exact (concat_iff.mp h).2.symm.trans (LinkCall.settles?_eq_error.mpr hc)

/-- Nothing is called once a call has failed. -/
theorem nothing_after_failure {before after : List (LinkCall m)} {c : LinkCall m}
    (h : Settles f (before ++ c :: after) verdict) (hc : c.failure? ≠ none) : after = [] := by
  rcases List.eq_nil_or_concat' after with rfl | ⟨between, b, rfl⟩
  · rfl
  · rw [← List.cons_append, ← List.append_assoc] at h
    have hnone := (concat_iff.mp h).1 c (List.mem_append_right _ List.mem_cons_self)
    exact absurd (LinkCall.settles?_eq_none hnone).1 hc

/-- Of the frames that are read, the first to acknowledge `f` settles the matter. -/
theorem acknowledged_iff {r : Frame m} (h : Settles f calls verdict) :
    verdict = some (.ok r) ↔ ∃ stale, calls.filterMap LinkCall.received? = stale ++ [r] ∧
      r.acknowledges f = true ∧ ∀ g ∈ stale, g.acknowledges f = false := by
  have hstale {before : List (LinkCall m)} (hbefore : ∀ b ∈ before, b.settles? f = none) :
      ∀ g ∈ before.filterMap LinkCall.received?, g.acknowledges f = false := by
    intro g hg
    obtain ⟨b, hb, hread⟩ := List.mem_filterMap.mp hg
    exact (LinkCall.settles?_eq_none (hbefore b hb)).2 g hread
  rcases List.eq_nil_or_concat' calls with rfl | ⟨before, c, rfl⟩
  · simp [← h.last]
  · obtain ⟨hbefore, rfl⟩ := concat_iff.mp h
    rw [List.filterMap_append]
    constructor
    · intro hc
      obtain ⟨hread, hr⟩ := LinkCall.settles?_eq_ok.mp hc
      refine ⟨before.filterMap LinkCall.received?, ?_, hr, hstale hbefore⟩
      rw [List.filterMap_cons_some hread, List.filterMap_nil]
    · rintro ⟨stale, hread, hr, -⟩
      cases hc : c.received? with
      | none =>
        rw [List.filterMap_cons_none hc, List.filterMap_nil, List.append_nil] at hread
        have hmem : r ∈ before.filterMap LinkCall.received? := by simp [hread]
        rw [hstale hbefore r hmem] at hr
        cases hr
      | some g =>
        rw [List.filterMap_cons_some hc, List.filterMap_nil] at hread
        obtain rfl : g = r := List.singleton_inj.mp (List.append_inj' hread rfl).2
        exact LinkCall.settles?_eq_ok.mpr ⟨hc, hr⟩

/-- Calls that settle nothing have written what they were to write. -/
theorem countP_isSent (h : Settles f calls none) :
    calls.countP LinkCall.isSent = (calls.filterMap LinkCall.written?).length := by
  rw [List.length_filterMap_eq_countP]
  refine List.countP_congr fun c hc => ?_
  have hfailure := (LinkCall.settles?_eq_none (h.of_none c hc)).1
  cases c with
  | write g answer =>
    cases answer with
    | ok _ => simp [LinkCall.isSent]
    | error e => cases hfailure
  | available _ | read _ => simp [LinkCall.isSent]

end Settles

/-- What the end of a wait says about the link and the acknowledgment. -/
def Awaited.verdict? {m : Nat} : Awaited m → Option (Except LinkError (Frame m))
  | .reply r => some (.ok r)
  | .failed (.link e) => some (.error e)
  | _ => none

/-- What the result of a send says about the link and the acknowledgment. -/
def verdict? {m : Nat} :
    Option (Except SendError (Frame m)) → Option (Except LinkError (Frame m))
  | some (.ok r) => some (.ok r)
  | some (.error (.link e)) => some (.error e)
  | _ => none

variable {T : Type} {m : Nat}

/-- On the way from `s` to `s'` the link has seen `calls`. With them the sender has written `f`, `n`
times, and has settled the matter only with the last of them, if at all. -/
structure Accounts (f : Frame m) (s s' : Sender (Link.Recorded T m)) (n : Nat)
    (calls : List (LinkCall m)) (verdict : Option (Except LinkError (Frame m))) : Prop where
  seen : s'.link.calls = s.link.calls ++ calls
  config : s'.config = s.config
  written : calls.filterMap LinkCall.written? = List.replicate n f
  settles : Settles f calls verdict

namespace Accounts
variable {f : Frame m} {s s' s'' : Sender (Link.Recorded T m)} {n n' : Nat}
  {calls calls' : List (LinkCall m)} {verdict : Option (Except LinkError (Frame m))}

theorem nothing (f : Frame m) (s : Sender (Link.Recorded T m)) : Accounts f s s 0 [] none :=
  ⟨(List.append_nil _).symm, rfl, rfl, .nothing f⟩

theorem trans (h : Accounts f s s' n calls none) (h' : Accounts f s' s'' n' calls' verdict) :
    Accounts f s s'' (n + n') (calls ++ calls') verdict where
  seen := by rw [h'.seen, h.seen, List.append_assoc]
  config := h'.config.trans h.config
  written := by
    rw [List.filterMap_append, h.written, h'.written, List.replicate_append_replicate]
  settles := h.settles.append h'.settles

variable [Link T m]

theorem isReady (f : Frame m) (s : Sender (Link.Recorded T m)) (clock : Clock) :
    Accounts f s { s with link := (Link.isReady s.link).val.2, clock } 0
      [.available (Link.available s.link.link).val.1]
      (match (Link.isReady s.link).val.1 with
        | .error e => some (.error e)
        | .ok _ => none) where
  seen := rfl
  config := rfl
  written := rfl
  settles := by
    have hcall := Settles.single f (.available (Link.available s.link.link).val.1)
    rw [LinkCall.settles?_available] at hcall
    exact hcall

theorem receive (f : Frame m) (s : Sender (Link.Recorded T m)) :
    Accounts f s { s with link := (Link.receive s.link).val.2 } 0
      [.read (Link.read s.link.link).val.1]
      (match (Link.receive s.link).val.1 with
        | .error e => some (.error e)
        | .ok none => none
        | .ok (some r) => if r.acknowledges f then some (.ok r) else none) where
  seen := rfl
  config := rfl
  written := rfl
  settles := by
    have hcall := Settles.single f (.read (Link.read s.link.link).val.1)
    rw [LinkCall.settles?_read] at hcall
    exact hcall

theorem write (f : Frame m) (s : Sender (Link.Recorded T m)) :
    Accounts f s { s with link := (Link.write s.link f).val.2 } 1
      [.write f (Link.write s.link.link f).val.1]
      (match (Link.write s.link f).val.1 with
        | .error e => some (.error e)
        | .ok _ => none) where
  seen := rfl
  config := rfl
  written := rfl
  settles := by
    have hcall := Settles.single f (.write f (Link.write s.link.link f).val.1)
    rw [LinkCall.settles?_write] at hcall
    exact hcall

/-- A round settles the matter if the wait ends with it for another reason than time. -/
theorem round (f : Frame m) (deadline : Instant) (s : Sender (Link.Recorded T m)) :
    let x := (s.round f.id (fun r => r.ack == f.seq) deadline).val
    (∃ calls, Accounts f s x.2 0 calls (x.1.bind Awaited.verdict?)) ∧
      ∀ e, x.1 = some (.failed e) → ∃ e', e = .link e' := by
  intro x
  have hcase : Sender.RoundCase f.id (fun r => r.ack == f.seq) deadline s x := s.round_cases ..
  clear_value x
  have hasked := isReady f s
  have hread (t : Link.Recorded T m) := receive f { s with link := t }
  cases hcase with
  | unavailable hready =>
    simp only [hready] at hasked
    exact ⟨⟨_, hasked s.clock⟩, fun _ h => ⟨_, (Awaited.failed.inj (Option.some.inj h)).symm⟩⟩
  | expired hready | early hready =>
    simp only [hready] at hasked
    exact ⟨⟨_, hasked s.clock.read.2⟩, fun _ h => by cases h⟩
  | @unreadable _ t _ hready hframe =>
    specialize hread t
    simp only [hready, hframe] at hasked hread
    exact ⟨⟨_, (hasked s.clock).trans hread⟩,
      fun _ h => ⟨_, (Awaited.failed.inj (Option.some.inj h)).symm⟩⟩
  | @incomplete t _ hready hframe =>
    specialize hread t
    simp only [hready, hframe] at hasked hread
    exact ⟨⟨_, (hasked s.clock).trans hread⟩, fun _ h => by cases h⟩
  | @reply t _ r hready hframe haccepts | @stale t _ r hready hframe haccepts =>
    specialize hread t
    have hack : r.acknowledges f = _ := haccepts
    simp only [hready, hframe, hack, if_true, Bool.false_eq_true, if_false] at hasked hread
    exact ⟨⟨_, (hasked s.clock).trans hread⟩, fun _ h => by cases h⟩

/-- A wait goes on until a call settles the matter or time is up. -/
theorem awaitUntil (f : Frame m) (deadline : Instant) (rounds : Nat)
    (s : Sender (Link.Recorded T m)) :
    let x := (s.awaitUntil f.id (fun r => r.ack == f.seq) deadline rounds).val
    (∃ calls, Accounts f s x.2 0 calls x.1.verdict?) ∧
      ∀ e, x.1 = .failed e → ∃ e', e = .link e' := by
  induction rounds generalizing s with
  | zero => exact ⟨⟨[], .nothing f s⟩, fun _ h => by cases h⟩
  | succ rounds ih =>
    obtain ⟨⟨calls, hround⟩, hfailed⟩ := round f deadline s
    rw [Sender.awaitUntil_succ]
    rcases hx : (s.round f.id (fun r => r.ack == f.seq) deadline).val with ⟨ended, s'⟩
    rw [hx] at hround hfailed
    cases ended with
    | some awaited =>
      simp only [Traced.val_bind, hx, Traced.val_pure]
      exact ⟨⟨calls, hround⟩, fun e he => hfailed e (congrArg some he)⟩
    | none =>
      obtain ⟨⟨calls', hrest⟩, hfailed'⟩ := ih s'
      simp only [Traced.val_bind, hx]
      exact ⟨⟨calls ++ calls', hround.trans hrest⟩, hfailed'⟩

theorem awaitReply (f : Frame m) (rounds : Nat) (window : Duration)
    (s : Sender (Link.Recorded T m)) :
    let x := (s.awaitReply rounds f.id window fun r => r.ack == f.seq).val
    (∃ calls, Accounts f s x.2 0 calls x.1.verdict?) ∧
      ∀ e, x.1 = .failed e → e = .deadlineUnreachable ∨ ∃ e', e = .link e' := by
  have hclock (clock : Clock) : Accounts f s { s with clock } 0 [] none :=
    ⟨(List.append_nil _).symm, rfl, rfl, .nothing f⟩
  unfold Sender.awaitReply
  dsimp only
  split
  · exact ⟨⟨[], hclock _⟩, fun e he => .inl (Awaited.failed.inj he).symm⟩
  · rename_i deadline _
    obtain ⟨⟨calls, hwait⟩, hfailed⟩ :=
      awaitUntil f deadline rounds { s with clock := s.clock.read.2 }
    exact ⟨⟨calls, (hclock _).trans hwait⟩, fun e he => .inr (hfailed e he)⟩

/-- An attempt writes once. -/
theorem attempt (f : Frame m) (rounds : Nat) (s : Sender (Link.Recorded T m)) :
    let x := (s.attempt rounds f).val
    (∃ calls, Accounts f s x.2 1 calls x.1.verdict?) ∧
      ∀ e, x.1 = .failed e → e = .deadlineUnreachable ∨ ∃ e', e = .link e' := by
  have hwrite := write f s
  unfold Sender.attempt
  rcases hwritten : (Link.write s.link f).val with ⟨written, t⟩
  simp only [hwritten] at hwrite
  simp only [Traced.val_bind, hwritten]
  cases written with
  | error e => exact ⟨⟨_, hwrite⟩, fun _ h => .inr ⟨e, (Awaited.failed.inj h).symm⟩⟩
  | ok _ =>
    obtain ⟨⟨calls, hwait⟩, hfailed⟩ :=
      awaitReply f rounds s.config.retransmitAfter { s with link := t }
    exact ⟨⟨_, hwrite.trans hwait⟩, hfailed⟩

/-- A send makes `left` attempts at most, and all of them if it gives up. -/
theorem transmit (f : Frame m) (rounds n left : Nat) (s : Sender (Link.Recorded T m)) :
    let x := (s.transmit rounds f n left).val
    ∃ k calls, Accounts f s x.2 k calls (verdict? x.1) ∧ k ≤ left ∧
      ∀ id seq attempts, x.1 = some (.error (.exhausted id seq attempts)) →
        k = left ∧ id = f.id ∧ seq = f.seq ∧ attempts = s.config.attempts := by
  induction left generalizing n s with
  | zero =>
    refine ⟨0, [], .nothing f s, Nat.le_refl 0, fun id seq attempts h => ?_⟩
    cases h
    exact ⟨rfl, rfl, rfl, rfl⟩
  | succ left ih =>
    have ⟨⟨calls, hattempt⟩, hfailed⟩ := attempt f rounds s
    rw [Sender.val_transmit_succ]
    rcases hx : (s.attempt rounds f).val with ⟨awaited, s'⟩
    rw [hx] at hattempt hfailed
    have hone : 1 ≤ left + 1 := Nat.succ_le_succ (Nat.zero_le left)
    cases awaited with
    | unfinished => exact ⟨1, calls, hattempt, hone, fun _ _ _ h => by cases h⟩
    | failed e =>
      rcases hfailed e rfl with rfl | ⟨e', rfl⟩ <;>
        exact ⟨1, calls, hattempt, hone, fun _ _ _ h => by cases h⟩
    | reply r =>
      have hreply : Accounts f s (s'.setNextSeq f.id (flipBit f.seq)) 1 calls (some (.ok r)) :=
        ⟨hattempt.seen, hattempt.config, hattempt.written, hattempt.settles⟩
      exact ⟨1, calls, hreply, hone, fun _ _ _ h => by cases h⟩
    | expired =>
      obtain ⟨k, more, hrest, hle, hexhausted⟩ := ih (n + 1) s'
      have hall := hattempt.trans hrest
      rw [Nat.add_comm 1 k] at hall
      refine ⟨k + 1, calls ++ more, hall, Nat.succ_le_succ hle, fun id seq attempts h => ?_⟩
      obtain ⟨hk, hid, hseq, hattempts⟩ := hexhausted id seq attempts h
      exact ⟨congrArg Nat.succ hk, hid, hseq,
        hattempts.trans (congrArg SenderConfig.attempts hattempt.config)⟩

end Accounts

end AltBit

import AltBit.Handler.Rule
import AltBit.Proofs.Carrier.Peer
import AltBit.Proofs.Conversation
import Mathlib.Data.List.Chain
import Mathlib.Data.List.Induction

/-!
What acknowledgments tell about processing. Whatever happens to the frames on their way, a handler
processes each submission at most once and in the order of the calls. An acknowledgment says that
one of the payloads submitted since the acknowledgment before has been processed; which one it was,
it says only if they are all the same, as they are for a caller that submits a payload again until
it is acknowledged.
-/
namespace AltBit

namespace Ledger
variable {m : Nat} {subs before group : List (Submission m)} {x : Submission m}

theorem ofSubmissions_concat (subs : List (Submission m)) (s : Submission m) :
    ofSubmissions (subs ++ [s]) = (ofSubmissions subs).record s :=
  List.foldl_concat ..

theorem flatten_ofSubmissions (subs : List (Submission m)) :
    (ofSubmissions subs).acknowledged.flatten ++ (ofSubmissions subs).pending =
      subs.map Submission.padded := by
  induction subs using List.reverseRecOn with
  | nil => rfl
  | append_singleton subs s ih =>
    rw [ofSubmissions_concat, List.map_append, ← ih]
    cases hs : s.isAcknowledged <;> simp [record, hs]

theorem length_acknowledged (subs : List (Submission m)) :
    (ofSubmissions subs).acknowledged.length = (subs.filter (·.isAcknowledged)).length := by
  induction subs using List.reverseRecOn with
  | nil => rfl
  | append_singleton subs s ih =>
    rw [ofSubmissions_concat, List.filter_append, List.length_append, ← ih]
    cases hs : s.isAcknowledged <;> simp [record, hs]

theorem pending_ofSubmissions (h : ∀ s ∈ subs.getLast?, s.isAcknowledged) :
    (ofSubmissions subs).pending = [] := by
  induction subs using List.reverseRecOn with
  | nil => rfl
  | append_singleton subs s _ =>
    have hs : s.isAcknowledged = true := h s (by simp)
    rw [ofSubmissions_concat, record, if_pos hs]
    rfl

theorem foldl_record (hgroup : ∀ s ∈ group, s.isAcknowledged = false) (l : Ledger) :
    group.foldl record l = ⟨l.acknowledged, l.pending ++ group.map Submission.padded⟩ := by
  induction group generalizing l with
  | nil => simp
  | cons s group ih =>
    have hs := hgroup s List.mem_cons_self
    rw [List.foldl_cons, ih fun s hs => hgroup s (List.mem_cons_of_mem _ hs)]
    simp [record, hs, submit]

theorem ofSubmissions_acknowledged (hbefore : ∀ s ∈ before.getLast?, s.isAcknowledged)
    (hgroup : ∀ s ∈ group, s.isAcknowledged = false) (hx : x.isAcknowledged) :
    ofSubmissions (before ++ group ++ [x]) =
      ⟨(ofSubmissions before).acknowledged ++ [(group ++ [x]).map Submission.padded], []⟩ := by
  have hpending := foldl_record hgroup (ofSubmissions before)
  rw [pending_ofSubmissions hbefore] at hpending
  rw [ofSubmissions_concat, ofSubmissions, List.foldl_append, ← ofSubmissions, hpending, record,
    if_pos hx]
  simp [submit, acknowledge]

end Ledger

/-- Every call that is not acknowledged is followed by one with the same payload. -/
def Resubmitted {m : Nat} (subs : List (Submission m)) : Prop :=
  subs.IsChain fun s s' => s.isAcknowledged = true ∨ s'.payload = s.payload

instance {m : Nat} (subs : List (Submission m)) : Decidable (Resubmitted subs) :=
  inferInstanceAs (Decidable (List.IsChain _ subs))

/-- If payloads are submitted again, the groups of submissions are each of one payload. -/
theorem Resubmitted.uniform {m : Nat} {subs : List (Submission m)} (h : Resubmitted subs) :
    List.Forall₂ (fun group payload => ∀ p ∈ group, p = payload)
      (Ledger.ofSubmissions subs).acknowledged
      ((subs.filter (·.isAcknowledged)).map Submission.padded) ∧
    ∀ p ∈ (Ledger.ofSubmissions subs).pending,
      ∃ last ∈ subs.getLast?, last.isAcknowledged = false ∧ p = last.padded := by
  induction subs using List.reverseRecOn with
  | nil => exact ⟨.nil, by simp [Ledger.ofSubmissions]⟩
  | append_singleton subs s ih =>
    obtain ⟨hsubs, -, hlast⟩ := List.isChain_append.mp h
    obtain ⟨hgroups, hpending⟩ := ih hsubs
    -- whatever is pending is the payload of a failed call, which this one repeats
    have hsame : ∀ p ∈ (Ledger.ofSubmissions subs).pending ++ [s.padded], p = s.padded := by
      intro p hp
      rcases List.mem_append.mp hp with hp | hp
      · obtain ⟨last, hmem, hfailed, rfl⟩ := hpending p hp
        rcases hlast last hmem s rfl with hacknowledged | hpayload
        · rw [hfailed] at hacknowledged
          cases hacknowledged
        · rw [Submission.padded, Submission.padded, hpayload]
      · exact List.mem_singleton.mp hp
    rw [Ledger.ofSubmissions_concat]
    cases hs : s.isAcknowledged with
    | true =>
      rw [Ledger.record, if_pos hs, List.filter_append, List.map_append]
      refine ⟨List.rel_append hgroups ?_, by simp⟩
      simpa [hs] using hsame
    | false =>
      rw [Ledger.record, if_neg (by simp [hs])]
      refine ⟨by simpa [hs] using hgroups, fun p hp => ⟨s, by simp, hs, hsame p hp⟩⟩

theorem Ledger.eq_of_uniform {received payloads : List (List UInt8)}
    {groups : List (List (List UInt8))}
    (h : List.Forall₂ (fun payload group => payload ∈ group) received groups)
    (huniform : List.Forall₂ (fun group payload => ∀ p ∈ group, p = payload) groups payloads) :
    received = payloads := by
  induction h generalizing payloads with
  | nil =>
    cases huniform
    rfl
  | cons hp _ ih =>
    cases huniform with
    | cons hq hrest => rw [hq _ hp, ih hrest]

/-- The payloads, as they are sent, of the calls on `id` that fit into a frame. -/
def payloadsOn (m : Nat) (id : Identifier) (calls : List Call) : List (List UInt8) :=
  (calls.filter fun c => c.id = id ∧ c.payload.length ≤ m).map fun c =>
    (zeroPadded m c.payload).toList

variable {T σ : Type} {m : Nat} [Behaviour σ] [Link T m] [Carrier T σ] {id : Identifier}
  {s : Sender T}

namespace Sender

omit [Behaviour σ] [Carrier T σ] in
theorem map_submissionsOn_sendAll (id : Identifier) (calls : List Call) (s : Sender T) :
    (submissionsOn id (s.sendAll calls).val.1).map Submission.padded = payloadsOn m id calls := by
  induction calls generalizing s with
  | nil => rfl
  | cons call calls ih =>
    have hrest := ih (s.sendReliable call.rounds call.id call.payload).val.2
    change (submissionsOn id (_ :: (sendAll calls _).val.1)).map _ = _
    rw [submissionsOn_cons, List.map_append, hrest]
    by_cases h : call.id = id ∧ call.payload.length ≤ m <;>
      simp [submissionsOn, payloadsOn, h, Submission.padded]

/-- A sender that makes one attempt for each call, and a peer with a reliable echo on 5 and a
handler on 6 that always fails. -/
def sample (plan : List Link.Passage) : Sender (Link.Peer (Service Rule) 2) where
  link := {
    dispatcher := {
      link := {}
      registry := ((Registry.empty.install Service.sessionHandler).val.registerAll
        [⟨5, true, .custom .echo⟩, ⟨6, true, .custom (.fail "no")⟩]).val.2 }
    plan }
  config := ⟨.zero, 1, .zero⟩
  clock := Clock.ticking 1

theorem fresh_sample (plan : List Link.Passage) : (sample plan).Fresh where
  unused id := by simp [sample, nextSeq]
  registered := ⟨Service.sessionHandler, _, rfl⟩
  inbound := rfl
  outbound := rfl

namespace Fresh

/-- The payloads processed are a subsequence of those of the calls. -/
theorem processed_sublist (h : s.Fresh) (hid : id ≠ Identifier.sessionControl)
    (hreliable : (Carrier.far s.link).registry.isReliable? id = some true) (calls : List Call) :
    (invocations id (s.sendAll calls).events).Sublist (payloadsOn m id calls) := by
  obtain ⟨ahead, hcovers⟩ := h.covers hid hreliable calls
  rw [← map_submissionsOn_sendAll id calls s, ← Ledger.flatten_ofSubmissions]
  exact hcovers.sublist

/-- The acknowledgment of the first payload is lost, and the second is taken for its repetition. -/
theorem processed_sublist_sample :
    invocations 5 ((sample [{ copies := 0 }]).sendAll [⟨3, 5, [7]⟩, ⟨3, 5, [8]⟩]).events =
        [[7, 0]] ∧
      (invocations 5 ((sample [{ copies := 0 }]).sendAll
        [⟨3, 5, [7]⟩, ⟨3, 5, [8]⟩]).events).Sublist [[7, 0], [8, 0]] :=
  ⟨by decide +kernel, (fresh_sample _).processed_sublist (by decide) (by decide +kernel) _⟩

/-- A caller that submits a payload again until it is acknowledged has the acknowledged payloads
processed once each and in order; beyond them, at most the last payload has been processed, if it is
not acknowledged. -/
theorem processed_eq_acknowledged (h : s.Fresh) (hid : id ≠ Identifier.sessionControl)
    (hreliable : (Carrier.far s.link).registry.isReliable? id = some true) (calls : List Call)
    (hagain : Resubmitted (submissionsOn id (s.sendAll calls).val.1)) :
    ∃ rest, invocations id (s.sendAll calls).events =
        ((submissionsOn id (s.sendAll calls).val.1).filter (·.isAcknowledged)).map
          Submission.padded ++ rest ∧
      (rest = [] ∨ ∃ last ∈ (submissionsOn id (s.sendAll calls).val.1).getLast?,
        last.isAcknowledged = false ∧ rest = [last.padded]) := by
  obtain ⟨hgroups, hpending⟩ := hagain.uniform
  obtain ⟨ahead, hcovers⟩ := h.covers hid hreliable calls
  cases ahead with
  | false => exact ⟨[], by rw [List.append_nil, Ledger.eq_of_uniform hcovers hgroups], .inl rfl⟩
  | true =>
    obtain ⟨before, p, hreceived, hbefore, hp⟩ := Ledger.covers_true_iff.mp hcovers
    obtain ⟨last, hlast, hfailed, rfl⟩ := hpending p hp
    refine ⟨[last.padded], ?_, .inr ⟨last, hlast, hfailed, rfl⟩⟩
    rw [hreceived, Ledger.eq_of_uniform hbefore hgroups]

/-- The first acknowledgment is lost, a request on the other identifier arrives twice, and the last
reply is held back. -/
theorem processed_eq_acknowledged_sample :
    let run := (sample [{ copies := 0 }, {}, { arrivals := 2 }, { held := true }]).sendAll
      [⟨3, 5, [7]⟩, ⟨3, 5, [7]⟩, ⟨3, 6, [1]⟩, ⟨3, 5, [8]⟩]
    Resubmitted (submissionsOn 5 run.val.1) ∧
      ∃ rest, invocations 5 run.events = [[7, 0]] ++ rest ∧
        (rest = [] ∨ ∃ last ∈ (submissionsOn 5 run.val.1).getLast?,
          last.isAcknowledged = false ∧ rest = [last.padded]) := by
  intro run
  have hagain : Resubmitted (submissionsOn 5 run.val.1) := by decide +kernel
  have hacknowledged : ((submissionsOn 5 run.val.1).filter (·.isAcknowledged)).map
      Submission.padded = [[7, 0]] := by decide +kernel
  have h := (fresh_sample _).processed_eq_acknowledged (by decide) (by decide +kernel) _ hagain
  rw [hacknowledged] at h
  exact ⟨hagain, h⟩

/-- When a call has been acknowledged, exactly one of the payloads submitted since the
acknowledgment before has been processed, and it has been processed last. -/
theorem acknowledged_processed (h : s.Fresh) (hid : id ≠ Identifier.sessionControl)
    (hreliable : (Carrier.far s.link).registry.isReliable? id = some true) (calls : List Call)
    {before group : List (Submission m)} {x : Submission m}
    (hsplit : submissionsOn id (s.sendAll calls).val.1 = before ++ group ++ [x])
    (hbefore : ∀ y ∈ before.getLast?, y.isAcknowledged = true)
    (hgroup : ∀ y ∈ group, y.isAcknowledged = false) (hx : x.isAcknowledged = true) :
    ∃ earlier payload, invocations id (s.sendAll calls).events = earlier ++ [payload] ∧
      earlier.length = (before.filter (·.isAcknowledged)).length ∧
      payload ∈ (group ++ [x]).map Submission.padded := by
  obtain ⟨ahead, hcovers⟩ := h.covers hid hreliable calls
  rw [hsplit, Ledger.ofSubmissions_acknowledged hbefore hgroup hx] at hcovers
  cases ahead with
  | true =>
    -- nothing is pending that could have been processed ahead of its acknowledgment
    obtain ⟨_, p, -, -, hp⟩ := Ledger.covers_true_iff.mp hcovers
    cases hp
  | false =>
    let groups : Ledger :=
      ⟨(Ledger.ofSubmissions before).acknowledged, (group ++ [x]).map Submission.padded⟩
    have hgroups : groups.Covers true (invocations id (s.sendAll calls).events) := hcovers
    obtain ⟨earlier, p, hreceived, hearlier, hp⟩ := Ledger.covers_true_iff.mp hgroups
    refine ⟨earlier, p, hreceived, ?_, hp⟩
    rw [← Ledger.length_acknowledged]
    exact hearlier.length_eq

/-- The second payload is acknowledged as a repetition of the first and never processed. -/
theorem acknowledged_unprocessed :
    let s := sample [{ copies := 0 }]
    let run := s.sendAll [⟨3, 5, [7]⟩, ⟨3, 5, [8]⟩]
    s.Fresh ∧ (Carrier.far s.link).registry.isReliable? 5 = some true ∧
      ∃ x ∈ submissionsOn 5 run.val.1, x.isAcknowledged = true ∧
        x.padded ∉ invocations 5 run.events :=
  ⟨fresh_sample _, by decide +kernel, by decide +kernel⟩

theorem acknowledged_processed_sample :
    ∃ earlier payload, invocations 5 ((sample [{}, { copies := 0 }]).sendAll
        [⟨3, 5, [6]⟩, ⟨3, 5, [7]⟩, ⟨3, 5, [8]⟩]).events = earlier ++ [payload] ∧
      earlier.length = 1 ∧ payload ∈ [[7, 0], [8, 0]] := by
  have hsplit : submissionsOn 5 ((sample [{}, { copies := 0 }]).sendAll
      [⟨3, 5, [6]⟩, ⟨3, 5, [7]⟩, ⟨3, 5, [8]⟩]).val.1 =
        [⟨5, [6], some (.ok ⟨5, 0, 0, #v[6, 0]⟩)⟩] ++
          [⟨5, [7], some (.error (.exhausted 5 1 1))⟩] ++
          [⟨5, [8], some (.ok ⟨5, 1, 1, #v[0, 0]⟩)⟩] := by decide +kernel
  exact (fresh_sample _).acknowledged_processed (by decide) (by decide +kernel) _ hsplit
    (by decide) (by decide) (by decide)

end Fresh

end Sender

end AltBit

import AltBit.Proofs.Answering
import AltBit.Proofs.Carrier.Peer
import AltBit.Proofs.Lossy

/-!
The in-process peer is a lossy link while its plan only loses frames and its dispatcher answers a
frame as soon as it arrives.
-/
namespace AltBit

namespace Dispatcher
variable {σ : Type} {m : Nat}

theorem pollFault_reply (d : Dispatcher (Link.Memory m) σ) (h : Handled σ m) :
    (d.reply h).val.2.link.pollFault = d.link.pollFault := by
  unfold reply
  cases hfault : d.link.writeFault <;> cases h.delivery <;>
    simp [Link.write, Link.Memory.write, hfault]

/-- A dispatcher that can look for frames takes the only one there is. -/
theorem poll_of_single [Behaviour σ] {d : Dispatcher (Link.Memory m) σ} {f : Frame m}
    (hpoll : d.link.pollFault = none) (hinbound : d.link.inbound = [f]) :
    d.poll.val.2.link.pollFault = none ∧ d.poll.val.2.link.inbound = [] := by
  cases hread : d.link.readFault with
  | some reason =>
    rw [(poll_of_readFault hpoll hread hinbound).1]
    exact ⟨hpoll, rfl⟩
  | none =>
    rw [poll_of_request hpoll hread hinbound, val_answer]
    exact ⟨(pollFault_reply ..).trans hpoll, (link_reply ..).1⟩

end Dispatcher

namespace Link.Peer
variable {σ : Type} {m : Nat}

theorem flatMap_copies_sublist {α : Type} {n : Nat} (hn : n ≤ 1) (l : List α) :
    (l.flatMap (List.replicate n)).Sublist l := by
  induction l with
  | nil => exact List.Sublist.refl []
  | cons x l ih =>
    have hcopies : (List.replicate n x).Sublist [x] :=
      (List.replicate_sublist_replicate x).mpr hn
    exact hcopies.append ih

/-- What is next on the plan is as everything on it; if nothing is left, a frame passes. -/
theorem passage_of_plan {p : Peer σ m} {Q : Passage → Prop} (h : ∀ passage ∈ p.plan, Q passage)
    (hdefault : Q {}) : Q (p.plan.head?.getD {}) := by
  cases hplan : p.plan with
  | nil => exact hdefault
  | cons passage _ => exact h passage (hplan ▸ List.mem_cons_self)

/-- No frame is repeated from here on; it may get lost, and replies may be held back. -/
structure NeverRepeats (p : Peer σ m) : Prop where
  plan : ∀ passage ∈ p.plan, passage.arrivals ≤ 1 ∧ passage.copies ≤ 1
  pollFault : p.dispatcher.link.pollFault = none
  empty : p.dispatcher.link.Empty

/-- No frame is held back or repeated from here on. -/
structure OnlyLoses (p : Peer σ m) : Prop where
  plan : ∀ passage ∈ p.plan, passage.arrivals ≤ 1 ∧ passage.copies ≤ 1 ∧ passage.held = false
  late : p.late = []
  pollFault : p.dispatcher.link.pollFault = none
  empty : p.dispatcher.link.Empty

theorem OnlyLoses.neverRepeats {p : Peer σ m} (h : p.OnlyLoses) : p.NeverRepeats :=
  ⟨fun passage hpassage => ⟨(h.plan passage hpassage).1, (h.plan passage hpassage).2.1⟩,
    h.pollFault, h.empty⟩

variable [Behaviour σ]

/-- A request that arrives at most once is lost or answered. -/
theorem arrive_evolves {n : Nat} (hn : n ≤ 1) (f : Frame m) (earlier : List (Frame m))
    {d : Dispatcher (Memory m) σ} (hpoll : d.link.pollFault = none) (hd : d.link.inbound = []) :
    ((d.widened earlier []).withRequests [f]).Evolves Losing (arrive f n d).events
        ((arrive f n d).val.widened earlier []) ∧
      (arrive f n d).val.link.pollFault = none ∧ (arrive f n d).val.link.inbound = [] := by
  match n, hn with
  | 0, _ =>
    have hlost : ((d.widened earlier []).withRequests [f]).Evolves Losing []
        (d.widened earlier []) := by
      have h := (Dispatcher.Evolves.still (R := Losing)
        (d := (d.widened earlier []).withRequests [f])).requests (List.nil_sublist _)
      simpa [Dispatcher.widened, Dispatcher.withRequests, Dispatcher.withReplies, hd] using h
    exact ⟨hlost, hpoll, hd⟩
  | 1, _ =>
    let pushed : Dispatcher (Memory m) σ := { d with link := d.link.push f }
    have hinbound : pushed.link.inbound = [f] := by simp [pushed, Memory.push, hd]
    have hpushed : (d.widened earlier []).withRequests [f] = pushed.widened earlier [] := by
      simp [Dispatcher.widened, Dispatcher.withRequests, Dispatcher.withReplies, pushed,
        Memory.push, hd]
    obtain ⟨hevents, hval⟩ := pushed.poll_widened (by simp [hinbound]) earlier []
    have hanswered := (Dispatcher.Evolves.still (R := Losing)
      (d := pushed.widened earlier [])).poll
    rw [hevents, hval, List.nil_append] at hanswered
    have harrive : arrive f 1 d = (fun x => x.2) <$> pushed.poll := rfl
    rw [hpushed, harrive, Traced.events_map, Traced.val_map]
    exact ⟨hanswered, Dispatcher.poll_of_single hpoll hinbound⟩

theorem NeverRepeats.write {p : Peer σ m} (h : p.NeverRepeats) (f : Frame m) :
    (p.write f).val.NeverRepeats ∧
      (p.far.withRequests (p.far.link.inbound ++ [f])).Evolves Losing (p.write f).events
        (p.write f).val.far := by
  obtain ⟨harrivals, hcopies⟩ := passage_of_plan h.plan (by decide)
  let passage := p.plan.head?.getD {}
  let earlier := p.replies ++ p.late
  let d := (arrive f passage.arrivals p.dispatcher).val
  obtain ⟨hforth, hpoll, hinbound⟩ := arrive_evolves harrivals f earlier h.pollFault h.empty.1
  refine ⟨⟨fun passage hpassage => h.plan passage (List.mem_of_mem_tail hpassage), hpoll,
    hinbound, rfl⟩, ?_⟩
  have hreturned : Losing (earlier ++ d.link.outbound)
      (earlier ++ d.link.outbound.flatMap (List.replicate passage.copies)) :=
    (flatMap_copies_sublist hcopies d.link.outbound).append_left earlier
  have hfar : (p.write f).val.far = (d.widened earlier []).withReplies
      (earlier ++ d.link.outbound.flatMap (List.replicate passage.copies)) := by
    cases hheld : passage.held <;>
      simp [Peer.write, far, Dispatcher.widened, Dispatcher.withRequests, Dispatcher.withReplies,
        Memory.takeOutbound, passage, hheld, d, earlier]
  have hevents : (p.write f).events = (arrive f passage.arrivals p.dispatcher).events :=
    List.append_nil _
  have hrequest : p.far.withRequests (p.far.link.inbound ++ [f]) =
      (p.dispatcher.widened earlier []).withRequests [f] := by
    simp [far, Dispatcher.widened, Dispatcher.withRequests, Dispatcher.withReplies, earlier,
      h.empty.1]
  rw [hfar, hevents, hrequest]
  exact hforth.replies hreturned

/-- While the plan repeats no frame, the link at most loses and delays frames. -/
theorem conveys_losing : Conveys Losing (NeverRepeats : Peer σ m → Prop) where
  available h := ⟨h, .still⟩
  read_ok {p f} h hread := by
    obtain ⟨rest, hreplies, hleft⟩ := read_ok_cases hread
    rw [hleft]
    refine ⟨⟨h.plan, h.pollFault, h.empty⟩, p.far, rest ++ p.late ++ p.dispatcher.link.outbound,
      [], [], .still, ?_, .still, rfl⟩
    simp [far, Dispatcher.widened, Dispatcher.withReplies, hreplies]
  read_error {p e} h hread := by
    rw [(read_error_cases hread).2]
    exact ⟨h, .still⟩
  write {p} h f :=
    ⟨(h.write f).1, p.far, [], (p.write f).events, .still, (h.write f).2, by simp [Link.write]⟩

theorem OnlyLoses.write {p : Peer σ m} (h : p.OnlyLoses) (f : Frame m) :
    (p.write f).val.OnlyLoses := by
  have hafter := (h.neverRepeats.write f).1
  obtain ⟨-, -, hheld⟩ := passage_of_plan h.plan (by decide)
  refine ⟨fun passage hpassage => h.plan passage (List.mem_of_mem_tail hpassage), ?_,
    hafter.pollFault, hafter.empty⟩
  simp [Peer.write, hheld]

/-- While the plan only loses frames, so does the link. -/
theorem lossy : Lossy (OnlyLoses : Peer σ m → Prop) where
  available h := ⟨h, .still⟩
  read_ok {p f} h hread := by
    obtain ⟨rest, -, hleft⟩ := read_ok_cases hread
    refine ⟨?_, (conveys_losing.read_ok h.neverRepeats hread).2⟩
    rw [hleft]
    exact ⟨h.plan, h.late, h.pollFault, h.empty⟩
  read_error {p e} h hread :=
    ⟨(read_error_cases hread).2.symm ▸ h, (conveys_losing.read_error h.neverRepeats hread).2⟩
  write h f := ⟨h.write f, (conveys_losing.write h.neverRepeats f).2⟩
  nothing_available {p} h hnot := by
    have hreplies : p.replies = [] := by simpa [Link.available] using hnot
    change p.far.link.Empty
    simp [far, Dispatcher.widened, Dispatcher.withRequests, Dispatcher.withReplies, Memory.Empty,
      hreplies, h.late, h.empty.1, h.empty.2]
  read_failed {p e} h hread he := by
    rw [(read_error_cases hread).1] at he
    cases he
  write_failed h hwrite := by simp [Link.write] at hwrite

end Link.Peer

end AltBit

import AltBit.Proofs.Carrier
import Mathlib.Logic.Relation

/-!
The in-process peer is a carrier. Its plan loses, repeats and delays frames and does nothing else
to them: a frame that arrives several times is one request repeated in place, and replies held back
are still on their way.
-/
namespace AltBit

open Relation (ReflTransGen)

theorem Disturbed.copies {α : Type} (before : List α) (x : α) (after : List α) (n : Nat) :
    ReflTransGen Disturbed (before ++ x :: after) (before ++ (List.replicate n x ++ after)) := by
  induction n generalizing before with
  | zero => exact .single (.lost before x after)
  | succ n ih =>
    have hrest := ih (before ++ [x])
    rw [List.append_assoc, List.append_assoc] at hrest
    exact (ReflTransGen.single (.repeated before x after)).trans hrest

theorem Disturbed.flatMap_copies {α : Type} (before l : List α) (n : Nat) :
    ReflTransGen Disturbed (before ++ l) (before ++ l.flatMap (List.replicate n)) := by
  induction l generalizing before with
  | nil => exact .refl
  | cons x l ih =>
    have hrest := ih (before ++ List.replicate n x)
    rw [List.append_assoc, List.append_assoc] at hrest
    exact (copies before x l n).trans hrest

namespace Dispatcher
variable {σ : Type} [Behaviour σ] {m : Nat} {d : Dispatcher (Link.Memory m) σ}
  {fs : List (Frame m)}

theorem Transit.of_requests (h : ReflTransGen Disturbed d.link.inbound fs) :
    d.Transit [] (d.withRequests fs) := by
  induction h with
  | refl => exact .still
  | @tail gs hs _ hfs ih =>
    have hstep := Transit.requests ih hfs
    exact hstep

theorem Transit.of_replies (h : ReflTransGen Disturbed d.link.outbound fs) :
    d.Transit [] (d.withReplies fs) := by
  induction h with
  | refl => exact .still
  | @tail gs hs _ hfs ih =>
    have hstep := Transit.replies ih hfs
    exact hstep

end Dispatcher

namespace Link.Peer
variable {σ : Type} [Behaviour σ] {m : Nat}

/-- The dispatcher with everything that is on its way back. -/
def far (p : Peer σ m) : Dispatcher (Memory m) σ :=
  p.dispatcher.widened (p.replies ++ p.late) []

/-- Copies of a frame that arrive one after another are requests waiting behind each other. -/
theorem arrive_transit (f : Frame m) (earlier : List (Frame m)) (n : Nat)
    (d : Dispatcher (Memory m) σ) :
    (d.widened earlier (List.replicate n f)).Transit (arrive f n d).events
      ((arrive f n d).val.widened earlier []) := by
  induction n generalizing d with
  | zero => exact .still
  | succ n ih =>
    let pushed : Dispatcher (Memory m) σ := { d with link := d.link.push f }
    have hpushed : d.widened earlier (List.replicate (n + 1) f) =
        pushed.widened earlier (List.replicate n f) := by
      simp [Dispatcher.widened, Dispatcher.withRequests, Dispatcher.withReplies, pushed,
        Memory.push,
        List.replicate_succ]
    obtain ⟨hevents, hval⟩ := pushed.poll_widened (by simp [pushed, Memory.push]) earlier
      (List.replicate n f)
    have hpoll := (Dispatcher.Transit.still (d := pushed.widened earlier (List.replicate n f))).poll
    rw [hevents, hval, List.nil_append] at hpoll
    rw [hpushed]
    exact hpoll.trans (ih pushed.poll.val.2)

theorem write_transit (p : Peer σ m) (f : Frame m) :
    (p.far.withRequests (p.far.link.inbound ++ [f])).Transit (p.write f).events
      (p.write f).val.far := by
  let passage := p.plan.head?.getD {}
  let earlier := p.replies ++ p.late
  let d := (arrive f passage.arrivals p.dispatcher).val
  let returned := d.link.outbound.flatMap (List.replicate passage.copies)
  have hforth : (p.far.withRequests (p.far.link.inbound ++ [f])).Transit []
      (p.dispatcher.widened earlier (List.replicate passage.arrivals f)) := by
    have hcopies : ReflTransGen Disturbed
        (p.far.withRequests (p.far.link.inbound ++ [f])).link.inbound
        (p.dispatcher.link.inbound ++ List.replicate passage.arrivals f) := by
      simpa [far, Dispatcher.widened, Dispatcher.withRequests, Dispatcher.withReplies]
        using Disturbed.copies p.dispatcher.link.inbound f [] passage.arrivals
    have h := Dispatcher.Transit.of_requests hcopies
    exact h
  have hback : (d.widened earlier []).Transit []
      ((d.widened earlier []).withReplies (earlier ++ returned)) :=
    Dispatcher.Transit.of_replies
      (Disturbed.flatMap_copies earlier d.link.outbound passage.copies)
  have hfar : (p.write f).val.far = (d.widened earlier []).withReplies (earlier ++ returned) := by
    cases hheld : passage.held <;>
      simp [Peer.write, far, Dispatcher.widened, Dispatcher.withRequests, Dispatcher.withReplies,
        Memory.takeOutbound, passage, hheld, d, earlier, returned]
  rw [hfar]
  have hevents : (p.write f).events = (arrive f passage.arrivals p.dispatcher).events :=
    List.append_nil _
  have hall := (hforth.trans (arrive_transit f earlier passage.arrivals p.dispatcher)).trans hback
  rwa [List.nil_append, List.append_nil, ← hevents] at hall

section
variable {p : Peer σ m} {f : Frame m} {e : LinkError}

theorem read_ok_cases (h : (Link.read p).val.1 = .ok f) :
    ∃ rest, p.replies = f :: rest ∧ (Link.read p).val.2 = { p with replies := rest } := by
  cases hreplies : p.replies with
  | nil => simp [Link.read, Peer.read, hreplies] at h
  | cons g rest =>
    obtain rfl : g = f := by simpa [Link.read, Peer.read, hreplies] using h
    exact ⟨rest, rfl, by simp [Link.read, Peer.read, hreplies]⟩

/-- A peer fails to be read only if there is no reply. -/
theorem read_error_cases (h : (Link.read p).val.1 = .error e) :
    e = .wouldBlock ∧ (Link.read p).val.2 = p := by
  cases hreplies : p.replies with
  | nil =>
    have he : LinkError.wouldBlock = e := by simpa [Link.read, Peer.read, hreplies] using h
    exact ⟨he.symm, by simp [Link.read, Peer.read, hreplies]⟩
  | cons g rest => simp [Link.read, Peer.read, hreplies] at h

end

instance : Carrier (Peer σ m) σ where
  far := far
  available _ := .still
  read_ok {p f} h := by
    obtain ⟨rest, hreplies, hleft⟩ := read_ok_cases h
    refine ⟨p.far, rest ++ p.late ++ p.dispatcher.link.outbound, [], [], .still, ?_, ?_, rfl⟩
    · simp [far, Dispatcher.widened, Dispatcher.withReplies, hreplies]
    · rw [hleft]
      exact .still
  read_error {p e} h := by
    rw [(read_error_cases h).2]
    exact .still
  write p f := ⟨p.far, [], (p.write f).events, .still, p.write_transit f, by simp [Link.write]⟩

end Link.Peer

end AltBit

import AltBit.Proofs.Carrier
import AltBit.Proofs.Triple

/-!
Links to a dispatcher, told by what they do to the frames on their way. As over a carrier these are
the frames of the dispatcher's own in-memory link, requests that have not arrived and replies that
have not been read; here a relation says how the two queues may change between the operations of the
near end, and the operations need to keep to it only from some states on.
-/
namespace AltBit
open Traced

/-- No frame is on its way. -/
def Link.Memory.Empty {m : Nat} (t : Link.Memory m) : Prop := t.inbound = [] ∧ t.outbound = []

/-- A link whose far end is a dispatcher. -/
class Remote (T : Type) {m : outParam Nat} (σ : outParam Type) [Link T m] where
  far : T → Dispatcher (Link.Memory m) σ

variable {T σ : Type} {m : Nat} [Behaviour σ] {R : List (Frame m) → List (Frame m) → Prop}

/-- What happens between the ends if the queues change as `R` allows, with what is recorded
meanwhile. -/
inductive Dispatcher.Evolves (R : List (Frame m) → List (Frame m) → Prop)
    (d : Dispatcher (Link.Memory m) σ) : List Event → Dispatcher (Link.Memory m) σ → Prop
  | still : Evolves R d [] d
  | requests {events : List Event} {d' : Dispatcher (Link.Memory m) σ} {fs : List (Frame m)} :
    Evolves R d events d' → R d'.link.inbound fs → Evolves R d events (d'.withRequests fs)
  | replies {events : List Event} {d' : Dispatcher (Link.Memory m) σ} {fs : List (Frame m)} :
    Evolves R d events d' → R d'.link.outbound fs → Evolves R d events (d'.withReplies fs)
  | poll {events : List Event} {d' : Dispatcher (Link.Memory m) σ} :
    Evolves R d events d' → Evolves R d (events ++ d'.poll.events) d'.poll.val.2

/-- Between the ends `I` is kept. -/
structure Kept (R : List (Frame m) → List (Frame m) → Prop)
    (I : Dispatcher (Link.Memory m) σ → List Event → Prop) : Prop where
  requests {d : Dispatcher (Link.Memory m) σ} {log : List Event} {fs : List (Frame m)} :
    I d log → R d.link.inbound fs → I (d.withRequests fs) log
  replies {d : Dispatcher (Link.Memory m) σ} {log : List Event} {fs : List (Frame m)} :
    I d log → R d.link.outbound fs → I (d.withReplies fs) log
  poll {d : Dispatcher (Link.Memory m) σ} {log : List Event} :
    I d log → I d.poll.val.2 (log ++ d.poll.events)

theorem Kept.evolves {I : Dispatcher (Link.Memory m) σ → List Event → Prop} (h : Kept R I)
    {d d' : Dispatcher (Link.Memory m) σ} {events log : List Event} (hd : d.Evolves R events d')
    (hlog : I d log) : I d' (log ++ events) := by
  induction hd with
  | still => rwa [List.append_nil]
  | requests _ hfs ih => exact h.requests ih hfs
  | replies _ hfs ih => exact h.replies ih hfs
  | poll _ ih =>
    rw [← List.append_assoc]
    exact h.poll ih

theorem Kept.of_and {I : Dispatcher (Link.Memory m) σ → List Event → Prop} (h : Kept R I)
    (p : Prop) : Kept R fun d log => p ∧ I d log where
  requests hd hfs := ⟨hd.1, h.requests hd.2 hfs⟩
  replies hd hfs := ⟨hd.1, h.replies hd.2 hfs⟩
  poll hd := ⟨hd.1, h.poll hd.2⟩

/-- From states with `P` on, the queues change only as `R` allows, but that reading takes the oldest
reply and writing adds a request behind the others. -/
structure Conveys [Link T m] [Remote T σ] (R : List (Frame m) → List (Frame m) → Prop)
    (P : T → Prop) : Prop where
  available {t : T} (h : P t) : P (Link.available t).val.2 ∧
    (Remote.far t).Evolves R (Link.available t).events (Remote.far (Link.available t).val.2)
  read_ok {t : T} {f : Frame m} (h : P t) (hread : (Link.read t).val.1 = .ok f) :
    P (Link.read t).val.2 ∧ ∃ d rest events events', (Remote.far t).Evolves R events d ∧
      d.link.outbound = f :: rest ∧
      (d.withReplies rest).Evolves R events' (Remote.far (Link.read t).val.2) ∧
      (Link.read t).events = events ++ events'
  read_error {t : T} {e : LinkError} (h : P t) (hread : (Link.read t).val.1 = .error e) :
    P (Link.read t).val.2 ∧
      (Remote.far t).Evolves R (Link.read t).events (Remote.far (Link.read t).val.2)
  write {t : T} (h : P t) (f : Frame m) : P (Link.write t f).val.2 ∧
    ∃ d events events', (Remote.far t).Evolves R events d ∧
      (d.withRequests (d.link.inbound ++ [f])).Evolves R events'
        (Remote.far (Link.write t f).val.2) ∧
      (Link.write t f).events = events ++ events'

/-- What is known of a link with `P` if `I` is known of its far end. -/
def Across [Link T m] [Remote T σ] (P : T → Prop)
    (I : Dispatcher (Link.Memory m) σ → List Event → Prop) (t : T) (log : List Event) : Prop :=
  P t ∧ I (Remote.far t) log

namespace Conveys
variable [Link T m] [Remote T σ] {P : T → Prop}
  {I I' : Dispatcher (Link.Memory m) σ → List Event → Prop}

theorem triple_available (h : Conveys R P) (hI : Kept R I) (t : T) :
    Triple (Across P I t) (Link.available t) fun x => Across P I x.2 :=
  fun _ hlog => ⟨(h.available hlog.1).1, hI.evolves (h.available hlog.1).2 hlog.2⟩

theorem triple_read (h : Conveys R P) (hI : Kept R I)
    {G : Frame m → Dispatcher (Link.Memory m) σ → List Event → Prop} (hG : ∀ f, Kept R (G f))
    (htake : ∀ {d log f rest}, I d log → d.link.outbound = f :: rest →
      G f (d.withReplies rest) log) (t : T) :
    Triple (Across P I t) (Link.read t) fun x log =>
      match x.1 with
      | .ok f => Across P (G f) x.2 log
      | .error _ => Across P I x.2 log := by
  rintro log ⟨hP, hlog⟩
  cases hread : (Link.read t).val.1 with
  | ok f =>
    obtain ⟨hP', d, rest, events, events', hbefore, houtbound, hafter, hevents⟩ :=
      h.read_ok hP hread
    have htaken := htake (hI.evolves hbefore hlog) houtbound
    rw [hevents, ← List.append_assoc]
    exact ⟨hP', (hG f).evolves hafter htaken⟩
  | error e =>
    obtain ⟨hP', hevolves⟩ := h.read_error hP hread
    exact ⟨hP', hI.evolves hevolves hlog⟩

theorem triple_write (h : Conveys R P) (hI : Kept R I) (hI' : Kept R I') {f : Frame m}
    (hsend : ∀ {d log}, I d log → I' (d.withRequests (d.link.inbound ++ [f])) log) (t : T) :
    Triple (Across P I t) (Link.write t f) fun x => Across P I' x.2 := by
  rintro log ⟨hP, hlog⟩
  obtain ⟨hP', d, events, events', hbefore, hafter, hevents⟩ := h.write hP f
  have hsent := hsend (hI.evolves hbefore hlog)
  rw [hevents, ← List.append_assoc]
  exact ⟨hP', hI'.evolves hafter hsent⟩

end Conveys

section
variable {d d' : Dispatcher (Link.Memory m) σ} {events : List Event}

theorem Dispatcher.Transit.evolves (hR : ∀ {fs gs}, Disturbed fs gs → R fs gs)
    (h : d.Transit events d') : d.Evolves R events d' := by
  induction h with
  | still => exact .still
  | requests _ hfs ih => exact ih.requests (hR hfs)
  | replies _ hfs ih => exact ih.replies (hR hfs)
  | poll _ ih => exact ih.poll

end

namespace Carrier
variable [Link T m] [Carrier T σ]

instance : Remote T σ := ⟨far⟩

theorem conveys (hR : ∀ {fs gs}, Disturbed fs gs → R fs gs) :
    Conveys R (fun _ : T => True) where
  available {t} _ := ⟨trivial, (available t).evolves hR⟩
  read_ok _ hread := by
    obtain ⟨d, rest, events, events', hbefore, houtbound, hafter, hevents⟩ := read_ok hread
    exact ⟨trivial, d, rest, events, events', hbefore.evolves hR, houtbound, hafter.evolves hR,
      hevents⟩
  read_error _ hread := ⟨trivial, (read_error hread).evolves hR⟩
  write {t} _ f := by
    obtain ⟨d, events, events', hbefore, hafter, hevents⟩ := write t f
    exact ⟨trivial, d, events, events', hbefore.evolves hR, hafter.evolves hR, hevents⟩

end Carrier

end AltBit

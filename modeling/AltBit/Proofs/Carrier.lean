import AltBit.Link.Peer
import AltBit.Proofs.Polling

/-!
Links to a dispatcher that keep the order of frames and nothing else. The frames on their way are
those of the dispatcher's own in-memory link: requests that have not arrived and replies that have
not been read. Between the operations of the near end some of them get lost, are repeated in place
or are delivered, at any time; the operations themselves may fail in any way.
-/
namespace AltBit

/-- What can happen to a queue of frames: one gets lost, or is followed by a copy of itself. -/
inductive Disturbed {α : Type} : List α → List α → Prop
  | lost (before : List α) (x : α) (after : List α) :
    Disturbed (before ++ x :: after) (before ++ after)
  | repeated (before : List α) (x : α) (after : List α) :
    Disturbed (before ++ x :: after) (before ++ x :: x :: after)

namespace Disturbed
variable {α β : Type} {l l' : List α}

theorem subset (h : Disturbed l l') : l' ⊆ l := by
  cases h with
  | lost before x after => exact ((List.sublist_cons_self x after).append_left before).subset
  | repeated before x after =>
    intro a ha
    simpa using ha

theorem map_filter (h : Disturbed l l') (p : α → Bool) (f : α → β) :
    (l'.filter p).map f = (l.filter p).map f ∨
      Disturbed ((l.filter p).map f) ((l'.filter p).map f) := by
  cases h with
  | lost before x after =>
    cases hx : p x with
    | false => simp [List.filter_append, hx]
    | true =>
      right
      simpa [List.filter_append, List.filter_cons, hx] using
        lost ((before.filter p).map f) (f x) ((after.filter p).map f)
  | repeated before x after =>
    cases hx : p x with
    | false => simp [List.filter_append, hx]
    | true =>
      right
      simpa [List.filter_append, List.filter_cons, hx] using
        repeated ((before.filter p).map f) (f x) ((after.filter p).map f)

end Disturbed

namespace Dispatcher
variable {σ : Type} {m : Nat}

def withRequests (d : Dispatcher (Link.Memory m) σ) (fs : List (Frame m)) :
    Dispatcher (Link.Memory m) σ :=
  { d with link := { d.link with inbound := fs } }

def withReplies (d : Dispatcher (Link.Memory m) σ) (fs : List (Frame m)) :
    Dispatcher (Link.Memory m) σ :=
  { d with link := { d.link with outbound := fs } }

variable [Behaviour σ]

/-- What happens between the ends, with what is recorded meanwhile. -/
inductive Transit (d : Dispatcher (Link.Memory m) σ) :
    List Event → Dispatcher (Link.Memory m) σ → Prop
  | still : Transit d [] d
  | requests {events : List Event} {d' : Dispatcher (Link.Memory m) σ} {fs : List (Frame m)} :
    Transit d events d' → Disturbed d'.link.inbound fs → Transit d events (d'.withRequests fs)
  | replies {events : List Event} {d' : Dispatcher (Link.Memory m) σ} {fs : List (Frame m)} :
    Transit d events d' → Disturbed d'.link.outbound fs → Transit d events (d'.withReplies fs)
  | poll {events : List Event} {d' : Dispatcher (Link.Memory m) σ} :
    Transit d events d' → Transit d (events ++ d'.poll.events) d'.poll.val.2

theorem Transit.trans {d d' d'' : Dispatcher (Link.Memory m) σ} {events events' : List Event}
    (h : Transit d events d') (h' : Transit d' events' d'') :
    Transit d (events ++ events') d'' := by
  induction h' with
  | still => rwa [List.append_nil]
  | requests _ hfs ih => exact ih.requests hfs
  | replies _ hfs ih => exact ih.replies hfs
  | poll _ ih =>
    rw [← List.append_assoc]
    exact ih.poll

end Dispatcher

/-- A link whose far end is a dispatcher. Reading takes the oldest reply that is still on its way,
writing adds a request behind the others, and everything else is transit. -/
class Carrier (T : Type) {m : outParam Nat} (σ : outParam Type) [Link T m] [Behaviour σ] where
  far : T → Dispatcher (Link.Memory m) σ
  available (t : T) :
    (far t).Transit (Link.available t).events (far (Link.available t).val.2)
  read_ok {t : T} {f : Frame m} (h : (Link.read t).val.1 = .ok f) :
    ∃ d rest events events', (far t).Transit events d ∧ d.link.outbound = f :: rest ∧
      (d.withReplies rest).Transit events' (far (Link.read t).val.2) ∧
      (Link.read t).events = events ++ events'
  read_error {t : T} {e : LinkError} (h : (Link.read t).val.1 = .error e) :
    (far t).Transit (Link.read t).events (far (Link.read t).val.2)
  write (t : T) (f : Frame m) :
    ∃ d events events', (far t).Transit events d ∧
      (d.withRequests (d.link.inbound ++ [f])).Transit events' (far (Link.write t f).val.2) ∧
      (Link.write t f).events = events ++ events'

namespace Dispatcher
variable {σ : Type} {m : Nat}

theorem link_reply (d : Dispatcher (Link.Memory m) σ) (h : Handled σ m) :
    (d.reply h).val.2.link.inbound = d.link.inbound ∧
      ((d.reply h).val.2.link.outbound = d.link.outbound ∨
        (d.reply h).val.2.link.outbound = d.link.outbound ++ [h.reply]) := by
  unfold reply
  cases hfault : d.link.writeFault <;> cases h.delivery <;>
    simp [Link.write, Link.Memory.write, hfault]

variable [Behaviour σ]

section
variable {d : Dispatcher (Link.Memory m) σ} {f : Frame m} {rest : List (Frame m)} {reason : String}

/-- A failed readiness check keeps the requests. -/
theorem poll_of_pollFault (hpoll : d.link.pollFault = some reason) :
    d.poll.val = (.error (.link (.injected reason)),
        { d with
          link := { d.link with pollFault := none }
          counters := d.counters.countLinkError }) ∧
      d.poll.events = [.readinessFailed (.injected reason)] := by
  simp [poll, Link.isReady, Link.available, Link.Memory.available, hpoll, Link.settle,
    LinkError.isWouldBlock]

theorem poll_of_empty (hpoll : d.link.pollFault = none) (hinbound : d.link.inbound = []) :
    d.poll = pure (.ok .idle, d) := by
  cases hblock : d.link.reportWouldBlock <;>
    simp [poll, Link.isReady, Link.available, Link.Memory.available, hpoll, hinbound, hblock,
      Link.settle, LinkError.isWouldBlock]

/-- A failed read loses the oldest request. -/
theorem poll_of_readFault (hpoll : d.link.pollFault = none) (hread : d.link.readFault = some reason)
    (hinbound : d.link.inbound = f :: rest) :
    d.poll.val = (.error (.link (.injected reason)),
        { d with
          link := { d.link with readFault := none, inbound := rest }
          counters := d.counters.countLinkError }) ∧
      d.poll.events = [.readFailed (.injected reason)] := by
  simp [poll, Link.isReady, Link.receive, Link.available, Link.Memory.available, Link.read,
    Link.Memory.read, hpoll, hread, hinbound, Link.settle, LinkError.isWouldBlock, Except.map]

/-- A poll that no fault disturbs answers the oldest request. -/
theorem poll_of_request (hpoll : d.link.pollFault = none) (hread : d.link.readFault = none)
    (hinbound : d.link.inbound = f :: rest) : d.poll = (d.withRequests rest).answer f := by
  simp [poll, Link.isReady, Link.receive, Link.available, Link.Memory.available, Link.read,
    Link.Memory.read, hpoll, hread, hinbound, Link.settle, Except.map, withRequests]

end

omit [Behaviour σ] in
/-- What a poll takes is the oldest request, unless a fault disturbs it. -/
theorem incoming?_memory (d : Dispatcher (Link.Memory m) σ) :
    d.incoming? =
      if d.link.pollFault = none ∧ d.link.readFault = none then d.link.inbound.head? else none := by
  unfold incoming? Link.isReady Link.receive
  cases hpoll : d.link.pollFault with
  | some reason =>
    simp [Link.available, Link.Memory.available, hpoll, Link.settle, LinkError.isWouldBlock]
  | none =>
    cases hinbound : d.link.inbound with
    | nil =>
      cases hblock : d.link.reportWouldBlock <;>
        simp [Link.available, Link.Memory.available, hpoll, hinbound, hblock, Link.settle,
          LinkError.isWouldBlock]
    | cons f rest =>
      cases hread : d.link.readFault <;>
        simp [Link.available, Link.Memory.available, Link.read, Link.Memory.read, hpoll, hread,
          hinbound, Link.settle, LinkError.isWouldBlock, Except.map]

/-- A poll takes the oldest request, and its reply is behind the others or lost; or it takes
nothing, and at most a request is lost. -/
theorem link_poll (d : Dispatcher (Link.Memory m) σ) :
    match d.incoming? with
    | none => d.poll.val.2.link.inbound.Sublist d.link.inbound ∧
        d.poll.val.2.link.outbound = d.link.outbound
    | some f => d.link.inbound = f :: d.poll.val.2.link.inbound ∧
        (d.poll.val.2.link.outbound = d.link.outbound ∨
          d.poll.val.2.link.outbound = d.link.outbound ++ [(d.registry.handle f).val.reply]) := by
  rw [incoming?_memory]
  cases hpoll : d.link.pollFault with
  | some reason => simp [(poll_of_pollFault hpoll).1]
  | none =>
    cases hinbound : d.link.inbound with
    | nil => simp [poll_of_empty hpoll hinbound, hinbound]
    | cons f rest =>
      cases hread : d.link.readFault with
      | some reason => simp [(poll_of_readFault hpoll hread hinbound).1]
      | none =>
        rw [poll_of_request hpoll hread hinbound]
        simp [answer, link_reply, withRequests]

/-- A poll leaves everything but the requests as it is and loses at most some of these, or it
answers the oldest one, and the reply joins the others or gets lost. -/
theorem poll_cases (d : Dispatcher (Link.Memory m) σ) :
    let d' := d.poll.val.2
    (d'.registry = d.registry ∧ (∀ id, invocations id d.poll.events = []) ∧
        d'.link.inbound.Sublist d.link.inbound ∧ d'.link.outbound = d.link.outbound) ∨
      ∃ f, d'.registry = (d.registry.handle f).val.registry ∧
        (∀ id, invocations id d.poll.events = invocations id (d.registry.handle f).events) ∧
        d.link.inbound = f :: d'.link.inbound ∧
        (d'.link.outbound = d.link.outbound ∨
          d'.link.outbound = d.link.outbound ++ [(d.registry.handle f).val.reply]) := by
  have haccount := d.poll_account
  have hlink := d.link_poll
  cases hincoming : d.incoming? with
  | none =>
    simp only [hincoming] at haccount hlink
    exact .inl ⟨haccount.1, haccount.2, hlink⟩
  | some f =>
    simp only [hincoming] at haccount hlink
    exact .inr ⟨f, haccount.1, haccount.2, hlink⟩

/-- The dispatcher with more requests behind those on their way, and more replies before them. -/
def widened (d : Dispatcher (Link.Memory m) σ) (earlier later : List (Frame m)) :
    Dispatcher (Link.Memory m) σ :=
  (d.withRequests (d.link.inbound ++ later)).withReplies (earlier ++ d.link.outbound)

omit [Behaviour σ] in
theorem reply_widened (d : Dispatcher (Link.Memory m) σ) (h : Handled σ m)
    (earlier later : List (Frame m)) :
    ((d.widened earlier later).reply h).events = (d.reply h).events ∧
      ((d.widened earlier later).reply h).val.2 = (d.reply h).val.2.widened earlier later := by
  unfold reply
  cases hfault : d.link.writeFault <;> cases h.delivery <;>
    simp [Link.write, Link.Memory.write, hfault, widened, withRequests, withReplies]

/-- A poll with a request at hand does not look at what is behind it. -/
theorem poll_widened (d : Dispatcher (Link.Memory m) σ) (hd : d.link.inbound ≠ [])
    (earlier later : List (Frame m)) :
    (d.widened earlier later).poll.events = d.poll.events ∧
      (d.widened earlier later).poll.val.2 = d.poll.val.2.widened earlier later := by
  obtain ⟨f, rest, hinbound⟩ := List.exists_cons_of_ne_nil hd
  have hinbound' : (d.widened earlier later).link.inbound = f :: (rest ++ later) := by
    rw [← List.cons_append, ← hinbound]
    rfl
  cases hpoll : d.link.pollFault with
  | some reason =>
    obtain ⟨hval, hevents⟩ := poll_of_pollFault hpoll
    obtain ⟨hval', hevents'⟩ := poll_of_pollFault (d := d.widened earlier later) hpoll
    rw [hval, hval', hevents, hevents']
    exact ⟨rfl, rfl⟩
  | none =>
    cases hread : d.link.readFault with
    | some reason =>
      obtain ⟨hval, hevents⟩ := poll_of_readFault hpoll hread hinbound
      obtain ⟨hval', hevents'⟩ :=
        poll_of_readFault (d := d.widened earlier later) hpoll hread hinbound'
      rw [hval, hval', hevents, hevents']
      exact ⟨rfl, rfl⟩
    | none =>
      have hreply := reply_widened
        { d.withRequests rest with
          registry := (d.registry.handle f).val.registry
          counters := d.counters.countFrame (d.registry.handle f).val }
        (d.registry.handle f).val earlier later
      rw [poll_of_request hpoll hread hinbound,
        poll_of_request (d := d.widened earlier later) hpoll hread hinbound']
      exact ⟨congrArg ((d.registry.handle f).events ++ ·) hreply.1, hreply.2⟩

end Dispatcher

end AltBit

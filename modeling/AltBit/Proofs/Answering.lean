import AltBit.Proofs.Carrier

/-!
Frames answered one after another. What a series of frames does to a registry, to the counters and
to the handlers is said here once, without a link; a dispatcher whose in-memory link never fails
does just that with the frames that are waiting there.
-/
namespace AltBit

/-- Whether the event is the call of a handler. -/
def Event.isInvocation : Event → Bool
  | invoked .. => true
  | _ => false

/-- The calls of handlers, on all identifiers, in the order in which they happened. -/
def handlerCalls (events : List Event) : List Event := events.filter Event.isInvocation

@[simp] theorem handlerCalls_nil : handlerCalls [] = [] := rfl

@[simp] theorem handlerCalls_append (a b : List Event) :
    handlerCalls (a ++ b) = handlerCalls a ++ handlerCalls b :=
  List.filter_append a b

namespace Counters
variable {σ : Type} {m : Nat}

def withLinkErrors (c : Counters) (n : Nat) : Counters := { c with linkErrors := n }

@[simp] theorem withLinkErrors_linkErrors (c : Counters) : c.withLinkErrors c.linkErrors = c := rfl

@[simp] theorem withLinkErrors_withLinkErrors (c : Counters) (n k : Nat) :
    (c.withLinkErrors n).withLinkErrors k = c.withLinkErrors k := rfl

@[simp] theorem linkErrors_withLinkErrors (c : Counters) (n : Nat) :
    (c.withLinkErrors n).linkErrors = n := rfl

@[simp] theorem linkErrors_countFrame (c : Counters) (h : Handled σ m) :
    (c.countFrame h).linkErrors = c.linkErrors := by
  unfold countFrame countDelivery
  dsimp only
  split <;> split <;> split <;> rfl

/-- Frames are counted without regard to link errors. -/
theorem countFrame_withLinkErrors (c : Counters) (n : Nat) (h : Handled σ m) :
    (c.withLinkErrors n).countFrame h = (c.countFrame h).withLinkErrors n := by
  unfold countFrame countDelivery
  dsimp only
  split <;> split <;> split <;> rfl

theorem countLinkError_eq (c : Counters) :
    c.countLinkError = c.withLinkErrors (c.linkErrors + 1) := rfl

def countFrames (c : Counters) (hs : List (Handled σ m)) : Counters := hs.foldl countFrame c

@[simp] theorem countFrames_nil (c : Counters) : c.countFrames ([] : List (Handled σ m)) = c := rfl

@[simp] theorem countFrames_cons (c : Counters) (h : Handled σ m) (hs : List (Handled σ m)) :
    c.countFrames (h :: hs) = (c.countFrame h).countFrames hs := rfl

theorem countFrames_append (c : Counters) (hs hs' : List (Handled σ m)) :
    c.countFrames (hs ++ hs') = (c.countFrames hs).countFrames hs' :=
  List.foldl_append

theorem countFrames_withLinkErrors (c : Counters) (n : Nat) (hs : List (Handled σ m)) :
    (c.withLinkErrors n).countFrames hs = (c.countFrames hs).withLinkErrors n := by
  induction hs generalizing c with
  | nil => rfl
  | cons h hs ih => rw [countFrames_cons, countFrames_cons, countFrame_withLinkErrors, ih]

theorem linkErrors_countFrames (c : Counters) (hs : List (Handled σ m)) :
    (c.countFrames hs).linkErrors = c.linkErrors := by
  induction hs generalizing c with
  | nil => rfl
  | cons h hs ih => rw [countFrames_cons, ih, linkErrors_countFrame]

@[simp] theorem countFrames_withLinkErrors_self (c : Counters) (hs : List (Handled σ m)) :
    (c.countFrames hs).withLinkErrors c.linkErrors = c.countFrames hs := by
  rw [← linkErrors_countFrames c hs, withLinkErrors_linkErrors]

end Counters

/-- What a poll answers for a frame whose reply has been written. -/
def Handled.polled {σ : Type} {m : Nat} (h : Handled σ m) : Except DispatchError Polled :=
  match h.delivery with
  | some delivery => .ok (.delivered h.reply.id delivery)
  | none => .error (.unknownIdentifier h.reply.id)

namespace Registry
variable {σ : Type} [Behaviour σ] {m : Nat}

/-- A frame is delivered, if only as a duplicate, when a handler is registered for it. -/
theorem isSome_delivery_handle (r : Registry σ) (f : Frame m) :
    (r.handle f).val.delivery.isSome = r.handlers.contains f.id := by
  unfold IdTable.contains
  have hcase := r.handle_cases f
  generalize (r.handle f).val = x at hcase ⊢
  cases hcase with
  | unknown hh | unreliable hh | accepted hh | duplicate hh => simp [hh]

/-- Answers frames one after another, each with the registry that the one before has left. -/
def handleAll (r : Registry σ) : List (Frame m) → Traced (List (Handled σ m) × Registry σ)
  | [] => pure ([], r)
  | f :: fs => do
    let h ← r.handle f
    let (hs, r) ← h.registry.handleAll fs
    pure (h :: hs, r)

@[simp] theorem handleAll_nil (r : Registry σ) :
    r.handleAll ([] : List (Frame m)) = pure ([], r) := rfl

@[simp] theorem val_handleAll_cons (r : Registry σ) (f : Frame m) (fs : List (Frame m)) :
    (r.handleAll (f :: fs)).val =
      ((r.handle f).val :: ((r.handle f).val.registry.handleAll fs).val.1,
        ((r.handle f).val.registry.handleAll fs).val.2) := rfl

theorem val_handleAll_append (r : Registry σ) (fs gs : List (Frame m)) :
    (r.handleAll (fs ++ gs)).val =
      ((r.handleAll fs).val.1 ++ ((r.handleAll fs).val.2.handleAll gs).val.1,
        ((r.handleAll fs).val.2.handleAll gs).val.2) := by
  induction fs generalizing r with
  | nil => rfl
  | cons f fs ih => simp [ih]

@[simp] theorem events_handleAll_cons (r : Registry σ) (f : Frame m) (fs : List (Frame m)) :
    (r.handleAll (f :: fs)).events =
      (r.handle f).events ++ ((r.handle f).val.registry.handleAll fs).events := by
  simp [handleAll]

theorem events_handleAll_append (r : Registry σ) (fs gs : List (Frame m)) :
    (r.handleAll (fs ++ gs)).events =
      (r.handleAll fs).events ++ ((r.handleAll fs).val.2.handleAll gs).events := by
  induction fs generalizing r with
  | nil => rfl
  | cons f fs ih => simp [ih]

theorem length_handleAll (r : Registry σ) (fs : List (Frame m)) :
    (r.handleAll fs).val.1.length = fs.length := by
  induction fs generalizing r with
  | nil => rfl
  | cons f fs ih => simp [ih]

/-- Each frame is handled by the registry that the frames before it have left. -/
theorem getElem?_handleAll (r : Registry σ) (fs : List (Frame m)) (k : Nat) :
    (r.handleAll fs).val.1[k]? =
      fs[k]?.map fun f => ((r.handleAll (fs.take k)).val.2.handle f).val := by
  induction fs generalizing r k with
  | nil => rfl
  | cons f fs ih =>
    cases k with
    | zero => rfl
    | succ k => simp [ih]

end Registry

namespace Dispatcher
variable {T σ : Type} {m : Nat} [Link T m]

/-- A frame is answered without an error of the link if the reply gets written. -/
theorem reply_of_written {d : Dispatcher T σ} {h : Handled σ m} {link : T}
    (hwritten : Link.write d.link h.reply = pure (.ok (), link)) :
    d.reply h = pure (h.polled, { d with link }) := by
  unfold reply Handled.polled
  rw [hwritten, pure_bind]
  cases h.delivery <;> rfl

/-- The dispatcher that has a frame handled and its reply still to write. -/
def handled (d : Dispatcher T σ) (h : Handled σ m) : Dispatcher T σ :=
  { d with registry := h.registry, counters := d.counters.countFrame h }

variable [Behaviour σ]

theorem val_answer (d : Dispatcher T σ) (f : Frame m) :
    (d.answer f).val =
      ((d.handled (d.registry.handle f).val).reply (d.registry.handle f).val).val := rfl

theorem events_answer (d : Dispatcher T σ) (f : Frame m) :
    (d.answer f).events = (d.registry.handle f).events ++
      ((d.handled (d.registry.handle f).val).reply (d.registry.handle f).val).events := rfl

theorem poll_of_notReady {d : Dispatcher T σ} {link : T}
    (hready : (Link.isReady d.link).val = (.ok false, link)) :
    d.poll.val = (.ok .idle, { d with link }) ∧
      d.poll.events = (Link.isReady d.link).events := by
  simp [poll, hready]

/-- A frame that comes without ado is answered. -/
theorem poll_of_received {d : Dispatcher T σ} {link link' link'' : T} {f : Frame m}
    (hready : (Link.isReady d.link).val = (.ok true, link))
    (hreceive : Link.receive link = pure (.ok (some f), link'))
    (hwritten : Link.write link' (d.registry.handle f).val.reply = pure (.ok (), link'')) :
    d.poll.val = ((d.registry.handle f).val.polled,
        { d.handled (d.registry.handle f).val with link := link'' }) ∧
      d.poll.events = (Link.isReady d.link).events ++ (d.registry.handle f).events := by
  have hanswer : d.poll.val = ({ d with link := link' }.answer f).val ∧
      d.poll.events =
        (Link.isReady d.link).events ++ ({ d with link := link' }.answer f).events := by
    simp [poll, hready, hreceive]
  rw [hanswer.1, hanswer.2, val_answer, events_answer, reply_of_written hwritten]
  exact ⟨rfl, by rw [Traced.events_pure, List.append_nil]⟩

/-- Polls a number of times, and lists what the polls have answered. -/
def polls (d : Dispatcher T σ) : Nat → Traced (List (Except DispatchError Polled) × Dispatcher T σ)
  | 0 => pure ([], d)
  | n + 1 => do
    let (r, d) ← d.poll
    let (rs, d) ← d.polls n
    pure (r :: rs, d)

@[simp] theorem polls_zero (d : Dispatcher T σ) : d.polls 0 = pure ([], d) := rfl

@[simp] theorem val_polls_succ (d : Dispatcher T σ) (n : Nat) :
    (d.polls (n + 1)).val =
      (d.poll.val.1 :: (d.poll.val.2.polls n).val.1, (d.poll.val.2.polls n).val.2) := rfl

@[simp] theorem events_polls_succ (d : Dispatcher T σ) (n : Nat) :
    (d.polls (n + 1)).events = d.poll.events ++ (d.poll.val.2.polls n).events := by
  simp [polls]

/-- The dispatcher with an in-memory link instead, on which the given frames are waiting. -/
def overMemory (d : Dispatcher T σ) (fs : List (Frame m)) : Dispatcher (Link.Memory m) σ :=
  { link := { inbound := fs }, registry := d.registry, counters := d.counters }

end Dispatcher

/-- The failures that have been asked for and have not happened yet. -/
def Link.Memory.armed {m : Nat} (t : Link.Memory m) : List String :=
  t.pollFault.toList ++ t.readFault.toList ++ t.writeFault.toList

namespace Dispatcher
variable {σ : Type} {m : Nat} {d : Dispatcher (Link.Memory m) σ}

/-- The dispatcher after frames have been handled and their replies written. -/
def afterFrames (d : Dispatcher (Link.Memory m) σ) (handled : List (Handled σ m) × Registry σ) :
    Dispatcher (Link.Memory m) σ :=
  { link := { d.link with outbound := d.link.outbound ++ handled.1.map Handled.reply }
    registry := handled.2
    counters := d.counters.countFrames handled.1 }

theorem reply_of_writable (hwrite : d.link.writeFault = none) (h : Handled σ m) :
    d.reply h = pure (h.polled,
      { d with link := { d.link with outbound := d.link.outbound ++ [h.reply] } }) := by
  refine reply_of_written ?_
  simp [Link.write, Link.Memory.write, hwrite]

theorem afterFrames_afterFrames (d : Dispatcher (Link.Memory m) σ) (h : Handled σ m)
    (r : Registry σ) (handled : List (Handled σ m) × Registry σ) :
    (d.afterFrames ([h], r)).afterFrames handled = d.afterFrames (h :: handled.1, handled.2) := by
  simp [afterFrames]

variable [Behaviour σ]

theorem poll_of_writable {f : Frame m} {rest : List (Frame m)} (hd : d.link.armed = [])
    (hinbound : d.link.inbound = f :: rest) :
    d.poll = (fun h => (h.polled, (d.withRequests rest).afterFrames ([h], h.registry))) <$>
      d.registry.handle f := by
  obtain ⟨hpoll, hread, hwrite⟩ : d.link.pollFault = none ∧ d.link.readFault = none ∧
      d.link.writeFault = none := by simpa [Link.Memory.armed] using hd
  rw [poll_of_request hpoll hread hinbound, answer, map_eq_pure_bind]
  refine bind_congr fun h => ?_
  have hreply := reply_of_writable (d := { d.withRequests rest with
    registry := h.registry, counters := d.counters.countFrame h }) hwrite h
  exact hreply

/-- A dispatcher whose in-memory link does not fail answers the frames in front of its queue. -/
theorem polls_of_writable {fs rest : List (Frame m)} (hd : d.link.armed = [])
    (hinbound : d.link.inbound = fs ++ rest) :
    d.polls fs.length = (fun handled => (handled.1.map Handled.polled,
      (d.withRequests rest).afterFrames handled)) <$> d.registry.handleAll fs := by
  induction fs generalizing d with
  | nil =>
    have hnothing : d.withRequests rest = d := by
      rw [← show d.link.inbound = rest from hinbound]
      rfl
    simp [afterFrames, hnothing]
  | cons f fs ih =>
    rw [List.cons_append] at hinbound
    rw [List.length_cons, polls, poll_of_writable hd hinbound]
    simp only [map_eq_pure_bind, bind_assoc, pure_bind, Registry.handleAll]
    refine bind_congr fun h => ?_
    rw [ih (d := (d.withRequests (fs ++ rest)).afterFrames ([h], h.registry)) hd rfl]
    simp only [map_eq_pure_bind, bind_assoc, pure_bind]
    refine bind_congr fun handled => ?_
    rw [← afterFrames_afterFrames (d.withRequests rest) h h.registry handled]
    rfl

theorem polls_overMemory {T : Type} [Link T m] (d : Dispatcher T σ) (fs : List (Frame m)) :
    (d.overMemory fs).polls fs.length = (fun handled => (handled.1.map Handled.polled,
      (d.overMemory []).afterFrames handled)) <$> d.registry.handleAll fs :=
  polls_of_writable rfl (List.append_nil fs).symm

end Dispatcher

end AltBit

import AltBit.Outlines
import AltBit.Proofs.Alternation
import AltBit.Proofs.Answering

/-!
What the counters say. A link that keeps a record of the calls made on it shows which of six courses
a poll takes. So over any run every frame that was read is counted under one kind and was answered
by one write, every failure of a link is counted once, and the answers of the polls add up to the
frames.
-/
namespace AltBit

/-- A call made on a link, with the link's answer. -/
inductive LinkCall (m : Nat) where
  | available (answer : Except LinkError Bool)
  | read (answer : Except LinkError (Frame m))
  | write (f : Frame m) (answer : Except LinkError Unit)

namespace LinkCall
variable {m : Nat}

@[simp] def isWrite : LinkCall m → Bool
  | write .. => true
  | _ => false

/-- The frame that the call was to write. -/
@[simp] def written? : LinkCall m → Option (Frame m)
  | write f _ => some f
  | _ => none

/-- A write that fails, or anything else that fails for another reason than that nothing is there
yet. -/
@[simp] def isFailure : LinkCall m → Bool
  | available (.error e) | read (.error e) => !e.isWouldBlock
  | write _ (.error _) => true
  | _ => false

/-- A failed write of a frame for an identifier that is registered. -/
@[simp] def losesReply {σ : Type} (r : Registry σ) : LinkCall m → Bool
  | write f (.error _) => r.handlers.contains f.id
  | _ => false

end LinkCall

/-- A link that keeps a record of the calls made on it, oldest first. -/
structure Link.Recorded (T : Type) (m : Nat) where
  link : T
  calls : List (LinkCall m) := []

instance {T : Type} {m : Nat} [Link T m] : Link (Link.Recorded T m) m where
  available t := do
    let (r, link) ← Link.available t.link
    pure (r, { link, calls := t.calls ++ [.available r] })
  read t := do
    let (r, link) ← Link.read t.link
    pure (r, { link, calls := t.calls ++ [.read r] })
  write t f := do
    let (r, link) ← Link.write t.link f
    pure (r, { link, calls := t.calls ++ [.write f r] })

@[simp] theorem Link.val_available_recorded {T : Type} {m : Nat} [Link T m] (t : Recorded T m) :
    (Link.available t).val = ((Link.available t.link).val.1,
      ⟨(Link.available t.link).val.2, t.calls ++ [.available (Link.available t.link).val.1]⟩) := rfl

@[simp] theorem Link.val_read_recorded {T : Type} {m : Nat} [Link T m] (t : Recorded T m) :
    (Link.read t).val = ((Link.read t.link).val.1,
      ⟨(Link.read t.link).val.2, t.calls ++ [.read (Link.read t.link).val.1]⟩) := rfl

@[simp] theorem Link.val_write_recorded {T : Type} {m : Nat} [Link T m] (t : Recorded T m)
    (f : Frame m) : (Link.write t f).val = ((Link.write t.link f).val.1,
      ⟨(Link.write t.link f).val.2, t.calls ++ [.write f (Link.write t.link f).val.1]⟩) := rfl

namespace Dispatcher
variable {T σ : Type} {m : Nat} [Link T m] [Behaviour σ]

/-- The dispatcher with its link under observation. -/
def recording (d : Dispatcher T σ) : Dispatcher (Link.Recorded T m) σ :=
  { link := { link := d.link }, registry := d.registry, counters := d.counters }

/-- The courses that a poll can take: the calls on the link, the frame that is taken, the answer and
the counters afterwards. -/
inductive Course (d : Dispatcher T σ) : List (LinkCall m) → Option (Frame m) →
    Except DispatchError Polled → Counters → Prop
  | notReady {answer : Except LinkError Bool} (h : Link.settle false answer = .ok false) :
    Course d [.available answer] none (.ok .idle) d.counters
  | unavailable {e : LinkError} (h : e.isWouldBlock = false) :
    Course d [.available (.error e)] none (.error (.link e)) d.counters.countLinkError
  | nothing {e : LinkError} (h : e.isWouldBlock = true) :
    Course d [.available (.ok true), .read (.error e)] none (.ok .idle) d.counters
  | unreadable {e : LinkError} (h : e.isWouldBlock = false) :
    Course d [.available (.ok true), .read (.error e)] none (.error (.link e))
      d.counters.countLinkError
  | answered (f : Frame m) :
    Course d [.available (.ok true), .read (.ok f), .write (d.registry.handle f).val.reply (.ok ())]
      (some f) (d.registry.handle f).val.polled (d.counters.countFrame (d.registry.handle f).val)
  | unanswered (f : Frame m) (e : LinkError) :
    Course d
      [.available (.ok true), .read (.ok f), .write (d.registry.handle f).val.reply (.error e)]
      (some f)
      (if d.registry.handlers.contains f.id then .error (.link e)
        else .error (.unknownIdentifier f.id))
      (d.counters.countFrame (d.registry.handle f).val).countLinkError

/-- A poll takes one of the courses; its calls are those that the link has seen, when observed. -/
theorem course_poll (d : Dispatcher T σ) :
    d.Course d.recording.poll.val.2.link.calls d.incoming? d.poll.val.1 d.poll.val.2.counters := by
  unfold poll incoming? Link.isReady Link.receive
  rcases hready : (Link.available d.link).val with ⟨ready, link⟩
  rcases hframe : (Link.read link).val with ⟨frame, link'⟩
  cases ready with
  | error e =>
    cases he : e.isWouldBlock with
    | false =>
      have hcourse : d.Course (m := m) _ _ _ _ := .unavailable he
      simpa [recording, hready, Link.settle, he] using hcourse
    | true =>
      have hcourse : d.Course (m := m) [.available (.error e)] _ _ _ :=
        .notReady (by simp [Link.settle, he])
      simpa [recording, hready, Link.settle, he] using hcourse
  | ok b =>
    cases b with
    | false =>
      have hcourse : d.Course (m := m) [.available (.ok false)] _ _ _ := .notReady rfl
      simpa [recording, hready, Link.settle] using hcourse
    | true =>
      cases frame with
      | error e =>
        cases he : e.isWouldBlock with
        | false =>
          have hcourse : d.Course (m := m) _ _ _ _ := .unreadable he
          simpa [recording, hready, hframe, Link.settle, Except.map, he] using hcourse
        | true =>
          have hcourse : d.Course (m := m) _ _ _ _ := .nothing he
          simpa [recording, hready, hframe, Link.settle, Except.map, he] using hcourse
      | ok f =>
        have hid := (d.registry.header_handle f).1
        have hregistered := d.registry.isSome_delivery_handle f
        rcases hwrite : (Link.write link' (d.registry.handle f).val.reply).val with
          ⟨written, link''⟩
        cases written with
        | ok _ =>
          have hcourse := Course.answered (d := d) f
          unfold Handled.polled at hcourse
          cases hdelivery : (d.registry.handle f).val.delivery <;>
            simpa [recording, hready, hframe, Link.settle, Except.map, answer, reply, hdelivery,
              hwrite] using hcourse
        | error e =>
          have hcourse := Course.unanswered (d := d) f e
          rw [← hregistered] at hcourse
          cases hdelivery : (d.registry.handle f).val.delivery <;>
            simpa [recording, hready, hframe, Link.settle, Except.map, answer, reply, hdelivery,
              hwrite, hid] using hcourse

end Dispatcher

/-- A poll of a run: the registry that it finds, the calls that it makes and its answer. -/
structure Visit (σ : Type) (m : Nat) where
  registry : Registry σ
  calls : List (LinkCall m)
  answer : Except DispatchError Polled

namespace Visit
variable {σ : Type} {m : Nat}

@[simp] def isDelivered (v : Visit σ m) : Bool :=
  match v.answer with
  | .ok (.delivered ..) => true
  | _ => false

@[simp] def isUnknown (v : Visit σ m) : Bool :=
  match v.answer with
  | .error (.unknownIdentifier _) => true
  | _ => false

/-- The failed writes of replies for registered identifiers. -/
@[simp] def lostReplies (v : Visit σ m) : List (LinkCall m) :=
  v.calls.filter (·.losesReply v.registry)

end Visit

/-- A frame that is not given to a handler has no result. -/
theorem Registry.result_handle {σ : Type} [Behaviour σ] {m : Nat} (r : Registry σ) (f : Frame m) :
    match (r.handle f).val.delivery with
    | some (.accepted _) | some .unreliable => True
    | _ => (r.handle f).val.result = none := by
  have hcase := r.handle_cases f
  generalize (r.handle f).val = x at hcase ⊢
  cases hcase with
  | unknown | duplicate => rfl
  | unreliable | accepted => trivial

namespace Counters

/-- Each frame is counted under one kind; handlers fail, and sessions end, only on frames that the
handlers were given. -/
structure Balanced (c : Counters) : Prop where
  kinds : c.framesReceived = c.accepted + c.duplicates + c.unreliable + c.unknown
  failed : c.handlerErrors ≤ c.accepted + c.unreliable
  ended : c.sessionResets ≤ c.accepted

theorem Balanced.start : ({} : Counters).Balanced := ⟨rfl, Nat.le_refl 0, Nat.le_refl 0⟩

theorem Balanced.countLinkError {c : Counters} (h : c.Balanced) : c.countLinkError.Balanced :=
  ⟨h.kinds, h.failed, h.ended⟩

variable {σ : Type} {m : Nat}

theorem framesReceived_countFrame (c : Counters) (h : Handled σ m) :
    (c.countFrame h).framesReceived = c.framesReceived + 1 := by
  unfold countFrame countDelivery
  dsimp only
  split <;> split <;> split <;> rfl

theorem sessionResets_countFrame (c : Counters) (h : Handled σ m) :
    (c.countFrame h).sessionResets =
      c.sessionResets + if isSessionReset h.reply.id h.delivery h.result then 1 else 0 := by
  unfold countFrame countDelivery
  dsimp only
  split <;> split <;> split <;> rfl

theorem Balanced.countFrame [Behaviour σ] {c : Counters} (hc : c.Balanced) (r : Registry σ)
    (f : Frame m) : (c.countFrame (r.handle f).val).Balanced := by
  have hresult := r.result_handle f
  obtain ⟨hkinds, hfailed, hended⟩ := hc
  generalize (r.handle f).val = h at hresult
  unfold Counters.countFrame countDelivery
  rcases hdelivery : h.delivery with _ | _ | ack | ack
  · simp only [hdelivery] at hresult
    constructor <;> simp [hresult, isHandlerError, isSessionReset] <;> omega
  · cases herror : isHandlerError h.result <;>
      constructor <;> simp [isSessionReset] <;> omega
  · cases herror : isHandlerError h.result <;>
      cases hreset : isSessionReset h.reply.id (some (.accepted ack)) h.result <;>
        constructor <;> simp <;> omega
  · simp only [hdelivery] at hresult
    constructor <;> simp [hresult, isHandlerError, isSessionReset] <;> omega

end Counters

theorem Exchange.restarts_eq {σ : Type} [Behaviour σ] {m : Nat} (r : Registry σ) (f : Frame m) :
    Exchange.restarts ⟨f, (r.handle f).val⟩ =
      Counters.isSessionReset (r.handle f).val.reply.id (r.handle f).val.delivery
        (r.handle f).val.result := by
  rw [(r.header_handle f).1]
  unfold restarts isAccepted Counters.isSessionReset Handled.outcome
  rcases (r.handle f).val.delivery with _ | _ | ack | ack
  · rfl
  · rfl
  · rcases (r.handle f).val.result with _ | e | _ | _ <;> simp [Outcome.ofResult]
  · rfl

/-- From `c` to `c'` the counters have counted what happened on the visits and the frames that were
exchanged. -/
structure Tallies {σ : Type} {m : Nat} (c c' : Counters) (visits : List (Visit σ m))
    (xs : List (Exchange σ m)) : Prop where
  writes : c'.framesReceived =
    c.framesReceived + (visits.flatMap Visit.calls).countP LinkCall.isWrite
  failures : c'.linkErrors = c.linkErrors + (visits.flatMap Visit.calls).countP LinkCall.isFailure
  answers : c'.framesReceived = c.framesReceived + visits.countP Visit.isDelivered +
    visits.countP Visit.isUnknown + (visits.flatMap Visit.lostReplies).length
  ended : c'.sessionResets = c.sessionResets + xs.countP Exchange.restarts
  framesReceived_le : c'.framesReceived ≤ c.framesReceived + visits.length
  linkErrors_le : c'.linkErrors ≤ c.linkErrors + visits.length

namespace Tallies
variable {σ : Type} {m : Nat} {c c' c'' : Counters} {visits visits' : List (Visit σ m)}
  {xs xs' : List (Exchange σ m)}

theorem nothing (c : Counters) : Tallies c c ([] : List (Visit σ m)) [] := by
  constructor <;> simp

theorem trans (h : Tallies c c' visits xs) (h' : Tallies c' c'' visits' xs') :
    Tallies c c'' (visits ++ visits') (xs ++ xs') where
  writes := by
    rw [h'.writes, h.writes, List.flatMap_append, List.countP_append, Nat.add_assoc]
  failures := by
    rw [h'.failures, h.failures, List.flatMap_append, List.countP_append, Nat.add_assoc]
  answers := by
    rw [h'.answers, h.answers]
    simp only [List.flatMap_append, List.countP_append, List.length_append]
    omega
  ended := by rw [h'.ended, h.ended, List.countP_append, Nat.add_assoc]
  framesReceived_le := by
    rw [List.length_append]
    have := h.framesReceived_le
    have := h'.framesReceived_le
    omega
  linkErrors_le := by
    rw [List.length_append]
    have := h.linkErrors_le
    have := h'.linkErrors_le
    omega

end Tallies

namespace Dispatcher
variable {T σ : Type} {m : Nat} [Link T m] [Behaviour σ]

/-- The visit that a poll pays to its link. -/
def visit (d : Dispatcher T σ) : Visit σ m :=
  ⟨d.registry, d.recording.poll.val.2.link.calls, d.poll.val.1⟩

def visit? (d : Dispatcher T σ) : Operation T σ → Option (Visit σ m)
  | .poll link => some (visit { d with link })
  | _ => none

/-- The visits that the polls of a run pay, each with the link as it finds it. -/
def visits (d : Dispatcher T σ) : List (Operation T σ) → List (Visit σ m)
  | [] => []
  | o :: rest => (d.visit? o).toList ++ (d.perform o).val.visits rest

omit [Link T m] in
/-- What the courses of a poll have in common. -/
theorem Course.tallies {d : Dispatcher T σ} {calls : List (LinkCall m)} {frame : Option (Frame m)}
    {answer : Except DispatchError Polled} {c : Counters} (h : d.Course calls frame answer c) :
    Tallies d.counters c [⟨d.registry, calls, answer⟩]
      (frame.toList.map fun f => ⟨f, (d.registry.handle f).val⟩) := by
  cases h with
  | @notReady answer h =>
    have hcalm : (LinkCall.available answer : LinkCall m).isFailure = false := by
      cases answer with
      | ok b => rfl
      | error e => cases he : e.isWouldBlock <;> simp_all [Link.settle]
    constructor
    case failures => simp [-LinkCall.isFailure, hcalm]
    all_goals simp
  | unavailable h | unreadable h => constructor <;> simp [Counters.countLinkError, h]
  | nothing h => constructor <;> simp [h]
  | answered f =>
    constructor
    case answers =>
      unfold Handled.polled
      cases (d.registry.handle f).val.delivery <;> simp [Counters.framesReceived_countFrame]
    all_goals simp [Counters.framesReceived_countFrame, Counters.sessionResets_countFrame,
      Exchange.restarts_eq, List.countP_cons]
  | unanswered f e =>
    have hid := (d.registry.header_handle f).1
    constructor
    case answers =>
      cases hregistered : d.registry.handlers.contains f.id <;>
        simp [Counters.countLinkError, Counters.framesReceived_countFrame, hid, hregistered]
    all_goals simp [Counters.countLinkError, Counters.framesReceived_countFrame,
      Counters.sessionResets_countFrame, Exchange.restarts_eq, List.countP_cons]

omit [Link T m] in
theorem Course.balanced {d : Dispatcher T σ} {calls : List (LinkCall m)} {frame : Option (Frame m)}
    {answer : Except DispatchError Polled} {c : Counters} (h : d.Course calls frame answer c)
    (hd : d.counters.Balanced) : c.Balanced := by
  cases h with
  | notReady | nothing => exact hd
  | unavailable | unreadable => exact hd.countLinkError
  | answered f => exact hd.countFrame d.registry f
  | unanswered f e => exact (hd.countFrame d.registry f).countLinkError

/-- What an operation counts; only polls count anything. -/
theorem tallies_perform (d : Dispatcher T σ) (o : Operation T σ) :
    Tallies d.counters (d.perform o).val.counters (d.visit? o).toList (d.exchange? o).toList := by
  cases o with
  | poll link =>
    have hcourse := (course_poll { d with link }).tallies
    have hexchange : (d.exchange? (.poll link)).toList =
        (incoming? { d with link }).toList.map fun f => ⟨f, (d.registry.handle f).val⟩ := by
      cases hincoming : incoming? { d with link } <;> simp [exchange?, hincoming]
    rw [hexchange]
    exact hcourse
  | register _ | deregister _ | enqueue _ | drain | replaceLink _ => exact .nothing d.counters

theorem balanced_perform {d : Dispatcher T σ} (hd : d.counters.Balanced) (o : Operation T σ) :
    (d.perform o).val.counters.Balanced := by
  cases o with
  | poll link => exact (course_poll { d with link }).balanced hd
  | register _ | deregister _ | enqueue _ | drain | replaceLink _ => exact hd

theorem tallies_run (d : Dispatcher T σ) (ops : List (Operation T σ)) :
    Tallies d.counters (d.run ops).val.counters (d.visits ops) (d.history ops) := by
  induction ops generalizing d with
  | nil => exact .nothing d.counters
  | cons o ops ih => exact (d.tallies_perform o).trans (ih (d.perform o).val)

theorem balanced_run {d : Dispatcher T σ} (hd : d.counters.Balanced) (ops : List (Operation T σ)) :
    (d.run ops).val.counters.Balanced := by
  induction ops generalizing d with
  | nil => exact hd
  | cons o ops ih => exact ih (balanced_perform hd o)

/-- From the start the counters account for every frame and for every failure. Frames received are
those counted under the four kinds, the replies that were offered to the link, and the polls that
reported a delivery, an unknown identifier or the loss of a reply. No counter exceeds the number of
polls. -/
theorem counters_account (link : T) (h : Handler σ) (ops : List (Operation T σ)) :
    let start := (startingWith link h).val
    let c := (start.run ops).val.counters
    let visits := start.visits ops
    let calls := visits.flatMap Visit.calls
    c.framesReceived = c.accepted + c.duplicates + c.unreliable + c.unknown ∧
    c.framesReceived = calls.countP LinkCall.isWrite ∧
    c.linkErrors = calls.countP LinkCall.isFailure ∧
    c.framesReceived = visits.countP Visit.isDelivered + visits.countP Visit.isUnknown +
      (visits.flatMap Visit.lostReplies).length ∧
    c.handlerErrors ≤ c.accepted + c.unreliable ∧
    c.sessionResets = (start.history ops).countP Exchange.restarts ∧
    ∀ row ∈ c.rows, row.2 ≤ visits.length := by
  intro start c visits calls
  have hbalanced : c.Balanced := balanced_run .start ops
  have htallies : Tallies {} c visits (start.history ops) := start.tallies_run ops
  have hframes := htallies.framesReceived_le
  have hkinds := hbalanced.kinds
  refine ⟨hkinds, ?_, ?_, ?_, hbalanced.failed, ?_, ?_⟩
  · rw [htallies.writes, Nat.zero_add]
  · rw [htallies.failures, Nat.zero_add]
  · rw [htallies.answers, Nat.zero_add]
  · rw [htallies.ended, Nat.zero_add]
  · have hfailed := hbalanced.failed
    have hended := hbalanced.ended
    have herrors := htallies.linkErrors_le
    rw [Nat.zero_add] at hframes herrors
    intro row hrow
    simp only [Counters.rows, List.mem_cons, List.not_mem_nil, or_false] at hrow
    rcases hrow with rfl | rfl | rfl | rfl | rfl | rfl | rfl | rfl <;> dsimp only <;> omega

end Dispatcher

end AltBit

import AltBit.Link.Memory
import Mathlib.Data.List.Basic
import Mathlib.Data.List.Induction

/-!
In-memory links are queues whose operations can be made to fail once. Over any run of calls the
frames that were pushed are, in order, those that a read has taken off and those still waiting; the
frames that were written are those that have been collected and those still in the log. An operation
is made to fail exactly if that was asked for since the last operation of its kind, and the last
demand counts.
-/
namespace AltBit.Link.Memory

/-- The operations of a link, each of which can be made to fail. -/
inductive Kind where
  | poll
  | read
  | write

/-- What can be done with an in-memory link. -/
inductive Call (m : Nat) where
  | push (f : Frame m)
  | available
  | read
  | write (f : Frame m)
  | takeOutbound
  | failNext (kind : Kind) (reason : String)
  | reportWouldBlock (enabled : Bool)

/-- What comes of a call. -/
inductive Answer (m : Nat) where
  | done
  | ready (isReady : Bool)
  | frame (f : Frame m)
  | batch (fs : List (Frame m))
  | failed (e : LinkError)

variable {m : Nat} {t : Memory m} {c : Call m} {kind : Kind} {reason : String}

def Answer.ofResult {α : Type} (onOk : α → Answer m) : Except LinkError α → Answer m
  | .ok a => onOk a
  | .error e => .failed e

/-- The frame that a call is to queue for reading. -/
def Call.pushed? : Call m → Option (Frame m)
  | push f => some f
  | _ => none

/-- The kind of operation that a call is, if it is one. -/
def Call.kind? : Call m → Option Kind
  | available => some .poll
  | read => some .read
  | write _ => some .write
  | _ => none

/-- The call is an operation of this kind, or asks for the failure of one. -/
def Call.Concerns (c : Call m) (kind : Kind) : Prop :=
  c.kind? = some kind ∨ ∃ reason, c = .failNext kind reason

/-- The failure that the next operation of a kind will have. -/
def fault? (t : Memory m) : Kind → Option String
  | .poll => t.pollFault
  | .read => t.readFault
  | .write => t.writeFault

def failNext (t : Memory m) (reason : String) : Kind → Memory m
  | .poll => t.failNextPoll reason
  | .read => t.failNextRead reason
  | .write => t.failNextWrite reason

@[simp] theorem inbound_failNext (t : Memory m) (reason : String) (kind : Kind) :
    (t.failNext reason kind).inbound = t.inbound := by
  cases kind <;> rfl

@[simp] theorem outbound_failNext (t : Memory m) (reason : String) (kind : Kind) :
    (t.failNext reason kind).outbound = t.outbound := by
  cases kind <;> rfl

def call (t : Memory m) : Call m → Answer m × Memory m
  | .push f => (.done, t.push f)
  | .available => (.ofResult .ready t.available.1, t.available.2)
  | .read => (.ofResult .frame t.read.1, t.read.2)
  | .write f => (.ofResult (fun _ => .done) (t.write f).1, (t.write f).2)
  | .takeOutbound => (.batch t.takeOutbound.1, t.takeOutbound.2)
  | .failNext kind reason => (.done, t.failNext reason kind)
  | .reportWouldBlock enabled => (.done, { t with reportWouldBlock := enabled })

/-- The answer of a call that is not made to fail. -/
def undisturbed (t : Memory m) : Call m → Answer m
  | .available =>
    if t.inbound.isEmpty && t.reportWouldBlock then .failed .wouldBlock
    else .ready !t.inbound.isEmpty
  | .read => (t.inbound.head?.map .frame).getD (.failed .wouldBlock)
  | .takeOutbound => .batch t.outbound
  | _ => .done

/-- All that a call can do. -/
inductive CallCase (t : Memory m) : Call m → Answer m × Memory m → Prop
  | push (f : Frame m) : CallCase t (.push f) (.done, { t with inbound := t.inbound ++ [f] })
  | takeOutbound : CallCase t .takeOutbound (.batch t.outbound, { t with outbound := [] })
  | failNext (kind : Kind) (reason : String) :
    CallCase t (.failNext kind reason) (.done, t.failNext reason kind)
  | reportWouldBlock (enabled : Bool) :
    CallCase t (.reportWouldBlock enabled) (.done, { t with reportWouldBlock := enabled })
  | pollFails {reason : String} (hfault : t.pollFault = some reason) :
    CallCase t .available (.failed (.injected reason), { t with pollFault := none })
  | blocked (hfault : t.pollFault = none) (hblocks : t.inbound.isEmpty && t.reportWouldBlock) :
    CallCase t .available (.failed .wouldBlock, t)
  | polled (hfault : t.pollFault = none) (hblocks : ¬(t.inbound.isEmpty && t.reportWouldBlock)) :
    CallCase t .available (.ready !t.inbound.isEmpty, t)
  | readFails {reason : String} (hfault : t.readFault = some reason) :
    CallCase t .read (.failed (.injected reason),
      { t with readFault := none, inbound := t.inbound.tail })
  | nothingRead (hfault : t.readFault = none) (hinbound : t.inbound = []) :
    CallCase t .read (.failed .wouldBlock, t)
  | returned {f : Frame m} {rest : List (Frame m)} (hfault : t.readFault = none)
      (hinbound : t.inbound = f :: rest) : CallCase t .read (.frame f, { t with inbound := rest })
  | writeFails (f : Frame m) {reason : String} (hfault : t.writeFault = some reason) :
    CallCase t (.write f) (.failed (.injected reason), { t with writeFault := none })
  | written (f : Frame m) (hfault : t.writeFault = none) :
    CallCase t (.write f) (.done, { t with outbound := t.outbound ++ [f] })

theorem call_cases (t : Memory m) (c : Call m) : CallCase t c (t.call c) := by
  cases c with
  | push f => exact .push f
  | takeOutbound => exact .takeOutbound
  | failNext kind reason => exact .failNext kind reason
  | reportWouldBlock enabled => exact .reportWouldBlock enabled
  | available =>
    cases hfault : t.pollFault with
    | some reason => simpa [call, available, hfault, Answer.ofResult] using .pollFails hfault
    | none =>
      by_cases hblocks : t.inbound.isEmpty && t.reportWouldBlock
      · simpa [call, available, hfault, hblocks, Answer.ofResult] using .blocked hfault hblocks
      · simpa [call, available, hfault, hblocks, Answer.ofResult] using .polled hfault hblocks
  | read =>
    cases hfault : t.readFault with
    | some reason => simpa [call, read, hfault, Answer.ofResult] using .readFails hfault
    | none =>
      cases hinbound : t.inbound with
      | nil =>
        simpa [call, read, hfault, hinbound, Answer.ofResult] using .nothingRead hfault hinbound
      | cons f rest =>
        have hread : t.read = (.ok f, { t with inbound := rest }) := by
          simp [read, hfault, hinbound]
        unfold call
        rw [hread]
        exact .returned hfault hinbound
  | write f =>
    cases hfault : t.writeFault with
    | some reason => simpa [call, write, hfault, Answer.ofResult] using .writeFails f hfault
    | none =>
      have hwrite : t.write f = (.ok (), { t with outbound := t.outbound ++ [f] }) := by
        simp [write, hfault]
      unfold call
      dsimp only
      rw [hwrite]
      exact .written f hfault

/-- An operation is made to fail exactly if its failure has been asked for. -/
theorem call_injected_iff : (t.call c).1 = .failed (.injected reason) ↔
    ∃ kind, c.kind? = some kind ∧ t.fault? kind = some reason := by
  have hcase := t.call_cases c
  generalize t.call c = x at hcase ⊢
  cases hcase <;> simp_all [Call.kind?, fault?]

/-- Otherwise the call is not disturbed. -/
theorem call_undisturbed (h : ∀ kind, c.kind? = some kind → t.fault? kind = none) :
    (t.call c).1 = t.undisturbed c := by
  have hcase := t.call_cases c
  generalize t.call c = x at hcase ⊢
  cases hcase <;> simp_all [Call.kind?, fault?, undisturbed]

/-- A call on a link in a given state. -/
structure Step (m : Nat) where
  link : Memory m
  call : Call m

namespace Step
variable (s : Step m)

def answer : Answer m := (s.link.call s.call).1

def next : Memory m := (s.link.call s.call).2

/-- The frame that a read returns. -/
def returned? : Option (Frame m) :=
  match s.answer with
  | .frame f => some f
  | _ => none

/-- The frame that a failed read costs: the one in front. -/
def lost? : Option (Frame m) :=
  match s.call, s.answer with
  | .read, .failed _ => s.link.inbound.head?
  | _, _ => none

/-- The frame that is written with success. -/
def sent? : Option (Frame m) :=
  match s.call, s.answer with
  | .write f, .done => some f
  | _, _ => none

/-- The frames that are collected from the log. -/
def batch? : Option (List (Frame m)) :=
  match s.answer with
  | .batch fs => some fs
  | _ => none

/-- A frame that leaves the queue is the one in front; one that enters it goes behind all others. -/
theorem inbound_next : s.link.inbound ++ s.call.pushed?.toList =
    (s.returned?.or s.lost?).toList ++ s.next.inbound := by
  obtain ⟨t, c⟩ := s
  have hcase := t.call_cases c
  unfold returned? lost? answer next
  dsimp only
  generalize t.call c = x at hcase ⊢
  cases hcase with
  | readFails hfault => cases hinbound : t.inbound <;> simp [Call.pushed?]
  | _ => simp_all [Call.pushed?]

/-- A frame that is written goes behind all others in the log, which is collected whole. -/
theorem outbound_next : s.link.outbound ++ s.sent?.toList =
    s.batch?.toList.flatten ++ s.next.outbound := by
  obtain ⟨t, c⟩ := s
  have hcase := t.call_cases c
  unfold sent? batch? answer next
  dsimp only
  generalize t.call c = x at hcase ⊢
  cases hcase <;> simp_all

end Step

/-! Runs of calls. -/

/-- The link after a run of calls. -/
def after (t : Memory m) (calls : List (Call m)) : Memory m :=
  calls.foldl (fun t c => (t.call c).2) t

/-- The steps of a run of calls. -/
def steps (t : Memory m) : List (Call m) → List (Step m)
  | [] => []
  | c :: calls => ⟨t, c⟩ :: (t.call c).2.steps calls

theorem link_of_steps_eq {calls : List (Call m)} {before later : List (Step m)} {s : Step m}
    (h : t.steps calls = before ++ s :: later) : s.link = t.after (before.map Step.call) := by
  induction before generalizing t calls with
  | nil =>
    cases calls with
    | nil => cases h
    | cons c calls =>
      obtain ⟨rfl, -⟩ := List.cons.inj h
      rfl
  | cons b before ih =>
    cases calls with
    | nil => cases h
    | cons c calls =>
      obtain ⟨rfl, hrest⟩ := List.cons.inj h
      exact ih hrest

theorem map_call_steps (t : Memory m) (calls : List (Call m)) :
    (t.steps calls).map Step.call = calls := by
  induction calls generalizing t with
  | nil => rfl
  | cons c calls ih => exact congrArg (c :: ·) (ih _)

/-- No frame is lost, repeated or overtaken between the queue and the reads. -/
theorem inbound_after (t : Memory m) (calls : List (Call m)) :
    t.inbound ++ calls.filterMap Call.pushed? =
      (t.steps calls).filterMap (fun s => s.returned?.or s.lost?) ++ (t.after calls).inbound := by
  induction calls generalizing t with
  | nil => simp [steps, after]
  | cons c calls ih =>
    let s : Step m := ⟨t, c⟩
    have hsteps : t.steps (c :: calls) = s :: s.next.steps calls := rfl
    have hstep : t.inbound ++ c.pushed?.toList =
      (s.returned?.or s.lost?).toList ++ s.next.inbound := s.inbound_next
    have hrest := ih s.next
    simp only [hsteps, List.filterMap_eq_flatMap_toList, List.flatMap_cons] at hrest ⊢
    rw [← List.append_assoc, hstep, List.append_assoc, hrest, List.append_assoc]
    rfl

/-- No frame is lost, repeated or overtaken between the writes and the log. -/
theorem outbound_after (t : Memory m) (calls : List (Call m)) :
    t.outbound ++ (t.steps calls).filterMap Step.sent? =
      ((t.steps calls).filterMap Step.batch?).flatten ++ (t.after calls).outbound := by
  induction calls generalizing t with
  | nil => simp [steps, after]
  | cons c calls ih =>
    let s : Step m := ⟨t, c⟩
    have hsteps : t.steps (c :: calls) = s :: s.next.steps calls := rfl
    have hstep : t.outbound ++ s.sent?.toList = s.batch?.toList.flatten ++ s.next.outbound :=
      s.outbound_next
    have hrest := ih s.next
    simp only [hsteps, List.filterMap_eq_flatMap_toList, List.flatMap_cons, List.flatten_append]
      at hrest ⊢
    rw [← List.append_assoc, hstep, List.append_assoc, hrest, List.append_assoc]
    rfl

/-! Failures that have been asked for. -/

/-- The next operation of this kind is to fail: that has been asked for, and since then there was
neither such an operation nor another demand. -/
def Due (kind : Kind) (reason : String) (calls : List (Call m)) : Prop :=
  ∃ earlier since, calls = earlier ++ .failNext kind reason :: since ∧
    ∀ c ∈ since, ¬c.Concerns kind

theorem due_concat_iff {calls : List (Call m)} : Due kind reason (calls ++ [c]) ↔
    c = .failNext kind reason ∨ ¬c.Concerns kind ∧ Due kind reason calls := by
  constructor
  · rintro ⟨earlier, since, heq, hsince⟩
    rcases List.eq_nil_or_concat' since with rfl | ⟨since, d, rfl⟩
    · obtain ⟨-, hlast⟩ := List.append_inj' heq rfl
      exact .inl (List.singleton_inj.mp hlast)
    · rw [← List.cons_append, ← List.append_assoc] at heq
      obtain ⟨hcalls, hlast⟩ := List.append_inj' heq rfl
      obtain rfl := List.singleton_inj.mp hlast
      refine .inr ⟨hsince c (by simp), earlier, since, hcalls, fun d hd => ?_⟩
      exact hsince d (List.mem_append_left _ hd)
  · rintro (rfl | ⟨hc, earlier, since, rfl, hsince⟩)
    · exact ⟨calls, [], rfl, by simp⟩
    · refine ⟨earlier, since ++ [c], by simp, fun d hd => ?_⟩
      rcases List.mem_append.mp hd with hd | hd
      · exact hsince d hd
      · rwa [List.mem_singleton.mp hd]

/-- What a call does to the failures asked for. -/
theorem fault?_call_eq_some_iff : (t.call c).2.fault? kind = some reason ↔
    c = .failNext kind reason ∨ ¬c.Concerns kind ∧ t.fault? kind = some reason := by
  have hcase := t.call_cases c
  unfold Call.Concerns
  generalize t.call c = x at hcase ⊢
  cases hcase with
  | failNext asked why =>
    cases asked <;> cases kind <;>
      simp [Call.kind?, fault?, failNext, failNextPoll, failNextRead, failNextWrite]
  | _ => cases kind <;> simp_all [Call.kind?, fault?]

theorem fault?_after_iff {calls : List (Call m)} :
    (({} : Memory m).after calls).fault? kind = some reason ↔ Due kind reason calls := by
  induction calls using List.reverseRecOn with
  | nil =>
    constructor
    · cases kind <;> exact nofun
    · rintro ⟨earlier, since, heq, -⟩
      cases earlier <;> cases heq
  | append_singleton calls c ih =>
    have hafter : ({} : Memory m).after (calls ++ [c]) = ((({} : Memory m).after calls).call c).2 :=
      List.foldl_concat ..
    rw [hafter, fault?_call_eq_some_iff, due_concat_iff, ih]

/-- In any run of calls on a fresh link, the frames pushed are those that reads returned or, by
failing, lost, and then those still waiting; the frames written are those collected, and then those
still in the log; an operation is made to fail exactly if a failure of its kind is due, and any
other call does what it does on a link without failures. -/
theorem queue_with_single_faults (calls : List (Call m)) :
    let steps := ({} : Memory m).steps calls
    let last := ({} : Memory m).after calls
    steps.map Step.call = calls ∧
    calls.filterMap Call.pushed? =
      steps.filterMap (fun s => s.returned?.or s.lost?) ++ last.inbound ∧
    steps.filterMap Step.sent? = (steps.filterMap Step.batch?).flatten ++ last.outbound ∧
    ∀ before s later, steps = before ++ s :: later →
      (∀ reason, s.answer = .failed (.injected reason) ↔
        ∃ kind, s.call.kind? = some kind ∧ Due kind reason (before.map Step.call)) ∧
      ((∀ kind reason, s.call.kind? = some kind → ¬Due kind reason (before.map Step.call)) →
        s.answer = s.link.undisturbed s.call) := by
  intro steps last
  refine ⟨map_call_steps .., ?_, ?_, fun before s later heq => ?_⟩
  · simpa using inbound_after ({} : Memory m) calls
  · simpa using outbound_after ({} : Memory m) calls
  · have hlink : s.link = ({} : Memory m).after (before.map Step.call) := link_of_steps_eq heq
    have hfault : ∀ kind reason, s.link.fault? kind = some reason ↔
        Due kind reason (before.map Step.call) := by
      intro kind reason
      rw [hlink]
      exact fault?_after_iff
    constructor
    · intro reason
      unfold Step.answer
      simp only [call_injected_iff, hfault]
    · intro hnone
      refine call_undisturbed fun kind hkind => Option.eq_none_iff_forall_ne_some.mpr ?_
      exact fun reason hdue => hnone kind reason hkind ((hfault kind reason).mp hdue)

/-- A failure asked for twice, while there is nothing to read. -/
example (f : Frame m) : (({} : Memory m).steps [.failNext .read "first", .failNext .read "second",
    .read, .push f, .read]).map Step.answer =
      [.done, .done, .failed (.injected "second"), .done, .frame f] := rfl

end AltBit.Link.Memory

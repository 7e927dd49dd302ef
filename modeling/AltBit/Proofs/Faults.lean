import AltBit.Proofs.Answering

/-!
Failures of an in-memory link. A run may push frames, ask for failures and poll in any order. What
it does to registry, handlers and counters is what the frames do that were read; a failure costs the
frame or the reply that it hits, is counted once and shows in the answer of its poll.
-/
namespace AltBit

/-- A poll, or something done to the link from outside. -/
inductive Move (m : Nat) where
  | push (f : Frame m)
  | failNextPoll (reason : String)
  | failNextRead (reason : String)
  | failNextWrite (reason : String)
  | reportWouldBlock (enabled : Bool)
  | poll

/-- A frame that a poll has read, and whether the reply to it was lost. -/
structure Intake (m : Nat) where
  frame : Frame m
  lost : Bool

namespace Intake
variable {m : Nat}

/-- The replies that were written, given those to all frames that were read. -/
def kept (taken : List (Intake m)) (replies : List (Frame m)) : List (Frame m) :=
  ((taken.zip replies).filter fun x => !x.1.lost).map Prod.snd

theorem kept_append {taken : List (Intake m)} {replies : List (Frame m)}
    (h : taken.length = replies.length) (taken' : List (Intake m)) (replies' : List (Frame m)) :
    kept (taken ++ taken') (replies ++ replies') = kept taken replies ++ kept taken' replies' := by
  simp [kept, List.zip_append h]

end Intake

namespace Dispatcher
variable {σ : Type} [Behaviour σ] {m : Nat} {d : Dispatcher (Link.Memory m) σ}

def makeMove (d : Dispatcher (Link.Memory m) σ) : Move m → Traced (Dispatcher (Link.Memory m) σ)
  | .push f => pure { d with link := d.link.push f }
  | .failNextPoll reason => pure { d with link := d.link.failNextPoll reason }
  | .failNextRead reason => pure { d with link := d.link.failNextRead reason }
  | .failNextWrite reason => pure { d with link := d.link.failNextWrite reason }
  | .reportWouldBlock enabled => pure { d with link := { d.link with reportWouldBlock := enabled } }
  | .poll => do
    let (_, d) ← d.poll
    pure d

def play (d : Dispatcher (Link.Memory m) σ) :
    List (Move m) → Traced (Dispatcher (Link.Memory m) σ)
  | [] => pure d
  | a :: moves => do
    let d ← d.makeMove a
    d.play moves

/-- The frame that a move reads, if it is a poll that gets one. -/
def intake? (d : Dispatcher (Link.Memory m) σ) : Move m → Option (Intake m)
  | .poll => d.incoming?.map fun f => ⟨f, d.link.writeFault.isSome⟩
  | _ => none

/-- The frames that the polls of a run read. -/
def intakes (d : Dispatcher (Link.Memory m) σ) : List (Move m) → List (Intake m)
  | [] => []
  | a :: moves => (d.intake? a).toList ++ (d.makeMove a).val.intakes moves

/-- The number of failures that a poll makes happen: they are not asked for any more. -/
def firedBy (d : Dispatcher (Link.Memory m) σ) : Move m → Nat
  | .poll => d.link.armed.length - d.poll.val.2.link.armed.length
  | _ => 0

theorem firedBy_poll (d : Dispatcher (Link.Memory m) σ) :
    d.firedBy .poll = d.link.armed.length - d.poll.val.2.link.armed.length := rfl

/-- The number of failures that happen in a run. -/
def fired (d : Dispatcher (Link.Memory m) σ) : List (Move m) → Nat
  | [] => 0
  | a :: moves => d.firedBy a + (d.makeMove a).val.fired moves

/-- From `d` to `d'` frames were read and answered, some replies were lost, and failures
happened. -/
structure Account (d d' : Dispatcher (Link.Memory m) σ) (events : List Event)
    (taken : List (Intake m)) (fired : Nat) : Prop where
  registry : d'.registry = (d.registry.handleAll (taken.map Intake.frame)).val.2
  calls : handlerCalls events =
    handlerCalls (d.registry.handleAll (taken.map Intake.frame)).events
  counters : d'.counters =
    (d.counters.countFrames (d.registry.handleAll (taken.map Intake.frame)).val.1).withLinkErrors
      (d.counters.linkErrors + fired)
  outbound : d'.link.outbound = d.link.outbound ++ Intake.kept taken
    ((d.registry.handleAll (taken.map Intake.frame)).val.1.map Handled.reply)

namespace Account
variable {d' d'' : Dispatcher (Link.Memory m) σ} {events events' : List Event}
  {taken taken' : List (Intake m)} {n n' : Nat}

/-- A failure that hits no frame, or none at all. -/
theorem ofUntaken (hregistry : d'.registry = d.registry) (hcalls : handlerCalls events = [])
    (hcounters : d'.counters = d.counters.withLinkErrors (d.counters.linkErrors + n))
    (houtbound : d'.link.outbound = d.link.outbound) : Account d d' events [] n where
  registry := hregistry
  calls := hcalls
  counters := hcounters
  outbound := by rw [houtbound, Intake.kept, List.zip_nil_left]; simp

theorem trans (h : Account d d' events taken n) (h' : Account d' d'' events' taken' n') :
    Account d d'' (events ++ events') (taken ++ taken') (n + n') where
  registry := by
    rw [h'.registry, h.registry, List.map_append, Registry.val_handleAll_append]
  calls := by
    rw [handlerCalls_append, h.calls, h'.calls, h.registry, List.map_append,
      Registry.events_handleAll_append, handlerCalls_append]
  counters := by
    rw [h'.counters, h.counters, h.registry, List.map_append, Registry.val_handleAll_append,
      Counters.countFrames_append, Counters.countFrames_withLinkErrors,
      Counters.withLinkErrors_withLinkErrors, Counters.linkErrors_withLinkErrors, Nat.add_assoc]
  outbound := by
    have hlength : taken.length =
        ((d.registry.handleAll (taken.map Intake.frame)).val.1.map Handled.reply).length := by
      simp [Registry.length_handleAll]
    rw [h'.outbound, h.outbound, h.registry, List.map_append, Registry.val_handleAll_append,
      List.map_append, Intake.kept_append hlength, List.append_assoc]

end Account

variable {f : Frame m} {rest : List (Frame m)} {reason : String}

omit [Behaviour σ] in
/-- A lost reply is an error of the link where a handler is registered. -/
theorem reply_of_writeFault (hwrite : d.link.writeFault = some reason) (h : Handled σ m) :
    (d.reply h).val = (if h.delivery.isSome then .error (.link (.injected reason))
          else .error (.unknownIdentifier h.reply.id),
        { d with
          link := { d.link with writeFault := none }
          counters := d.counters.countLinkError }) ∧
      handlerCalls (d.reply h).events = [] := by
  unfold reply
  cases h.delivery <;>
    simp [Link.write, Link.Memory.write, hwrite, handlerCalls, Event.isInvocation]

/-- What a poll that gets no frame does: it makes at most one failure happen. -/
theorem account_untaken (hintake : d.intake? .poll = none) :
    Account d d.poll.val.2 d.poll.events [] (d.firedBy .poll) := by
  rw [intake?, incoming?_memory] at hintake
  rw [firedBy_poll]
  cases hpoll : d.link.pollFault with
  | some reason =>
    obtain ⟨hval, hevents⟩ := poll_of_pollFault hpoll
    have hfired : d.link.armed.length =
        ({ d.link with pollFault := none } : Link.Memory m).armed.length + 1 := by
      simp [Link.Memory.armed, hpoll, Nat.add_comm]
    rw [hval, hevents, hfired, Nat.add_sub_cancel_left]
    exact .ofUntaken rfl rfl rfl rfl
  | none =>
    cases hinbound : d.link.inbound with
    | nil =>
      rw [poll_of_empty hpoll hinbound, Traced.val_pure, Nat.sub_self]
      exact .ofUntaken rfl rfl rfl rfl
    | cons f rest =>
      cases hread : d.link.readFault with
      | some reason =>
        obtain ⟨hval, hevents⟩ := poll_of_readFault hpoll hread hinbound
        have hfired : d.link.armed.length = ({ d.link with
            readFault := none, inbound := rest } : Link.Memory m).armed.length + 1 := by
          simp [Link.Memory.armed, hpoll, hread, Nat.add_comm]
        rw [hval, hevents, hfired, Nat.add_sub_cancel_left]
        exact .ofUntaken rfl rfl rfl rfl
      | none => simp [hpoll, hread, hinbound] at hintake

/-- The dispatcher that has taken `f` from its link, with `rest` behind it, and has yet to reply. -/
def answering (d : Dispatcher (Link.Memory m) σ) (f : Frame m) (rest : List (Frame m)) :
    Dispatcher (Link.Memory m) σ :=
  (d.withRequests rest).handled (d.registry.handle f).val

@[simp] theorem link_answering (d : Dispatcher (Link.Memory m) σ) (f : Frame m)
    (rest : List (Frame m)) : (d.answering f rest).link = { d.link with inbound := rest } := rfl

@[simp] theorem registry_answering (d : Dispatcher (Link.Memory m) σ) (f : Frame m)
    (rest : List (Frame m)) :
    (d.answering f rest).registry = (d.registry.handle f).val.registry := rfl

@[simp] theorem counters_answering (d : Dispatcher (Link.Memory m) σ) (f : Frame m)
    (rest : List (Frame m)) :
    (d.answering f rest).counters = d.counters.countFrame (d.registry.handle f).val := rfl

theorem poll_of_taken (hpoll : d.link.pollFault = none) (hread : d.link.readFault = none)
    (hinbound : d.link.inbound = f :: rest) :
    d.poll.val = ((d.answering f rest).reply (d.registry.handle f).val).val ∧
      d.poll.events = (d.registry.handle f).events ++
        ((d.answering f rest).reply (d.registry.handle f).val).events := by
  rw [poll_of_request hpoll hread hinbound, val_answer, events_answer]
  exact ⟨rfl, rfl⟩

/-- What a poll that reads a frame does: the frame is answered, and its reply written or lost. -/
theorem account_taken (hpoll : d.link.pollFault = none) (hread : d.link.readFault = none)
    (hinbound : d.link.inbound = f :: rest) :
    Account d d.poll.val.2 d.poll.events [⟨f, d.link.writeFault.isSome⟩] (d.firedBy .poll) := by
  let h := (d.registry.handle f).val
  let answered := d.answering f rest
  obtain ⟨hval, hevents⟩ : d.poll.val = (answered.reply h).val ∧
      d.poll.events = (d.registry.handle f).events ++ (answered.reply h).events :=
    poll_of_taken hpoll hread hinbound
  cases hwrite : d.link.writeFault with
  | none =>
    have hreply := reply_of_writable (d := answered) hwrite h
    have hfired : d.firedBy .poll = 0 := by
      rw [firedBy_poll, hval, hreply]
      exact Nat.sub_self _
    rw [hval, hevents, hfired, hreply]
    refine ⟨rfl, by simp, ?_, ?_⟩
    · exact (Counters.countFrames_withLinkErrors_self d.counters [h]).symm
    · simp [Intake.kept, answered, h]
  | some reason =>
    obtain ⟨hlost, hcalls⟩ := reply_of_writeFault (d := answered) hwrite h
    have hfired : d.firedBy .poll = 1 := by
      have harmed : d.link.armed.length =
          ({ answered.link with writeFault := none } : Link.Memory m).armed.length + 1 := by
        simp [Link.Memory.armed, answered, hwrite, Nat.add_assoc]
      rw [firedBy_poll, hval, hlost, harmed, Nat.add_sub_cancel_left]
    rw [hval, hevents, hfired, hlost]
    refine ⟨rfl, by simp [hcalls], ?_, ?_⟩
    · rw [Counters.countLinkError_eq]
      simp [answered]
    · simp [Intake.kept, answered]

/-- What any move does. -/
theorem account_makeMove (d : Dispatcher (Link.Memory m) σ) (a : Move m) :
    Account d (d.makeMove a).val (d.makeMove a).events (d.intake? a).toList (d.firedBy a) := by
  cases a with
  | poll =>
    have hmove : (d.makeMove .poll).val = d.poll.val.2 := rfl
    have hevents : (d.makeMove .poll).events = d.poll.events := by simp [makeMove]
    rw [hmove, hevents]
    cases hincoming : d.incoming? with
    | none =>
      have hintake : d.intake? .poll = none := by rw [intake?, hincoming, Option.map_none]
      rw [hintake]
      exact account_untaken hintake
    | some f =>
      rw [intake?, hincoming]
      rw [incoming?_memory] at hincoming
      split at hincoming
      · rename_i hfaults
        obtain ⟨rest, hinbound⟩ := List.head?_eq_some_iff.mp hincoming
        exact account_taken hfaults.1 hfaults.2 hinbound
      · cases hincoming
  | push _ | failNextPoll _ | failNextRead _ | failNextWrite _ | reportWouldBlock _ =>
    exact .ofUntaken rfl rfl rfl rfl

/-- What a run does. -/
theorem account_play (d : Dispatcher (Link.Memory m) σ) (moves : List (Move m)) :
    Account d (d.play moves).val (d.play moves).events (d.intakes moves) (d.fired moves) := by
  induction moves generalizing d with
  | nil => exact .ofUntaken rfl rfl rfl rfl
  | cons a moves ih => exact (account_makeMove d a).trans (ih (d.makeMove a).val)

/-- What a poll will answer, which frame it will read and which it will leave, told from the link
before it: a failed readiness check keeps the queue, a failed read drops the frame in front, and a
failed write is an error of the link only where a handler is registered. -/
def foretold (d : Dispatcher (Link.Memory m) σ) :
    Except DispatchError Polled × Option (Frame m) × List (Frame m) :=
  match d.link.pollFault, d.link.inbound, d.link.readFault with
  | some reason, inbound, _ => (.error (.link (.injected reason)), none, inbound)
  | none, [], _ => (.ok .idle, none, [])
  | none, _ :: rest, some reason => (.error (.link (.injected reason)), none, rest)
  | none, f :: rest, none =>
    match d.link.writeFault with
    | none => ((d.registry.handle f).val.polled, some f, rest)
    | some reason =>
      (if d.registry.handlers.contains f.id then .error (.link (.injected reason))
        else .error (.unknownIdentifier f.id), some f, rest)

theorem poll_eq_foretold (d : Dispatcher (Link.Memory m) σ) :
    (d.poll.val.1, d.incoming?, d.poll.val.2.link.inbound) = d.foretold := by
  rw [incoming?_memory, foretold]
  cases hpoll : d.link.pollFault with
  | some reason => simp [(poll_of_pollFault hpoll).1]
  | none =>
    cases hinbound : d.link.inbound with
    | nil => simp [poll_of_empty hpoll hinbound, hinbound]
    | cons f rest =>
      cases hread : d.link.readFault with
      | some reason => simp [(poll_of_readFault hpoll hread hinbound).1]
      | none =>
        let h := (d.registry.handle f).val
        let answered := d.answering f rest
        rw [(poll_of_taken hpoll hread hinbound).1]
        cases hwrite : d.link.writeFault with
        | none =>
          rw [reply_of_writable (d := answered) hwrite h]
          simp [answered, h]
        | some reason =>
          rw [(reply_of_writeFault (d := answered) hwrite h).1]
          simp [answered, h, Registry.isSome_delivery_handle,
            (d.registry.header_handle f).1]

/-- A run in which the link fails now and then calls the handlers, and leaves registry and counters,
as if only the frames that were read had ever been there; of the replies the lost ones are missing,
and every failure that happens is counted as a link error. -/
theorem play_as_undisturbed (d : Dispatcher (Link.Memory m) σ) (moves : List (Move m)) :
    let taken := d.intakes moves
    let undisturbed := (d.overMemory (taken.map Intake.frame)).polls taken.length
    let disturbed := d.play moves
    handlerCalls disturbed.events = handlerCalls undisturbed.events ∧
      disturbed.val.registry = undisturbed.val.2.registry ∧
      disturbed.val.counters = undisturbed.val.2.counters.withLinkErrors
        (d.counters.linkErrors + d.fired moves) ∧
      disturbed.val.link.outbound = d.link.outbound ++
        Intake.kept taken undisturbed.val.2.link.outbound ∧
      ∀ before rest, moves = before ++ .poll :: rest →
        let d := (d.play before).val
        (d.poll.val.1, d.incoming?, d.poll.val.2.link.inbound) = d.foretold := by
  intro taken undisturbed disturbed
  have haccount := account_play d moves
  have hundisturbed := d.polls_overMemory (taken.map Intake.frame)
  rw [List.length_map] at hundisturbed
  change handlerCalls disturbed.events = handlerCalls undisturbed.events ∧ _
  rw [show undisturbed = _ from hundisturbed]
  refine ⟨?_, haccount.registry, haccount.counters, haccount.outbound, ?_⟩
  · rw [Traced.events_map]
    exact haccount.calls
  · intro before _ _
    exact poll_eq_foretold (d.play before).val

end Dispatcher

end AltBit

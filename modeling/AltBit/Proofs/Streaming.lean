import AltBit.Handler.Rule
import AltBit.Proofs.Calm

/-!
A dispatcher over a stream of bytes does what it does over an in-memory link. As long as the channel
does not fail, a poll either finds nothing to do, and the frames are a step nearer, or it answers
the next frame as if it had been waiting in a queue.
-/
namespace AltBit

namespace Link.Stream
variable {m : Nat} {s : Stream m} {f : Frame m} {fs : List (Frame m)}

/-- Frames are on their way to a stream; of their bytes less than a frame is in the buffer. -/
structure Brings (s : Stream m) (fs : List (Frame m)) : Prop where
  calm : s.channel.Calm
  incomplete : s.isComplete = false
  bytes : s.buffer ++ s.channel.unread = fs.flatMap Frame.bytes

/-- Whether no byte is left, neither in the channel nor in the buffer. -/
def isDrained (s : Stream m) : Bool := (s.buffer ++ s.channel.unread).isEmpty

namespace Brings

theorem isDrained (h : s.Brings fs) : s.isDrained = fs.isEmpty := by
  rw [Stream.isDrained, h.bytes]
  cases fs <;> rfl

theorem unread_ne_nil (h : s.Brings (f :: fs)) : s.channel.unread ≠ [] := by
  intro hnone
  have hbytes := h.bytes
  rw [hnone, List.append_nil, List.flatMap_cons] at hbytes
  have hincomplete := h.incomplete
  simp [isComplete, hbytes] at hincomplete

end Brings

end Link.Stream

namespace Dispatcher
open Link.Stream

variable {σ : Type} [Behaviour σ] {m : Nat} {d : Dispatcher (Link.Stream m) σ} {f : Frame m}
  {fs : List (Frame m)}

/-- Whether a poll has found nothing to do. -/
def isIdle : Except DispatchError Polled → Bool
  | .ok .idle => true
  | _ => false

omit [Behaviour σ] in
theorem isIdle_polled (h : Handled σ m) : isIdle h.polled = false := by
  unfold Handled.polled
  cases h.delivery <;> rfl

/-- From `d` to `d'` the frames `taken` were answered; what idle polls have answered does not
matter. -/
structure Served (d d' : Dispatcher (Link.Stream m) σ)
    (results : List (Except DispatchError Polled)) (events : List Event) (taken : List (Frame m)) :
    Prop where
  results : (results.filter fun r => !isIdle r) =
    (d.registry.handleAll taken).val.1.map Handled.polled
  calls : handlerCalls events = handlerCalls (d.registry.handleAll taken).events
  registry : d'.registry = (d.registry.handleAll taken).val.2
  counters : d'.counters = d.counters.countFrames (d.registry.handleAll taken).val.1
  accepted : d'.link.channel.accepted = d.link.channel.accepted ++
    ((d.registry.handleAll taken).val.1.map Handled.reply).flatMap Frame.bytes

theorem Served.trans {d' d'' : Dispatcher (Link.Stream m) σ}
    {results results' : List (Except DispatchError Polled)} {events events' : List Event}
    {taken taken' : List (Frame m)} (h : Served d d' results events taken)
    (h' : Served d' d'' results' events' taken') :
    Served d d'' (results ++ results') (events ++ events') (taken ++ taken') where
  results := by
    rw [List.filter_append, h.results, h'.results, h.registry, Registry.val_handleAll_append,
      List.map_append]
  calls := by
    rw [handlerCalls_append, h.calls, h'.calls, h.registry, Registry.events_handleAll_append,
      handlerCalls_append]
  registry := by
    rw [h'.registry, h.registry, Registry.val_handleAll_append]
  counters := by
    rw [h'.counters, h.counters, h.registry, Registry.val_handleAll_append,
      Counters.countFrames_append]
  accepted := by
    rw [h'.accepted, h.accepted, h.registry, Registry.val_handleAll_append, List.map_append,
      List.flatMap_append, List.append_assoc]

/-- What a poll does while frames are on their way: nothing that shows, or it answers the first.
Either way the channel has less left to give. -/
theorem served_poll (h : d.link.Brings (f :: fs)) :
    ∃ taken rest, taken ++ rest = f :: fs ∧
      Served d d.poll.val.2 [d.poll.val.1] d.poll.events taken ∧
      d.poll.val.2.link.Brings rest ∧
      d.poll.val.2.link.channel.remaining < d.link.channel.remaining := by
  obtain ⟨hprogress, hsilent, hready⟩ := progress_isReady h.calm h.incomplete h.unread_ne_nil
  rcases hlook : (Link.isReady d.link).val with ⟨ready, s⟩
  rw [hlook] at hprogress hready
  replace hlook := hlook.trans (congrArg (·, s) hready)
  have hbytes := hprogress.bytes.trans h.bytes
  cases hs : s.isComplete with
  | false =>
    rw [hs] at hlook
    obtain ⟨hval, hevents⟩ := poll_of_notReady hlook
    rw [hval, hevents]
    refine ⟨[], f :: fs, rfl, ⟨rfl, hsilent, rfl, rfl, ?_⟩, ⟨hprogress.calm, hs, hbytes⟩,
      hprogress.remaining⟩
    exact hprogress.accepted.trans (List.append_nil _).symm
  | true =>
    rw [hs] at hlook
    obtain ⟨hreceive, hrest⟩ := receive_of_complete hs hprogress.bounded hbytes
    obtain ⟨c, hwrite, htakes⟩ := takes_write (s := { s with buffer := [] }) hprogress.calm
      (d.registry.handle f).val.reply
    obtain ⟨hval, hevents⟩ := poll_of_received hlook hreceive (congrArg pure hwrite)
    rw [hval, hevents]
    refine ⟨[f], fs, rfl, ⟨?_, ?_, rfl, rfl, ?_⟩, ⟨htakes.calm, ?_, ?_⟩, ?_⟩
    · exact List.filter_cons_of_pos (by simp [isIdle_polled])
    · simp [hsilent]
    · simpa using htakes.accepted.trans (congrArg (· ++ _) hprogress.accepted)
    · exact decide_eq_false (by simp [Frame.length, headerSize])
    · exact htakes.unread.trans hrest
    · exact Nat.lt_of_le_of_lt (Nat.le_of_eq htakes.remaining) hprogress.remaining

/-- However the bytes of frames are cut, enough polls answer them all. The induction is on what the
channel still has to give, as idle polls leave the frames as they are. -/
theorem served_polls (h : d.link.Brings fs) :
    ∃ n, (∀ k < n, (d.polls k).val.2.link.isDrained = false) ∧
      (d.polls n).val.2.link.isDrained = true ∧
      Served d (d.polls n).val.2 (d.polls n).val.1 (d.polls n).events fs := by
  induction hleft : d.link.channel.remaining using Nat.strongRecOn generalizing d fs with
  | ind left ih =>
    cases fs with
    | nil =>
      exact ⟨0, fun k hk => absurd hk (Nat.not_lt_zero k), h.isDrained,
        rfl, rfl, rfl, rfl, (List.append_nil _).symm⟩
    | cons f fs =>
      obtain ⟨taken, rest, hframes, hpoll, hbrings, hless⟩ := served_poll h
      obtain ⟨n, hwaits, hdrained, hpolls⟩ := ih _ (hleft ▸ hless) hbrings rfl
      rw [← hframes]
      refine ⟨n + 1, ?_, hdrained, ?_⟩
      · intro k hk
        cases k with
        | zero => exact h.isDrained
        | succ k => exact hwaits k (Nat.lt_of_succ_lt_succ hk)
      · rw [val_polls_succ, events_polls_succ]
        exact hpoll.trans hpolls

/-- A dispatcher over a stream that brings frames answers like one that has them waiting in memory,
apart from idle polls, and writes the bytes of the same replies. -/
theorem stream_refines_memory (h : d.link.Brings fs) :
    ∃ n, (∀ k < n, (d.polls k).val.2.link.isDrained = false) ∧
      let streamed := d.polls n
      let direct := (d.overMemory fs).polls fs.length
      streamed.val.2.link.isDrained = true ∧
      (streamed.val.1.filter fun r => !isIdle r) = direct.val.1 ∧
      handlerCalls streamed.events = handlerCalls direct.events ∧
      streamed.val.2.registry = direct.val.2.registry ∧
      streamed.val.2.counters = direct.val.2.counters ∧
      streamed.val.2.link.channel.accepted =
        d.link.channel.accepted ++ direct.val.2.link.outbound.flatMap Frame.bytes := by
  obtain ⟨n, hwaits, hdrained, hserved⟩ := served_polls h
  refine ⟨n, hwaits, ?_⟩
  rw [polls_overMemory]
  refine ⟨hdrained, hserved.results, ?_, hserved.registry, hserved.counters, hserved.accepted⟩
  rw [Traced.events_map]
  exact hserved.calls

/-- Two frames, the second of them for an identifier without a handler, in pieces that end within
frames and between which nothing comes; the reply to the first is taken in pieces too. -/
def trickling : Dispatcher (Link.Stream 2) (Service Rule) where
  link := {
    channel := {
      reads := [.ok [5, 0], .error (.system 4), .ok [0], .error (.system 11), .ok [9, 9, 7],
        .ok [0, 0, 1, 1]]
      polls := [.ok true, .ok false]
      writes := [.ok 2, .error (.system 4)]
      flushes := [.error (.system 4)] } }
  registry := ((Registry.empty.install Service.sessionHandler).val.registerAll
    [⟨5, true, .custom .double⟩]).val.2

theorem stream_refines_memory_trickling :
    trickling.link.Brings [⟨5, 0, 0, #v[9, 9]⟩, ⟨7, 0, 0, #v[1, 1]⟩] ∧
      ∃ n, ((trickling.polls n).val.1.filter fun r => !isIdle r) =
          [.ok (.delivered 5 (.accepted 0)), .error (.unknownIdentifier 7)] ∧
        handlerCalls (trickling.polls n).events = [.invoked 5 [9, 9]] ∧
        (trickling.polls n).val.2.link.channel.accepted = [5, 0, 0, 18, 9, 7, 0, 0, 0, 0] := by
  have hbrings : trickling.link.Brings [⟨5, 0, 0, #v[9, 9]⟩, ⟨7, 0, 0, #v[1, 1]⟩] :=
    ⟨⟨by decide, by decide, by decide, by decide⟩, by decide, by decide⟩
  obtain ⟨n, -, -, hresults, hcalls, -, -, haccepted⟩ := stream_refines_memory hbrings
  exact ⟨hbrings, n, hresults.trans (by decide +kernel), hcalls.trans (by decide +kernel),
    haccepted.trans (by decide +kernel)⟩

end Dispatcher

end AltBit

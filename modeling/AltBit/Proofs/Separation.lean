import AltBit.Handler.Rule
import AltBit.Proofs.Faults

/-!
Identifiers do not interfere. Answering a frame looks at the handler and the channel of its own
identifier and changes nothing else, so what becomes of an identifier is decided by its own frames,
whatever else arrives between them.
-/
namespace AltBit

namespace Registry
variable {σ : Type} {m : Nat} {r r' : Registry σ} {f : Frame m} {id : Identifier}

/-- The two registries have the same handler, in the same state, and the same channel for `id`. -/
structure SameAt (id : Identifier) (r r' : Registry σ) : Prop where
  handler : r.handlers.get? id = r'.handlers.get? id
  channel : r.channels.get? id = r'.channels.get? id

theorem SameAt.refl (id : Identifier) (r : Registry σ) : SameAt id r r := ⟨rfl, rfl⟩

variable [Behaviour σ]

/-- A frame is answered alike, and to the same effect on its identifier, by registries that agree on
that identifier. -/
theorem SameAt.handle (h : SameAt f.id r r') :
    (r.handle f).val.reply = (r'.handle f).val.reply ∧
      SameAt f.id (r.handle f).val.registry (r'.handle f).val.registry := by
  have hchannelOf (k : Handler σ) : r.channelOf? k f.id = r'.channelOf? k f.id := by
    simp only [channelOf?, h.channel]
  cases hh : r'.handlers.get? f.id with
  | none =>
    rw [(handle_of_none (h.handler.trans hh)).1, (handle_of_none hh).1]
    exact ⟨rfl, h⟩
  | some k =>
    rw [(handle_of_some (h.handler.trans hh)).1, (handle_of_some hh).1, answer, answer,
      hchannelOf]
    cases r'.channelOf? k f.id with
    | none => exact ⟨rfl, by simp [handleUnreliable, IdTable.get?_insert], h.channel⟩
    | some c =>
      cases hv : c.classify f.seq with
      | accept ack =>
        refine ⟨?_, ?_, ?_⟩ <;> simp [handleReliable, hv, IdTable.get?_insert]
      | duplicate ack => simpa [handleReliable, hv] using h

/-- A frame for another identifier does not matter. -/
theorem SameAt.handle_other (h : SameAt id r r') (hf : f.id ≠ id) :
    SameAt id (r.handle f).val.registry r' := by
  obtain ⟨hhandler, hchannel⟩ := r.get?_handle_other f hf
  exact ⟨hhandler.trans h.handler, hchannel.trans h.channel⟩

/-- Only the frames of an identifier matter to it, and only they are answered with frames of it. -/
theorem SameAt.handleAll (h : SameAt id r r') (fs : List (Frame m)) :
    ((r.handleAll fs).val.1.map Handled.reply).filter (fun f => f.id = id) =
        (r'.handleAll (fs.filter fun f => f.id = id)).val.1.map Handled.reply ∧
      SameAt id (r.handleAll fs).val.2 (r'.handleAll (fs.filter fun f => f.id = id)).val.2 := by
  induction fs generalizing r r' with
  | nil => exact ⟨rfl, h⟩
  | cons f fs ih =>
    have hreply := (r.header_handle f).1
    by_cases hf : f.id = id
    · subst hf
      obtain ⟨hsame, hafter⟩ := h.handle
      obtain ⟨hreplies, hfinal⟩ := ih hafter
      rw [List.filter_cons_of_pos (by simp)]
      refine ⟨?_, hfinal⟩
      rw [Registry.val_handleAll_cons, Registry.val_handleAll_cons, List.map_cons, List.map_cons,
        List.filter_cons_of_pos (by simpa using hreply), hreplies, hsame]
    · obtain ⟨hreplies, hfinal⟩ := ih (h.handle_other hf)
      rw [List.filter_cons_of_neg (by simpa using hf)]
      refine ⟨?_, hfinal⟩
      rw [← hreplies]
      simp [hreply, hf]

end Registry

namespace Move
variable {m : Nat}

/-- Whether a move asks for no failure. -/
def isCalm : Move m → Bool
  | failNextPoll _ | failNextRead _ | failNextWrite _ => false
  | push _ | reportWouldBlock _ | poll => true

def pushed? : Move m → Option (Frame m)
  | push f => some f
  | _ => none

end Move

theorem Intake.kept_of_written {m : Nat} {taken : List (Intake m)} {replies : List (Frame m)}
    (hlength : taken.length = replies.length) (hwritten : ∀ t ∈ taken, t.lost = false) :
    kept taken replies = replies := by
  have hall : ((taken.zip replies).filter fun x => !x.1.lost) = taken.zip replies := by
    refine List.filter_eq_self.mpr fun x hx => ?_
    simp [hwritten x.1 (List.of_mem_zip hx).1]
  rw [kept, hall, List.map_snd_zip (Nat.le_of_eq hlength.symm)]

namespace Dispatcher
variable {σ : Type} [Behaviour σ] {m : Nat} {d : Dispatcher (Link.Memory m) σ}
  {fs : List (Frame m)} {moves : List (Move m)} {a : Move m} {id : Identifier}

/-- Without a failure, what was waiting and what is pushed is read in order or still waiting, and
every reply is written. -/
structure Passes (d d' : Dispatcher (Link.Memory m) σ) (pushed : List (Frame m))
    (taken : List (Intake m)) : Prop where
  armed : d'.link.armed = []
  inbound : d.link.inbound ++ pushed = taken.map Intake.frame ++ d'.link.inbound
  written : ∀ t ∈ taken, t.lost = false

theorem makeMove_passes (hd : d.link.armed = []) (ha : a.isCalm = true) :
    Passes d (d.makeMove a).val a.pushed?.toList (d.intake? a).toList := by
  obtain ⟨hpoll, hread, hwrite⟩ : d.link.pollFault = none ∧ d.link.readFault = none ∧
      d.link.writeFault = none := by simpa [Link.Memory.armed] using hd
  cases a with
  | failNextPoll _ | failNextRead _ | failNextWrite _ => cases ha
  | push f =>
    exact ⟨hd, by simp [Move.pushed?, intake?, makeMove, Link.Memory.push], by simp [intake?]⟩
  | reportWouldBlock _ => exact ⟨hd, by simp [Move.pushed?, intake?, makeMove], by simp [intake?]⟩
  | poll =>
    have hmove : (d.makeMove .poll).val = d.poll.val.2 := rfl
    rw [hmove, intake?, incoming?_memory, if_pos ⟨hpoll, hread⟩, hwrite]
    cases hinbound : d.link.inbound with
    | nil =>
      rw [poll_of_empty hpoll hinbound]
      exact ⟨hd, by simp [Move.pushed?, hinbound], by simp⟩
    | cons f rest =>
      rw [poll_of_writable hd hinbound]
      exact ⟨hd, by simp [Move.pushed?, hinbound, afterFrames, withRequests], by simp⟩

theorem play_passes (hd : d.link.armed = []) (hcalm : ∀ a ∈ moves, a.isCalm = true) :
    Passes d (d.play moves).val (moves.filterMap Move.pushed?) (d.intakes moves) := by
  induction moves generalizing d with
  | nil => exact ⟨hd, by simp [intakes, play], by simp [intakes]⟩
  | cons a moves ih =>
    have hmove := makeMove_passes hd (hcalm a List.mem_cons_self)
    have hrest := ih hmove.armed fun b hb => hcalm b (List.mem_cons_of_mem a hb)
    refine ⟨hrest.armed, ?_, ?_⟩
    · have hpushed : (a :: moves).filterMap Move.pushed? =
          a.pushed?.toList ++ moves.filterMap Move.pushed? := by
        cases ha : a.pushed? <;> simp [ha]
      rw [hpushed, ← List.append_assoc, hmove.inbound, List.append_assoc, hrest.inbound, intakes,
        List.map_append, List.append_assoc]
      rfl
    · intro t ht
      rcases List.mem_append.mp ht with ht | ht
      · exact hmove.written t ht
      · exact hrest.written t ht

/-- Moves that bring frames to a dispatcher, ask for no failure and go on until every frame has been
read. -/
structure Feeds (d : Dispatcher (Link.Memory m) σ) (fs : List (Frame m)) (moves : List (Move m)) :
    Prop where
  calm : ∀ a ∈ moves, a.isCalm = true
  pushed : moves.filterMap Move.pushed? = fs
  drained : (d.play moves).val.link.inbound = []

theorem Feeds.account (h : d.Feeds fs moves) (hd : d.link.armed = []) :
    (d.play moves).val.registry = (d.registry.handleAll (d.link.inbound ++ fs)).val.2 ∧
      (d.play moves).val.link.outbound = d.link.outbound ++
        (d.registry.handleAll (d.link.inbound ++ fs)).val.1.map Handled.reply := by
  have hpasses := play_passes hd h.calm
  have haccount := account_play d moves
  have htaken : (d.intakes moves).map Intake.frame = d.link.inbound ++ fs := by
    rw [← h.pushed, hpasses.inbound, h.drained, List.append_nil]
  have houtbound := haccount.outbound
  rw [Intake.kept_of_written (by simp [Registry.length_handleAll]) hpasses.written] at houtbound
  rw [← htaken]
  exact ⟨haccount.registry, houtbound⟩

/-- Pushes every frame and polls for it at once. -/
def deliveries (fs : List (Frame m)) : List (Move m) := fs.flatMap fun f => [.push f, .poll]

theorem feeds_deliveries (hd : d.link.armed = []) (hinbound : d.link.inbound = []) :
    d.Feeds fs (deliveries fs) where
  calm a ha := by
    obtain ⟨f, -, hf⟩ := List.mem_flatMap.mp ha
    rcases (by simpa using hf : a = .push f ∨ a = .poll) with rfl | rfl <;> rfl
  pushed := by
    induction fs with
    | nil => rfl
    | cons f fs ih => exact congrArg (f :: ·) ih
  drained := by
    induction fs generalizing d with
    | nil => exact hinbound
    | cons f fs ih =>
      let pushed : Dispatcher (Link.Memory m) σ := { d with link := d.link.push f }
      have hpushed : pushed.link.inbound = [f] := by simp [pushed, Link.Memory.push, hinbound]
      have hpoll := poll_of_writable (d := pushed) hd hpushed
      have hstep : (d.play (deliveries (f :: fs))).val =
          (pushed.poll.val.2.play (deliveries fs)).val := rfl
      rw [hstep, hpoll]
      exact ih hd rfl

/-- The replies for an identifier, its handler and its channel are those of a run in which only
frames for that identifier are brought. -/
theorem own_frames_suffice (hd : d.link.armed = []) {all own : List (Move m)}
    (hall : d.Feeds fs all) (hown : d.Feeds (fs.filter fun f => f.id = id) own) :
    ((d.play all).val.link.outbound.filter fun f => f.id = id) =
        ((d.play own).val.link.outbound.filter fun f => f.id = id) ∧
      (d.play all).val.registry.handlers.get? id = (d.play own).val.registry.handlers.get? id ∧
      (d.play all).val.registry.channelState? id =
        (d.play own).val.registry.channelState? id := by
  obtain ⟨hregistry, houtbound⟩ := hall.account hd
  obtain ⟨hregistry', houtbound'⟩ := hown.account hd
  obtain ⟨hreplies, hsame⟩ := (Registry.SameAt.refl id d.registry).handleAll (d.link.inbound ++ fs)
  obtain ⟨hreplies', hsame'⟩ := (Registry.SameAt.refl id d.registry).handleAll
    (d.link.inbound ++ fs.filter fun f => f.id = id)
  have hframes : (d.link.inbound ++ fs.filter fun f => f.id = id).filter (fun f => f.id = id) =
      (d.link.inbound ++ fs).filter fun f => f.id = id := by simp
  rw [hframes] at hreplies' hsame'
  refine ⟨?_, ?_, ?_⟩
  · rw [houtbound, houtbound', List.filter_append, List.filter_append, hreplies, hreplies']
  · rw [hregistry, hregistry', hsame.handler, hsame'.handler]
  · rw [hregistry, hregistry']
    exact hsame.channel.trans hsame'.channel.symm

/-- A reliable handler that counts, an unreliable one and the session handler. -/
def mixed : Dispatcher (Link.Memory 2) (Service Rule) where
  link := {}
  registry := ((Registry.empty.install Service.sessionHandler).val.registerAll
    [⟨5, true, .custom (.count 0)⟩, ⟨6, false, .custom .double⟩]).val.2

/-- Two frames for the counting handler, the second of them sent twice, between a session that ends,
an unreliable frame and one for which no handler is registered. -/
def mixedFrames : List (Frame 2) :=
  [⟨1, 0, 0, #v[1, 9]⟩, ⟨5, 0, 0, #v[9, 9]⟩, ⟨6, 0, 0, #v[3, 0]⟩, ⟨1, 1, 0, #v[2, 9]⟩,
    ⟨5, 1, 0, #v[8, 8]⟩, ⟨7, 0, 0, #v[1, 1]⟩, ⟨5, 1, 0, #v[8, 8]⟩]

theorem own_frames_suffice_mixed :
    ((mixed.play (deliveries mixedFrames)).val.link.outbound.filter fun f => f.id = 5) =
        [⟨5, 0, 0, #v[1, 9]⟩, ⟨5, 1, 1, #v[2, 8]⟩, ⟨5, 1, 1, #v[0, 0]⟩] ∧
      (mixed.play (deliveries mixedFrames)).val.registry.handlers.get? 5 =
        some ⟨5, true, .custom (.count 2)⟩ ∧
      (mixed.play (deliveries mixedFrames)).val.registry.channelState? 5 = some .awaitingEven := by
  have hfeeds (fs : List (Frame 2)) : mixed.Feeds fs (deliveries fs) := feeds_deliveries rfl rfl
  obtain ⟨hreplies, hhandler, hchannel⟩ :=
    own_frames_suffice (d := mixed) rfl (hfeeds mixedFrames)
      (hfeeds (mixedFrames.filter fun f => f.id = 5))
  exact ⟨hreplies.trans (by decide +kernel), hhandler.trans (by decide +kernel),
    hchannel.trans (by decide +kernel)⟩

end Dispatcher

end AltBit

import AltBit.Proofs.Counting
import AltBit.Proofs.Sessions

/-!
Frames that are repeated at once. On a reliable identifier a frame that comes again right after
itself changes nothing any more and is answered as before: the channel has moved on and takes it for
a duplicate. It has not moved on when a disconnect came with the number zero. Then the frame is
accepted again and the handler is invoked again, but the default session handler ends up as it was.
-/
namespace AltBit

namespace ChannelState

theorem expected_inj {c c' : ChannelState} : c.expected = c'.expected ↔ c = c' := by
  cases c <;> cases c' <;> decide

theorem expected_of_ne {c c' : ChannelState} (h : c' ≠ c) : c'.expected = flipBit c.expected := by
  cases c <;> cases c' <;> first | rfl | exact absurd rfl h

theorem afterAccept_eq_self {c : ChannelState} {id : Identifier} {outcome : Outcome}
    (h : c.afterAccept id outcome = c) :
    id = Identifier.sessionControl ∧ outcome = .sessionReset := by
  cases c with
  | awaitingEven =>
    by_cases hreset : id = Identifier.sessionControl ∧ outcome = .sessionReset
    · exact hreset
    · simp [afterAccept, hreset] at h
  | awaitingOdd => cases h

end ChannelState

section
variable {τ : Type} [Behaviour τ] {m : Nat}

theorem Service.react_session_of_error {e : HandlerError} {payload : Vector UInt8 m}
    (he : SessionControl.requested payload = .error e) (c : SessionControl) :
    let reaction := (Behaviour.react (Service.session (τ := τ) c) payload).val
    reaction.state = .session c ∧ reaction.result = .error e := by
  simp [Behaviour.react, Service.react, SessionControl.react, he]

/-- A payload that comes again leaves the session handler as it is and has the same result. -/
theorem Service.react_session_again (c : SessionControl) (payload : Vector UInt8 m) :
    let once := (Behaviour.react (Service.session (τ := τ) c) payload).val
    let again := (Behaviour.react once.state payload).val
    again.state = once.state ∧ again.result = once.result := by
  intro once again
  cases hop : SessionControl.requested payload with
  | error e =>
    obtain ⟨hstate, -⟩ := react_session_of_error (τ := τ) hop c
    have hagain : again = once := congrArg (fun s => (Behaviour.react s payload).val) hstate
    rw [hagain]
    exact ⟨rfl, rfl⟩
  | ok op =>
    obtain ⟨hstate, hresult⟩ := react_session (τ := τ) hop c.connected
    obtain ⟨hstate', hresult'⟩ := react_session (τ := τ) hop (op.opens c.connected)
    rw [← hstate] at hstate' hresult'
    rw [op.opens_opens, ← hstate] at hstate'
    exact ⟨hstate', hresult'.trans hresult.symm⟩

theorem Service.exists_session_react (c : SessionControl) (payload : Vector UInt8 m) :
    ∃ c', (Behaviour.react (Service.session (τ := τ) c) payload).val.state = Service.session c' :=
  ⟨(c.react payload).val.state, rfl⟩

end

namespace Registry
section
variable {σ : Type} [Behaviour σ] {m : Nat} {r : Registry σ} {f : Frame m} {h : Handler σ}
  {c : ChannelState}

/-- What an accepted frame leaves. -/
theorem Awaits.registry_expected (hr : r.Awaits f.id c) (hh : r.handlers.get? f.id = some h)
    (hseq : f.seq = c.expected) :
    let reaction := (Behaviour.react h.state f.payload).val
    (r.handle f).val.registry = { r with
      handlers := r.handlers.insert f.id { h with state := reaction.state }
      channels := r.channels.insert f.id
        (c.afterAccept f.id (Outcome.ofResult reaction.result)) } := by
  obtain ⟨k, hk, -, hanswer⟩ := hr.answer_eq
  obtain rfl : h = k := Option.some.inj (hh.symm.trans hk)
  have hv := (c.classify_eq_accept_iff f.seq c.expected).mpr ⟨hseq, rfl⟩
  rw [(handle_of_some hk).1, hanswer]
  simp [handleReliable, hv, Handler.val_invoke]

/-- A frame that is accepted leaves everything as it is if it moves neither its handler nor its
channel. -/
theorem Awaits.registry_expected_of_unmoved (hr : r.Awaits f.id c)
    (hh : r.handlers.get? f.id = some h) (hseq : f.seq = c.expected)
    (hstate : (Behaviour.react h.state f.payload).val.state = h.state)
    (hchannel : c.afterAccept f.id
      (Outcome.ofResult (Behaviour.react h.state f.payload).val.result) = c) :
    (r.handle f).val.registry = r := by
  rw [hr.registry_expected hh hseq, hstate, hchannel, IdTable.insert_eq_self hh,
    IdTable.insert_eq_self hr.channel]

/-- What the reactions keep of the state of a handler, handling a frame keeps. -/
theorem handle_keeps {P : σ → Prop} {id : Identifier}
    (hreact : ∀ s (payload : Vector UInt8 m), P s → P (Behaviour.react s payload).val.state)
    (hr : ∀ h, r.handlers.get? id = some h → P h.state) (f : Frame m) (h : Handler σ)
    (hh : (r.handle f).val.registry.handlers.get? id = some h) : P h.state := by
  have hcase := r.handle_cases f
  generalize (r.handle f).val = x at hcase hh
  cases hcase with
  | unknown | duplicate => exact hr h hh
  | @unreliable k hk | @accepted k _ hk =>
    rw [IdTable.get?_insert, Handler.val_invoke] at hh
    split at hh
    · rename_i hid
      rw [← Option.some.inj hh]
      exact hreact k.state f.payload (hr k (hid ▸ hk))
    · exact hr h hh

theorem queue_handle (r : Registry σ) (f : Frame m) :
    (r.handle f).val.registry.queue = r.queue := by
  have hcase := r.handle_cases f
  generalize (r.handle f).val = x at hcase ⊢
  cases hcase <;> rfl

/-- The frame changes nothing and is acknowledged with `ack`. -/
structure Settled (r : Registry σ) (f : Frame m) (ack : UInt8) : Prop where
  registry : (r.handle f).val.registry = r
  ack : (r.handle f).val.reply.ack = ack

end

variable {τ : Type} [Behaviour τ] {m : Nat} {r : Registry (Service τ)} {f : Frame m}
  {c : ChannelState}

/-- Once a frame of a reliable identifier has been handled, it changes nothing any more. -/
theorem Awaits.settled_handle (hr : r.Awaits f.id c)
    (hsession : f.id = Identifier.sessionControl →
      ∀ h, r.handlers.get? f.id = some h → ∃ s, h.state = .session s) :
    (r.handle f).val.registry.Settled f (r.handle f).val.reply.ack := by
  by_cases hseq : f.seq = c.expected
  · obtain ⟨hnext, hack, -, -⟩ := hr.handle_expected hseq
    obtain ⟨h, hh, -⟩ := hr.answer_eq
    obtain ⟨hleft, hresult⟩ := hr.handler_expected hh hseq
    have houtcome : (r.handle f).val.outcome =
        Outcome.ofResult (Behaviour.react h.state f.payload).val.result := by
      rw [Handled.outcome, hresult]
      rfl
    by_cases hmoved : c.afterAccept f.id (r.handle f).val.outcome = c
    · -- the end of a session at even: the handler is invoked again
      rw [hmoved] at hnext
      obtain ⟨hid, -⟩ := ChannelState.afterAccept_eq_self hmoved
      obtain ⟨s, hs⟩ := hsession hid h hh
      rw [houtcome, hs] at hmoved
      rw [hs] at hleft
      obtain ⟨hstate, hsame⟩ := Service.react_session_again (τ := τ) s f.payload
      refine ⟨hnext.registry_expected_of_unmoved hleft hseq hstate ?_, ?_⟩
      · rw [hsame]
        exact hmoved
      · rw [(hnext.handle_expected hseq).2.1, hack]
    · have hexpected := ChannelState.expected_of_ne hmoved
      have hseq' : f.seq ≠ (c.afterAccept f.id (r.handle f).val.outcome).expected := by
        rw [hseq]
        exact fun heq => hmoved (ChannelState.expected_inj.mp heq.symm)
      obtain ⟨hsame, hack', -, -⟩ := hnext.handle_unexpected hseq'
      refine ⟨hsame, ?_⟩
      rw [hack', hack, hexpected, flipBit_flipBit]
  · obtain ⟨hsame, -, -, -⟩ := hr.handle_unexpected hseq
    rw [hsame]
    exact ⟨hsame, rfl⟩

end Registry

/-- The handler is not one for session control, or the default one for it. -/
def Handler.IsStandard {τ : Type} (h : Handler (Service τ)) : Prop :=
  h.id = Identifier.sessionControl → ∃ s, h.state = .session s

/-- The handlers that an act registers or puts into the queue. -/
def Act.brings {T σ : Type} : Act T σ → List (Handler σ)
  | .operate (.register h) | .operate (.enqueue h) => [h]
  | .registerAll hs => hs
  | _ => []

namespace Registry

/-- If there is a session handler, or one is queued, it is the default one. -/
structure Standard {τ : Type} (r : Registry (Service τ)) : Prop where
  registered : ∀ h, r.handlers.get? Identifier.sessionControl = some h → ∃ s, h.state = .session s
  queued : ∀ h ∈ r.queue, h.IsStandard

namespace Standard
variable {τ : Type} {r : Registry (Service τ)} {h : Handler (Service τ)}

theorem install (hr : r.Standard) (hh : h.IsStandard) : (r.install h).val.Standard := by
  refine ⟨fun k hk => ?_, hr.queued⟩
  rw [get?_handlers_install] at hk
  split at hk
  · rename_i hid
    obtain rfl := Option.some.inj hk
    exact hh hid.symm
  · exact hr.registered k hk

theorem register (hr : r.Standard) (hh : h.IsStandard) : (r.register h).val.2.Standard := by
  rcases r.register_cases h with hsame | ⟨-, hinstalled⟩
  · rwa [hsame]
  · rw [hinstalled]
    exact hr.install hh

theorem registerAll (hr : r.Standard) {hs : List (Handler (Service τ))}
    (hhs : ∀ h ∈ hs, h.IsStandard) : (r.registerAll hs).val.2.Standard :=
  registerAll_keeps (P := Standard) (fun _ h hh hr => hr.register (hhs h hh)) hr

theorem deregister (hr : r.Standard) (j : Identifier) : (r.deregister j).val.2.Standard := by
  rcases r.deregister_cases j with hsame | hremoved
  · rwa [hsame]
  · rw [hremoved]
    refine ⟨fun h hh => ?_, hr.queued⟩
    dsimp only at hh
    rw [IdTable.get?_erase] at hh
    split at hh
    · cases hh
    · exact hr.registered h hh

theorem enqueue (hr : r.Standard) (hh : h.IsStandard) : (r.enqueue h).Standard := by
  refine ⟨hr.registered, fun k hk => ?_⟩
  rcases List.mem_append.mp hk with hbefore | hnew
  · exact hr.queued k hbefore
  · rw [List.mem_singleton.mp hnew]
    exact hh

theorem handle [Behaviour τ] {m : Nat} (hr : r.Standard) (f : Frame m) :
    (r.handle f).val.registry.Standard where
  registered := by
    refine handle_keeps (P := fun s => ∃ c, s = Service.session (τ := τ) c) ?_ hr.registered f
    rintro _ payload ⟨c, rfl⟩
    exact Service.exists_session_react c payload
  queued := by
    rw [queue_handle]
    exact hr.queued

end Standard

end Registry

namespace Dispatcher
variable {T : Type} {m : Nat} [Link T m]

section
variable {σ : Type} [Behaviour σ]

/-- The replies that the polls of a run have offered to their links, oldest first. -/
def replies (d : Dispatcher T σ) (ops : List (Operation T σ)) : List (Frame m) :=
  ((d.visits ops).flatMap Visit.calls).filterMap LinkCall.written?

omit [Link T m] in
/-- A poll writes the reply to the frame that it takes, and nothing else. -/
theorem Course.written {d : Dispatcher T σ} {calls : List (LinkCall m)} {frame : Option (Frame m)}
    {answer : Except DispatchError Polled} {c : Counters} (h : d.Course calls frame answer c) :
    calls.filterMap LinkCall.written? = frame.toList.map fun f => (d.registry.handle f).val.reply :=
  by cases h <;> rfl

theorem replies_poll (d : Dispatcher T σ) {link : T} {f : Frame m}
    (htaken : incoming? { d with link } = some f) (ops : List (Operation T σ)) :
    d.replies (.poll link :: ops) =
      (d.registry.handle f).val.reply :: (d.perform (.poll link)).val.replies ops := by
  have hwritten := (course_poll { d with link }).written
  rw [htaken] at hwritten
  have hfirst : ((visit { d with link }).calls).filterMap LinkCall.written? =
      [(d.registry.handle f).val.reply] := hwritten
  simp [replies, visits, visit?, hfirst]

theorem registry_perform_poll (d : Dispatcher T σ) {link : T} {f : Frame m}
    (htaken : incoming? { d with link } = some f) :
    (d.perform (.poll link)).val.registry = (d.registry.handle f).val.registry := by
  have hpoll := registry_poll { d with link }
  rw [htaken] at hpoll
  exact hpoll

/-- A settled frame may come as often as it likes. -/
theorem run_of_settled {d : Dispatcher T σ} {f : Frame m} {ack : UInt8}
    (hd : d.registry.Settled f ack) {links : List T}
    (htaken : ∀ link ∈ links, incoming? { d with link } = some f) :
    (d.run (links.map .poll)).val.registry = d.registry ∧
      (d.replies (links.map .poll)).length = links.length ∧
      ∀ reply ∈ d.replies (links.map .poll),
        reply.id = f.id ∧ reply.seq = f.seq ∧ reply.ack = ack := by
  induction links generalizing d with
  | nil => exact ⟨rfl, rfl, nofun⟩
  | cons link links ih =>
    obtain ⟨hfirst, hrest⟩ := List.forall_mem_cons.mp htaken
    have hpolled := (d.registry_perform_poll hfirst).trans hd.registry
    have hd' : (d.perform (.poll link)).val.registry.Settled f ack := by rwa [hpolled]
    obtain ⟨hregistry, hlength, hreplies⟩ := ih hd' hrest
    rw [List.map_cons, replies_poll d hfirst]
    refine ⟨hregistry.trans hpolled, congrArg Nat.succ hlength, ?_⟩
    refine List.forall_mem_cons.mpr ⟨?_, hreplies⟩
    exact ⟨(d.registry.header_handle f).1, (d.registry.header_handle f).2, hd.ack⟩

end

variable {τ : Type} [Behaviour τ]

/-- The states of a dispatcher that has the default session handler, or none after that one has
been removed. -/
inductive Standard : Dispatcher T (Service τ) → Prop
  | new (link : T) : Standard (new link).val
  | act {d : Dispatcher T (Service τ)} (hd : Standard d) (a : Act T (Service τ))
    (ha : ∀ h ∈ a.brings, h.IsStandard) : Standard (d.act a).val

namespace Standard
variable {d : Dispatcher T (Service τ)}

theorem reachable (hd : d.Standard) : d.Reachable := by
  induction hd with
  | new link => exact .made link Service.sessionHandler rfl
  | act _ a _ ih => exact .act ih a

theorem registry (hd : d.Standard) : d.registry.Standard := by
  induction hd with
  | new link =>
    have hempty : (Registry.empty : Registry (Service τ)).Standard :=
      ⟨fun h hh => by simp [Registry.empty] at hh, nofun⟩
    exact hempty.install fun _ => ⟨{}, rfl⟩
  | @act d _ a ha ih =>
    cases a with
    | operate o =>
      cases o with
      | poll link =>
        have hpoll := registry_poll { d with link }
        have hact : (d.act (.operate (.poll link))).val.registry =
            (poll { d with link }).val.2.registry := rfl
        rw [hact, hpoll]
        cases incoming? { d with link } with
        | none => exact ih
        | some f => exact ih.handle f
      | register h => exact ih.register (ha h List.mem_cons_self)
      | deregister id => exact ih.deregister id
      | enqueue h => exact ih.enqueue (ha h List.mem_cons_self)
      | drain => exact ih.registerAll ih.queued
      | replaceLink link => exact ⟨ih.registered, ih.queued⟩
    | useLink link => exact ih
    | registerAll hs => exact ih.registerAll ha
    | resetChannels => exact ⟨ih.registered, ih.queued⟩

/-- With the default session handler, any number of polls in a row that take the same frame of a
reliable identifier leave handlers and channels as the first of them does, and all of them reply
with the same header. -/
theorem repetition_changes_nothing (hd : d.Standard) {f : Frame m}
    (hreliable : d.registry.isReliable? f.id = some true) (first : T) (more : List T)
    (htaken : ∀ link ∈ first :: more, incoming? { d with link } = some f) :
    let repeated := (first :: more).map Operation.poll
    (d.run repeated).val.registry = (d.run [.poll first]).val.registry ∧
      (d.replies repeated).length = more.length + 1 ∧
      ∃ ack, ∀ reply ∈ d.replies repeated,
        reply.id = f.id ∧ reply.seq = f.seq ∧ reply.ack = ack := by
  intro repeated
  obtain ⟨hfirst, hmore⟩ := List.forall_mem_cons.mp htaken
  obtain ⟨c, hc⟩ :=
    Option.isSome_iff_exists.mp ((hd.reachable.matched.channel f.id).mpr hreliable)
  have hawaits : d.registry.Awaits f.id c := ⟨hreliable, hc⟩
  have hsettled := hawaits.settled_handle fun hid h hh => hd.registry.registered h (hid ▸ hh)
  rw [← d.registry_perform_poll hfirst] at hsettled
  obtain ⟨hregistry, hlength, hreplies⟩ := run_of_settled hsettled hmore
  have hrepeated : d.replies repeated = (d.registry.handle f).val.reply ::
      (d.perform (.poll first)).val.replies (more.map .poll) := d.replies_poll hfirst _
  rw [hrepeated]
  refine ⟨hregistry, congrArg Nat.succ hlength, (d.registry.handle f).val.reply.ack, ?_⟩
  refine List.forall_mem_cons.mpr ⟨?_, hreplies⟩
  exact ⟨(d.registry.header_handle f).1, (d.registry.header_handle f).2, rfl⟩

end Standard

/-- A disconnect with the number zero is processed three times, the second time without getting its
reply out. -/
theorem repetition_changes_nothing_disconnect :
    let d : Dispatcher (Link.Memory 2) (Service Rule) := (new ({} : Link.Memory 2)).val
    let f : Frame 2 := ⟨1, 0, 9, #v[2, 7]⟩
    let heard : Link.Memory 2 := { inbound := [f] }
    let muted : Link.Memory 2 := { inbound := [f], writeFault := some "lost" }
    let polls := [heard, muted, heard].map Operation.poll
    (d.run polls).val.registry = (d.run [.poll heard]).val.registry ∧
      invocations 1 (d.run polls).events = [[2, 7], [2, 7], [2, 7]] ∧
      d.replies polls = List.replicate 3 ⟨1, 0, 0, #v[0, 0]⟩ := by
  intro d f heard muted polls
  have hd : d.Standard := .new ({} : Link.Memory 2)
  obtain ⟨hregistry, -⟩ :=
    hd.repetition_changes_nothing (f := f) rfl heard [muted, heard] (by decide +kernel)
  exact ⟨hregistry, by decide +kernel, by decide +kernel⟩

end Dispatcher

end AltBit

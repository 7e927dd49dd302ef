import AltBit.Proofs.Answering
import AltBit.Proofs.Matching

/-!
Links attached one after another. Which replies a dispatcher gives depends on its handlers and
channels and not on whether a session is connected. Where handlers remember nothing else, attaching
a link starts all over: nothing shows any longer of the links before.
-/
namespace AltBit

namespace Service
variable {τ : Type}

/-- The state as far as it shows in answers: a session answers alike connected or not. -/
def shown : Service τ → Service τ
  | session _ => session {}
  | custom t => custom t

variable [Behaviour τ] {m : Nat}

/-- What does not show before a payload shows in no answer to it, and not after it. -/
theorem react_shown (s : Service τ) (payload : Vector UInt8 m) :
    let r := (Behaviour.react s payload).val
    let r' := (Behaviour.react s.shown payload).val
    r'.payload = r.payload ∧ r'.result = r.result ∧ r'.state.shown = r.state.shown := by
  cases s with
  | custom t => exact ⟨rfl, rfl, rfl⟩
  | session c =>
    simp only [Behaviour.react, shown, react, SessionControl.react]
    cases SessionControl.requested payload with
    | error e => exact ⟨rfl, rfl, rfl⟩
    | ok operation => cases operation <;> exact ⟨rfl, rfl, rfl⟩

end Service

namespace Handler
variable {τ : Type} {h h' : Handler (Service τ)}

/-- The handler as far as it shows in answers. -/
def shown (h : Handler (Service τ)) : Handler (Service τ) := { h with state := h.state.shown }

variable [Behaviour τ] {m : Nat}

theorem invoke_shown (hh : h.shown = h'.shown) (f : Frame m) :
    (h.invoke f).val.frame = (h'.invoke f).val.frame ∧
      (h.invoke f).val.result = (h'.invoke f).val.result ∧
      (h.invoke f).val.handler.shown = (h'.invoke f).val.handler.shown := by
  obtain ⟨hid, hreliable, hstate⟩ := Handler.mk.inj hh
  have hreact := Service.react_shown h.state f.payload
  have hreact' := Service.react_shown h'.state f.payload
  rw [hstate] at hreact
  rw [val_invoke, val_invoke, hreact.1.symm.trans hreact'.1, hreact.2.1.symm.trans hreact'.2.1]
  refine ⟨rfl, rfl, ?_⟩
  simp only [shown, hid, hreliable, hreact.2.2.symm.trans hreact'.2.2]

end Handler

namespace Registry
variable {τ : Type} {r r' : Registry (Service τ)}

/-- The two registries differ in nothing that shows in replies. -/
structure Alike (r r' : Registry (Service τ)) : Prop where
  handler : ∀ id, (r.handlers.get? id).map Handler.shown = (r'.handlers.get? id).map Handler.shown
  channel : ∀ id, r.channels.get? id = r'.channels.get? id

variable [Behaviour τ] {m : Nat}

/-- After a frame only its own identifier has to be looked at. -/
theorem Alike.of_own (h : r.Alike r') (f : Frame m)
    (hhandler : ((r.handle f).val.registry.handlers.get? f.id).map Handler.shown =
      ((r'.handle f).val.registry.handlers.get? f.id).map Handler.shown)
    (hchannel : (r.handle f).val.registry.channels.get? f.id =
      (r'.handle f).val.registry.channels.get? f.id) :
    (r.handle f).val.registry.Alike (r'.handle f).val.registry := by
  constructor
  · intro id
    by_cases hid : f.id = id
    · exact hid ▸ hhandler
    · rw [(r.get?_handle_other f hid).1, (r'.get?_handle_other f hid).1]
      exact h.handler id
  · intro id
    by_cases hid : f.id = id
    · exact hid ▸ hchannel
    · rw [(r.get?_handle_other f hid).2, (r'.get?_handle_other f hid).2]
      exact h.channel id

/-- Registries that are alike answer a frame alike and stay alike. -/
theorem Alike.handle (h : r.Alike r') (f : Frame m) :
    (r.handle f).val.reply = (r'.handle f).val.reply ∧
      (r.handle f).val.delivery = (r'.handle f).val.delivery ∧
      (r.handle f).val.registry.Alike (r'.handle f).val.registry := by
  have hown := h.of_own f
  have hshown := h.handler f.id
  have hchannel := h.channel f.id
  cases hk : r.handlers.get? f.id with
  | none =>
    have hk' : r'.handlers.get? f.id = none := by simpa [hk] using hshown.symm
    rw [(handle_of_none hk).1, (handle_of_none hk').1]
    exact ⟨rfl, rfl, h⟩
  | some k =>
    obtain ⟨k', hk', hsame⟩ : ∃ k', r'.handlers.get? f.id = some k' ∧ k'.shown = k.shown := by
      rw [hk] at hshown
      exact Option.map_eq_some_iff.mp hshown.symm
    have hreliable : k.reliable = k'.reliable := (Handler.mk.inj hsame).2.1.symm
    have hchannelOf : r.channelOf? k f.id = r'.channelOf? k' f.id := by
      rw [channelOf?, channelOf?, hreliable, hchannel]
    obtain ⟨hframe, hresult, hstate⟩ := Handler.invoke_shown hsame.symm f
    rw [(handle_of_some hk).1, (handle_of_some hk').1, answer, answer, hchannelOf] at hown ⊢
    cases hc : r'.channelOf? k' f.id with
    | none =>
      rw [hc] at hown
      refine ⟨hframe, rfl, hown ?_ ?_⟩
      · simpa [handleUnreliable, IdTable.get?_insert] using hstate
      · exact hchannel
    | some c =>
      rw [hc] at hown
      cases hv : c.classify f.seq with
      | accept ack =>
        refine ⟨?_, ?_, hown ?_ ?_⟩
        · simp [handleReliable, hv, hframe]
        · simp [handleReliable, hv]
        · simpa [handleReliable, hv, IdTable.get?_insert] using hstate
        · simp [handleReliable, hv, IdTable.get?_insert, hresult]
      | duplicate ack =>
        have hduplicate (r : Registry (Service τ)) (k : Handler (Service τ)) :
            (r.handleReliable k c f).val =
              ⟨r, { f.clearPayload with ack }, some (.duplicate ack), none⟩ := by
          simp [handleReliable, hv]
        rw [hduplicate, hduplicate]
        exact ⟨rfl, rfl, h⟩

theorem Alike.handleAll (h : r.Alike r') (fs : List (Frame m)) :
    (r.handleAll fs).val.1.map Handled.reply = (r'.handleAll fs).val.1.map Handled.reply := by
  induction fs generalizing r r' with
  | nil => rfl
  | cons f fs ih =>
    obtain ⟨hreply, -, hafter⟩ := h.handle f
    simp [hreply, ih hafter]

/-- No handler remembers anything that shows in answers. -/
def Forgetful (m : Nat) (r : Registry (Service τ)) : Prop :=
  ∀ id h, r.handlers.get? id = some h → ∀ payload : Vector UInt8 m,
    (Behaviour.react h.state payload).val.state.shown = h.state.shown

/-- Frames leave no trace that shows in a registry whose handlers are forgetful. -/
theorem Forgetful.handle (hr : r.Forgetful m) (f : Frame m) (id : Identifier) :
    ((r.handle f).val.registry.handlers.get? id).map Handler.shown =
      (r.handlers.get? id).map Handler.shown := by
  by_cases hid : f.id = id
  · subst hid
    have hcase := r.handle_cases f
    generalize (r.handle f).val = x at hcase ⊢
    cases hcase with
    | unknown | duplicate => rfl
    | @unreliable k hk | @accepted k _ hk =>
      have hstate : (k.invoke f).val.handler.shown = k.shown := by
        rw [Handler.val_invoke]
        simp only [Handler.shown, hr f.id k hk f.payload]
      simpa [IdTable.get?_insert, hk] using hstate
  · rw [(r.get?_handle_other f hid).1]

/-- Whether handlers are forgetful is told from what shows of them. -/
theorem Forgetful.congr (hr : r.Forgetful m)
    (hshown : ∀ id, (r'.handlers.get? id).map Handler.shown =
      (r.handlers.get? id).map Handler.shown) : r'.Forgetful m := by
  intro id h' hh' payload
  have hmap := hshown id
  rw [hh'] at hmap
  obtain ⟨h, hh, hsame⟩ := Option.map_eq_some_iff.mp hmap.symm
  have hstate : h.state.shown = h'.state.shown := (Handler.mk.inj hsame).2.2
  calc (Behaviour.react h'.state payload).val.state.shown
      = (Behaviour.react h'.state.shown payload).val.state.shown :=
        (Service.react_shown h'.state payload).2.2.symm
    _ = (Behaviour.react h.state.shown payload).val.state.shown := by rw [hstate]
    _ = (Behaviour.react h.state payload).val.state.shown :=
        (Service.react_shown h.state payload).2.2
    _ = h.state.shown := hr id h hh payload
    _ = h'.state.shown := hstate

theorem Forgetful.install {h : Handler (Service τ)} (hr : r.Forgetful m)
    (hh : ∀ payload : Vector UInt8 m,
      (Behaviour.react h.state payload).val.state.shown = h.state.shown) :
    (r.install h).val.Forgetful m := by
  intro id k hk
  rw [get?_handlers_install] at hk
  split at hk
  · exact Option.some.inj hk ▸ hh
  · exact hr id k hk

/-- A registry that has just been set up. -/
structure Fresh (m : Nat) (r : Registry (Service τ)) : Prop where
  matched : r.Matched
  forgetful : r.Forgetful m
  untouched : ∀ id, r.Untouched id

theorem fresh_empty : (empty : Registry (Service τ)).Fresh m :=
  ⟨.empty, fun _ _ hh => by simp [empty] at hh, untouched_empty⟩

theorem Fresh.register {h : Handler (Service τ)} (hr : r.Fresh m)
    (hh : ∀ payload : Vector UInt8 m,
      (Behaviour.react h.state payload).val.state.shown = h.state.shown) :
    (r.register h).val.2.Fresh m := by
  refine ⟨hr.matched.register h, ?_, fun id => (hr.untouched id).register h⟩
  rcases r.register_cases h with hsame | ⟨-, hinstalled⟩
  · rw [hsame]
    exact hr.forgetful
  · rw [hinstalled]
    exact hr.forgetful.install hh

/-- What is left of a fresh registry once frames were answered and channels have started over. -/
structure Remains (r r' : Registry (Service τ)) : Prop where
  matched : r'.Matched
  shown : ∀ id, (r'.handlers.get? id).map Handler.shown = (r.handlers.get? id).map Handler.shown

/-- Once its channels have started over, nothing shows of what a fresh registry has been through. -/
theorem Remains.alike (h : r.Remains r') (hr : r.Fresh m) : r'.resetChannels.Alike r where
  handler := h.shown
  channel id := by
    have hreliable : r'.isReliable? id = r.isReliable? id := by
      have hmap := congrArg (Option.map Handler.reliable) (h.shown id)
      simpa [isReliable?, Function.comp_def, Handler.shown] using hmap
    change r'.resetChannels.channelState? id = r.channelState? id
    rw [channelState?_resetChannels_eq_ite]
    split
    next hopen => exact (hr.untouched id (hreliable ▸ hopen)).symm
    next hclosed =>
      rw [h.matched.channelState?_eq_none hclosed,
        hr.matched.channelState?_eq_none (hreliable ▸ hclosed)]

end Registry

namespace Dispatcher
variable {T τ : Type} [Behaviour τ] {m : Nat} [Link T m]

/-- Serving peers, in any way and over whatever links, has led from `d` to this dispatcher. -/
inductive Serves (d : Dispatcher T (Service τ)) : Dispatcher T (Service τ) → Prop
  | nobody : Serves d d
  | useLink {d' : Dispatcher T (Service τ)} (h : Serves d d') (link : T) : Serves d { d' with link }
  | poll {d' : Dispatcher T (Service τ)} (h : Serves d d') : Serves d d'.poll.val.2
  | replaceLink {d' : Dispatcher T (Service τ)} (h : Serves d d') (link : T) :
    Serves d (d'.replaceLink link).val.2

theorem Serves.trans {d d' d'' : Dispatcher T (Service τ)} (h : d.Serves d') (h' : d'.Serves d'') :
    d.Serves d'' := by
  induction h' with
  | nobody => exact h
  | useLink _ link ih => exact ih.useLink link
  | poll _ ih => exact ih.poll
  | replaceLink _ link ih => exact ih.replaceLink link

theorem Serves.remains {d d' : Dispatcher T (Service τ)} (h : d.Serves d')
    (hd : d.registry.Fresh m) : d.registry.Remains d'.registry := by
  induction h with
  | nobody => exact ⟨hd.matched, fun _ => rfl⟩
  | useLink _ link ih => exact ⟨ih.matched, ih.shown⟩
  | @poll d' _ ih =>
    rw [registry_poll]
    cases d'.incoming? with
    | none => exact ih
    | some f =>
      have hforgetful := hd.forgetful.congr ih.shown
      exact ⟨ih.matched.handle f, fun id => (hforgetful.handle f id).trans (ih.shown id)⟩
  | replaceLink _ link ih => exact ⟨ih.matched.resetChannels, ih.shown⟩

/-- The two dispatchers have the same link, and differ in nothing that shows in replies. -/
structure Alike (d d' : Dispatcher T (Service τ)) : Prop where
  link : d.link = d'.link
  registry : d.registry.Alike d'.registry

omit [Behaviour τ] in
/-- What a reply comes to is told from the link, the reply and the delivery. -/
theorem reply_congr (d d' : Dispatcher T (Service τ)) {h h' : Handled (Service τ) m}
    (hlink : d.link = d'.link) (hreply : h.reply = h'.reply)
    (hdelivery : h.delivery = h'.delivery) :
    (d.reply h).val.1 = (d'.reply h').val.1 ∧
      (d.reply h).val.2.link = (d'.reply h').val.2.link := by
  unfold reply
  rw [hlink, hreply, hdelivery]
  rcases hw : (Link.write d'.link h'.reply).val with ⟨written, link⟩
  cases h'.delivery <;> cases written <;> simp [hw]

/-- Dispatchers that are alike answer alike and stay alike. -/
theorem Alike.poll {d d' : Dispatcher T (Service τ)} (h : d.Alike d') :
    d.poll.val.1 = d'.poll.val.1 ∧ d.poll.val.2.Alike d'.poll.val.2 := by
  have hincoming : d.incoming? = d'.incoming? := by rw [incoming?, incoming?, h.link]
  have hregistry : d.poll.val.2.registry.Alike d'.poll.val.2.registry := by
    rw [registry_poll, registry_poll, hincoming]
    cases d'.incoming? with
    | none => exact h.registry
    | some f => exact (h.registry.handle f).2.2
  suffices hanswer : d.poll.val.1 = d'.poll.val.1 ∧ d.poll.val.2.link = d'.poll.val.2.link from
    ⟨hanswer.1, hanswer.2, hregistry⟩
  unfold Dispatcher.poll
  rw [h.link]
  rcases hready : (Link.isReady d'.link).val with ⟨ready, link⟩
  rcases hframe : (Link.receive link).val with ⟨frame, link'⟩
  cases ready with
  | error e => simp [hready]
  | ok b =>
    cases b with
    | false => simp [hready]
    | true =>
      cases frame with
      | error e => simp [hready, hframe]
      | ok f =>
        cases f with
        | none => simp [hready, hframe]
        | some f =>
          obtain ⟨hreply, hdelivery, -⟩ := h.registry.handle f
          simp only [hready, hframe, Traced.val_bind]
          exact reply_congr (handled { d with link := link' } (d.registry.handle f).val)
            (handled { d' with link := link' } (d'.registry.handle f).val) rfl hreply hdelivery

end Dispatcher

/-- What happens while a peer is served: a poll, or something that is done to the link or by it. -/
inductive Turn (T : Type) where
  | poll
  | useLink (use : T → T)

namespace Dispatcher
variable {T σ : Type} {m : Nat} [Link T m] [Behaviour σ]

/-- Takes turns, and lists what the polls among them have answered. -/
def takeTurns (d : Dispatcher T σ) :
    List (Turn T) → Traced (List (Except DispatchError Polled) × Dispatcher T σ)
  | [] => pure ([], d)
  | .poll :: turns => do
    let (r, d) ← d.poll
    let (rs, d) ← d.takeTurns turns
    pure (r :: rs, d)
  | .useLink use :: turns => takeTurns { d with link := use d.link } turns

theorem Serves.takeTurns {τ : Type} [Behaviour τ] {d d' : Dispatcher T (Service τ)}
    (h : d.Serves d') (turns : List (Turn T)) : d.Serves (d'.takeTurns turns).val.2 := by
  induction turns generalizing d' with
  | nil => exact h
  | cons turn turns ih =>
    cases turn with
    | poll => exact ih h.poll
    | useLink use => exact ih (h.useLink (use d'.link))

theorem Alike.takeTurns {τ : Type} [Behaviour τ] {d d' : Dispatcher T (Service τ)} (h : d.Alike d')
    (turns : List (Turn T)) : (d.takeTurns turns).val.1 = (d'.takeTurns turns).val.1 ∧
      (d.takeTurns turns).val.2.Alike (d'.takeTurns turns).val.2 := by
  induction turns generalizing d d' with
  | nil => exact ⟨rfl, h⟩
  | cons turn turns ih =>
    cases turn with
    | poll =>
      obtain ⟨hanswer, hafter⟩ := h.poll
      obtain ⟨hanswers, hlast⟩ := ih hafter
      exact ⟨List.cons_eq_cons.mpr ⟨hanswer, hanswers⟩, hlast⟩
    | useLink use => exact ih ⟨congrArg use h.link, h.registry⟩

end Dispatcher

end AltBit

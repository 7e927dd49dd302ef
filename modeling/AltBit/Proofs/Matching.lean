import AltBit.Handler.Rule
import AltBit.Link.Memory
import AltBit.Proofs.Operation

/-!
The registry as a map. Whatever is done to a dispatcher or to a registry alone, each handler stays
under its own identifier and a channel is open exactly where a reliable handler is registered, so no
frame of a reliable handler goes past its channel. What is done changes the identifiers that it
names and no others; starting over moves open channels to even and opens none.
-/
namespace AltBit

theorem Identifier.pairwise_all : Identifier.all.Pairwise (· < ·) := by
  refine List.pairwise_map.mpr (List.pairwise_lt_range.imp_of_mem fun {i j} hi hj hij => ?_)
  rw [List.mem_range] at hi hj
  rw [UInt8.lt_iff_toNat_lt, UInt8.toNat_ofNat_of_lt' hi, UInt8.toNat_ofNat_of_lt' hj]
  exact hij

namespace Registry
variable {σ : Type} {r r' : Registry σ} {h : Handler σ} {id : Identifier}

theorem mem_listIds (r : Registry σ) (id : Identifier) :
    id ∈ r.listIds ↔ (r.handlers.get? id).isSome = true ∧ id ≠ Identifier.sessionControl := by
  simp [listIds, Identifier.isReserved]

theorem pairwise_listIds (r : Registry σ) : r.listIds.Pairwise (· < ·) :=
  (Identifier.pairwise_all.filter _).filter _

theorem get?_handlers_install (r : Registry σ) (h : Handler σ) (id : Identifier) :
    (r.install h).val.handlers.get? id = if id = h.id then some h else r.handlers.get? id := by
  simp [install, IdTable.get?_insert]

/-- A registration that fails has found the identifier taken, and changes nothing. -/
theorem register_of_error {e : DispatchError} (he : (r.register h).val.1 = .error e) :
    e = .duplicateIdentifier h.id ∧ (r.register h).val.2 = r := by
  unfold register at he ⊢
  split at he
  · rw [if_pos ‹_›]
    exact ⟨(Except.error.inj he).symm, rfl⟩
  · cases he

/-- A registration fails or installs the handler where there was none. -/
theorem register_cases (r : Registry σ) (h : Handler σ) :
    (r.register h).val.2 = r ∨
      r.handlers.get? h.id = none ∧ (r.register h).val.2 = (r.install h).val := by
  cases hresult : (r.register h).val.1 with
  | error e => exact .inl (register_of_error hresult).2
  | ok =>
    refine .inr ⟨?_, register_of_ok hresult⟩
    unfold register at hresult
    split at hresult
    · cases hresult
    · simpa [IdTable.contains] using ‹¬r.handlers.contains h.id = true›

/-- Where another identifier is concerned, nothing is different once a handler is installed. -/
theorem get?_install_other (r : Registry σ) (hid : id ≠ h.id) :
    (r.install h).val.handlers.get? id = r.handlers.get? id ∧
      (r.install h).val.channelState? id = r.channelState? id := by
  rw [get?_handlers_install, channelState?_install, if_neg hid, if_neg fun hh => hid hh.1]
  exact ⟨rfl, rfl⟩

theorem get?_registerAll_other {hs : List (Handler σ)} (r : Registry σ)
    (hid : id ∉ hs.map Handler.id) :
    (r.registerAll hs).val.2.handlers.get? id = r.handlers.get? id ∧
      (r.registerAll hs).val.2.channelState? id = r.channelState? id := by
  refine registerAll_keeps (P := fun r' => r'.handlers.get? id = r.handlers.get? id ∧
    r'.channelState? id = r.channelState? id) (fun r' h hh hr' => ?_) ⟨rfl, rfl⟩
  have hne : id ≠ h.id := fun heq => hid (List.mem_map.mpr ⟨h, hh, heq.symm⟩)
  rcases r'.register_cases h with hsame | ⟨-, hinstalled⟩
  · rw [hsame]
    exact hr'
  · obtain ⟨hhandler, hchannel⟩ := r'.get?_install_other hne
    rw [hinstalled]
    exact ⟨hhandler.trans hr'.1, hchannel.trans hr'.2⟩

/-- Removing a handler closes its channel; where there is none, nothing happens. -/
theorem deregister_cases (r : Registry σ) (j : Identifier) :
    (r.deregister j).val.2 = r ∨ (r.deregister j).val.2 =
      { r with handlers := r.handlers.erase j, channels := r.channels.erase j } := by
  unfold deregister
  split
  · exact .inl rfl
  · exact .inr rfl

theorem get?_deregister_other (r : Registry σ) {j : Identifier} (hid : id ≠ j) :
    (r.deregister j).val.2.handlers.get? id = r.handlers.get? id ∧
      (r.deregister j).val.2.channelState? id = r.channelState? id := by
  rcases r.deregister_cases j with hsame | hremoved
  · rw [hsame]
    exact ⟨rfl, rfl⟩
  · rw [hremoved]
    simp [channelState?, IdTable.get?_erase, hid]

section
variable [Behaviour σ] {m : Nat}

/-- A frame finds the same registrations as it leaves, and the same channels open. -/
theorem registration_handle (r : Registry σ) (f : Frame m) (id : Identifier) :
    ((r.handle f).val.registry.handlers.get? id).map (fun h => (h.id, h.reliable)) =
        (r.handlers.get? id).map (fun h => (h.id, h.reliable)) ∧
      ((r.handle f).val.registry.channelState? id).isSome = (r.channelState? id).isSome := by
  by_cases hid : f.id = id
  · subst hid
    have hcase := r.handle_cases f
    generalize (r.handle f).val = x at hcase ⊢
    cases hcase with
    | unknown | duplicate => exact ⟨rfl, rfl⟩
    | unreliable hh =>
      simp [channelState?, Handler.val_invoke, IdTable.get?_insert, hh]
    | accepted hh hc =>
      rw [(channelOf?_eq_some_iff.mp hc).2]
      simp [channelState?, Handler.val_invoke, IdTable.get?_insert, hh]
  · obtain ⟨hhandler, hchannel⟩ := r.get?_handle_other f hid
    unfold channelState?
    rw [hhandler, hchannel]
    exact ⟨rfl, rfl⟩

theorem isReliable?_handle (r : Registry σ) (f : Frame m) (id : Identifier) :
    (r.handle f).val.registry.isReliable? id = r.isReliable? id := by
  have hregistration := congrArg (Option.map Prod.snd) (r.registration_handle f id).1
  simpa [isReliable?, Function.comp_def] using hregistration

end

/-- Each handler is registered under its own identifier, and a channel is open exactly where a
reliable handler is registered. -/
structure Matched (r : Registry σ) : Prop where
  owner : ∀ id h, r.handlers.get? id = some h → h.id = id
  channel : ∀ id, (r.channelState? id).isSome = true ↔ r.isReliable? id = some true

namespace Matched

theorem empty : (empty : Registry σ).Matched := by
  constructor <;> simp [Registry.empty, channelState?, isReliable?]

/-- A handler that takes the place of nobody. -/
theorem install (hr : r.Matched) (hfree : r.handlers.get? h.id = none) :
    (r.install h).val.Matched := by
  constructor
  · intro id k hk
    rw [get?_handlers_install] at hk
    by_cases hid : id = h.id
    · rw [if_pos hid] at hk
      rw [← Option.some.inj hk, hid]
    · rw [if_neg hid] at hk
      exact hr.owner id k hk
  · intro id
    rw [channelState?_install, isReliable?_install]
    by_cases hid : id = h.id
    · have hclosed := hr.channel h.id
      subst hid
      cases hh : h.reliable <;> simp_all [isReliable?]
    · simpa [hid] using hr.channel id

theorem register (hr : r.Matched) (h : Handler σ) : (r.register h).val.2.Matched := by
  rcases r.register_cases h with hsame | ⟨hfree, hinstalled⟩
  · rwa [hsame]
  · rw [hinstalled]
    exact hr.install hfree

theorem registerAll (hr : r.Matched) (hs : List (Handler σ)) : (r.registerAll hs).val.2.Matched :=
  registerAll_keeps (P := Matched) (fun _ h _ hr => hr.register h) hr

theorem deregister (hr : r.Matched) (j : Identifier) : (r.deregister j).val.2.Matched := by
  rcases r.deregister_cases j with hsame | hremoved
  · rwa [hsame]
  · rw [hremoved]
    constructor
    · intro id k hk
      dsimp only at hk
      rw [IdTable.get?_erase] at hk
      split at hk
      · cases hk
      · exact hr.owner id k hk
    · intro id
      have hchannel := hr.channel id
      unfold channelState? isReliable? at hchannel ⊢
      dsimp only
      rw [IdTable.get?_erase, IdTable.get?_erase]
      split
      · simp
      · exact hchannel

theorem resetChannels (hr : r.Matched) : r.resetChannels.Matched where
  owner := hr.owner
  channel id := by
    have hreliable : r.resetChannels.isReliable? id = r.isReliable? id := rfl
    rw [channelState?_resetChannels_eq_ite, hreliable]
    split
    next h => simp [h]
    next => exact hr.channel id

theorem channelState?_eq_none (hr : r.Matched) (h : r.isReliable? id ≠ some true) :
    r.channelState? id = none :=
  Option.not_isSome_iff_eq_none.mp fun hopen => h ((hr.channel id).mp hopen)

/-- In a matched registry starting over moves the open channels to even and opens none. -/
theorem channelState?_resetChannels (hr : r.Matched) (id : Identifier) :
    r.resetChannels.channelState? id = (r.channelState? id).map fun _ => .awaitingEven := by
  rw [channelState?_resetChannels_eq_ite]
  split
  next h =>
    obtain ⟨c, hc⟩ := Option.isSome_iff_exists.mp ((hr.channel id).mpr h)
    rw [hc, Option.map_some]
  next h => rw [hr.channelState?_eq_none h, Option.map_none]

theorem handle [Behaviour σ] {m : Nat} (hr : r.Matched) (f : Frame m) :
    (r.handle f).val.registry.Matched := by
  constructor
  · intro id k hk
    have hregistration := (r.registration_handle f id).1
    rw [hk] at hregistration
    obtain ⟨h, hh, hsame⟩ := Option.map_eq_some_iff.mp hregistration.symm
    rw [← (Prod.mk.inj hsame).1]
    exact hr.owner id h hh
  · intro id
    rw [(r.registration_handle f id).2, isReliable?_handle]
    exact hr.channel id

/-- Frames of a reliable handler go through its channel and other frames through none. -/
theorem isSome_channelOf? (hr : r.Matched) (hh : r.handlers.get? id = some h) :
    (r.channelOf? h id).isSome = h.reliable := by
  have hchannel := hr.channel id
  unfold channelState? isReliable? at hchannel
  unfold channelOf?
  cases hreliable : h.reliable with
  | false => simp
  | true => simpa [hh, hreliable] using hchannel

end Matched

/-- From `r` to `r'` only the identifiers `named` have changed, except that open channels may have
started over. A handler that has become reliable begins at even. -/
structure Changes (named : List Identifier) (startsOver : Bool) (r r' : Registry σ) : Prop where
  matched : r'.Matched
  opened : ∀ id, r.isReliable? id ≠ some true → r'.isReliable? id = some true →
    r'.channelState? id = some .awaitingEven
  handler : ∀ id, id ∉ named → r'.handlers.get? id = r.handlers.get? id
  channel : ∀ id, id ∉ named → r'.channelState? id =
    if startsOver then (r.channelState? id).map fun _ => .awaitingEven else r.channelState? id

namespace Changes

/-- Registries that differ in the queue only. -/
theorem ofSame (hr : r.Matched) (hhandlers : r'.handlers = r.handlers)
    (hchannels : r'.channels = r.channels) (named : List Identifier) :
    Changes named false r r' := by
  have hchannel (id : Identifier) : r'.channelState? id = r.channelState? id := by
    rw [channelState?, channelState?, hchannels]
  have hreliable (id : Identifier) : r'.isReliable? id = r.isReliable? id := by
    rw [isReliable?, isReliable?, hhandlers]
  refine ⟨⟨?_, ?_⟩, ?_, fun id _ => by rw [hhandlers], fun id _ => hchannel id⟩
  · rw [hhandlers]
    exact hr.owner
  · intro id
    rw [hchannel, hreliable]
    exact hr.channel id
  · intro id hbefore hafter
    exact absurd ((hreliable id).symm.trans hafter) hbefore

theorem registerAll (hr : r.Matched) (hs : List (Handler σ)) :
    Changes (hs.map Handler.id) false r (r.registerAll hs).val.2 where
  matched := hr.registerAll hs
  opened id hbefore hafter := by
    have huntouched : r.Untouched id := fun h => absurd h hbefore
    exact huntouched.registerAll hs hafter
  handler _ hid := (r.get?_registerAll_other hid).1
  channel _ hid := (r.get?_registerAll_other hid).2

theorem register (hr : r.Matched) (h : Handler σ) :
    Changes [h.id] false r (r.register h).val.2 := by
  have hothers (id : Identifier) (hid : id ∉ [h.id]) :
      (r.register h).val.2.handlers.get? id = r.handlers.get? id ∧
        (r.register h).val.2.channelState? id = r.channelState? id := by
    rcases r.register_cases h with hsame | ⟨-, hinstalled⟩
    · rw [hsame]
      exact ⟨rfl, rfl⟩
    · rw [hinstalled]
      exact r.get?_install_other (List.ne_of_not_mem_cons hid)
  refine ⟨hr.register h, ?_, fun id hid => (hothers id hid).1, fun id hid => (hothers id hid).2⟩
  intro id hbefore hafter
  have huntouched : r.Untouched id := fun h => absurd h hbefore
  exact huntouched.register h hafter

theorem deregister (hr : r.Matched) (j : Identifier) :
    Changes [j] false r (r.deregister j).val.2 := by
  refine ⟨hr.deregister j, ?_, ?_, ?_⟩
  · intro id hbefore hafter
    rcases r.deregister_cases j with hsame | hremoved
    · rw [hsame] at hafter
      exact absurd hafter hbefore
    · rw [hremoved, isReliable?, IdTable.get?_erase] at hafter
      split at hafter
      · cases hafter
      · exact absurd hafter hbefore
  · exact fun id hid => (r.get?_deregister_other (List.ne_of_not_mem_cons hid)).1
  · exact fun id hid => (r.get?_deregister_other (List.ne_of_not_mem_cons hid)).2

theorem resetChannels (hr : r.Matched) : Changes [] true r r.resetChannels where
  matched := hr.resetChannels
  opened _ hbefore hafter := absurd hafter hbefore
  handler _ _ := rfl
  channel id _ := hr.channelState?_resetChannels id

theorem handle [Behaviour σ] {m : Nat} (hr : r.Matched) (f : Frame m) :
    Changes [f.id] false r (r.handle f).val.registry where
  matched := hr.handle f
  opened id hbefore hafter := absurd ((r.isReliable?_handle f id).symm.trans hafter) hbefore
  handler _ hid := (r.get?_handle_other f (List.ne_of_not_mem_cons hid).symm).1
  channel _ hid := (r.get?_handle_other f (List.ne_of_not_mem_cons hid).symm).2

end Changes

end Registry

/-- What can be done to a dispatcher, or to a registry by itself. -/
inductive Act (T σ : Type) where
  | operate (o : Operation T σ)
  /-- Uses the link for something else and leaves it in the given state. -/
  | useLink (link : T)
  /-- Registers handlers that were made for it, until an identifier is found taken. -/
  | registerAll (hs : List (Handler σ))
  | resetChannels

/-- Whether all open channels start over. -/
def Act.startsOver {T σ : Type} : Act T σ → Bool
  | operate (.replaceLink _) | resetChannels => true
  | _ => false

namespace Dispatcher
variable {T σ : Type} {m : Nat} [Link T m] [Behaviour σ]

def act (d : Dispatcher T σ) : Act T σ → Traced (Dispatcher T σ)
  | .operate o => d.perform o
  | .useLink link => pure { d with link }
  | .registerAll hs => do
    let (_, registry) ← d.registry.registerAll hs
    pure { d with registry }
  | .resetChannels => pure { d with registry := d.registry.resetChannels }

/-- The identifiers that an act is about: a poll is about the frame that it takes. -/
def named (d : Dispatcher T σ) : Act T σ → List Identifier
  | .operate (.poll link) => (incoming? { d with link }).toList.map Frame.id
  | .operate (.register h) => [h.id]
  | .operate (.deregister id) => [id]
  | .operate .drain => d.registry.queue.map Handler.id
  | .registerAll hs => hs.map Handler.id
  | .operate (.enqueue _) | .operate (.replaceLink _) | .useLink _ | .resetChannels => []

/-- The states that a dispatcher can get into. One that starts without any handler stands for a
registry by itself. -/
inductive Reachable : Dispatcher T σ → Prop
  | empty (link : T) : Reachable { link, registry := .empty }
  | made (link : T) (h : Handler σ) (hid : h.id = Identifier.sessionControl) :
    Reachable (startingWith link h).val
  | act {d : Dispatcher T σ} (hd : Reachable d) (a : Act T σ) : Reachable (d.act a).val

theorem changes_act {d : Dispatcher T σ} (hd : d.registry.Matched) (a : Act T σ) :
    d.registry.Changes (d.named a) a.startsOver (d.act a).val.registry := by
  cases a with
  | operate o =>
    cases o with
    | poll link =>
      have hpoll := registry_poll { d with link }
      have hact : (d.act (.operate (.poll link))).val.registry =
          (poll { d with link }).val.2.registry := rfl
      rw [hact, hpoll, named]
      cases incoming? { d with link } with
      | none => exact .ofSame hd rfl rfl []
      | some f => exact .handle hd f
    | register h => exact .register hd h
    | deregister id => exact .deregister hd id
    | enqueue h =>
      have hhandlers : (d.registry.enqueue h).handlers = d.registry.handlers := rfl
      have hchannels : (d.registry.enqueue h).channels = d.registry.channels := rfl
      exact .ofSame hd hhandlers hchannels []
    | drain => exact .registerAll hd d.registry.queue
    | replaceLink link => exact .resetChannels hd
  | useLink link => exact .ofSame hd rfl rfl []
  | registerAll hs => exact .registerAll hd hs
  | resetChannels => exact .resetChannels hd

theorem Reachable.matched {d : Dispatcher T σ} (hd : d.Reachable) : d.registry.Matched := by
  induction hd with
  | empty link => exact .empty
  | made link h hid => exact Registry.Matched.empty.install (IdTable.get?_empty h.id)
  | act hd a ih => exact (changes_act ih a).matched

/-- In every state the registry is a map from identifiers to handlers with a channel for each
reliable one and for no other. A registration that fails changes nothing; other acts change what
they name, open channels at even, and may start all of them over. -/
theorem Reachable.registry_is_map {d : Dispatcher T σ} (hd : d.Reachable) :
    d.registry.Matched ∧
    (∀ id h, d.registry.handlers.get? id = some h →
      (d.registry.channelOf? h id).isSome = h.reliable) ∧
    d.registry.listIds.Pairwise (· < ·) ∧
    (∀ id, id ∈ d.registry.listIds ↔
      (d.registry.handlers.get? id).isSome = true ∧ id ≠ Identifier.sessionControl) ∧
    (∀ h e, (d.registry.register h).val.1 = .error e →
      e = .duplicateIdentifier h.id ∧ (d.registry.register h).val.2 = d.registry) ∧
    ∀ a : Act T σ, d.registry.Changes (d.named a) a.startsOver (d.act a).val.registry :=
  ⟨hd.matched, fun _ _ hh => hd.matched.isSome_channelOf? hh, d.registry.pairwise_listIds,
    d.registry.mem_listIds, fun _ _ he => Registry.register_of_error he, changes_act hd.matched⟩

/-- The handler for 5 has accepted a frame. -/
def registeredOnce : Dispatcher (Link.Memory 2) (Service Rule) :=
  let start := (new ({} : Link.Memory 2)).val
  let registered := (start.act (.operate (.register ⟨5, true, .custom .echo⟩))).val
  (registered.act (.operate (.poll { inbound := [{ Frame.zero with id := 5 }] }))).val

theorem registry_is_map_registeredOnce :
    let removed := (registeredOnce.act (.operate (.deregister 5))).val
    let again := (removed.act (.operate (.register ⟨5, true, .custom .double⟩))).val
    registeredOnce.registry.channelState? 5 = some .awaitingOdd ∧
      removed.Reachable ∧ removed.registry.channelState? 5 = none ∧
      5 ∈ again.registry.listIds ∧ again.registry.channelState? 5 = some .awaitingEven := by
  intro removed again
  have hremoved : removed.Reachable := .act (.act (.act (.made _ _ rfl) _) _) _
  have hagain : again.Reachable := .act hremoved _
  have hchanges := hremoved.registry_is_map.2.2.2.2.2
    (.operate (.register ⟨5, true, .custom .double⟩))
  refine ⟨by decide +kernel, hremoved, by decide +kernel, ?_, ?_⟩
  · exact (hagain.registry_is_map.2.2.2.1 5).mpr ⟨by decide +kernel, by decide⟩
  · exact hchanges.opened 5 (by decide +kernel) (by decide +kernel)

end Dispatcher

end AltBit

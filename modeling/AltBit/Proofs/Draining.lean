import AltBit.Handler.Rule
import AltBit.Proofs.Matching

/-!
Draining the queue. Handlers are made ready and registered one after another, up to the first whose
identifier is taken by a handler that was registered before or by one in front of it; none is made
ready after that one. What was registered before, and the queue, stay as they are. So a batch that
has been registered can be registered again once it has been removed, and not before.
-/
namespace AltBit

/-- The identifier of the handler that was made ready, if the event says so. -/
def Event.prepared? : Event → Option Identifier
  | prepared id => some id
  | _ => none

/-- The identifiers of the handlers that were made ready for registration, oldest first. -/
def preparations (events : List Event) : List Identifier := events.filterMap Event.prepared?

namespace Registry
variable {σ : Type} {r r' : Registry σ} {h : Handler σ} {hs : List (Handler σ)} {k : Nat}

/-- The identifier of the handler at `k` is taken, by a registered handler or by one in front of
it. -/
def TakenAt (r : Registry σ) (hs : List (Handler σ)) (k : Nat) : Prop :=
  ∃ h, hs[k]? = some h ∧ (r.handlers.contains h.id = true ∨ h.id ∈ (hs.take k).map Handler.id)

/-- No identifier of the handlers is taken. -/
def Admits (r : Registry σ) (hs : List (Handler σ)) : Prop := ∀ k, ¬r.TakenAt hs k

/-- `r'` is `r` with the given handlers registered in addition, and nothing else is different. -/
structure Gains (r : Registry σ) (hs : List (Handler σ)) (r' : Registry σ) : Prop where
  handler : ∀ h ∈ hs, r'.handlers.get? h.id = some h
  channel : ∀ h ∈ hs, r'.channelState? h.id =
    if h.reliable then some .awaitingEven else r.channelState? h.id
  kept : ∀ id, r.handlers.contains id = true ∨ id ∉ hs.map Handler.id →
    r'.handlers.get? id = r.handlers.get? id ∧ r'.channelState? id = r.channelState? id
  queue : r'.queue = r.queue

instance (r : Registry σ) (hs : List (Handler σ)) (k : Nat) : Decidable (r.TakenAt hs k) :=
  inferInstanceAs (Decidable (∃ h, h ∈ hs[k]? ∧ _))

theorem Gains.refl (r : Registry σ) : r.Gains [] r :=
  ⟨nofun, nofun, fun _ _ => ⟨rfl, rfl⟩, rfl⟩

theorem Gains.contains (h : r.Gains hs r') (id : Identifier) :
    r'.handlers.contains id = true ↔
      id ∈ hs.map Handler.id ∨ r.handlers.contains id = true := by
  by_cases hid : id ∈ hs.map Handler.id
  · obtain ⟨k, hk, rfl⟩ := List.mem_map.mp hid
    simp [IdTable.contains, h.handler k hk, hid]
  · simp [IdTable.contains, (h.kept id (.inr hid)).1, hid]

theorem contains_install (r : Registry σ) (h : Handler σ) (id : Identifier) :
    (r.install h).val.handlers.contains id = true ↔
      id = h.id ∨ r.handlers.contains id = true := by
  rw [IdTable.contains, get?_handlers_install, IdTable.contains]
  by_cases hid : id = h.id <;> simp [hid]

theorem takenAt_zero : r.TakenAt (h :: hs) 0 ↔ r.handlers.contains h.id = true := by
  simp [TakenAt]

/-- For what stands behind it, a handler might as well have been installed before. -/
theorem takenAt_succ : r.TakenAt (h :: hs) (k + 1) ↔ (r.install h).val.TakenAt hs k := by
  simp only [TakenAt, contains_install, List.getElem?_cons_succ, List.take_succ_cons,
    List.map_cons, List.mem_cons]
  grind

theorem admits_cons : r.Admits (h :: hs) ↔
    r.handlers.contains h.id = false ∧ (r.install h).val.Admits hs := by
  constructor
  · intro hadmits
    refine ⟨?_, fun k htaken => hadmits (k + 1) (takenAt_succ.mpr htaken)⟩
    exact Bool.eq_false_iff.mpr fun htaken => hadmits 0 (takenAt_zero.mpr htaken)
  · rintro ⟨hfree, hrest⟩ k htaken
    cases k with
    | zero => exact Bool.eq_false_iff.mp hfree (takenAt_zero.mp htaken)
    | succ k => exact hrest k (takenAt_succ.mp htaken)

/-- Handlers are admitted if their identifiers are free and no two are the same. -/
theorem admits_iff : r.Admits hs ↔
    (∀ id ∈ hs.map Handler.id, r.handlers.contains id = false) ∧ (hs.map Handler.id).Nodup := by
  induction hs generalizing r with
  | nil => simp [Admits, TakenAt]
  | cons h hs ih =>
    have hfree (id : Identifier) : (r.install h).val.handlers.contains id = false ↔
        id ≠ h.id ∧ r.handlers.contains id = false := by
      rw [← Bool.not_eq_true, contains_install]
      simp
    simp only [admits_cons, ih, hfree, List.map_cons, List.mem_cons, List.nodup_cons]
    grind

theorem exists_first_taken (hnot : ¬r.Admits hs) :
    ∃ k, r.TakenAt hs k ∧ ∀ j < k, ¬r.TakenAt hs j := by
  induction hs generalizing r with
  | nil => exact absurd (fun k => by simp [TakenAt]) hnot
  | cons h hs ih =>
    cases hh : r.handlers.contains h.id with
    | true => exact ⟨0, takenAt_zero.mpr hh, nofun⟩
    | false =>
      obtain ⟨k, htaken, hfirst⟩ := ih fun hrest => hnot (admits_cons.mpr ⟨hh, hrest⟩)
      refine ⟨k + 1, takenAt_succ.mpr htaken, fun j hj hj' => ?_⟩
      cases j with
      | zero => exact Bool.eq_false_iff.mp hh (takenAt_zero.mp hj')
      | succ j => exact hfirst j (Nat.lt_of_succ_lt_succ hj) (takenAt_succ.mp hj')

theorem registerAll_of_taken (htaken : r.handlers.contains h.id = true)
    (hs : List (Handler σ)) :
    (r.registerAll (h :: hs)).val = (.error (.duplicateIdentifier h.id), r) ∧
      preparations (r.registerAll (h :: hs)).events = [h.id] := by
  have hval : (r.register h).val = (.error (.duplicateIdentifier h.id), r) := by
    rw [register, if_pos htaken]
    rfl
  have hevents : (r.register h).events = [.identifierTaken h.id] := by
    rw [register, if_pos htaken]
    rfl
  simp [registerAll, hval, hevents, preparations, Event.prepared?]

theorem registerAll_of_free (hfree : r.handlers.contains h.id = false)
    (hs : List (Handler σ)) :
    (r.registerAll (h :: hs)).val = ((r.install h).val.registerAll hs).val ∧
      preparations (r.registerAll (h :: hs)).events =
        h.id :: preparations ((r.install h).val.registerAll hs).events := by
  have hval : (r.register h).val = (.ok (), (r.install h).val) := by
    rw [register, if_neg (Bool.eq_false_iff.mp hfree)]
    rfl
  have hevents : (r.register h).events = [.registered h.id h.reliable] := by
    rw [register, if_neg (Bool.eq_false_iff.mp hfree)]
    rfl
  simp [registerAll, hval, hevents, preparations, Event.prepared?, List.filterMap_cons]

theorem Gains.install {h : Handler σ} (hfree : r.handlers.contains h.id = false)
    (hrest : h.id ∉ hs.map Handler.id) (hr' : (r.install h).val.Gains hs r') :
    r.Gains (h :: hs) r' where
  handler k hk := by
    rcases List.mem_cons.mp hk with rfl | hk
    · rw [(hr'.kept k.id (.inr hrest)).1, get?_handlers_install, if_pos rfl]
    · exact hr'.handler k hk
  channel k hk := by
    rcases List.mem_cons.mp hk with rfl | hk
    · rw [(hr'.kept k.id (.inr hrest)).2, channelState?_install]
      simp
    · have hne : k.id ≠ h.id := fun heq => hrest (heq ▸ List.mem_map_of_mem hk)
      rw [hr'.channel k hk, (r.get?_install_other hne).2]
  kept id hid := by
    have hne : id ≠ h.id := by
      rintro rfl
      simp [hfree] at hid
    have hkept : (r.install h).val.handlers.contains id = true ∨ id ∉ hs.map Handler.id :=
      hid.imp (fun hregistered => (contains_install ..).mpr (.inr hregistered))
        fun hother hmem => hother (List.mem_cons_of_mem _ hmem)
    obtain ⟨hhandler, hchannel⟩ := hr'.kept id hkept
    obtain ⟨hhandler', hchannel'⟩ := r.get?_install_other hne
    exact ⟨hhandler.trans hhandler', hchannel.trans hchannel'⟩
  queue := hr'.queue

/-- Handlers that are admitted are made ready and registered before those behind them. -/
theorem registerAll_append {front : List (Handler σ)} (hadmits : r.Admits front)
    (back : List (Handler σ)) :
    ∃ r', r.Gains front r' ∧
      (r.registerAll (front ++ back)).val = (r'.registerAll back).val ∧
      preparations (r.registerAll (front ++ back)).events =
        front.map Handler.id ++ preparations (r'.registerAll back).events := by
  induction front generalizing r with
  | nil => exact ⟨r, .refl r, rfl, rfl⟩
  | cons h front ih =>
    obtain ⟨hfree, hrest⟩ := admits_cons.mp hadmits
    have hother : h.id ∉ front.map Handler.id := (List.nodup_cons.mp (admits_iff.mp hadmits).2).1
    obtain ⟨r', hgains, hval, hprepared⟩ := ih hrest
    obtain ⟨hfirst, hprepared'⟩ := registerAll_of_free hfree (front ++ back)
    refine ⟨r', hgains.install hfree hother, hfirst.trans hval, ?_⟩
    rw [List.cons_append, hprepared', hprepared]
    rfl

/-- Handlers that are admitted are all made ready and registered. -/
theorem registerAll_of_admits (hadmits : r.Admits hs) :
    (r.registerAll hs).val.1 = .ok () ∧
      preparations (r.registerAll hs).events = hs.map Handler.id ∧
      r.Gains hs (r.registerAll hs).val.2 := by
  obtain ⟨r', hgains, hval, hprepared⟩ := registerAll_append hadmits []
  rw [List.append_nil] at hval hprepared
  rw [hval, hprepared]
  exact ⟨rfl, List.append_nil _, hgains⟩

theorem admits_take (hfirst : ∀ j < k, ¬r.TakenAt hs j) : r.Admits (hs.take k) := by
  rintro j ⟨h, hj, htaken⟩
  obtain ⟨hlt, hj'⟩ : j < k ∧ hs[j]? = some h := by
    rw [List.getElem?_take] at hj
    split at hj
    · exact ⟨‹_›, hj⟩
    · cases hj
  rw [List.take_take, Nat.min_eq_left (Nat.le_of_lt hlt)] at htaken
  exact hfirst j hlt ⟨h, hj', htaken⟩

/-- The handlers in front of the first whose identifier is taken are registered; that one is made
ready, and none behind it. -/
theorem registerAll_of_takenAt (hk : hs[k]? = some h) (htaken : r.TakenAt hs k)
    (hfirst : ∀ j < k, ¬r.TakenAt hs j) :
    (r.registerAll hs).val.1 = .error (.duplicateIdentifier h.id) ∧
      preparations (r.registerAll hs).events = (hs.take (k + 1)).map Handler.id ∧
      r.Gains (hs.take k) (r.registerAll hs).val.2 := by
  have hsplit : hs = hs.take k ++ h :: hs.drop (k + 1) := by
    obtain ⟨hlt, rfl⟩ := List.getElem?_eq_some_iff.mp hk
    rw [List.getElem_cons_drop, List.take_append_drop]
  obtain ⟨r', hgains, hval, hprepared⟩ := registerAll_append (admits_take hfirst)
    (h :: hs.drop (k + 1))
  have htaken' : r'.handlers.contains h.id = true := by
    obtain ⟨g, hg, hcollides⟩ := htaken
    obtain rfl : g = h := Option.some.inj (hg.symm.trans hk)
    exact (hgains.contains g.id).mpr hcollides.symm
  obtain ⟨hstops, hprepared'⟩ := registerAll_of_taken htaken' (hs.drop (k + 1))
  rw [← hsplit, hstops] at hval
  rw [← hsplit, hprepared'] at hprepared
  rw [hval, hprepared, List.take_add_one, hk, List.map_append]
  exact ⟨rfl, rfl, hgains⟩

/-- Registering succeeds only where every handler is admitted. -/
theorem admits_of_ok (hok : (r.registerAll hs).val.1 = .ok ()) : r.Admits hs := by
  by_cases hadmits : r.Admits hs
  · exact hadmits
  · obtain ⟨k, htaken, hfirst⟩ := exists_first_taken hadmits
    have ⟨h, hk, _⟩ := htaken
    rw [(registerAll_of_takenAt hk htaken hfirst).1] at hok
    cases hok

/-- Removes the handlers of some identifiers. -/
def deregisterAll (r : Registry σ) (ids : List Identifier) : Registry σ :=
  ids.foldl (fun r id => (r.deregister id).val.2) r

theorem get?_deregister (r : Registry σ) (j id : Identifier) :
    (r.deregister j).val.2.handlers.get? id = if id = j then none else r.handlers.get? id := by
  unfold deregister
  split
  · split <;> simp_all
  · exact IdTable.get?_erase ..

theorem get?_deregisterAll (r : Registry σ) (ids : List Identifier) (id : Identifier) :
    (r.deregisterAll ids).handlers.get? id =
      if id ∈ ids then none else r.handlers.get? id := by
  induction ids generalizing r with
  | nil => rfl
  | cons j ids ih =>
    have hstep : r.deregisterAll (j :: ids) = (r.deregister j).val.2.deregisterAll ids := rfl
    rw [hstep, ih, get?_deregister]
    by_cases hid : id = j <;> simp [hid]

theorem queue_deregisterAll (r : Registry σ) (ids : List Identifier) :
    (r.deregisterAll ids).queue = r.queue := by
  induction ids generalizing r with
  | nil => rfl
  | cons j ids ih =>
    have hstep : (r.deregister j).val.2.queue = r.queue := by
      rcases r.deregister_cases j with hsame | hremoved
      · rw [hsame]
      · rw [hremoved]
    exact (ih (r.deregister j).val.2).trans hstep

/-- A drain registers the handlers of the queue in front of the first whose identifier is taken, and
fails there, or registers all of them. A batch that has been registered, made anew perhaps in other
states, is registered again after its removal, and without it not even the first handler is. -/
theorem drain_registers_prefix (r : Registry σ) :
    (∀ k h, r.queue[k]? = some h → r.TakenAt r.queue k → (∀ j < k, ¬r.TakenAt r.queue j) →
      r.drain.val.1 = .error (.duplicateIdentifier h.id) ∧
        preparations r.drain.events = (r.queue.take (k + 1)).map Handler.id ∧
        r.Gains (r.queue.take k) r.drain.val.2) ∧
    (r.Admits r.queue →
      r.drain.val.1 = .ok () ∧ preparations r.drain.events = r.queue.map Handler.id ∧
        r.Gains r.queue r.drain.val.2) ∧
    ∀ batch, batch.map Handler.id = r.queue.map Handler.id → r.drain.val.1 = .ok () →
      let drained := { r.drain.val.2 with queue := batch }
      (∀ ids, (∀ id, id ∈ ids ↔ id ∈ r.queue.map Handler.id) →
        let removed := drained.deregisterAll ids
        removed.drain.val.1 = .ok () ∧
          preparations removed.drain.events = r.queue.map Handler.id ∧
          removed.Gains batch removed.drain.val.2 ∧
          removed.drain.val.2.handlers.ids = drained.handlers.ids) ∧
      ∀ h rest, batch = h :: rest →
        drained.drain.val = (.error (.duplicateIdentifier h.id), drained) ∧
          preparations drained.drain.events = [h.id] := by
  refine ⟨fun k h hk htaken hfirst => registerAll_of_takenAt hk htaken hfirst,
    registerAll_of_admits, fun batch hbatch hok => ?_⟩
  intro drained
  have hadmits : r.Admits r.queue := admits_of_ok hok
  obtain ⟨-, -, hgains⟩ := registerAll_of_admits hadmits
  constructor
  · intro ids hids removed
    have hqueue : removed.queue = batch := queue_deregisterAll drained ids
    have hcontains (id : Identifier) : removed.handlers.contains id = true ↔
        id ∉ batch.map Handler.id ∧ drained.handlers.contains id = true := by
      rw [IdTable.contains, get?_deregisterAll, hbatch, ← hids]
      split <;> simp_all [IdTable.contains]
    have hroom : removed.Admits batch := by
      refine admits_iff.mpr ⟨fun id hid => ?_, hbatch ▸ (admits_iff.mp hadmits).2⟩
      exact Bool.eq_false_iff.mpr fun hregistered => ((hcontains id).mp hregistered).1 hid
    obtain ⟨hagain, hprepared, hgains'⟩ := registerAll_of_admits hroom
    rw [drain, hqueue]
    refine ⟨hagain, hbatch ▸ hprepared, hgains', ?_⟩
    refine List.filter_congr fun id _ => Bool.eq_iff_iff.mpr ?_
    have hdrained : drained.handlers.contains id = true ↔ _ := hgains.contains id
    rw [hgains'.contains, hcontains, hdrained, hbatch]
    by_cases hid : id ∈ r.queue.map Handler.id <;> simp [hid]
  · intro h rest hfirst
    have hid : h.id ∈ r.queue.map Handler.id := by
      rw [← hbatch, hfirst]
      exact List.mem_cons_self
    have htaken : drained.handlers.contains h.id = true := (hgains.contains h.id).mpr (.inl hid)
    have hqueue : drained.queue = h :: rest := hfirst
    rw [drain, hqueue]
    exact registerAll_of_taken htaken rest

/-- The third handler's identifier is that of the first; the fourth's turn never comes. -/
theorem drain_registers_prefix_collision :
    let r : Registry (Service Rule) := { (empty.install Service.sessionHandler).val with
      queue := [⟨6, false, .custom .echo⟩, ⟨7, true, .custom .double⟩, ⟨6, true, .custom .reverse⟩,
        ⟨1, true, .custom .echo⟩] }
    r.drain.val.1 = .error (.duplicateIdentifier 6) ∧ preparations r.drain.events = [6, 7, 6] ∧
      r.drain.val.2.handlers.get? 6 = some ⟨6, false, .custom .echo⟩ ∧
      r.drain.val.2.channelState? 7 = some .awaitingEven := by
  intro r
  have hfirst : ∀ j < 2, ¬r.TakenAt r.queue j := by decide +kernel
  obtain ⟨hfails, hprepared, hgains⟩ := r.drain_registers_prefix.1 2 ⟨6, true, .custom .reverse⟩ rfl
    (by decide +kernel) hfirst
  have h6 : (⟨6, false, .custom .echo⟩ : Handler (Service Rule)) ∈ r.queue.take 2 := by
    decide +kernel
  have h7 : (⟨7, true, .custom .double⟩ : Handler (Service Rule)) ∈ r.queue.take 2 := by
    decide +kernel
  exact ⟨hfails, hprepared, hgains.handler _ h6, hgains.channel _ h7⟩

end Registry

end AltBit

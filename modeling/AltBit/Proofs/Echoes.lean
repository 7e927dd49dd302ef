import AltBit.Command.Serve
import AltBit.Proofs.Draining

/-!
Which echo handlers a server can be asked for. They are registered behind session control, in the
order in which they were asked for, unreliable ones first; this works out exactly if no identifier
occurs twice and none is that of session control. Otherwise the first that does not fit is named.
-/
namespace AltBit.Command.Serve
variable {T : Type} {echo reliableEcho : List Identifier}

/-- The identifier at `k` is that of session control or stands further in front as well. -/
def CollidesAt (ids : List Identifier) (k : Nat) : Prop :=
  ∃ id, ids[k]? = some id ∧ (id = Identifier.sessionControl ∨ id ∈ ids.take k)

instance (ids : List Identifier) (k : Nat) : Decidable (CollidesAt ids k) :=
  inferInstanceAs (Decidable (∃ id, id ∈ ids[k]? ∧ _))

/-- The registry of a new dispatcher with the echo handlers in its queue. -/
def asked (echo reliableEcho : List Identifier) : Registry (Service Rule) :=
  { (Registry.empty.install Service.sessionHandler).val with
    queue := echoHandlers echo reliableEcho }

theorem val_buildDispatcher :
    let drained := ((asked echo reliableEcho).registerAll (echoHandlers echo reliableEcho)).val
    (buildDispatcher (T := T) echo reliableEcho).val =
      match drained.1 with
      | .ok () => .ok { link := none, registry := drained.2 }
      | .error e => .error (.ofDispatch "handler registration failed" e) := by
  have hdrain : { (Dispatcher.new (none : Option T)).val.registry with
      queue := (Dispatcher.new (none : Option T)).val.registry.queue ++
        echoHandlers echo reliableEcho }.drain =
      (asked echo reliableEcho).registerAll (echoHandlers echo reliableEcho) := rfl
  unfold buildDispatcher
  simp only [Traced.val_bind, Registry.foldl_enqueue, hdrain]
  rcases ((asked echo reliableEcho).registerAll _).val with ⟨_ | _, registry⟩ <;> rfl

theorem map_id_echoHandlers : (echoHandlers echo reliableEcho).map Handler.id =
    echo ++ reliableEcho := by
  simp [echoHandlers, Function.comp_def]

theorem contains_asked (id : Identifier) :
    (asked echo reliableEcho).handlers.contains id = true ↔ id = Identifier.sessionControl := by
  have hstart : (asked echo reliableEcho).handlers =
      (Registry.empty.install Service.sessionHandler).val.handlers := rfl
  rw [hstart, Registry.contains_install]
  simp [Registry.empty, IdTable.contains, Service.sessionHandler]

theorem takenAt_asked (k : Nat) :
    (asked echo reliableEcho).TakenAt (echoHandlers echo reliableEcho) k ↔
      CollidesAt (echo ++ reliableEcho) k := by
  simp only [Registry.TakenAt, contains_asked, CollidesAt, ← List.map_take,
    ← map_id_echoHandlers, List.getElem?_map, Option.map_eq_some_iff]
  grind

theorem admits_asked :
    (asked echo reliableEcho).Admits (echoHandlers echo reliableEcho) ↔
      (echo ++ reliableEcho).Nodup ∧ Identifier.sessionControl ∉ echo ++ reliableEcho := by
  simp only [Registry.admits_iff, map_id_echoHandlers, ← Bool.not_eq_true, contains_asked]
  grind

theorem reliable_of_mem {h : Handler (Service Rule)} (hnodup : (echo ++ reliableEcho).Nodup)
    (hh : h ∈ echoHandlers echo reliableEcho) : h.reliable = decide (h.id ∈ reliableEcho) := by
  rcases List.mem_append.mp hh with hh | hh
  · obtain ⟨id, hid, rfl⟩ := List.mem_map.mp hh
    have hother : id ∉ reliableEcho := fun hid' =>
      (List.nodup_append.mp hnodup).2.2 id hid id hid' rfl
    simp [hother]
  · obtain ⟨id, hid, rfl⟩ := List.mem_map.mp hh
    simp [hid]

theorem mergeSort_eq_of_pairwise {sorted ids : List Identifier} (hsorted : sorted.Pairwise (· < ·))
    (hids : ids.Nodup) (hmem : ∀ id, id ∈ sorted ↔ id ∈ ids) : sorted = ids.mergeSort := by
  have hmerged : ids.mergeSort.Pairwise (· ≤ ·) := by
    have htrans (a b c : Identifier) (hab : decide (a ≤ b) = true) (hbc : decide (b ≤ c) = true) :
        decide (a ≤ c) = true :=
      decide_eq_true (UInt8.le_trans (of_decide_eq_true hab) (of_decide_eq_true hbc))
    have htotal (a b : Identifier) : (decide (a ≤ b) || decide (b ≤ a)) = true := by
      simpa using UInt8.le_total a b
    exact (List.pairwise_mergeSort htrans htotal ids).imp of_decide_eq_true
  have hperm : sorted.Perm ids :=
    (List.perm_ext_iff_of_nodup (hsorted.imp UInt8.ne_of_lt) hids).mpr hmem
  exact List.Perm.eq_of_pairwise (fun _ _ _ _ => UInt8.le_antisymm)
    (hsorted.imp UInt8.le_of_lt) hmerged (hperm.trans (List.mergeSort_perm ids _).symm)

section
variable {r : Registry (Service Rule)}
  (hr : (asked echo reliableEcho).Gains (echoHandlers echo reliableEcho) r)
include hr

theorem mem_listIds_of_gains (hfree : Identifier.sessionControl ∉ echo ++ reliableEcho)
    (id : Identifier) : id ∈ r.listIds ↔ id ∈ echo ++ reliableEcho := by
  have hcontains : (r.handlers.get? id).isSome = true ↔ _ := hr.contains id
  rw [Registry.mem_listIds, hcontains, map_id_echoHandlers, contains_asked]
  grind

/-- Session control apart, the reliable identifiers are those that were asked for as such. -/
theorem isReliable?_of_gains (hids : (echo ++ reliableEcho).Nodup)
    (hfree : Identifier.sessionControl ∉ echo ++ reliableEcho) (id : Identifier) :
    r.isReliable? id =
      if id = Identifier.sessionControl then some true
      else if id ∈ echo ++ reliableEcho then some (decide (id ∈ reliableEcho)) else none := by
  have hstart : (asked echo reliableEcho).isReliable? id =
      if id = Identifier.sessionControl then some true else none := by
    have hempty : (Registry.empty : Registry (Service Rule)).isReliable? id = none := by
      simp [Registry.empty, Registry.isReliable?]
    have hinstalled := Registry.isReliable?_install (.empty : Registry (Service Rule))
      Service.sessionHandler id
    rwa [hempty] at hinstalled
  by_cases hid : id ∈ echo ++ reliableEcho
  · have hne : id ≠ Identifier.sessionControl := fun heq => hfree (heq ▸ hid)
    rw [← map_id_echoHandlers] at hid
    obtain ⟨h, hh, rfl⟩ := List.mem_map.mp hid
    rw [Registry.isReliable?, hr.handler h hh, if_neg hne, if_pos (map_id_echoHandlers ▸ hid),
      Option.map_some, reliable_of_mem hids hh]
  · have hkept := (hr.kept id (.inr (map_id_echoHandlers ▸ hid))).1
    rw [if_neg hid, Registry.isReliable?, hkept]
    exact hstart

end

/-- A server can be asked for exactly those identifiers that are all different and none of them
session control's. They are then registered, reliably if they were asked for so, with their channels
at even. Otherwise the failure names the first that is session control's or stands further in front
as well. -/
theorem buildDispatcher_accepts (T : Type) (echo reliableEcho : List Identifier) :
    let ids := echo ++ reliableEcho
    let built := (buildDispatcher (T := T) echo reliableEcho).val
    ((∃ d, built = .ok d) ↔ ids.Nodup ∧ Identifier.sessionControl ∉ ids) ∧
    (∀ d, built = .ok d →
      d.registry.listIds = ids.mergeSort ∧
      (∀ id, d.registry.isReliable? id =
        if id = Identifier.sessionControl then some true
        else if id ∈ ids then some (decide (id ∈ reliableEcho)) else none) ∧
      ∀ id, d.registry.isReliable? id = some true →
        d.registry.channelState? id = some .awaitingEven) ∧
    ∀ f, built = .error f →
      f.code = .usage ∧ ∃ k id, ids[k]? = some id ∧ CollidesAt ids k ∧
        (∀ j < k, ¬CollidesAt ids j) ∧
        f.message = s!"handler registration failed: identifier {id} is already registered" := by
  intro ids built
  have hbuilt : built = _ := val_buildDispatcher
  by_cases hadmits : (asked echo reliableEcho).Admits (echoHandlers echo reliableEcho)
  · obtain ⟨hnodup, hfree⟩ := admits_asked.mp hadmits
    obtain ⟨hok, -, hgains⟩ := Registry.registerAll_of_admits hadmits
    rw [hbuilt, hok]
    refine ⟨⟨fun _ => ⟨hnodup, hfree⟩, fun _ => ⟨_, rfl⟩⟩, ?_, nofun⟩
    rintro d hd
    cases hd
    refine ⟨mergeSort_eq_of_pairwise (Registry.pairwise_listIds _) hnodup
      (mem_listIds_of_gains hgains hfree), isReliable?_of_gains hgains hnodup hfree, fun id => ?_⟩
    have hstart : (asked echo reliableEcho).Untouched id :=
      (Registry.untouched_empty id).install Service.sessionHandler
    exact hstart.registerAll (echoHandlers echo reliableEcho)
  · obtain ⟨k, htaken, hfirst⟩ := Registry.exists_first_taken hadmits
    have ⟨h, hk, _⟩ := htaken
    obtain ⟨herror, -, -⟩ := Registry.registerAll_of_takenAt hk htaken hfirst
    rw [hbuilt, herror]
    refine ⟨⟨nofun, fun hids => absurd (admits_asked.mpr hids) hadmits⟩, nofun, ?_⟩
    rintro f hf
    cases hf
    refine ⟨rfl, k, h.id, ?_, (takenAt_asked k).mp htaken, fun j hj => ?_, rfl⟩
    · have hids : ids = (echoHandlers echo reliableEcho).map Handler.id := map_id_echoHandlers.symm
      rw [hids, List.getElem?_map, hk, Option.map_some]
    · exact fun hcollides => hfirst j hj ((takenAt_asked j).mpr hcollides)

/-- Three identifiers that get along, and four of which the third is the first that does not. -/
theorem buildDispatcher_accepts_sample :
    (∃ d : Dispatcher (Option Unit) (Service Rule), (buildDispatcher [9, 5] [4]).val = .ok d ∧
      d.registry.listIds = [4, 5, 9] ∧ d.registry.isReliable? 4 = some true ∧
      d.registry.isReliable? 9 = some false) ∧
    ∀ f, (buildDispatcher (T := Unit) [9, 5] [5, 9]).val = .error f →
      f.message = "handler registration failed: identifier 5 is already registered" := by
  obtain ⟨hworks, hgood, -⟩ := buildDispatcher_accepts Unit [9, 5] [4]
  obtain ⟨-, -, hbad⟩ := buildDispatcher_accepts Unit [9, 5] [5, 9]
  obtain ⟨d, hd⟩ := hworks.mpr (by decide)
  obtain ⟨hlist, hreliable, -⟩ := hgood d hd
  refine ⟨⟨d, hd, hlist.trans (by simp [List.mergeSort]), hreliable 4, hreliable 9⟩, fun f hf => ?_⟩
  obtain ⟨-, k, id, hk, hcollides, hfirst, hmessage⟩ := hbad f hf
  have hk2 : k = 2 := by
    match k with
    | 0 | 1 => exact absurd hcollides (by decide)
    | 2 => rfl
    | k + 3 => exact absurd (by decide) (hfirst 2 (by omega))
  subst hk2
  obtain rfl : 5 = id := Option.some.inj hk
  exact hmessage

end AltBit.Command.Serve

import AltBit.Proofs.Awaiting

/-!
How channels are opened. Registering a reliable handler and starting all channels over leave the
channel at even; registering handlers for other identifiers, removing them and queueing leave it as
it is. While a handler stays registered, its identifier cannot be registered again.
-/
namespace AltBit.Registry
variable {σ : Type} {r : Registry σ} {h : Handler σ} {id : Identifier} {c : ChannelState}

theorem invocations_register (r : Registry σ) (h : Handler σ) (id : Identifier) :
    invocations id (r.register h).events = [] := by
  unfold register
  split
  · simp [Event.invokedOn?]
  · simp [install, Event.invokedOn?]

theorem invocations_registerAll (r : Registry σ) (hs : List (Handler σ)) (id : Identifier) :
    invocations id (r.registerAll hs).events = [] := by
  induction hs generalizing r with
  | nil => rfl
  | cons h hs ih =>
    have hregister := r.invocations_register h id
    unfold registerAll
    rcases hresult : (r.register h).val with ⟨result, r'⟩
    cases result with
    | ok _ => simp [hresult, hregister, ih, Event.invokedOn?]
    | error e => simp [hresult, hregister, Event.invokedOn?]

theorem invocations_deregister (r : Registry σ) (j id : Identifier) :
    invocations id (r.deregister j).events = [] := by
  unfold deregister
  split
  · rfl
  · simp [Event.invokedOn?]

/-- What every registration keeps, registering several handlers keeps. -/
theorem registerAll_keeps {P : Registry σ → Prop} {hs : List (Handler σ)}
    (hstep : ∀ r : Registry σ, ∀ h ∈ hs, P r → P (r.register h).val.2) (hr : P r) :
    P (r.registerAll hs).val.2 := by
  induction hs generalizing r with
  | nil => exact hr
  | cons h hs ih =>
    obtain ⟨hfirst, hrest⟩ : (∀ r : Registry σ, P r → P (r.register h).val.2) ∧
        ∀ r : Registry σ, ∀ k ∈ hs, P r → P (r.register k).val.2 :=
      ⟨fun r => hstep r h List.mem_cons_self, fun r k hk => hstep r k (List.mem_cons_of_mem h hk)⟩
    have hregister := hfirst r hr
    unfold registerAll
    rcases hresult : (r.register h).val with ⟨result, r'⟩
    rw [hresult] at hregister
    cases result with
    | ok _ => simpa [hresult] using ih hrest hregister
    | error e => simpa [hresult] using hregister

/-- If `id` is reliable, its channel has not moved on from even. -/
def Untouched (r : Registry σ) (id : Identifier) : Prop :=
  r.isReliable? id = some true → r.channelState? id = some .awaitingEven

theorem untouched_empty (id : Identifier) : (empty : Registry σ).Untouched id := by
  intro h
  simp [empty, isReliable?] at h

theorem isReliable?_install (r : Registry σ) (h : Handler σ) (id : Identifier) :
    (r.install h).val.isReliable? id =
      if id = h.id then some h.reliable else r.isReliable? id := by
  by_cases hid : id = h.id <;> simp [install, isReliable?, IdTable.get?_insert, hid]

theorem channelState?_install (r : Registry σ) (h : Handler σ) (id : Identifier) :
    (r.install h).val.channelState? id =
      if id = h.id ∧ h.reliable = true then some .awaitingEven else r.channelState? id := by
  by_cases hid : id = h.id <;> cases hh : h.reliable <;>
    simp [install, channelState?, ChannelTable.start, IdTable.get?_insert, hid, hh]

theorem awaits_install (r : Registry σ) (hreliable : h.reliable = true) :
    (r.install h).val.Awaits h.id .awaitingEven := by
  constructor
  · rw [isReliable?_install, if_pos rfl, hreliable]
  · rw [channelState?_install, if_pos ⟨rfl, hreliable⟩]

theorem register_of_ok (hok : (r.register h).val.1 = .ok ()) :
    (r.register h).val.2 = (r.install h).val := by
  unfold register at hok ⊢
  split at hok
  · cases hok
  · rename_i hfree
    rw [if_neg hfree]
    rfl

theorem Untouched.install (hr : r.Untouched id) (h : Handler σ) :
    (r.install h).val.Untouched id := by
  intro hreliable
  rw [isReliable?_install] at hreliable
  rw [channelState?_install]
  by_cases hid : id = h.id
  · rw [if_pos hid] at hreliable
    rw [if_pos ⟨hid, Option.some.inj hreliable⟩]
  · rw [if_neg hid] at hreliable
    rw [if_neg fun hh => hid hh.1]
    exact hr hreliable

theorem Untouched.register (hr : r.Untouched id) (h : Handler σ) :
    (r.register h).val.2.Untouched id := by
  unfold Registry.register
  split
  · exact hr
  · simpa using hr.install h

theorem Untouched.registerAll (hr : r.Untouched id) (hs : List (Handler σ)) :
    (r.registerAll hs).val.2.Untouched id :=
  registerAll_keeps (P := (·.Untouched id)) (fun _ h _ hr => hr.register h) hr

theorem get?_foldl_start (p : Identifier → Prop) [DecidablePred p] (l : List Identifier)
    (t : ChannelTable) (id : Identifier) :
    (l.foldl (fun t j => if p j then t.start j else t) t).get? id =
      if id ∈ l ∧ p id then some .awaitingEven else t.get? id := by
  induction l generalizing t with
  | nil => simp
  | cons j l ih =>
    rw [List.foldl_cons, ih]
    by_cases hj : id = j
    · subst hj
      by_cases hp : p id <;> simp [hp, ChannelTable.start, IdTable.get?_insert]
    · by_cases hp : p j <;> simp [hp, hj, ChannelTable.start, IdTable.get?_insert]

/-- Starting the channels over touches those of reliable handlers and no others. -/
theorem channelState?_resetChannels_eq_ite (r : Registry σ) (id : Identifier) :
    r.resetChannels.channelState? id =
      if r.isReliable? id = some true then some .awaitingEven else r.channelState? id := by
  unfold channelState? resetChannels
  dsimp only
  rw [get?_foldl_start]
  simp only [Identifier.mem_all, true_and]

theorem channelState?_resetChannels (hreliable : r.isReliable? id = some true) :
    r.resetChannels.channelState? id = some .awaitingEven := by
  rw [channelState?_resetChannels_eq_ite, if_pos hreliable]

namespace Awaits

theorem contains (hr : r.Awaits id c) : r.handlers.contains id = true := by
  obtain ⟨h, hh, -⟩ := Option.map_eq_some_iff.mp hr.reliable
  rw [IdTable.contains, hh]
  rfl

/-- An identifier that is taken is not registered again. -/
theorem register (hr : r.Awaits id c) (h : Handler σ) : (r.register h).val.2.Awaits id c := by
  unfold Registry.register
  split
  · exact hr
  · rename_i hfree
    have hid : id ≠ h.id := by
      rintro rfl
      exact hfree hr.contains
    constructor
    · simpa [isReliable?_install, hid] using hr.reliable
    · simpa [channelState?_install, hid] using hr.channel

theorem registerAll (hr : r.Awaits id c) (hs : List (Handler σ)) :
    (r.registerAll hs).val.2.Awaits id c :=
  registerAll_keeps (P := (·.Awaits id c)) (fun _ h _ hr => hr.register h) hr

theorem deregister (hr : r.Awaits id c) {j : Identifier} (hj : id ≠ j) :
    (r.deregister j).val.2.Awaits id c := by
  have hreliable := hr.reliable
  have hchannel := hr.channel
  rw [isReliable?] at hreliable
  rw [channelState?] at hchannel
  unfold Registry.deregister
  split
  · exact hr
  · constructor
    · simpa [isReliable?, IdTable.get?_erase, hj] using hreliable
    · simpa [channelState?, IdTable.get?_erase, hj] using hchannel

end Awaits

end AltBit.Registry

import AltBit.Handler.Rule
import AltBit.Proofs.Operation

/-!
Accepted frames take turns. Since a channel was opened or last started over, the frames accepted on
it carry the numbers 0, 1, 0, 1 and so on; a frame is accepted exactly when it carries the number
that is next, reaches the handler exactly then, and the channel waits for an odd frame exactly when
an odd number of frames has been accepted. Only session control can start over at the word of its
handler.
-/
namespace AltBit

/-- The state of a channel that has accepted `n` frames since it was opened or started over. -/
def ChannelState.ofCount (n : Nat) : ChannelState :=
  if n % 2 = 1 then .awaitingOdd else .awaitingEven

theorem ChannelState.toNat_expected_ofCount (n : Nat) : (ofCount n).expected.toNat = n % 2 := by
  unfold ofCount
  split
  · rename_i hodd
    rw [hodd]
    rfl
  · rename_i heven
    rw [show n % 2 = 0 by omega]
    rfl

theorem ChannelState.afterAccept_ofCount (n : Nat) (id : Identifier) (outcome : Outcome) :
    (ofCount n).afterAccept id outcome =
      ofCount (if id = Identifier.sessionControl ∧ outcome = .sessionReset then 0 else n + 1) := by
  by_cases hodd : n % 2 = 1
  · have hnext : ¬(n + 1) % 2 = 1 := by omega
    split <;> simp [ofCount, hodd, hnext, afterAccept]
  · have hnext : (n + 1) % 2 = 1 := by omega
    split
    · rename_i hreset
      simp [ofCount, hodd, afterAccept, hreset]
    · rename_i hreset
      simp [ofCount, hodd, hnext, afterAccept, hreset]

namespace Exchange
variable {σ : Type} {m : Nat}

def isAccepted (x : Exchange σ m) : Bool :=
  match x.handled.delivery with
  | some (.accepted _) => true
  | _ => false

def isDuplicate (x : Exchange σ m) : Bool :=
  match x.handled.delivery with
  | some (.duplicate _) => true
  | _ => false

/-- Whether an accepted frame starts its channel over. -/
def restarts (x : Exchange σ m) : Bool :=
  x.isAccepted && x.frame.id.isReserved && x.handled.outcome == .sessionReset

/-- Counts one more frame, given the number accepted before it. -/
def count (n : Nat) (x : Exchange σ m) : Nat :=
  if x.restarts then 0 else if x.isAccepted then n + 1 else n

/-- The number of frames accepted since the channel was opened or last started over. -/
def acceptedCount (xs : List (Exchange σ m)) : Nat := xs.foldl count 0

/-- After `n` accepted frames, the frames are accepted exactly when they carry the number that is
next, and are duplicates otherwise. -/
def Alternates (n : Nat) (xs : List (Exchange σ m)) : Prop :=
  ∀ before x after, xs = before ++ x :: after →
    (x.isAccepted = true ↔ x.frame.seq.toNat = before.foldl count n % 2) ∧
      (x.isDuplicate = true ↔ x.frame.seq.toNat ≠ before.foldl count n % 2)

theorem Alternates.nil (n : Nat) : Alternates n ([] : List (Exchange σ m)) := by
  intro before x after h
  simp at h

theorem Alternates.cons {n : Nat} {x : Exchange σ m} {xs : List (Exchange σ m)}
    (hx : (x.isAccepted = true ↔ x.frame.seq.toNat = n % 2) ∧
      (x.isDuplicate = true ↔ x.frame.seq.toNat ≠ n % 2))
    (hxs : Alternates (x.count n) xs) : Alternates n (x :: xs) := by
  intro before y after h
  cases before with
  | nil =>
    obtain ⟨rfl, -⟩ := List.cons.inj h
    exact hx
  | cons z before =>
    obtain ⟨rfl, hxs'⟩ := List.cons.inj h
    exact hxs before y after hxs'

variable [Behaviour σ] {r : Registry σ} {f : Frame m} {n : Nat}

theorem handle_ofCount (hr : r.Awaits f.id (.ofCount n)) :
    let x : Exchange σ m := ⟨f, (r.handle f).val⟩
    ((x.isAccepted = true ↔ f.seq.toNat = n % 2) ∧
      (x.isDuplicate = true ↔ f.seq.toNat ≠ n % 2)) ∧
    (r.handle f).val.registry.Awaits f.id (.ofCount (x.count n)) ∧
    invocations f.id (r.handle f).events =
      ([x].filter isAccepted).map (·.frame.payload.toList) := by
  intro x
  have hexpected := ChannelState.toNat_expected_ofCount n
  by_cases hseq : f.seq = (ChannelState.ofCount n).expected
  · obtain ⟨hawaits, -, hdelivery, hinvoked⟩ := hr.handle_expected hseq
    have haccepted : x.isAccepted = true := by simp [x, isAccepted, hdelivery]
    have hduplicate : x.isDuplicate = false := by simp [x, isDuplicate, hdelivery]
    have hnumber : f.seq.toNat = n % 2 := by rw [hseq, hexpected]
    refine ⟨by simp [haccepted, hduplicate, hnumber], ?_, by simp [hinvoked, haccepted, x]⟩
    rw [ChannelState.afterAccept_ofCount] at hawaits
    simpa [count, restarts, haccepted, Identifier.isReserved] using hawaits
  · obtain ⟨hregistry, -, hdelivery, hinvoked⟩ := hr.handle_unexpected hseq
    have haccepted : x.isAccepted = false := by simp [x, isAccepted, hdelivery]
    have hduplicate : x.isDuplicate = true := by simp [x, isDuplicate, hdelivery]
    have hnumber : f.seq.toNat ≠ n % 2 := by
      rw [← hexpected]
      exact fun h => hseq (UInt8.toNat_inj.mp h)
    refine ⟨by simp [haccepted, hduplicate, hnumber], ?_, by simp [hinvoked, haccepted]⟩
    simpa [count, restarts, haccepted, hregistry] using hr

end Exchange

namespace Dispatcher
open Exchange
variable {T σ : Type}

/-- Dispatchers whose channel for `id` has just been opened or started over. -/
inductive Opened (id : Identifier) : Dispatcher T σ → Prop
  | made (link : T) (h : Handler σ) (hid : h.id = id) (hreliable : h.reliable = true) :
    Opened id (startingWith link h).val
  | registered (d : Dispatcher T σ) (h : Handler σ) (hid : h.id = id)
    (hreliable : h.reliable = true) (hfree : (d.registry.register h).val.1 = .ok ()) :
    Opened id { d with registry := (d.registry.register h).val.2 }
  | drained (d : Dispatcher T σ) (hfree : d.registry.isReliable? id = none)
    (hreliable : d.registry.drain.val.2.isReliable? id = some true) :
    Opened id { d with registry := d.registry.drain.val.2 }
  | linkReplaced (d : Dispatcher T σ) (link : T)
    (hreliable : d.registry.isReliable? id = some true) :
    Opened id (d.replaceLink link).val.2

theorem Opened.awaits {id : Identifier} {d : Dispatcher T σ} (hd : Opened id d) :
    d.registry.Awaits id .awaitingEven := by
  cases hd with
  | made link h hid hreliable => exact hid ▸ Registry.empty.awaits_install hreliable
  | registered d h hid hreliable hfree =>
    rw [Registry.register_of_ok hfree]
    exact hid ▸ d.registry.awaits_install hreliable
  | drained d hfree hreliable =>
    have huntouched : d.registry.Untouched id := by
      intro h
      rw [hfree] at h
      cases h
    exact ⟨hreliable, huntouched.registerAll d.registry.queue hreliable⟩
  | linkReplaced d link hreliable =>
    exact ⟨hreliable, Registry.channelState?_resetChannels hreliable⟩

variable {m : Nat} [Link T m] [Behaviour σ]

def historyOf (id : Identifier) (d : Dispatcher T σ) (ops : List (Operation T σ)) :
    List (Exchange σ m) :=
  (d.history ops).filter fun x => x.frame.id = id

theorem historyOf_cons (id : Identifier) (d : Dispatcher T σ) (o : Operation T σ)
    (ops : List (Operation T σ)) :
    d.historyOf id (o :: ops) = (d.exchange? o).toList.filter (fun x => x.frame.id = id) ++
      (d.perform o).val.historyOf id ops :=
  List.filter_append _ _

/-- A run on a channel that has accepted `n` frames and is neither closed nor started over. -/
theorem run_ofCount [Link.Quiet T] {d : Dispatcher T σ} {id : Identifier} {n : Nat}
    (hd : d.registry.Awaits id (.ofCount n)) (ops : List (Operation T σ))
    (hops : ∀ o ∈ ops, o.keeps id) :
    Alternates n (d.historyOf id ops) ∧
      invocations id (d.run ops).events =
        ((d.historyOf id ops).filter isAccepted).map (·.frame.payload.toList) ∧
      (d.run ops).val.registry.Awaits id (.ofCount ((d.historyOf id ops).foldl count n)) := by
  induction ops generalizing d n with
  | nil => exact ⟨Alternates.nil n, rfl, hd⟩
  | cons o ops ih =>
    have hrest : ∀ o ∈ ops, o.keeps id := fun o ho => hops o (List.mem_cons_of_mem _ ho)
    have hrun : invocations id (d.run (o :: ops)).events = invocations id (d.perform o).events ++
        invocations id ((d.perform o).val.run ops).events := invocations_append id _ _
    rw [historyOf_cons, hrun]
    change _ ∧ _ ∧ ((d.perform o).val.run ops).val.registry.Awaits id _
    cases hx : d.exchange? o with
    | none =>
      obtain ⟨hawaits, hinvoked⟩ := perform_of_no_exchange hx (hops o List.mem_cons_self) hd
      simpa [hinvoked] using ih hawaits hrest
    | some x =>
      obtain ⟨hhandled, hregistry, hevents⟩ := perform_exchange hx
      rw [hhandled] at hregistry
      by_cases hid : x.frame.id = id
      · subst hid
        have hx' : x = ⟨x.frame, (d.registry.handle x.frame).val⟩ := by rw [← hhandled]
        obtain ⟨hnumber, hawaits, hinvoked⟩ := handle_ofCount hd
        rw [← hx'] at hnumber hawaits hinvoked
        obtain ⟨halternates, hinvoked', hfinal⟩ := ih (hregistry ▸ hawaits) hrest
        refine ⟨?_, ?_, ?_⟩
        · simpa using halternates.cons hnumber
        · rw [hevents, hinvoked, hinvoked', ← List.map_append, ← List.filter_append]
          simp
        · simpa using hfinal
      · obtain ⟨hreliable, hchannel, hinvoked⟩ := d.registry.handle_other x.frame hid
        have hawaits : (d.perform o).val.registry.Awaits id (.ofCount n) := by
          rw [hregistry]
          exact ⟨hreliable.trans hd.reliable, hchannel.trans hd.channel⟩
        simpa [hevents, hinvoked, hid] using ih hawaits hrest

/-- Since its channel was opened, an identifier's frames are accepted exactly when they carry the
number of frames accepted before them modulo two, and are duplicates otherwise; accepted frames
reach the handler once each, duplicates never; and the channel state tells the parity. -/
theorem Opened.alternates [Link.Quiet T] {id : Identifier} {d : Dispatcher T σ}
    (hd : Opened id d) (ops : List (Operation T σ)) (hops : ∀ o ∈ ops, o.keeps id) :
    (∀ before x after, d.historyOf id ops = before ++ x :: after →
      (x.isAccepted = true ↔ x.frame.seq.toNat = acceptedCount before % 2) ∧
        (x.isDuplicate = true ↔ x.frame.seq.toNat ≠ acceptedCount before % 2)) ∧
    invocations id (d.run ops).events =
      ((d.historyOf id ops).filter isAccepted).map (·.frame.payload.toList) ∧
    (d.run ops).val.registry.channelState? id =
      some (if acceptedCount (d.historyOf id ops) % 2 = 1 then .awaitingOdd
        else .awaitingEven) := by
  have hstart : d.registry.Awaits id (.ofCount 0) := hd.awaits
  obtain ⟨halternates, hinvoked, hfinal⟩ := run_ofCount hstart ops hops
  exact ⟨halternates, hinvoked, hfinal.channel⟩

/-- A session that ends, begins again and repeats itself after a failed read. -/
def sessionRun : List (Operation (Link.Memory 2) (Service Rule)) :=
  [.poll { inbound := [⟨1, 0, 0, #v[2, 0]⟩] },
    .poll { inbound := [⟨1, 0, 0, #v[1, 0]⟩] },
    .poll { inbound := [⟨1, 0, 0, #v[1, 0]⟩], readFault := some "lost" },
    .register ⟨5, true, .custom .echo⟩,
    .poll { inbound := [⟨1, 0, 0, #v[1, 0]⟩], writeFault := some "lost" }]

theorem alternates_sessionRun :
    (∀ o ∈ sessionRun, o.keeps 1) ∧
      invocations 1 ((Dispatcher.new ({} : Link.Memory 2)).val.run sessionRun).events =
        [[2, 0], [1, 0]] ∧
      ((Dispatcher.new ({} : Link.Memory 2)).val.run sessionRun).val.registry.channelState? 1 =
        some .awaitingOdd := by
  have hops : ∀ o ∈ sessionRun, o.keeps 1 := by
    simp [sessionRun, Operation.keeps]
  have h := (Opened.made ({} : Link.Memory 2) Service.sessionHandler rfl rfl).alternates
    sessionRun hops
  exact ⟨hops, h.2.1.trans (by decide +kernel), h.2.2.trans (by decide +kernel)⟩

end Dispatcher

end AltBit

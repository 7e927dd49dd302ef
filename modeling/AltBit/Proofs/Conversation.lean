import AltBit.Proofs.InStep
import AltBit.Proofs.Opening
import AltBit.Proofs.Sending

/-!
Conversations over a carrier. A sender makes one reliable call after another, on any identifiers and
whatever became of the calls before; the far end handles requests whenever it gets to them. On every
identifier both ends stay in step about the calls that were made on it.
-/
namespace AltBit
open Traced

/-- A reliable call, with the rounds that each of its waits may take. -/
structure Call where
  rounds : Nat
  id : Identifier
  payload : List UInt8

def isReply {m : Nat} : Option (Except SendError (Frame m)) → Bool
  | some (.ok _) => true
  | _ => false

/-- A call that was made, and its result; there is none if a wait took more rounds. -/
structure Submission (m : Nat) where
  id : Identifier
  payload : List UInt8
  result : Option (Except SendError (Frame m))
  deriving DecidableEq

namespace Submission
variable {m : Nat}

def isAcknowledged (s : Submission m) : Bool := isReply s.result

def padded (s : Submission m) : List UInt8 := (zeroPadded m s.payload).toList

end Submission

/-- The calls on `id` whose payloads fit into a frame. -/
def submissionsOn {m : Nat} (id : Identifier) (subs : List (Submission m)) : List (Submission m) :=
  subs.filter fun s => s.id = id ∧ s.payload.length ≤ m

variable {T : Type} {m : Nat}

theorem submissionsOn_cons (id : Identifier) (s : Submission m) (subs : List (Submission m)) :
    submissionsOn id (s :: subs) = submissionsOn id [s] ++ submissionsOn id subs :=
  List.filter_append [s] subs

namespace Sender
variable [Link T m]

def sendAll : List Call → Sender T → Traced (List (Submission m) × Sender T)
  | [], s => pure ([], s)
  | call :: calls, s => do
    let (result, s) ← s.sendReliable call.rounds call.id call.payload
    let (subs, s) ← sendAll calls s
    pure (⟨call.id, call.payload, result⟩ :: subs, s)

end Sender

namespace Ledger

def record (l : Ledger) (s : Submission m) : Ledger :=
  if s.isAcknowledged then (l.submit s.padded).acknowledge else l.submit s.padded

/-- The ledger of calls on one identifier. -/
def ofSubmissions (subs : List (Submission m)) : Ledger := subs.foldl record {}

def recordOn (id : Identifier) (l : Ledger) (subs : List (Submission m)) : Ledger :=
  (submissionsOn id subs).foldl record l

theorem recordOn_of_fits {id : Identifier} {s : Submission m} (hid : s.id = id)
    (hfits : s.payload.length ≤ m) (l : Ledger) : l.recordOn id [s] = l.record s := by
  simp [recordOn, submissionsOn, hid, hfits]

theorem recordOn_of_not {id : Identifier} {s : Submission m}
    (h : ¬ (s.id = id ∧ s.payload.length ≤ m)) (l : Ledger) : l.recordOn id [s] = l := by
  simp [recordOn, submissionsOn, h]

theorem recordOn_cons (id : Identifier) (l : Ledger) (s : Submission m)
    (subs : List (Submission m)) :
    l.recordOn id (s :: subs) = (l.recordOn id [s]).recordOn id subs := by
  rw [recordOn, submissionsOn_cons, List.foldl_append]
  rfl

end Ledger

variable {σ : Type} [Behaviour σ] [Link T m] [Carrier T σ] {id : Identifier} {bit : UInt8}
  {ledger : Ledger} {t : T} {log : List Event} {f : Frame m}

/-- The near end of `t` uses the number `bit` for `id`, and the far end is in step with it. -/
def Connected (id : Identifier) (bit : UInt8) (ledger : Ledger) (t : T) (log : List Event) : Prop :=
  ∃ c, InStep id bit c ledger log (Carrier.far t)

namespace Connected

theorem silent : Silent (Connected id bit ledger : T → List Event → Prop) := by
  rintro t log e he ⟨c, h⟩
  have hreceived : invocations id (log ++ [e]) = invocations id log := by
    simp [he]
  exact ⟨c, h.awaits, h.settling, h.submitted, hreceived ▸ h.received⟩

theorem available (hid : id ≠ Identifier.sessionControl) (t : T) :
    Triple (Connected id bit ledger t) (Link.available t) fun x => Connected id bit ledger x.2 := by
  rintro log ⟨c, h⟩
  exact h.transit (Carrier.available t) hid

theorem write (hid : id ≠ Identifier.sessionControl)
    (hf : f.id = id → f.seq = bit ∧ f.payload.toList ∈ ledger.pending) (t : T) :
    Triple (Connected id bit ledger t) (Link.write t f) fun x => Connected id bit ledger x.2 := by
  rintro log ⟨c, h⟩
  obtain ⟨d, events, events', hbefore, hafter, hevents⟩ := Carrier.write t f
  obtain ⟨c', h'⟩ := h.transit hbefore hid
  rw [hevents, ← List.append_assoc]
  exact (h'.send hf).transit hafter hid

/-- What the acknowledgment of `f` makes of a number in use for `id`. -/
def bitAfter (f : Frame m) (id : Identifier) (bit : UInt8) : UInt8 :=
  if f.id = id then flipBit bit else bit

def ledgerAfter (f : Frame m) (id : Identifier) (ledger : Ledger) : Ledger :=
  if f.id = id then ledger.acknowledge else ledger

theorem read (hid : id ≠ Identifier.sessionControl) (hf : f.id = id → f.seq = bit) (t : T) :
    Triple (Connected id bit ledger t) (Link.read t) fun x log =>
      match x.1 with
      | .ok r =>
        if r.id == f.id && r.ack == f.seq then
          Connected id (bitAfter f id bit) (ledgerAfter f id ledger) x.2 log
        else Connected id bit ledger x.2 log
      | .error _ => Connected id bit ledger x.2 log := by
  rintro log ⟨c, h⟩
  cases hread : (Link.read t).val.1 with
  | error e => exact h.transit (Carrier.read_error hread) hid
  | ok r =>
    obtain ⟨d, rest, events, events', hbefore, houtbound, hafter, hevents⟩ :=
      Carrier.read_ok hread
    obtain ⟨c', h'⟩ := h.transit hbefore hid
    rw [hevents, ← List.append_assoc]
    dsimp only
    split
    · rename_i hmatch
      obtain ⟨hrid, hack⟩ : r.id = f.id ∧ r.ack = f.seq := by simpa using hmatch
      by_cases hown : f.id = id
      · rw [bitAfter, ledgerAfter, if_pos hown, if_pos hown]
        have hsettled := h'.acknowledged houtbound (hrid.trans hown) (hack.trans (hf hown))
        exact hsettled.transit hafter hid
      · rw [bitAfter, ledgerAfter, if_neg hown, if_neg hown]
        exact (h'.ignore houtbound).transit hafter hid
    · exact (h'.ignore houtbound).transit hafter hid

theorem sends (hid : id ≠ Identifier.sessionControl)
    (hf : f.id = id → f.seq = bit ∧ f.payload.toList ∈ ledger.pending) :
    Sends f (Connected id bit ledger : T → List Event → Prop) (Connected id bit ledger) fun _ =>
      Connected id (bitAfter f id bit) (ledgerAfter f id ledger) :=
  .ofInvariant (available hid) (read hid fun hown => (hf hown).1) (write hid hf) silent
    fun _ => silent

/-- An acknowledged transmission ends the group of submissions, any other leaves it open. -/
theorem transmit (hid : id ≠ Identifier.sessionControl) (s : Sender T)
    (hf : f.id = id → f.seq = s.nextSeq id ∧ f.payload.toList ∈ ledger.pending)
    (rounds attempt left : Nat) :
    Triple (Connected id (s.nextSeq id) ledger s.link) (s.transmit rounds f attempt left) fun x =>
      Connected id (x.2.nextSeq id)
        (if isReply x.1 then ledgerAfter f id ledger else ledger) x.2.link := by
  intro log h
  have hsent := (sends hid hf).transmit rounds attempt left s log h
  rcases hx : (s.transmit rounds f attempt left).val with ⟨result, s'⟩
  rw [hx] at hsent
  rcases result with _ | e | r
  · obtain ⟨hsequence, h'⟩ := hsent
    rwa [Sender.nextSeq_congr hsequence]
  · obtain ⟨hsequence, h'⟩ := (sends hid hf).sent_error hsent
    rwa [Sender.nextSeq_congr hsequence]
  · have hnext : s'.nextSeq id = bitAfter f id (s.nextSeq id) := by
      rw [hsent.nextSeq, bitAfter]
      by_cases hown : f.id = id
      · rw [if_pos hown, if_pos hown.symm, (hf hown).1]
      · rw [if_neg hown, if_neg (Ne.symm hown)]
    obtain ⟨-, h'⟩ := hsent
    rwa [hnext]

theorem sendReliable (hid : id ≠ Identifier.sessionControl) (s : Sender T) (call : Call) :
    Triple (Connected id (s.nextSeq id) ledger s.link)
      (s.sendReliable call.rounds call.id call.payload) fun x =>
        Connected id (x.2.nextSeq id) (ledger.recordOn id [⟨call.id, call.payload, x.1⟩])
          x.2.link := by
  intro log h
  by_cases hfits : call.payload.length ≤ m
  · let f : Frame m := ⟨call.id, s.nextSeq call.id, 0, zeroPadded m call.payload⟩
    rw [Sender.sendReliable_of_le hfits]
    by_cases hown : call.id = id
    · let submitted := ledger.submit f.payload.toList
      have hsubmitted : Connected id (s.nextSeq id) submitted s.link log := by
        obtain ⟨c, h⟩ := h
        exact ⟨c, h.submit _⟩
      have hf (_ : f.id = id) : f.seq = s.nextSeq id ∧ f.payload.toList ∈ submitted.pending :=
        ⟨hown ▸ rfl, List.mem_append_right _ List.mem_cons_self⟩
      have hafter := transmit hid s hf call.rounds 1 s.config.attempts log hsubmitted
      rw [ledgerAfter, if_pos hown] at hafter
      rw [Ledger.recordOn_of_fits hown hfits]
      exact hafter
    · have hf (h : f.id = id) : f.seq = s.nextSeq id ∧ f.payload.toList ∈ ledger.pending :=
        absurd h hown
      have hafter := transmit hid s hf call.rounds 1 s.config.attempts log h
      rw [ledgerAfter, if_neg hown, ite_self] at hafter
      rw [Ledger.recordOn_of_not fun h => hown h.1]
      exact hafter
  · rw [Sender.sendReliable_of_not_le hfits, Ledger.recordOn_of_not fun h => hfits h.2]
    simpa using h

theorem sendAll (hid : id ≠ Identifier.sessionControl) (calls : List Call) (s : Sender T) :
    Triple (Connected id (s.nextSeq id) ledger s.link) (s.sendAll calls) fun x =>
      Connected id (x.2.nextSeq id) (ledger.recordOn id x.1) x.2.link := by
  induction calls generalizing s ledger with
  | nil => exact Triple.pure fun _ h => h
  | cons call calls ih =>
    refine Triple.bind (sendReliable hid s call) fun x => ?_
    refine Triple.bind (ih x.2) fun y => ?_
    refine Triple.pure fun log h => ?_
    rw [Ledger.recordOn_cons]
    exact h

theorem covers (h : Connected id bit ledger t log) :
    ∃ ahead, ledger.Covers ahead (invocations id log) := by
  obtain ⟨c, h⟩ := h
  exact ⟨_, h.received⟩

end Connected

namespace Sender

/-- Nothing has been sent yet: all numbers start at zero, the handlers at the far end have just been
registered, and no frame is on its way. -/
structure Fresh (s : Sender T) : Prop where
  unused (id : Identifier) : s.nextSeq id = 0
  registered : ∃ (session : Handler σ) (others : List (Handler σ)),
    (Carrier.far s.link).registry =
      ((Registry.empty.install session).val.registerAll others).val.2
  inbound : (Carrier.far s.link).link.inbound = []
  outbound : (Carrier.far s.link).link.outbound = []

variable {s : Sender T}

theorem Fresh.connected (h : s.Fresh)
    (hreliable : (Carrier.far s.link).registry.isReliable? id = some true) :
    Connected id (s.nextSeq id) {} s.link [] := by
  obtain ⟨session, others, hregistry⟩ := h.registered
  have huntouched : (Carrier.far s.link).registry.Untouched id := by
    rw [hregistry]
    exact ((Registry.untouched_empty id).install session).registerAll others
  refine ⟨.awaitingEven, ⟨hreliable, huntouched hreliable⟩, ?_, ?_, ?_⟩
  · rw [h.inbound, h.outbound, h.unused]
    exact Settling.start 0
  · intro f hf
    simp [h.inbound] at hf
  · rw [h.unused]
    exact List.Forall₂.nil

theorem Fresh.covers (h : s.Fresh) (hid : id ≠ Identifier.sessionControl)
    (hreliable : (Carrier.far s.link).registry.isReliable? id = some true) (calls : List Call) :
    ∃ ahead, (Ledger.ofSubmissions (submissionsOn id (s.sendAll calls).val.1)).Covers ahead
      (invocations id (s.sendAll calls).events) :=
  (Connected.sendAll hid calls s [] (h.connected hreliable)).covers

end Sender

end AltBit

import AltBit.Handler.Rule
import AltBit.Proofs.Conversation
import AltBit.Proofs.Lossy.Peer

/-!
Replies to unreliable frames. Nothing in such a frame tells which call it belongs to, so a call is
returned the next reply on its identifier, also if that is the late answer to a call that has given
up. On a link that keeps the order and repeats nothing the answers of an echo fall behind, but they
stay in order: each call is returned its own payload or that of a call before it.
-/
namespace AltBit
open Traced

section
variable {m : Nat} {id : Identifier}

/-- The payloads of the frames for `id`. -/
def payloadsOf (id : Identifier) (fs : List (Frame m)) : List (Vector UInt8 m) :=
  (fs.filter fun f => f.id = id).map Frame.payload

theorem payloadsOf_append (fs gs : List (Frame m)) :
    payloadsOf id (fs ++ gs) = payloadsOf id fs ++ payloadsOf id gs := by
  simp [payloadsOf]

theorem payloadsOf_cons (f : Frame m) (fs : List (Frame m)) :
    payloadsOf id (f :: fs) = payloadsOf id [f] ++ payloadsOf id fs :=
  payloadsOf_append [f] fs

theorem payloadsOf_sublist {fs gs : List (Frame m)} (h : fs.Sublist gs) :
    (payloadsOf id fs).Sublist (payloadsOf id gs) :=
  (h.filter _).map _

end

variable {σ : Type} [Behaviour σ] {m : Nat} {id : Identifier}

/-- The handler of `id` is unreliable and returns each payload as it is. -/
def Registry.Echoes (m : Nat) (id : Identifier) (r : Registry σ) : Prop :=
  ∃ h, r.handlers.get? id = some h ∧ h.reliable = false ∧ ∀ payload : Vector UInt8 m,
    (Behaviour.react h.state payload).val.state = h.state ∧
      (Behaviour.react h.state payload).val.payload = payload

theorem Registry.Echoes.handle {r : Registry σ} (hr : r.Echoes m id) (f : Frame m) :
    (r.handle f).val.registry.Echoes m id ∧
      payloadsOf id [(r.handle f).val.reply] = payloadsOf id [f] := by
  obtain ⟨h, hh, hunreliable, hecho⟩ := hr
  by_cases hid : f.id = id
  · subst hid
    have hcase := r.handle_cases f
    generalize (r.handle f).val = x at hcase ⊢
    cases hcase with
    | unknown hnone => cases hh.symm.trans hnone
    | @unreliable h' hh' =>
      obtain rfl : h' = h := Option.some.inj (hh'.symm.trans hh)
      obtain ⟨hstate, hpayload⟩ := hecho f.payload
      have hhandler : (h'.invoke f).val.handler = h' := by
        rw [Handler.val_invoke, hstate]
      have hreply : (h'.invoke f).val.frame = f := by
        rw [Handler.val_invoke, hpayload]
      rw [hhandler, hreply]
      exact ⟨⟨h', by rw [IdTable.get?_insert, if_pos rfl], hunreliable, hecho⟩, rfl⟩
    | accepted hh' hc | duplicate hh' hc =>
      obtain rfl : _ = h := Option.some.inj (hh'.symm.trans hh)
      have hreliable := (channelOf?_eq_some_iff.mp hc).1
      cases hunreliable.symm.trans hreliable
  · have hreply : (r.handle f).val.reply.id ≠ id := (r.header_handle f).1 ▸ hid
    refine ⟨⟨h, (r.get?_handle_other f hid).1.trans hh, hunreliable, hecho⟩, ?_⟩
    simp [payloadsOf, hid, hreply]

/-- The payloads for `id` that are on their way: in the replies, then in the requests. -/
def Dispatcher.inFlight (id : Identifier) (d : Dispatcher (Link.Memory m) σ) :
    List (Vector UInt8 m) :=
  payloadsOf id (d.link.outbound ++ d.link.inbound)

/-- The far end echoes the frames for `id`, and of the payloads `pending`, in their order, some are
on their way. -/
structure Echoing (id : Identifier) (pending : List (Vector UInt8 m))
    (d : Dispatcher (Link.Memory m) σ) (log : List Event) : Prop where
  echoes : d.registry.Echoes m id
  inFlight : (d.inFlight id).Sublist pending

/-- The reply `r` has been read: its payload is one of those that were pending, and what is on its
way was sent after it. -/
def Past (id : Identifier) (pending : List (Vector UInt8 m)) (r : Frame m)
    (d : Dispatcher (Link.Memory m) σ) (log : List Event) : Prop :=
  ∃ left, (payloadsOf id [r] ++ left).Sublist pending ∧ Echoing id left d log

section
variable {pending : List (Vector UInt8 m)} {d : Dispatcher (Link.Memory m) σ} {log : List Event}

theorem kept_echoing (id : Identifier) (pending : List (Vector UInt8 m)) :
    Kept (σ := σ) Losing (Echoing id pending) where
  requests h hfs :=
    ⟨h.echoes, (payloadsOf_sublist (List.Sublist.append_left hfs _)).trans h.inFlight⟩
  replies h hfs :=
    ⟨h.echoes, (payloadsOf_sublist (List.Sublist.append_right hfs _)).trans h.inFlight⟩
  poll {d log} h := by
    rcases d.poll_cases with ⟨hregistry, -, hlost, hkept⟩ | ⟨f, hregistry, -, htaken, hreplied⟩
    · refine ⟨hregistry ▸ h.echoes, ?_⟩
      rw [Dispatcher.inFlight, hkept]
      exact (payloadsOf_sublist (hlost.append_left _)).trans h.inFlight
    · obtain ⟨hechoes, hreply⟩ := h.echoes.handle f
      refine ⟨hregistry ▸ hechoes, List.Sublist.trans ?_ h.inFlight⟩
      -- the echo takes the place of its request, or is lost
      have hbefore : d.inFlight id = payloadsOf id d.link.outbound ++
          (payloadsOf id [f] ++ payloadsOf id d.poll.val.2.link.inbound) := by
        rw [Dispatcher.inFlight, htaken, payloadsOf_append, payloadsOf_cons f]
      rw [hbefore, Dispatcher.inFlight, payloadsOf_append]
      rcases hreplied with hlost | hkept
      · rw [hlost]
        exact (List.sublist_append_right ..).append_left _
      · rw [hkept, payloadsOf_append, hreply, List.append_assoc]

theorem kept_past (id : Identifier) (pending : List (Vector UInt8 m)) (r : Frame m) :
    Kept (σ := σ) Losing (Past id pending r) where
  requests := fun ⟨left, hleft, h⟩ hfs => ⟨left, hleft, (kept_echoing id left).requests h hfs⟩
  replies := fun ⟨left, hleft, h⟩ hfs => ⟨left, hleft, (kept_echoing id left).replies h hfs⟩
  poll := fun ⟨left, hleft, h⟩ => ⟨left, hleft, (kept_echoing id left).poll h⟩

theorem Echoing.take (h : Echoing id pending d log) {r : Frame m} {rest : List (Frame m)}
    (houtbound : d.link.outbound = r :: rest) : Past id pending r (d.withReplies rest) log := by
  have hsplit : d.inFlight id = payloadsOf id [r] ++ (d.withReplies rest).inFlight id := by
    rw [Dispatcher.inFlight, houtbound, List.cons_append, payloadsOf_cons]
    rfl
  have hinFlight := h.inFlight
  rw [hsplit] at hinFlight
  exact ⟨(d.withReplies rest).inFlight id, hinFlight, h.echoes, List.Sublist.refl _⟩

theorem Echoing.send (h : Echoing id pending d log) (f : Frame m) :
    Echoing id (pending ++ payloadsOf id [f]) (d.withRequests (d.link.inbound ++ [f])) log := by
  refine ⟨h.echoes, ?_⟩
  have hsplit : (d.withRequests (d.link.inbound ++ [f])).inFlight id =
      d.inFlight id ++ payloadsOf id [f] := by
    rw [Dispatcher.inFlight, Dispatcher.inFlight, ← payloadsOf_append, List.append_assoc]
    rfl
  rw [hsplit]
  exact h.inFlight.append_right _

theorem Past.echoing {r : Frame m} (h : Past id pending r d log) : Echoing id pending d log := by
  obtain ⟨left, hleft, h⟩ := h
  exact ⟨h.echoes, h.inFlight.trans ((List.sublist_append_right ..).trans hleft)⟩

end

/-! What calls come to. -/

section
variable (id : Identifier) (sub : Submission m) (subs subs' : List (Submission m))

def Submission.echo? : Option (Vector UInt8 m) :=
  match sub.result with
  | some (.ok r) => some r.payload
  | _ => none

theorem Submission.isSome_echo? (h : sub.isAcknowledged = true) : sub.echo?.isSome = true := by
  obtain ⟨_, _, _ | e | r⟩ := sub
  · cases h
  · cases h
  · rfl

/-- The payloads that calls on `id` have returned. -/
def returnedOn : List (Vector UInt8 m) := (submissionsOn id subs).filterMap Submission.echo?

/-- The payloads that calls on `id` have sent, filled up with zeros. -/
def sentOn : List (Vector UInt8 m) :=
  (submissionsOn id subs).map fun sub => zeroPadded m sub.payload

theorem returnedOn_singleton : returnedOn id [sub] =
    if sub.id = id ∧ sub.payload.length ≤ m then sub.echo?.toList else [] := by
  by_cases h : sub.id = id ∧ sub.payload.length ≤ m
  · cases hecho : sub.echo? <;> simp [returnedOn, submissionsOn, h, hecho]
  · rw [if_neg h]
    simp [returnedOn, submissionsOn, h]

theorem sentOn_singleton : sentOn id [sub] =
    if sub.id = id ∧ sub.payload.length ≤ m then [zeroPadded m sub.payload] else [] := by
  by_cases h : sub.id = id ∧ sub.payload.length ≤ m
  · simp [sentOn, submissionsOn, h]
  · rw [if_neg h]
    simp [sentOn, submissionsOn, h]

theorem returnedOn_cons :
    returnedOn id (sub :: subs) = returnedOn id [sub] ++ returnedOn id subs := by
  rw [returnedOn, submissionsOn_cons, List.filterMap_append]
  rfl

theorem sentOn_cons : sentOn id (sub :: subs) = sentOn id [sub] ++ sentOn id subs := by
  rw [sentOn, submissionsOn_cons, List.map_append]
  rfl

end

namespace Sender
variable {T : Type} [Link T m]

/-- Unreliable calls, one after another, whatever became of the calls before. -/
def exchangeAll : List Call → Sender T → Traced (List (Submission m) × Sender T)
  | [], s => pure ([], s)
  | call :: calls, s => do
    let (result, s) ← s.sendUnreliable call.rounds call.id call.payload
    let (subs, s) ← exchangeAll calls s
    pure (⟨call.id, call.payload, result⟩ :: subs, s)

/-- The first calls come to the same whatever calls come after them. -/
theorem take_exchangeAll (k : Nat) (calls : List Call) (s : Sender T) :
    (s.exchangeAll (m := m) calls).val.1.take k = (s.exchangeAll (calls.take k)).val.1 := by
  induction calls generalizing k s with
  | nil => simp [exchangeAll]
  | cons call calls ih =>
    cases k with
    | zero => rfl
    | succ k => exact congrArg (_ :: ·) (ih k _)

variable [Remote T σ] {P : T → Prop} {pending : List (Vector UInt8 m)} {s : Sender T}

theorem waits_echoing (hP : Conveys Losing P) (id j : Identifier)
    (pending : List (Vector UInt8 m)) :
    Waits j (fun _ : Frame m => true) (Across P (Echoing id pending))
      (Across P (Echoing id pending))
      fun r t log => r.id = j ∧ Across P (Past id pending r) t log := by
  refine .ofInvariant (hP.triple_available (kept_echoing id pending)) (fun t log hlog => ?_)
    fun _ hlog => ⟨hlog.1, hlog.2.echoes, hlog.2.inFlight⟩
  have hafter := hP.triple_read (kept_echoing id pending) (kept_past id pending)
    (fun hd houtbound => hd.take houtbound) t log hlog
  cases hread : (Link.read t).val.1 with
  | error e => simpa only [hread] using hafter
  | ok r =>
    simp only [hread] at hafter ⊢
    split
    next hid => exact ⟨by simpa using hid, hafter⟩
    next => exact ⟨hafter.1, hafter.2.echoing⟩

/-- A call adds its payload to those that are pending, and a reply takes one of them and passes over
those before it. -/
theorem echoing_sendUnreliable (hP : Conveys Losing P) (call : Call) (s : Sender T) :
    Triple (Across P (Echoing id pending) s.link)
      (s.sendUnreliable (m := m) call.rounds call.id call.payload) fun x log =>
        let sub := ⟨call.id, call.payload, x.1⟩
        ∃ left, (returnedOn id [sub] ++ left).Sublist (pending ++ sentOn id [sub]) ∧
          Across P (Echoing id left) x.2.link log := by
  intro log hlog
  by_cases hfits : call.payload.length ≤ m
  · let f : Frame m := ⟨call.id, 0, 0, zeroPadded m call.payload⟩
    have hwrite (t : T) := hP.triple_write (kept_echoing id pending)
      (kept_echoing id (pending ++ payloadsOf id [f])) (fun hd => hd.send f) t
    obtain ⟨-, hsent⟩ := (waits_echoing hP id call.id (pending ++ payloadsOf id [f])).exchange
      hwrite call.rounds s log hlog
    have hown (result : Option (Except SendError (Frame m))) :
        sentOn id [⟨call.id, call.payload, result⟩] = payloadsOf id [f] := by
      by_cases hid : call.id = id <;> simp [sentOn_singleton, payloadsOf, f, hid, hfits]
    have hunanswered {result : Option (Except SendError (Frame m))} {s' : Sender T}
        {log : List Event} (hnone : Submission.echo? ⟨call.id, call.payload, result⟩ = none)
        (h : Across P (Echoing id pending) s'.link log ∨
          Across P (Echoing id (pending ++ payloadsOf id [f])) s'.link log) :
        ∃ left, (returnedOn id [⟨call.id, call.payload, result⟩] ++ left).Sublist
            (pending ++ sentOn id [⟨call.id, call.payload, result⟩]) ∧
          Across P (Echoing id left) s'.link log := by
      rw [returnedOn_singleton, hnone, Option.toList_none, ite_self, hown]
      rcases h with h | h
      · exact ⟨pending, List.sublist_append_left .., h⟩
      · exact ⟨_, List.Sublist.refl _, h⟩
    generalize (s.sendUnreliable (m := m) call.rounds call.id call.payload).val = x at hsent ⊢
    rcases x with ⟨_ | e | r, s'⟩
    · exact hunanswered rfl hsent
    · exact hunanswered rfl hsent
    · obtain ⟨hid, hP', left, hleft, h⟩ := hsent
      refine ⟨left, ?_, hP', h⟩
      have hreturned : returnedOn id [⟨call.id, call.payload, some (.ok r)⟩] =
          payloadsOf id [r] := by
        by_cases hcall : call.id = id <;>
          simp [returnedOn_singleton, payloadsOf, Submission.echo?, hid, hcall, hfits]
      rwa [hreturned, hown]
  · rw [sendUnreliable_of_not_le hfits]
    refine ⟨pending, ?_, by simpa using hlog⟩
    simp [returnedOn_singleton, sentOn_singleton, hfits]

theorem echoing_exchangeAll (hP : Conveys Losing P) (calls : List Call) (s : Sender T) :
    Triple (Across P (Echoing id pending) s.link) (s.exchangeAll (m := m) calls) fun x log =>
      ∃ left, (returnedOn id x.1 ++ left).Sublist (pending ++ sentOn id x.1) ∧
        Across P (Echoing id left) x.2.link log := by
  induction calls generalizing s pending with
  | nil =>
    refine Triple.pure fun _ hlog => ⟨pending, ?_, hlog⟩
    simp [returnedOn, sentOn, submissionsOn]
  | cons call calls ih =>
    refine Triple.bind (echoing_sendUnreliable hP call s) fun x => ?_
    rintro log ⟨left, hleft, hafter⟩
    obtain ⟨left', hleft', hafter'⟩ := ih x.2 log hafter
    refine ⟨left', ?_, by simpa using hafter'⟩
    rw [val_bind, val_pure, returnedOn_cons, sentOn_cons, List.append_assoc]
    exact (hleft'.append_left _).trans (by simpa using hleft.append_right (sentOn id _))

/-- Calls on an identifier that is echoed are returned payloads of calls on it, in the order in
which they were sent, none twice and none before it was sent; so each is returned its own as long as
all of them are returned one. A call is also returned its own if nothing for the identifier is on
its way when it is made. -/
theorem echoes_in_order (hP : Conveys Losing P) (hlink : P s.link)
    (hechoes : (Remote.far s.link).registry.Echoes m id)
    (hstart : (Remote.far s.link).inFlight id = []) (calls : List Call) :
    let x := (s.exchangeAll calls).val
    (∀ k, (returnedOn id (x.1.take k)).Sublist (sentOn id (x.1.take k))) ∧
    (∀ k, (∀ sub ∈ submissionsOn id (x.1.take k), sub.isAcknowledged = true) →
      returnedOn id (x.1.take k) = sentOn id (x.1.take k)) ∧
    ∀ call : Call, call.id = id → (Remote.far x.2.link).inFlight id = [] →
      ∀ r, (x.2.sendUnreliable call.rounds call.id call.payload).val.1 = some (.ok r) →
        r.payload = zeroPadded m call.payload := by
  intro x
  have hbegin : Across P (Echoing id []) s.link [] := ⟨hlink, hechoes, by rw [hstart]⟩
  have hsublist (k : Nat) : (returnedOn id (x.1.take k)).Sublist (sentOn id (x.1.take k)) := by
    obtain ⟨left, hleft, -⟩ := echoing_exchangeAll hP (calls.take k) s [] hbegin
    rw [take_exchangeAll]
    exact (List.sublist_append_left ..).trans hleft
  refine ⟨hsublist, fun k hall => (hsublist k).eq_of_length ?_, fun call hid hnone r hr => ?_⟩
  · have hechoed (sub : Submission m) (hsub : sub ∈ submissionsOn id (x.1.take k)) :
        sub.echo?.isSome = true := sub.isSome_echo? (hall sub hsub)
    rw [returnedOn, sentOn, List.length_map]
    exact List.filterMap_length_eq_length.mpr hechoed
  · obtain ⟨-, -, hP', hechoes', -⟩ := echoing_exchangeAll hP calls s [] hbegin
    have hagain : Across P (Echoing id []) x.2.link [] := ⟨hP', hechoes', by rw [hnone]⟩
    by_cases hfits : call.payload.length ≤ m
    · obtain ⟨left, hleft, -⟩ := echoing_sendUnreliable hP call x.2 [] hagain
      have hcall : call.id = id ∧ call.payload.length ≤ m := ⟨hid, hfits⟩
      rw [hr, returnedOn_singleton, sentOn_singleton, if_pos hcall, if_pos hcall] at hleft
      have hown := (List.sublist_append_left ..).trans hleft
      exact List.singleton_inj.mp (hown.eq_of_length rfl)
    · rw [sendUnreliable_of_not_le hfits] at hr
      cases hr

/-- A sender to a peer that echoes the frames for 5, all attempts of which end at once. -/
def toEcho (plan : List Link.Passage) : Sender (Link.Peer (Service Rule) 2) where
  link := {
    dispatcher := {
      link := {}
      registry := ((Registry.empty.install Service.sessionHandler).val.registerAll
        [⟨5, false, .custom .echo⟩]).val.2 }
    plan }
  config := ⟨.zero, 1, .zero⟩
  clock := .ticking 1

theorem echoes_toEcho (plan : List Link.Passage) :
    (Remote.far (toEcho plan).link).registry.Echoes 2 5 := by
  have hregistry : (Remote.far (toEcho plan).link).registry =
      (toEcho []).link.dispatcher.registry := rfl
  rw [hregistry]
  exact ⟨⟨5, false, .custom .echo⟩, by decide +kernel, rfl, fun _ => ⟨rfl, rfl⟩⟩

/-- The echo of the first frame is held back until the second is written, and the second call is
returned it. -/
theorem echo_of_call_before :
    let s := toEcho [{ held := true }]
    s.link.NeverRepeats ∧ (Remote.far s.link).registry.Echoes 2 5 ∧
      (Remote.far s.link).inFlight 5 = [] ∧
      (s.exchangeAll [⟨3, 5, [7]⟩, ⟨3, 5, [8]⟩]).val.1.map Submission.result =
        [some (.error (.timeout .zero)), some (.ok ⟨5, 0, 0, #v[7, 0]⟩)] ∧
      zeroPadded 2 [8] ≠ #v[7, 0] :=
  ⟨⟨by decide, rfl, rfl, rfl⟩, echoes_toEcho _, rfl, by decide +kernel, by decide⟩

/-- The first frame gets lost, the second is answered at once, and the answer to the third is what
the fourth call is returned. -/
theorem echoes_in_order_toEcho :
    let s := toEcho [{ arrivals := 0 }, {}, { held := true }]
    let x := (s.exchangeAll [⟨3, 5, [1]⟩]).val
    let y := (s.exchangeAll [⟨3, 5, [1]⟩, ⟨3, 5, [2]⟩, ⟨3, 5, [3]⟩, ⟨3, 5, [4]⟩]).val
    s.link.NeverRepeats ∧ (Remote.far s.link).registry.Echoes 2 5 ∧
      (Remote.far s.link).inFlight 5 = [] ∧ (Remote.far x.2.link).inFlight 5 = [] ∧
      (∃ r, (x.2.sendUnreliable 3 5 [2]).val.1 = some (.ok r) ∧ r.payload = zeroPadded 2 [2]) ∧
      returnedOn 5 y.1 = [#v[2, 0], #v[3, 0]] ∧
      sentOn 5 y.1 = [#v[1, 0], #v[2, 0], #v[3, 0], #v[4, 0]] ∧
      (returnedOn 5 y.1).Sublist (sentOn 5 y.1) := by
  intro s x y
  have hlink : s.link.NeverRepeats := ⟨by decide, rfl, rfl, rfl⟩
  have hnone : (Remote.far x.2.link).inFlight 5 = [] := by decide +kernel
  have hsecond : (x.2.sendUnreliable 3 5 [2]).val.1 = some (.ok ⟨5, 0, 0, #v[2, 0]⟩) := by
    decide +kernel
  obtain ⟨-, -, hown⟩ := echoes_in_order Link.Peer.conveys_losing hlink (echoes_toEcho _) rfl
    [⟨3, 5, [1]⟩]
  obtain ⟨hsublist, -, -⟩ := echoes_in_order Link.Peer.conveys_losing hlink (echoes_toEcho _) rfl
    [⟨3, 5, [1]⟩, ⟨3, 5, [2]⟩, ⟨3, 5, [3]⟩, ⟨3, 5, [4]⟩]
  have hall : y.1.take 4 = y.1 := List.take_of_length_le (by decide +kernel)
  have hcalls : (returnedOn 5 (y.1.take 4)).Sublist (sentOn 5 (y.1.take 4)) := hsublist 4
  rw [hall] at hcalls
  exact ⟨hlink, echoes_toEcho _, rfl, hnone, ⟨_, hsecond, hown ⟨3, 5, [2]⟩ rfl hnone _ hsecond⟩,
    by decide +kernel, by decide +kernel, hcalls⟩

end Sender

end AltBit

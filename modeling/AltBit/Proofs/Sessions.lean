import AltBit.Proofs.ExactlyOnce
import AltBit.Proofs.Lossy.Peer
import AltBit.Proofs.Matching

/-!
Sessions over a link that loses frames. A client sends connects, keepalives and disconnects, each as
often as it takes to get it acknowledged, and starts its numbers over after a disconnect. A
disconnect with the number one ends at even like every frame with that number; one with the number
zero is accepted but keeps the channel at even, so it is processed again whenever it arrives again.
Either way the client's reset meets the channel where it is.
-/
namespace AltBit
open Traced

namespace SessionOperation

/-- Whether a session is open after the operation. -/
def opens (op : SessionOperation) (connected : Bool) : Bool :=
  match op with
  | keepalive => connected
  | connect => true
  | disconnect => false

def outcome : SessionOperation → Outcome
  | keepalive | connect => .normal
  | disconnect => .sessionReset

/-- The number that is waited for after the operation has come with `bit`. -/
def next (op : SessionOperation) (bit : UInt8) : UInt8 :=
  match op with
  | keepalive | connect => flipBit bit
  | disconnect => 0

theorem opens_opens (op : SessionOperation) (connected : Bool) :
    op.opens (op.opens connected) = op.opens connected := by
  cases op <;> rfl

theorem ofOpcode_opcode (op : SessionOperation) : ofOpcode op.opcode = .ok op := by
  cases op <;> rfl

theorem expected_afterAccept_outcome (op : SessionOperation) (c : ChannelState) :
    (c.afterAccept Identifier.sessionControl op.outcome).expected = op.next c.expected := by
  cases op <;> cases c <;> decide

/-- Whether the last operation but keepalives is a connect. -/
def EndsConnected (ops : List SessionOperation) : Prop :=
  (ops.filter (· ≠ keepalive)).getLast? = some connect

instance (ops : List SessionOperation) : Decidable (EndsConnected ops) :=
  inferInstanceAs (Decidable (_ = _))

theorem foldl_opens (ops : List SessionOperation) :
    ops.foldl (fun connected op => op.opens connected) false = true ↔ EndsConnected ops := by
  induction ops using List.reverseRecOn with
  | nil => simp [EndsConnected]
  | append_singleton ops op ih =>
    rw [List.foldl_concat, EndsConnected, List.filter_append]
    cases op with
    | keepalive =>
      have hnone : [keepalive].filter (· ≠ keepalive) = [] := rfl
      rw [hnone, List.append_nil]
      exact ih
    | connect => simp [opens]
    | disconnect => simp [opens]

end SessionOperation

namespace SessionControl
variable {m : Nat}

theorem requested_zeroPadded (op : SessionOperation) (rest : List UInt8)
    (hfits : (op.opcode :: rest).length ≤ m) :
    requested (zeroPadded m (op.opcode :: rest)) = .ok op := by
  have hpos : 0 < m := Nat.lt_of_lt_of_le (Nat.succ_pos _) hfits
  have hfirst : (zeroPadded m (op.opcode :: rest))[0]? = some op.opcode := by
    simp [zeroPadded, hpos]
  rw [requested, hfirst]
  exact op.ofOpcode_opcode

end SessionControl

theorem Service.react_session {τ : Type} [Behaviour τ] {m : Nat} {op : SessionOperation}
    {payload : Vector UInt8 m} (hop : SessionControl.requested payload = .ok op)
    (connected : Bool) :
    let reaction := (Behaviour.react (Service.session (τ := τ) ⟨connected⟩) payload).val
    reaction.state = .session ⟨op.opens connected⟩ ∧ reaction.result = .ok op.outcome := by
  cases op <;>
    simp [Behaviour.react, Service.react, SessionControl.react, hop, SessionOperation.opens,
      SessionOperation.outcome]

/-- What the accepted frame leaves of its handler, and what the handler reports. -/
theorem Registry.Awaits.handler_expected {σ : Type} [Behaviour σ] {m : Nat} {r : Registry σ}
    {f : Frame m} {c : ChannelState} {h : Handler σ} (hr : r.Awaits f.id c)
    (hh : r.handlers.get? f.id = some h) (hseq : f.seq = c.expected) :
    let reaction := (Behaviour.react h.state f.payload).val
    (r.handle f).val.registry.handlers.get? f.id = some { h with state := reaction.state } ∧
      (r.handle f).val.result = some reaction.result := by
  obtain ⟨k, hk, -, hanswer⟩ := hr.answer_eq
  obtain rfl : h = k := Option.some.inj (hh.symm.trans hk)
  have hv := (c.classify_eq_accept_iff f.seq c.expected).mpr ⟨hseq, rfl⟩
  rw [(handle_of_some hk).1, hanswer]
  simp [handleReliable, hv, Handler.val_invoke, IdTable.get?_insert]

variable {τ : Type} {m : Nat} {r : Registry (Service τ)}

/-- The session handler is registered and has been given `payloads`; `connected` tells whether a
session is open, and the channel waits for `bit`. -/
structure InSession (connected : Bool) (bit : UInt8) (payloads : List (List UInt8))
    (r : Registry (Service τ)) (given : List (List UInt8)) : Prop where
  handler : r.handlers.get? Identifier.sessionControl =
    some ⟨Identifier.sessionControl, true, .session ⟨connected⟩⟩
  channel : ∃ c, r.channelState? Identifier.sessionControl = some c ∧ c.expected = bit
  given : given = payloads

namespace InSession
variable [Behaviour τ] {connected : Bool} {bit : UInt8} {payloads given : List (List UInt8)}
  {f : Frame m} {op : SessionOperation}

omit [Behaviour τ] in
theorem awaits (h : InSession connected bit payloads r given) :
    ∃ c, r.Awaits Identifier.sessionControl c ∧ c.expected = bit := by
  obtain ⟨c, hc, hbit⟩ := h.channel
  refine ⟨c, ⟨?_, hc⟩, hbit⟩
  rw [Registry.isReliable?, h.handler]
  rfl

theorem handle_expected (h : InSession connected f.seq payloads r given)
    (hid : f.id = Identifier.sessionControl)
    (hop : SessionControl.requested f.payload = .ok op) :
    InSession (op.opens connected) (op.next f.seq) (payloads ++ [f.payload.toList])
      (r.handle f).val.registry
      (given ++ invocations Identifier.sessionControl (r.handle f).events) := by
  obtain ⟨c, hawaits, hseq⟩ := h.awaits
  have hhandler := h.handler
  rw [← hid] at hawaits hhandler
  obtain ⟨hnext, -, -, hinvoked⟩ := hawaits.handle_expected hseq.symm
  obtain ⟨hleft, hresult⟩ := hawaits.handler_expected hhandler hseq.symm
  obtain ⟨hstate, hreported⟩ := Service.react_session (τ := τ) hop connected
  have houtcome : (r.handle f).val.outcome = op.outcome := by
    rw [Handled.outcome, hresult, hreported]
    rfl
  rw [hstate] at hleft
  rw [houtcome] at hnext
  rw [hid] at hnext hinvoked hleft
  refine ⟨hleft, ⟨_, hnext.channel, ?_⟩, ?_⟩
  · rw [op.expected_afterAccept_outcome, hseq]
  · rw [hinvoked, h.given]

theorem handle_unexpected (h : InSession connected bit payloads r given)
    (hid : f.id = Identifier.sessionControl) (hseq : f.seq ≠ bit) :
    InSession connected bit payloads (r.handle f).val.registry
      (given ++ invocations Identifier.sessionControl (r.handle f).events) := by
  obtain ⟨c, hawaits, rfl⟩ := h.awaits
  rw [← hid] at hawaits
  obtain ⟨hsame, -, -, hinvoked⟩ := hawaits.handle_unexpected hseq
  rw [hid] at hinvoked
  rw [hsame, hinvoked, List.append_nil]
  exact h

end InSession

/-- An operation to be sent, with what follows its opcode in the payload. Each time that it is
submitted, waits may take a number of rounds. -/
structure SessionCall where
  operation : SessionOperation
  rest : List UInt8 := []
  submissions : List Nat

namespace SessionCall
variable {call : SessionCall} {connected : Bool} {payloads : List (List UInt8)} {f : Frame m}

def payload (call : SessionCall) : List UInt8 := call.operation.opcode :: call.rest

def padded (m : Nat) (call : SessionCall) : List UInt8 := (zeroPadded m call.payload).toList

/-- What the handler is given for a call: its payload once, or several times for a disconnect. -/
def Processed (m : Nat) (call : SessionCall) (group : List (List UInt8)) : Prop :=
  ∃ n, 0 < n ∧ (call.operation ≠ .disconnect → n = 1) ∧
    group = List.replicate n (call.padded m)

theorem Processed.once (m : Nat) (call : SessionCall) : call.Processed m [call.padded m] :=
  ⟨1, Nat.one_pos, fun _ => rfl, rfl⟩

theorem Processed.again {group : List (List UInt8)} (h : call.Processed m group)
    (hcall : call.operation = .disconnect) : call.Processed m (group ++ [call.padded m]) := by
  obtain ⟨n, -, -, rfl⟩ := h
  exact ⟨n + 1, Nat.succ_pos n, fun hne => absurd hcall hne, List.replicate_succ'.symm⟩

/-- The far end after the call has come with `bit`. -/
def Served (call : SessionCall) (m : Nat) (connected : Bool) (bit : UInt8)
    (payloads : List (List UInt8)) : Stage (Service τ) := fun r given =>
  ∃ group, call.Processed m group ∧
    InSession (call.operation.opens connected) (call.operation.next bit) (payloads ++ group) r given

theorem brings [Behaviour τ] (hfits : call.payload.length ≤ m)
    (hid : f.id = Identifier.sessionControl) (hpayload : f.payload = zeroPadded m call.payload)
    (connected : Bool) (payloads : List (List UInt8)) :
    Brings (σ := Service τ) Identifier.sessionControl f (InSession connected f.seq payloads)
      (call.Served m connected f.seq payloads) := by
  have hop : SessionControl.requested f.payload = .ok call.operation := by
    rw [hpayload]
    exact SessionControl.requested_zeroPadded _ _ hfits
  have hgiven : f.payload.toList = call.padded m := by rw [hpayload, padded]
  constructor
  · intro r given hbefore
    refine ⟨[call.padded m], .once m call, ?_⟩
    rw [← hgiven]
    exact hbefore.handle_expected hid hop
  · rintro r given ⟨group, hgroup, hafter⟩
    by_cases hseq : call.operation.next f.seq = f.seq
    · -- only a disconnect leaves the channel at the number that it came with
      have hcall : call.operation = .disconnect := by
        cases hcall : call.operation with
        | disconnect => rfl
        | keepalive | connect =>
          rw [hcall] at hseq
          exact absurd hseq (flipBit_ne f.seq)
      rw [hseq] at hafter
      refine ⟨group ++ [call.padded m], hgroup.again hcall, ?_⟩
      have hagain := hafter.handle_expected hid hop
      rw [hgiven, List.append_assoc, call.operation.opens_opens] at hagain
      exact hagain
    · exact ⟨group, hgroup, hafter.handle_unexpected hid (Ne.symm hseq)⟩

end SessionCall

namespace Sender
variable {T : Type}

section
variable [Link T m]

/-- Submits a payload again and again until it is acknowledged. -/
def resubmit (id : Identifier) (payload : List UInt8) :
    List Nat → Sender T → Traced (Bool × Sender T)
  | [], s => pure (false, s)
  | rounds :: submissions, s => do
    let (result, s) ← s.sendReliable rounds id payload
    match result with
    | some (.ok _) => pure (true, s)
    | none | some (.error .deadlineUnreachable) => pure (false, s)
    | some (.error _) => resubmit id payload submissions s

/-- Sends an operation until it is acknowledged; the numbers start over after a disconnect. -/
def operate (s : Sender T) (call : SessionCall) : Traced (Bool × Sender T) := do
  let (done, s) ← s.resubmit Identifier.sessionControl call.payload call.submissions
  pure (done, if done ∧ call.operation = .disconnect then s.reset Identifier.sessionControl else s)

/-- Sends operations one after another as long as they are acknowledged. -/
def operateAll : List SessionCall → Sender T → Traced (Bool × Sender T)
  | [], s => pure (true, s)
  | call :: calls, s => do
    let (done, s) ← s.operate call
    if done then operateAll calls s else pure (false, s)

theorem operateAll_take {calls : List SessionCall} {s : Sender T}
    (h : (s.operateAll calls).val.1 = true) (k : Nat) :
    (s.operateAll (calls.take k)).val.1 = true := by
  induction calls generalizing s k with
  | nil => simpa using h
  | cons call calls ih =>
    cases k with
    | zero => rfl
    | succ k =>
      rw [operateAll] at h
      rw [List.take_succ_cons, operateAll]
      cases hdone : (s.operate call).val.1 with
      | false => simp [hdone] at h
      | true =>
        simp only [Traced.val_bind, hdone, if_true] at h ⊢
        exact ih h k

end

variable [Behaviour τ] [Link T m] [Remote T (Service τ)] {P : T → Prop} {s : Sender T}
  {connected : Bool} {payloads : List (List UInt8)}

theorem rested_resubmit {id : Identifier} {payload : List UInt8} {bit : UInt8}
    {B S : Stage (Service τ)} (hP : Lossy P)
    (hbrings : payload.length ≤ m → Brings id ⟨id, bit, 0, zeroPadded m payload⟩ B S)
    (submissions : List Nat) (s : Sender T) (hbit : s.nextSeq id = bit) :
    Triple (Across P (Rested id (Between B S)) s.link) (s.resubmit id payload submissions)
      fun x log =>
      x.1 = true → x.2.nextSeq id = flipBit bit ∧ Across P (Rested id S) x.2.link log := by
  induction submissions generalizing s with
  | nil => exact Triple.pure fun _ _ hdone => nomatch hdone
  | cons rounds submissions ih =>
    have hsends : payload.length ≤ m → Sends ⟨id, s.nextSeq id, 0, zeroPadded m payload⟩
        (Across P (Underway id ⟨id, bit, 0, zeroPadded m payload⟩ B S))
        (Across P (Rested id (Between B S))) fun _ => Across P (Rested id S) := by
      rw [hbit]
      exact fun hfits => hP.sends (hbrings hfits)
    refine Triple.bind (Sends.sendReliable hsends rounds) ?_
    rintro ⟨result, s'⟩
    rcases result with _ | e | r
    · exact Triple.pure fun _ _ hdone => nomatch hdone
    · cases e with
      | deadlineUnreachable => exact Triple.pure fun _ _ hdone => nomatch hdone
      | link _ | frame _ | exhausted _ _ _ | timeout _ =>
        exact Triple.of_and fun hsequence =>
          ih s' ((nextSeq_congr hsequence id).trans hbit)
    · refine Triple.pure fun log hsent _ => ⟨?_, hsent.2⟩
      rw [hsent.nextSeq, if_pos rfl, hbit]

/-- The link only loses frames and none is on its way; the far end waits for the number that comes
next. -/
def Attended (P : T → Prop) (connected : Bool) (payloads : List (List UInt8)) (s : Sender T) :
    List Event → Prop :=
  Across P (Rested Identifier.sessionControl
    (InSession (τ := τ) connected (s.nextSeq Identifier.sessionControl) payloads)) s.link

theorem attended_operate (hP : Lossy P) (call : SessionCall) :
    Triple (s.Attended P connected payloads) (s.operate call) fun x log =>
      x.1 = true → ∃ group, call.Processed m group ∧
        x.2.Attended P (call.operation.opens connected) (payloads ++ group) log := by
  let f : Frame m := ⟨Identifier.sessionControl, s.nextSeq Identifier.sessionControl, 0,
    zeroPadded m call.payload⟩
  refine Triple.bind (Triple.of_imp (fun _ hlog => ?_) (rested_resubmit hP
    (fun hfits => SessionCall.brings (f := f) hfits rfl rfl connected payloads)
    call.submissions s rfl)) ?_
  · exact ⟨hlog.1, hlog.2.1, .inl hlog.2.2⟩
  rintro ⟨done, s'⟩
  refine Triple.pure fun log hsubmitted hdone => ?_
  obtain rfl : done = true := hdone
  obtain ⟨hnext, hlink, hempty, group, hgroup, hsession⟩ := hsubmitted rfl
  refine ⟨group, hgroup, ?_⟩
  by_cases hcall : call.operation = .disconnect
  · have hreset : (s'.reset Identifier.sessionControl).nextSeq Identifier.sessionControl =
        call.operation.next (s.nextSeq Identifier.sessionControl) := by
      rw [reset, nextSeq_setNextSeq, if_pos rfl, hcall]
      rfl
    rw [if_pos ⟨rfl, hcall⟩, Attended, hreset]
    exact ⟨hlink, hempty, hsession⟩
  · have hkept : s'.nextSeq Identifier.sessionControl =
        call.operation.next (s.nextSeq Identifier.sessionControl) := by
      rw [hnext]
      cases hop : call.operation with
      | keepalive | connect => rfl
      | disconnect => exact absurd hop hcall
    rw [if_neg fun h => hcall h.2, Attended, hkept]
    exact ⟨hlink, hempty, hsession⟩

theorem attended_operateAll (hP : Lossy P) (calls : List SessionCall) (s : Sender T)
    (connected : Bool) (payloads : List (List UInt8)) :
    Triple (s.Attended P connected payloads) (s.operateAll calls) fun x log =>
      x.1 = true → ∃ groups, List.Forall₂ (SessionCall.Processed m) calls groups ∧
        x.2.Attended P
          ((calls.map SessionCall.operation).foldl (fun connected op => op.opens connected)
            connected)
          (payloads ++ groups.flatten) log := by
  induction calls generalizing s connected payloads with
  | nil => exact Triple.pure fun _ hlog _ => ⟨[], .nil, by simpa using hlog⟩
  | cons call calls ih =>
    refine Triple.bind (attended_operate hP call) ?_
    rintro ⟨done, s'⟩
    cases done with
    | false => exact Triple.pure fun _ _ hdone => nomatch hdone
    | true =>
      intro log hoperated hdone
      obtain ⟨group, hgroup, hattended⟩ := hoperated rfl
      obtain ⟨groups, hgroups, hlast⟩ := ih s' _ _ log hattended hdone
      refine ⟨group :: groups, .cons hgroup hgroups, ?_⟩
      rw [List.flatten_cons, ← List.append_assoc]
      exact hlast

omit [Behaviour τ] in
/-- A new dispatcher's session handler is there whatever else gets registered. -/
theorem inSession_registerAll (others : List (Handler (Service τ))) :
    InSession false 0 []
      ((Registry.empty.install Service.sessionHandler).val.registerAll others).val.2 [] := by
  refine Registry.registerAll_keeps (P := (InSession false 0 [] · [])) (fun r h _ hr => ?_) ?_
  · rcases r.register_cases h with hsame | ⟨hfree, hinstalled⟩
    · rw [hsame]
      exact hr
    · have hne : Identifier.sessionControl ≠ h.id := by
        intro heq
        rw [← heq, hr.handler] at hfree
        cases hfree
      obtain ⟨hhandler, hchannel⟩ := r.get?_install_other hne
      rw [hinstalled]
      exact ⟨hhandler.trans hr.handler, hchannel ▸ hr.channel, rfl⟩
  · refine ⟨?_, ⟨.awaitingEven, ?_, rfl⟩, rfl⟩
    · exact (Registry.get?_handlers_install ..).trans (if_pos rfl)
    · exact (Registry.channelState?_install ..).trans (if_pos ⟨rfl, rfl⟩)

/-- After each operation that a new client has got acknowledged, and the reset after a disconnect,
both ends agree on the number that comes next; connects and keepalives have been processed once
each, disconnects at least once; and the session is open if its last change was a connect. -/
theorem sessions_in_step (hP : Lossy P) (hlink : P s.link)
    (hempty : (Remote.far s.link).link.Empty) (hfresh : s.nextSeq Identifier.sessionControl = 0)
    {others : List (Handler (Service τ))}
    (hregistry : (Remote.far s.link).registry =
      ((Registry.empty.install Service.sessionHandler).val.registerAll others).val.2)
    {calls : List SessionCall} (hdone : (s.operateAll calls).val.1 = true) (k : Nat) :
    let run := s.operateAll (calls.take k)
    let far := (Remote.far run.val.2.link).registry
    (∃ c, far.Awaits Identifier.sessionControl c ∧
        run.val.2.nextSeq Identifier.sessionControl = c.expected) ∧
      (∃ groups, List.Forall₂ (SessionCall.Processed m) (calls.take k) groups ∧
        invocations Identifier.sessionControl run.events = groups.flatten) ∧
      ∃ connected, far.handlers.get? Identifier.sessionControl =
          some ⟨Identifier.sessionControl, true, .session ⟨connected⟩⟩ ∧
        (connected = true ↔
          SessionOperation.EndsConnected ((calls.take k).map SessionCall.operation)) := by
  intro run far
  have hstart : s.Attended P false [] [] := by
    refine ⟨hlink, hempty, ?_⟩
    rw [hregistry, hfresh]
    exact inSession_registerAll others
  obtain ⟨groups, hgroups, -, -, hsession⟩ :=
    attended_operateAll hP (calls.take k) s false [] [] hstart (operateAll_take hdone k)
  obtain ⟨c, hawaits, hseq⟩ := hsession.awaits
  refine ⟨⟨c, hawaits, hseq.symm⟩, ⟨groups, hgroups, ?_⟩, _, hsession.handler,
    SessionOperation.foldl_opens _⟩
  have hgiven := hsession.given
  rwa [List.nil_append, List.nil_append] at hgiven

/-- A keepalive gets lost, and so does the reply to a disconnect with the number zero, which is
processed twice. -/
theorem sessions_in_step_sample :
    let s := sample [{}, { arrivals := 0 }, {}, { copies := 0 }, {}, {}, {}]
    let calls : List SessionCall := [⟨.connect, [], [3]⟩, ⟨.keepalive, [9], [3, 3]⟩,
      ⟨.disconnect, [], [3, 3]⟩, ⟨.connect, [], [3]⟩, ⟨.disconnect, [], [3]⟩]
    (s.operateAll calls).val.1 = true ∧
      invocations 1 (s.operateAll calls).events =
        [[1, 0], [0, 9], [2, 0], [2, 0], [1, 0], [2, 0]] ∧
      (Remote.far (s.operateAll (calls.take 4)).val.2.link).registry.handlers.get?
        Identifier.sessionControl = some ⟨Identifier.sessionControl, true, .session ⟨true⟩⟩ := by
  intro s calls
  have hlink : s.link.OnlyLoses := ⟨by decide, rfl, rfl, rfl, rfl⟩
  have hdone : (s.operateAll calls).val.1 = true := by decide +kernel
  obtain ⟨-, -, connected, hhandler, hopen⟩ :=
    sessions_in_step Link.Peer.lossy hlink ⟨rfl, rfl⟩ rfl rfl hdone 4
  have hconnected : connected = true := hopen.mpr (by decide)
  subst hconnected
  exact ⟨hdone, by decide +kernel, hhandler⟩

end Sender

end AltBit

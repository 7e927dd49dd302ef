import AltBit.Command.Serve
import AltBit.Proofs.Succession

/-!
Peers served one after another by the command. Serving is nothing but attaching peers, waiting and
polling, and echo handlers have nothing to remember, so each peer is answered as if it were the
first.
-/
namespace AltBit.Command.Serve
open Dispatcher

variable {m : Nat}

namespace Server

/-- The server once it has waited for a frame. -/
def waited (s : Server m) (w : Link.Stream.Waiting m) : Server m :=
  { s with dispatcher := { s.dispatcher with link := some w.stream }, clock := w.clock }

/-- Polls once and takes notice of the outcome. -/
def polled (s : Server m) : Next × Server m :=
  (note { s with dispatcher := s.dispatcher.poll.val.2 } s.dispatcher.poll.val.1).val

end Server

/-- What a round of serving comes to. -/
theorem val_servePeer_succ (stop : Server m → Bool) (limit : Option Nat) (rounds : Nat)
    (s : Server m) :
    (servePeer stop limit (rounds + 1) s).val =
      if stop s then (some (.ok .stopped), s)
      else if limit.any (· ≤ s.answered) then (some (.ok .countReached), s)
      else match s.dispatcher.link with
        | none => (some (.ok .disconnected), s)
        | some stream =>
          let w := (stream.waitForFrame idleWait s.clock).val
          match w.result with
          | .error e => (some (if e = .link .closed then .ok .disconnected
              else .error (.ofWait "receive failed" e)), s.waited w)
          | .ok _ =>
            match (s.waited w).polled with
            | (.hangUp, s) => (some (.ok .disconnected), s)
            | (.goOn, s) => (servePeer stop limit rounds s).val := by
  rw [servePeer]
  split
  · rfl
  · split
    · rfl
    · cases s.dispatcher.link with
      | none => rfl
      | some stream =>
        rcases hw : (stream.waitForFrame idleWait s.clock).val with ⟨result, waited, clock⟩
        simp only [Traced.val_bind, hw]
        cases result with
        | error e =>
          dsimp only
          split <;> rfl
        | ok b =>
          change (match (s.waited ⟨.ok b, waited, clock⟩).polled with
            | (.hangUp, s) => (pure (some (Except.ok .disconnected), s) :
              Traced (Option (Except Failure PeerEnd) × Server m))
            | (.goOn, s) => servePeer stop limit rounds s).val = _
          rcases (s.waited ⟨.ok b, waited, clock⟩).polled with ⟨next, s'⟩
          cases next <;> rfl

theorem dispatcher_note (s : Server m) (r : Except DispatchError Polled) :
    (note s r).val.2.dispatcher = s.dispatcher := by
  unfold note
  split
  · rfl
  · rfl
  · rfl
  · split <;> rfl
  · rfl

theorem Server.dispatcher_polled (s : Server m) :
    s.polled.2.dispatcher = s.dispatcher.poll.val.2 :=
  dispatcher_note { s with dispatcher := s.dispatcher.poll.val.2 } s.dispatcher.poll.val.1

/-- However a peer is served, it is nothing but polls and waiting. -/
theorem serves_servePeer (stop : Server m → Bool) (limit : Option Nat) (rounds : Nat)
    (s : Server m) :
    s.dispatcher.Serves (servePeer stop limit rounds s).val.2.dispatcher := by
  induction rounds generalizing s with
  | zero => exact .nobody
  | succ rounds ih =>
    rw [val_servePeer_succ]
    split
    · exact .nobody
    · split
      · exact .nobody
      · split
        · exact .nobody
        next stream _ =>
          let waited := s.waited (stream.waitForFrame idleWait s.clock).val
          have hwaited : s.dispatcher.Serves waited.dispatcher := .useLink .nobody _
          have hpolled : s.dispatcher.Serves waited.polled.2.dispatcher := by
            rw [waited.dispatcher_polled]
            exact hwaited.poll
          dsimp only
          split
          · exact hwaited
          · change s.dispatcher.Serves (match waited.polled with
              | (.hangUp, s) => (some (Except.ok PeerEnd.disconnected), s)
              | (.goOn, s) => (servePeer stop limit rounds s).val).2.dispatcher
            rcases hnext : waited.polled with ⟨next, s'⟩
            rw [hnext] at hpolled
            cases next with
            | hangUp => exact hpolled
            | goOn => exact hpolled.trans (ih s')

/-- Whomever the command has served, its dispatcher has come from serving peers. -/
theorem serves_servePeers (stop : Server m → Bool) (limit : Option Nat) (rounds : Nat)
    (path : String) (s : Server m) (callers : List Caller) :
    s.dispatcher.Serves (servePeers stop limit rounds path s callers).val.server.dispatcher := by
  induction callers generalizing s with
  | nil => exact .nobody
  | cons caller rest ih =>
    unfold servePeers
    split
    · exact .nobody
    · have hattached : s.dispatcher.Serves (attach s (some ⟨caller.channel, []⟩)).val.dispatcher :=
        .replaceLink .nobody _
      have hserved := hattached.trans (serves_servePeer stop limit rounds _)
      rcases hpeer : (servePeer stop limit rounds (attach s (some ⟨caller.channel, []⟩)).val).val
        with ⟨r, s'⟩
      rw [hpeer] at hserved
      simp only [Traced.val_bind, hpeer]
      cases r with
      | none => exact hserved
      | some r =>
        cases r with
        | error f => exact hserved
        | ok reason =>
          have hdetached : s.dispatcher.Serves (attach s' none).val.dispatcher :=
            hserved.replaceLink none
          dsimp only [Traced.val_bind]
          split
          · exact hdetached.trans (ih _)
          · exact hdetached

/-- The two servers are at the same point, with dispatchers that are alike. -/
structure Server.Alike (s s' : Server m) : Prop where
  dispatcher : s.dispatcher.Alike s'.dispatcher
  clock : s.clock = s'.clock
  answered : s.answered = s'.answered

theorem Server.Alike.polled {s s' : Server m} (h : s.Alike s') :
    s.polled.1 = s'.polled.1 ∧ s.polled.2.Alike s'.polled.2 := by
  obtain ⟨hanswer, hpolled⟩ := h.dispatcher.poll
  have hcounted := congrArg (· + 1) h.answered
  unfold Server.polled
  rw [hanswer]
  unfold note
  split
  · exact ⟨rfl, hpolled, h.clock, h.answered⟩
  · exact ⟨rfl, hpolled, h.clock, hcounted⟩
  · exact ⟨rfl, hpolled, h.clock, hcounted⟩
  · split <;> exact ⟨rfl, hpolled, h.clock, h.answered⟩
  · exact ⟨rfl, hpolled, h.clock, h.answered⟩

/-- When to stop, as far as it can be told from outside: from the link, the time and the count. -/
abbrev StopRule (m : Nat) := Option (Link.Stream m) → Clock → Nat → Bool

def StopRule.apply (stop : StopRule m) (s : Server m) : Bool :=
  stop s.dispatcher.link s.clock s.answered

theorem Server.Alike.servePeer {s s' : Server m} (h : s.Alike s') (stop : StopRule m)
    (limit : Option Nat) (rounds : Nat) :
    (servePeer stop.apply limit rounds s).val.1 = (servePeer stop.apply limit rounds s').val.1 ∧
      (servePeer stop.apply limit rounds s).val.2.Alike
        (servePeer stop.apply limit rounds s').val.2 := by
  induction rounds generalizing s s' with
  | zero => exact ⟨rfl, h⟩
  | succ rounds ih =>
    have hstop : stop.apply s = stop.apply s' := by
      rw [StopRule.apply, StopRule.apply, h.dispatcher.link, h.clock, h.answered]
    rw [val_servePeer_succ, val_servePeer_succ, hstop, h.answered, h.dispatcher.link, h.clock]
    split
    · exact ⟨rfl, h⟩
    · split
      · exact ⟨rfl, h⟩
      · cases s'.dispatcher.link with
        | none => exact ⟨rfl, h⟩
        | some stream =>
          have hwaited : (s.waited (stream.waitForFrame idleWait s'.clock).val).Alike
              (s'.waited (stream.waitForFrame idleWait s'.clock).val) :=
            ⟨⟨rfl, h.dispatcher.registry⟩, rfl, h.answered⟩
          dsimp only
          split
          · exact ⟨rfl, hwaited⟩
          · obtain ⟨hnext, hpolled⟩ := hwaited.polled
            rcases hs : (s.waited (stream.waitForFrame idleWait s'.clock).val).polled with ⟨next, t⟩
            rcases hs' : (s'.waited (stream.waitForFrame idleWait s'.clock).val).polled with
              ⟨next', t'⟩
            rw [hs, hs'] at hnext hpolled
            obtain rfl : next = next' := hnext
            cases next with
            | hangUp => exact ⟨rfl, hpolled⟩
            | goOn => exact ih hpolled

/-- The handlers that the command registers remember nothing that shows. -/
theorem shown_echo {h : Handler (Service Rule)} {echo reliableEcho : List Identifier}
    (hh : h ∈ echoHandlers echo reliableEcho) (payload : Vector UInt8 m) :
    (Behaviour.react h.state payload).val.state.shown = h.state.shown := by
  have hstate : h.state = .custom .echo := by
    rcases List.mem_append.mp hh with hmem | hmem <;>
      obtain ⟨id, -, rfl⟩ := List.mem_map.mp hmem <;> rfl
  rw [hstate]
  rfl

/-- A dispatcher that has been built has registered all echo handlers after the session handler. -/
theorem registry_buildDispatcher {T : Type} {echo reliableEcho : List Identifier}
    {d : Dispatcher (Option T) (Service Rule)}
    (hbuild : (buildDispatcher echo reliableEcho).val = .ok d) :
    let start := (Registry.empty.register Service.sessionHandler).val.2
    d.registry = { start with queue := echoHandlers echo reliableEcho }.drain.val.2 := by
  unfold buildDispatcher at hbuild
  simp only [Traced.val_bind, Registry.foldl_enqueue] at hbuild
  split at hbuild
  · cases hbuild
  · rw [← Except.ok.inj hbuild]
    rfl

theorem fresh_buildDispatcher {T : Type} {echo reliableEcho : List Identifier}
    {d : Dispatcher (Option T) (Service Rule)}
    (hbuild : (buildDispatcher echo reliableEcho).val = .ok d) : d.registry.Fresh m := by
  let start : Registry (Service Rule) := (Registry.empty.register Service.sessionHandler).val.2
  have hstart : start.Fresh m :=
    Registry.fresh_empty.register fun payload => (Service.react_shown (.session {}) payload).2.2
  rw [registry_buildDispatcher hbuild]
  exact Registry.registerAll_keeps (P := Registry.Fresh m)
    (fun r h hh hr => hr.register (shown_echo hh))
    ⟨⟨hstart.matched.owner, hstart.matched.channel⟩, hstart.forgetful, hstart.untouched⟩

/-- After whatever peers, a peer that is attached next is answered as if it were the first: the
polls answer the same and its link comes to be in the same state, with the same bytes written to
it. -/
theorem served_as_first (args : ServeArgs)
    {d₀ : Dispatcher (Option (Link.Stream m)) (Service Rule)}
    (hbuild : (buildDispatcher args.echo args.reliableEcho).val = .ok d₀) :
    (∀ stop limit rounds path clock callers,
      d₀.Serves (servePeers stop limit rounds path ⟨d₀, clock, 0⟩ callers).val.server.dispatcher) ∧
    ∀ d, d₀.Serves d → ∀ stream : Link.Stream m,
      let next := (d.replaceLink (some stream)).val.2
      let first := { d₀ with link := some stream }
      (∀ fs : List (Frame m), (next.registry.handleAll fs).val.1.map Handled.reply =
        (first.registry.handleAll fs).val.1.map Handled.reply) ∧
      (∀ turns, (next.takeTurns turns).val.1 = (first.takeTurns turns).val.1 ∧
        (next.takeTurns turns).val.2.link = (first.takeTurns turns).val.2.link) ∧
      ∀ (stop : StopRule m) limit rounds clock answered,
        let nextServed := (servePeer stop.apply limit rounds ⟨next, clock, answered⟩).val
        let firstServed := (servePeer stop.apply limit rounds ⟨first, clock, answered⟩).val
        nextServed.1 = firstServed.1 ∧
          nextServed.2.dispatcher.link = firstServed.2.dispatcher.link := by
  refine ⟨fun stop limit rounds path clock callers =>
    serves_servePeers stop limit rounds path ⟨d₀, clock, 0⟩ callers, ?_⟩
  intro d hd stream next first
  have hfresh : d₀.registry.Fresh m := fresh_buildDispatcher hbuild
  have halike : next.Alike first := ⟨rfl, (hd.remains hfresh).alike hfresh⟩
  refine ⟨halike.registry.handleAll, fun turns => ?_, ?_⟩
  · obtain ⟨hanswers, hlast⟩ := halike.takeTurns turns
    exact ⟨hanswers, hlast.link⟩
  · intro stop limit rounds clock answered
    have hserver : Server.Alike ⟨next, clock, answered⟩ ⟨first, clock, answered⟩ :=
      ⟨halike, rfl, rfl⟩
    obtain ⟨hend, hserved⟩ := hserver.servePeer stop limit rounds
    exact ⟨hend, hserved.dispatcher.link⟩

/-- The command's dispatcher for an echo handler on 6 and a reliable one on 5. -/
def echoing : Dispatcher (Option (Link.Stream 2)) (Service Rule) where
  link := none
  registry := { (Registry.empty.register Service.sessionHandler).val.2 with
    queue := echoHandlers [6] [5] }.drain.val.2

/-- A link to a peer that has sent the bytes and has gone away. -/
def hearing (bytes : List UInt8) : Link.Stream 2 := ⟨(Caller.sending bytes).channel, []⟩

/-- The earlier peer has connected a session, moved a channel on and gone away within a frame. -/
theorem served_as_first_afterHalfFrame :
    (buildDispatcher [6] [5]).val = .ok echoing ∧
      let earlier := { echoing with link := some (hearing [1, 0, 0, 1, 0, 5, 0, 0, 7, 7, 5, 1]) }
      let visited := (earlier.takeTurns [.poll, .poll, .poll, .poll]).val
      visited.1.getLast? = some (.error (.link .closed)) ∧
        visited.2.registry.channelState? 5 = some .awaitingOdd ∧
        let next := (visited.2.replaceLink (some (hearing [5, 0, 0, 9, 9]))).val.2
        (next.takeTurns [.poll]).val.2.link.map (·.channel.accepted) = some [5, 0, 0, 9, 9] := by
  have hbuild : (buildDispatcher [6] [5]).val = .ok echoing := rfl
  refine ⟨hbuild, ?_⟩
  intro earlier visited
  refine ⟨rfl, by decide +kernel, ?_⟩
  intro next
  have hvisited : echoing.Serves visited.2 := (Serves.nobody.useLink earlier.link).takeTurns _
  have hnext := (served_as_first ⟨"", [6], [5], none⟩ hbuild).2 visited.2 hvisited
    (hearing [5, 0, 0, 9, 9])
  rw [(hnext.2.1 [.poll]).2]
  decide +kernel

end AltBit.Command.Serve

import AltBit.Command.Failure
import AltBit.Command.Invocation
import AltBit.Handler.Rule
import AltBit.Link.Stream
import AltBit.Socket.Listener

/-!
Serving echo handlers on a socket. Peers are served one after another by one dispatcher, whose
channels start over with each of them. Serving ends when it is told to stop, or when as many frames
have been answered as were asked for.

A peer that stays silent is waited for without end, so serving takes the number of rounds it may go
on for, and has no result if it needs more.
-/
namespace AltBit.Command.Serve

/-- Why a peer is not served any longer. -/
inductive PeerEnd where
  | disconnected
  | stopped
  | countReached
  deriving DecidableEq, Repr

structure Caller where
  channel : ByteChannel
  credentials : Credentials := ⟨0, 0⟩

namespace Caller

/-- A peer that has sent some bytes and will send no more. -/
def sending (bytes : List UInt8) : Caller where
  channel := { reads := if bytes.isEmpty then [] else [.ok bytes] }

/-- A peer that has sent some bytes and has gone away. -/
def departed (bytes : List UInt8) : Caller where
  channel := { (sending bytes).channel with
    writes := List.replicate (bytes.length + 1) (.error (.system 32)) }

/-- A peer that has sent some bytes and stays silent. -/
def lingering (bytes : List UInt8) : Caller where
  channel := { (sending bytes).channel with ending := .silence }

end Caller

structure Server (m : Nat) where
  dispatcher : Dispatcher (Option (Link.Stream m)) (Service Rule)
  clock : Clock
  answered : Nat := 0

/-- Whether the attached peer has been answered all its frames and stays silent. -/
def Server.isIdle {m : Nat} (s : Server m) : Bool :=
  s.dispatcher.link.any fun t =>
    t.channel.ending == .silence && t.channel.reads.isEmpty && !t.isComplete

def idleWait : Duration := Duration.ofMillis 100

variable {m : Nat}

/-- The echo handlers asked for, those without duplicate suppression first. -/
def echoHandlers (echo reliableEcho : List Identifier) : List (Handler (Service Rule)) :=
  echo.map (⟨·, false, .custom .echo⟩) ++ reliableEcho.map (⟨·, true, .custom .echo⟩)

/-- A dispatcher without a link that has one echo handler for each identifier asked for. -/
def buildDispatcher {T : Type} (echo reliableEcho : List Identifier) :
    Traced (Except Failure (Dispatcher (Option T) (Service Rule))) := do
  let d ← Dispatcher.new none
  let queued := (echoHandlers echo reliableEcho).foldl Registry.enqueue d.registry
  let (r, registry) ← queued.drain
  match r with
  | .error e => pure (.error (.ofDispatch "handler registration failed" e))
  | .ok () =>
    Traced.emit (.echoesRegistered registry.listIds)
    pure (.ok { d with registry })

inductive Next where
  | goOn
  | hangUp

/-- Takes notice of the outcome of a poll; a frame counts once it has been answered, even if nobody
is registered for it. -/
def note (s : Server m) : Except DispatchError Polled → Traced (Next × Server m)
  | .ok .idle => pure (.goOn, s)
  | .ok (.delivered id delivery) => do
    Traced.emit (.echoed id delivery)
    pure (.goOn, { s with answered := s.answered + 1 })
  | .error (.unknownIdentifier _) => pure (.goOn, { s with answered := s.answered + 1 })
  | .error (.link e) =>
    if e = .closed ∨ e.isPeerGone then pure (.hangUp, s)
    else do
      Traced.emit (.dispatchFailed (.link e))
      pure (.goOn, s)
  | .error e => do
    Traced.emit (.dispatchFailed e)
    pure (.goOn, s)

/-- Serves the attached peer. Whether to stop is asked before every round. -/
def servePeer (stop : Server m → Bool) (limit : Option Nat) :
    (rounds : Nat) → Server m → Traced (Option (Except Failure PeerEnd) × Server m)
  | 0, s => pure (none, s)
  | rounds + 1, s =>
    if stop s then pure (some (.ok .stopped), s)
    else if limit.any (· ≤ s.answered) then pure (some (.ok .countReached), s)
    else
      match s.dispatcher.link with
      | none => pure (some (.ok .disconnected), s)
      | some stream => do
        let w ← stream.waitForFrame idleWait s.clock
        let dispatcher := { s.dispatcher with link := some w.stream }
        let s := { s with dispatcher, clock := w.clock }
        match w.result with
        | .error e =>
          if e = .link .closed then pure (some (.ok .disconnected), s)
          else pure (some (.error (.ofWait "receive failed" e)), s)
        | .ok _ =>
          let (r, dispatcher) ← s.dispatcher.poll
          match ← note { s with dispatcher } r with
          | (.hangUp, s) => pure (some (.ok .disconnected), s)
          | (.goOn, s) => servePeer stop limit rounds s

def attach (s : Server m) (stream : Option (Link.Stream m)) : Traced (Server m) := do
  let (_, dispatcher) ← s.dispatcher.replaceLink stream
  pure { s with dispatcher }

structure Served (m : Nat) where
  /-- Absent if the rounds ran out. -/
  result : Option (Except Failure Unit)
  server : Server m
  /-- The channels of the peers that were served, as serving has left them. -/
  channels : List ByteChannel := []

def servePeers (stop : Server m → Bool) (limit : Option Nat) (rounds : Nat) (path : String)
    (s : Server m) : List Caller → Traced (Served m)
  | [] => pure ⟨some (.ok ()), s, []⟩
  | caller :: rest =>
    if stop s then pure ⟨some (.ok ()), s, []⟩
    else do
      Traced.emit (.accepted path)
      Traced.emit (.peerConnected caller.credentials)
      let s ← attach s (some ⟨caller.channel, []⟩)
      let (r, s) ← servePeer stop limit rounds s
      let channels := s.dispatcher.link.toList.map (·.channel)
      match r with
      | none => pure ⟨none, s, channels⟩
      | some (.error f) => pure ⟨some (.error f), s, channels⟩
      | some (.ok reason) =>
        let s ← attach s none
        if reason = .disconnected then
          Traced.emit .peerDisconnected
          let served ← servePeers stop limit rounds path s rest
          pure { served with channels := channels ++ served.channels }
        else pure ⟨some (.ok ()), s, channels⟩

/-- What a run of the command comes to: the report, and what the peers it served were sent. -/
structure Outcome where
  result : Option (Except Failure (List UInt8))
  channels : List ByteChannel := []
  files : FileTree

def run (m : Nat) (stop : Server m → Bool) (rounds : Nat) (files : FileTree) (clock : Clock)
    (callers : List Caller) (format : Format) (args : ServeArgs) : Traced Outcome := do
  match ← buildDispatcher args.echo args.reliableEcho with
  | .error f => pure { result := some (.error f), files }
  | .ok dispatcher =>
    match ← Listener.bind files args.path with
    | (.error e, files) => pure { result := some (.error (.ofLink "bind failed" e)), files }
    | (.ok listener, files) =>
      Traced.emit (.serving args.path)
      let served ← servePeers stop args.count rounds args.path { dispatcher, clock } callers
      let files ← listener.drop files
      let counters := served.server.dispatcher.counters
      let report := Report.counters counters served.channels.length format
      pure {
        result := served.result.map fun r => r.map fun () => report
        channels := served.channels
        files }

end AltBit.Command.Serve

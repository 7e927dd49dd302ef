import AltBit.Dispatcher
import AltBit.Duration.Text
import AltBit.Link.Memory
import AltBit.Sender
import AltBit.Text.Outline
import AltBit.Text.Quoted

/-!
The structured text of frames, handlers, links, dispatchers and senders, for whoever inspects them.
-/
namespace AltBit
variable {m : Nat} {T σ : Type}

def Frame.outline (f : Frame m) : Outline :=
  Outline.record "Frame" [
    ("id", Outline.nat f.id.toNat),
    ("seq", Outline.nat f.seq.toNat),
    ("ack", Outline.nat f.ack.toNat),
    ("payload", Outline.list (f.payload.toList.map fun b => Outline.nat b.toNat))]

def Link.Memory.outline (t : Link.Memory m) : Outline :=
  let fault (reason : Option String) : Outline :=
    Outline.option (reason.map fun s => Outline.atom (Quoted.quote s))
  Outline.record "MemoryTransport" [
    ("inbound", Outline.list (t.inbound.map Frame.outline)),
    ("outbound", Outline.list (t.outbound.map Frame.outline)),
    ("fail_next_poll", fault t.pollFault),
    ("fail_next_read", fault t.readFault),
    ("fail_next_write", fault t.writeFault),
    ("report_would_block", Outline.bool t.reportWouldBlock)]

def FrameError.outline : FrameError → Outline
  | payloadTooLarge size max =>
    Outline.record "PayloadTooLarge" [("size", Outline.nat size), ("max", Outline.nat max)]
  | lengthMismatch actual expected =>
    Outline.record "LengthMismatch"
      [("actual", Outline.nat actual), ("expected", Outline.nat expected)]

def Verdict.outline : Verdict → Outline
  | accept ack => Outline.record "Accept" [("ack", Outline.nat ack.toNat)]
  | duplicate ack => Outline.record "Duplicate" [("ack", Outline.nat ack.toNat)]

def SessionControl.outline (s : SessionControl) : Outline :=
  Outline.record "SessionControl" [("connected", Outline.bool s.connected)]

def Handler.outline (h : Handler σ) : Outline :=
  Outline.openRecord "FnHandler"
    [("id", Outline.nat h.id.toNat), ("reliable", Outline.bool h.reliable)]

def Registry.outline (r : Registry σ) : Outline :=
  Outline.record "HandlerRegistry" [
    ("ids", Outline.list (r.handlers.ids.map fun id => Outline.nat id.toNat)),
    ("channels", Outline.nat r.channels.size),
    ("ensured", Outline.nat r.queue.length)]

/-- The counters under the names they are reported by. -/
def Counters.rows (c : Counters) : List (String × Nat) := [
  ("frames_received", c.framesReceived),
  ("accepted", c.accepted),
  ("duplicates", c.duplicates),
  ("unreliable", c.unreliable),
  ("unknown", c.unknown),
  ("handler_errors", c.handlerErrors),
  ("transport_errors", c.linkErrors),
  ("session_resets", c.sessionResets)]

def Counters.outline (c : Counters) : Outline :=
  Outline.record "DispatchStats" (c.rows.map fun row => (row.1, Outline.nat row.2))

def Dispatcher.outline (m : Nat) (d : Dispatcher T σ) : Outline :=
  Outline.openRecord "Dispatcher" [
    ("frame_len", Outline.nat (Frame.length m)),
    ("registry", d.registry.outline),
    ("stats", d.counters.outline)]

def SenderConfig.outline (c : SenderConfig) : Outline :=
  Outline.record "SenderConfig" [
    ("retransmit_after", Outline.atom c.retransmitAfter.render),
    ("max_attempts", Outline.nat c.maxAttempts.toNat),
    ("poll_interval", Outline.atom c.pollInterval.render)]

def Sender.outline (m : Nat) (s : Sender T) : Outline :=
  Outline.openRecord "StopAndWaitSender"
    [("frame_len", Outline.nat (Frame.length m)), ("config", s.config.outline)]

end AltBit

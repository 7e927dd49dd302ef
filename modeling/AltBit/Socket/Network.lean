import AltBit.Link.Stream
import AltBit.Socket.Listener

/-!
Sockets of one machine: listeners, the connections made to them, and the bytes under way. The two
ends of a connection are numbered next to each other. An end is used through the byte channel that
it presents, and what was read and written there is then carried over to both ends.
-/
namespace AltBit

structure Endpoint where
  /-- Bytes from the far end that have not been read. -/
  unread : List UInt8 := []
  isOpen : Bool := true
  /-- Whether the far end went away without having read everything, and this is still to be told. -/
  wasReset : Bool := false
  deriving DecidableEq, Repr

structure Network where
  files : FileTree := .initial
  endpoints : List Endpoint := []
  /-- The socket files that are listened on, and the near ends of the connections not yet
  accepted. -/
  waiting : List (Nat × List Nat) := []

namespace Network

def far (i : Nat) : Nat := if i % 2 = 0 then i + 1 else i - 1

def endpoint (net : Network) (i : Nat) : Endpoint := net.endpoints.getD i { isOpen := false }

def modify (net : Network) (i : Nat) (change : Endpoint → Endpoint) : Network :=
  { net with endpoints := net.endpoints.modify i change }

/-- A new connection; its first end is returned. -/
def pair (net : Network) : Nat × Network :=
  (net.endpoints.length, { net with endpoints := net.endpoints ++ [{}, {}] })

/-- What an end of a connection will answer as long as the far end does nothing. -/
def channel (net : Network) (i : Nat) : ByteChannel :=
  let near := net.endpoint i
  let farIsOpen := (net.endpoint (far i)).isOpen
  { reads := (if near.unread.isEmpty then [] else [.ok near.unread]) ++
      if near.wasReset then [.error (.system 104)] else []
    writes := if farIsOpen then [] else [.error (.system 32)]
    ending := if farIsOpen then .silence else .endOfStream }

/-- Carries over what was done on the channel of an end. -/
def settle (net : Network) (i : Nat) (c : ByteChannel) : Network :=
  let bytes (answer : Except IoError (List UInt8)) : List UInt8 := answer.toOption.getD []
  let failed (answer : Except IoError (List UInt8)) : Bool := answer.toOption.isNone
  let net := net.modify i fun near =>
    { near with unread := c.reads.flatMap bytes, wasReset := c.reads.any failed }
  net.modify (far i) fun e => { e with unread := e.unread ++ c.accepted }

def send (net : Network) (i : Nat) (bytes : List UInt8) : Except LinkError Unit × Network :=
  let (r, c) := Link.Stream.writeAll bytes.length bytes (net.channel i)
  (r, net.settle i c)

/-- Whether an end can be read without waiting. -/
def isReadable (net : Network) (i : Nat) : Bool := ((net.channel i).poll false).1.toOption.getD true

/-- Does something with the frames of a connection, of which some bytes are buffered already. -/
def onStream {m : Nat} {α : Type} (net : Network) (i : Nat) (buffer : List UInt8)
    (act : Link.Stream m → Traced (α × Link.Stream m)) : Traced (α × List UInt8 × Network) := do
  let (a, s) ← act ⟨net.channel i, buffer⟩
  pure (a, s.buffer, net.settle i s.channel)

/-- Closes an end; the far end is told if something was left unread here. -/
def close (net : Network) (i : Nat) : Network :=
  let wasReset := !(net.endpoint i).unread.isEmpty
  (net.modify i fun _ => { isOpen := false }).modify (far i) fun e => { e with wasReset }

/-- Sets how long reads and writes at an end may wait. No timeout may be zero; an end that was
refused its timeouts is given up. -/
def setTimeouts (net : Network) (i : Nat) (timeouts : List Duration) :
    Except LinkError Unit × Network :=
  if timeouts.any Duration.isZero then
    (.error (.io (.worded .invalidInput "cannot set a 0 duration timeout")), net.close i)
  else (.ok (), net)

def listen (net : Network) (path : String) : Traced (Except LinkError Listener × Network) := do
  let (r, files) ← Listener.bind net.files path
  match r with
  | .error e => pure (.error e, { net with files })
  | .ok l => pure (.ok l, { net with files, waiting := net.waiting ++ [(l.number, [])] })

/-- Stops listening; connections that were not accepted are reset. -/
def unlisten (net : Network) (l : Listener) : Traced Network := do
  let files ← l.drop net.files
  let reset (net : Network) (i : Nat) : Network :=
    (net.close i).modify (far i) fun e => { e with wasReset := true }
  let abandoned := (net.waiting.lookup l.number).getD []
  pure { abandoned.foldl reset net with
    files
    waiting := net.waiting.filter fun w => w.1 != l.number }

/-- The socket file at a path, as far as a connection can be asked for there. -/
def target (net : Network) (path : String) : Except IoError Nat := do
  FileTree.checkAddress path
  if path = "" then .error (.system 22)
  else
    let file ← net.files.status true path
    if (net.waiting.lookup file.number).isSome then .ok file.number else .error (.system 111)

/-- Connects to a listener and returns the end of whoever connects. -/
def connect (net : Network) (path : String) : Traced (Except LinkError Nat × Network) :=
  match net.target path with
  | .error e => pure (.error (.connect path e), net)
  | .ok number => do
    Traced.emit (.connected path)
    let (i, net) := net.pair
    let enter (w : Nat × List Nat) : Nat × List Nat :=
      if w.1 = number then (w.1, w.2 ++ [far i]) else w
    pure (.ok i, { net with waiting := net.waiting.map enter })

/-- Accepts the connection that has waited longest. -/
def accept (net : Network) (l : Listener) : Traced (Except LinkError Nat × Network) :=
  match (net.waiting.lookup l.number).getD [] with
  | [] => pure (.error (.accept (.system 11)), net)
  | i :: _ => do
    Traced.emit (.accepted l.path)
    let leave (w : Nat × List Nat) : Nat × List Nat :=
      if w.1 = l.number then (w.1, w.2.tail) else w
    pure (.ok i, { net with waiting := net.waiting.map leave })

end Network

end AltBit

import AltBit.IoError

/-!
Failures of a link that carries frames.
-/
namespace AltBit

inductive LinkError where
  | bind (path : String) (source : IoError)
  | connect (path : String) (source : IoError)
  | accept (source : IoError)
  | io (source : IoError)
  | pathTooLong (path : String) (length max : Nat)
  | wouldBlock
  | closed
  | injected (reason : String)
  deriving DecidableEq, Repr

namespace LinkError

def message : LinkError → String
  | bind path source => s!"failed to bind to {path}: {source.message}"
  | connect path source => s!"failed to connect to {path}: {source.message}"
  | accept source => s!"failed to accept connection: {source.message}"
  | io source => s!"transport I/O error: {source.message}"
  | pathTooLong path length max => s!"socket path too long ({length} bytes, max {max}): {path}"
  | wouldBlock => "no frame available yet"
  | closed => "transport closed"
  | injected reason => s!"injected failure: {reason}"

def name : LinkError → String
  | bind _ source => s!"Bind({source.kind.name})"
  | connect _ source => s!"Connect({source.kind.name})"
  | accept source => s!"Accept({source.kind.name})"
  | io source => s!"Io({source.kind.name})"
  | pathTooLong .. => "PathTooLong"
  | wouldBlock => "WouldBlock"
  | closed => "Closed"
  | injected _ => "Injected"

/-- Nothing is there yet, which is no failure. -/
def isWouldBlock : LinkError → Bool
  | wouldBlock => true
  | io source => source.isWouldBlock
  | _ => false

/-- The far end is gone, so nothing more can be exchanged with it. -/
def isPeerGone : LinkError → Bool
  | io source => source.kind == .brokenPipe || source.kind == .connectionReset
  | _ => false

end LinkError

end AltBit

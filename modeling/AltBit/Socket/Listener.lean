import AltBit.Event
import AltBit.Socket.FileTree

/-!
Listeners own the socket file at their path. A socket file that is left over there is replaced, and
nothing else is; and when a listener goes away it removes the file only if it is still its own.
-/
namespace AltBit

structure Listener where
  path : String
  /-- The number of the socket file that was made for the listener. -/
  number : Nat
  deriving DecidableEq, Repr

namespace Listener

/-- Bytes that a path must stay below. -/
def maxPathLength : Nat := FileTree.addressSize

/-- Only the owner may connect. -/
def socketMode : Nat := 0o600

/-- Removes a socket file that is left over at a path. -/
def removeStale (files : FileTree) (path : String) : Traced (Except IoError FileTree) :=
  match files.status false path with
  | .error e => pure (if e.kind = .notFound then .ok files else .error e)
  | .ok file =>
    if file.kind = .socket then do
      Traced.emit (.removingStaleSocket path)
      pure (files.remove path)
    else pure (.error (.worded .alreadyExists "existing path is not a unix socket"))

def place (files : FileTree) (path : String) : Except IoError (Listener × FileTree) := do
  let files ← files.createSocket path
  let files ← files.setMode path socketMode
  let file ← files.status false path
  pure (⟨path, file.number⟩, files)

def bind (files : FileTree) (path : String) : Traced (Except LinkError Listener × FileTree) :=
  if maxPathLength ≤ path.utf8ByteSize then
    pure (.error (.pathTooLong path path.utf8ByteSize maxPathLength), files)
  else do
    match ← removeStale files path with
    | .error e => pure (.error (.bind path e), files)
    | .ok cleared =>
      match place cleared path with
      | .error e => pure (.error (.bind path e), cleared)
      | .ok (listener, files) =>
        Traced.emit (.listening path)
        pure (.ok listener, files)

def drop (l : Listener) (files : FileTree) : Traced FileTree :=
  match files.status false l.path with
  | .error _ => pure files
  | .ok file =>
    if file.kind = .socket ∧ file.number = l.number then do
      Traced.emit (.removingSocket l.path)
      pure ((files.remove l.path).toOption.getD files)
    else do
      Traced.emit (.socketReplaced l.path)
      pure files

end Listener

end AltBit

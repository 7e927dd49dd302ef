import AltBit.Command.Arguments
import AltBit.Command.Send
import AltBit.Command.Serve
import AltBit.Command.Version
import Std.Time

/-!
The program itself: reads its arguments, performs a task and tells how it went. No sockets are
within reach here, so whatever needs one fails, after all that goes before it.
-/
namespace AltBit.Main
open Command

def usage : String :=
  "usage: " ++ programName ++ " [OPTIONS] serve PATH | send PATH --id ID | version\n"

/-- The failure of everything that needs a socket. -/
def noSockets : IoError := .bare .unsupported

def perform (inv : Invocation) (toTerminal : Bool) (timestamp : String) :
    Traced (Except Failure (List UInt8)) := do
  match inv.task with
  | .version extended => pure (.ok (Version.report {} extended))
  | .serve args =>
    match ← Serve.buildDispatcher (T := Link.Memory payloadSize) args.echo args.reliableEcho with
    | .error f => pure (.error f)
    | .ok _ => pure (.error (.ofLink "bind failed" (.bind args.path noSockets)))
  | .send args =>
    let connect (path : String) : Traced (Except LinkError (Link.Memory payloadSize)) :=
      pure (.error (.connect path noSockets))
    let o ← Send.run 0 (Clock.ticking 0) connect (inv.reportFormat toTerminal) timestamp args
    pure (o.result.getD (.ok []))

/-- Tells what is wrong with the arguments, or what was asked about them. -/
def explain (e : UsageError) : IO UInt32 := do
  match e with
  | .version => IO.print Version.text
  | .help => IO.print usage
  | _ => IO.eprint usage
  pure (UInt32.ofNat e.exitCode)

def run (inv : Invocation) : IO UInt32 := do
  let out ← IO.getStdout
  let now ← Std.Time.Timestamp.now
  let t := perform inv (← out.isTty) (toString now.toSecondsSinceUnixEpoch.val)
  let time := Std.Time.DateTime.ofTimestampWithZone now Std.Time.TimeZone.UTC
  for r in inv.records t.events do
    IO.eprintln (inv.logLine (time.format "uuuu-MM-dd'T'HH:mm:ss.SSSSSS'Z'") r)
  match t.val with
  | .ok bytes =>
    out.write ⟨bytes.toArray⟩
    pure 0
  | .error f =>
    IO.eprintln ("error: " ++ f.message)
    pure (UInt32.ofNat f.code.toNat)

end AltBit.Main

def main (args : List String) : IO UInt32 :=
  match AltBit.Command.Arguments.parse args with
  | .ok inv => AltBit.Main.run inv
  | .error e => AltBit.Main.explain e

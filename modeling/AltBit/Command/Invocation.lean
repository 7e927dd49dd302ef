import AltBit.Command.Report
import AltBit.Log

/-!
What a command line asks for.
-/
namespace AltBit.Command

inductive LogFormat where
  | text
  | json
  deriving DecidableEq, Repr

structure ServeArgs where
  path : String
  echo : List Identifier := []
  reliableEcho : List Identifier := []
  count : Option Nat := none
  deriving DecidableEq, Repr

structure SendArgs where
  path : String
  id : Identifier
  data : Option String := none
  hex : Option String := none
  reliable : Bool := false
  timeout : String := "2s"
  attempts : UInt32 := 5
  deriving DecidableEq, Repr

inductive Task where
  | serve (args : ServeArgs)
  | send (args : SendArgs)
  | version (extended : Bool)
  deriving DecidableEq, Repr

structure Invocation where
  /-- How results are reported; by default as JSON unless a terminal reads them. -/
  format : Option Format := none
  logFormat : LogFormat := .text
  logLevel : Level := .info
  task : Task
  deriving DecidableEq, Repr

namespace Invocation

/-- How results are reported to a terminal or elsewhere. -/
def reportFormat (inv : Invocation) (toTerminal : Bool) : Format :=
  inv.format.getD (if toTerminal then .table else .json)

/-- The records of events that are to be written. -/
def records (inv : Invocation) (events : List Event) : List LogRecord :=
  LogRecord.upTo inv.logLevel events

def logLine (inv : Invocation) (timestamp : String) (r : LogRecord) : String :=
  match inv.logFormat with
  | .text => r.toText timestamp
  | .json => r.toJson timestamp

end Invocation

end AltBit.Command

import AltBit.Command.Invocation
import AltBit.Text.Number

/-!
Reading a command line. Arguments are taken from left to right; an option's value is checked when
the next option, switch or path is met, or at the end, so the first argument at fault decides the
error. Options that hold for every command may stand before or after its name, and the later place
wins.
-/
namespace AltBit.Command

/-- Why a command line asks for nothing that can be done, or only for information. -/
inductive UsageError where
  | help
  | version
  | nothingGiven
  | missingCommand
  | unknownCommand
  | unknownArgument
  /-- A value is missing, empty or none of those that may be chosen. -/
  | invalidValue
  /-- A value is not a number in the range asked for. -/
  | malformedValue
  | superfluousValue
  | conflict
  | missingArgument
  deriving DecidableEq, Repr

/-- Help and version are given on request; all else is a mistake. -/
def UsageError.exitCode : UsageError → Nat
  | help | version => 0
  | _ => 2

namespace Arguments

/-- What an option's value may be. -/
inductive ValueRule where
  | any
  | choice (names : List String)
  | number (min max : Nat)
  | count (max : Nat)
  | identifiers
  deriving DecidableEq, Repr

inductive OptionKind where
  | help
  | version
  | switch
  | value (rule : ValueRule)
  /-- A value that may be given more than once; the values add up. -/
  | values (rule : ValueRule)
  deriving DecidableEq, Repr

structure OptionSpec where
  name : String
  kind : OptionKind
  short : Option Char := none
  deriving DecidableEq, Repr

/-- What may follow the name of the program or of a command. -/
structure Grammar where
  options : List OptionSpec
  takesPath : Bool := false
  /-- Names of commands, any of which ends the options of the program itself. -/
  commands : List String := []

/-- An option whose value is still to come or to be checked, or a path to be checked. -/
inductive Pending where
  | nothing
  | option (spec : OptionSpec) (value : Option String)
  | path (value : String)

structure Progress where
  switches : List String := []
  values : List (String × String) := []
  path : Option String := none
  pending : Pending := .nothing
  /-- Whether only positional arguments can follow. -/
  positionalOnly : Bool := false

namespace ValueRule

private def checkNumber (min max : Nat) (value : String) : Except UsageError Unit :=
  if (Number.signed? min max value.toList).isSome then .ok () else .error .malformedValue

def check (rule : ValueRule) (value : String) : Except UsageError Unit :=
  match rule with
  | any => .ok ()
  | choice names => if names.contains value then .ok () else .error .invalidValue
  | number min max => checkNumber min max value
  | count max =>
    if (Number.unsigned? max value.toList).isSome then .ok () else .error .malformedValue
  | identifiers => (value.splitOn ",").forM (checkNumber 0 255)

end ValueRule

namespace Progress

def hasValue (p : Progress) (name : String) : Bool := p.values.any fun v => v.1 == name

def isAwaitingValue (p : Progress) : Bool :=
  match p.pending with
  | .option _ none => true
  | _ => false

def isEmpty (p : Progress) : Bool := p.switches.isEmpty && p.values.isEmpty && p.path.isNone

def acceptValue (p : Progress) (spec : OptionSpec) (value : String) :
    Except UsageError Progress := do
  match spec.kind with
  | .values rule => rule.check value
  | .value rule =>
    if p.hasValue spec.name then throw .conflict
    rule.check value
  | _ => throw .superfluousValue
  pure { p with values := p.values ++ [(spec.name, value)] }

def settle (p : Progress) : Except UsageError Progress :=
  let done := { p with pending := .nothing }
  match p.pending with
  | .nothing => .ok p
  | .option _ none => .error .invalidValue
  | .option spec (some value) => done.acceptValue spec value
  | .path "" => .error .invalidValue
  | .path value => .ok { done with path := some value }

/-- Takes an option, with the value attached to it if there is one. -/
def takeOption (p : Progress) (spec : OptionSpec) (attached : Option String) :
    Except UsageError Progress :=
  match spec.kind, attached with
  | .help, none => do
    let _ ← p.settle
    .error .help
  | .version, none => do
    let _ ← p.settle
    .error .version
  | .switch, none => do
    let p ← p.settle
    if p.switches.contains spec.name then throw .conflict
    pure { p with switches := p.switches ++ [spec.name] }
  | .help, some _ | .version, some _ | .switch, some _ => .error .superfluousValue
  | .value _, some value | .values _, some value => do
    let p ← p.settle
    p.acceptValue spec value
  | .value _, none | .values _, none => do
    let p ← p.settle
    pure { p with pending := .option spec none }

end Progress

namespace Grammar

/-- The name of a long option and the value attached to it. -/
def splitLong (arg : String) : String × Option String :=
  let body := arg.toList.drop 2
  let name := body.takeWhile (· ≠ '=')
  match body.dropWhile (· ≠ '=') with
  | [] => (String.ofList name, none)
  | _ :: value => (String.ofList name, some (String.ofList value))

def takeLong (g : Grammar) (p : Progress) (arg : String) : Except UsageError Progress :=
  let (name, attached) := splitLong arg
  match g.options.find? fun spec => spec.name == name with
  | none => .error .unknownArgument
  | some spec => p.takeOption spec attached

/-- Takes the first of the one-letter options in an argument; all of them end the reading. -/
def takeShort (g : Grammar) (p : Progress) (arg : String) : Except UsageError Progress :=
  let letter := (arg.toList.drop 1).head?
  match g.options.find? fun spec => spec.short.isSome && spec.short == letter with
  | none => .error .unknownArgument
  | some spec => p.takeOption spec none

def takePositional (g : Grammar) (p : Progress) (arg : String) : Except UsageError Progress :=
  let hasPath : Bool :=
    match p.pending with
    | .path _ => true
    | _ => p.path.isSome
  if g.takesPath && !hasPath then do
    let p ← p.settle
    pure { p with pending := .path arg }
  else if g.commands.isEmpty || (p.positionalOnly && g.commands.contains arg) then
    .error .unknownArgument
  else .error .unknownCommand

/-- Takes one argument that is not the name of a command. -/
def take (g : Grammar) (p : Progress) (arg : String) : Except UsageError Progress :=
  if p.positionalOnly then g.takePositional p arg
  else if arg == "--" then .ok { p with positionalOnly := true }
  else if arg.startsWith "--" then g.takeLong p arg
  else if arg.startsWith "-" && arg != "-" then g.takeShort p arg
  else
    match p.pending with
    | .option spec none => .ok { p with pending := .option spec (some arg) }
    | _ => g.takePositional p arg

/-- Reads arguments up to the name of a command, and returns it with those after it. -/
def scan (g : Grammar) :
    Progress → List String → Except UsageError (Progress × Option (String × List String))
  | p, [] => .ok (p, none)
  | p, arg :: rest =>
    if !p.positionalOnly && !p.isAwaitingValue && g.commands.contains arg then
      .ok (p, some (arg, rest))
    else do
      let p ← g.take p arg
      g.scan p rest

end Grammar

def commonOptions : List OptionSpec := [
  { name := "help", kind := .help, short := some 'h' },
  { name := "format", kind := .value (.choice ["json", "table", "pretty", "raw"]) },
  { name := "log-format", kind := .value (.choice ["text", "json"]) },
  { name := "log-level", kind := .value (.choice ["error", "warn", "info", "debug", "trace"]) }]

def programGrammar : Grammar where
  options := { name := "version", kind := .version, short := some 'V' } :: commonOptions
  commands := ["serve", "send", "version", "help"]

def serveGrammar : Grammar where
  options := commonOptions ++ [
    { name := "echo", kind := .values .identifiers },
    { name := "reliable-echo", kind := .values .identifiers },
    { name := "count", kind := .value (.count (UInt64.size - 1)) }]
  takesPath := true

def sendGrammar : Grammar where
  options := commonOptions ++ [
    { name := "id", kind := .value (.number 0 255) },
    { name := "data", kind := .value .any },
    { name := "hex", kind := .value .any },
    { name := "reliable", kind := .switch },
    { name := "timeout", kind := .value .any },
    { name := "attempts", kind := .value (.number 1 (UInt32.size - 1)) }]
  takesPath := true

def versionGrammar : Grammar where
  options := commonOptions ++ [{ name := "extended", kind := .switch }]

namespace Progress

def value? (p : Progress) (name : String) : Option String :=
  (p.values.find? fun v => v.1 == name).map Prod.snd

private def number? (p : Progress) (name : String) : Option Nat := do
  Number.signed? 0 (UInt64.size - 1) (← p.value? name).toList

private def identifiers (p : Progress) (name : String) : List Identifier :=
  let pieces := (p.values.filter fun v => v.1 == name).flatMap fun v => v.2.splitOn ","
  pieces.filterMap fun piece => (Number.signed? 0 255 piece.toList).map UInt8.ofNat

def serveTask (p : Progress) : Except UsageError Task :=
  match p.path with
  | none => .error .missingArgument
  | some path =>
    .ok (.serve {
      path
      echo := p.identifiers "echo"
      reliableEcho := p.identifiers "reliable-echo"
      count := p.number? "count" })

def sendTask (p : Progress) : Except UsageError Task :=
  if p.hasValue "data" && p.hasValue "hex" then .error .conflict
  else
    match p.path, p.number? "id" with
    | some path, some id =>
      .ok (.send {
        path
        id := UInt8.ofNat id
        data := p.value? "data"
        hex := p.value? "hex"
        reliable := p.switches.contains "reliable"
        timeout := (p.value? "timeout").getD "2s"
        attempts := UInt32.ofNat ((p.number? "attempts").getD 5) })
    | _, _ => .error .missingArgument

def versionTask (p : Progress) : Except UsageError Task :=
  .ok (.version (p.switches.contains "extended"))

/-- The value of an option that may stand before or after the command's name. -/
private def choose {α : Type} (program command : Progress) (name : String)
    (choices : List (String × α)) : Option α := do
  let value ← command.value? name <|> program.value? name
  (choices.find? fun c => c.1 == value).map Prod.snd

def invocation (program command : Progress) (task : Task) : Invocation where
  format := choose program command "format"
    [("json", .json), ("table", .table), ("pretty", .pretty), ("raw", .raw)]
  logFormat := (choose program command "log-format" [("text", .text), ("json", .json)]).getD .text
  logLevel := (choose program command "log-level" [("error", .error), ("warn", .warn),
    ("info", .info), ("debug", .debug), ("trace", .trace)]).getD .info
  task

end Progress

def helpOn (names : List String) : UsageError :=
  match names with
  | [] => .help
  | [name] => if programGrammar.commands.contains name then .help else .unknownCommand
  | _ => .unknownCommand

def parseCommand (g : Grammar) (task : Progress → Except UsageError Task) (args : List String) :
    Except UsageError (Progress × Task) := do
  let (p, _) ← g.scan {} args
  let p ← p.settle
  pure (p, ← task p)

/-- Reads a whole command line, without the name of the program. -/
def parse (args : List String) : Except UsageError Invocation := do
  let (program, command?) ← programGrammar.scan {} args
  match command? with
  | none =>
    let program ← program.settle
    .error (if program.isEmpty then .nothingGiven else .missingCommand)
  | some (name, rest) =>
    let (command, task) ← match name with
      | "serve" => parseCommand serveGrammar Progress.serveTask rest
      | "send" => parseCommand sendGrammar Progress.sendTask rest
      | "version" => parseCommand versionGrammar Progress.versionTask rest
      | _ => .error (helpOn rest)
    let program ← program.settle
    pure (program.invocation command task)

end Arguments

end AltBit.Command

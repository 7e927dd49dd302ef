import AltBit.Command.Payload
import AltBit.Frame

/-!
The name and version of the program, and what it was built for.
-/
namespace AltBit.Command

def programName : String := "framemux"

def programVersion : String := "0.1.0"

structure Build where
  target : String := "unknown"
  profile : String := "unknown"
  system : String := "unknown"
  architecture : String := "unknown"
  deriving DecidableEq, Repr

namespace Version

def text : String := programName ++ " " ++ programVersion ++ "\n"

/-- The version and all that is known about the build, a line each. -/
def extendedText (b : Build) : String :=
  let facts := [
    ("name", programName), ("version", programVersion), ("target", b.target),
    ("profile", b.profile), ("target_os", b.system), ("target_arch", b.architecture),
    ("frame_len", toString (Frame.length payloadSize)), ("payload_len", toString payloadSize)]
  String.join (facts.map fun fact => fact.1 ++ ": " ++ fact.2 ++ "\n")

def report (b : Build) (extended : Bool) : List UInt8 :=
  utf8 (if extended then extendedText b else text)

end Version

end AltBit.Command

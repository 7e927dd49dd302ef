import AltBit.Command.Payload
import AltBit.Outlines
import AltBit.Text.Grid
import AltBit.Text.Json

/-!
What the commands report: the reply to a frame, or the counters of a dispatcher, in one of four
formats.
-/
namespace AltBit.Command

inductive Format where
  | json
  | table
  | pretty
  | raw
  deriving DecidableEq, Repr

namespace Report
variable {m : Nat}

private def line (text : String) : List UInt8 := utf8 (text ++ "\n")

private def label (f : Frame m) : String := s!"{f.id} ({f.id.name})"

/-- A reply; only the JSON form tells the time. -/
def reply (f : Frame m) (timestamp : String) : Format → List UInt8
  | .json =>
    let payload := f.payload.toList
    line <| Json.object [
      ("kind", Json.string "reply"),
      ("id", toString f.id),
      ("id_name", Json.string f.id.name),
      ("seq", toString f.seq),
      ("ack", toString f.ack),
      ("payload_hex", Json.string (Hex.encode payload)),
      ("payload_text", Json.stringOrNull (Payload.preview? payload)),
      ("timestamp", Json.string timestamp)]
  | .table =>
    line <| Grid.render {
      header := ["ID", "SEQ", "ACK", "PAYLOAD"]
      rows := [[label f, toString f.seq, toString f.ack, Payload.cell f.payload.toList]] }
  | .pretty =>
    line s!"id={label f} seq={f.seq} ack={f.ack} payload={Payload.cell f.payload.toList}"
  | .raw => f.bytes

private def rows (c : Counters) (peers : Nat) : List (String × Nat) := ("peers", peers) :: c.rows

def counters (c : Counters) (peers : Nat) : Format → List UInt8
  | .json | .raw =>
    let members := (rows c peers).map fun row => (row.1, toString row.2)
    line <| Json.object (("kind", Json.string "stats") :: members)
  | .table =>
    line <| Grid.render {
      header := ["COUNTER", "VALUE"]
      rows := (rows c peers).map fun row => [row.1, toString row.2] }
  | .pretty => line <| " ".intercalate ((rows c peers).map fun row => s!"{row.1}={row.2}")

end Report

end AltBit.Command

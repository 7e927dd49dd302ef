import AltBit.Text.Hex

/-!
The pieces of JSON text that are written: strings, and objects on one line.
-/
namespace AltBit.Json

def escapeChar (c : Char) : String :=
  match c with
  | '"' => "\\\""
  | '\\' => "\\\\"
  | '\x08' => "\\b"
  | '\t' => "\\t"
  | '\n' => "\\n"
  | '\x0c' => "\\f"
  | '\r' => "\\r"
  | c =>
    if c.toNat < 0x20 then "\\u00" ++ String.ofList (Hex.encodeByte c.toNat.toUInt8)
    else c.toString

def string (s : String) : String := "\"" ++ String.join (s.toList.map escapeChar) ++ "\""

def stringOrNull : Option String → String
  | none => "null"
  | some s => string s

/-- An object of members whose values are written already. -/
def object (members : List (String × String)) : String :=
  "\x7b" ++ ",".intercalate (members.map fun m => string m.1 ++ ":" ++ m.2) ++ "\x7d"

end AltBit.Json

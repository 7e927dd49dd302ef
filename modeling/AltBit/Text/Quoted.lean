import AltBit.Text.CharTable
import AltBit.Text.Hex

/-!
Text between quotation marks, with everything escaped that would not be visible as it stands.
-/
namespace AltBit.Quoted

/-- Characters that a reader would miss or take for a part of the character before them. -/
def isInvisible (c : Char) : Bool :=
  CharTable.covers CharTable.unprintable c || CharTable.covers CharTable.extending c ||
    CharTable.covers CharTable.ignorable c

def escapeChar (c : Char) : String :=
  match c with
  | '\x00' => "\\0"
  | '\t' => "\\t"
  | '\r' => "\\r"
  | '\n' => "\\n"
  | '\\' => "\\\\"
  | '"' => "\\\""
  | c =>
    if isInvisible c then "\\u\x7b" ++ Hex.ofNat c.toNat ++ "\x7d" else c.toString

def quote (s : String) : String := "\"" ++ String.join (s.toList.map escapeChar) ++ "\""

end AltBit.Quoted

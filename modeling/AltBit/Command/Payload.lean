import AltBit.Command.Failure
import AltBit.Text.Blank
import AltBit.Text.Hex

/-!
Payloads on the command line: given as text or as hexadecimal digits, and shown as text where they
are text that was filled up with zeros.
-/
namespace AltBit.Command

def payloadSize : Nat := 61

def utf8 (s : String) : List UInt8 := s.toUTF8.toList

namespace Payload

def digitValue? (b : UInt8) : Option Nat := Hex.digitValue? (Char.ofNat b.toNat)

/-- The byte that a pair of characters spells: two digits, or a plus sign and a digit. -/
def pair? (first second : UInt8) : Option UInt8 := do
  let high ← if first = '+'.toNat.toUInt8 then some 0 else digitValue? first
  let low ← digitValue? second
  pure (UInt8.ofNat (16 * high + low))

def pairs? : List UInt8 → Option (List UInt8)
  | [] => some []
  | [_] => none
  | first :: second :: rest => do
    let b ← pair? first second
    let bytes ← pairs? rest
    pure (b :: bytes)

/-- Reads the argument of `--hex`, in which ASCII blanks do not count. -/
def parseHex (input : String) : Except Failure (List UInt8) :=
  let digits := (utf8 input).filter fun b => !Blank.isAscii b
  if digits.length % 2 ≠ 0 then .error ⟨.usage, "--hex needs an even number of digits"⟩
  else
    match pairs? digits with
    | some bytes => .ok bytes
    | none => .error ⟨.usage, "--hex is not valid hex: " ++ input⟩

/-- The payload given by `--data` or else by `--hex`, which must fit a frame. -/
def resolve (data hex : Option String) : Except Failure (List UInt8) := do
  let payload ← match data, hex with
    | some text, _ => pure (utf8 text)
    | none, some digits => parseHex digits
    | none, none => pure []
  if payload.length ≤ payloadSize then pure payload
  else .error ⟨.dataInvalid, s!"payload is {payload.length} bytes, frame holds {payloadSize}"⟩

def unpadded (payload : List UInt8) : List UInt8 :=
  (payload.reverse.dropWhile (· == 0)).reverse

/-- The text in a payload, if there is any and it can be shown. -/
def preview? (payload : List UInt8) : Option String := do
  let bytes := unpadded payload
  let text ← String.fromUTF8? ⟨bytes.toArray⟩
  if bytes.isEmpty || text.toList.any Blank.isControl then none else some text

def cell (payload : List UInt8) : String :=
  match preview? payload with
  | some text => text
  | none => if payload.all (· == 0) then "<zero>" else Hex.encode payload

end Payload

end AltBit.Command

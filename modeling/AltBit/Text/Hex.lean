/-!
Bytes as hexadecimal text.
-/
namespace AltBit.Hex

/-- The lower-case digit of a number below sixteen. -/
def digit (n : Nat) : Char := Nat.digitChar n

/-- The value of a digit of either case. -/
def digitValue? (c : Char) : Option Nat :=
  if '0' ≤ c ∧ c ≤ '9' then some (c.toNat - '0'.toNat)
  else if 'a' ≤ c ∧ c ≤ 'f' then some (c.toNat - 'a'.toNat + 10)
  else if 'A' ≤ c ∧ c ≤ 'F' then some (c.toNat - 'A'.toNat + 10)
  else none

def encodeByte (b : UInt8) : List Char := [digit (b.toNat / 16), digit (b.toNat % 16)]

/-- Bytes as lower-case digits without separators. -/
def encode (bytes : List UInt8) : String := String.ofList (bytes.flatMap encodeByte)

def byte? (high low : Char) : Option UInt8 := do
  let h ← digitValue? high
  let l ← digitValue? low
  pure (UInt8.ofNat (16 * h + l))

def decodeChars? : List Char → Option (List UInt8)
  | [] => some []
  | [_] => none
  | high :: low :: rest => do
    let b ← byte? high low
    let bytes ← decodeChars? rest
    pure (b :: bytes)

def decode? (text : String) : Option (List UInt8) := decodeChars? text.toList

/-- A number without leading zeros. -/
def ofNat (n : Nat) : String := String.ofList (Nat.toDigits 16 n)

end AltBit.Hex

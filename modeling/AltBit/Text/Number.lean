/-!
Numbers in text: decimal digits, perhaps after a sign, with any number of leading zeros.
-/
namespace AltBit.Number

def digit? (c : Char) : Option Nat :=
  if '0' ≤ c ∧ c ≤ '9' then some (c.toNat - '0'.toNat) else none

/-- The value of digits, none of which may be missing. -/
def ofDigits? : List Char → Option Nat
  | [] => none
  | c :: rest => (c :: rest).foldl (fun n? c => do pure (10 * (← n?) + (← digit? c))) (some 0)

/-- A number up to `max`, which may have a plus sign. -/
def unsigned? (max : Nat) (text : List Char) : Option Nat := do
  let n ← ofDigits? (if text.head? = some '+' then text.tail else text)
  if n ≤ max then pure n else none

/-- A number from `min` to `max`, which may have a sign; of all numbers with a minus sign only zero
is in the range. -/
def signed? (min max : Nat) (text : List Char) : Option Nat := do
  let n ← match text with
    | '-' :: digits => (ofDigits? digits).filter (· = 0)
    | '+' :: digits => ofDigits? digits
    | digits => ofDigits? digits
  if min ≤ n ∧ n ≤ max then pure n else none

end AltBit.Number

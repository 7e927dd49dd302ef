import AltBit.Command.Failure
import AltBit.Text.Blank
import AltBit.Text.Number

/-!
The time a sender may take: read from the command line and split over its attempts.
-/
namespace AltBit.Command.Timeout

/-- A number and whether it counts milliseconds, by the unit at the end of the text. -/
def splitUnit (text : List Char) : List Char × Bool :=
  match text.reverse with
  | 's' :: 'm' :: number => (number.reverse, true)
  | 's' :: number => (number.reverse, false)
  | _ => (text, false)

def parse (input : String) : Except Failure Duration :=
  let text := Blank.trim input.toList
  if text.isEmpty then .error ⟨.usage, "duration must not be empty"⟩
  else
    let (number, millis) := splitUnit text
    match Number.unsigned? (UInt64.size - 1) number with
    | none => .error ⟨.usage, "invalid duration value: " ++ String.ofList text⟩
    | some 0 => .error ⟨.usage, "duration must be greater than zero"⟩
    | some n =>
      .ok (if millis then Duration.ofMillis (UInt64.ofNat n) else Duration.ofSecs (UInt64.ofNat n))

/-- Gives every attempt an equal share of the time. -/
def senderConfig (timeout : Duration) (attempts : UInt32) : SenderConfig :=
  let attempts := max attempts 1
  ⟨timeout.div attempts.toNat, attempts, Duration.ofMillis 2⟩

end AltBit.Command.Timeout

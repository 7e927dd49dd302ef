import AltBit.Handler

/-!
Ready-made handlers: simple rules for answering a payload.
-/
namespace AltBit

inductive Rule where
  | echo
  | double
  | reverse
  | fill (b : UInt8)
  | increment
  /-- Counts its frames and writes the count into the first byte. -/
  | count (seen : UInt8)
  | reset
  | fillReset (b : UInt8)
  /-- Ends the session if the first byte is the given one. -/
  | resetIf (b : UInt8)
  /-- Fails after spoiling the first byte. -/
  | fail (reason : String)
  /-- Takes the first byte for an operation that is not supported. -/
  | unsupported
  deriving DecidableEq, Repr

namespace Rule
variable {m : Nat}

/-- What a rule is called, whatever its argument or state. -/
def name : Rule → String
  | echo => "echo"
  | double => "double"
  | reverse => "reverse"
  | fill _ => "fill"
  | increment => "inc"
  | count _ => "count"
  | reset => "reset"
  | fillReset _ => "fill_reset"
  | resetIf _ => "reset_if"
  | fail _ => "fail"
  | unsupported => "unsupported"

/-- The rule of a name, with a byte or a reason for those that need one. -/
def ofName? (name : String) (b : UInt8) (reason : String) : Option Rule :=
  [echo, double, reverse, fill b, increment, count 0, reset, fillReset b, resetIf b, fail reason,
    unsupported].find? fun rule => rule.name == name

private def first (payload : Vector UInt8 m) : UInt8 := payload[0]?.getD 0

/-- The state, the payload and the result after a payload. -/
def apply (rule : Rule) (payload : Vector UInt8 m) : Reaction Rule m :=
  match rule with
  | echo => ⟨rule, payload, .ok .normal⟩
  | double => ⟨rule, payload.setIfInBounds 0 (first payload * 2), .ok .normal⟩
  | reverse => ⟨rule, payload.reverse, .ok .normal⟩
  | fill b => ⟨rule, Vector.replicate m b, .ok .normal⟩
  | increment => ⟨rule, payload.map (· + 1), .ok .normal⟩
  | count seen => ⟨count (seen + 1), payload.setIfInBounds 0 (seen + 1), .ok .normal⟩
  | reset => ⟨rule, payload, .ok .sessionReset⟩
  | fillReset b => ⟨rule, Vector.replicate m b, .ok .sessionReset⟩
  | resetIf b => ⟨rule, payload, .ok (if first payload = b then .sessionReset else .normal)⟩
  | fail reason => ⟨rule, payload.setIfInBounds 0 0xEE, .error (.failed reason)⟩
  | unsupported => ⟨rule, payload, .error (.unsupportedOperation (first payload))⟩

instance : Behaviour Rule where
  react rule payload := pure (rule.apply payload)
  invocations_react _ _ _ := rfl

end Rule

end AltBit

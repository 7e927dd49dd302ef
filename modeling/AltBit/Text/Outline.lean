/-!
Structured values as text, on one line or with one item to a line.
-/
namespace AltBit

/-- How a structured value is laid out. -/
inductive Layout where
  | oneLine
  /-- One item to a line, the value itself standing at the given depth. -/
  | lines (depth : Nat)

/-- A value as text, once a layout is chosen. -/
abbrev Outline := Layout → String

namespace Outline

private def margin (depth : Nat) : String := String.ofList (List.replicate (4 * depth) ' ')

private def enclosed (opening closing space : String) (items : List Outline) : Outline
  | .oneLine =>
    opening ++ space ++ ", ".intercalate (items.map (· .oneLine)) ++ space ++ closing
  | .lines depth =>
    let line (item : Outline) : String := margin (depth + 1) ++ item (.lines (depth + 1)) ++ ",\n"
    opening ++ "\n" ++ String.join (items.map line) ++ margin depth ++ closing

def atom (text : String) : Outline := fun _ => text

def nat (n : Nat) : Outline := atom (toString n)

def bool (b : Bool) : Outline := atom (toString b)

def list (items : List Outline) : Outline :=
  if items.isEmpty then atom "[]" else enclosed "[" "]" "" items

def variant (name : String) (parts : List Outline) : Outline := enclosed (name ++ "(") ")" "" parts

def option : Option Outline → Outline
  | none => atom "None"
  | some item => variant "Some" [item]

private def field (name : String) (value : Outline) : Outline := fun layout =>
  name ++ ": " ++ value layout

def record (name : String) (fields : List (String × Outline)) : Outline :=
  enclosed (name ++ " \x7b") "\x7d" " " (fields.map fun f => field f.1 f.2)

/-- A name with named parts, of which not all are shown. -/
def openRecord (name : String) (fields : List (String × Outline)) : Outline :=
  enclosed (name ++ " \x7b") "\x7d" " " (fields.map (fun f => field f.1 f.2) ++ [atom ".."])

end Outline

end AltBit

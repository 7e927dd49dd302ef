import AltBit.Text.Width

/-!
Tables drawn with box characters: a header, a double line, and rows with dashed lines between them.
Every column is as wide as its widest cell, and cells are filled up on the right.
-/
namespace AltBit

structure Grid where
  header : List String
  rows : List (List String)

namespace Grid

private def repeated (c : Char) (n : Nat) : String := String.ofList (List.replicate n c)

def widths (g : Grid) : List Nat :=
  let wider (widths : List Nat) (row : List String) : List Nat :=
    List.zipWith max widths (row.map Width.ofString)
  g.rows.foldl wider (g.header.map Width.ofString)

/-- A horizontal line with a blank's room on both sides of every cell. -/
private def rule (left line crossing right : Char) (widths : List Nat) : String :=
  left.toString ++ crossing.toString.intercalate (widths.map fun w => repeated line (w + 2)) ++
    right.toString

private def row (widths : List Nat) (cells : List String) : String :=
  let padded (w : Nat) (cell : String) : String :=
    " " ++ cell ++ repeated ' ' (w - Width.ofString cell) ++ " "
  "│" ++ "┆".intercalate (List.zipWith padded widths cells) ++ "│"

def render (g : Grid) : String :=
  let widths := g.widths
  let between := rule '├' '╌' '┼' '┤' widths
  let body := (g.rows.map (row widths)).intersperse between
  "\n".intercalate <|
    [rule '┌' '─' '┬' '┐' widths, row widths g.header, rule '╞' '═' '╪' '╡' widths] ++ body ++
      [rule '└' '─' '┴' '┘' widths]

end Grid

end AltBit

import AltBit.Text.CharTable

/-!
How many columns a code point takes on a terminal when nothing around it matters.
-/
namespace AltBit.Columns

/-- Signs that are drawn into the characters beside them: enclosing signs, vowels and finals that
complete a syllable block, and letters written above the letter that follows. -/
def conjoined : List (Nat × Nat) := [
  (0x605, 0x605), (0x70f, 0x70f), (0x890, 0x891), (0x8e2, 0x8e2), (0xd4e, 0xd4e), (0x1160, 0x11ff),
  (0xa8fa, 0xa8fa), (0xd7b0, 0xd7c6), (0xd7cb, 0xd7fb), (0x111c2, 0x111c3), (0x113d1, 0x113d1),
  (0x1193f, 0x1193f), (0x11941, 0x11941), (0x11a3a, 0x11a3a), (0x11a84, 0x11a89),
  (0x11d46, 0x11d46), (0x11f02, 0x11f02)]

/-- Columns of a code point: none if it is drawn into its neighbours or not drawn at all, two if it
is wide, else one. A filler, an independent vowel and two signs have a count of their own. -/
def ofChar (c : Char) : Nat :=
  match c.toNat with
  | 0x115f | 0x17a4 => 2
  | 0x17d8 => 3
  | 0x2d7f => 1
  | _ =>
    if CharTable.covers CharTable.ignorable c || CharTable.covers CharTable.extending c ||
        CharTable.covers conjoined c then 0
    else if CharTable.covers CharTable.wide c then 2
    else 1

end AltBit.Columns

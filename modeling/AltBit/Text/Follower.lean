import AltBit.Text.Columns
import AltBit.Text.Emoji

/-!
Characters that melt with what stands to the right of them: letters that form one sign and emoji
that are joined to one. Text is read from its end, and of what has been read only the `Follower`
counts for the character before it.
-/
namespace AltBit

/-- What stands to the right of a character, as far as the character's columns depend on it. Letters
and emoji are `joined` where a joiner stands between them and the character. -/
inductive Follower where
  | other
  | lineFeed
  /-- The letter that takes no column of its own behind a lam. -/
  | alef
  | lamed (joined : Bool)
  | ya (joined : Bool)
  /-- A vowel sign before a joined ya. -/
  | vowelYa
  | consonant (joined : Bool)
  /-- The sign that joins consonants, before a consonant. -/
  | linkedConsonant
  | toneLetter
  | orkhonI (joined : Bool)
  /-- A letter that is written below the letter before it if the sign for that stands between. -/
  | subscript
  | vowelE
  | vowelAi
  | emoji
  | skinTone
  | regional
  | regionals
  | joinedEmoji
  /-- A keycap before a joined emoji. -/
  | joinedKeycap
  /-- One regional letter, pairs of them, or pairs and one more, before a joined emoji. -/
  | joinedRegional
  | joinedPairs
  | joinedOdd
  /-- The tail of a flag's region, spelled in tags, before a joined emoji. -/
  | tagLetters (count : Nat)
  | tagDigits (count : Nat)
  deriving DecidableEq, Repr

namespace Follower

/-- Columnless code points over which letters do not join. -/
def interrupting : List (Nat × Nat) := [
  (0x605, 0x605), (0x890, 0x891), (0x8e2, 0x8e2), (0x9be, 0x9be), (0x9d7, 0x9d7), (0xb3e, 0xb3e),
  (0xb57, 0xb57), (0xbbe, 0xbbe), (0xbd7, 0xbd7), (0xcc0, 0xcc0), (0xcc2, 0xcc2), (0xcc7, 0xcc8),
  (0xcca, 0xccb), (0xcd5, 0xcd6), (0xd3e, 0xd3e), (0xd4e, 0xd4e), (0xd57, 0xd57), (0xdcf, 0xdcf),
  (0xddf, 0xddf), (0x1160, 0x11ff), (0x1715, 0x1715), (0x1734, 0x1734), (0x180e, 0x180e),
  (0x1b35, 0x1b35), (0x1b3b, 0x1b3b), (0x1b3d, 0x1b3d), (0x1b43, 0x1b44), (0x1baa, 0x1baa),
  (0x1bf2, 0x1bf3), (0x200c, 0x200d), (0x2065, 0x2069), (0x302e, 0x302f), (0x3164, 0x3164),
  (0xa8fa, 0xa8fa), (0xa953, 0xa953), (0xa9c0, 0xa9c0), (0xd7b0, 0xd7c6), (0xd7cb, 0xd7fb),
  (0xffa0, 0xffa0), (0xfff0, 0xfff8), (0x111c0, 0x111c0), (0x111c2, 0x111c3), (0x11235, 0x11235),
  (0x1133e, 0x1133e), (0x1134d, 0x1134d), (0x11357, 0x11357), (0x113b8, 0x113b8),
  (0x113c2, 0x113c2), (0x113c5, 0x113c5), (0x113c7, 0x113c9), (0x113cf, 0x113cf),
  (0x113d1, 0x113d1), (0x114b0, 0x114b0), (0x114bd, 0x114bd), (0x115af, 0x115af),
  (0x116b6, 0x116b6), (0x11930, 0x11930), (0x1193d, 0x1193d), (0x1193f, 0x1193f),
  (0x11941, 0x11941), (0x11a3a, 0x11a3a), (0x11a84, 0x11a89), (0x11d46, 0x11d46),
  (0x11f02, 0x11f02), (0x11f41, 0x11f41), (0x16ff0, 0x16ff1), (0x1d165, 0x1d166),
  (0x1d16d, 0x1d172), (0xe0000, 0xe0000), (0xe0002, 0xe001f), (0xe0080, 0xe00ff),
  (0xe01f0, 0xe0fff)]

/-- Signs over which letters join. -/
def isTransparent (c : Char) : Bool :=
  Columns.ofChar c = 0 && !CharTable.covers interrupting c

/-- Marks that are ignored where they are not supported. -/
def isIgnorableMark (c : Char) : Bool :=
  CharTable.covers [(0x34f, 0x34f), (0x17b4, 0x17b5), (0x180b, 0x180d), (0x180f, 0x180f),
    (0xfe00, 0xfe0f), (0xe0100, 0xe01ef)] c

def isJoiner (c : Char) : Bool := c.toNat = 0x200d

def isAlef (c : Char) : Bool :=
  CharTable.covers [(0x622, 0x623), (0x625, 0x625), (0x627, 0x627), (0x671, 0x673),
    (0x675, 0x675), (0x773, 0x774), (0x870, 0x882)] c

def isLam (c : Char) : Bool :=
  CharTable.covers [(0x644, 0x644), (0x6b5, 0x6b8), (0x76a, 0x76a), (0x8a6, 0x8a6),
    (0x8c7, 0x8c7)] c

def isConsonant (c : Char) : Bool :=
  CharTable.covers [(0x2d31, 0x2d65), (0x2d6f, 0x2d6f)] c

/-- Letters with a form below another letter. -/
def isSubscript (c : Char) : Bool :=
  CharTable.covers [(0x1780, 0x1782), (0x1784, 0x1787), (0x1789, 0x178c), (0x178e, 0x1793),
    (0x1795, 0x1798), (0x179b, 0x179d), (0x17a0, 0x17a0), (0x17a2, 0x17a2), (0x17a7, 0x17a7),
    (0x17ab, 0x17ac), (0x17af, 0x17af)] c

/-- What a character is to the character before it. -/
def ofChar (c : Char) : Follower :=
  match c.toNat with
  | 0x0a => lineFeed
  | 0x5dc => lamed false
  | 0x1a10 => ya false
  | 0xa4fc | 0xa4fd => toneLetter
  | 0x10c03 => orkhonI false
  | 0x16d67 => vowelE
  | 0x16d68 => vowelAi
  | _ =>
    if isAlef c then alef
    else if isConsonant c then consonant false
    else if isSubscript c then subscript
    else if Emoji.isTone c then skinTone
    else if Emoji.isRegional c then regional
    else if Emoji.isPresented c then emoji
    else other

/-- Letters, which form one sign with the letter before them also over a selector. -/
def isLetter : Follower → Bool
  | alef | lamed _ | ya _ | vowelYa | consonant _ | linkedConsonant | toneLetter | orkhonI _
  | subscript => true
  | _ => false

/-- Letters behind a joiner. -/
def join : Follower → Follower
  | lamed _ => lamed true
  | ya _ => ya true
  | consonant _ => consonant true
  | orkhonI _ => orkhonI true
  | f => f

/-- What a character adds in front of a letter with which it forms one sign, and what the two are
to the character before them. A character that adds less than nothing takes the letter's column. -/
def letterBefore? (f : Follower) (c : Char) : Option (Int × Follower) :=
  match f with
  | alef =>
    if isLam c then some (0, other) else if isTransparent c then some (0, alef) else none
  | lamed true => if c.toNat = 0x5d0 then some (0, other) else none
  | ya true => if c.toNat = 0x1a17 then some (0, vowelYa) else none
  | vowelYa => if c.toNat = 0x1a15 then some (0, other) else none
  | consonant joined =>
    if c.toNat = 0x2d7f then some (1, linkedConsonant)
    else if joined && isConsonant c then some (0, other)
    else none
  | linkedConsonant => if isConsonant c then some (-1, other) else none
  | toneLetter => if 0xa4f8 ≤ c.toNat && c.toNat ≤ 0xa4fb then some (0, other) else none
  | orkhonI true => if c.toNat = 0x10c32 then some (0, other) else none
  | subscript => if c.toNat = 0x17d2 then some (-1, other) else none
  | _ => none

/-- The same for the vowel signs that are spelled in parts. -/
def vowelBefore? (f : Follower) (c : Char) : Option (Int × Follower) :=
  match f, c.toNat with
  | vowelE, 0x16d63 => some (0, other)
  | vowelE, 0x16d67 => some (0, vowelAi)
  | vowelE, 0x16d68 => some (1, vowelE)
  | vowelE, 0x16d69 => some (0, other)
  | vowelAi, 0x16d63 => some (0, other)
  | _, _ => none

def isTagLetter (c : Char) : Bool := 0xe0061 ≤ c.toNat && c.toNat ≤ 0xe007a

def isTagDigit (c : Char) : Bool := 0xe0030 ≤ c.toNat && c.toNat ≤ 0xe0039

def isFlag (c : Char) : Bool := c.toNat = 0x1f3f4

/-- The same for the tags that spell the region of a flag: three letters to six, of which digits may
stand in front, three of them. -/
def tagBefore? (f : Follower) (c : Char) : Option (Int × Follower) :=
  match f with
  | tagLetters n =>
    if isTagLetter c && n < 6 then some (0, tagLetters (n + 1))
    else if isTagDigit c && n < 5 then some (0, tagDigits 1)
    else if isFlag c && 3 ≤ n then some (0, emoji)
    else none
  | tagDigits n =>
    if isTagDigit c && n < 3 then some (0, tagDigits (n + 1))
    else if isFlag c && n = 3 then some (0, emoji)
    else none
  | _ => none

/-- The same for emoji. Of regional letters every other one completes a pair, and a pair takes the
columns of one emoji; in front of a joined emoji it takes none. -/
def emojiBefore? (f : Follower) (c : Char) : Option (Int × Follower) :=
  match f with
  | emoji => if isJoiner c then some (0, joinedEmoji) else none
  | skinTone =>
    if Emoji.takesTone c then some (0, emoji)
    else if isJoiner c then some (0, joinedEmoji)
    else none
  | regional => if Emoji.isRegional c then some (1, regionals) else none
  | regionals =>
    if Emoji.isRegional c then some (1, regionals)
    else if isJoiner c then some (0, joinedEmoji)
    else none
  | joinedEmoji =>
    if c.toNat = 0x20e3 then some (0, joinedKeycap)
    else if Emoji.isRegional c then some (1, joinedRegional)
    else if Emoji.isTone c then some (0, skinTone)
    else if c.toNat = 0xe007f then some (0, tagLetters 0)
    else if Emoji.isPresented c then some (0, emoji)
    else none
  | joinedRegional => if Emoji.isRegional c then some (-1, joinedPairs) else none
  | joinedPairs =>
    if Emoji.isRegional c then some (3, joinedOdd)
    else if isJoiner c then some (0, joinedEmoji)
    else none
  | joinedOdd =>
    if Emoji.isRegional c then some (-1, joinedPairs)
    else if isJoiner c then some (0, joinedEmoji)
    else none
  | tagLetters _ | tagDigits _ => tagBefore? f c
  | _ => none

/-- Columns that a character adds in front of a follower, and what the two are to the character
before them. In front of letters a joiner joins and ignorable marks change nothing; a character that
forms no sign with the follower stands alone. -/
def before (f : Follower) (c : Char) : Int × Follower :=
  if f.isLetter && f ≠ alef && isJoiner c then (0, f.join)
  else if f.isLetter && f ≠ alef && isIgnorableMark c then (0, f)
  else
    (letterBefore? f c <|> vowelBefore? f c <|> emojiBefore? f c).getD (Columns.ofChar c, ofChar c)

end Follower

end AltBit

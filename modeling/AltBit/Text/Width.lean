import AltBit.Text.Follower

/-!
How many columns text takes on a terminal. Each character adds its columns in front of what follows
it; a selector says how the character before it is to be drawn.
-/
namespace AltBit.Width

/-- What a selector asks of the character before it. -/
inductive Selector where
  | fullwidth
  | text
  | emoji
  deriving DecidableEq, Repr

def Selector.ofChar? (c : Char) : Option Selector :=
  match c.toNat with
  | 0xfe01 => some fullwidth
  | 0xfe0e => some text
  | 0xfe0f => some emoji
  | _ => none

/-- What stands to the right of a character, and the selector right behind the character if there is
one. -/
structure Context where
  follower : Follower := .other
  selector : Option Selector := none
  deriving DecidableEq, Repr

namespace Context

/-- With a selector in front. Letters remain, and so does a joined emoji or keycap if an emoji is
asked for. -/
def select (ctx : Context) (s : Selector) : Context :=
  let remains := ctx.follower.isLetter ||
    s = .emoji && (ctx.follower = .joinedEmoji || ctx.follower = .joinedKeycap)
  ⟨if remains then ctx.follower else .other, some s⟩

/-- Without the selector, to which the character does not listen. -/
def unselect (ctx : Context) : Context :=
  match ctx.selector with
  | none => ctx
  | some _ => ⟨if ctx.follower.isLetter then ctx.follower else .other, none⟩

end Context

/-- Quotation marks that are wide where a selector asks for it. -/
def isQuotationMark (c : Char) : Bool :=
  CharTable.covers [(0x2018, 0x2019), (0x201c, 0x201d)] c

/-- What the selector behind a character makes of it, if the character listens to it. -/
def selected? (ctx : Context) (c : Char) : Option (Int × Context) :=
  match ctx.selector with
  | some .emoji =>
    let joins := ctx.follower = .joinedEmoji || ctx.follower = .joinedKeycap
    if Emoji.isSelectable c then some (if joins then 0 else 2, ⟨.emoji, none⟩) else none
  | some .text => if Emoji.isNarrowable c then some (1, {}) else none
  | some .fullwidth => if isQuotationMark c then some (2, {}) else none
  | none => none

/-- Columns that a character adds in front of a context, and the context of the character before. -/
def before (ctx : Context) (c : Char) : Int × Context :=
  match Selector.ofChar? c with
  | some s => (0, (if ctx.selector = some .emoji then ctx.unselect else ctx).select s)
  | none =>
    (selected? ctx c).getD <|
      let ctx := ctx.unselect
      if c.toNat ≤ 0xa0 then
        (if c = '\r' && ctx.follower = .lineFeed then 0 else 1, ⟨.ofChar c, none⟩)
      else
        let added := ctx.follower.before c
        (added.1, ⟨added.2, none⟩)

/-- Columns of a text and the context that it makes for a character in front of it. -/
def ofList : List Char → Int × Context
  | [] => (0, {})
  | c :: rest =>
    let (columns, ctx) := ofList rest
    let added := before ctx c
    (columns + added.1, added.2)

def ofString (s : String) : Nat := (ofList s.toList).1.toNat

end AltBit.Width

import PacketDiversion.Pattern.CharClass

/-!
# Patterns

A pattern says which pieces of a text it fits. It is built from words, places for one character and
conditions on what stands around a gap between characters, by sequence, choice and repetition.
-/

namespace PacketDiversion

namespace Pattern

/-- What a condition on words asks of a gap, by whether a word goes on before it and after it. -/
inductive WordEdge
  | boundary
  | interior
  | start
  | finish
  /-- No word character stands before. -/
  | startHalf
  /-- No word character stands after. -/
  | finishHalf
  deriving DecidableEq, Repr

/-- A gap between characters, by the characters before and after it; one is missing at an end of the
text. -/
structure Gap where
  before : Option Char
  after : Option Char
  deriving DecidableEq, Repr

inductive Anchor
  | textStart
  | textEnd
  /-- Behind a line end. With `crlf` a carriage return ends a line too, and both together end
  one. -/
  | lineStart (crlf : Bool)
  /-- Before a line end. -/
  | lineEnd (crlf : Bool)
  /-- A condition on words, whose characters are those of ASCII without `wide`. -/
  | word (edge : WordEdge) (wide : Bool)
  deriving DecidableEq, Repr

namespace WordEdge

def holds : WordEdge → Bool → Bool → Bool
  | boundary, before, after => before != after
  | interior, before, after => before == after
  | start, before, after => !before && after
  | finish, before, after => before && !after
  | startHalf, before, _ => !before
  | finishHalf, _, after => !after

end WordEdge

def Anchor.holds : Anchor → Gap → Bool
  | textStart, gap => gap.before.isNone
  | textEnd, gap => gap.after.isNone
  | lineStart crlf, gap =>
    gap.before.all fun c => c == '\n' || (crlf && c == '\r' && gap.after != some '\n')
  | lineEnd crlf, gap =>
    gap.after.all fun c =>
      if crlf then c == '\r' || (c == '\n' && gap.before != some '\r') else c == '\n'
  | word edge wide, gap =>
    let inWord (c : Option Char) : Bool := c.any fun c => (CharSet.word wide).contains c.toNat
    edge.holds (inWord gap.before) (inWord gap.after)

end Pattern

inductive Pattern
  | empty
  | word (text : List Char)
  | one (set : Pattern.CharSet)
  | anchored (anchor : Pattern.Anchor)
  /-- Fits what its part fits. Groups are numbered in the order in which they open. -/
  | group (number : Nat) (p : Pattern)
  | seq (p q : Pattern)
  | either (p q : Pattern)
  /-- Fits as many pieces in a row as it says: `least` or more, and no more than `most`. A `lazy`
  one takes as few as it can, which makes no difference to where a pattern occurs. -/
  | times (p : Pattern) (least : Nat) (most : Option Nat) (lazy : Bool)
  deriving DecidableEq, Repr

end PacketDiversion

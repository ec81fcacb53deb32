import PacketDiversion.Pattern.Layout.Class
import PacketDiversion.Pattern.Layout.Words
import PacketDiversion.Pattern.Opening

/-!
# Room for patterns

A pattern is searched for by two automata, one that reads forward and finds where a piece ends, and
one that reads backward from there and finds where it begins. A repeated part is laid out as often
as it may be needed, so a short pattern can take much room. A pattern fits in memory if each of its
automata takes no more than it may, or if it is searched for without them.
-/

namespace PacketDiversion.Pattern

/-- Ends a branch of a choice, which is the one with a number or, at 0, none. Behind the second
branch there are laid out the choice itself and a state where all branches meet. -/
def Layout.endBranch (branch : Nat) (l : Layout) : Layout :=
  if branch = 0 then l
  else (if branch = 2 then l.join.add 2 else l.join).addWays 1

/-- Lays out a pattern, which is the branch of a choice with a number or, at 0, no branch. -/
def lay (direction : Direction) : Pattern → (branch : Nat) → Layout → Layout
  | empty, branch, l => (l.add 1).endBranch branch
  | word text, branch, l => (l.add (Text.utf8Text text).length).endBranch branch
  | one set, branch, l => (l.addSet direction set).endBranch branch
  | anchored _, branch, l => (l.add 1).endBranch branch
  | group _ p, branch, l =>
    match direction with
    | .forward => ((lay direction p 0 (l.add 1)).join.add 1).endBranch branch
    | .backward => (lay direction p 0 l).endBranch branch
  | seq p q, branch, l =>
    match direction with
    | .forward => (lay direction q 0 (lay direction p 0 l).join).endBranch branch
    | .backward => (lay direction p 0 (lay direction q 0 l).join).endBranch branch
  | either p q, branch, l =>
    match branch, (either p q).words? with
    | 0, some words => l.addWords direction (words.map Text.utf8Text)
    | 0, none => lay direction q 2 ((lay direction p 0 l).endBranch 1)
    | branch, _ => lay direction q (branch + 1) ((lay direction p 0 l).endBranch branch)
  | times p least most _, branch, l =>
    let part := lay direction p 0
    let laid :=
      match least, most with
      | 0, none =>
        if p.leastLength?.any (0 < ·) then (part (l.add 1)).closeLoop
        else ((part l).join.add 3).addWays 4
      | least, none => ((l.copies part least).join.add 1).closeLoop
      | 0, some 1 => ((part (l.add 1)).join.add 1).addWays 2
      | least, some most =>
        if least = most then l.copies part least
        else (l.copies part least).optionals part (most - least)
    laid.endBranch branch

/-- The states that let a search begin at every character of the text, or the one that lets it begin
at its end only. -/
def Layout.start (anchored : Bool) : Layout :=
  if anchored then Layout.none.add 1 else ((Layout.none.add 3).addEdges 1).addWays 2

/-- The states of the automaton for a pattern. Reading forward, the whole pattern counts as a
group. -/
def layout (direction : Direction) (p : Pattern) : Layout :=
  match direction with
  | .forward => (((p.lay .forward 0 ((Layout.start p.beginsAtStart).add 1)).join).add 2)
  | .backward => (p.lay .backward 0 (Layout.start p.endsAtEnd)).join.add 1

/-- Whether a search for a pattern takes no more room than it may. -/
def fitsInMemory (p : Pattern) : Bool :=
  (!(p.layout .backward).tooLarge && !(p.layout .forward).tooLarge)
    || p.isFewTexts || p.isManyWords

end PacketDiversion.Pattern

import PacketDiversion.Pattern.Layout.Basic

/-!
# Room for a choice among words

A choice among words is laid out as a tree: words that begin alike share the states for what they
have in common, as far as no word that ends in between has to come first.
-/

namespace PacketDiversion.Pattern.Layout

/-- Words without those that say again, before anything else, that one ends here. -/
def withoutRepeatedEnds : List (List Nat) → List (List Nat)
  | [] :: [] :: rest => withoutRepeatedEnds ([] :: rest)
  | words => words

/-- Words in the stretches between those that end here. -/
def stretches : List (List Nat) → List (List (List Nat))
  | [] => [[]]
  | [] :: rest => [] :: stretches rest
  | word :: rest =>
    match stretches rest with
    | stretch :: more => (word :: stretch) :: more
    | [] => [[word]]

/-- Words by their first byte, without that byte. -/
def byFirst (words : List (List Nat)) : List (Nat × List (List Nat)) :=
  (words.filterMap List.head?).eraseDups.map fun first =>
    (first, (words.filter fun word => word.head? == some first).map List.tail)

/-- Lays out the states for words of no more than `depth` bytes: one for each stretch, which looks
at the first byte, those that it leads to, and a choice among the stretches and the ends between
them. -/
def addTree : (depth : Nat) → List (List Nat) → Layout → Layout
  | 0, _, l => l
  | depth + 1, words, l =>
    let parts := (stretches (withoutRepeatedEnds words)).map byFirst
    let l := parts.foldl
      (fun l part =>
        let l := match part with
          | [] => l
          | [_] => l.add 1
          | _ => (l.add 1).addEdges part.length
        part.foldl
          (fun l entry => if entry.2.all List.isEmpty then l else addTree depth entry.2 l)
          l)
      l
    let filled := (parts.filter fun part => !part.isEmpty).length
    (l.add 1).addWays (filled + (parts.length - 1))

/-- Lays out a choice among words, given by their bytes. -/
def addWords (direction : Direction) (words : List (List Nat)) (l : Layout) : Layout :=
  let words := match direction with
    | .forward => words
    | .backward => words.map List.reverse
  addTree (words.foldl (fun depth word => max depth word.length) 0) words (l.add 1)

end PacketDiversion.Pattern.Layout

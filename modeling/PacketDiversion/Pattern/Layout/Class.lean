import PacketDiversion.Pattern.CharSet
import PacketDiversion.Pattern.Layout.Basic
import PacketDiversion.Text.Utf8
import Std.Data.HashMap

/-!
# Room for sets of characters

An automaton reads bytes, so a set with characters beyond ASCII takes several states. Parts that
several characters have in common are shared: a state that has been laid out is kept in a slot and
used again if one like it is needed while it is there. A slot holds one state, so that what is
shared depends on which slots states fall into, and these on the numbers of the states.
-/

namespace PacketDiversion.Pattern

/-- The states of a set while they are laid out. -/
structure SetLayout where
  /-- How many states there are, those before the set included. -/
  states : Nat
  /-- How many ways lead out of the states of the set. -/
  edges : Nat
  slots : Nat
  /-- The state in each slot, with what tells states apart. -/
  kept : Std.HashMap Nat (List Nat × Nat)

namespace SetLayout

/-- The slot of a state: each of the numbers that tell it apart is put into a 64-bit word by
exclusive or, and the word is multiplied by a prime number; what the word leaves when it is divided
by the number of slots is the slot. -/
def slot (slots : Nat) (key : List Nat) : Nat :=
  let mix (hash : UInt64) (n : Nat) : UInt64 := (hash ^^^ n.toUInt64) * 1099511628211
  (key.foldl mix 14695981039346656037).toNat % slots

/-- The number of a state, which is laid out with so many ways out of it unless it is kept. -/
def place (key : List Nat) (edges : Nat) (l : SetLayout) : Nat × SetLayout :=
  let slot := slot l.slots key
  let fresh := (l.states,
    { l with
      states := l.states + 1
      edges := l.edges + edges
      kept := l.kept.insert slot (key, l.states) })
  match l.kept.get? slot with
  | some (other, state) => if other = key then (state, l) else fresh
  | none => fresh

/-! ### Forward

States are shared from the end: those with the same ways out of them are one. -/

/-- Sequences of byte ranges by their first range, where neighbours have the same one. -/
def byFirst : List (List (Nat × Nat)) → List ((Nat × Nat) × List (List (Nat × Nat)))
  | [] => []
  | [] :: rest => byFirst rest
  | (range :: tail) :: rest =>
    match byFirst rest with
    | (other, tails) :: groups =>
      if range = other then (other, tail :: tails) :: groups
      else (range, [tail]) :: (other, tails) :: groups
    | [] => [(range, [tail])]

/-- Lays out a state from which some sequences of no more than `depth` byte ranges lead to a target,
behind the states that it leads to. -/
def addTree (target : Nat) : (depth : Nat) → List (List (Nat × Nat)) → SetLayout → Nat × SetLayout
  | 0, _, l => (target, l)
  | depth + 1, products, l =>
    if products.all List.isEmpty then (target, l)
    else
      let (key, l) := (byFirst products).foldl
        (fun (key, l) (range, tails) =>
          let (next, l) := addTree target depth tails l
          (key ++ [range.1, range.2, next], l))
        (([] : List Nat), l)
      l.place key (key.length / 3)

/-! ### Backward

States are shared from the beginning of a sequence, which is read last. -/

/-- Lays out the states of a sequence of byte ranges, each leading to the one before it. -/
def addChain (target : Nat) (product : List (Nat × Nat)) (l : SetLayout) : SetLayout :=
  (product.foldl (fun (next, l) range => l.place [next, range.1, range.2] 0) (target, l)).2

end SetLayout

namespace Layout

/-- Lays out a set of characters. One of ASCII takes a state that looks at the byte and one behind
it. -/
def addSet (direction : Direction) (s : CharSet) (l : Layout) : Layout :=
  if s.runs.getLast?.all fun run => run.2 ≤ 0x7F then (l.add 2).addEdges s.runs.length
  else
    let products := s.runs.flatMap Text.utf8Products
    match direction with
    | .forward =>
      let (_, after) := SetLayout.addTree l.states 4 products ⟨l.states + 1, 0, 10000, ∅⟩
      (l.add (after.states - l.states)).addEdges after.edges
    | .backward =>
      let target := l.states + 1
      let after := products.foldl (fun after product => after.addChain target product)
        (⟨l.states + 2, 0, 1000, ∅⟩ : SetLayout)
      (l.add (after.states - l.states)).addWays products.length

end Layout

end PacketDiversion.Pattern

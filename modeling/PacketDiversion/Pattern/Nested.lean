/-!
# Depth of nesting

Parts of a written pattern stand inside each other, and a pattern with too many levels is refused.
Each part is kept with the number of levels in it.
-/

namespace PacketDiversion.Pattern

/-- A part and its levels. -/
structure Nested (α : Type) where
  value : α
  /-- The levels in it. -/
  depth : Nat
  deriving DecidableEq, Repr

namespace Nested

variable {α : Type}

def leaf (value : α) : Nested α := ⟨value, 0⟩

/-- The part under one more level, with another value. -/
def within {β : Type} (part : Nested α) (value : β) : Nested β := ⟨value, part.depth + 1⟩

/-- The most levels in any of some parts. -/
def deepest (parts : List (Nested α)) : Nat := parts.foldl (fun most part => max most part.depth) 0

/-- Some parts as one. Only two or more make a level of their own. -/
def gather (join : List α → α) (parts : List (Nested α)) : Nested α :=
  match parts with
  | [] => leaf (join [])
  | [part] => part
  | parts => ⟨join (parts.map Nested.value), deepest parts + 1⟩

end Nested

/-- The most levels in a pattern. -/
def greatestDepth : Nat := 250

end PacketDiversion.Pattern

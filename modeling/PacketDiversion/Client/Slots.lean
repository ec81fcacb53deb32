/-!
# Numbered slots

A client keeps its sessions and its contexts in slots with numbers. The slots are listed by number,
lowest first, which is the order in which they are emptied at the end.
-/

namespace PacketDiversion

structure Slots (α : Type) where
  /-- The slots in use, by ascending number. -/
  entries : List (Nat × α) := []
  deriving Repr

namespace Slots

variable {α : Type}

def get? (s : Slots α) (n : Nat) : Option α := s.entries.lookup n

/-- Inserts an entry into a list with ascending numbers, in place of one with the same number. -/
def insert (n : Nat) (value : α) : List (Nat × α) → List (Nat × α)
  | [] => [(n, value)]
  | (m, other) :: rest =>
    if n < m then (n, value) :: (m, other) :: rest
    else if n = m then (n, value) :: rest
    else (m, other) :: insert n value rest

def set (s : Slots α) (n : Nat) (value : α) : Slots α := ⟨insert n value s.entries⟩

def erase (s : Slots α) (n : Nat) : Slots α := ⟨s.entries.filter fun entry => entry.1 != n⟩

/-- The values, by ascending number. -/
def values (s : Slots α) : List α := s.entries.map Prod.snd

end Slots

end PacketDiversion

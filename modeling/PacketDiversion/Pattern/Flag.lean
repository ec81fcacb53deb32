/-!
# Flags

What the signs of a written pattern mean depends on flags. A group can set and clear them for
itself, as in `(?i-s:a.)`, and for the rest of the group it stands in, as in `(?i)`.
-/

namespace PacketDiversion.Pattern

inductive Flag
  | anyCase
  /-- `^` and `$` fit at every line. -/
  | lines
  /-- `.` fits line ends too. -/
  | dotAll
  /-- A repetition takes as little as it can. -/
  | lazy
  /-- A carriage return ends a line too. -/
  | crlf
  /-- Classes and letter case go beyond ASCII. -/
  | wide
  /-- Blanks and comments may stand between signs. -/
  | spaced
  deriving DecidableEq, Repr

/-- The flags in force. -/
abbrev Flags := List Flag

/-- The flags that a pattern begins with. -/
def Flags.standard : Flags := [.wide]

def Flag.ofChar? : Char → Option Flag
  | 'i' => some .anyCase
  | 'm' => some .lines
  | 's' => some .dotAll
  | 'U' => some .lazy
  | 'R' => some .crlf
  | 'u' => some .wide
  | 'x' => some .spaced
  | _ => none

/-- Flags to set and flags to clear. -/
structure FlagChange where
  set : List Flag
  /-- The flags to clear, if a sign says that some are. -/
  clear : Option (List Flag)
  deriving DecidableEq, Repr

namespace FlagChange

def none : FlagChange := ⟨[], Option.none⟩

def mentions (change : FlagChange) (flag : Flag) : Bool :=
  change.set.contains flag || change.clear.any fun flags => flags.contains flag

def add (change : FlagChange) (flag : Flag) : FlagChange :=
  match change.clear with
  | Option.none => { change with set := flag :: change.set }
  | some flags => { change with clear := some (flag :: flags) }

def apply (change : FlagChange) (flags : Flags) : Flags :=
  let cleared := change.clear.getD []
  change.set ++ flags.filter fun flag => !cleared.contains flag

/-- Reads a change up to the sign behind it, a colon or a closing parenthesis, which is left in
place. A flag is named once, and a sign to clear flags is followed by some. -/
def read (change : FlagChange) : List Char → Option (FlagChange × List Char)
  | [] => Option.none
  | c :: rest =>
    if c = ':' ∨ c = ')' then
      if change.clear = some [] then Option.none else some (change, c :: rest)
    else if c = '-' then
      if change.clear.isSome then Option.none else read { change with clear := some [] } rest
    else
      match Flag.ofChar? c with
      | some flag => if change.mentions flag then Option.none else read (change.add flag) rest
      | Option.none => Option.none

end FlagChange

end PacketDiversion.Pattern

import PacketDiversion.Text.Hex

/-!
# Session flags

A session is opened with a 64-bit set of flags. Six bits have names; the others are carried as they
are. Configuration lists flags by name, log lines write the set with `Flags.text`.
-/

namespace PacketDiversion

structure Flags where
  bits : UInt64
  deriving DecidableEq, Repr

namespace Flags

/-! ### The named flags -/

/-- Packets are copied instead of diverted. -/
def sniff : Flags := ⟨0x01⟩

/-- Matching packets are dropped without being handed out. -/
def drop : Flags := ⟨0x02⟩

/-- The session only receives. -/
def recvOnly : Flags := ⟨0x04⟩

/-- The session only injects. -/
def sendOnly : Flags := ⟨0x08⟩

/-- Opening fails instead of installing the driver's service. -/
def noInstall : Flags := ⟨0x10⟩

/-- Fragments are diverted as well. -/
def fragments : Flags := ⟨0x20⟩

/-- The named flags, in the order of their bits. -/
def named : List (String × Flags) :=
  [("SNIFF", sniff), ("DROP", drop), ("RECV_ONLY", recvOnly), ("SEND_ONLY", sendOnly),
    ("NO_INSTALL", noInstall), ("FRAGMENTS", fragments)]

/-! ### Sets -/

def none : Flags := ⟨0⟩

def union (a b : Flags) : Flags := ⟨a.bits ||| b.bits⟩

def inter (a b : Flags) : Flags := ⟨a.bits &&& b.bits⟩

def isEmpty (f : Flags) : Bool := f.bits == 0

def intersects (a b : Flags) : Bool := !(a.inter b).isEmpty

def contains (a b : Flags) : Bool := a.inter b == b

/-- The set of all named flags. -/
def allNamed : Flags := named.foldl (fun acc entry => acc.union entry.2) none

/-- The named flags of a set. -/
def truncate (f : Flags) : Flags := f.inter allNamed

/-- What is left of a set without its named flags. -/
def unnamed (f : Flags) : Flags := ⟨f.bits &&& ~~~allNamed.bits⟩

/-- A set of named flags only: `bits` unless one of them has no name. -/
def ofBits? (bits : UInt64) : Option Flags :=
  if (unnamed ⟨bits⟩).isEmpty then some ⟨bits⟩ else Option.none

/-- The flag that a name stands for; names are matched exactly. -/
def ofName? (s : String) : Option Flags := (named.find? fun entry => entry.1 == s).map Prod.snd

/-- The set of the flags that names stand for, or the first name that stands for none. -/
def ofNames : List String → Except String Flags
  | [] => .ok none
  | name :: rest =>
    match ofName? name with
    | some flag => (ofNames rest).map flag.union
    | Option.none => .error name

/-- The names of the flags in a set, in the order of their bits. -/
def names (f : Flags) : List String :=
  (named.filter fun entry => f.contains entry.2).map Prod.fst

/-- Sniffing, dropping and receive-only sessions never inject. -/
def passive : Flags := (sniff.union drop).union recvOnly

/-! ### Text -/

/-- The parts of a set's text: the names, then the bits without a name as one number. -/
def parts (f : Flags) : List String :=
  f.names ++ if f.unnamed.isEmpty then [] else [Text.hex f.unnamed.bits.toNat]

/-- The set as log lines write it: `Flags(SNIFF | 0x40)`, or `Flags(0x0)` when it is empty. -/
def text (f : Flags) : String :=
  let inner := if f.isEmpty then Text.hex 0 else String.intercalate " | " f.parts
  "Flags(" ++ inner ++ ")"

end Flags

end PacketDiversion

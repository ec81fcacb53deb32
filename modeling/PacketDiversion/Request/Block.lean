import PacketDiversion.Bytes
import PacketDiversion.Packet.Address
import PacketDiversion.Parameter
import PacketDiversion.Request.Code

/-!
# Request blocks

Every request carries a block of 16 bytes. Five kinds of request lay the same 16 bytes out in five
ways; each layout is a structure here, with `layOut` to write it and a view of the block to read
it. The layouts have no gaps, so any block can be read through any of them, and a block is
determined by each of its views.
-/

namespace PacketDiversion

/-- The 16 bytes of a request. -/
structure Block where
  bytes : Bytes
  length_bytes : bytes.length = 16
  deriving DecidableEq

namespace Block

/-- Bytes of a block. -/
def size : Nat := 16

/-! ### Fields of a block -/

/-- The little-endian word of `width` bytes at an offset. -/
def word (b : Block) (offset width : Nat) : Nat :=
  LittleEndian.decode ((b.bytes.drop offset).take width)

def word32 (b : Block) (offset : Nat) : UInt32 := UInt32.ofNat (b.word offset 4)

def word64 (b : Block) (offset : Nat) : UInt64 := UInt64.ofNat (b.word offset 8)

def bytes32 (w : UInt32) : Bytes := LittleEndian.encode 4 w.toNat

def bytes64 (w : UInt64) : Bytes := LittleEndian.encode 8 w.toNat

@[simp] theorem length_bytes32 (w : UInt32) : (bytes32 w).length = 4 := by simp [bytes32]

@[simp] theorem length_bytes64 (w : UInt64) : (bytes64 w).length = 8 := by simp [bytes64]

end Block

/-! ### The five layouts -/

structure RecvLayout where
  /-- Where the first address record goes. -/
  addresses : UInt64
  /-- Where the cell is that holds the record room in bytes, and afterwards the bytes filled. -/
  lengthCell : UInt64
  deriving DecidableEq, Repr

structure SendLayout where
  /-- Where the first address record is. -/
  addresses : UInt64
  /-- Bytes of all records. -/
  length : UInt64
  deriving DecidableEq, Repr

structure ShutdownLayout where
  direction : UInt32
  reserved₁ : UInt32
  reserved₂ : UInt32
  reserved₃ : UInt32
  deriving DecidableEq, Repr

/-- Layout of a request that reads a parameter; the value comes back in the block itself. -/
structure GetLayout where
  parameter : UInt32
  reserved : UInt32
  value : UInt64
  deriving DecidableEq, Repr

/-- Layout of a request that sets a parameter. -/
structure SetLayout where
  value : UInt64
  parameter : UInt32
  reserved : UInt32
  deriving DecidableEq, Repr

open Block

def RecvLayout.layOut (v : RecvLayout) : Block :=
  ⟨bytes64 v.addresses ++ bytes64 v.lengthCell, by simp⟩

def SendLayout.layOut (v : SendLayout) : Block :=
  ⟨bytes64 v.addresses ++ bytes64 v.length, by simp⟩

def ShutdownLayout.layOut (v : ShutdownLayout) : Block :=
  ⟨bytes32 v.direction ++ bytes32 v.reserved₁ ++ bytes32 v.reserved₂ ++ bytes32 v.reserved₃,
    by simp⟩

def GetLayout.layOut (v : GetLayout) : Block :=
  ⟨bytes32 v.parameter ++ bytes32 v.reserved ++ bytes64 v.value, by simp⟩

def SetLayout.layOut (v : SetLayout) : Block :=
  ⟨bytes64 v.value ++ bytes32 v.parameter ++ bytes32 v.reserved, by simp⟩

namespace Block

/-! ### Views -/

def recvView (b : Block) : RecvLayout := ⟨b.word64 0, b.word64 8⟩

def sendView (b : Block) : SendLayout := ⟨b.word64 0, b.word64 8⟩

def shutdownView (b : Block) : ShutdownLayout :=
  ⟨b.word32 0, b.word32 4, b.word32 8, b.word32 12⟩

def getView (b : Block) : GetLayout := ⟨b.word32 0, b.word32 4, b.word64 8⟩

def setView (b : Block) : SetLayout := ⟨b.word64 0, b.word32 8, b.word32 12⟩

/-! ### Requests -/

/-- A receive into records at one place with their length in a cell at another. -/
def recv (addresses lengthCell : UInt64) : Block := RecvLayout.layOut ⟨addresses, lengthCell⟩

/-- A send of `count` records; the block holds their length in bytes. -/
def send (addresses : UInt64) (count : Nat) : Block :=
  SendLayout.layOut ⟨addresses, UInt64.ofNat (count * Address.size)⟩

def shutdown (how : Direction) : Block := ShutdownLayout.layOut ⟨how.code, 0, 0, 0⟩

def getParameter (p : Parameter) : Block := GetLayout.layOut ⟨p.id, 0, 0⟩

def setParameter (p : Parameter) (value : UInt64) : Block := SetLayout.layOut ⟨value, p.id, 0⟩

/-! ### The value slot -/

/-- Offset of the value in a request for a parameter. -/
def valueOffset : Nat := 8

def valueSlot (b : Block) : Bytes := b.bytes.drop valueOffset

@[simp] theorem length_valueSlot (b : Block) : b.valueSlot.length = 8 := by
  simp [valueSlot, valueOffset, b.length_bytes]

/-- The block after bytes were written to the front of its value slot. -/
def writeSlot (b : Block) (written : Bytes) : Block :=
  ⟨b.bytes.take valueOffset ++ overlay b.valueSlot written, by
    simp [b.length_bytes, valueOffset]⟩

/-- The block after a word was stored in its value slot. -/
def storeValue (b : Block) (v : UInt64) : Block := b.writeSlot (bytes64 v)

/-- A block from 16 bytes. -/
def ofBytes? (bs : Bytes) : Option Block := if h : bs.length = 16 then some ⟨bs, h⟩ else none

end Block

end PacketDiversion

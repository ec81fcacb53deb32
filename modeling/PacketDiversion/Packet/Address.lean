import PacketDiversion.Bytes
import PacketDiversion.Selection.Layer

/-!
# Address records

One record of 80 bytes describes where a packet was met: a timestamp, a word of packed bits, a
reserved word and 64 bytes whose meaning depends on the layer. Sessions move records around
unread; the accessors serve log lines and callers that edit a record before injecting a packet.
-/

namespace PacketDiversion

/-- Metadata of one packet. -/
structure Address where
  /-- When the packet was met, in ticks of the performance counter. -/
  timestamp : Int64
  /-- Layer, event and flags, packed. -/
  bits : UInt32
  /-- Carried as it is. -/
  reserved : UInt32
  data : Bytes
  data_length : data.length = 64
  deriving DecidableEq

namespace Address

/-- Bytes of a record. -/
def size : Nat := 80

/-! ### Records and bytes -/

/-- The first 64 bytes of a string, filled up with zeros. -/
def padData (bs : Bytes) : Bytes := (bs ++ List.replicate 64 0).take 64

@[simp] theorem length_padData (bs : Bytes) : (padData bs).length = 64 := by
  simp [padData]

/-- A record from its parts; short data is filled up with zeros. -/
def make (timestamp : Int64) (bits reserved : UInt32) (data : Bytes) : Address :=
  ⟨timestamp, bits, reserved, padData data, length_padData data⟩

def zero : Address := make 0 0 0 []

instance : Inhabited Address := ⟨zero⟩

/-- The 80 bytes of a record. -/
def toBytes (a : Address) : Bytes :=
  LittleEndian.encode 8 a.timestamp.toUInt64.toNat ++ LittleEndian.encode 4 a.bits.toNat
    ++ LittleEndian.encode 4 a.reserved.toNat ++ a.data

/-- The record at the front of a byte string; missing bytes count as zeros. -/
def ofBytes (bs : Bytes) : Address :=
  make (UInt64.ofNat (LittleEndian.decode (bs.take 8))).toInt64
    (UInt32.ofNat (LittleEndian.decode ((bs.drop 8).take 4)))
    (UInt32.ofNat (LittleEndian.decode ((bs.drop 12).take 4))) (bs.drop 16)

@[simp] theorem length_toBytes (a : Address) : a.toBytes.length = size := by
  simp [toBytes, a.data_length, size]

/-! ### The packed bits -/

/-- Whether a bit of the packed word is set. -/
def testBit (a : Address) (mask : UInt32) : Bool := a.bits &&& mask != 0

/-- The record with the bits of `mask` set or cleared, and no other bit changed. -/
def setBit (a : Address) (mask : UInt32) (on : Bool) : Address :=
  { a with bits := if on then a.bits ||| mask else a.bits &&& ~~~mask }

/-- Set on a packet that was only copied. -/
def sniffedMask : UInt32 := 0x10000

/-- Set on a packet on its way out. -/
def outboundMask : UInt32 := 0x20000

/-- Set on loopback traffic. -/
def loopbackMask : UInt32 := 0x40000

/-- Set on a packet that another session injected. -/
def impostorMask : UInt32 := 0x80000

/-- Set on an IPv6 packet. -/
def ipv6Mask : UInt32 := 0x100000

/-- The three bits that say that a checksum (IP, TCP, UDP) is valid. -/
def checksumMask : UInt32 := 0xE00000

/-- The layer the packet was met on, if the driver knows it. -/
def layer (a : Address) : Option Layer := Layer.ofCode? (a.bits &&& 0xFF).toNat

/-- Code of the event; its meaning depends on the layer. -/
def event (a : Address) : UInt8 := ((a.bits >>> 8) &&& 0xFF).toUInt8

def sniffed (a : Address) : Bool := a.testBit sniffedMask

def outbound (a : Address) : Bool := a.testBit outboundMask

def loopback (a : Address) : Bool := a.testBit loopbackMask

def impostor (a : Address) : Bool := a.testBit impostorMask

def ipv6 (a : Address) : Bool := a.testBit ipv6Mask

/-- Whether every checksum that the packet carries is known to be valid. -/
def checksumsValid (a : Address) : Bool := a.bits &&& checksumMask == checksumMask

/-! ### Interface numbers -/

def interfaceIndex (a : Address) : UInt32 := UInt32.ofNat (LittleEndian.decode (a.data.take 4))

def subInterfaceIndex (a : Address) : UInt32 :=
  UInt32.ofNat (LittleEndian.decode ((a.data.drop 4).take 4))

/-! ### Edits -/

def setTimestamp (a : Address) (timestamp : Int64) : Address := { a with timestamp := timestamp }

/-- The record with the packet's direction turned out or in. -/
def setOutbound (a : Address) (on : Bool) : Address := a.setBit outboundMask on

/-- The record with other interface numbers; the rest of the layer's data stays. -/
def setInterface (a : Address) (index sub : UInt32) : Address :=
  { a with
    data := LittleEndian.encode 4 index.toNat ++ LittleEndian.encode 4 sub.toNat ++ a.data.drop 8
    data_length := by simp [a.data_length] }

/-! ### Text -/

/-- The fields that a description names, each with its text; the caller words the layer. -/
def fields (a : Address) (layerText : String) : List (String × String) :=
  [("timestamp", toString a.timestamp.toInt), ("layer", layerText),
    ("event", toString a.event.toNat), ("outbound", toString a.outbound),
    ("loopback", toString a.loopback), ("ipv6", toString a.ipv6),
    ("if_idx", toString a.interfaceIndex.toNat)]

/-- The record on one line; the closing dots stand for the fields that are not shown. -/
def description (a : Address) : String :=
  let layerText := match a.layer with
    | some l => s!"Some({l.title})"
    | none => "None"
  let shown := (a.fields layerText).map fun field => s!"{field.1}: {field.2}, "
  "Address \x7b " ++ String.join shown ++ ".. \x7d"

/-- The record with one field a line. -/
def outline (a : Address) : String :=
  let layerText := match a.layer with
    | some l => s!"Some(\n        {l.title},\n    )"
    | none => "None"
  let shown := (a.fields layerText).map fun field => s!"    {field.1}: {field.2},\n"
  "Address \x7b\n" ++ String.join shown ++ "    ..\n\x7d"

end Address

end PacketDiversion

/-!
# Request codes

The driver is spoken to through device-control requests. The code of a request packs the device
type, the access it needs, its function number and the way its buffers are passed.
-/

namespace PacketDiversion

namespace RequestCode

/-- How the buffers of a request are passed. -/
inductive Transfer
  /-- The output buffer is read by the driver. -/
  | directIn
  /-- The output buffer is written by the driver. -/
  | directOut
  deriving DecidableEq, Repr

/-- The two low bits of a code. -/
def Transfer.code : Transfer → UInt32
  | directIn => 1
  | directOut => 2

/-- Access that only reads. -/
def readAccess : UInt32 := 1

/-- Access that reads and writes. -/
def fullAccess : UInt32 := 3

/-- A code of the network device type. -/
def make (access function : UInt32) (transfer : Transfer) : UInt32 :=
  ((0x12 : UInt32) <<< 16) ||| (access <<< 14) ||| (function <<< 2) ||| transfer.code

def recv : UInt32 := make readAccess 0x923 .directOut

def send : UInt32 := make fullAccess 0x924 .directIn

def setParameter : UInt32 := make fullAccess 0x925 .directIn

def getParameter : UInt32 := make readAccess 0x926 .directOut

def shutdown : UInt32 := make fullAccess 0x927 .directIn

example :
    [recv, send, setParameter, getParameter, shutdown]
      = [0x12648E, 0x12E491, 0x12E495, 0x12649A, 0x12E49D] := by decide

end RequestCode

/-! ### Directions -/

/-- What a shutdown stops. -/
inductive Direction
  | recv
  | send
  | both
  deriving DecidableEq, Repr

namespace Direction

def all : List Direction := [recv, send, both]

def code : Direction → UInt32
  | recv => 1
  | send => 2
  | both => 3

def name : Direction → String
  | recv => "recv"
  | send => "send"
  | both => "both"

def ofName? (s : String) : Option Direction := all.find? fun d => d.name == s

end Direction

end PacketDiversion

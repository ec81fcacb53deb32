/-!
# Driver parameters

A session can read five parameters of its driver. Three of them tune the packet queue and can be
set within bounds; the other two report the driver's version and cannot.
-/

namespace PacketDiversion

inductive Parameter
  | queueLength
  | queueTime
  | queueSize
  | versionMajor
  | versionMinor
  deriving DecidableEq, Repr

/-- The values a tunable parameter takes, both ends included. -/
structure Bounds where
  min : UInt64
  max : UInt64
  deriving DecidableEq, Repr

def Bounds.Contains (b : Bounds) (v : UInt64) : Prop := b.min ≤ v ∧ v ≤ b.max

instance (b : Bounds) (v : UInt64) : Decidable (b.Contains v) :=
  inferInstanceAs (Decidable (_ ∧ _))

namespace Parameter

/-- Every parameter, in the order of the driver's numbers. -/
def all : List Parameter := [queueLength, queueTime, queueSize, versionMajor, versionMinor]

def id : Parameter → UInt32
  | queueLength => 0
  | queueTime => 1
  | queueSize => 2
  | versionMajor => 3
  | versionMinor => 4

def name : Parameter → String
  | queueLength => "queue_length"
  | queueTime => "queue_time"
  | queueSize => "queue_size"
  | versionMajor => "version_major"
  | versionMinor => "version_minor"

def ofName? (s : String) : Option Parameter := all.find? fun p => p.name == s

def title : Parameter → String
  | queueLength => "QueueLength"
  | queueTime => "QueueTime"
  | queueSize => "QueueSize"
  | versionMajor => "VersionMajor"
  | versionMinor => "VersionMinor"

/-- The values that may be set; version parameters have none. Lengths count packets, times are in
milliseconds and sizes in bytes. -/
def bounds : Parameter → Option Bounds
  | queueLength => some ⟨32, 16384⟩
  | queueTime => some ⟨100, 16000⟩
  | queueSize => some ⟨65535, 33554432⟩
  | versionMajor | versionMinor => none

/-- The value of a tunable parameter in a driver that nobody has tuned. -/
def default : Parameter → Option UInt64
  | queueLength => some 4096
  | queueTime => some 2000
  | queueSize => some 4194304
  | versionMajor | versionMinor => none

end Parameter

end PacketDiversion

/-!
# Relay options and statistics

What a relay is asked to do, and what it has done so far.
-/

namespace PacketDiversion.Relay

structure Options where
  /-- Address slots of a receive: the most packets that one request returns. -/
  batch : Nat
  /-- Bytes of the packet buffer. -/
  bufferSize : Nat
  /-- Whether received packets are injected again. -/
  reinject : Bool
  deriving DecidableEq, Repr

/-- What a relay has done, in counters of 64 bits. A counter that runs over goes on from zero. -/
structure Stats where
  /-- Receives that succeeded. -/
  batches : UInt64 := 0
  packets : UInt64 := 0
  bytes : UInt64 := 0
  reinjected : UInt64 := 0
  deriving DecidableEq, Repr

/-- The statistics after a receive of `count` packets and `read` bytes. -/
def Stats.received (s : Stats) (count read : Nat) : Stats :=
  { s with
    batches := s.batches + 1
    packets := s.packets + UInt64.ofNat count
    bytes := s.bytes + UInt64.ofNat read }

/-- The statistics after `count` packets were injected again. -/
def Stats.injected (s : Stats) (count : Nat) : Stats :=
  { s with reinjected := s.reinjected + UInt64.ofNat count }

def Stats.description (s : Stats) : String :=
  s!"RelayStats \x7b batches: {s.batches.toNat}, packets: {s.packets.toNat}, "
    ++ s!"bytes: {s.bytes.toNat}, reinjected: {s.reinjected.toNat} \x7d"

end PacketDiversion.Relay

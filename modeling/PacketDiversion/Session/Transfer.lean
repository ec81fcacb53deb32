import PacketDiversion.Session.Basic

/-!
# Receiving and sending

One packet or a batch of them, in one request. A batch may be issued on a context that the caller
brings; without one it is issued on the session's context for its direction.
-/

namespace PacketDiversion

/-- What a receive leaves behind: how it ended, and the caller's buffer and records after it. -/
structure Received (α : Type) where
  outcome : Outcome SessionError α
  buffer : Bytes
  records : List Address

/-- What a batch receive delivered. -/
structure Delivery where
  /-- Bytes of all packets. -/
  read : Nat
  /-- Records filled in. -/
  count : Nat
  deriving DecidableEq, Repr

/-- How an operation ends when its request ended with a verdict. -/
def Verdict.outcome (operation : Operation) : Verdict → Outcome SessionError UInt32
  | finished bytes => .ok bytes
  | failed e => .error (.host operation e)
  | panicked => .unwound .host

namespace Session

/-! ### Receiving -/

/-- Receives one packet into `buffer` and its record into `address`; the value is the number of
bytes received. -/
def recv (s : Session) (buffer : Bytes) (address : Address) :
    Program (Received Nat × Session) := do
  let request : Request :=
    { code := RequestCode.recv
      payload := .recv (UInt32.ofNat Address.size)
      outputLength := some (UInt32.ofNat buffer.length) }
  let ended ← s.receiving.issue s.handle request
    { output := buffer, records := [address], recordBytes := UInt32.ofNat Address.size }
  let outcome := (ended.verdict.outcome .recv).map UInt32.toNat
  return (⟨outcome, ended.memory.output, ended.memory.records⟩,
    { s with receiving := ended.context })

/-- The delivery of a request that ended with a verdict and left `recordBytes` in the length
cell. -/
def delivery (verdict : Verdict) (recordBytes : UInt32) : Outcome SessionError Delivery :=
  (verdict.outcome .recv).map fun bytes =>
    ⟨bytes.toNat, recordBytes.toNat / Address.size⟩

/-- Receives up to `records.length` packets, back to back in `buffer`. The request is issued on
`context`, or on the session's receiving context if there is none. -/
def recvBatch (s : Session) (buffer : Bytes) (records : List Address)
    (context : Option Context) : Program (Received Delivery × Session × Option Context) := do
  if records.isEmpty then
    return (⟨.error (.argument .noAddressSlot), buffer, records⟩, s, context)
  else
    let capacity := UInt32.ofNat (records.length * Address.size)
    let request : Request :=
      { code := RequestCode.recv
        payload := .recv capacity
        outputLength := some (UInt32.ofNat buffer.length) }
    let memory : Memory := { output := buffer, records := records, recordBytes := capacity }
    match context with
    | some own =>
      let ended ← own.issue s.handle request memory
      return (⟨delivery ended.verdict ended.memory.recordBytes, ended.memory.output,
        ended.memory.records⟩, s, some ended.context)
    | none =>
      let ended ← s.receiving.issue s.handle request memory
      return (⟨delivery ended.verdict ended.memory.recordBytes, ended.memory.output,
        ended.memory.records⟩, { s with receiving := ended.context }, none)

/-! ### Sending -/

/-- Injects one packet; the value is the number of bytes that the driver took. -/
def send (s : Session) (data : Bytes) (address : Address) :
    Program (Outcome SessionError Nat × Session) := do
  let request : Request :=
    { code := RequestCode.send
      payload := .send data (UInt64.ofNat Address.size) [address]
      outputLength := some (UInt32.ofNat data.length) }
  let ended ← s.sending.issue s.handle request {}
  return ((ended.verdict.outcome .send).map UInt32.toNat, { s with sending := ended.context })

/-- Injects a batch: `data` holds the packets back to back, `records` has one record for each. The
request is issued on `context`, or on the session's sending context if there is none. -/
def sendBatch (s : Session) (data : Bytes) (records : List Address) (context : Option Context) :
    Program (Outcome SessionError Nat × Session × Option Context) := do
  if records.isEmpty then
    return (.error (.argument .noAddress), s, context)
  else
    let request : Request :=
      { code := RequestCode.send
        payload := .send data (UInt64.ofNat (records.length * Address.size)) records
        outputLength := some (UInt32.ofNat data.length) }
    match context with
    | some own =>
      let ended ← own.issue s.handle request {}
      return ((ended.verdict.outcome .send).map UInt32.toNat, s, some ended.context)
    | none =>
      let ended ← s.sending.issue s.handle request {}
      return ((ended.verdict.outcome .send).map UInt32.toNat,
        { s with sending := ended.context }, none)

end Session

end PacketDiversion

import PacketDiversion.Session.Transfer

/-!
# The relay

A relay receives batches of packets and, if it is asked to, injects each of them again, until the
session has been shut down and has nothing left to deliver. A driver that never runs dry keeps a
relay busy for ever, so `run` takes the number of receives it may make; when they are used up the
relay is still `ongoing`.
-/

namespace PacketDiversion.Relay

/-- How a relay stands after some receives. -/
inductive Ending
  /-- The session's queue has run dry. -/
  | drained (stats : Stats)
  | failed (error : SessionError)
  | unwound (why : Panic)
  /-- The relay is still at work. -/
  | ongoing (stats : Stats)
  deriving DecidableEq, Repr

/-- What a relay carries from one receive to the next. -/
structure State where
  session : Session
  buffer : Bytes
  records : List Address
  stats : Stats

/-- A relay before its first receive. -/
def State.start (s : Session) (o : Options) : State :=
  ⟨s, List.replicate o.bufferSize 0, List.replicate o.batch Address.zero, {}⟩

/-- Reports every packet of a batch. -/
def reportPackets : List Address → Program Unit
  | [] => return ()
  | a :: rest => do
    Program.report (.packet a)
    reportPackets rest

inductive Step
  | over (ending : Ending) (session : Session)
  | next (state : State)

/-- Injects a batch again. A batch without packets, or a relay that does not inject, does
nothing. -/
def passOn (o : Options) (st : State) (got : Delivery) : Program Step := do
  if o.reinject ∧ got.count > 0 then
    if got.read > st.buffer.length then
      return .over (.unwound .overrun) st.session
    else
      let (outcome, session, _) ←
        st.session.sendBatch (st.buffer.take got.read) (st.records.take got.count) none
      match outcome with
      | .error e => return .over (.failed e) session
      | .unwound why => return .over (.unwound why) session
      | .ok written =>
        Program.report (.reinjected got.count written)
        return .next { st with session := session, stats := st.stats.injected got.count }
  else
    return .next st

/-- One receive, and the injection of what it delivered. -/
def round (o : Options) (st : State) : Program Step := do
  let (got, session, _) ← st.session.recvBatch st.buffer st.records none
  match got.outcome with
  | .unwound why => return .over (.unwound why) session
  | .error e =>
    if e.isDrained then
      Program.report (.relayDrained st.stats)
      return .over (.drained st.stats) session
    else
      return .over (.failed e) session
  | .ok delivery =>
    if delivery.count > got.records.length then
      return .over (.unwound .overrun) session
    else
      reportPackets (got.records.take delivery.count)
      passOn o ⟨session, got.buffer, got.records,
        st.stats.received delivery.count delivery.read⟩ delivery

/-- Up to a number of rounds. -/
def rounds (o : Options) : Nat → State → Program (Ending × Session)
  | 0, st => return (.ongoing st.stats, st.session)
  | limit + 1, st => do
    match ← round o st with
    | .over ending session => return (ending, session)
    | .next st => rounds o limit st

/-- Runs a relay on a session for at most `limit` receives. -/
def run (limit : Nat) (s : Session) (o : Options) : Program (Ending × Session) := do
  if o.batch = 0 ∨ o.bufferSize = 0 then
    return (.failed (.argument .emptyRelay), s)
  else
    Program.report (.relayStarted s.handle o)
    rounds o limit (.start s o)

end PacketDiversion.Relay

import PacketDiversion.Program

/-!
# Completion contexts

A request is issued on a context: an overlapped block together with the event that it owns. A
request that the driver does not finish at once is waited for, so a caller never sees one under way.
Sessions keep a context for each direction, callers may bring their own, and a single request can be
given a context that is thrown away afterwards.
-/

namespace PacketDiversion

structure Context where
  /-- The overlapped block; its event belongs to the context. -/
  overlapped : Overlapped
  deriving DecidableEq, Repr

/-- The caller's memory that a request lends to the driver until it is finished. -/
structure Memory where
  output : Bytes := []
  records : List Address := []
  recordBytes : UInt32 := 0
  deriving DecidableEq

/-- The memory after the driver wrote to it; nothing is written past the end of a part. -/
def Memory.absorb (m : Memory) (w : Written) : Memory where
  output := overlay m.output w.output
  records := overlay m.records w.records
  recordBytes := w.recordBytes.getD m.recordBytes

/-- The end of a request: how it ended, the context it was issued on, and the memory it was lent. -/
structure Issued where
  verdict : Verdict
  context : Context
  memory : Memory
  deriving DecidableEq

namespace Context

/-! ### The event -/

def create : Program (Except HostError Context) := do
  match ← Program.ask .createEvent with
  | .error e => return .error e
  | .ok event => return .ok ⟨.withEvent event⟩

/-- The context's event, or the null handle once it is released. -/
def event (c : Context) : Handle := c.overlapped.event

def withoutEvent (c : Context) : Context := ⟨{ c.overlapped with event := Handle.null }⟩

/-- Releases the event. Whatever the system answers, the context has no event afterwards, so only
the first release reaches the system. -/
def release (c : Context) : Program (Except HostError Unit × Context) := do
  if c.event = Handle.null then
    return (.ok (), c.withoutEvent)
  else
    let answer ← Program.ask (.closeHandle c.event)
    return (answer, c.withoutEvent)

/-- Lets the context go: its event is released if it still has one, and a failure is reported. -/
def drop (c : Context) : Program Unit := do
  match (← c.release).1 with
  | .ok () => return ()
  | .error e => Program.report (.eventKept e)

/-! ### Requests -/

/-- The context ready for the next request. -/
def prepare (c : Context) : Context := ⟨c.overlapped.reset⟩

def absorb (c : Context) (w : Written) : Context :=
  ⟨{ c.overlapped with words := w.words.getD c.overlapped.words }⟩

def awaitResult (c : Context) (handle : Handle) (code : UInt32) (m : Memory) : Program Issued := do
  Program.report (.pending code c.event)
  let done ← Program.ask (.result handle c.event true)
  let ended : Issued := ⟨done.verdict, c.absorb done.written, m.absorb done.written⟩
  match done.verdict with
  | .finished bytes =>
    Program.report (.finishedLater code bytes)
    return ended
  | .failed _ | .panicked => return ended

/-- Issues a request and sees it through: if the driver does not finish it at once, the context's
event is waited for. -/
def issue (c : Context) (handle : Handle) (request : Request) (m : Memory) : Program Issued := do
  let c := c.prepare
  let first ← Program.ask (.control handle request c.overlapped)
  let c := c.absorb first.written
  let m := m.absorb first.written
  match first.verdict with
  | .finished bytes =>
    Program.report (.finished request.code bytes)
    return ⟨first.verdict, c, m⟩
  | .failed e =>
    if e.isPending then c.awaitResult handle request.code m
    else return ⟨.failed e, c, m⟩
  | .panicked => return ⟨.panicked, c, m⟩

/-- Issues a request on a context of its own, which is thrown away whatever the outcome. A failure
to release the event is reported and never takes the place of the request's own result. -/
def issueOnce (handle : Handle) (request : Request) (m : Memory) : Program (Verdict × Memory) := do
  match ← create with
  | .error e => return (.failed e, m)
  | .ok c =>
    let ended ← c.issue handle request m
    match ended.verdict with
    | .panicked =>
      ended.context.drop
      return (.panicked, ended.memory)
    | verdict =>
      let (answer, c) ← ended.context.release
      if let .error e := answer then Program.report (.requestEventKept e)
      c.drop
      return (verdict, ended.memory)

end Context

end PacketDiversion

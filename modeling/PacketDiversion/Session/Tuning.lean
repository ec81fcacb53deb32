import PacketDiversion.Session.Transfer

/-!
# Tuning a session

Shutting a session down, and reading and setting the driver's parameters. Each is a single request
on a context of its own. A value is checked against its parameter's bounds before anything is asked
of the system.
-/

namespace PacketDiversion.Session

/-- Stops one direction of a session, or both, without releasing it. -/
def shutdown (s : Session) (how : Direction) : Program (Outcome SessionError Unit) := do
  let request : Request :=
    { code := RequestCode.shutdown, payload := .block (.shutdown how), outputLength := none }
  let (verdict, _) ← Context.issueOnce s.handle request {}
  match verdict.outcome .shutdown with
  | .ok _ =>
    Program.report (.shutDown s.handle how)
    return .ok ()
  | .error e => return .error e
  | .unwound why => return .unwound why

/-- Reads a parameter. The driver writes the value into the request block itself. -/
def getParameter (s : Session) (p : Parameter) : Program (Outcome SessionError UInt64) := do
  let block := Block.getParameter p
  let request : Request :=
    { code := RequestCode.getParameter
      payload := .block block
      outputLength := some (UInt32.ofNat block.valueSlot.length) }
  let (verdict, memory) ← Context.issueOnce s.handle request { output := block.valueSlot }
  match verdict.outcome .getParameter with
  | .ok _ =>
    let value := (block.writeSlot memory.output).getView.value
    Program.report (.parameterRead s.handle p value)
    return .ok value
  | .error e => return .error e
  | .unwound why => return .unwound why

/-- Sets a parameter to a value within its bounds. -/
def setParameter (s : Session) (p : Parameter) (value : UInt64) :
    Program (Outcome SessionError Unit) := do
  match p.check value with
  | .error e => return .error e
  | .ok () =>
    let request : Request :=
      { code := RequestCode.setParameter
        payload := .block (.setParameter p value)
        outputLength := none }
    let (verdict, _) ← Context.issueOnce s.handle request {}
    match verdict.outcome .setParameter with
    | .ok _ =>
      Program.report (.parameterSet s.handle p value)
      return .ok ()
    | .error e => return .error e
    | .unwound why => return .unwound why

/-- The driver's version as this session reports it; the first number that cannot be read decides
the error. -/
def version (s : Session) : Program (Outcome SessionError Version) := do
  match ← s.getParameter .versionMajor with
  | .error e => return .error e
  | .unwound why => return .unwound why
  | .ok major =>
    match ← s.getParameter .versionMinor with
    | .error e => return .error e
    | .unwound why => return .unwound why
    | .ok minor => return .ok ⟨major, minor⟩

end PacketDiversion.Session

import PacketDiversion.Context
import PacketDiversion.Outcome

/-!
# Sessions

A session owns a driver handle and two contexts, one for each direction, so that a receive and a
send never share an event. Opening fails closed: unless a whole session comes out of it, everything
that was created on the way is released again.
-/

namespace PacketDiversion

structure Session where
  handle : Handle
  /-- The context that receives are issued on. -/
  receiving : Context
  /-- The context that sends are issued on. -/
  sending : Context
  deriving DecidableEq, Repr

namespace Session

/-- Two fresh contexts. If the second cannot be had, the first is let go. -/
def createContexts : Program (Except HostError (Context × Context)) := do
  match ← Context.create with
  | .error e => return .error e
  | .ok first =>
    match ← Context.create with
    | .error e =>
      first.drop
      return .error e
    | .ok second => return .ok (first, second)

def openWith (entry : Entry) (filter : Filter) (layer : Layer) (priority : Int) (flags : Flags) :
    Program (Except SessionError Session) := do
  match ← Program.ask (.openSession entry filter layer priority flags) with
  | .error e => return .error (.host .openSession e)
  | .ok handle =>
    match ← createContexts with
    | .error e =>
      match ← Program.ask (.closeHandle handle) with
      | .ok () => return .error (.host .createEvent e)
      | .error kept =>
        Program.report (.handleKept handle kept)
        return .error (.host .createEvent e)
    | .ok (receiving, sending) =>
      Program.report (.opened handle layer priority flags filter)
      return .ok ⟨handle, receiving, sending⟩

/-- A context for the caller to keep. -/
def createContext : Program (Except SessionError Context) := do
  match ← Context.create with
  | .error e => return .error (.host .createEvent e)
  | .ok context => return .ok context

/-! ### Release -/

/-- Releases one of the session's contexts; a failure is reported. -/
def releaseContext (handle : Handle) (c : Context) : Program Context := do
  let (answer, c) ← c.release
  match answer with
  | .ok () => return c
  | .error e =>
    Program.report (.sessionEventKept handle e)
    return c

/-- Releases both events and then the driver handle. Failures of the events are reported and keep
nothing back; only the handle's own failure is an error. What was released once is not released
again. -/
def release (s : Session) : Program (Except SessionError Unit × Session) := do
  let receiving ← releaseContext s.handle s.receiving
  let sending ← releaseContext s.handle s.sending
  let released : Session := ⟨Handle.invalid, receiving, sending⟩
  if s.handle = Handle.invalid then
    return (.ok (), released)
  else
    match ← Program.ask (.closeHandle s.handle) with
    | .error e => return (.error (.host .close e), released)
    | .ok () =>
      Program.report (.closed s.handle)
      return (.ok (), released)

/-- Lets the session go: what it still owns is released, and a failure is reported. -/
def drop (s : Session) : Program Unit := do
  let (answer, s) ← s.release
  if let .error e := answer then Program.report (.closeFailed e)
  s.receiving.drop
  s.sending.drop

/-- Closes the session. It is gone afterwards, whatever the outcome. -/
def close (s : Session) : Program (Except SessionError Unit) := do
  let (answer, s) ← s.release
  s.drop
  return answer

end Session

end PacketDiversion

import PacketDiversion.Session.Tuning

/-!
# The version gate

Before the first session is opened, the gate asks whether this process may drive the installed
driver at all: it must not run under 32-bit emulation, the driver's library must load, and the
driver's version must be one that the library can talk to. An accepted driver is remembered in
`Driver.entry` and never asked again. A rejection is not remembered; it unwinds through the caller,
since no later request could be trusted.
-/

namespace PacketDiversion

/-- A driver and what the gate has found out about it. -/
structure Driver where
  /-- The open routine of the driver, once the gate has accepted it. -/
  entry : Option Entry := none
  deriving DecidableEq, Repr

/-- Reads the driver's version through a session that matches nothing. The session is closed
whether or not the version could be read; an error of the reading comes before one of the
closing. -/
def Entry.probeVersion (entry : Entry) : Program (Outcome SessionError Version) := do
  match ← Session.openWith entry .matchNothing .network Priority.default .none with
  | .error e => return .error e
  | .ok probe =>
    match ← probe.version with
    | .unwound why =>
      probe.drop
      return .unwound why
    | .error e =>
      let _ ← probe.close
      return .error e
    | .ok version =>
      match ← probe.close with
      | .error e => return .error e
      | .ok () =>
        Program.report (.probed version)
        return .ok version

namespace Driver

def isChecked (d : Driver) : Bool := d.entry.isSome

/-- Runs every step of the gate, without remembering its answer. -/
def check : Program (Outcome Rejection Entry) := do
  match ← Program.ask .queryEmulation with
  | .error e => return .error (.emulationUnknown e)
  | .ok true => return .error .emulated
  | .ok false =>
    match ← Program.ask .loadEntry with
    | .error e => return .error e
    | .ok entry =>
      match ← entry.probeVersion with
      | .unwound why => return .unwound why
      | .error e => return .error (.version e)
      | .ok version =>
        if version.isSupported then
          Program.report (.accepted version)
          return .ok entry
        else
          return .error (.unsupported version)

/-- The driver's open routine: the remembered one, or else the one of a gate that is run now. -/
def enter (d : Driver) : Program (Except Panic Entry × Driver) := do
  match d.entry with
  | some entry => return (.ok entry, d)
  | none =>
    match ← check with
    | .ok entry => return (.ok entry, ⟨some entry⟩)
    | .unwound why => return (.error why, d)
    | .error reason =>
      Program.report (.rejected reason)
      return (.error (.rejected reason), d)

/-- Opens a session. The priority and the filter are checked before the gate is run. -/
def openSession (d : Driver) (filter : String) (layer : Layer) (priority : Int) (flags : Flags) :
    Program (Outcome SessionError Session × Driver) := do
  match Priority.check priority with
  | .error e => return (.error e, d)
  | .ok () =>
    match Filter.parse filter with
    | .error nulAt => return (.error (.filter nulAt), d)
    | .ok filter =>
      match ← d.enter with
      | (.error why, d) => return (.unwound why, d)
      | (.ok entry, d) =>
        return (.ofExcept (← Session.openWith entry filter layer priority flags), d)

def version (d : Driver) : Program (Outcome SessionError Version × Driver) := do
  match ← d.enter with
  | (.error why, d) => return (.unwound why, d)
  | (.ok entry, d) => return (← entry.probeVersion, d)

end Driver

end PacketDiversion

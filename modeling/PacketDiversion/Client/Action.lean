import PacketDiversion.Client.Slots
import PacketDiversion.Gate
import PacketDiversion.Relay.Loop

/-!
# Clients

A client has one driver, sessions in numbered slots and contexts of its own in numbered slots. An
`Action` is one thing that it may do with them; `Client.step` does it, and `Client.leave` lets
everything go. Whatever a program does with the library is a sequence of actions, so a statement
about all uses of the library is a statement about all such sequences.
-/

namespace PacketDiversion

structure Client where
  driver : Driver := {}
  sessions : Slots Session := {}
  contexts : Slots Context := {}

inductive Action
  /-- Run the gate without remembering its answer. -/
  | check
  /-- Have the gate accept the driver, if it has not yet. -/
  | enter
  | isChecked
  /-- Read the driver's version through a session of its own. -/
  | driverVersion
  | openSession (slot : Nat) (filter : String) (layer : Layer) (priority : Int) (flags : Flags)
  | close (slot : Nat)
  /-- Let a session go unclosed. -/
  | drop (slot : Nat)
  | handle (slot : Nat)
  /-- Have a session create a context; one that was in its slot is let go. -/
  | createContext (slot context : Nat)
  | contextEvent (context : Nat)
  | releaseContext (context : Nat)
  | dropContext (context : Nat)
  | recv (slot : Nat) (buffer : Bytes) (address : Address)
  /-- Receive a batch, on a context if one is named. -/
  | recvBatch (slot : Nat) (buffer : Bytes) (records : List Address) (context : Option Nat)
  | send (slot : Nat) (data : Bytes) (address : Address)
  /-- Send a batch, on a context if one is named. -/
  | sendBatch (slot : Nat) (data : Bytes) (records : List Address) (context : Option Nat)
  | shutdown (slot : Nat) (how : Direction)
  | getParameter (slot : Nat) (parameter : Parameter)
  | setParameter (slot : Nat) (parameter : Parameter) (value : UInt64)
  /-- Read the driver's version through an open session. -/
  | version (slot : Nat)
  /-- Relay for at most `limit` receives. -/
  | relay (slot limit : Nat) (options : Relay.Options)
  /-- Issue a request by hand, on a context if one is named and else on one of its own. -/
  | control (handle : Handle) (code : UInt32) (block : Block) (output : Bytes)
      (context : Option Nat)

inductive Answer
  | nothing
  | truth (value : Bool)
  | handle (value : Handle)
  | version (value : Version)
  | parameter (value : UInt64)
  | sent (bytes : Nat)
  | received (read : Nat) (buffer : Bytes) (records : List Address)
  | delivered (delivery : Delivery) (buffer : Bytes) (records : List Address)
  | relayed (stats : Relay.Stats)
  | relaying (stats : Relay.Stats)
  | controlled (bytes : UInt32) (output : Bytes)

/-- An action that the client's slots do not allow. -/
inductive Misuse
  | noSession
  | noContext
  | slotInUse
  deriving DecidableEq, Repr

inductive Failure
  | session (error : SessionError)
  | gate (reason : Rejection)
  /-- The operating system failed a request or the release of an event. -/
  | host (error : HostError)
  | misuse (what : Misuse)
  deriving DecidableEq, Repr

namespace Client

/-- What an action comes to: its outcome, and the client after it. -/
abbrev Result := Outcome Failure Answer × Client

def refuse (c : Client) (what : Misuse) : Program Result :=
  return (.error (.misuse what), c)

def putSession (c : Client) (slot : Nat) (s : Session) : Client :=
  { c with sessions := c.sessions.set slot s }

def putContext (c : Client) (slot : Nat) (context : Context) : Client :=
  { c with contexts := c.contexts.set slot context }

/-- The client with a context back in its slot, if one was taken from there. -/
def putContext? (c : Client) (slot : Option Nat) (context : Option Context) : Client :=
  match slot, context with
  | some slot, some context => c.putContext slot context
  | _, _ => c

/-- The outcome of a session operation, as an action reports it. -/
def report {α : Type} (answer : α → Answer) (outcome : Outcome SessionError α) :
    Outcome Failure Answer :=
  (outcome.mapError .session).map answer

def withSession (c : Client) (slot : Nat) (act : Session → Program Result) : Program Result :=
  match c.sessions.get? slot with
  | none => c.refuse .noSession
  | some s => act s

def withContext (c : Client) (slot : Nat) (act : Context → Program Result) : Program Result :=
  match c.contexts.get? slot with
  | none => c.refuse .noContext
  | some context => act context

def withContext? (c : Client) (slot : Option Nat) (act : Option Context → Program Result) :
    Program Result :=
  match slot with
  | none => act none
  | some slot => c.withContext slot fun context => act (some context)

/-! ### Actions -/

def openSession (c : Client) (slot : Nat) (filter : String) (layer : Layer) (priority : Int)
    (flags : Flags) : Program Result :=
  match c.sessions.get? slot with
  | some _ => c.refuse .slotInUse
  | none => do
    let (outcome, driver) ← c.driver.openSession filter layer priority flags
    let c := { c with driver := driver }
    match outcome with
    | .ok s => return (.ok (.handle s.handle), c.putSession slot s)
    | .error e => return (.error (.session e), c)
    | .unwound why => return (.unwound why, c)

def createContext (c : Client) (context : Nat) : Program Result := do
  match ← Session.createContext with
  | .error e => return (.error (.session e), c)
  | .ok fresh =>
    if let some old := c.contexts.get? context then old.drop
    return (.ok (.handle fresh.event), c.putContext context fresh)

def relay (c : Client) (slot limit : Nat) (options : Relay.Options) (s : Session) :
    Program Result := do
  let (ending, s) ← Relay.run limit s options
  let c := c.putSession slot s
  match ending with
  | .drained stats => return (.ok (.relayed stats), c)
  | .ongoing stats => return (.ok (.relaying stats), c)
  | .failed e => return (.error (.session e), c)
  | .unwound why => return (.unwound why, c)

def controlOutcome (verdict : Verdict) (output : Bytes) : Outcome Failure Answer :=
  match verdict with
  | .finished bytes => .ok (.controlled bytes output)
  | .failed e => .error (.host e)
  | .panicked => .unwound .host

def control (c : Client) (handle : Handle) (code : UInt32) (block : Block) (output : Bytes)
    (context : Option Nat) : Program Result :=
  let request : Request :=
    { code := code
      payload := .block block
      outputLength := some (UInt32.ofNat output.length) }
  c.withContext? context fun
    | some own => do
      let ended ← own.issue handle request { output := output }
      return (controlOutcome ended.verdict ended.memory.output,
        c.putContext? context (some ended.context))
    | none => do
      let (verdict, memory) ← Context.issueOnce handle request { output := output }
      return (controlOutcome verdict memory.output, c)

def step (c : Client) : Action → Program Result
  | .check => do
    match ← Driver.check with
    | .ok _ => return (.ok .nothing, c)
    | .error reason => return (.error (.gate reason), c)
    | .unwound why => return (.unwound why, c)
  | .enter => do
    let (entered, driver) ← c.driver.enter
    let c := { c with driver := driver }
    match entered with
    | .ok _ => return (.ok .nothing, c)
    | .error why => return (.unwound why, c)
  | .isChecked => return (.ok (.truth c.driver.isChecked), c)
  | .driverVersion => do
    let (outcome, driver) ← c.driver.version
    return (report .version outcome, { c with driver := driver })
  | .openSession slot filter layer priority flags => c.openSession slot filter layer priority flags
  | .close slot => c.withSession slot fun s => do
    let answer ← s.close
    return (report (fun _ => .nothing) (.ofExcept answer),
      { c with sessions := c.sessions.erase slot })
  | .drop slot => c.withSession slot fun s => do
    s.drop
    return (.ok .nothing, { c with sessions := c.sessions.erase slot })
  | .handle slot => c.withSession slot fun s => return (.ok (.handle s.handle), c)
  | .createContext slot context => c.withSession slot fun _ => c.createContext context
  | .contextEvent context => c.withContext context fun own => return (.ok (.handle own.event), c)
  | .releaseContext context => c.withContext context fun own => do
    let (answer, own) ← own.release
    let c := c.putContext context own
    match answer with
    | .ok () => return (.ok (.handle own.event), c)
    | .error e => return (.error (.host e), c)
  | .dropContext context => c.withContext context fun own => do
    own.drop
    return (.ok .nothing, { c with contexts := c.contexts.erase context })
  | .recv slot buffer address => c.withSession slot fun s => do
    let (got, s) ← s.recv buffer address
    return (report (fun read => .received read got.buffer got.records) got.outcome,
      c.putSession slot s)
  | .recvBatch slot buffer records context => c.withSession slot fun s =>
    c.withContext? context fun own => do
      let (got, s, own) ← s.recvBatch buffer records own
      return (report (fun delivery => .delivered delivery got.buffer got.records) got.outcome,
        (c.putSession slot s).putContext? context own)
  | .send slot data address => c.withSession slot fun s => do
    let (outcome, s) ← s.send data address
    return (report .sent outcome, c.putSession slot s)
  | .sendBatch slot data records context => c.withSession slot fun s =>
    c.withContext? context fun own => do
      let (outcome, s, own) ← s.sendBatch data records own
      return (report .sent outcome, (c.putSession slot s).putContext? context own)
  | .shutdown slot how => c.withSession slot fun s => do
    return (report (fun _ => .nothing) (← s.shutdown how), c)
  | .getParameter slot p => c.withSession slot fun s => do
    return (report .parameter (← s.getParameter p), c)
  | .setParameter slot p value => c.withSession slot fun s => do
    return (report (fun _ => .nothing) (← s.setParameter p value), c)
  | .version slot => c.withSession slot fun s => do
    return (report .version (← s.version), c)
  | .relay slot limit options => c.withSession slot (c.relay slot limit options)
  | .control handle code block output context => c.control handle code block output context

def steps (c : Client) : List Action → Program (List (Outcome Failure Answer) × Client)
  | [] => return ([], c)
  | action :: rest => do
    let (outcome, c) ← c.step action
    let (outcomes, c) ← c.steps rest
    return (outcome :: outcomes, c)

def dropAll {α : Type} (drop : α → Program Unit) : List α → Program Unit
  | [] => return ()
  | value :: rest => do
    drop value
    dropAll drop rest

/-- Lets everything go: the sessions by their slots, then the contexts by theirs. -/
def leave (c : Client) : Program Unit := do
  dropAll Session.drop c.sessions.values
  dropAll Context.drop c.contexts.values

end Client

end PacketDiversion

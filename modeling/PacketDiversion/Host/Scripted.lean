import PacketDiversion.Program

/-!
# A scripted operating system

An operating system and driver in memory, for trying the library out. It hands out handles, keeps
the driver's parameters, delivers the packets that it was given, fails where its script says so and
keeps a journal of the calls it got. Requests are done at once; where the script says so, the caller
is told that they are pending and gets the byte count from the wait.
-/

namespace PacketDiversion.Scripted

/-! ### The script -/

/-- What a scripted failure can be attached to. -/
inductive Primitive
  | openSession
  | createEvent
  | closeSession
  | closeEvent
  | wait
  | recv
  | send
  | getParameter
  | setParameter
  | shutdown
  | other
  deriving DecidableEq, Repr

/-- What becomes of a call. -/
inductive Fate
  | success
  | failure (code : Int)
  | panic
  deriving DecidableEq, Repr

/-- A batch of packets to be received. -/
structure Batch where
  packets : List Bytes
  /-- Records to deliver with the first packets, in place of made-up ones. -/
  records : List Address := []
  /-- What to leave in the length cell, in place of the length of the records delivered. -/
  recordBytes : Option UInt32 := none
  /-- What to report as received, in place of the bytes delivered. -/
  bytes : Option UInt32 := none
  /-- Whether the receive is pending, in place of the system's own setting. -/
  pend : Option Bool := none

/-- What a receive meets. -/
inductive Arrival
  | failure (code : Int)
  | batch (b : Batch)

/-- A journal entry: a call with its reply, and what the system knew at that time. -/
structure Entry where
  event : Event
  /-- Whether a request was done but reported as pending. -/
  pended : Bool
  /-- Whether the handle that was released had been handed out for a session by then. -/
  closesSession : Bool

/-- A scripted operating system. -/
structure System where
  /-- Whether the process is emulated, or the error of asking. -/
  emulated : Except Int Bool := .ok false
  /-- Why the driver's library cannot be loaded, if it cannot. -/
  loadFailure : Option Rejection := none
  /-- Whether requests are reported as pending. -/
  pend : Bool := false
  /-- The driver's parameters by number; others read as zero. -/
  parameters : List (UInt32 × UInt64) := [(0, 4096), (1, 2000), (2, 4194304), (3, 2), (4, 2)]
  /-- What becomes of the next calls. -/
  fates : Primitive → List Fate := fun _ => []
  /-- The next handles to hand out. -/
  handles : List Handle := []
  /-- The handle to hand out when none is given. -/
  nextHandle : Handle := 0x104
  /-- What the next receives meet. -/
  arrivals : List Arrival := []
  /-- What the next sends report, in place of the bytes sent. -/
  sendReports : List UInt32 := []
  /-- Every handle that was ever handed out for a session. -/
  sessions : List Handle := []
  /-- Byte counts of finished requests that somebody still has to wait for, by event. -/
  finished : List (Handle × UInt32) := []
  /-- The calls so far, the latest first. -/
  journal : List Entry := []

namespace System

def setFates (s : System) (p : Primitive) (fates : List Fate) : System :=
  { s with fates := fun q => if q = p then fates else s.fates q }

def setParameter (s : System) (id : UInt32) (value : UInt64) : System :=
  { s with parameters := (id, value) :: s.parameters.filter fun entry => entry.1 != id }

def parameter (s : System) (id : UInt32) : UInt64 := (s.parameters.lookup id).getD 0

/-- Receives that can succeed, and one that finds nothing: no relay makes more. -/
def recvLimit (s : System) : Nat := s.arrivals.length + 1

/-- What becomes of the next call of a kind. -/
def takeFate (s : System) (p : Primitive) : Fate × System :=
  match s.fates p with
  | [] => (.success, s)
  | fate :: rest => (fate, s.setFates p rest)

def takeHandle (s : System) : Handle × System :=
  match s.handles with
  | handle :: rest => (handle, { s with handles := rest })
  | [] => (s.nextHandle, { s with nextHandle := s.nextHandle + 4 })

/-! ### Requests -/

/-- What a request comes to inside the driver. -/
structure Effect where
  /-- The bytes moved, or the error. -/
  result : Except Int UInt32
  /-- What was written for the caller. -/
  written : Written := {}
  /-- Whether the caller is told that the request is pending, where the request itself says so. -/
  pend : Option Bool := none

/-- The kind of a request. -/
def primitive (code : UInt32) : Primitive :=
  if code = RequestCode.recv then .recv
  else if code = RequestCode.send then .send
  else if code = RequestCode.getParameter then .getParameter
  else if code = RequestCode.setParameter then .setParameter
  else if code = RequestCode.shutdown then .shutdown
  else .other

/-- The record that is made up for the packet at a position of a batch. -/
def madeUpRecord (i : Nat) : Address :=
  ((Address.zero.setTimestamp (Int64.ofNat (i + 1))).setOutbound (i % 2 == 0)).setInterface 7
    (UInt32.ofNat i)

/-- The packets that can be delivered one behind the other into a room of some bytes, or nothing
if one of them does not fit. -/
def packed (room : Nat) (packets : List Bytes) : Option Bytes :=
  let data := packets.flatten
  if data.length ≤ room then some data else none

/-- Delivers a batch into room for `capacity` bytes of records and `room` bytes of packets. -/
def deliver (b : Batch) (capacity room : Nat) : Effect :=
  let packets := b.packets.take (capacity / Address.size)
  match packed room packets with
  | none => { result := .error 122 }
  | some data =>
    let records := (List.range packets.length).map fun i => b.records.getD i (madeUpRecord i)
    let cell := b.recordBytes.getD (UInt32.ofNat (packets.length * Address.size))
    { result := .ok (b.bytes.getD (UInt32.ofNat data.length))
      written := { output := data, records := records, recordBytes := some cell }
      pend := b.pend }

def recv (s : System) (capacity room : Nat) : Effect × System :=
  match s.arrivals with
  | [] => ({ result := .error 232 }, s)
  | .failure code :: rest => ({ result := .error code }, { s with arrivals := rest })
  | .batch b :: rest => (deliver b capacity room, { s with arrivals := rest })

def send (s : System) (length : Nat) : Effect × System :=
  match s.sendReports with
  | [] => ({ result := .ok (UInt32.ofNat length) }, s)
  | report :: rest => ({ result := .ok report }, { s with sendReports := rest })

def block (s : System) (p : Primitive) (b : Block) (room : Nat) : Effect × System :=
  match p with
  | .getParameter =>
    if room = 8 then
      ({ result := .ok 8
         written := { output := Block.bytes64 (s.parameter b.getView.parameter) } }, s)
    else ({ result := .error 87 }, s)
  | .setParameter => ({ result := .ok 0 }, s.setParameter b.setView.parameter b.setView.value)
  | .shutdown => ({ result := .ok 0 }, s)
  | _ => ({ result := .error 87 }, s)

def perform (s : System) (r : Request) : Effect × System :=
  let room := (r.outputLength.getD 0).toNat
  match r.payload with
  | .recv capacity => s.recv capacity.toNat room
  | .send .. => s.send room
  | .block b => s.block (primitive r.code) b room

/-- The words that the system leaves in the overlapped block of every request. -/
def usedWords : StatusWords := ⟨259, 77, 5, 6⟩

/-- A completion that leaves the system's words behind. -/
def complete (verdict : Verdict) (written : Written) : Completion :=
  ⟨verdict, { written with words := some usedWords }⟩

/-- Answers a request; the flag tells whether it was done but reported as pending. -/
def control (s : System) (r : Request) (event : Handle) : Completion × Bool × System :=
  let (fate, s) := s.takeFate (primitive r.code)
  match fate with
  | .panic => (complete .panicked {}, false, s)
  | .failure code => (complete (.failed (.code code)) {}, false, s)
  | .success =>
    let (effect, s) := s.perform r
    match effect.result with
    | .error code => (complete (.failed (.code code)) effect.written, false, s)
    | .ok bytes =>
      if effect.pend.getD s.pend then
        let finished := (event, bytes) :: s.finished.filter fun entry => entry.1 != event
        (complete (.failed (.code HostError.pendingCode)) effect.written, true,
          { s with finished := finished })
      else (complete (.finished bytes) effect.written, false, s)

def result (s : System) (event : Handle) : Completion × System :=
  let bytes := s.finished.lookup event
  let s := { s with finished := s.finished.filter fun entry => entry.1 != event }
  let (fate, s) := s.takeFate .wait
  match fate, bytes with
  | .failure code, _ => (⟨.failed (.code code), {}⟩, s)
  | _, none => (⟨.failed (.code 87), {}⟩, s)
  | _, some bytes => (⟨.finished bytes, {}⟩, s)

/-! ### Handles -/

/-- Opens a session or creates an event. -/
def create (s : System) (p : Primitive) : Except HostError Handle × System :=
  let (fate, s) := s.takeFate p
  match fate with
  | .failure code => (.error (.code code), s)
  | _ =>
    let (handle, s) := s.takeHandle
    (.ok handle, if p = .openSession then { s with sessions := handle :: s.sessions } else s)

/-- Whether a handle was ever handed out for a session. -/
def isSession (s : System) (handle : Handle) : Bool := s.sessions.contains handle

/-- Whether a call releases a handle that was ever handed out for a session. -/
def closesSession (s : System) : Call → Bool
  | .closeHandle handle => s.isSession handle
  | _ => false

def close (s : System) (handle : Handle) : Except HostError Unit × System :=
  let (fate, s) := s.takeFate (if s.isSession handle then .closeSession else .closeEvent)
  match fate with
  | .failure code => (.error (.code code), s)
  | _ => (.ok (), s)

/-! ### Calls -/

/-- Answers a call; the flag tells whether a request was done but reported as pending. -/
def reply (s : System) : (c : Call) → c.Reply × Bool × System
  | .queryEmulation => (s.emulated.mapError .code, false, s)
  | .loadEntry =>
    (match s.loadFailure with
      | some reason => .error reason
      | none => .ok ⟨0⟩, false, s)
  | .openSession .. =>
    let (answer, s) := s.create .openSession
    (answer, false, s)
  | .createEvent =>
    let (answer, s) := s.create .createEvent
    (answer, false, s)
  | .closeHandle handle =>
    let (answer, s) := s.close handle
    (answer, false, s)
  | .control _ request block => s.control request block.event
  | .result _ event _ =>
    let (completion, s) := s.result event
    (completion, false, s)

end System

/-- The system as a host: it answers a call and writes it into its journal. -/
def host : Program.Host System where
  answer c s :=
    let closesSession := s.closesSession c
    let (reply, pended, s) := s.reply c
    (reply, { s with journal := ⟨⟨c, reply⟩, pended, closesSession⟩ :: s.journal })

end PacketDiversion.Scripted

import PacketDiversion.Client.Action
import PacketDiversion.Proofs.Operations

/-!
# Uses of the library

A program uses the library if it calls the operations of its interface one after the other, each
chosen in the light of what the earlier ones have returned (`Usage`). Such a program sees every
request through (`Usage.composed`), and whatever a client does is of this kind (`usage_steps`). The
operations that do not ask for the driver's entry are called plain; an action that keeps to them
leaves the driver as it was (`Aside.driver_eq`).
-/

namespace PacketDiversion

open Program

/-- One call of the library's interface that does not ask for the driver's entry. -/
inductive Program.IsPlain : {α : Type} → Program α → Prop
  | check : IsPlain Driver.check
  | close (s : Session) : IsPlain s.close
  | drop (s : Session) : IsPlain s.drop
  | createContext : IsPlain Session.createContext
  | releaseContext (own : Context) : IsPlain own.release
  | dropContext (own : Context) : IsPlain own.drop
  | recv (s : Session) (buffer : Bytes) (address : Address) : IsPlain (s.recv buffer address)
  | recvBatch (s : Session) (buffer : Bytes) (records : List Address) (own : Option Context) :
    IsPlain (s.recvBatch buffer records own)
  | send (s : Session) (data : Bytes) (address : Address) : IsPlain (s.send data address)
  | sendBatch (s : Session) (data : Bytes) (records : List Address) (own : Option Context) :
    IsPlain (s.sendBatch data records own)
  | shutdown (s : Session) (how : Direction) : IsPlain (s.shutdown how)
  | getParameter (s : Session) (p : Parameter) : IsPlain (s.getParameter p)
  | setParameter (s : Session) (p : Parameter) (value : UInt64) : IsPlain (s.setParameter p value)
  | version (s : Session) : IsPlain s.version
  | relay (limit : Nat) (s : Session) (o : Relay.Options) : IsPlain (Relay.run limit s o)
  | issue (own : Context) (handle : Handle) (request : Request) (m : Memory) :
    IsPlain (own.issue handle request m)
  | issueOnce (handle : Handle) (request : Request) (m : Memory) :
    IsPlain (Context.issueOnce handle request m)

inductive Program.IsOperation : {α : Type} → Program α → Prop
  | plain {α : Type} {p : Program α} (hp : p.IsPlain) : IsOperation p
  | enter (d : Driver) : IsOperation d.enter
  | openSession (d : Driver) (filter : String) (layer : Layer) (priority : Int) (flags : Flags) :
    IsOperation (d.openSession filter layer priority flags)
  | version (d : Driver) : IsOperation d.version

/-- The program calls operations of the library, one after the other. -/
inductive Program.Usage {α : Type} : Program α → Prop
  | done (value : α) : Usage (done value)
  | operation {β : Type} {p : Program β} {next : β → Program α} (hp : p.IsOperation)
      (hnext : ∀ value, Usage (next value)) : Usage (p >>= next)

/-! ### The calls of an operation -/

namespace Program

variable {α β : Type}

theorem IsPlain.composed {p : Program α} (hp : p.IsPlain) : p.Composed Call.IsGate := by
  cases hp with
  | check => exact Driver.check_composed
  | close s => exact s.close_composed.gate
  | drop s => exact s.drop_composed.gate
  | createContext => exact Session.createContext_composed.gate
  | releaseContext own => exact own.release_composed.gate
  | dropContext own => exact own.drop_composed.gate
  | recv s buffer address => exact s.recv_composed buffer address
  | recvBatch s buffer records own => exact s.recvBatch_composed buffer records own
  | send s data address => exact s.send_composed data address
  | sendBatch s data records own => exact s.sendBatch_composed data records own
  | shutdown s how => exact (s.shutdown_composed how).gate
  | getParameter s p => exact (s.getParameter_composed p).gate
  | setParameter s p value => exact (s.setParameter_composed p value).gate
  | version s => exact s.version_composed.gate
  | relay limit s o => exact Relay.run_composed limit s o
  | issue own handle request m => exact .of_issue own handle request m
  | issueOnce handle request m => exact (Context.issueOnce_composed handle request m).gate

theorem Composed.seen {p : Program α} (hp : p.Composed Call.IsGate) :
    p.Composed fun c => ¬ c.IsRequest := hp.mono fun _ hc => hc.not_request

theorem openWith_seen (entry : Entry) (filter : Filter) (layer : Layer) (priority : Int)
    (flags : Flags) :
    (Session.openWith entry filter layer priority flags).Composed fun c => ¬ c.IsRequest := by
  obtain ⟨next, heq, hnext⟩ := Session.openWith_eq entry filter layer priority flags
  rw [heq]
  exact .ask_bind id fun reply => (hnext reply).gate.seen

theorem openSession_seen (d : Driver) (filter : String) (layer : Layer) (priority : Int)
    (flags : Flags) :
    (d.openSession filter layer priority flags).Composed fun c => ¬ c.IsRequest := by
  unfold Driver.openSession
  split
  · exact .done _
  · split
    · exact .done _
    · refine d.enter_composed.seen.bind fun r => ?_
      obtain ⟨why | entry, d⟩ := r
      · exact .done _
      · exact (openWith_seen _ _ _ _ _).bind fun _ => .done _

theorem version_seen (d : Driver) : d.version.Composed fun c => ¬ c.IsRequest := by
  refine d.enter_composed.seen.bind fun r => ?_
  obtain ⟨why | entry, d⟩ := r
  · exact .done _
  · refine (entry.probeVersion_composed.mono fun c hc => ?_).bind fun _ => .done _
    rcases hc with upkeep | probe
    · exact upkeep.not_request
    · exact probe.not_request

/-- An operation sees its requests through. -/
theorem IsOperation.composed {p : Program α} (hp : p.IsOperation) :
    p.Composed fun c => ¬ c.IsRequest := by
  cases hp with
  | plain hp => exact hp.composed.seen
  | enter d => exact d.enter_composed.seen
  | openSession d filter layer priority flags =>
    exact openSession_seen d filter layer priority flags
  | version d => exact version_seen d

namespace Usage

theorem bind {p : Program α} {f : α → Program β} (hp : p.Usage) (hf : ∀ value, (f value).Usage) :
    (p >>= f).Usage := by
  induction hp with
  | done value => exact hf value
  | operation hp hnext ih =>
    rw [bind_assoc]
    exact .operation hp ih

/-- So does a program that uses the library. -/
theorem composed {p : Program α} (hp : p.Usage) : p.Composed fun c => ¬ c.IsRequest := by
  induction hp with
  | done value => exact .done value
  | operation hp hnext ih => exact hp.composed.bind ih

end Usage

end Program

/-! ### Actions that do not enter -/

/-- An action that asks for the driver's entry. -/
def Action.Enters : Action → Prop
  | .enter | .driverVersion | .openSession .. => True
  | _ => False

namespace Client

/-- The program calls plain operations only, and leaves the driver as it was. -/
inductive Aside (c : Client) : Program Result → Prop
  | done {r : Result} (same : r.2.driver = c.driver) : Aside c (done r)
  | operation {β : Type} {p : Program β} {next : β → Program Result} (hp : p.IsPlain)
      (hnext : ∀ value, Aside c (next value)) : Aside c (p >>= next)

variable {c : Client}

theorem Aside.usage {p : Program Result} (h : c.Aside p) : p.Usage := by
  induction h with
  | done same => exact .done _
  | operation hp hnext ih => exact .operation (.plain hp) ih

theorem Aside.composed {p : Program Result} (h : c.Aside p) : p.Composed Call.IsGate := by
  induction h with
  | done same => exact .done _
  | operation hp hnext ih => exact hp.composed.bind ih

theorem Aside.driver_eq {p : Program Result} (h : c.Aside p) {events : List Event} {r : Result}
    (run : Runs p events r) : r.2.driver = c.driver := by
  induction h generalizing events with
  | done same =>
    obtain ⟨-, rfl⟩ := runs_done_iff.mp run
    exact same
  | operation hp hnext ih =>
    obtain ⟨value, before, after, -, -, later⟩ := runs_bind_iff.mp run
    exact ih value later

theorem aside_withSession (slot : Nat) {act : Session → Program Result}
    (h : ∀ s, c.Aside (act s)) : c.Aside (c.withSession slot act) := by
  unfold withSession
  split
  · exact .done rfl
  · exact h _

theorem aside_withContext (slot : Nat) {act : Context → Program Result}
    (h : ∀ own, c.Aside (act own)) : c.Aside (c.withContext slot act) := by
  unfold withContext
  split
  · exact .done rfl
  · exact h _

theorem aside_withContext? (slot : Option Nat) {act : Option Context → Program Result}
    (h : ∀ own, c.Aside (act own)) : c.Aside (c.withContext? slot act) := by
  cases slot with
  | none => exact h none
  | some slot => exact aside_withContext slot fun own => h (some own)

theorem driver_putContext? (c : Client) (slot : Option Nat) (own : Option Context) :
    (c.putContext? slot own).driver = c.driver := by
  unfold putContext?
  split <;> rfl

theorem aside_relay (slot limit : Nat) (o : Relay.Options) (s : Session) :
    c.Aside (c.relay slot limit o s) := by
  refine .operation (.relay limit s o) fun r => ?_
  obtain ⟨ending, t⟩ := r
  cases ending with
  | drained stats => exact .done rfl
  | ongoing stats => exact .done rfl
  | failed e => exact .done rfl
  | unwound why => exact .done rfl

theorem aside_createContext (context : Nat) : c.Aside (c.createContext context) := by
  refine .operation .createContext fun made => ?_
  cases made with
  | error e => exact .done rfl
  | ok fresh =>
    dsimp only
    split
    · exact .operation (.dropContext _) fun _ => .done rfl
    · exact .done rfl

theorem aside_control (handle : Handle) (code : UInt32) (block : Block) (output : Bytes)
    (context : Option Nat) : c.Aside (c.control handle code block output context) := by
  unfold control
  refine aside_withContext? context fun own => ?_
  cases own with
  | none => exact .operation (.issueOnce _ _ _) fun _ => .done rfl
  | some own => exact .operation (.issue _ _ _ _) fun _ => .done (driver_putContext? _ _ _)

theorem aside_step {a : Action} (ha : ¬ a.Enters) : c.Aside (c.step a) := by
  cases a with
  | check =>
    refine .operation .check fun verdict => ?_
    cases verdict with
    | ok e => exact .done rfl
    | error reason => exact .done rfl
    | unwound why => exact .done rfl
  | enter => exact absurd trivial ha
  | isChecked => exact .done rfl
  | driverVersion => exact absurd trivial ha
  | openSession slot filter layer priority flags => exact absurd trivial ha
  | close slot => exact aside_withSession slot fun s => .operation (.close s) fun _ => .done rfl
  | drop slot => exact aside_withSession slot fun s => .operation (.drop s) fun _ => .done rfl
  | handle slot => exact aside_withSession slot fun s => .done rfl
  | createContext slot context => exact aside_withSession slot fun _ => aside_createContext context
  | contextEvent context => exact aside_withContext context fun own => .done rfl
  | releaseContext context =>
    refine aside_withContext context fun own => .operation (.releaseContext own) fun r => ?_
    obtain ⟨answer, rest⟩ := r
    cases answer with
    | error e => exact .done rfl
    | ok _ => exact .done rfl
  | dropContext context =>
    exact aside_withContext context fun own => .operation (.dropContext own) fun _ => .done rfl
  | recv slot buffer address =>
    exact aside_withSession slot fun s => .operation (.recv s _ _) fun _ => .done rfl
  | recvBatch slot buffer records context =>
    exact aside_withSession slot fun s => aside_withContext? context fun own =>
      .operation (.recvBatch s _ _ _) fun _ => .done (driver_putContext? _ _ _)
  | send slot data address =>
    exact aside_withSession slot fun s => .operation (.send s _ _) fun _ => .done rfl
  | sendBatch slot data records context =>
    exact aside_withSession slot fun s => aside_withContext? context fun own =>
      .operation (.sendBatch s _ _ _) fun _ => .done (driver_putContext? _ _ _)
  | shutdown slot how =>
    exact aside_withSession slot fun s => .operation (.shutdown s _) fun _ => .done rfl
  | getParameter slot p =>
    exact aside_withSession slot fun s => .operation (.getParameter s _) fun _ => .done rfl
  | setParameter slot p value =>
    exact aside_withSession slot fun s => .operation (.setParameter s _ _) fun _ => .done rfl
  | version slot => exact aside_withSession slot fun s => .operation (.version s) fun _ => .done rfl
  | relay slot limit options => exact aside_withSession slot fun s => aside_relay slot limit _ s
  | control handle code block output context => exact aside_control handle code block output context

/-! ### Every action -/

theorem usage_openSession (slot : Nat) (filter : String) (layer : Layer) (priority : Int)
    (flags : Flags) : (c.openSession slot filter layer priority flags).Usage := by
  unfold openSession
  split
  · exact .done _
  · refine .operation (.openSession _ _ _ _ _) fun r => ?_
    obtain ⟨outcome, driver⟩ := r
    cases outcome with
    | ok s => exact .done _
    | error e => exact .done _
    | unwound why => exact .done _

theorem usage_enter : (c.step .enter).Usage := by
  refine .operation (.enter _) fun r => ?_
  obtain ⟨entered, driver⟩ := r
  cases entered with
  | ok e => exact .done _
  | error why => exact .done _

theorem usage_step (a : Action) : (c.step a).Usage := by
  by_cases enters : a.Enters
  · cases a with
    | enter => exact usage_enter
    | driverVersion => exact .operation (.version _) fun _ => .done _
    | openSession slot filter layer priority flags =>
      exact usage_openSession slot filter layer priority flags
    | _ => exact absurd enters id
  · exact (aside_step enters).usage

/-- Whatever a client does is a use of the library. -/
theorem usage_steps (actions : List Action) : (c.steps actions).Usage := by
  induction actions generalizing c with
  | nil => exact .done _
  | cons a rest ih => exact (usage_step a).bind fun r => ih.bind fun _ => .done _

end Client

end PacketDiversion

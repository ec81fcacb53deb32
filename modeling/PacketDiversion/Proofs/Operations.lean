import PacketDiversion.Gate
import PacketDiversion.Proofs.Exchange
import PacketDiversion.Relay.Loop

/-!
# What the operations are made of

Every operation of the library is put together from notices, from calls that the system answers at
once, and from requests that are seen through on a context. `Composed Q` says so of a program, with
a condition `Q` on the calls of the second kind. From it follows which calls a program can make at
all (`Composed.call_mem`).
-/

namespace PacketDiversion

open Program

/-! ### Kinds of calls -/

/-- A call that issues a request, or waits for one. -/
def Call.IsRequest : Call → Prop
  | .control .. | .result .. => True
  | _ => False

/-- A call that creates an event or releases a handle. -/
def Call.IsUpkeep : Call → Prop
  | .createEvent | .closeHandle _ => True
  | _ => False

/-- A call that opens a session as the gate does: one that matches nothing, on the network layer,
with the default priority and without flags. -/
def Call.IsProbe : Call → Prop
  | .openSession _ filter layer priority flags =>
    filter = .matchNothing ∧ layer = .network ∧ priority = 0 ∧ flags = .none
  | _ => False

/-- A call that the gate makes besides its requests. -/
def Call.IsGate (c : Call) : Prop :=
  c.IsUpkeep ∨ c = .queryEmulation ∨ c = .loadEntry ∨ c.IsProbe

theorem Call.IsUpkeep.not_request {c : Call} (h : c.IsUpkeep) : ¬ c.IsRequest := by
  cases c with
  | createEvent => exact id
  | closeHandle handle => exact id
  | _ => exact absurd h id

theorem Call.IsProbe.not_request {c : Call} (h : c.IsProbe) : ¬ c.IsRequest := by
  cases c with
  | openSession entry filter layer priority flags => exact id
  | _ => exact absurd h id

theorem Call.IsGate.not_request {c : Call} (h : c.IsGate) : ¬ c.IsRequest := by
  rcases h with upkeep | rfl | rfl | probe
  · exact upkeep.not_request
  · exact id
  · exact id
  · exact probe.not_request

/-! ### Composition -/

/-- The program is made of notices, of calls with a condition, and of requests on contexts. -/
inductive Program.Composed (Q : Call → Prop) {α : Type} : Program α → Prop
  | done (value : α) : Composed Q (done value)
  | note (n : Notice) {rest : Program α} (hrest : Composed Q rest) : Composed Q (note n rest)
  | call {c : Call} {next : c.Reply → Program α} (hc : Q c)
      (hnext : ∀ reply, Composed Q (next reply)) : Composed Q (call c next)
  | issue (own : Context) (handle : Handle) (request : Request) (m : Memory)
      {next : Issued → Program α} (hnext : ∀ ended, Composed Q (next ended)) :
      Composed Q (own.issue handle request m >>= next)

namespace Program.Composed

variable {α β : Type} {Q Q' : Call → Prop}

theorem bind {p : Program α} {f : α → Program β} (hp : p.Composed Q)
    (hf : ∀ value, (f value).Composed Q) : (p >>= f).Composed Q := by
  induction hp with
  | done value => exact hf value
  | note n hrest ih => exact .note n ih
  | call hc hnext ih => exact .call hc ih
  | issue own handle request m hnext ih =>
    rw [bind_assoc]
    exact .issue own handle request m ih

theorem mono {p : Program α} (hp : p.Composed Q) (weaker : ∀ c, Q c → Q' c) :
    p.Composed Q' := by
  induction hp with
  | done value => exact .done value
  | note n hrest ih => exact .note n ih
  | call hc hnext ih => exact .call (weaker _ hc) ih
  | issue own handle request m hnext ih => exact .issue own handle request m ih

theorem ask_bind {c : Call} {f : c.Reply → Program α} (hc : Q c)
    (hf : ∀ reply, (f reply).Composed Q) : (ask c >>= f).Composed Q := .call hc hf

theorem gate {p : Program α} (hp : p.Composed Call.IsUpkeep) : p.Composed Call.IsGate :=
  hp.mono fun _ => .inl

theorem report_bind (n : Notice) {f : Unit → Program α} (hf : (f ()).Composed Q) :
    (report n >>= f).Composed Q := .note n hf

theorem of_issue (own : Context) (handle : Handle) (request : Request) (m : Memory) :
    (own.issue handle request m).Composed Q := by
  rw [← bind_done (own.issue handle request m)]
  exact .issue own handle request m fun ended => .done ended

/-- The calls of such a program meet the condition, or belong to its requests. -/
theorem call_mem {p : Program α} (hp : p.Composed Q) {events : List Event} {value : α}
    (run : Runs p events value) {e : Event} (he : e ∈ events) : Q e.call ∨ e.call.IsRequest := by
  induction hp generalizing events value with
  | done result =>
    obtain ⟨rfl, -⟩ := runs_done_iff.mp run
    cases he
  | note n hrest ih => exact ih (runs_note_iff.mp run) he
  | call hc hnext ih =>
    obtain ⟨reply, rest, rfl, later⟩ := runs_call_iff.mp run
    rcases List.mem_cons.mp he with rfl | he
    · exact .inl hc
    · exact ih reply later he
  | issue own handle request m hnext ih =>
    obtain ⟨ended, before, after, rfl, issued, later⟩ := runs_bind_iff.mp run
    obtain ⟨done, exchange, -⟩ := exchange_of_runs issued
    rcases List.mem_append.mp he with he | he
    · cases exchange with
      | atOnce hpending =>
        obtain rfl := List.mem_singleton.mp he
        exact .inr trivial
      | later hpending =>
        rcases List.mem_cons.mp he with rfl | he
        · exact .inr trivial
        · obtain rfl := List.mem_singleton.mp he
          exact .inr trivial
    · exact ih ended later he

/-- A wait comes right after the request that it waits for, on the same handle and event. -/
theorem wait_follows {p : Program α} (hp : p.Composed fun c => ¬ c.IsRequest)
    {events before rest : List Event} {value : α} (run : Runs p events value)
    {h event : Handle} {wait : Bool} {reply : Completion}
    (heq : events = before ++ ⟨.result h event wait, reply⟩ :: rest) :
    ∃ front request block taken, before = front ++ [⟨.control h request block, taken⟩]
      ∧ block.event = event := by
  induction hp generalizing events before value with
  | done result =>
    obtain ⟨rfl, -⟩ := runs_done_iff.mp run
    simp at heq
  | note n hrest ih => exact ih (runs_note_iff.mp run) heq
  | call hc hnext ih =>
    obtain ⟨answer, events, rfl, later⟩ := runs_call_iff.mp run
    cases before with
    | nil =>
      cases heq
      exact absurd trivial hc
    | cons first before =>
      obtain ⟨rfl, htail⟩ := List.cons.inj heq
      obtain ⟨front, request, block, taken, rfl, hevent⟩ := ih answer later htail
      exact ⟨_ :: front, request, block, taken, rfl, hevent⟩
  | issue own handle request m hnext ih =>
    obtain ⟨ended, mine, events, rfl, issued, later⟩ := runs_bind_iff.mp run
    obtain ⟨done, exchange, -⟩ := exchange_of_runs issued
    cases exchange with
    | atOnce hpending =>
      cases before with
      | nil => cases heq
      | cons first before =>
        obtain ⟨rfl, htail⟩ := List.cons.inj heq
        obtain ⟨front, request', block, taken, rfl, hevent⟩ := ih ended later htail
        exact ⟨_ :: front, request', block, taken, rfl, hevent⟩
    | later hpending =>
      match before with
      | [] => cases heq
      | [first] =>
        obtain ⟨rfl, htail⟩ := List.cons.inj heq
        cases htail
        exact ⟨[], request, _, _, rfl, rfl⟩
      | first :: second :: before =>
        obtain ⟨rfl, htail⟩ := List.cons.inj heq
        obtain ⟨rfl, hlast⟩ := List.cons.inj htail
        obtain ⟨front, request', block, taken, rfl, hevent⟩ := ih ended later hlast
        exact ⟨_ :: _ :: front, request', block, taken, rfl, hevent⟩

end Program.Composed

open Composed

/-! ### Contexts -/

namespace Context

theorem create_composed : create.Composed Call.IsUpkeep := by
  refine ask_bind trivial fun reply => ?_
  cases reply with
  | error e => exact .done _
  | ok event => exact .done _

theorem release_composed (c : Context) : c.release.Composed Call.IsUpkeep := by
  unfold release
  split
  · exact .done _
  · exact ask_bind trivial fun answer => .done _

theorem drop_composed (c : Context) : c.drop.Composed Call.IsUpkeep := by
  refine c.release_composed.bind fun r => ?_
  split
  · exact .done _
  · exact report_bind _ (.done _)

theorem issueOnce_composed (handle : Handle) (request : Request) (m : Memory) :
    (issueOnce handle request m).Composed Call.IsUpkeep := by
  refine create_composed.bind fun made => ?_
  cases made with
  | error e => exact .done _
  | ok c =>
    refine .issue c handle request m fun ended => ?_
    split
    · exact ended.context.drop_composed.bind fun _ => .done _
    · refine ended.context.release_composed.bind fun r => ?_
      obtain ⟨answer, own⟩ := r
      cases answer with
      | error e => exact report_bind _ (own.drop_composed.bind fun _ => .done _)
      | ok _ => exact own.drop_composed.bind fun _ => .done _

end Context

/-! ### Sessions -/

namespace Session

theorem createContexts_composed : createContexts.Composed Call.IsUpkeep := by
  refine Context.create_composed.bind fun first => ?_
  cases first with
  | error e => exact .done _
  | ok first =>
    refine Context.create_composed.bind fun second => ?_
    cases second with
    | error e => exact first.drop_composed.bind fun _ => .done _
    | ok second => exact .done _

/-- Opening is one call to open, and upkeep after it. -/
theorem openWith_eq (entry : Entry) (filter : Filter) (layer : Layer) (priority : Int)
    (flags : Flags) :
    ∃ next, openWith entry filter layer priority flags
        = (ask (.openSession entry filter layer priority flags) >>= next)
      ∧ ∀ reply, (next reply).Composed Call.IsUpkeep := by
  refine ⟨_, rfl, fun reply => ?_⟩
  cases reply with
  | error e => exact .done _
  | ok handle =>
    refine createContexts_composed.bind fun made => ?_
    cases made with
    | error e =>
      refine ask_bind trivial fun answer => ?_
      cases answer with
      | error kept => exact report_bind _ (.done _)
      | ok _ => exact .done _
    | ok pair => exact report_bind _ (.done _)

theorem openWith_composed (entry : Entry) (filter : Filter) (layer : Layer) (priority : Int)
    (flags : Flags) :
    (openWith entry filter layer priority flags).Composed fun c =>
      c.IsUpkeep ∨ c = .openSession entry filter layer priority flags := by
  obtain ⟨next, heq, hnext⟩ := openWith_eq entry filter layer priority flags
  rw [heq]
  exact ask_bind (.inr rfl) fun reply => (hnext reply).mono fun _ => .inl

theorem createContext_composed : createContext.Composed Call.IsUpkeep := by
  refine Context.create_composed.bind fun made => ?_
  cases made with
  | error e => exact .done _
  | ok c => exact .done _

theorem releaseContext_composed (handle : Handle) (c : Context) :
    (releaseContext handle c).Composed Call.IsUpkeep := by
  refine c.release_composed.bind fun r => ?_
  obtain ⟨answer, rest⟩ := r
  cases answer with
  | error e => exact report_bind _ (.done _)
  | ok _ => exact .done _

theorem release_composed (s : Session) : s.release.Composed Call.IsUpkeep := by
  refine (releaseContext_composed s.handle s.receiving).bind fun receiving => ?_
  refine (releaseContext_composed s.handle s.sending).bind fun sending => ?_
  dsimp only
  split
  · exact .done _
  · refine ask_bind trivial fun answer => ?_
    cases answer with
    | error e => exact .done _
    | ok _ => exact report_bind _ (.done _)

theorem drop_composed (s : Session) : s.drop.Composed Call.IsUpkeep := by
  refine s.release_composed.bind fun r => ?_
  obtain ⟨answer, rest⟩ := r
  have hrest : (rest.receiving.drop >>= fun _ => rest.sending.drop).Composed Call.IsUpkeep :=
    rest.receiving.drop_composed.bind fun _ => rest.sending.drop_composed
  cases answer with
  | error e => exact report_bind _ hrest
  | ok _ => exact hrest

theorem close_composed (s : Session) : s.close.Composed Call.IsUpkeep :=
  s.release_composed.bind fun r => r.2.drop_composed.bind fun _ => .done _

/-! #### Requests, and nothing else -/

section Transfers

variable {Q : Call → Prop}

theorem recv_composed (s : Session) (buffer : Bytes) (address : Address) :
    (s.recv buffer address).Composed Q :=
  .issue _ _ _ _ fun _ => .done _

theorem send_composed (s : Session) (data : Bytes) (address : Address) :
    (s.send data address).Composed Q :=
  .issue _ _ _ _ fun _ => .done _

theorem recvBatch_composed (s : Session) (buffer : Bytes) (records : List Address)
    (context : Option Context) : (s.recvBatch buffer records context).Composed Q := by
  unfold recvBatch
  split
  · exact .done _
  · cases context with
    | none => exact .issue _ _ _ _ fun _ => .done _
    | some own => exact .issue _ _ _ _ fun _ => .done _

theorem sendBatch_composed (s : Session) (data : Bytes) (records : List Address)
    (context : Option Context) : (s.sendBatch data records context).Composed Q := by
  unfold sendBatch
  split
  · exact .done _
  · cases context with
    | none => exact .issue _ _ _ _ fun _ => .done _
    | some own => exact .issue _ _ _ _ fun _ => .done _

end Transfers

/-! #### Requests on contexts of their own -/

theorem shutdown_composed (s : Session) (how : Direction) :
    (s.shutdown how).Composed Call.IsUpkeep := by
  refine (Context.issueOnce_composed _ _ _).bind fun r => ?_
  dsimp only
  split
  · exact report_bind _ (.done _)
  · exact .done _
  · exact .done _

theorem getParameter_composed (s : Session) (p : Parameter) :
    (s.getParameter p).Composed Call.IsUpkeep := by
  refine (Context.issueOnce_composed _ _ _).bind fun r => ?_
  dsimp only
  split
  · exact report_bind _ (.done _)
  · exact .done _
  · exact .done _

theorem setParameter_composed (s : Session) (p : Parameter) (value : UInt64) :
    (s.setParameter p value).Composed Call.IsUpkeep := by
  unfold setParameter
  split
  · exact .done _
  · refine (Context.issueOnce_composed _ _ _).bind fun r => ?_
    dsimp only
    split
    · exact report_bind _ (.done _)
    · exact .done _
    · exact .done _

theorem version_composed (s : Session) : s.version.Composed Call.IsUpkeep := by
  refine (s.getParameter_composed _).bind fun major => ?_
  cases major with
  | error e => exact .done _
  | unwound why => exact .done _
  | ok major =>
    refine (s.getParameter_composed _).bind fun minor => ?_
    cases minor with
    | error e => exact .done _
    | unwound why => exact .done _
    | ok minor => exact .done _

end Session

/-! ### Relays -/

namespace Relay

variable {Q : Call → Prop}

theorem reportPackets_composed (records : List Address) :
    (reportPackets records).Composed Q := by
  induction records with
  | nil => exact .done _
  | cons a rest ih => exact report_bind _ ih

theorem passOn_composed (o : Options) (st : State) (got : Delivery) :
    (passOn o st got).Composed Q := by
  unfold passOn
  split
  · split
    · exact .done _
    · refine (Session.sendBatch_composed _ _ _ _).bind fun r => ?_
      obtain ⟨outcome, session, rest⟩ := r
      cases outcome with
      | error e => exact .done _
      | unwound why => exact .done _
      | ok written => exact report_bind _ (.done _)
  · exact .done _

theorem round_composed (o : Options) (st : State) : (round o st).Composed Q := by
  refine (Session.recvBatch_composed _ _ _ _).bind fun r => ?_
  obtain ⟨got, session, rest⟩ := r
  dsimp only
  split
  · exact .done _
  · split
    · exact report_bind _ (.done _)
    · exact .done _
  · split
    · exact .done _
    · exact (reportPackets_composed _).bind fun _ => passOn_composed o _ _

theorem rounds_composed (o : Options) (limit : Nat) (st : State) :
    (rounds o limit st).Composed Q := by
  induction limit generalizing st with
  | zero => exact .done _
  | succ limit ih =>
    refine (round_composed o st).bind fun step => ?_
    rcases step with ⟨ending, session⟩ | ⟨st⟩
    · exact .done _
    · exact ih st

theorem run_composed (limit : Nat) (s : Session) (o : Options) :
    (run limit s o).Composed Q := by
  unfold run
  split
  · exact .done _
  · exact report_bind _ (rounds_composed o limit _)

end Relay

/-! ### The gate -/

theorem Entry.probeVersion_composed (entry : Entry) :
    entry.probeVersion.Composed fun c => c.IsUpkeep ∨ c.IsProbe := by
  refine ((Session.openWith_composed _ _ _ _ _).mono ?_).bind fun opened => ?_
  · intro c hc
    rcases hc with hc | rfl
    · exact .inl hc
    · exact .inr ⟨rfl, rfl, rfl, rfl⟩
  · cases opened with
    | error e => exact .done _
    | ok probe =>
      refine (probe.version_composed.mono fun _ => .inl).bind fun version => ?_
      cases version with
      | unwound why => exact (probe.drop_composed.mono fun _ => .inl).bind fun _ => .done _
      | error e => exact (probe.close_composed.mono fun _ => .inl).bind fun _ => .done _
      | ok version =>
        refine (probe.close_composed.mono fun _ => .inl).bind fun closed => ?_
        cases closed with
        | error e => exact .done _
        | ok _ => exact report_bind _ (.done _)

namespace Driver

theorem check_composed : check.Composed Call.IsGate := by
  refine ask_bind (.inr (.inl rfl)) fun emulated => ?_
  rcases emulated with e | (_ | _)
  · exact .done _
  · refine ask_bind (.inr (.inr (.inl rfl))) fun loaded => ?_
    cases loaded with
    | error e => exact .done _
    | ok entry =>
      refine (entry.probeVersion_composed.mono ?_).bind fun probed => ?_
      · intro c hc
        exact hc.imp_right fun probe => .inr (.inr probe)
      · cases probed with
        | unwound why => exact .done _
        | error e => exact .done _
        | ok version =>
          dsimp only
          split
          · exact report_bind _ (.done _)
          · exact .done _
  · exact .done _

theorem enter_composed (d : Driver) : d.enter.Composed Call.IsGate := by
  unfold enter
  split
  · exact .done _
  · refine check_composed.bind fun checked => ?_
    cases checked with
    | ok entry => exact .done _
    | unwound why => exact .done _
    | error reason => exact report_bind _ (.done _)

end Driver

end PacketDiversion

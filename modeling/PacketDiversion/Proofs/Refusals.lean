import PacketDiversion.Proofs.Gate.Course
import PacketDiversion.Proofs.Gate.Deeds
import PacketDiversion.Proofs.Relay.Calls

/-!
# Local refusals

An error is local if the operation itself has refused its arguments; every other error is one of the
operating system. An operation whose arguments pass its own check comes out as the system's replies
say, whatever they are: it succeeds, passes on the error of a call that the system has failed, or
unwinds because a request panicked (`Outcome.Reflects`). So it never meets a local error.
-/

namespace PacketDiversion

open Program

def SessionError.IsLocal : SessionError → Prop
  | host .. => False
  | priority .. | parameterRange .. | readOnly _ | filter _ | argument _ => True

/-! ### What the system has answered -/

/-- What a request, or the wait for it, came to. -/
def Event.completion? : Event → Option Completion
  | ⟨.control .., reply⟩ | ⟨.result .., reply⟩ => some reply
  | _ => none

/-- The system has failed a call with this error. -/
inductive Event.Fails (source : HostError) : Event → Prop
  | openSession {entry : Entry} {filter : Filter} {layer : Layer} {priority : Int} {flags : Flags} :
    Fails source ⟨.openSession entry filter layer priority flags, .error source⟩
  | createEvent : Fails source ⟨.createEvent, .error source⟩
  | closeHandle {handle : Handle} : Fails source ⟨.closeHandle handle, .error source⟩
  | request {e : Event} {reply : Completion} (completed : e.completion? = some reply)
      (failed : reply.verdict = .failed source) : Fails source e

def Event.Panics (e : Event) : Prop :=
  ∃ reply, e.completion? = some reply ∧ reply.verdict = .panicked

/-- The outcome of an operation is what the system's answers have made of it. -/
inductive Outcome.Reflects {α : Type} (events : List Event) : Outcome SessionError α → Prop
  | ok (value : α) : Reflects events (.ok value)
  | host {operation : Operation} {source : HostError} (failed : ∃ e ∈ events, e.Fails source) :
    Reflects events (.error (.host operation source))
  | panicked (h : ∃ e ∈ events, e.Panics) : Reflects events (.unwound .host)

namespace Outcome.Reflects

variable {α β : Type} {events all : List Event} {o : Outcome SessionError α}

theorem mono (h : o.Reflects events) (sub : events ⊆ all) : o.Reflects all := by
  cases h with
  | ok value => exact .ok value
  | host failed =>
    obtain ⟨e, he, fails⟩ := failed
    exact .host ⟨e, sub he, fails⟩
  | panicked h =>
    obtain ⟨e, he, panics⟩ := h
    exact .panicked ⟨e, sub he, panics⟩

theorem left (h : o.Reflects events) : o.Reflects (events ++ all) :=
  h.mono (List.subset_append_left _ _)

theorem right (h : o.Reflects events) : o.Reflects (all ++ events) :=
  h.mono (List.subset_append_right _ _)

theorem map (h : o.Reflects events) (f : α → β) : (o.map f).Reflects events := by
  cases h with
  | ok value => exact .ok (f value)
  | host failed => exact .host failed
  | panicked h => exact .panicked h

/-- An error can be passed on as the outcome of something else. -/
theorem of_error {e : SessionError} (h : (.error e : Outcome SessionError α).Reflects events) :
    (.error e : Outcome SessionError β).Reflects events := by
  cases h with
  | host failed => exact .host failed

theorem of_unwound {why : Panic} (h : (.unwound why : Outcome SessionError α).Reflects events) :
    (.unwound why : Outcome SessionError β).Reflects events := by
  cases h with
  | panicked h => exact .panicked h

theorem not_isLocal {e : SessionError} (h : (.error e : Outcome SessionError α).Reflects events) :
    ¬ e.IsLocal := by
  cases h with
  | host failed => exact id

end Outcome.Reflects

variable {events : List Event} {e : SessionError}

/-! ### Requests -/

section Requests

variable {handle : Handle} {request : Request} {done : Completion}

/-- How an exchange ends, one of its events has said. -/
theorem Exchange.completed {block : Overlapped}
    (exchange : Exchange handle request block events done) :
    ∃ e ∈ events, ∃ reply, e.completion? = some reply ∧ reply.verdict = done.verdict := by
  cases exchange with
  | atOnce hpending => exact ⟨_, List.mem_singleton_self _, done, rfl, rfl⟩
  | @later taken reply hpending =>
    exact ⟨_, List.mem_cons_of_mem _ (List.mem_singleton_self _), reply, rfl, rfl⟩

theorem Exchange.reflects {block : Overlapped}
    (exchange : Exchange handle request block events done) (operation : Operation) :
    (done.verdict.outcome operation).Reflects events := by
  obtain ⟨e, he, reply, completed, hverdict⟩ := exchange.completed
  cases h : done.verdict with
  | finished bytes => exact .ok bytes
  | failed source => exact .host ⟨e, he, .request completed (hverdict.trans h)⟩
  | panicked => exact .panicked ⟨e, he, reply, completed, hverdict.trans h⟩

theorem Single.reflects (single : Single handle request events done) (operation : Operation) :
    (done.verdict.outcome operation).Reflects events := by
  cases single with
  | noEvent source => exact .host ⟨_, List.mem_singleton_self _, .createEvent⟩
  | onEvent exchange freed =>
    exact ((exchange.reflects operation).left).mono (List.subset_cons_self _ _)

end Requests

/-! ### Opening and closing -/

namespace Session

/-- A session is made of the handle and the events of three calls, or the system has failed one of
them. -/
theorem made_of_openWith {entry : Entry} {filter : Filter} {layer : Layer} {priority : Int}
    {flags : Flags} {opened : Except SessionError Session}
    (run : Runs (openWith entry filter layer priority flags) events opened) :
    (∃ operation source, opened = .error (.host operation source) ∧ ∃ e ∈ events, e.Fails source)
      ∨ ∃ s : Session, opened = .ok s
        ∧ events = [⟨.openSession entry filter layer priority flags, .ok s.handle⟩,
          ⟨.createEvent, .ok s.receiving.event⟩, ⟨.createEvent, .ok s.sending.event⟩] := by
  cases runs_openWith_iff.mp run with
  | refused source => exact .inl ⟨_, source, rfl, _, List.mem_cons_self, .openSession⟩
  | noReceiving handle source answer =>
    exact .inl ⟨_, source, rfl, ⟨.createEvent, .error source⟩, by simp, .createEvent⟩
  | noSending handle receiving source first answer =>
    exact .inl ⟨_, source, rfl, ⟨.createEvent, .error source⟩, by simp, .createEvent⟩
  | opened handle receiving sending => exact .inr ⟨_, rfl, rfl⟩

theorem reflects_of_openWith {entry : Entry} {filter : Filter} {layer : Layer} {priority : Int}
    {flags : Flags} {opened : Except SessionError Session}
    (run : Runs (openWith entry filter layer priority flags) events opened) :
    (Outcome.ofExcept opened).Reflects events := by
  rcases made_of_openWith run with ⟨operation, source, rfl, fails⟩ | ⟨s, rfl, -⟩
  · exact .host fails
  · exact .ok s

theorem reflects_of_createContext {made : Except SessionError Context}
    (run : Runs createContext events made) : (Outcome.ofExcept made).Reflects events := by
  rcases event_of_createContext run with ⟨source, rfl, rfl⟩ | ⟨event, rfl, rfl⟩
  · exact .host ⟨_, List.mem_singleton_self _, .createEvent⟩
  · exact .ok _

variable {s : Session}

/-- Only the release of the handle can fail a release. -/
theorem Releases.reflects {answer : Except SessionError Unit} (releases : s.Releases events answer) :
    (Outcome.ofExcept answer).Reflects events := by
  obtain ⟨first, second, last⟩ := releases
  cases last with
  | absent invalid => exact .ok ()
  | released live reply =>
    cases reply with
    | ok _ => exact .ok ()
    | error source =>
      have fails : Event.Fails source ⟨.closeHandle s.handle, .error source⟩ := .closeHandle
      exact .host ⟨_, by simp, fails⟩

theorem reflects_of_close {answer : Except SessionError Unit} (run : Runs s.close events answer) :
    (Outcome.ofExcept answer).Reflects events := (runs_close_iff.mp run).reflects

end Session

/-! ### Transfers -/

namespace Session

variable {s t : Session} {context rest : Option Context} {records : List Address}

theorem reflects_of_recv {buffer : Bytes} {address : Address} {got : Received Nat}
    (run : Runs (s.recv buffer address) events (got, t)) : got.outcome.Reflects events := by
  obtain ⟨done, exchange, houtcome⟩ := exchange_of_recv run
  rw [houtcome]
  exact (exchange.reflects .recv).map _

theorem reflects_of_recvBatch {buffer : Bytes} {got : Received Delivery} (some : records ≠ [])
    (run : Runs (s.recvBatch buffer records context) events (got, t, rest)) :
    got.outcome.Reflects events := by
  obtain ⟨done, exchange, rfl, -⟩ := exchange_of_recvBatch some run
  exact (exchange.reflects .recv).map _

theorem reflects_of_send {data : Bytes} {address : Address} {outcome : Outcome SessionError Nat}
    (run : Runs (s.send data address) events (outcome, t)) : outcome.Reflects events := by
  obtain ⟨done, exchange, rfl⟩ := exchange_of_send run
  exact (exchange.reflects .send).map _

theorem reflects_of_sendBatch {data : Bytes} {outcome : Outcome SessionError Nat}
    (some : records ≠ [])
    (run : Runs (s.sendBatch data records context) events (outcome, t, rest)) :
    outcome.Reflects events := by
  obtain ⟨done, exchange, rfl, -⟩ := exchange_of_sendBatch some run
  exact (exchange.reflects .send).map _

end Session

/-! ### Tuning -/

namespace Session

variable {s : Session} {p : Parameter} {value : UInt64}

theorem reflects_of_shutdown {how : Direction} {outcome : Outcome SessionError Unit}
    (run : Runs (s.shutdown how) events outcome) : outcome.Reflects events := by
  obtain ⟨done, single, rfl⟩ := runs_shutdown_iff.mp run
  exact (single.reflects .shutdown).map _

theorem reflects_of_getParameter {outcome : Outcome SessionError UInt64}
    (run : Runs (s.getParameter p) events outcome) : outcome.Reflects events := by
  obtain ⟨done, single, rfl⟩ := runs_getParameter_iff.mp run
  exact (single.reflects .getParameter).map _

theorem reflects_of_setParameter (within : p.check value = .ok ())
    {outcome : Outcome SessionError Unit} (run : Runs (s.setParameter p value) events outcome) :
    outcome.Reflects events := by
  rcases runs_setParameter_iff.mp run with ⟨refused, hcheck, -, -⟩ | ⟨-, done, single, rfl⟩
  · cases within.symm.trans hcheck
  · exact (single.reflects .setParameter).map _

theorem not_isLocal_of_setParameter (within : p.check value = .ok ())
    (run : Runs (s.setParameter p value) events (.error e)) : ¬ e.IsLocal :=
  (reflects_of_setParameter within run).not_isLocal

theorem reflects_of_version {outcome : Outcome SessionError Version}
    (run : Runs s.version events outcome) : outcome.Reflects events := by
  obtain ⟨major, first, rest, rfl, hmajor, run⟩ := runs_bind_iff.mp run
  have readMajor := reflects_of_getParameter hmajor
  cases major with
  | error e =>
    obtain ⟨-, rfl⟩ := runs_done_iff.mp run
    exact readMajor.of_error.left
  | unwound why =>
    obtain ⟨-, rfl⟩ := runs_done_iff.mp run
    exact readMajor.of_unwound.left
  | ok major =>
    obtain ⟨minor, second, rest, rfl, hminor, run⟩ := runs_bind_iff.mp run
    have readMinor := reflects_of_getParameter hminor
    cases minor with
    | error e =>
      obtain ⟨-, rfl⟩ := runs_done_iff.mp run
      exact readMinor.of_error.left.right
    | unwound why =>
      obtain ⟨-, rfl⟩ := runs_done_iff.mp run
      exact readMinor.of_unwound.left.right
    | ok minor =>
      obtain ⟨-, rfl⟩ := runs_done_iff.mp run
      exact .ok _

end Session

/-! ### Relays -/

/-- The system has reported more than a relay has room for. -/
def Event.Overfills (o : Relay.Options) (e : Event) : Prop :=
  ∃ reply, e.completion? = some reply
    ∧ ((∃ bytes, reply.verdict = .finished bytes ∧ o.bufferSize < bytes.toNat)
      ∨ ∃ cell, reply.written.recordBytes = some cell ∧ o.batch < cell.toNat / Address.size)

theorem Exchange.cell {handle : Handle} {request : Request} {block : Overlapped}
    {done : Completion} (exchange : Exchange handle request block events done) {cell : UInt32}
    (hcell : done.written.recordBytes = some cell) :
    ∃ e ∈ events, ∃ reply, e.completion? = some reply ∧ reply.written.recordBytes = some cell := by
  cases exchange with
  | atOnce hpending => exact ⟨_, List.mem_singleton_self _, done, rfl, hcell⟩
  | @later taken reply hpending =>
    rcases Option.or_eq_some_iff.mp hcell with hlater | ⟨-, hfirst⟩
    · exact ⟨_, List.mem_cons_of_mem _ (List.mem_singleton_self _), reply, rfl, hlater⟩
    · exact ⟨_, List.mem_cons_self, taken, rfl, hfirst⟩

namespace Relay

/-- How a relay ends is what the system's answers have made of it. -/
inductive Ending.Reflects (o : Options) (events : List Event) : Ending → Prop
  | drained (stats : Stats) : Reflects o events (.drained stats)
  | ongoing (stats : Stats) : Reflects o events (.ongoing stats)
  | failed {e : SessionError} (h : (.error e : Outcome SessionError Unit).Reflects events) :
    Reflects o events (.failed e)
  | unwound {why : Panic} (h : (.unwound why : Outcome SessionError Unit).Reflects events) :
    Reflects o events (.unwound why)
  | overrun (h : ∃ e ∈ events, e.Overfills o) : Reflects o events (.unwound .overrun)

variable {o : Options} {st : State} {step : Step} {handle : Handle}

theorem Ending.Reflects.mono {all : List Event} {ending : Ending} (h : ending.Reflects o events)
    (sub : events ⊆ all) : ending.Reflects o all := by
  cases h with
  | drained stats => exact .drained stats
  | ongoing stats => exact .ongoing stats
  | failed h => exact .failed (h.mono sub)
  | unwound h => exact .unwound (h.mono sub)
  | overrun h =>
    obtain ⟨e, he, overfills⟩ := h
    exact .overrun ⟨e, sub he, overfills⟩

/-- A step that goes on has its room, and one that does not ends as the system has made it. -/
def Step.Reflects (o : Options) (handle : Handle) (events : List Event) : Step → Prop
  | .over ending _ => ending.Reflects o events
  | .next st => st.Fits o handle

theorem Step.Reflects.mono {all : List Event} (h : step.Reflects o handle events)
    (sub : events ⊆ all) : step.Reflects o handle all := by
  match step with
  | .over ending t => exact Ending.Reflects.mono h sub
  | .next st => exact h

theorem reflects_of_passOn {got : Delivery} (hbatch : 1 ≤ o.batch) (fits : st.Fits o handle)
    (run : Runs (passOn o st got) events step) {before : List Event}
    (exceeds : o.bufferSize < got.read → ∃ e ∈ before, e.Overfills o) :
    step.Reflects o handle (before ++ events) := by
  unfold passOn at run
  by_cases hpass : o.reinject ∧ got.count > 0
  · by_cases hread : got.read > st.buffer.length
    · simp only [if_pos hpass, if_pos hread] at run
      obtain ⟨rfl, rfl⟩ := runs_done_iff.mp run
      -- nothing is called here; it is the receive before that reported too many bytes
      rw [fits.buffer] at hread
      rw [List.append_nil]
      exact .overrun (exceeds hread)
    · simp only [if_pos hpass, if_neg hread] at run
      obtain ⟨⟨outcome, session, own⟩, first, rest, rfl, sent, run⟩ := runs_bind_iff.mp run
      have hrecords : st.records.take got.count ≠ [] := by
        intro h
        rcases List.take_eq_nil_iff.mp h with hzero | hnil
        · omega
        · exact fits.records_ne_nil hbatch hnil
      have reflects : outcome.Reflects (first ++ rest) :=
        (Session.reflects_of_sendBatch hrecords sent).left
      obtain ⟨-, -, -, hsession⟩ := Session.exchange_of_sendBatch hrecords sent
      cases outcome with
      | error e =>
        obtain ⟨-, rfl⟩ := runs_done_iff.mp run
        exact .failed reflects.of_error.right
      | unwound why =>
        obtain ⟨-, rfl⟩ := runs_done_iff.mp run
        exact .unwound reflects.of_unwound.right
      | ok written =>
        obtain ⟨-, rfl⟩ := runs_done_iff.mp (runs_note_iff.mp run)
        exact ⟨fits.buffer, fits.records, hsession.trans fits.handle⟩
  · simp only [if_neg hpass] at run
    obtain ⟨-, rfl⟩ := runs_done_iff.mp run
    exact fits

/-- What a receive delivers beyond the room, the system has reported. -/
theorem overfills_of_delivery {done : Completion} {request : Request} {block : Overlapped}
    (exchange : Exchange handle request block events done) {delivery : Delivery}
    (hdelivery : Session.delivery done.verdict
      (done.written.recordBytes.getD (UInt32.ofNat (o.batch * Address.size))) = .ok delivery)
    (exceeds : o.batch < delivery.count ∨ o.bufferSize < delivery.read) :
    ∃ e ∈ events, e.Overfills o := by
  cases hverdict : done.verdict with
  | failed source =>
    rw [hverdict] at hdelivery
    cases hdelivery
  | panicked =>
    rw [hverdict] at hdelivery
    cases hdelivery
  | finished bytes =>
    rw [hverdict] at hdelivery
    cases hdelivery
    rcases exceeds with hcount | hread
    · cases hcell : done.written.recordBytes with
      | some cell =>
        rw [hcell] at hcount
        obtain ⟨e, he, reply, completed, hreply⟩ := exchange.cell hcell
        exact ⟨e, he, reply, completed, .inr ⟨cell, hreply, hcount⟩⟩
      | none =>
        -- the cell as announced holds no more than the slots
        have hmod := Nat.mod_le (o.batch * 80) (2 ^ 32)
        rw [hcell, Option.getD_none, UInt32.toNat_ofNat', Address.size] at hcount
        dsimp only at hcount
        omega
    · obtain ⟨e, he, reply, completed, hreply⟩ := exchange.completed
      exact ⟨e, he, reply, completed, .inl ⟨bytes, hreply.trans hverdict, hread⟩⟩

theorem reflects_of_round (hbatch : 1 ≤ o.batch) (fits : st.Fits o handle)
    (run : Runs (round o st) events step) : step.Reflects o handle events := by
  obtain ⟨⟨got, session, own⟩, first, rest, rfl, received, run⟩ := runs_bind_iff.mp run
  have room := fits.records_ne_nil hbatch
  have reflects : got.outcome.Reflects (first ++ rest) :=
    (Session.reflects_of_recvBatch room received).left
  obtain ⟨done, exchange, hgot, hsession⟩ := Session.exchange_of_recvBatch room received
  have houtcome : got.outcome = Session.delivery done.verdict
      (done.written.recordBytes.getD (UInt32.ofNat (o.batch * Address.size))) := by
    rw [hgot, fits.records]
  have hbuffer : got.buffer.length = o.bufferSize := by
    rw [hgot, length_overlay, fits.buffer]
  have hrecords : got.records.length = o.batch := by
    rw [hgot, length_overlay, fits.records]
  cases hresult : got.outcome with
  | unwound why =>
    rw [hresult] at reflects
    simp only [hresult] at run
    obtain ⟨-, rfl⟩ := runs_done_iff.mp run
    exact .unwound reflects.of_unwound
  | error source =>
    rw [hresult] at reflects
    by_cases hdrained : source.isDrained = true
    · simp only [hresult, if_pos hdrained] at run
      obtain ⟨-, rfl⟩ := runs_done_iff.mp (runs_note_iff.mp run)
      exact .drained _
    · simp only [hresult, if_neg hdrained] at run
      obtain ⟨-, rfl⟩ := runs_done_iff.mp run
      exact .failed reflects.of_error
  | ok delivery =>
    have overfills := overfills_of_delivery exchange (houtcome.symm.trans hresult)
    by_cases hover : delivery.count > got.records.length
    · simp only [hresult, if_pos hover] at run
      obtain ⟨rfl, rfl⟩ := runs_done_iff.mp run
      rw [hrecords] at hover
      rw [List.append_nil]
      exact .overrun (overfills (.inl hover))
    · simp only [hresult, if_neg hover] at run
      obtain ⟨⟨⟩, reports, later, rfl, hreports, run⟩ := runs_bind_iff.mp run
      have fitsNow : State.Fits ⟨session, got.buffer, got.records,
          st.stats.received delivery.count delivery.read⟩ o handle :=
        ⟨hbuffer, hrecords, hsession.trans fits.handle⟩
      have passed := reflects_of_passOn hbatch fitsNow run fun hread => overfills (.inr hread)
      exact passed.mono (by simp)

theorem reflects_of_rounds {limit : Nat} {ending : Ending} {t : Session} (hbatch : 1 ≤ o.batch)
    (fits : st.Fits o handle) (run : Runs (rounds o limit st) events (ending, t)) :
    ending.Reflects o events := by
  induction limit generalizing st events with
  | zero =>
    obtain ⟨-, rfl, -⟩ := runs_pair_iff.mp run
    exact .ongoing _
  | succ limit ih =>
    obtain ⟨step, first, rest, rfl, hround, run⟩ := runs_bind_iff.mp run
    have reflects := reflects_of_round hbatch fits hround
    match step with
    | .over ending session =>
      obtain ⟨-, rfl, -⟩ := runs_pair_iff.mp run
      exact Ending.Reflects.mono reflects (List.subset_append_left _ _)
    | .next state => exact (ih reflects run).mono (List.subset_append_right _ _)

theorem reflects_of_run {limit : Nat} {s t : Session} {ending : Ending} (hbatch : o.batch ≠ 0)
    (hsize : o.bufferSize ≠ 0) (run : Runs (run limit s o) events (ending, t)) :
    ending.Reflects o events := by
  have hoptions : ¬ (o.batch = 0 ∨ o.bufferSize = 0) := by omega
  unfold Relay.run at run
  rw [if_neg hoptions, runs_report_bind_iff] at run
  exact reflects_of_rounds (by omega) (works_start s o).fits run

theorem not_isLocal_of_run {limit : Nat} {s t : Session} (hbatch : o.batch ≠ 0)
    (hsize : o.bufferSize ≠ 0) (run : Runs (run limit s o) events (.failed e, t)) :
    ¬ e.IsLocal := by
  cases reflects_of_run hbatch hsize run with
  | failed h => exact h.not_isLocal

end Relay

/-! ### Drivers -/

theorem Probed.reflects {entry : Entry} {outcome : Outcome SessionError Version}
    (probed : Probed entry events outcome) : outcome.Reflects events := by
  cases probed with
  | unopened failed =>
    exact (Session.reflects_of_openWith (Session.runs_openWith_iff.mpr failed)).of_error
  | unread opened failed released =>
    exact (Session.reflects_of_version (Session.runs_version_iff.mpr failed)).left.right
  | panicked opened unwound released =>
    exact (Session.reflects_of_version (Session.runs_version_iff.mpr unwound)).left.right
  | unclosed opened read failed => exact failed.reflects.of_error.right.right
  | probed opened read closed => exact .ok _

theorem Entry.reflects_of_probeVersion {entry : Entry} {outcome : Outcome SessionError Version}
    (run : Runs entry.probeVersion events outcome) : outcome.Reflects events :=
  (runs_probeVersion_iff.mp run).reflects

namespace Driver

variable {d next : Driver} {filter : String} {layer : Layer} {priority : Int} {flags : Flags}

/-- The gate unwinds only if a request panicked. -/
theorem panicked_of_check {why : Panic} (run : Runs check events (.unwound why)) :
    why = .host ∧ ∃ e ∈ events, e.Panics := by
  cases runs_check_iff.mp run with
  | panicked unwound =>
    cases unwound.reflects with
    | panicked h =>
      obtain ⟨e, he, panics⟩ := h
      exact ⟨rfl, e, by simp [he], panics⟩

/-- The outcome of an operation that asks for the driver's entry: either the gate has rejected the
driver, or it is what the system's answers have made of it. -/
inductive Upshot {α : Type} (events : List Event) : Outcome SessionError α → Prop
  | rejected {reason : Rejection} (run : Runs check events (.error reason)) :
    Upshot events (.unwound (.rejected reason))
  | reflects {o : Outcome SessionError α} (h : o.Reflects events) : Upshot events o

theorem Entered.upshot {α : Type} {why : Panic} (entered : d.Entered events (.error why) next) :
    Upshot events (.unwound why : Outcome SessionError α) := by
  obtain ⟨-, -, ⟨reason, rfl, run⟩ | run⟩ := entered.error_cases
  · exact .rejected run
  · obtain ⟨rfl, panics⟩ := panicked_of_check run
    exact .reflects (.panicked panics)

theorem upshot_of_version {outcome : Outcome SessionError Version}
    (run : Runs d.version events (outcome, next)) : Upshot events outcome := by
  obtain ⟨⟨entered, d'⟩, gate, rest, rfl, hgate, run⟩ := runs_bind_iff.mp run
  cases entered with
  | error why =>
    obtain ⟨rfl, rfl, -⟩ := runs_pair_iff.mp run
    rw [List.append_nil]
    exact (entered_of_runs hgate).upshot
  | ok entry =>
    obtain ⟨probed, probe, last, rfl, hprobe, run⟩ := runs_bind_iff.mp run
    obtain ⟨-, rfl, -⟩ := runs_pair_iff.mp run
    exact .reflects (Entry.reflects_of_probeVersion hprobe).left.right

/-- A filter with a NUL is refused without a call. -/
theorem openSession_of_nul (valid : Priority.Valid priority) (nul : '\x00' ∈ filter.toList) :
    d.openSession filter layer priority flags
      = done (.error (.filter (Filter.nulOffset filter.toList)), d) := by
  have hpriority : Priority.check priority = .ok () := if_pos valid
  have hfilter : Filter.parse filter = .error (Filter.nulOffset filter.toList) := dif_pos nul
  simp only [openSession, hpriority, hfilter, pure_eq]

theorem upshot_of_openSession (valid : Priority.Valid priority) (nulFree : '\x00' ∉ filter.toList)
    {outcome : Outcome SessionError Session}
    (run : Runs (d.openSession filter layer priority flags) events (outcome, next)) :
    Upshot events outcome := by
  have hpriority : Priority.check priority = .ok () := if_pos valid
  have hfilter : Filter.parse filter = .ok ⟨filter, nulFree⟩ := Filter.parse_eq_ok_iff.mpr rfl
  simp only [openSession, hpriority, hfilter] at run
  obtain ⟨⟨entered, d'⟩, gate, rest, rfl, hgate, run⟩ := runs_bind_iff.mp run
  cases entered with
  | error why =>
    obtain ⟨rfl, rfl, -⟩ := runs_pair_iff.mp run
    rw [List.append_nil]
    exact (entered_of_runs hgate).upshot
  | ok entry =>
    obtain ⟨opened, own, last, rfl, hopen, run⟩ := runs_bind_iff.mp run
    obtain ⟨-, rfl, -⟩ := runs_pair_iff.mp run
    exact .reflects (Session.reflects_of_openWith hopen).left.right

theorem not_isLocal_of_openSession (valid : Priority.Valid priority)
    (nulFree : '\x00' ∉ filter.toList)
    (run : Runs (d.openSession filter layer priority flags) events (.error e, next)) :
    ¬ e.IsLocal := by
  cases upshot_of_openSession valid nulFree run with
  | reflects h => exact h.not_isLocal

end Driver

end PacketDiversion

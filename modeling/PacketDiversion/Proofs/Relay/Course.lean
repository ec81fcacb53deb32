import PacketDiversion.Proofs.Relay.Calls

/-!
# The course of a relay

A relay makes its requests one at a time. A round is one exchange that receives, or two where what
was received is injected again (`Lap`), and a relay is a course of rounds (`Course`), whatever the
driver answers. What holds of a relay's requests, of its statistics and of its end is proved of a
round first, and then of a course by induction.
-/

namespace PacketDiversion

open Program

/-- Exchanges on a handle, one after the other, with nothing before, between or after them. -/
inductive Conversation (handle : Handle) : List Event → List Answered → Prop
  | nil : Conversation handle [] []
  | cons {request : Request} {block : Overlapped} {events rest : List Event} {done : Completion}
      {later : List Answered} (exchange : Exchange handle request block events done)
      (further : Conversation handle rest later) :
      Conversation handle (events ++ rest) (⟨handle, request, done⟩ :: later)

section Conversation

variable {handle : Handle} {events rest : List Event} {xs ys : List Answered}

theorem Exchange.conversation {request : Request} {block : Overlapped} {done : Completion}
    (exchange : Exchange handle request block events done) :
    Conversation handle events [⟨handle, request, done⟩] := by
  have h := Conversation.cons exchange .nil
  rwa [List.append_nil] at h

theorem Conversation.append (first : Conversation handle events xs)
    (second : Conversation handle rest ys) : Conversation handle (events ++ rest) (xs ++ ys) := by
  induction first with
  | nil => exact second
  | cons exchange _ ih =>
    rw [List.append_assoc]
    exact .cons exchange ih

theorem Conversation.exchanges_eq (h : Conversation handle events xs) : exchanges events = xs := by
  induction h with
  | nil => rfl
  | cons exchange _ ih => rw [exchange.exchanges_append, ih]

end Conversation

namespace Answered

/-- What the length cell holds after a receive: what the driver left there, or else the length that
was announced. -/
def recordBytes? (x : Answered) : Option UInt32 :=
  match x.request.payload with
  | .recv capacity => some (x.done.written.recordBytes.getD capacity)
  | .send .. | .block _ => none

/-- What a receive that succeeded has delivered. -/
def delivery? (x : Answered) : Option Delivery :=
  match x.recordBytes?, x.done.verdict with
  | some recordBytes, .finished bytes => some ⟨bytes.toNat, recordBytes.toNat / Address.size⟩
  | _, _ => none

/-- How many packets a send that succeeded has injected. -/
def injected? (x : Answered) : Option Nat :=
  match x.request.payload, x.done.verdict with
  | .send _ _ records, .finished _ => some records.length
  | _, _ => none

/-- A receive or a send, as a relay makes them. -/
def operation (x : Answered) : Operation :=
  match x.request.payload with
  | .recv _ => .recv
  | .send .. | .block _ => .send

def Finished (x : Answered) : Prop := ∃ bytes, x.done.verdict = .finished bytes

end Answered

/-- Of all codes only one says that there is nothing left. -/
theorem SessionError.isDrained_host_iff {operation : Operation} {e : HostError} :
    (host operation e).isDrained = true ↔ e = .code 232 := by
  constructor
  · intro h
    cases e with
    | other text => cases h
    | code n =>
      have hlookup : Diagnosis.codes.lookup n = some .noData := beq_iff_eq.mp h
      obtain ⟨before, rest, hsplit, -⟩ := List.lookup_eq_some_iff.mp hlookup
      have hmem : (n, Diagnosis.noData) ∈ Diagnosis.codes := by
        rw [hsplit]
        exact List.mem_append_right before List.mem_cons_self
      simpa [Diagnosis.codes] using hmem
  · intro h
    rw [h]
    rfl

namespace Relay

/-! ### The requests of a relay -/

/-- A relay injects again what it was delivered. -/
def Options.Passes (o : Options) (got : Delivery) : Prop := o.reinject = true ∧ got.count > 0

/-- The driver has reported more than a relay can hold: more records than there are slots, or, where
the packets are injected again, more bytes than the buffer has. -/
def Overruns (o : Options) (got : Delivery) : Prop :=
  got.count > o.batch ∨ o.Passes got ∧ got.read > o.bufferSize

/-- How a request that ends with a verdict ends the relay, unless the request has succeeded. Only a
receive can find the queue dry. -/
def stopped (operation : Operation) (stats : Stats) : Verdict → Option Ending
  | .finished _ => none
  | .failed e =>
    if operation = .recv ∧ e = .code 232 then some (.drained stats)
    else some (.failed (.host operation e))
  | .panicked => some (.unwound .host)

/-- A request that injects what was delivered: so many bytes of packets, and so many records. -/
def Injects (got : Delivery) (request : Request) : Prop :=
  ∃ data records, request = .inject data records
    ∧ data.length = got.read ∧ records.length = got.count

section Exchanges

variable {o : Options} {x : Answered} {got : Delivery} {operation : Operation} {stats : Stats}
  {ending : Ending}

theorem not_finished_of_stopped (stops : stopped operation stats x.done.verdict = some ending) :
    ¬ x.Finished := by
  rintro ⟨bytes, hverdict⟩
  rw [hverdict] at stops
  cases stops

theorem finished_of_delivery (delivered : x.delivery? = some got) : x.Finished := by
  unfold Answered.delivery? at delivered
  split at delivered
  · rename_i bytes _ hverdict
    exact ⟨_, hverdict⟩
  · cases delivered

theorem delivery?_of_not_finished (failed : ¬ x.Finished) : x.delivery? = none := by
  cases hdelivery : x.delivery? with
  | none => rfl
  | some got => exact absurd (finished_of_delivery hdelivery) failed

theorem injected?_of_not_finished (failed : ¬ x.Finished) : x.injected? = none := by
  unfold Answered.injected?
  split
  · rename_i hverdict
    exact absurd ⟨_, hverdict⟩ failed
  · rfl

theorem operation_of_receives (receives : x.request = .receive o.batch o.bufferSize) :
    x.operation = .recv := by rw [Answered.operation, receives, Request.receive]

theorem injected?_of_receives (receives : x.request = .receive o.batch o.bufferSize) :
    x.injected? = none := by rw [Answered.injected?, receives, Request.receive]

theorem operation_of_injects (injects : Injects got x.request) : x.operation = .send := by
  obtain ⟨data, records, hrequest, -⟩ := injects
  rw [Answered.operation, hrequest, Request.inject]

theorem delivery?_of_injects (injects : Injects got x.request) : x.delivery? = none := by
  obtain ⟨data, records, hrequest, -⟩ := injects
  rw [Answered.delivery?, Answered.recordBytes?, hrequest, Request.inject]

theorem injected?_of_injects (injects : Injects got x.request) (sent : x.Finished) :
    x.injected? = some got.count := by
  obtain ⟨data, records, hrequest, -, hcount⟩ := injects
  obtain ⟨bytes, hverdict⟩ := sent
  simp only [Answered.injected?, hrequest, Request.inject, hverdict, hcount]

theorem stopped_of_finished (finished : x.Finished) :
    stopped operation stats x.done.verdict = none := by
  obtain ⟨bytes, hverdict⟩ := finished
  rw [hverdict, stopped]

/-- A relay that is stopped is not at work any more, and it is unwound only by a panic. -/
theorem stopped_cases {verdict : Verdict} (stops : stopped operation stats verdict = some ending) :
    (∃ e, verdict = .failed e ∧ (ending = .drained stats ∨ ending = .failed (.host operation e)))
      ∨ verdict = .panicked ∧ ending = .unwound .host := by
  cases verdict with
  | finished bytes => cases stops
  | panicked => exact .inr ⟨rfl, (Option.some.inj stops).symm⟩
  | failed e =>
    refine .inl ⟨e, rfl, ?_⟩
    simp only [stopped] at stops
    split at stops
    · exact .inl (Option.some.inj stops).symm
    · exact .inr (Option.some.inj stops).symm

end Exchanges

/-! ### Rounds -/

/-- The exchanges of a round, and what the relay comes to: it is over, or it goes on with new
statistics. -/
inductive Lap (o : Options) (stats : Stats) : List Answered → Except Ending Stats → Prop
  | unreceived {x : Answered} {ending : Ending}
      (receives : x.request = .receive o.batch o.bufferSize)
      (stops : stopped .recv stats x.done.verdict = some ending) : Lap o stats [x] (.error ending)
  | overrun {x : Answered} {got : Delivery}
      (receives : x.request = .receive o.batch o.bufferSize)
      (delivered : x.delivery? = some got) (overruns : Overruns o got) :
      Lap o stats [x] (.error (.unwound .overrun))
  | kept {x : Answered} {got : Delivery}
      (receives : x.request = .receive o.batch o.bufferSize)
      (delivered : x.delivery? = some got) (fits : ¬ Overruns o got) (keeps : ¬ o.Passes got) :
      Lap o stats [x] (.ok (stats.received got.count got.read))
  | unsent {x y : Answered} {got : Delivery} {ending : Ending}
      (receives : x.request = .receive o.batch o.bufferSize)
      (delivered : x.delivery? = some got) (fits : ¬ Overruns o got) (passes : o.Passes got)
      (injects : Injects got y.request)
      (stops : stopped .send (stats.received got.count got.read) y.done.verdict = some ending) :
      Lap o stats [x, y] (.error ending)
  | passed {x y : Answered} {got : Delivery}
      (receives : x.request = .receive o.batch o.bufferSize)
      (delivered : x.delivery? = some got) (fits : ¬ Overruns o got) (passes : o.Passes got)
      (injects : Injects got y.request) (sent : y.Finished) :
      Lap o stats [x, y] (.ok ((stats.received got.count got.read).injected got.count))

/-- A round begins with a receive, and nothing else in it delivers anything. -/
theorem Lap.head_receives {o : Options} {stats : Stats} {xs : List Answered}
    {result : Except Ending Stats} (lap : Lap o stats xs result) :
    ∃ x rest, xs = x :: rest ∧ x.request = .receive o.batch o.bufferSize
      ∧ ∀ y ∈ rest, y.delivery? = none := by
  cases lap with
  | unreceived receives _ => exact ⟨_, _, rfl, receives, fun y hy => by cases hy⟩
  | overrun receives _ _ => exact ⟨_, _, rfl, receives, fun y hy => by cases hy⟩
  | kept receives _ _ _ => exact ⟨_, _, rfl, receives, fun y hy => by cases hy⟩
  | unsent receives _ _ _ injects _ =>
    refine ⟨_, _, rfl, receives, fun y hy => ?_⟩
    rw [List.mem_singleton.mp hy]
    exact delivery?_of_injects injects
  | passed receives _ _ _ injects _ =>
    refine ⟨_, _, rfl, receives, fun y hy => ?_⟩
    rw [List.mem_singleton.mp hy]
    exact delivery?_of_injects injects

/-- What a relay comes to after a round. -/
def Step.outcome : Step → Except Ending Stats
  | .over ending _ => .error ending
  | .next st => .ok st.stats

/-- The relay that goes on after a round, if it does, has the same room and is on the same
handle. -/
def Step.Fits (o : Options) (handle : Handle) (step : Step) : Prop :=
  ∀ next, step = .next next → next.Fits o handle

theorem step_fits_over {o : Options} {handle : Handle} {ending : Ending} {t : Session} :
    (Step.over ending t).Fits o handle := by
  intro next h
  cases h

section Rounds

variable {o : Options} {handle : Handle} {st : State} {events : List Event} {step : Step}

/-- What was delivered is injected in one exchange, if it is injected at all. -/
theorem lap_of_passOn {x : Answered} {got : Delivery} {stats : Stats} (fits : st.Fits o handle)
    (hstats : st.stats = stats.received got.count got.read)
    (receives : x.request = .receive o.batch o.bufferSize) (delivered : x.delivery? = some got)
    (hcount : got.count ≤ o.batch) (run : Runs (passOn o st got) events step) :
    ∃ ys, Conversation handle events ys ∧ Lap o stats (x :: ys) step.outcome
      ∧ step.Fits o handle := by
  unfold passOn at run
  by_cases hpass : o.reinject ∧ got.count > 0
  · by_cases hread : got.read > st.buffer.length
    · simp only [if_pos hpass, if_pos hread, pure_eq, runs_done_iff] at run
      obtain ⟨rfl, rfl⟩ := run
      rw [fits.buffer] at hread
      exact ⟨[], .nil, .overrun receives delivered (.inr ⟨hpass, hread⟩), step_fits_over⟩
    · have hlength : (st.records.take got.count).length = got.count := by
        rw [List.length_take, fits.records]
        omega
      have hdata : (st.buffer.take got.read).length = got.read := by
        rw [List.length_take]
        omega
      have hsome : st.records.take got.count ≠ [] := by
        intro hnil
        rw [hnil, List.length_nil] at hlength
        omega
      have hfits : ¬ Overruns o got := by
        rw [fits.buffer] at hread
        rintro (hover | ⟨-, hover⟩)
        · omega
        · omega
      simp only [if_pos hpass, if_neg hread] at run
      obtain ⟨⟨outcome, session, own⟩, before, after, rfl, sent, run⟩ := runs_bind_iff.mp run
      obtain ⟨done, exchange, rfl, hsession⟩ := Session.exchange_of_sendBatch hsome sent
      have injects : Injects got (.inject (st.buffer.take got.read) (st.records.take got.count)) :=
        ⟨_, _, rfl, hdata, hlength⟩
      rw [fits.handle] at exchange
      cases hverdict : done.verdict with
      | finished bytes =>
        simp only [hverdict, Verdict.outcome, Outcome.map, runs_report_bind_iff, pure_eq,
          runs_done_iff] at run
        obtain ⟨rfl, rfl⟩ := run
        rw [List.append_nil]
        refine ⟨_, exchange.conversation, ?_, ?_⟩
        · have lap : Lap o stats [x, ⟨handle, _, done⟩] _ :=
            .passed receives delivered hfits hpass injects ⟨bytes, hverdict⟩
          rwa [← hstats] at lap
        · intro next hnext
          cases hnext
          exact ⟨fits.buffer, fits.records, hsession.trans fits.handle⟩
      | failed e =>
        simp only [hverdict, Verdict.outcome, Outcome.map, pure_eq, runs_done_iff] at run
        obtain ⟨rfl, rfl⟩ := run
        rw [List.append_nil]
        refine ⟨_, exchange.conversation, ?_, step_fits_over⟩
        exact .unsent receives delivered hfits hpass injects (by rw [hverdict]; rfl)
      | panicked =>
        simp only [hverdict, Verdict.outcome, Outcome.map, pure_eq, runs_done_iff] at run
        obtain ⟨rfl, rfl⟩ := run
        rw [List.append_nil]
        refine ⟨_, exchange.conversation, ?_, step_fits_over⟩
        exact .unsent receives delivered hfits hpass injects (by rw [hverdict]; rfl)
  · simp only [if_neg hpass, pure_eq, runs_done_iff] at run
    obtain ⟨rfl, rfl⟩ := run
    have hfits : ¬ Overruns o got := by
      rintro (hover | ⟨passes, -⟩)
      · omega
      · exact hpass passes
    refine ⟨[], .nil, ?_, fun next hnext => by cases hnext; exact fits⟩
    have lap : Lap o stats [x] _ := .kept receives delivered hfits hpass
    rwa [← hstats] at lap

theorem lap_of_round (hbatch : 1 ≤ o.batch) (fits : st.Fits o handle)
    (run : Runs (round o st) events step) :
    ∃ xs, Conversation handle events xs ∧ Lap o st.stats xs step.outcome
      ∧ step.Fits o handle := by
  have hsome := fits.records_ne_nil hbatch
  obtain ⟨⟨got, session, own⟩, before, after, rfl, received, run⟩ := runs_bind_iff.mp run
  obtain ⟨done, exchange, rfl, hsession⟩ := Session.exchange_of_recvBatch hsome received
  rw [fits.handle, fits.records, fits.buffer] at exchange
  have receives : (Answered.mk handle (.receive o.batch o.bufferSize) done).request
      = .receive o.batch o.bufferSize := rfl
  cases hverdict : done.verdict with
  | finished bytes =>
    simp only [hverdict, Session.delivery, Verdict.outcome, Outcome.map, length_overlay,
      fits.records] at run
    generalize hcell : (done.written.recordBytes.getD
      (UInt32.ofNat (o.batch * Address.size))).toNat / Address.size = count at run
    have delivered : (Answered.mk handle (.receive o.batch o.bufferSize) done).delivery?
        = some ⟨bytes.toNat, count⟩ := by
      simp only [Answered.delivery?, Answered.recordBytes?, Request.receive, hverdict, hcell]
    by_cases hcount : count > o.batch
    · simp only [if_pos hcount, pure_eq, runs_done_iff] at run
      obtain ⟨rfl, rfl⟩ := run
      rw [List.append_nil]
      refine ⟨_, exchange.conversation, ?_, step_fits_over⟩
      exact .overrun receives delivered (.inl hcount)
    · rw [if_neg hcount, runs_reportPackets_bind] at run
      have fitsNow : State.Fits ⟨session, overlay st.buffer done.written.output,
          overlay st.records done.written.records,
          st.stats.received count bytes.toNat⟩ o handle :=
        ⟨(length_overlay _ _).trans fits.buffer, (length_overlay _ _).trans fits.records,
          hsession.trans fits.handle⟩
      obtain ⟨ys, conversation, lap, hnext⟩ :=
        lap_of_passOn fitsNow rfl receives delivered (Nat.le_of_not_lt hcount) run
      exact ⟨_, exchange.conversation.append conversation, lap, hnext⟩
  | failed e =>
    simp only [hverdict, Session.delivery, Verdict.outcome, Outcome.map] at run
    refine ⟨[⟨handle, .receive o.batch o.bufferSize, done⟩], ?_⟩
    by_cases hdry : e = .code 232
    · rw [if_pos (SessionError.isDrained_host_iff.mpr hdry), runs_report_bind_iff] at run
      obtain ⟨rfl, rfl⟩ := runs_done_iff.mp run
      rw [List.append_nil]
      refine ⟨exchange.conversation, ?_, step_fits_over⟩
      exact .unreceived receives (by rw [hverdict]; exact if_pos ⟨rfl, hdry⟩)
    · rw [if_neg (fun h => hdry (SessionError.isDrained_host_iff.mp h))] at run
      obtain ⟨rfl, rfl⟩ := runs_done_iff.mp run
      rw [List.append_nil]
      refine ⟨exchange.conversation, ?_, step_fits_over⟩
      exact .unreceived receives (by rw [hverdict]; exact if_neg (fun h => hdry h.2))
  | panicked =>
    simp only [hverdict, Session.delivery, Verdict.outcome, Outcome.map, pure_eq,
      runs_done_iff] at run
    obtain ⟨rfl, rfl⟩ := run
    rw [List.append_nil]
    refine ⟨_, exchange.conversation, ?_, step_fits_over⟩
    exact .unreceived receives (by rw [hverdict]; rfl)

end Rounds

/-! ### Whole relays -/

/-- The exchanges of a relay that may make a number of receives, and how it stands after them. -/
inductive Course (o : Options) : Nat → Stats → List Answered → Ending → Prop
  | paused {stats : Stats} : Course o 0 stats [] (.ongoing stats)
  | ended {limit : Nat} {stats : Stats} {xs : List Answered} {ending : Ending}
      (lap : Lap o stats xs (.error ending)) : Course o (limit + 1) stats xs ending
  | more {limit : Nat} {stats next : Stats} {xs ys : List Answered} {ending : Ending}
      (lap : Lap o stats xs (.ok next)) (rest : Course o limit next ys ending) :
      Course o (limit + 1) stats (xs ++ ys) ending

section Courses

variable {o : Options} {limit : Nat} {events : List Event} {ending : Ending}

/-- Without an exchange there was no round. -/
theorem Course.ending_of_nil {stats : Stats} (course : Course o limit stats [] ending) :
    ending = .ongoing stats := by
  generalize hxs : ([] : List Answered) = xs at course
  cases course with
  | paused => rfl
  | ended lap =>
    obtain ⟨x, rest, rfl, -⟩ := lap.head_receives
    cases hxs
  | more lap _ =>
    obtain ⟨x, rest, rfl, -⟩ := lap.head_receives
    cases hxs

theorem course_of_rounds (hbatch : 1 ≤ o.batch) {handle : Handle} {st : State}
    (fits : st.Fits o handle) {t : Session} (run : Runs (rounds o limit st) events (ending, t)) :
    ∃ xs, Conversation handle events xs ∧ Course o limit st.stats xs ending := by
  induction limit generalizing st events with
  | zero =>
    obtain ⟨rfl, rfl, rfl⟩ := runs_pair_iff.mp run
    exact ⟨[], .nil, .paused⟩
  | succ limit ih =>
    obtain ⟨step, before, after, rfl, hround, run⟩ := runs_bind_iff.mp run
    obtain ⟨xs, conversation, lap, hnext⟩ := lap_of_round hbatch fits hround
    rcases step with ⟨last, session⟩ | ⟨st'⟩
    · obtain ⟨rfl, rfl, rfl⟩ := runs_pair_iff.mp run
      exact ⟨xs, by rwa [List.append_nil], .ended lap⟩
    · obtain ⟨ys, later, course⟩ := ih (hnext st' rfl) run
      exact ⟨xs ++ ys, conversation.append later, .more lap course⟩

/-- A relay with room for packets is a course of rounds, and makes no other calls. -/
theorem course_of_run (hbatch : 1 ≤ o.batch) (hsize : 1 ≤ o.bufferSize) {s t : Session}
    (run : Runs (Relay.run limit s o) events (ending, t)) :
    Conversation s.handle events (exchanges events)
      ∧ Course o limit {} (exchanges events) ending := by
  have hready : ¬ (o.batch = 0 ∨ o.bufferSize = 0) := by omega
  unfold Relay.run at run
  rw [if_neg hready, runs_report_bind_iff] at run
  have fits : (State.start s o).Fits o s.handle :=
    ⟨List.length_replicate, List.length_replicate, rfl⟩
  obtain ⟨xs, conversation, course⟩ := course_of_rounds hbatch fits run
  rw [conversation.exchanges_eq]
  exact ⟨conversation, course⟩

end Courses

end Relay

end PacketDiversion

import PacketDiversion.Proofs.Handles.Gate
import PacketDiversion.Proofs.Transfer

/-!
# What a relay asks for

A relay makes requests of two kinds, whatever the system answers: receives into the whole of its
room, on the session's receiving event, and, if it injects, sends of what that room holds, on the
sending event (`run_calls`). It keeps its room and its session from one round to the next, and a
relay that does not inject never counts an injected packet.
-/

namespace PacketDiversion

open Program

/-! ### Requests under a condition -/

section Requests

variable {Q : Call → Prop}

theorem Context.issue_calls (own : Context) {handle : Handle} {request : Request} (m : Memory)
    (hcontrol : Q (.control handle request own.prepare.overlapped))
    (hresult : Q (.result handle own.event true)) :
    (own.issue handle request m).Fulfils (.each Q)
      (fun ended _ => ended.context.event = own.event
        ∧ ended.memory.output.length = m.output.length
        ∧ ended.memory.records.length = m.records.length) () := by
  have absorbed (w : Written) : (m.absorb w).output.length = m.output.length
      ∧ (m.absorb w).records.length = m.records.length :=
    ⟨length_overlay m.output w.output, length_overlay m.records w.records⟩
  refine fulfils_ask_bind.mpr ⟨hcontrol, fun first _ => ?_⟩
  dsimp only
  split
  · exact ⟨rfl, absorbed first.written⟩
  · split
    · refine fulfils_report_bind.mpr (fulfils_ask_bind.mpr ⟨hresult, fun done _ => ?_⟩)
      have later := absorbed (first.written.andThen done.written)
      rw [← Memory.absorb_absorb] at later
      dsimp only
      split
      · exact ⟨rfl, later⟩
      · exact ⟨rfl, later⟩
      · exact ⟨rfl, later⟩
    · exact ⟨rfl, absorbed first.written⟩
  · exact ⟨rfl, absorbed first.written⟩

namespace Session

variable (s : Session)

/-- A batch is issued on the caller's context, and then the session stays as it is, or on the
session's own for its direction. -/
theorem recvBatch_calls (buffer : Bytes) (records : List Address) (context : Option Context)
    (hcontrol : Q (.control s.handle (.receive records.length buffer.length)
      (context.getD s.receiving).prepare.overlapped))
    (hresult : Q (.result s.handle (context.getD s.receiving).event true)) :
    (s.recvBatch buffer records context).Fulfils (.each Q)
      (fun r _ => s.Same r.2.1 ∧ (context ≠ none → r.2.1 = s)
        ∧ r.1.buffer.length = buffer.length ∧ r.1.records.length = records.length) () := by
  unfold recvBatch
  split
  · exact ⟨.refl s, fun _ => rfl, rfl, rfl⟩
  · cases context with
    | none =>
      refine fulfils_bind.mpr ((Context.issue_calls s.receiving _ hcontrol hresult).mono ?_)
      intro ended _ kept
      exact ⟨⟨rfl, kept.1, rfl⟩, fun lent => absurd rfl lent, kept.2⟩
    | some own =>
      refine fulfils_bind.mpr ((Context.issue_calls own _ hcontrol hresult).mono ?_)
      intro ended _ kept
      exact ⟨.refl s, fun _ => rfl, kept.2⟩

theorem sendBatch_calls (data : Bytes) (records : List Address) (context : Option Context)
    (hcontrol : Q (.control s.handle (.inject data records)
      (context.getD s.sending).prepare.overlapped))
    (hresult : Q (.result s.handle (context.getD s.sending).event true)) :
    (s.sendBatch data records context).Fulfils (.each Q)
      (fun r _ => s.Same r.2.1 ∧ (context ≠ none → r.2.1 = s)) () := by
  unfold sendBatch
  split
  · exact ⟨.refl s, fun _ => rfl⟩
  · cases context with
    | none =>
      refine fulfils_bind.mpr ((Context.issue_calls s.sending _ hcontrol hresult).mono ?_)
      intro ended _ kept
      exact ⟨⟨rfl, rfl, kept.1⟩, fun lent => absurd rfl lent⟩
    | some own =>
      refine fulfils_bind.mpr ((Context.issue_calls own _ hcontrol hresult).mono ?_)
      intro ended _ kept
      exact ⟨.refl s, fun _ => rfl⟩

end Session

end Requests

namespace Relay

/-! ### The calls of a relay -/

/-- The calls of a relay with some options on a session. -/
inductive Asks (o : Options) (s : Session) : Call → Prop
  | receive {block : Overlapped} (hevent : block.event = s.receiving.event) :
    Asks o s (.control s.handle (.receive o.batch o.bufferSize) block)
  | awaitReceive : Asks o s (.result s.handle s.receiving.event true)
  | inject (passes : o.reinject = true) {data : Bytes} {records : List Address}
      {block : Overlapped} (hdata : data.length ≤ o.bufferSize) (some : records ≠ [])
      (hrecords : records.length ≤ o.batch) (hevent : block.event = s.sending.event) :
    Asks o s (.control s.handle (.inject data records) block)
  | awaitInject (passes : o.reinject = true) : Asks o s (.result s.handle s.sending.event true)

/-! ### Rounds -/

/-- The buffer and the address slots are as large as the options say, and the session is open on a
handle. -/
structure State.Fits (st : State) (o : Options) (handle : Handle) : Prop where
  buffer : st.buffer.length = o.bufferSize
  records : st.records.length = o.batch
  handle : st.session.handle = handle

theorem State.Fits.records_ne_nil {st : State} {o : Options} {handle : Handle}
    (fits : st.Fits o handle) (hbatch : 1 ≤ o.batch) : st.records ≠ [] := by
  intro h
  have hlength := fits.records
  rw [h, List.length_nil] at hlength
  omega

/-- Reporting packets makes no call. -/
theorem runs_reportPackets_bind {β : Type} {f : Unit → Program β} {events : List Event}
    {result : β} (records : List Address) :
    Runs (reportPackets records >>= f) events result ↔ Runs (f ()) events result := by
  induction records with
  | nil => exact Iff.rfl
  | cons a rest ih => exact runs_note_iff.trans ih

/-- The statistics that a relay stands with, unless it was cut short. -/
def Ending.stats? : Ending → Option Stats
  | drained stats | ongoing stats => some stats
  | failed _ | unwound _ => none

/-- A relay at work on a session: it has its room, and it has injected nothing unless it injects. -/
structure State.Works (st : State) (o : Options) (s : Session) : Prop where
  fits : st.Fits o s.handle
  same : s.Same st.session
  passive : o.reinject = false → st.stats.reinjected = 0

/-- How a relay on a session leaves it. -/
def Leaves (o : Options) (s : Session) (ending : Ending) (t : Session) : Prop :=
  s.Same t ∧ ∀ stats ∈ ending.stats?, o.reinject = false → stats.reinjected = 0

def Step.Works (o : Options) (s : Session) : Step → Prop
  | .over ending t => Leaves o s ending t
  | .next st => st.Works o s

section Rounds

variable {o : Options} {s : Session} {st : State}

theorem State.Works.ongoing (works : st.Works o s) : Leaves o s (.ongoing st.stats) st.session := by
  refine ⟨works.same, fun stats hstats => ?_⟩
  cases hstats
  exact works.passive

theorem State.Works.drained (works : st.Works o s) {t : Session} (same : s.Same t) :
    Leaves o s (.drained st.stats) t := by
  refine ⟨same, fun stats hstats => ?_⟩
  cases hstats
  exact works.passive

theorem leaves_failed {t : Session} (same : s.Same t) (e : SessionError) :
    Leaves o s (.failed e) t := ⟨same, fun stats h => by cases h⟩

theorem leaves_unwound {t : Session} (same : s.Same t) (why : Panic) :
    Leaves o s (.unwound why) t := ⟨same, fun stats h => by cases h⟩

theorem works_start (s : Session) (o : Options) : (State.start s o).Works o s where
  fits := ⟨List.length_replicate, List.length_replicate, rfl⟩
  same := .refl s
  passive _ := rfl

theorem passOn_calls (works : st.Works o s) {got : Delivery} (fits : got.count ≤ o.batch) :
    (passOn o st got).Fulfils (.each (Asks o s)) (fun step _ => step.Works o s) () := by
  unfold passOn
  by_cases hpass : o.reinject ∧ got.count > 0
  · rw [if_pos hpass]
    by_cases hread : got.read > st.buffer.length
    · rw [if_pos hread]
      exact leaves_unwound works.same _
    · rw [if_neg hread]
      have hlength : (st.records.take got.count).length = got.count := by
        rw [List.length_take, works.fits.records]
        omega
      have hcontrol : Asks o s (.control st.session.handle
          (.inject (st.buffer.take got.read) (st.records.take got.count))
          st.session.sending.prepare.overlapped) := by
        rw [works.same.handle]
        refine .inject hpass.1 ?_ ?_ (by omega) works.same.sending
        · rw [List.length_take, works.fits.buffer]
          omega
        · intro hnil
          rw [hnil, List.length_nil] at hlength
          omega
      have hresult : Asks o s (.result st.session.handle st.session.sending.event true) := by
        rw [works.same.handle, works.same.sending]
        exact .awaitInject hpass.1
      refine fulfils_bind.mpr
        ((Session.sendBatch_calls st.session _ _ none hcontrol hresult).mono ?_)
      intro r _ sent
      obtain ⟨outcome, session, own⟩ := r
      have same : s.Same session := works.same.trans sent.1
      cases outcome with
      | error e => exact leaves_failed same e
      | unwound why => exact leaves_unwound same why
      | ok written =>
        refine ⟨⟨works.fits.buffer, works.fits.records, same.handle⟩, same, fun passive => ?_⟩
        -- only a relay that injects gets here
        rw [hpass.1] at passive
        cases passive
  · rw [if_neg hpass]
    exact works

theorem round_calls (works : st.Works o s) :
    (round o st).Fulfils (.each (Asks o s)) (fun step _ => step.Works o s) () := by
  have hcontrol : Asks o s (.control st.session.handle
      (.receive st.records.length st.buffer.length) st.session.receiving.prepare.overlapped) := by
    rw [works.same.handle, works.fits.records, works.fits.buffer]
    exact .receive works.same.receiving
  have hresult : Asks o s (.result st.session.handle st.session.receiving.event true) := by
    rw [works.same.handle, works.same.receiving]
    exact .awaitReceive
  refine fulfils_bind.mpr
    ((Session.recvBatch_calls st.session _ _ none hcontrol hresult).mono ?_)
  intro r _ received
  obtain ⟨got, session, own⟩ := r
  obtain ⟨hsession, -, hbuffer, hrecords⟩ := received
  have same : s.Same session := works.same.trans hsession
  dsimp only at hbuffer hrecords ⊢
  split
  · exact leaves_unwound same _
  · split
    · exact works.drained same
    · exact leaves_failed same _
  · rename_i delivery _
    split
    · exact leaves_unwound same _
    · rename_i hroom
      have fitsNow : State.Fits ⟨session, got.buffer, got.records,
          st.stats.received delivery.count delivery.read⟩ o s.handle :=
        ⟨hbuffer.trans works.fits.buffer, hrecords.trans works.fits.records, same.handle⟩
      have worksNow := State.Works.mk fitsNow same works.passive
      refine (fulfils_reportPackets_bind _).mpr (passOn_calls worksNow ?_)
      rw [hrecords, works.fits.records] at hroom
      omega

theorem rounds_calls {limit : Nat} (works : st.Works o s) :
    (rounds o limit st).Fulfils (.each (Asks o s)) (fun r _ => Leaves o s r.1 r.2) () := by
  induction limit generalizing st with
  | zero => exact works.ongoing
  | succ limit ih =>
    refine fulfils_bind.mpr ((round_calls works).mono ?_)
    intro step _ kept
    match step with
    | .over ending t => exact kept
    | .next st => exact ih kept

end Rounds

/-- A relay asks for nothing else, and leaves its session as it found it. -/
theorem run_calls (limit : Nat) (s : Session) (o : Options) :
    (run limit s o).Fulfils (.each (Asks o s)) (fun r _ => Leaves o s r.1 r.2) () := by
  unfold run
  split
  · exact leaves_failed (.refl s) _
  · exact rounds_calls (works_start s o)

end Relay

end PacketDiversion

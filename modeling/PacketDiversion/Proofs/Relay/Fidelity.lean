import Mathlib.Algebra.Ring.Nat
import PacketDiversion.Host.Scripted
import PacketDiversion.Proofs.Operations
import PacketDiversion.Proofs.Relay.Calls
import PacketDiversion.Proofs.Relay.Totals

/-!
# What a relay passes on

A driver delivers a script of batches, one for each receive, and then runs dry; it takes whatever is
injected. Whatever the batches, a relay injects each that has packets exactly once, in order, as it
was delivered, and its counters show the totals of the script (`relays_faithfully`). The buffer and
the address slots are used again for every batch; what an earlier batch has left in them is never
sent.
-/

namespace PacketDiversion.Relay

open Program

/-! ### Scripts -/

/-- Packets with a record for each. -/
structure Batch where
  packets : List Bytes
  records : List Address
  paired : records.length = packets.length

namespace Batch

def data (b : Batch) : Bytes := b.packets.flatten

def count (b : Batch) : Nat := b.packets.length

end Batch

/-- The driver has delivered a batch, no larger than announced: the packets back to back, a record
for each, and both lengths as they are. -/
structure Delivered (b : Batch) (capacity room : UInt32) (done : Completion) : Prop where
  slots : b.count ≤ capacity.toNat / Address.size
  fits : b.data.length ≤ room.toNat
  verdict : done.verdict = .finished (UInt32.ofNat b.data.length)
  output : done.written.output = b.data
  records : done.written.records = b.records
  cell : done.written.recordBytes = some (UInt32.ofNat (b.count * Address.size))

instance (b : Batch) (capacity room : UInt32) (done : Completion) :
    Decidable (Delivered b capacity room done) :=
  decidable_of_iff (b.count ≤ capacity.toNat / Address.size ∧ b.data.length ≤ room.toNat
      ∧ done.verdict = .finished (UInt32.ofNat b.data.length) ∧ done.written.output = b.data
      ∧ done.written.records = b.records
      ∧ done.written.recordBytes = some (UInt32.ofNat (b.count * Address.size)))
    ⟨fun ⟨slots, fits, verdict, output, records, cell⟩ =>
        ⟨slots, fits, verdict, output, records, cell⟩,
      fun h => ⟨h.slots, h.fits, h.verdict, h.output, h.records, h.cell⟩⟩

/-- The queue has run dry. -/
def Dry (done : Completion) : Prop := done.verdict = .failed (.code 232)

/-- The driver has taken what was injected. -/
def Taken (done : Completion) : Prop := ∃ bytes, done.verdict = .finished bytes

/-- The driver answers as scripted: each receive delivers the next batch or finds the queue dry when
there is none left, and each send is taken. -/
def Obeys : List Batch → List Answered → Prop
  | _, [] => True
  | script, x :: rest =>
    match x.request.payload, script with
    | .recv capacity, b :: later =>
      Delivered b capacity (x.request.outputLength.getD 0) x.done ∧ Obeys later rest
    | .recv _, [] => Dry x.done ∧ Obeys [] rest
    | .send .., script => Taken x.done ∧ Obeys script rest
    | .block _, script => Obeys script rest

instance : DecidablePred Dry := fun done => decEq done.verdict (.failed (.code 232))

instance : DecidablePred Taken
  | ⟨.finished bytes, _⟩ => isTrue ⟨bytes, rfl⟩
  | ⟨.failed _, _⟩ | ⟨.panicked, _⟩ => isFalse (fun ⟨_, h⟩ => by cases h)

instance decidableObeys : ∀ (script : List Batch) (answered : List Answered),
    Decidable (Obeys script answered)
  | _, [] => isTrue trivial
  | b :: later, ⟨_, ⟨_, .recv capacity, room⟩, reply⟩ :: rest =>
    have := decidableObeys later rest
    inferInstanceAs (Decidable (Delivered b capacity (room.getD 0) reply ∧ Obeys later rest))
  | [], ⟨_, ⟨_, .recv _, _⟩, reply⟩ :: rest =>
    have := decidableObeys [] rest
    inferInstanceAs (Decidable (Dry reply ∧ Obeys [] rest))
  | script, ⟨_, ⟨_, .send .., _⟩, reply⟩ :: rest =>
    have := decidableObeys script rest
    inferInstanceAs (Decidable (Taken reply ∧ Obeys script rest))
  | script, ⟨_, ⟨_, .block _, _⟩, _⟩ :: rest => decidableObeys script rest

/-- The requests that a relay makes for a batch: the receive, and the injection of what it
delivered, if the relay injects and there are packets. -/
def requestsFor (o : Options) (b : Batch) : List Request :=
  .receive o.batch o.bufferSize
    :: if o.reinject ∧ b.count > 0 then [.inject b.data b.records] else []

/-- What a relay has done when a driver has followed a script with it. -/
def totalsOf (o : Options) (script : List Batch) : Totals where
  batches := script.length
  packets := (script.map Batch.count).sum
  bytes := (script.map fun b => b.data.length).sum
  reinjected := if o.reinject then (script.map Batch.count).sum else 0

theorem totalsOf_cons (o : Options) (b : Batch) (later : List Batch) :
    totalsOf o (b :: later) = totalsOf o [b] + totalsOf o later := by
  by_cases hreinject : o.reinject
  · simp [totalsOf, Totals.add_eq, hreinject, Nat.add_comm]
  · simp [totalsOf, Totals.add_eq, hreinject, Nat.add_comm]

/-- The statistics after one more batch. -/
def Stats.relayed (s : Stats) (o : Options) (b : Batch) : Stats :=
  let received := s.received b.count b.data.length
  if o.reinject ∧ b.count > 0 then received.injected b.count else received

section Counters

variable {o : Options} {s : Stats} {t : Totals}

theorem Stats.Counts.relayed (h : s.Counts t) (b : Batch) :
    (s.relayed o b).Counts (t + totalsOf o [b]) := by
  have received := h.received b.count b.data.length
  by_cases hpass : o.reinject ∧ b.count > 0
  · have htotals : totalsOf o [b] = .receipt b.count b.data.length + .injection b.count := by
      simp [totalsOf, Totals.add_eq, Totals.receipt, Totals.injection, hpass.1]
    rw [Stats.relayed, if_pos hpass, htotals, ← Totals.add_assoc]
    exact received.injected b.count
  · have hnone (hreinject : o.reinject = true) : b.count = 0 :=
      Nat.eq_zero_of_not_pos fun hcount => hpass ⟨hreinject, hcount⟩
    have htotals : totalsOf o [b] = .receipt b.count b.data.length := by
      simpa [totalsOf, Totals.receipt] using hnone
    rw [Stats.relayed, if_neg hpass, htotals]
    exact received

theorem Stats.Counts.foldl_relayed (h : s.Counts t) (script : List Batch) :
    (script.foldl (fun s b => s.relayed o b) s).Counts (t + totalsOf o script) := by
  induction script generalizing s t with
  | nil => simpa [totalsOf, Totals.add_eq] using h
  | cons b later ih =>
    rw [List.foldl_cons, totalsOf_cons, ← Totals.add_assoc]
    exact ih (h.relayed b)

end Counters

/-! ### Lengths on the way through the driver -/

theorem toNat_ofNat_of_le {n : Nat} {bound : UInt32} (h : n ≤ bound.toNat) :
    (UInt32.ofNat n).toNat = n :=
  UInt32.toNat_ofNat_of_lt' (Nat.lt_of_le_of_lt h bound.toNat_lt)

section Delivered

variable {b : Batch} {capacity room : UInt32} {done : Completion}

theorem Delivered.data_length (h : Delivered b capacity room done) :
    (UInt32.ofNat b.data.length).toNat = b.data.length := toNat_ofNat_of_le h.fits

theorem Delivered.cell_count (h : Delivered b capacity room done) :
    (UInt32.ofNat (b.count * Address.size)).toNat / Address.size = b.count := by
  have hcapacity : b.count * Address.size ≤ capacity.toNat :=
    Nat.mul_le_of_le_div _ _ _ h.slots
  rw [toNat_ofNat_of_le hcapacity]
  exact Nat.mul_div_cancel _ (by decide)

theorem Delivered.delivery_eq (h : Delivered b capacity room done) (cell : UInt32) :
    Session.delivery done.verdict (done.written.recordBytes.getD cell)
      = .ok ⟨b.data.length, b.count⟩ := by
  rw [h.verdict, h.cell, Option.getD_some]
  simp only [Session.delivery, Verdict.outcome, Outcome.map, h.data_length, h.cell_count]

/-- A batch that was delivered is within the room that there was. -/
theorem Delivered.within {slots bytes : Nat}
    (h : Delivered b (UInt32.ofNat (slots * Address.size)) (UInt32.ofNat bytes) done) :
    b.count ≤ slots ∧ b.data.length ≤ bytes := by
  have hcapacity : (UInt32.ofNat (slots * Address.size)).toNat / Address.size ≤ slots := by
    have hle := Nat.div_le_div_right (c := Address.size) (toNat_ofNat_le (slots * Address.size))
    rwa [Nat.mul_div_cancel _ (by decide)] at hle
  exact ⟨Nat.le_trans h.slots hcapacity, Nat.le_trans h.fits (toNat_ofNat_le bytes)⟩

end Delivered

/-! ### Rounds -/

section Rounds

variable {o : Options} {handle : Handle} {st : State} {script : List Batch} {b : Batch}
  {events rest : List Event} {step : Step}

/-- A batch that lies in front of the buffer and the slots is passed on as it is. -/
theorem passOn_scripted (fits : st.Fits o handle)
    (hdata : st.buffer.take b.data.length = b.data) (hrecords : st.records.take b.count = b.records)
    (run : Runs (passOn o st ⟨b.data.length, b.count⟩) events step)
    (obeys : Obeys script (exchanges (events ++ rest))) :
    ∃ next, step = .next next ∧ next.Fits o handle
      ∧ next.stats = (if o.reinject ∧ b.count > 0 then st.stats.injected b.count else st.stats)
      ∧ issued events = (if o.reinject ∧ b.count > 0 then [(handle, .inject b.data b.records)]
          else [])
      ∧ Obeys script (exchanges rest) := by
  unfold passOn at run
  by_cases hpass : o.reinject ∧ b.count > 0
  · have hroom : ¬ b.data.length > st.buffer.length := by
      have hlength := congrArg List.length hdata
      rw [List.length_take] at hlength
      omega
    have hsome : b.records ≠ [] := by
      intro h
      have hcount : b.count = 0 := by rw [Batch.count, ← b.paired, h, List.length_nil]
      omega
    simp only [if_pos hpass, if_neg hroom, hdata, hrecords] at run ⊢
    obtain ⟨⟨outcome, session, own⟩, before, after, rfl, sent, run⟩ := runs_bind_iff.mp run
    obtain ⟨done, exchange, houtcome, hsession⟩ := Session.exchange_of_sendBatch hsome sent
    rw [List.append_assoc, exchange.exchanges_append] at obeys
    obtain ⟨⟨bytes, hverdict⟩, later⟩ := obeys
    rw [hverdict] at houtcome
    subst houtcome
    simp only [Verdict.outcome, Outcome.map, runs_report_bind_iff, pure_eq, runs_done_iff] at run
    obtain ⟨rfl, rfl⟩ := run
    refine ⟨_, rfl, ⟨fits.buffer, fits.records, hsession.trans fits.handle⟩, rfl, ?_, later⟩
    rw [List.append_nil, exchange.issued_eq, fits.handle]
  · simp only [if_neg hpass, pure_eq, runs_done_iff] at run ⊢
    obtain ⟨rfl, rfl⟩ := run
    exact ⟨st, rfl, fits, rfl, rfl, obeys⟩

/-- A round that receives a batch passes it on and goes on. -/
theorem round_delivered (hbatch : 1 ≤ o.batch) (fits : st.Fits o handle)
    (run : Runs (round o st) events step)
    (obeys : Obeys (b :: script) (exchanges (events ++ rest))) :
    ∃ next, step = .next next ∧ next.Fits o handle ∧ next.stats = st.stats.relayed o b
      ∧ issued events = (requestsFor o b).map (handle, ·) ∧ Obeys script (exchanges rest) := by
  have hsome := fits.records_ne_nil hbatch
  obtain ⟨⟨got, session, own⟩, before, after, rfl, received, run⟩ := runs_bind_iff.mp run
  obtain ⟨done, exchange, rfl, hsession⟩ := Session.exchange_of_recvBatch hsome received
  rw [List.append_assoc, exchange.exchanges_append] at obeys
  obtain ⟨delivered, later⟩ := obeys
  -- Nothing that was delivered is cut off, and it lies in front of what an earlier batch has left.
  obtain ⟨hcount, hdata⟩ := delivered.within
  have hbuffer : (overlay st.buffer done.written.output).take b.data.length = b.data := by
    rw [delivered.output]
    exact take_overlay hdata
  have hrecords : (overlay st.records done.written.records).take b.count = b.records := by
    have hpaired : b.count = b.records.length := b.paired.symm
    rw [delivered.records, hpaired]
    exact take_overlay (hpaired ▸ hcount)
  have hroom : ¬ b.count > (overlay st.records done.written.records).length := by
    rw [length_overlay]
    omega
  simp only [delivered.delivery_eq, if_neg hroom, runs_reportPackets_bind] at run
  have fitsNow : State.Fits ⟨session, overlay st.buffer done.written.output,
      overlay st.records done.written.records, st.stats.received b.count b.data.length⟩ o handle :=
    ⟨(length_overlay _ _).trans fits.buffer, (length_overlay _ _).trans fits.records,
      hsession.trans fits.handle⟩
  obtain ⟨next, rfl, hnext, hstats, hissued, hobeys⟩ :=
    passOn_scripted fitsNow hbuffer hrecords run later
  refine ⟨next, rfl, hnext, hstats, ?_, hobeys⟩
  rw [issued_append, exchange.issued_eq, hissued, fits.handle, fits.records, fits.buffer]
  unfold requestsFor
  split <;> rfl

/-- A round that finds the queue dry is the last. -/
theorem round_drained (hbatch : 1 ≤ o.batch) (fits : st.Fits o handle)
    (run : Runs (round o st) events step) (obeys : Obeys [] (exchanges (events ++ rest))) :
    ∃ session, step = .over (.drained st.stats) session
      ∧ issued events = [(handle, .receive o.batch o.bufferSize)] := by
  have hsome := fits.records_ne_nil hbatch
  obtain ⟨⟨got, session, own⟩, before, after, rfl, received, run⟩ := runs_bind_iff.mp run
  obtain ⟨done, exchange, rfl, hsession⟩ := Session.exchange_of_recvBatch hsome received
  rw [List.append_assoc, exchange.exchanges_append] at obeys
  have hdry : done.verdict = .failed (.code 232) := obeys.1
  have hdrained : SessionError.isDrained (.host .recv (.code 232)) = true := rfl
  simp only [hdry, Session.delivery, Verdict.outcome, Outcome.map, hdrained, if_true,
    runs_report_bind_iff, pure_eq, runs_done_iff] at run
  obtain ⟨rfl, rfl⟩ := run
  refine ⟨session, rfl, ?_⟩
  rw [List.append_nil, exchange.issued_eq, fits.handle, fits.records, fits.buffer]

/-- A relay that is given enough rounds follows the script to its end. -/
theorem rounds_scripted (hbatch : 1 ≤ o.batch) {limit : Nat} (hlimit : script.length < limit)
    (fits : st.Fits o handle) {ending : Ending} {session : Session}
    (run : Runs (rounds o limit st) events (ending, session))
    (obeys : Obeys script (exchanges events)) :
    ending = .drained (script.foldl (fun s b => s.relayed o b) st.stats)
      ∧ issued events = (script.flatMap (requestsFor o)
          ++ [Request.receive o.batch o.bufferSize]).map (handle, ·) := by
  induction script generalizing limit st events with
  | nil =>
    obtain ⟨limit, rfl⟩ := Nat.exists_eq_succ_of_ne_zero (Nat.ne_of_gt hlimit)
    obtain ⟨step, before, after, rfl, hround, run⟩ := runs_bind_iff.mp run
    obtain ⟨session', rfl, hissued⟩ := round_drained hbatch fits hround obeys
    obtain ⟨rfl, rfl, rfl⟩ := runs_pair_iff.mp run
    rw [List.append_nil]
    exact ⟨rfl, hissued⟩
  | cons b later ih =>
    obtain ⟨limit, rfl⟩ := Nat.exists_eq_succ_of_ne_zero (Nat.ne_of_gt (Nat.zero_lt_of_lt hlimit))
    obtain ⟨step, before, after, rfl, hround, run⟩ := runs_bind_iff.mp run
    obtain ⟨next, rfl, hnext, hstats, hissued, hobeys⟩ := round_delivered hbatch fits hround obeys
    have hlater : later.length < limit := by
      rw [List.length_cons] at hlimit
      omega
    obtain ⟨hending, hrest⟩ := ih hlater hnext run hobeys
    refine ⟨by rw [hending, hstats, List.foldl_cons], ?_⟩
    rw [issued_append, hissued, hrest, List.flatMap_cons, List.append_assoc, List.map_append,
      List.map_append, List.map_append]

end Rounds

/-! ### Whole relays -/

/-- A relay with room for packets, on a driver that delivers a script of batches and then runs dry,
ends well, and its counters show the totals of the script. It makes one receive for each batch and
one that finds the queue dry, and if it injects, one send for each batch with packets, right after
its receive, of that batch's packets and records. It makes no other call. -/
theorem relays_faithfully {o : Options} {script : List Batch} {limit : Nat} {s t : Session}
    {events : List Event} {ending : Ending} (hbatch : 1 ≤ o.batch) (hsize : 1 ≤ o.bufferSize)
    (hlimit : script.length < limit) (run : Runs (Relay.run limit s o) events (ending, t))
    (obeys : Obeys script (exchanges events)) :
    (∃ stats, ending = .drained stats ∧ stats.Counts (totalsOf o script))
      ∧ issued events = (script.flatMap (requestsFor o)
          ++ [Request.receive o.batch o.bufferSize]).map (s.handle, ·)
      ∧ ∀ e ∈ events, e.call.IsRequest := by
  have hcalls : ∀ e ∈ events, e.call.IsRequest := by
    intro e he
    have composed : (Relay.run limit s o).Composed fun _ => False := run_composed limit s o
    exact (composed.call_mem run he).resolve_left id
  have hready : ¬ (o.batch = 0 ∨ o.bufferSize = 0) := by omega
  unfold Relay.run at run
  rw [if_neg hready, runs_report_bind_iff] at run
  have fits : (State.start s o).Fits o s.handle :=
    ⟨List.length_replicate, List.length_replicate, rfl⟩
  obtain ⟨hending, hissued⟩ := rounds_scripted hbatch hlimit fits run obeys
  have hcounts := Stats.counts_start.foldl_relayed (o := o) script
  rw [Totals.zero_add] at hcounts
  exact ⟨⟨_, hending, hcounts⟩, hissued, hcalls⟩

/-- Three batches, the second of them empty. -/
def shipment : List Batch :=
  [⟨[[1, 2], [3]], [Address.zero.setTimestamp 1, Address.zero.setTimestamp 2], rfl⟩,
    ⟨[], [], rfl⟩, ⟨[[4]], [Address.zero.setTimestamp 3], rfl⟩]

/-- A relay of the three, on a system that lets it wait for each request. -/
def delivery : Transcript Scripted.System (Ending × Session) :=
  (Relay.run 4 ⟨0x104, ⟨.withEvent 0x108⟩, ⟨.withEvent 0x10c⟩⟩ ⟨2, 16, true⟩).run Scripted.host
    { pend := true
      arrivals := shipment.map fun b => .batch { packets := b.packets, records := b.records } }

theorem shipment_relayed :
    delivery.value.1 = .drained { batches := 3, packets := 3, bytes := 4, reinjected := 3 }
      ∧ (issued delivery.events).length = 6 := by
  have obeys : Obeys shipment (exchanges delivery.events) := by decide +kernel
  have run : Runs (Relay.run 4 ⟨0x104, ⟨.withEvent 0x108⟩, ⟨.withEvent 0x10c⟩⟩ ⟨2, 16, true⟩)
      delivery.events (delivery.value.1, delivery.value.2) := runs_run _ _ _
  obtain ⟨⟨stats, hending, hcounts⟩, hissued, -⟩ :=
    relays_faithfully (by decide) (by decide) (by decide) run obeys
  have hstats : stats = { batches := 3, packets := 3, bytes := 4, reinjected := 3 } :=
    hcounts.unique ⟨.of_modulo rfl, .of_modulo rfl, .of_modulo rfl, .of_modulo rfl⟩
  exact ⟨hstats ▸ hending, by rw [hissued]; rfl⟩

end PacketDiversion.Relay

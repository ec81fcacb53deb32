import PacketDiversion.Host.Scripted
import PacketDiversion.Proofs.Relay.Course

/-!
# When a relay overruns

A receive gives back two numbers that the driver wrote: the bytes of all packets and, divided by the
size of a record, the length it left in the cell. A relay cuts its slots and its buffer at these
numbers, and it panics over a batch exactly if one of them is beyond what there is to cut
(`panics_exactly_at_overruns`). What was announced to the driver may itself have been cut to 32
bits; it is never more than there is, so a driver that keeps to it is safe whatever the sizes are.
-/

namespace PacketDiversion

open Program

/-! ### Receives within their room -/

/-- The driver has left no more in the length cell of a receive, and reported no more bytes, than
it was announced. -/
def Answered.Modest (x : Answered) : Prop :=
  ∀ capacity, x.request.payload = .recv capacity →
    (∀ recordBytes ∈ x.recordBytes?, recordBytes.toNat ≤ capacity.toNat)
      ∧ ∀ bytes, x.done.verdict = .finished bytes →
        bytes.toNat ≤ (x.request.outputLength.getD 0).toNat

theorem Answered.delivery?_eq {x : Answered} {recordBytes bytes : UInt32}
    (hrecords : x.recordBytes? = some recordBytes) (hverdict : x.done.verdict = .finished bytes) :
    x.delivery? = some ⟨bytes.toNat, recordBytes.toNat / Address.size⟩ := by
  rw [delivery?, hrecords, hverdict]

/-- A length in records that is no more than was announced for some slots is no more than these. -/
theorem div_size_le_of_announced {n slots : Nat}
    (h : n ≤ (UInt32.ofNat (slots * Address.size)).toNat) : n / Address.size ≤ slots := by
  have hle : n ≤ slots * Address.size := Nat.le_trans h (toNat_ofNat_le _)
  have hdiv := Nat.div_le_div_right (c := Address.size) hle
  rwa [Nat.mul_div_cancel _ (by decide)] at hdiv

theorem Answered.Modest.within {x : Answered} {slots bytes : Nat} (modest : x.Modest)
    (receives : x.request = .receive slots bytes) {got : Delivery}
    (delivered : x.delivery? = some got) : got.count ≤ slots ∧ got.read ≤ bytes := by
  have hpayload : x.request.payload = .recv (UInt32.ofNat (slots * Address.size)) := by
    rw [receives, Request.receive]
  have hroom : x.request.outputLength = some (UInt32.ofNat bytes) := by
    rw [receives, Request.receive]
  obtain ⟨hrecords, hbytes⟩ := modest _ hpayload
  unfold delivery? at delivered
  split at delivered
  · rename_i recordBytes read hcell hverdict
    cases delivered
    refine ⟨div_size_le_of_announced (hrecords _ hcell), ?_⟩
    have hread := hbytes _ hverdict
    rw [hroom, Option.getD_some] at hread
    exact Nat.le_trans hread (toNat_ofNat_le bytes)
  · cases delivered

/-- A batch receive is one exchange, and returns what that has delivered. -/
theorem Session.delivery_of_recvBatch {s t : Session} {buffer : Bytes} {records : List Address}
    {context rest : Option Context} {events : List Event} {got : Received Delivery}
    (hrecords : records ≠ [])
    (run : Runs (s.recvBatch buffer records context) events (got, t, rest)) :
    ∃ x, exchanges events = [x] ∧ x.request = .receive records.length buffer.length
      ∧ ∀ d, got.outcome = .ok d ↔ x.delivery? = some d := by
  obtain ⟨done, exchange, rfl, -⟩ := Session.exchange_of_recvBatch hrecords run
  have hexchanges := exchange.exchanges_append []
  rw [List.append_nil] at hexchanges
  refine ⟨_, hexchanges, rfl, fun d => ?_⟩
  have hcell : (Answered.mk s.handle (.receive records.length buffer.length) done).recordBytes?
      = some (done.written.recordBytes.getD (UInt32.ofNat (records.length * Address.size))) := rfl
  cases hverdict : done.verdict with
  | finished bytes =>
    rw [Answered.delivery?_eq hcell hverdict]
    simp only [Session.delivery, Verdict.outcome, Outcome.map, Outcome.ok.injEq, Option.some.injEq]
  | failed e => simp [Session.delivery, Verdict.outcome, Outcome.map, Answered.delivery?, hverdict]
  | panicked => simp [Session.delivery, Verdict.outcome, Outcome.map, Answered.delivery?, hverdict]

namespace Relay

/-! ### Rounds -/

section Laps

variable {o : Options} {stats : Stats} {xs before after : List Answered} {x : Answered}
  {got : Delivery} {result : Except Ending Stats} {why : Panic}

theorem Lap.eq_nil_of_delivery (lap : Lap o stats (before ++ x :: after) result)
    (delivered : x.delivery? = some got) : before = [] := by
  obtain ⟨first, rest, hsplit, -, hrest⟩ := lap.head_receives
  cases before with
  | nil => rfl
  | cons b before =>
    obtain ⟨-, rfl⟩ := List.cons.inj hsplit
    have hnone := hrest x (List.mem_append_right before List.mem_cons_self)
    rw [hnone] at delivered
    cases delivered

theorem Lap.overruns_iff (lap : Lap o stats (x :: after) result)
    (delivered : x.delivery? = some got) :
    Overruns o got ↔ after = [] ∧ result = .error (.unwound .overrun) := by
  have same {first : Delivery} (hfirst : x.delivery? = some first) : got = first :=
    Option.some.inj (delivered.symm.trans hfirst)
  cases lap with
  | unreceived _ stops =>
    exact absurd (finished_of_delivery delivered) (not_finished_of_stopped stops)
  | overrun _ hfirst overruns =>
    rw [same hfirst]
    exact ⟨fun _ => ⟨rfl, rfl⟩, fun _ => overruns⟩
  | kept _ hfirst fits _ =>
    rw [same hfirst]
    exact ⟨fun h => absurd h fits, fun h => by cases h.2⟩
  | unsent _ hfirst fits _ _ _ =>
    rw [same hfirst]
    exact ⟨fun h => absurd h fits, fun h => by cases h.1⟩
  | passed _ hfirst fits _ _ _ =>
    rw [same hfirst]
    exact ⟨fun h => absurd h fits, fun h => by cases h.1⟩

theorem panicked_of_stopped {operation : Operation} {verdict : Verdict}
    (stops : stopped operation stats verdict = some (.unwound why)) : verdict = .panicked := by
  rcases stopped_cases stops with ⟨e, -, h | h⟩ | ⟨hverdict, -⟩
  · cases h
  · cases h
  · exact hverdict

/-- A round is unwound by a request that panicked, or right after a batch that overruns. -/
theorem Lap.unwound (lap : Lap o stats xs (.error (.unwound why))) :
    (∃ x ∈ xs, x.done.verdict = .panicked)
      ∨ why = .overrun ∧ ∃ x got, xs = [x] ∧ x.delivery? = some got ∧ Overruns o got := by
  cases lap with
  | unreceived _ stops => exact .inl ⟨_, List.mem_cons_self, panicked_of_stopped stops⟩
  | overrun _ delivered overruns => exact .inr ⟨rfl, _, _, rfl, delivered, overruns⟩
  | unsent _ _ _ _ _ stops =>
    exact .inl ⟨_, List.mem_cons_of_mem _ List.mem_cons_self, panicked_of_stopped stops⟩

end Laps

/-! ### Whole relays -/

section Courses

variable {o : Options} {limit : Nat} {stats : Stats} {xs before after : List Answered}
  {x : Answered} {got : Delivery} {ending : Ending} {why : Panic}

/-- A batch that overruns is the last, and a relay that ends so has just met one. -/
theorem Course.overruns_iff (course : Course o limit stats xs ending)
    (hsplit : xs = before ++ x :: after) (delivered : x.delivery? = some got) :
    Overruns o got ↔ after = [] ∧ ending = .unwound .overrun := by
  induction course generalizing before after with
  | paused => cases before <;> cases hsplit
  | ended lap =>
    rw [hsplit] at lap
    obtain rfl := lap.eq_nil_of_delivery delivered
    rw [lap.overruns_iff delivered, Except.error.injEq]
  | @more limit stats next xs ys ending lap rest ih =>
    rcases List.append_eq_append_iff.mp hsplit with ⟨skipped, rfl, hys⟩ | ⟨skipped, hxs, hsplit⟩
    · exact ih hys
    · cases skipped with
      | nil => exact ih (hsplit.symm.trans (List.nil_append _).symm)
      | cons first skipped =>
        -- the batch is of this round, and the relay goes on after it
        obtain ⟨rfl, rfl⟩ := List.cons.inj hsplit
        rw [hxs] at lap
        obtain rfl := lap.eq_nil_of_delivery delivered
        have fits : ¬ Overruns o got := fun h => by
          cases ((lap.overruns_iff delivered).mp h).2
        refine ⟨fun h => absurd h fits, fun h => ?_⟩
        obtain ⟨hnil, rfl⟩ := h
        obtain ⟨-, rfl⟩ := List.append_eq_nil_iff.mp hnil
        cases rest.ending_of_nil

theorem Course.unwound (course : Course o limit stats xs ending) (hending : ending = .unwound why)
    (returns : ∀ x ∈ xs, x.done.verdict ≠ .panicked) :
    why = .overrun
      ∧ ∃ before x got, xs = before ++ [x] ∧ x.delivery? = some got ∧ Overruns o got := by
  induction course with
  | paused => cases hending
  | ended lap =>
    rw [hending] at lap
    rcases lap.unwound with ⟨x, hx, hverdict⟩ | ⟨rfl, x, got, rfl, hover⟩
    · exact absurd hverdict (returns x hx)
    · exact ⟨rfl, [], x, got, rfl, hover⟩
  | @more limit stats next xs ys ending lap rest ih =>
    obtain ⟨rfl, before, x, got, rfl, hover⟩ :=
      ih hending fun x hx => returns x (List.mem_append_right xs hx)
    exact ⟨rfl, xs ++ before, x, got, (List.append_assoc ..).symm, hover⟩

/-- The receives of a relay all ask for as much as it has room for. -/
theorem Course.receives (course : Course o limit stats xs ending) (hx : x ∈ xs)
    (delivered : x.delivery? = some got) : x.request = .receive o.batch o.bufferSize := by
  have of_lap {result : Except Ending Stats} {stats : Stats} {xs : List Answered}
      (lap : Lap o stats xs result) (hx : x ∈ xs) : x.request = .receive o.batch o.bufferSize := by
    obtain ⟨before, after, rfl⟩ := List.append_of_mem hx
    obtain rfl := lap.eq_nil_of_delivery delivered
    obtain ⟨first, rest, hsplit, receives, -⟩ := lap.head_receives
    obtain ⟨rfl, -⟩ := List.cons.inj hsplit
    exact receives
  induction course with
  | paused => cases hx
  | ended lap => exact of_lap lap hx
  | more lap _ ih =>
    rcases List.mem_append.mp hx with hx | hx
    · exact of_lap lap hx
    · exact ih hx

end Courses

/-- A batch receive, on whatever context, that finishes with a byte count and leaves a length in the
cell returns the count and how many records go into the length; if neither is more than was
announced, then they are no more than the buffer and the slots have. A relay with room for packets,
whose requests return, panics over a batch exactly if it overruns: there are more records than
slots, or the relay injects, there is a packet and there are more bytes than the buffer has. It
panics nowhere else, and never if the driver keeps to what it was announced. -/
theorem panics_exactly_at_overruns :
    (∀ {s t : Session} {buffer : Bytes} {records : List Address} {context rest : Option Context}
        {events : List Event} {got : Received Delivery}, records ≠ [] →
      Runs (s.recvBatch buffer records context) events (got, t, rest) →
      ∃ x, exchanges events = [x]
        ∧ (∀ bytes recordBytes, x.done.verdict = .finished bytes →
          x.recordBytes? = some recordBytes →
          got.outcome = .ok ⟨bytes.toNat, recordBytes.toNat / Address.size⟩)
        ∧ (x.Modest → ∀ d, got.outcome = .ok d →
          d.count ≤ records.length ∧ d.read ≤ buffer.length))
    ∧ (∀ {o : Options} {limit : Nat} {s t : Session} {events : List Event} {ending : Ending},
      1 ≤ o.batch → 1 ≤ o.bufferSize → Runs (Relay.run limit s o) events (ending, t) →
      (∀ x ∈ exchanges events, x.done.verdict ≠ .panicked) →
      (∀ before x after got, exchanges events = before ++ x :: after → x.delivery? = some got →
        (Overruns o got ↔ after = [] ∧ ending = .unwound .overrun))
      ∧ (∀ why, ending = .unwound why → why = .overrun
        ∧ ∃ before x got, exchanges events = before ++ [x] ∧ x.delivery? = some got
          ∧ Overruns o got)
      ∧ ((∀ x ∈ exchanges events, x.Modest) → ∀ why, ending ≠ .unwound why)) := by
  constructor
  · intro s t buffer records context rest events got hrecords run
    obtain ⟨x, hexchanges, receives, houtcome⟩ := Session.delivery_of_recvBatch hrecords run
    refine ⟨x, hexchanges, fun bytes recordBytes hverdict hcell => ?_, fun modest d hok => ?_⟩
    · exact (houtcome _).mpr (Answered.delivery?_eq hcell hverdict)
    · exact modest.within receives ((houtcome d).mp hok)
  · intro o limit s t events ending hbatch hsize run returns
    obtain ⟨-, course⟩ := course_of_run hbatch hsize run
    refine ⟨fun before x after got => course.overruns_iff, fun why hending => ?_, ?_⟩
    · exact course.unwound hending returns
    · intro modest why hending
      obtain ⟨-, before, x, got, hsplit, delivered, hover⟩ := course.unwound hending returns
      have hx : x ∈ exchanges events := by
        rw [hsplit]
        exact List.mem_append_right before List.mem_cons_self
      obtain ⟨hcount, hread⟩ := (modest x hx).within (course.receives hx delivered) delivered
      rcases hover with hover | ⟨-, hover⟩
      · omega
      · omega

/-- A driver that claims too much: first bytes beyond the buffer, but not a whole record; then three
records for two slots. -/
def boasting : Transcript Scripted.System (Ending × Session) :=
  (Relay.run 4 ⟨0x104, ⟨.withEvent 0x108⟩, ⟨.withEvent 0x10c⟩⟩ ⟨2, 16, true⟩).run Scripted.host
    { pend := true
      arrivals := [
        .batch { packets := [[1, 2]], bytes := some 17, recordBytes := some 79 },
        .batch { packets := [[3]], recordBytes := some 240 },
        .batch { packets := [[4]] }] }

theorem boasting_panics :
    boasting.value.1 = .unwound .overrun ∧ (exchanges boasting.events).length = 2 := by
  have run : Runs (Relay.run 4 ⟨0x104, ⟨.withEvent 0x108⟩, ⟨.withEvent 0x10c⟩⟩ ⟨2, 16, true⟩)
      boasting.events (boasting.value.1, boasting.value.2) := runs_run _ _ _
  obtain ⟨hexact, -, -⟩ := panics_exactly_at_overruns.2 (by decide) (by decide) run
    (by decide +kernel)
  obtain ⟨first, second, hsplit, hdelivery⟩ : ∃ first second,
      exchanges boasting.events = [first] ++ second :: []
        ∧ second.delivery? = some ⟨1, 3⟩ := ⟨_, _, rfl, by decide +kernel⟩
  have hover : Overruns ⟨2, 16, true⟩ ⟨1, 3⟩ := .inl (by decide)
  exact ⟨((hexact _ _ _ _ hsplit hdelivery).mp hover).2, by rw [hsplit]; rfl⟩

end Relay

end PacketDiversion

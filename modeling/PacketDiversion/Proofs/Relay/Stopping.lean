import Mathlib.Algebra.Ring.Nat
import Mathlib.Data.List.Chain
import PacketDiversion.Host.Scripted
import PacketDiversion.Proofs.Operations
import PacketDiversion.Proofs.Relay.Course
import PacketDiversion.Proofs.Relay.Totals

/-!
# When a relay stops

On a driver that never reports more than a relay has room for, a relay stops at the first request
that fails, and how it ends is told by that request alone: only a receive can find the queue dry.
Up to there it receives, injects what it received where it is to, and receives again, and its
counters show the totals of what has succeeded (`stops_at_first_failure`).
-/

namespace PacketDiversion.Relay

open Program

/-! ### Totals of exchanges -/

/-- What some exchanges come to: each receive that succeeded is a batch, with its packets and bytes,
and each send that succeeded has injected its records. -/
def totalsOver (xs : List Answered) : Totals where
  batches := (xs.filterMap Answered.delivery?).length
  packets := ((xs.filterMap Answered.delivery?).map Delivery.count).sum
  bytes := ((xs.filterMap Answered.delivery?).map Delivery.read).sum
  reinjected := (xs.filterMap Answered.injected?).sum

theorem totalsOver_append (xs ys : List Answered) :
    totalsOver (xs ++ ys) = totalsOver xs + totalsOver ys := by
  simp only [totalsOver, Totals.add_eq, List.filterMap_append, List.length_append, List.map_append,
    List.sum_append]

theorem totalsOver_pair (x y : Answered) :
    totalsOver [x, y] = totalsOver [x] + totalsOver [y] := totalsOver_append [x] [y]

section Totals

variable {o : Options} {x : Answered} {got : Delivery}

theorem totalsOver_of_not_finished (failed : ¬ x.Finished) : totalsOver [x] = {} := by
  simp [totalsOver, delivery?_of_not_finished failed, injected?_of_not_finished failed]

theorem totalsOver_of_receives (receives : x.request = .receive o.batch o.bufferSize)
    (delivered : x.delivery? = some got) : totalsOver [x] = .receipt got.count got.read := by
  simp [totalsOver, Totals.receipt, delivered, injected?_of_receives receives]

theorem totalsOver_of_injects (injects : Injects got x.request) (sent : x.Finished) :
    totalsOver [x] = .injection got.count := by
  simp [totalsOver, Totals.injection, delivery?_of_injects injects,
    injected?_of_injects injects sent]

end Totals

/-! ### What comes next, and the end -/

instance (o : Options) (got : Delivery) : Decidable (o.Passes got) :=
  inferInstanceAs (Decidable (_ ∧ _))

/-- The request that is due after an exchange: what was delivered is injected, if the relay injects
and it has packets; and then the relay receives again. -/
def Due (o : Options) (x : Answered) (request : Request) : Prop :=
  match x.delivery? with
  | some got =>
    if o.Passes got then Injects got request else request = .receive o.batch o.bufferSize
  | none => request = .receive o.batch o.bufferSize

/-- An exchange is followed by another only if it has succeeded, and by the one that is due. -/
def Follows (o : Options) (x y : Answered) : Prop := x.Finished ∧ Due o x y.request

/-- How a relay with some statistics stands after its exchanges: the last one tells. -/
def endingAfter (stats : Stats) (xs : List Answered) : Ending :=
  (xs.getLast?.bind fun x => stopped x.operation stats x.done.verdict).getD (.ongoing stats)

theorem endingAfter_of_last {stats : Stats} {x : Answered} {xs : List Answered} :
    endingAfter stats (xs ++ [x])
      = (stopped x.operation stats x.done.verdict).getD (.ongoing stats) := by
  rw [endingAfter, List.getLast?_concat, Option.bind_some]

section Due

variable {o : Options} {x : Answered} {got : Delivery} {request : Request}

theorem due_of_passes (delivered : x.delivery? = some got) (passes : o.Passes got)
    (injects : Injects got request) : Due o x request := by
  simp only [Due, delivered, if_pos passes, injects]

theorem due_of_keeps (delivered : x.delivery? = some got) (keeps : ¬ o.Passes got) :
    Due o x (.receive o.batch o.bufferSize) := by
  simp only [Due, delivered, if_neg keeps]

theorem due_of_injects (injects : Injects got x.request) :
    Due o x (.receive o.batch o.bufferSize) := by
  simp only [Due, delivery?_of_injects injects]

end Due

/-! ### Rounds -/

section Laps

variable {o : Options} {stats next : Stats} {t : Totals} {xs : List Answered} {ending : Ending}
  {result : Except Ending Stats}

theorem Lap.isChain (lap : Lap o stats xs result) : xs.IsChain (Follows o) := by
  cases lap with
  | unreceived _ _ => exact List.isChain_singleton _
  | overrun _ _ _ => exact List.isChain_singleton _
  | kept _ _ _ _ => exact List.isChain_singleton _
  | unsent _ delivered _ passes injects _ =>
    exact List.isChain_pair.mpr
      ⟨finished_of_delivery delivered, due_of_passes delivered passes injects⟩
  | passed _ delivered _ passes injects _ =>
    exact List.isChain_pair.mpr
      ⟨finished_of_delivery delivered, due_of_passes delivered passes injects⟩

/-- A round that the relay goes on from has succeeded to its last request, and it is time to
receive again. -/
theorem Lap.last_due (lap : Lap o stats xs (.ok next)) :
    ∃ before x, xs = before ++ [x] ∧ x.Finished ∧ Due o x (.receive o.batch o.bufferSize) := by
  cases lap with
  | kept _ delivered _ keeps =>
    exact ⟨[], _, rfl, finished_of_delivery delivered, due_of_keeps delivered keeps⟩
  | passed _ _ _ _ injects sent => exact ⟨[_], _, rfl, sent, due_of_injects injects⟩

/-- A round that the relay goes on from is one batch. -/
theorem Lap.batches (lap : Lap o stats xs (.ok next)) : (totalsOver xs).batches = 1 := by
  cases lap with
  | kept receives delivered _ _ => rw [totalsOver_of_receives receives delivered, Totals.receipt]
  | @passed x y got receives delivered _ _ injects sent =>
    rw [totalsOver_pair, totalsOver_of_receives receives delivered,
      totalsOver_of_injects injects sent]
    rfl

/-- Counters that have shown the totals up to a round show them after it. -/
theorem Lap.counts (lap : Lap o stats xs (.ok next)) (h : stats.Counts t) :
    next.Counts (t + totalsOver xs) := by
  cases lap with
  | @kept x got receives delivered _ _ =>
    rw [totalsOver_of_receives receives delivered]
    exact h.received got.count got.read
  | @passed x y got receives delivered _ _ injects sent =>
    rw [totalsOver_pair, totalsOver_of_receives receives delivered,
      totalsOver_of_injects injects sent, ← Totals.add_assoc]
    exact (h.received got.count got.read).injected got.count

/-- A round that ends the relay ends it as its last request says. -/
theorem Lap.ending_eq (lap : Lap o stats xs (.error ending)) (h : stats.Counts t)
    (fits : ∀ x ∈ xs, ∀ got ∈ x.delivery?, ¬ Overruns o got) :
    ∃ last : Stats, last.Counts (t + totalsOver xs) ∧ ending = endingAfter last xs := by
  cases lap with
  | @unreceived x _ receives stops =>
    refine ⟨stats, ?_, ?_⟩
    · rwa [totalsOver_of_not_finished (not_finished_of_stopped stops), Totals.add_zero]
    · rw [← List.nil_append [x], endingAfter_of_last, operation_of_receives receives, stops,
        Option.getD_some]
  | @overrun x got _ delivered overruns =>
    exact absurd overruns (fits x List.mem_cons_self got delivered)
  | @unsent x y got _ receives delivered _ _ injects stops =>
    refine ⟨stats.received got.count got.read, ?_, ?_⟩
    · rw [totalsOver_pair, totalsOver_of_receives receives delivered,
        totalsOver_of_not_finished (not_finished_of_stopped stops), Totals.add_zero]
      exact h.received got.count got.read
    · have hlast : [x, y] = [x] ++ [y] := rfl
      rw [hlast, endingAfter_of_last, operation_of_injects injects, stops, Option.getD_some]

end Laps

/-! ### Whole relays -/

section Courses

variable {o : Options} {limit : Nat} {stats : Stats} {t : Totals} {xs : List Answered}
  {ending : Ending}

theorem Course.head_receives (course : Course o limit stats xs ending) :
    ∀ x ∈ xs.head?, x.request = .receive o.batch o.bufferSize := by
  intro x hx
  cases course with
  | paused => cases hx
  | ended lap =>
    obtain ⟨first, rest, rfl, receives, -⟩ := lap.head_receives
    cases hx
    exact receives
  | more lap _ =>
    obtain ⟨first, rest, rfl, receives, -⟩ := lap.head_receives
    cases hx
    exact receives

/-- From one round to the next the relay goes on only after its last request has succeeded. -/
theorem Course.isChain (course : Course o limit stats xs ending) : xs.IsChain (Follows o) := by
  induction course with
  | paused => exact List.isChain_nil
  | ended lap => exact lap.isChain
  | more lap rest ih =>
    refine List.isChain_append.mpr ⟨lap.isChain, ih, fun x hx y hy => ?_⟩
    obtain ⟨before, last, rfl, finished, due⟩ := lap.last_due
    rw [List.getLast?_concat] at hx
    cases hx
    rw [Follows, rest.head_receives y hy]
    exact ⟨finished, due⟩

/-- The last request tells how the relay ends, and its counters show the totals. -/
theorem Course.ending_eq (course : Course o limit stats xs ending) (h : stats.Counts t)
    (fits : ∀ x ∈ xs, ∀ got ∈ x.delivery?, ¬ Overruns o got) :
    ∃ last : Stats, last.Counts (t + totalsOver xs) ∧ ending = endingAfter last xs := by
  induction course generalizing t with
  | @paused stats => exact ⟨stats, h, rfl⟩
  | ended lap => exact lap.ending_eq h fits
  | @more limit stats next xs ys ending lap rest ih =>
    obtain ⟨final, hcounts, hending⟩ :=
      ih (lap.counts h) fun x hx => fits x (List.mem_append_right xs hx)
    rw [Totals.add_assoc, ← totalsOver_append] at hcounts
    refine ⟨final, hcounts, ?_⟩
    rcases List.eq_nil_or_concat ys with rfl | ⟨ys, y, rfl⟩
    · -- no round is left: the last one has succeeded
      obtain ⟨before, last, rfl, finished, -⟩ := lap.last_due
      rw [hending, List.append_nil, endingAfter_of_last, stopped_of_finished finished,
        Option.getD_none]
      rfl
    · rw [hending, List.concat_eq_append, ← List.append_assoc, endingAfter_of_last,
        endingAfter_of_last]

/-- A relay that is still at work has used up its receives, and it is time for the next. -/
theorem Course.ongoing (course : Course o limit stats xs ending) {last : Stats}
    (hending : ending = .ongoing last) :
    (totalsOver xs).batches = limit
      ∧ ∀ x ∈ xs.getLast?, Due o x (.receive o.batch o.bufferSize) := by
  induction course with
  | paused => exact ⟨rfl, fun x hx => by cases hx⟩
  | ended lap =>
    rw [hending] at lap
    cases lap with
    | unreceived _ stops => simpa using stopped_cases stops
    | unsent _ _ _ _ _ stops => simpa using stopped_cases stops
  | @more limit stats next xs ys ending lap rest ih =>
    obtain ⟨hbatches, hdue⟩ := ih hending
    refine ⟨?_, fun x hx => ?_⟩
    · calc (totalsOver (xs ++ ys)).batches
          = (totalsOver xs).batches + (totalsOver ys).batches :=
            congrArg Totals.batches (totalsOver_append xs ys)
        _ = limit + 1 := by rw [lap.batches, hbatches, Nat.add_comm]
    · rcases List.eq_nil_or_concat ys with rfl | ⟨ys, y, rfl⟩
      · obtain ⟨before, last, rfl, -, due⟩ := lap.last_due
        rw [List.append_nil, List.getLast?_concat] at hx
        cases hx
        exact due
      · rw [List.concat_eq_append, ← List.append_assoc, List.getLast?_concat] at hx
        rw [List.concat_eq_append, List.getLast?_concat] at hdue
        exact hdue x hx

end Courses

/-- A relay with room for packets, on a driver that never reports more than it has room for, makes
its requests one at a time on the session's handle, and no other call. It begins with a receive. A
request is followed by another only if it has succeeded: what was received is injected, if it is to
be and there are packets, and then the relay receives again. So the last request tells how the relay
ends: a receive that failed with code 232 ends it well, with counters that show the totals of all
that has succeeded; any other failure ends it with the error of that receive or send. Only a relay
that has used up its receives is still at work, with nothing left to inject. -/
theorem stops_at_first_failure {o : Options} {limit : Nat} {s t : Session} {events : List Event}
    {ending : Ending} (hbatch : 1 ≤ o.batch) (hsize : 1 ≤ o.bufferSize)
    (run : Runs (Relay.run limit s o) events (ending, t))
    (within : ∀ x ∈ exchanges events, ∀ got ∈ x.delivery?,
      got.count ≤ o.batch ∧ got.read ≤ o.bufferSize) :
    Conversation s.handle events (exchanges events)
      ∧ (∀ e ∈ events, e.call.IsRequest)
      ∧ (∀ x ∈ (exchanges events).head?, x.request = .receive o.batch o.bufferSize)
      ∧ (exchanges events).IsChain (Follows o)
      ∧ (∃ stats : Stats, stats.Counts (totalsOver (exchanges events))
        ∧ ending = endingAfter stats (exchanges events))
      ∧ (∀ stats, ending = .ongoing stats → (totalsOver (exchanges events)).batches = limit
        ∧ ∀ x ∈ (exchanges events).getLast?, Due o x (.receive o.batch o.bufferSize)) := by
  have hcalls : ∀ e ∈ events, e.call.IsRequest := by
    intro e he
    have composed : (Relay.run limit s o).Composed fun _ => False := run_composed limit s o
    exact (composed.call_mem run he).resolve_left id
  have fits : ∀ x ∈ exchanges events, ∀ got ∈ x.delivery?, ¬ Overruns o got := by
    intro x hx got hgot hover
    obtain ⟨hcount, hread⟩ := within x hx got hgot
    rcases hover with hover | ⟨-, hover⟩
    · omega
    · omega
  obtain ⟨conversation, course⟩ := course_of_run hbatch hsize run
  obtain ⟨stats, hcounts, hending⟩ := course.ending_eq Stats.counts_start fits
  rw [Totals.zero_add] at hcounts
  exact ⟨conversation, hcalls, course.head_receives, course.isChain, ⟨stats, hcounts, hending⟩,
    fun _ hongoing => course.ongoing hongoing⟩

/-- Batches of two packets, none and one arrive, and the second injection fails with the code that
ends a receive well. -/
def severed : Transcript Scripted.System (Ending × Session) :=
  (Relay.run 4 ⟨0x104, ⟨.withEvent 0x108⟩, ⟨.withEvent 0x10c⟩⟩ ⟨2, 16, true⟩).run Scripted.host
    (Scripted.System.setFates
      { pend := true
        arrivals := [[[1, 2], [3]], [], [[4]]].map fun packets => .batch { packets := packets } }
      .send [.success, .failure 232])

theorem severed_stops :
    severed.value.1 = .failed (.host .send (.code 232))
      ∧ totalsOver (exchanges severed.events)
        = { batches := 3, packets := 3, bytes := 4, reinjected := 2 } := by
  have run : Runs (Relay.run 4 ⟨0x104, ⟨.withEvent 0x108⟩, ⟨.withEvent 0x10c⟩⟩ ⟨2, 16, true⟩)
      severed.events (severed.value.1, severed.value.2) := runs_run _ _ _
  have within : ∀ x ∈ exchanges severed.events, ∀ got ∈ x.delivery?,
      got.count ≤ 2 ∧ got.read ≤ 16 := by decide +kernel
  have htotals : totalsOver (exchanges severed.events)
      = { batches := 3, packets := 3, bytes := 4, reinjected := 2 } := by decide +kernel
  obtain ⟨-, -, -, -, ⟨stats, hcounts, hending⟩, -⟩ :=
    stops_at_first_failure (by decide) (by decide) run within
  rw [htotals] at hcounts
  obtain rfl : stats = { batches := 3, packets := 3, bytes := 4, reinjected := 2 } :=
    hcounts.unique ⟨.of_modulo rfl, .of_modulo rfl, .of_modulo rfl, .of_modulo rfl⟩
  exact ⟨hending.trans (by decide +kernel), htotals⟩

end PacketDiversion.Relay

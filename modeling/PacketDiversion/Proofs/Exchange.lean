import PacketDiversion.Context
import PacketDiversion.Proofs.Runs

/-!
# Exchanges

A request that is seen through to its end is one call, or two when the driver takes the request
without finishing it and is waited for. An `Exchange` is such a group of events with what it comes
to, and a context issues a request by one exchange, whatever the system answers
(`exchange_of_runs`).
-/

namespace PacketDiversion

open Program

/-! ### Writing twice -/

/-- Writing twice leaves the second writing, what the first reached beyond it, and the rest. -/
theorem overlay_overlay {α : Type} (room first second : List α) :
    overlay (overlay room first) second = overlay room (second ++ first.drop second.length) := by
  have hroom : (room.drop first.length).drop (second.length - min room.length first.length)
      = room.drop (second.length + (first.length - second.length)) := by
    rw [List.drop_drop]
    by_cases h : first.length ≤ room.length
    · congr 1
      omega
    · rw [List.drop_of_length_le (by omega), List.drop_of_length_le (by omega)]
  have hlength : (overlay room first).length = room.length := length_overlay room first
  have hsecond : overlay (overlay room first) second
      = second.take room.length ++ (overlay room first).drop second.length := by
    rw [overlay, hlength]
  rw [hsecond, overlay, overlay, List.drop_append, List.take_append, List.append_assoc,
    List.length_take, List.length_append, List.length_drop, hroom, List.drop_take]

/-- What has been written after `w` was and then `v`. -/
def Written.andThen (w v : Written) : Written where
  output := v.output ++ w.output.drop v.output.length
  records := v.records ++ w.records.drop v.records.length
  recordBytes := v.recordBytes.or w.recordBytes
  words := v.words.or w.words

theorem Memory.absorb_absorb (m : Memory) (w v : Written) :
    (m.absorb w).absorb v = m.absorb (w.andThen v) := by
  simp only [Memory.absorb, Written.andThen, overlay_overlay, Option.getD_or]

theorem Context.absorb_absorb (c : Context) (w v : Written) :
    (c.absorb w).absorb v = c.absorb (w.andThen v) := by
  simp only [Context.absorb, Written.andThen, Option.getD_or]

@[simp] theorem Memory.absorb_nothing (m : Memory) : m.absorb {} = m := by
  simp only [Memory.absorb, overlay_nil, Option.getD_none]

@[simp] theorem Context.absorb_nothing (c : Context) : c.absorb {} = c := rfl

/-! ### Requests and their ends -/

def Verdict.isPending : Verdict → Bool
  | failed e => e.isPending
  | finished _ | panicked => false

/-- The events of a request that is issued on a block and seen through, with what it comes to. -/
inductive Exchange (handle : Handle) (request : Request) (block : Overlapped) :
    List Event → Completion → Prop
  /-- The driver is done with it at once. -/
  | atOnce {reply : Completion} (hpending : reply.verdict.isPending = false) :
    Exchange handle request block [⟨.control handle request block, reply⟩] reply
  /-- The driver takes it, and it is waited for. -/
  | later {taken reply : Completion} (hpending : taken.verdict.isPending = true) :
    Exchange handle request block
      [⟨.control handle request block, taken⟩, ⟨.result handle block.event true, reply⟩]
      ⟨reply.verdict, taken.written.andThen reply.written⟩

variable {c : Context} {handle : Handle} {request : Request} {m : Memory}

/-- A request that is waited for ends with what the wait returns. -/
theorem awaited_of_runs {code : UInt32} {events : List Event} {ended : Issued}
    (run : Runs (c.awaitResult handle code m) events ended) :
    ∃ reply : Completion, events = [⟨.result handle c.event true, reply⟩]
      ∧ ended = ⟨reply.verdict, c.absorb reply.written, m.absorb reply.written⟩ := by
  unfold Context.awaitResult at run
  rw [runs_report_bind_iff, runs_ask_bind_iff] at run
  obtain ⟨reply, rest, rfl, run⟩ := run
  have hrest : rest = [] ∧ ended
      = ⟨reply.verdict, c.absorb reply.written, m.absorb reply.written⟩ := by
    cases hverdict : reply.verdict with
    | finished bytes => simpa [hverdict] using run
    | failed e => simpa [hverdict] using run
    | panicked => simpa [hverdict] using run
  exact ⟨reply, by rw [hrest.1], hrest.2⟩

/-- A request that is issued on a context is one exchange; the context and the memory it was lent
take up all that was written. -/
theorem exchange_of_runs {events : List Event} {ended : Issued}
    (run : Runs (c.issue handle request m) events ended) :
    ∃ done, Exchange handle request c.prepare.overlapped events done
      ∧ ended = ⟨done.verdict, c.prepare.absorb done.written, m.absorb done.written⟩ := by
  unfold Context.issue at run
  rw [runs_ask_bind_iff] at run
  obtain ⟨first, rest, rfl, run⟩ := run
  cases hverdict : first.verdict with
  | finished bytes =>
    simp only [hverdict, runs_report_bind_iff, pure_eq, runs_done_iff] at run
    obtain ⟨rfl, rfl⟩ := run
    exact ⟨first, .atOnce (by rw [hverdict]; rfl), by rw [hverdict]⟩
  | panicked =>
    simp only [hverdict, pure_eq, runs_done_iff] at run
    obtain ⟨rfl, rfl⟩ := run
    exact ⟨first, .atOnce (by rw [hverdict]; rfl), by rw [hverdict]⟩
  | failed e =>
    by_cases hpending : e.isPending = true
    · simp only [hverdict, hpending, if_true] at run
      obtain ⟨reply, rfl, rfl⟩ := awaited_of_runs run
      refine ⟨_, .later (by rw [hverdict]; exact hpending), ?_⟩
      rw [Context.absorb_absorb, Memory.absorb_absorb]
    · simp only [hverdict, if_neg hpending, pure_eq, runs_done_iff] at run
      obtain ⟨rfl, rfl⟩ := run
      refine ⟨first, .atOnce ?_, by rw [hverdict]⟩
      rw [hverdict]
      exact Bool.eq_false_iff.mpr hpending

theorem runs_awaitResult {code : UInt32} (reply : Completion) :
    Runs (c.awaitResult handle code m) [⟨.result handle c.event true, reply⟩]
      ⟨reply.verdict, c.absorb reply.written, m.absorb reply.written⟩ := by
  unfold Context.awaitResult
  rw [runs_report_bind_iff, runs_ask_bind_iff]
  refine ⟨reply, [], rfl, ?_⟩
  cases reply.verdict with
  | finished bytes => exact .note (.done _)
  | failed e => exact .done _
  | panicked => exact .done _

/-- Every exchange is one that a context may come to. -/
theorem runs_of_exchange {events : List Event} {done : Completion}
    (exchange : Exchange handle request c.prepare.overlapped events done) :
    Runs (c.issue handle request m) events
      ⟨done.verdict, c.prepare.absorb done.written, m.absorb done.written⟩ := by
  unfold Context.issue
  cases exchange with
  | atOnce hpending =>
    refine runs_ask_bind_iff.mpr ⟨done, [], rfl, ?_⟩
    cases hverdict : done.verdict with
    | finished bytes => exact .note (.done _)
    | panicked => exact .done _
    | failed e =>
      have hfailed : ¬ e.isPending = true := by
        rw [hverdict] at hpending
        exact Bool.eq_false_iff.mp hpending
      simp only [if_neg hfailed]
      exact .done _
  | @later taken reply hpending =>
    refine runs_ask_bind_iff.mpr ⟨taken, _, rfl, ?_⟩
    cases hverdict : taken.verdict with
    | finished bytes =>
      rw [hverdict] at hpending
      cases hpending
    | panicked =>
      rw [hverdict] at hpending
      cases hpending
    | failed e =>
      have htaken : e.isPending = true := by rwa [hverdict] at hpending
      simp only [if_pos htaken]
      rw [← Context.absorb_absorb, ← Memory.absorb_absorb]
      exact runs_awaitResult reply

/-! ### The exchanges in a sequence of events -/

/-- A request with the handle that it was issued on and what it came to. -/
structure Answered where
  handle : Handle
  request : Request
  done : Completion

/-- The exchanges in some events, when `taken` has been taken but not finished before them. -/
def exchangesAfter (taken : Option (Handle × Request × Written)) : List Event → List Answered
  | [] => []
  | ⟨.control handle request _, reply⟩ :: rest =>
    if reply.verdict.isPending then exchangesAfter (some (handle, request, reply.written)) rest
    else ⟨handle, request, reply⟩ :: exchangesAfter none rest
  | ⟨.result .., reply⟩ :: rest =>
    match taken with
    | none => exchangesAfter none rest
    | some (handle, request, written) =>
      ⟨handle, request, reply.verdict, written.andThen reply.written⟩ :: exchangesAfter none rest
  | _ :: rest => exchangesAfter taken rest

/-- The exchanges in some events, in order. -/
def exchanges (events : List Event) : List Answered := exchangesAfter none events

theorem Exchange.exchanges_append {block : Overlapped} {events : List Event} {done : Completion}
    (exchange : Exchange handle request block events done) (rest : List Event) :
    exchanges (events ++ rest) = ⟨handle, request, done⟩ :: exchanges rest := by
  cases exchange with
  | atOnce hpending =>
    simp only [exchanges, List.singleton_append, exchangesAfter, hpending, Bool.false_eq_true,
      if_false]
  | later hpending =>
    simp only [exchanges, List.cons_append, List.nil_append, exchangesAfter, hpending, if_true]

/-- The request that an event issues, with its handle. -/
def Event.issued? : Event → Option (Handle × Request)
  | ⟨.control handle request _, _⟩ => some (handle, request)
  | _ => none

/-- The requests that are issued in some events, in order. -/
def issued (events : List Event) : List (Handle × Request) := events.filterMap Event.issued?

theorem issued_append (before after : List Event) :
    issued (before ++ after) = issued before ++ issued after := List.filterMap_append

theorem Exchange.issued_eq {block : Overlapped} {events : List Event} {done : Completion}
    (exchange : Exchange handle request block events done) :
    issued events = [(handle, request)] := by
  cases exchange with
  | atOnce hpending => rfl
  | later hpending => rfl

end PacketDiversion

import PacketDiversion.Host.Scripted
import PacketDiversion.Proofs.Usage

/-!
# Deferred requests

A system may finish a request at once, or take it and tell its end to whoever waits for it. Take any
system and have it put off some of the requests that it would end at once (`Host.deferring`). For a
program that uses the library nothing changes: its results are the same, so are the calls it makes,
and each request that was put off is followed at once by one wait for it (`deferring_agrees`).
-/

namespace PacketDiversion

open Program

/-! ### Requests on a host -/

section Issue

variable {σ : Type} {host : Host σ} {s mid s' : σ} {c : Context} {handle : Handle}
  {request : Request} {m : Memory} {taken reply : Completion}

theorem ran_awaitResult {code : UInt32}
    (answered : host.answer (.result handle c.event true) s = (reply, s')) :
    Ran host (c.awaitResult handle code m) s
      ⟨reply.verdict, c.absorb reply.written, m.absorb reply.written⟩ s'
      [⟨.result handle c.event true, reply⟩] := by
  unfold Context.awaitResult
  refine .report_bind (.ask_bind answered ?_)
  cases hverdict : reply.verdict with
  | finished bytes => exact .report_bind (ran_done _ _ _)
  | failed e => exact ran_done _ _ _
  | panicked => exact ran_done _ _ _

/-- A request that the system does not take has come to its end. -/
theorem ran_issue_atOnce
    (answered : host.answer (.control handle request c.prepare.overlapped) s = (reply, s'))
    (hpending : reply.verdict.isPending = false) :
    Ran host (c.issue handle request m) s
      ⟨reply.verdict, c.prepare.absorb reply.written, m.absorb reply.written⟩ s'
      [⟨.control handle request c.prepare.overlapped, reply⟩] := by
  unfold Context.issue
  refine .ask_bind answered ?_
  cases hverdict : reply.verdict with
  | finished bytes => exact .report_bind (ran_done _ _ _)
  | panicked => exact ran_done _ _ _
  | failed e =>
    have hnot : ¬ e.isPending = true := by
      rw [hverdict] at hpending
      exact Bool.eq_false_iff.mp hpending
    dsimp only
    rw [if_neg hnot]
    exact ran_done _ _ _

/-- A request that the system takes is waited for, and ends as the wait does. -/
theorem ran_issue_later
    (asked : host.answer (.control handle request c.prepare.overlapped) s = (taken, mid))
    (hpending : taken.verdict.isPending = true)
    (answered : host.answer (.result handle c.event true) mid = (reply, s')) :
    Ran host (c.issue handle request m) s
      ⟨reply.verdict, (c.prepare.absorb taken.written).absorb reply.written,
        (m.absorb taken.written).absorb reply.written⟩ s'
      [⟨.control handle request c.prepare.overlapped, taken⟩,
        ⟨.result handle c.event true, reply⟩] := by
  unfold Context.issue
  refine .ask_bind asked ?_
  cases hverdict : taken.verdict with
  | finished bytes =>
    rw [hverdict] at hpending
    cases hpending
  | panicked =>
    rw [hverdict] at hpending
    cases hpending
  | failed e =>
    rw [hverdict] at hpending
    have htaken : e.isPending = true := hpending
    dsimp only
    rw [if_pos htaken]
    exact ran_awaitResult answered

end Issue

/-! ### Systems that defer requests -/

def Verdict.isEnd : Verdict → Bool
  | finished _ => true
  | failed e => !e.isPending
  | panicked => false

/-- The answer to a request that is put off. -/
def Completion.putOff : Completion := ⟨.failed (.code HostError.pendingCode), {}⟩

/-- A system that puts requests off. -/
structure Deferring (σ : Type) where
  base : σ
  requests : Nat := 0
  /-- The end of a request that is still to be told. -/
  owed : Option Completion := none

/-- A host that answers as another one does, except that it puts off each chosen request that the
other would end at once. What the other has answered, and written, is told to the next wait. -/
def Program.Host.deferring {σ : Type} (host : Host σ) (chosen : Nat → Bool) :
    Host (Deferring σ) where
  answer
    | .control handle request block, s =>
      let (reply, base) := host.answer (.control handle request block) s.base
      if chosen s.requests && reply.verdict.isEnd then
        (.putOff, ⟨base, s.requests + 1, some reply⟩)
      else (reply, ⟨base, s.requests + 1, none⟩)
    | .result handle event wait, s =>
      match s.owed with
      | some reply => (reply, { s with owed := none })
      | none =>
        let (reply, base) := host.answer (.result handle event wait) s.base
        (reply, { s with base := base })
    | c, s =>
      let (reply, base) := host.answer c s.base
      (reply, { s with base := base })

section Deferring

variable {σ α : Type} {host : Host σ} {chosen : Nat → Bool} {s s' : σ} {n : Nat}

/-- The events of a run whose requests from the `n`-th on are put off as chosen. -/
def deferred (chosen : Nat → Bool) : (n : Nat) → List Event → List Event
  | _, [] => []
  | n, ⟨.control handle request block, reply⟩ :: rest =>
    if chosen n && reply.verdict.isEnd then
      ⟨.control handle request block, .putOff⟩ :: ⟨.result handle block.event true, reply⟩
        :: deferred chosen (n + 1) rest
    else ⟨.control handle request block, reply⟩ :: deferred chosen (n + 1) rest
  | n, e :: rest => e :: deferred chosen n rest

theorem deferred_append (n : Nat) (before after : List Event) :
    deferred chosen n (before ++ after)
      = deferred chosen n before ++ deferred chosen (n + (issued before).length) after := by
  induction before generalizing n with
  | nil => rfl
  | cons e before ih =>
    obtain ⟨c, reply⟩ := e
    cases c with
    | control handle request block =>
      have hcount : n + (issued (⟨.control handle request block, reply⟩ :: before)).length
          = n + 1 + (issued before).length := by
        simp [issued, Event.issued?]
        omega
      rw [hcount, List.cons_append, deferred, deferred, ih]
      split <;> rfl
    | _ => exact congrArg _ (ih n)

theorem deferring_answer {c : Call} (hc : ¬ c.IsRequest) :
    (host.deferring chosen).answer c ⟨s, n, none⟩
      = ((host.answer c s).1, ⟨(host.answer c s).2, n, none⟩) := by
  cases c with
  | control handle request block => exact absurd trivial hc
  | result handle event wait => exact absurd trivial hc
  | _ => rfl

theorem Verdict.isPending_of_isEnd {v : Verdict} (h : v.isEnd = true) : v.isPending = false := by
  cases v with
  | finished bytes => rfl
  | failed e =>
    change (!e.isPending) = true at h
    change e.isPending = false
    simpa using h
  | panicked => rfl

section Issue

variable {c : Context} {handle : Handle} {request : Request} {m : Memory} {ended : Issued}
  {events : List Event}

/-- A request ends in the same way whether it is put off or not. -/
theorem issue_deferring (ran : Ran host (c.issue handle request m) s ended s' events) :
    Ran (host.deferring chosen) (c.issue handle request m) ⟨s, n, none⟩ ended
      ⟨s', n + (issued events).length, none⟩ (deferred chosen n events) := by
  rcases hreply : host.answer (.control handle request c.prepare.overlapped) s with ⟨reply, mid⟩
  by_cases hchosen : (chosen n && reply.verdict.isEnd) = true
  · have hend : reply.verdict.isEnd = true := (Bool.and_eq_true_iff.mp hchosen).2
    obtain ⟨rfl, rfl, rfl⟩ :=
      ran.unique (ran_issue_atOnce hreply (Verdict.isPending_of_isEnd hend))
    have asked : (host.deferring chosen).answer (.control handle request c.prepare.overlapped)
        ⟨s, n, none⟩ = (.putOff, ⟨s', n + 1, some reply⟩) := by
      simp only [Host.deferring, hreply, hchosen, if_true]
    have told : (host.deferring chosen).answer (.result handle c.event true)
        ⟨s', n + 1, some reply⟩ = (reply, ⟨s', n + 1, none⟩) := rfl
    have later := ran_issue_later (m := m) asked rfl told
    -- Putting the request off writes nothing, so the wait writes into the same memory.
    have hnothing : Completion.putOff.written = {} := rfl
    rw [hnothing, Context.absorb_nothing, Memory.absorb_nothing] at later
    simp only [deferred, hchosen, if_true]
    exact later
  · have asked : (host.deferring chosen).answer (.control handle request c.prepare.overlapped)
        ⟨s, n, none⟩ = (reply, ⟨mid, n + 1, none⟩) := by
      simp only [Host.deferring, hreply, if_neg hchosen]
    cases hpending : reply.verdict.isPending with
    | false =>
      obtain ⟨rfl, rfl, rfl⟩ := ran.unique (ran_issue_atOnce hreply hpending)
      simp only [deferred, if_neg hchosen]
      exact ran_issue_atOnce asked hpending
    | true =>
      rcases hwaited : host.answer (.result handle c.event true) mid with ⟨waited, last⟩
      obtain ⟨rfl, rfl, rfl⟩ := ran.unique (ran_issue_later hreply hpending hwaited)
      have told : (host.deferring chosen).answer (.result handle c.event true)
          ⟨mid, n + 1, none⟩ = (waited, ⟨s', n + 1, none⟩) := by
        simp only [Host.deferring, hwaited]
      simp only [deferred, if_neg hchosen]
      exact ran_issue_later asked hpending told

end Issue

/-- A program that sees its requests through cannot tell whether they were put off. -/
theorem deferring_composed (chosen : Nat → Bool) (n : Nat) {p : Program α}
    (hp : p.Composed fun c => ¬ c.IsRequest) {value : α} {events : List Event}
    (ran : Ran host p s value s' events) :
    Ran (host.deferring chosen) p ⟨s, n, none⟩ value ⟨s', n + (issued events).length, none⟩
      (deferred chosen n events) := by
  induction hp generalizing s n value events with
  | done result =>
    obtain ⟨rfl, rfl, rfl⟩ := ran.unique (ran_done _ _ _)
    exact ran_done _ _ _
  | note n' hrest ih => exact ran_note_iff.mpr (ih n (ran_note_iff.mp ran))
  | @call c next hc hnext ih =>
    obtain ⟨later, rfl, goesOn⟩ := ran_call_iff.mp ran
    have answered : (host.deferring chosen).answer c ⟨s, n, none⟩
        = ((host.answer c s).1, ⟨(host.answer c s).2, n, none⟩) := deferring_answer hc
    have hissued : issued (⟨c, (host.answer c s).1⟩ :: later) = issued later := by
      cases c with
      | control handle request block => exact absurd trivial hc
      | _ => rfl
    have hdeferred : deferred chosen n (⟨c, (host.answer c s).1⟩ :: later)
        = ⟨c, (host.answer c s).1⟩ :: deferred chosen n later := by
      cases c with
      | control handle request block => exact absurd trivial hc
      | _ => rfl
    rw [hissued, hdeferred]
    exact Ran.ask_bind answered (ih _ n goesOn)
  | issue own handle request m hnext ih =>
    obtain ⟨ended, mid, before, after, rfl, first, later⟩ := ran_bind_iff.mp ran
    rw [deferred_append, issued_append, List.length_append, ← Nat.add_assoc]
    exact ran_bind_iff.mpr ⟨ended, _, _, _, rfl, issue_deferring first, ih ended _ later⟩

/-- A program that uses the library returns the same, with the same effect on the system, whichever
of its requests are put off. Its calls are the same too, but for one wait right after each request
that was put off, on the request's handle and its event. -/
theorem deferring_agrees {p : Program α} (usage : p.Usage) (host : Host σ) (chosen : Nat → Bool)
    (s : σ) :
    let inline := p.run host s
    let putOff := p.run (host.deferring chosen) { base := s }
    putOff.value = inline.value
      ∧ putOff.events = deferred chosen 0 inline.events
      ∧ putOff.state = ⟨inline.state, (issued inline.events).length, none⟩ := by
  intro inline putOff
  have ran := deferring_composed chosen 0 usage.composed (ran_run host p s)
  rw [Nat.zero_add] at ran
  exact ⟨ran.value_eq, ran.events_eq, ran.state_eq⟩

end Deferring

def receiving : Program (List (Outcome Failure Answer) × Client) :=
  Client.steps {} [.openSession 0 "tcp" .network 0 .none, .recv 0 [0, 0, 0] Address.zero]

def onePacket : Scripted.System := { arrivals := [.batch { packets := [[1, 2]] }] }

/-- The three requests of the gate and of the receive are put off, but for the second. -/
theorem receiving_deferred :
    (receiving.run (Scripted.host.deferring fun n => n != 1) { base := onePacket }).value
        = (receiving.run Scripted.host onePacket).value
      ∧ (receiving.run (Scripted.host.deferring fun n => n != 1) { base := onePacket }).events.length
        = (receiving.run Scripted.host onePacket).events.length + 2 := by
  have usage : receiving.Usage := Client.usage_steps _
  obtain ⟨hvalue, hevents, -⟩ :=
    deferring_agrees usage Scripted.host (fun n => n != 1) onePacket
  exact ⟨hvalue, by rw [hevents]; decide +kernel⟩

end PacketDiversion

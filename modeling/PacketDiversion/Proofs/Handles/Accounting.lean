import PacketDiversion.Host.Scripted
import PacketDiversion.Proofs.Handles.Client

/-!
# Accounting for handles

The ledger over whole runs of a client, on any system whose handles are fresh. At any time a client
holds exactly what is outstanding, it passes back only what is outstanding, and by the time it has
let everything go each handle was passed back exactly once for each time it was handed out.
-/

namespace PacketDiversion

open Program Handles

namespace Handles

/-- Whenever a handle is passed back, it is outstanding. -/
def ReleasesInTurn (events : List Event) : Prop :=
  ∀ before h reply rest, events = before ++ ⟨.closeHandle h, reply⟩ :: rest →
    h ∈ outstanding before

/-- Every number was passed back exactly once for each time that it was handed out, and before it
was handed out again. -/
def Settled (events : List Event) : Prop :=
  ∀ h, ∃ n, dealings h events = (List.replicate n [Dealing.granted, .released]).flatten

theorem releasesInTurn_of_keeps {events : List Event} (keeps : contract.Keeps 0 events) :
    ReleasesInTurn events := by
  intro before h reply rest heq
  exact keeps before ⟨.closeHandle h, reply⟩ rest heq

theorem settled_of_inTurn {events : List Event} (fresh : Fresh events)
    (inTurn : ReleasesInTurn events) (none : outstanding events = 0) : Settled events := by
  intro h
  obtain ⟨n, hn⟩ := dealings_eq fresh inTurn h
  refine ⟨n, ?_⟩
  rw [hn, none, if_neg (Multiset.notMem_zero h), List.append_nil]

theorem settled_of_keeps {events : List Event} (fresh : Fresh events)
    (keeps : contract.Keeps 0 events) (none : outstanding events = 0) : Settled events :=
  settled_of_inTurn fresh (releasesInTurn_of_keeps keeps) none

end Handles

namespace Client

/-- After any sequence of actions the outstanding handles are the three of each open session and
the event of each unreleased context, no number twice, and no other handle was passed back. When
the client lets go of what it still has, nothing is left, and every handle that was ever handed out
has been passed back exactly once. -/
theorem handles_accounted {actions : List Action} {events : List Event}
    {outcomes : List (Outcome Failure Answer)} {c : Client}
    (hand : ∀ a ∈ actions, ¬ a.ByHand)
    (run : Runs (steps {} actions) events (outcomes, c)) (fresh : Fresh events) :
    outstanding events = (c.sessions.values.map Session.handles).sum
        + (c.contexts.values.map Context.handles).sum
      ∧ (outstanding events).Nodup
      ∧ ReleasesInTurn events
      ∧ ∀ last, Runs c.leave last () → Fresh (events ++ last) →
        ReleasesInTurn (events ++ last) ∧ outstanding (events ++ last) = 0
          ∧ Settled (events ++ last) := by
  obtain ⟨keeps, sound, balanced⟩ := (steps_fulfils hand sound_start).keeps run fresh
  have held : outstanding events = c.handles := balanced
  refine ⟨held, nodup_outstanding fresh, releasesInTurn_of_keeps keeps, ?_⟩
  intro last leaving freshAll
  -- The client leaves from where the actions have taken the ledger.
  have freshLast : contract.Promises c.handles last := held ▸ (fresh_append_iff.mp freshAll).2
  obtain ⟨keepsLast, none⟩ := (leave_fulfils sound).keeps leaving freshLast
  have keepsAll : contract.Keeps 0 (events ++ last) := by
    refine Contract.throughout_append_iff.mpr ⟨keeps, ?_⟩
    change contract.Keeps (outstanding events) last
    rw [held]
    exact keepsLast
  have noneAll : outstanding (events ++ last) = 0 := by
    rw [outstanding_append, held]
    exact none
  exact ⟨releasesInTurn_of_keeps keepsAll, noneAll, settled_of_keeps freshAll keepsAll noneAll⟩

/-- A client opens a session, has it create a context and closes it, on a system that fails to
release the first event. -/
def visit : Transcript Scripted.System (List (Outcome Failure Answer) × Client) :=
  (steps {} [.openSession 0 "tcp" .network 0 .none, .createContext 0 1,
    .getParameter 0 .versionMajor, .close 0]).run Scripted.host
      { fates := fun p => if p = .closeEvent then [.failure 6] else [] }

/-- It lets go of the context. -/
def parting : Transcript Scripted.System Unit := visit.value.2.leave.run Scripted.host visit.state

theorem visit_accounted :
    outstanding visit.events ≠ 0 ∧ ReleasesInTurn (visit.events ++ parting.events)
      ∧ outstanding (visit.events ++ parting.events) = 0
      ∧ Settled (visit.events ++ parting.events) := by
  have hand : ∀ a ∈ ([.openSession 0 "tcp" .network 0 .none, .createContext 0 1,
      .getParameter 0 .versionMajor, .close 0] : List Action), ¬ a.ByHand := by
    simp [Action.ByHand]
  have fresh : Fresh (visit.events ++ parting.events) := by decide +kernel
  have accounted := handles_accounted hand (runs_run _ _ _) (fresh_append_iff.mp fresh).1
  exact ⟨by decide +kernel, accounted.2.2.2 parting.events (runs_run _ _ _) fresh⟩

end Client

end PacketDiversion

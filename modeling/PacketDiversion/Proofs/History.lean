import PacketDiversion.Client.Action
import PacketDiversion.Proofs.Runs

/-!
# Histories of a client

A run of a client taken apart into its actions. A `Deed` is one action with what the system saw of
it and what came of it, and a `Path` is one deed after the other. Every run is a path and every path
a run (`runs_steps_iff`).
-/

namespace PacketDiversion.Client

open Program

/-- One action of a client, as it went. -/
structure Deed where
  before : Client
  action : Action
  events : List Event
  outcome : Outcome Failure Answer
  after : Client

/-- The deed is a run of its action. -/
def Deed.Done (d : Deed) : Prop := Runs (d.before.step d.action) d.events (d.outcome, d.after)

/-- What a client does on a host. -/
def Deed.onHost {σ : Type} (host : Host σ) (state : σ) (c : Client) (a : Action) : Deed :=
  let went := (c.step a).run host state
  ⟨c, a, went.events, went.value.1, went.value.2⟩

theorem Deed.done_onHost {σ : Type} (host : Host σ) (state : σ) (c : Client) (a : Action) :
    (onHost host state c a).Done := runs_run host (c.step a) state

/-- Deeds of a client, one after the other. -/
inductive Path : Client → List Deed → Client → Prop
  | nil (c : Client) : Path c [] c
  | cons {c : Client} {d : Deed} {deeds : List Deed} {last : Client} (start : d.before = c)
      (run : d.Done) (rest : Path d.after deeds last) :
      Path c (d :: deeds) last

theorem runs_steps_iff {c last : Client} {actions : List Action} {events : List Event}
    {outcomes : List (Outcome Failure Answer)} :
    Runs (c.steps actions) events (outcomes, last) ↔
      ∃ deeds, Path c deeds last ∧ deeds.map Deed.action = actions
        ∧ (deeds.map Deed.events).flatten = events ∧ deeds.map Deed.outcome = outcomes := by
  induction actions generalizing c events outcomes with
  | nil =>
    constructor
    · intro run
      obtain ⟨rfl, heq⟩ := runs_done_iff.mp run
      cases heq
      exact ⟨[], .nil _, rfl, rfl, rfl⟩
    · intro h
      obtain ⟨deeds, path, hactions, rfl, rfl⟩ := h
      rw [List.map_eq_nil_iff.mp hactions] at path ⊢
      cases path
      exact .done _
  | cons a actions ih =>
    constructor
    · intro run
      obtain ⟨⟨outcome, next⟩, first, tail, rfl, hfirst, run⟩ := runs_bind_iff.mp run
      obtain ⟨⟨others, last'⟩, later, none, rfl, hlater, run⟩ := runs_bind_iff.mp run
      obtain ⟨rfl, heq⟩ := runs_done_iff.mp run
      cases heq
      obtain ⟨deeds, path, rfl, rfl, rfl⟩ := ih.mp hlater
      refine ⟨⟨c, a, first, outcome, next⟩ :: deeds, .cons rfl hfirst path, rfl, ?_, rfl⟩
      simp only [List.map_cons, List.flatten_cons, List.append_nil]
    · intro h
      obtain ⟨deeds, path, hactions, rfl, rfl⟩ := h
      cases path with
      | nil => cases hactions
      | cons start run rest =>
        subst start
        obtain ⟨rfl, hrest⟩ := List.cons.inj hactions
        have hlater := ih.mpr ⟨_, rest, hrest, rfl, rfl⟩
        refine Runs.bind run ?_
        rw [← List.append_nil (List.map Deed.events _).flatten]
        exact hlater.bind (.done _)

/-- What the system saw of some deeds, in order. -/
def eventsOf (deeds : List Deed) : List Event := (deeds.map Deed.events).flatten

theorem eventsOf_append (early late : List Deed) :
    eventsOf (early ++ late) = eventsOf early ++ eventsOf late := by
  rw [eventsOf, List.map_append, List.flatten_append, eventsOf, eventsOf]

theorem eventsOf_cons (d : Deed) (deeds : List Deed) :
    eventsOf (d :: deeds) = d.events ++ eventsOf deeds := rfl

theorem eventsOf_concat (deeds : List Deed) (d : Deed) :
    eventsOf (deeds ++ [d]) = eventsOf deeds ++ d.events := by
  have single : eventsOf [d] = d.events := List.append_nil d.events
  rw [eventsOf_append, single]

/-- A path with a deed in it leads to the deed and goes on from there. -/
theorem Path.of_split {c last : Client} {early late : List Deed} {d : Deed}
    (path : Path c (early ++ d :: late) last) :
    Path c early d.before ∧ d.Done ∧ Path d.after late last := by
  induction early generalizing c with
  | nil =>
    cases path with
    | cons start run rest => exact ⟨start ▸ .nil _, run, rest⟩
  | cons first early ih =>
    cases path with
    | cons start run rest =>
      obtain ⟨before, done, after⟩ := ih rest
      exact ⟨.cons start run before, done, after⟩

theorem Path.concat {c : Client} {deeds : List Deed} {d : Deed} (path : Path c deeds d.before)
    (run : d.Done) : Path c (deeds ++ [d]) d.after := by
  generalize hlast : d.before = last at path
  induction path with
  | nil c => exact .cons hlast run (.nil _)
  | cons start done rest ih => exact .cons start done (ih hlast)

theorem Path.done_of_mem {c last : Client} {deeds : List Deed} (path : Path c deeds last)
    {d : Deed} (hd : d ∈ deeds) : d.Done := by
  induction path with
  | nil => cases hd
  | cons start run rest ih =>
    rcases List.mem_cons.mp hd with rfl | hd
    · exact run
    · exact ih hd

end PacketDiversion.Client

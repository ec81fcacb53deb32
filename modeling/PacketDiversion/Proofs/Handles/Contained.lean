import PacketDiversion.Proofs.Gate.Precedence
import PacketDiversion.Proofs.Handles.Accounting
import PacketDiversion.Proofs.Handles.Sources
import PacketDiversion.Proofs.Handles.Use
import PacketDiversion.Proofs.Mending.Client

/-!
# Actions that give everything back

Some events are contained if they pass back what they were handed out and nothing else. What was
outstanding before them is outstanding after them, and none of it is passed back
(`Contained.after_eq`, `Contained.apart`). An action that a panic unwinds through is contained: a
transfer moves no handle, a single request releases its event, and the gate releases its probe
(`Deed.Done.contained`).
-/

namespace PacketDiversion

open Program Handles

namespace Handles

variable {held held' out : Multiset Handle} {events : List Event}

/-! ### Other handles outstanding besides -/

theorem record_mono (le : held ≤ held') (e : Event) : record held e ≤ record held' e := by
  unfold record
  cases e.granted? with
  | some h => exact Multiset.cons_le_cons h le
  | none =>
    cases e.released? with
    | some h => exact Multiset.erase_le_erase h le
    | none => exact le

theorem after_mono (le : held ≤ held') (events : List Event) :
    contract.after held events ≤ contract.after held' events := by
  induction events generalizing held held' with
  | nil => exact le
  | cons e events ih => exact ih (record_mono le e)

/-- What is fresh beside many handles is fresh beside some of them. -/
theorem promises_mono (le : held ≤ held') (promises : contract.Promises held' events) :
    contract.Promises held events := by
  intro before e rest heq
  obtain ⟨proper, granted⟩ := promises before e rest heq
  exact ⟨proper, fun h hh hmem => granted h hh (Multiset.mem_of_le (after_mono le before) hmem)⟩

theorem fresh_of_promises (promises : contract.Promises held events) : Fresh events :=
  promises_mono (Multiset.zero_le held) promises

/-- Handles that are not passed back stay outstanding, beside what the others come to. -/
theorem after_add (apart : ∀ e ∈ events, ∀ h, e.released? = some h → h ∉ held) :
    contract.after (held + out) events = held + contract.after out events := by
  induction events generalizing out with
  | nil => rfl
  | cons e events ih =>
    have hrecord : record (held + out) e = held + record out e := by
      unfold record
      cases e.granted? with
      | some h => exact (Multiset.add_cons h held out).symm
      | none =>
        cases hreleased : e.released? with
        | some h =>
          exact Multiset.erase_add_right_neg out (apart e List.mem_cons_self h hreleased)
        | none => rfl
    have later : ∀ e ∈ events, ∀ h, e.released? = some h → h ∉ held := fun e he =>
      apart e (List.mem_cons_of_mem _ he)
    rw [Contract.after_cons, Contract.after_cons, ← ih later]
    exact congrArg (contract.after · events) hrecord

theorem after_eq_add (apart : ∀ e ∈ events, ∀ h, e.released? = some h → h ∉ held) :
    contract.after held events = held + outstanding events :=
  calc contract.after held events = contract.after (held + 0) events := by rw [add_zero]
    _ = held + outstanding events := after_add apart

theorem ReleasesInTurn.of_append {rest : List Event} (inTurn : ReleasesInTurn (events ++ rest)) :
    ReleasesInTurn events := by
  intro before h reply later heq
  refine inTurn before h reply (later ++ rest) ?_
  rw [heq, List.append_assoc, List.cons_append]

/-- Events that pass back only what they were handed out pass back nothing that was outstanding
before them: it was not handed out to them. -/
theorem apart_of_inTurn (nodup : held.Nodup) (promises : contract.Promises held events)
    (inTurn : ReleasesInTurn events) : ∀ e ∈ events, ∀ h, e.released? = some h → h ∉ held := by
  induction events using List.reverseRecOn with
  | nil => exact fun e he => absurd he List.not_mem_nil
  | append_singleton events e ih =>
    obtain ⟨earlier, -⟩ := Contract.throughout_append_iff.mp promises
    have apart := ih earlier inTurn.of_append
    intro e' he' h hreleased hheld
    rcases List.mem_append.mp he' with he' | he'
    · exact apart e' he' h hreleased hheld
    · obtain rfl := List.mem_singleton.mp he'
      have hout : h ∈ outstanding events := by
        obtain ⟨call, reply⟩ := e'
        obtain rfl : call = .closeHandle h := Event.call_of_released? hreleased
        exact inTurn events h reply [] rfl
      have both : (held + outstanding events).Nodup :=
        after_eq_add apart ▸ nodup_after nodup earlier
      exact Multiset.disjoint_left.mp (Multiset.nodup_add.mp both).2.2 hheld hout

/-! ### Contained events -/

/-- The events pass back what they were handed out, all of it and nothing else. -/
structure Contained (events : List Event) : Prop where
  inTurn : ReleasesInTurn events
  none : outstanding events = 0

theorem contained_nil : Contained [] where
  inTurn before h reply rest heq := by simp at heq
  none := rfl

theorem Contained.append {rest : List Event} (first : Contained events) (second : Contained rest) :
    Contained (events ++ rest) where
  inTurn := by
    intro before h reply after heq
    rcases append_eq_append_cons_cases heq with ⟨left, rfl, -⟩ | ⟨more, rfl, hrest⟩
    · exact first.inTurn before h reply left rfl
    · rw [outstanding_append, first.none]
      exact second.inTurn more h reply after hrest
  none := by
    rw [outstanding_append, first.none]
    exact second.none

section Contained

variable (contained : Contained events)
include contained

theorem Contained.apart (nodup : held.Nodup) (promises : contract.Promises held events) :
    ∀ e ∈ events, ∀ h, e.released? = some h → h ∉ held :=
  apart_of_inTurn nodup promises contained.inTurn

theorem Contained.after_eq (nodup : held.Nodup) (promises : contract.Promises held events) :
    contract.after held events = held := by
  rw [after_eq_add (contained.apart nodup promises), contained.none, add_zero]

end Contained

/-- Requests move no handle. -/
theorem contained_of_requests (requests : ∀ e ∈ events, e.call.IsRequest) : Contained events where
  inTurn := by
    rintro before h reply rest rfl
    exact absurd (requests _ (List.mem_append_right before List.mem_cons_self)) id
  none := by
    induction events with
    | nil => rfl
    | cons e events ih =>
      obtain ⟨he, hrest⟩ := List.forall_mem_cons.mp requests
      obtain ⟨call, reply⟩ := e
      cases call with
      | control h request block => exact ih hrest
      | result h event wait => exact ih hrest
      | _ => exact absurd he id

/-- So is the run of a program whose books are even. -/
theorem contained_of_fulfils {α : Type} {p : Program α} {value : α}
    (h : p.Fulfils contract (fun _ now => plain.Shows now 0) 0) (run : Runs p events value)
    (fresh : Fresh events) : Contained events := by
  obtain ⟨keeps, none⟩ := h.keeps run fresh
  exact ⟨releasesInTurn_of_keeps keeps, none⟩

end Handles

/-! ### Operations -/

section Operations

variable {handle : Handle} {request : Request} {events : List Event}

/-- A request on a context of its own gives back its event. -/
theorem Single.contained {done : Completion} (single : Single handle request events done)
    (fresh : Fresh events) : Contained events where
  inTurn := by
    cases single with
    | noEvent e =>
      intro before h reply rest heq
      obtain ⟨-, hcall, -⟩ := append_cons_eq_singleton heq.symm
      cases hcall
    | @onEvent event requests freed done exchange hfreed =>
      intro before h reply rest heq
      have others : ∀ e ∈ (⟨.createEvent, .ok event⟩ : Event) :: requests,
          ∀ k, e.call ≠ .closeHandle k := by
        intro e he k hcall
        rcases List.mem_cons.mp he with rfl | he
        · cases hcall
        · have hrequest := exchange.request_eq he
          rw [hcall] at hrequest
          cases hrequest
      obtain ⟨more, rfl, hmore⟩ := append_release_cases _ others heq.symm
      cases hfreed with
      | absent null => simp at hmore
      | released live answer =>
        obtain ⟨rfl, hcall, -⟩ := append_cons_eq_singleton hmore.symm
        cases hcall
        have hout : outstanding ((⟨.createEvent, .ok event⟩ : Event) :: requests) = {event} :=
          exchange.after_eq
        rw [List.append_nil, hout]
        exact Multiset.mem_singleton_self event
  none := (single.onOwn fresh).1

theorem Singles.contained (singles : Singles handle events) (fresh : Fresh events) :
    Contained events := by
  induction singles with
  | nil => exact contained_nil
  | cons single _ ih =>
    obtain ⟨first, later⟩ := fresh_append_iff.mp fresh
    exact (single.contained first).append (ih (fresh_of_promises later))

theorem Program.Composed.contained {α : Type} {p : Program α} {value : α}
    (hp : p.Composed fun _ => False) (run : Runs p events value) : Contained events :=
  contained_of_requests fun _ he => (hp.call_mem run he).resolve_left id

theorem Driver.contained_of_check {verdict : Outcome Rejection Entry}
    (run : Runs check events verdict) (fresh : Fresh events) : Contained events :=
  contained_of_fulfils (check_booked plain rfl) run fresh

theorem Entry.contained_of_probeVersion {entry : Entry} {outcome : Outcome SessionError Version}
    (run : Runs entry.probeVersion events outcome) (fresh : Fresh events) : Contained events :=
  contained_of_fulfils (entry.probeVersion_booked plain rfl) run fresh

/-- A gate that ends with an entry was not cut short. -/
theorem Driver.calm_of_accepted {entry : Entry} (run : Runs check events (.ok entry)) :
    Calm events := by
  by_contra panics
  obtain ⟨verdict', hverdict, -⟩ := check_mirrors.cut_of_panic run panics
  cases hverdict

theorem Driver.Entered.calm {d d' : Driver} {entry : Entry}
    (entered : d.Entered events (.ok entry) d') : Calm events := by
  rcases entered.ok_cases with ⟨-, rfl, -⟩ | ⟨-, run, -⟩
  · exact calm_nil
  · exact calm_of_accepted run

theorem Driver.Entered.contained {d d' : Driver} {r : Except Panic Entry}
    (entered : d.Entered events r d') (fresh : Fresh events) : Contained events := by
  cases entered with
  | remembered cell => exact contained_nil
  | accepted cell run => exact contained_of_check run fresh
  | rejected cell run => exact contained_of_check run fresh
  | unwound cell run => exact contained_of_check run fresh

theorem Session.calm_of_openWith {entry : Entry} {filter : Filter} {layer : Layer} {priority : Int}
    {flags : Flags} {made : Except SessionError Session}
    (run : Runs (openWith entry filter layer priority flags) events made) : Calm events := by
  by_contra panics
  obtain ⟨made', impossible⟩ :=
    (openWith_mirrors (T := fun _ _ => False)).cut_of_panic run panics
  exact impossible

end Operations

/-! ### Actions -/

namespace Client

variable {c : Client} {a : Action} {events : List Event}

theorem Passage.contained {outcome : Outcome Failure Answer} {next : Client}
    (passage : c.Passage a events outcome next) (enters : a.Enters) (fresh : Fresh events)
    (panics : ¬ Calm events) : Contained events := by
  cases passage with
  | aside apart same quiet calls => exact absurd (quiet enters ▸ calm_nil) panics
  | away reaches entered => exact entered.contained fresh
  | through reaches entered uses =>
    obtain ⟨freshGate, promises⟩ := fresh_append_iff.mp fresh
    have contained := entered.contained freshGate
    cases uses with
    | enter => exact contained.append contained_nil
    | version run =>
      exact contained.append (Entry.contained_of_probeVersion run (fresh_of_promises promises))
    | openSession text run =>
      exact absurd (entered.calm.append (Session.calm_of_openWith run)) panics

theorem contained_withSession {slot : Nat} {act : Session → Program Result} {r : Result}
    (run : Runs (c.withSession slot act) events r)
    (h : ∀ s, Runs (act s) events r → Contained events) : Contained events := by
  cases events with
  | nil => exact contained_nil
  | cons e rest =>
    obtain ⟨s, run⟩ := session_of_runs run List.mem_cons_self
    exact h s run

theorem contained_withContext? {slot : Option Nat} {act : Option Context → Program Result}
    {r : Result} (run : Runs (c.withContext? slot act) events r)
    (h : ∀ own, Runs (act own) events r → Contained events) : Contained events := by
  cases slot with
  | none => exact h none run
  | some slot =>
    cases events with
    | nil => exact contained_nil
    | cons e rest =>
      obtain ⟨own, -, run⟩ := context_of_runs run List.mem_cons_self
      exact h (some own) run

/-- What follows an operation calls nothing. -/
theorem contained_map {α β : Type} {p : Program α} {f : α → β} {r : β}
    (run : Runs (p >>= fun value => pure (f value)) events r)
    (h : ∀ value, Runs p events value → Contained events) : Contained events := by
  obtain ⟨value, before, after, rfl, own, run⟩ := runs_bind_iff.mp run
  obtain rfl : after = [] := (runs_done_iff.mp run).1
  rw [List.append_nil] at h ⊢
  exact h value own

theorem contained_control {handle : Handle} {code : UInt32} {block : Block} {output : Bytes}
    {context : Option Nat} {r : Result}
    (run : Runs (c.control handle code block output context) events r) (fresh : Fresh events) :
    Contained events := by
  unfold control at run
  refine contained_withContext? run fun own run => ?_
  cases own with
  | none =>
    refine contained_map run fun issued run => ?_
    obtain ⟨done, single, -⟩ := single_of_runs run
    exact single.contained fresh
  | some own => exact contained_map run fun _ => (Composed.of_issue own _ _ _).contained

/-- An action that a panic unwinds through leaves nothing behind. -/
theorem Deed.Done.contained {d : Deed} (run : d.Done) (fresh : Fresh d.events)
    (panics : ¬ Calm d.events) : Contained d.events := by
  have requests := run.requests panics
  have unwinds : d.action.Enters → Contained d.events := fun enters =>
    (passage run).contained enters fresh panics
  obtain ⟨before, action, events, outcome, after⟩ := d
  dsimp only at fresh requests unwinds ⊢
  cases action with
  | enter => exact unwinds trivial
  | driverVersion => exact unwinds trivial
  | openSession slot filter layer priority flags => exact unwinds trivial
  | check =>
    obtain ⟨verdict, gate, rest, rfl, checked, run⟩ := runs_bind_iff.mp run
    obtain rfl : rest = [] := by
      cases verdict with
      | ok entry => exact (runs_done_iff.mp run).1
      | error reason => exact (runs_done_iff.mp run).1
      | unwound why => exact (runs_done_iff.mp run).1
    rw [List.append_nil] at fresh ⊢
    exact Driver.contained_of_check checked fresh
  | recv slot buffer address =>
    exact contained_withSession run fun s run =>
      contained_map run fun _ => (s.recv_composed buffer address).contained
  | recvBatch slot buffer records context =>
    exact contained_withSession run fun s run => contained_withContext? run fun own run =>
      contained_map run fun _ => (s.recvBatch_composed buffer records own).contained
  | send slot data address =>
    exact contained_withSession run fun s run =>
      contained_map run fun _ => (s.send_composed data address).contained
  | sendBatch slot data records context =>
    exact contained_withSession run fun s run => contained_withContext? run fun own run =>
      contained_map run fun _ => (s.sendBatch_composed data records own).contained
  | shutdown slot how =>
    exact contained_withSession run fun s run => contained_map run fun _ run =>
      (Session.singles_of_shutdown run).contained fresh
  | getParameter slot p =>
    exact contained_withSession run fun s run => contained_map run fun _ run =>
      (Session.singles_of_getParameter run).contained fresh
  | setParameter slot p value =>
    exact contained_withSession run fun s run => contained_map run fun _ run =>
      (Session.singles_of_setParameter run).contained fresh
  | version slot =>
    exact contained_withSession run fun s run => contained_map run fun _ run =>
      (Session.singles_of_version run).contained fresh
  | relay slot limit options =>
    refine contained_withSession run fun s run => ?_
    obtain ⟨⟨ending, t⟩, relayed, rest, rfl, ran, run⟩ := runs_bind_iff.mp run
    obtain rfl : rest = [] := by
      cases ending with
      | drained stats => exact (runs_done_iff.mp run).1
      | ongoing stats => exact (runs_done_iff.mp run).1
      | failed e => exact (runs_done_iff.mp run).1
      | unwound why => exact (runs_done_iff.mp run).1
    rw [List.append_nil] at fresh ⊢
    exact (Relay.run_composed limit s options).contained ran
  | control handle code block output context => exact contained_control run fresh
  | _ => exact absurd requests id

end Client

end PacketDiversion

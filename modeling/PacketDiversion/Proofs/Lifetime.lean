import PacketDiversion.Proofs.Handles.Session
import PacketDiversion.Proofs.Single

/-!
# Opening and releasing sessions

Which calls open a session and which release it, with every answer that the system may give them.
An opening that fails releases what it has created by then (`Opened`). A release goes on to its end
whatever the answers are, and only that to the handle's own release can make closing fail
(`Session.Releases`). Both are exact: these are the event sequences of `Session.openWith`, and of
closing a session or letting it go.
-/

namespace PacketDiversion

open Program

/-! ### Releasing -/

/-- The calls that release a session's handle, and what closing the session comes to. -/
inductive Shut (handle : Handle) : List Event → Except SessionError Unit → Prop
  | absent (invalid : handle = Handle.invalid) : Shut handle [] (.ok ())
  | released (live : handle ≠ Handle.invalid) (answer : Except HostError Unit) :
    Shut handle [⟨.closeHandle handle, answer⟩] (answer.mapError (.host .close))

/-- The calls that release a session: both events, and then the handle. -/
inductive Session.Releases (s : Session) : List Event → Except SessionError Unit → Prop
  | inTurn {receiving sending closing : List Event} {answer : Except SessionError Unit}
      (first : Freed s.receiving.event receiving) (second : Freed s.sending.event sending)
      (last : Shut s.handle closing answer) :
    Releases s (receiving ++ (sending ++ closing)) answer

namespace Session

variable {s t : Session} {events : List Event} {answer : Except SessionError Unit}

theorem runs_releaseContext_iff {handle : Handle} {c rest : Context} :
    Runs (releaseContext handle c) events rest ↔ Freed c.event events ∧ rest = c.withoutEvent := by
  constructor
  · intro run
    obtain ⟨⟨reply, left⟩, before, after, rfl, released, run⟩ := runs_bind_iff.mp run
    have hleft : left = c.withoutEvent := by
      unfold Context.release at released
      split at released
      · exact (runs_pair_iff.mp released).2.2
      · obtain ⟨answer, later, rfl, ended⟩ := runs_ask_bind_iff.mp released
        exact (runs_pair_iff.mp ended).2.2
    have hend : after = [] ∧ rest = left := by
      cases reply with
      | error e => exact runs_done_iff.mp (runs_note_iff.mp run)
      | ok _ => exact runs_done_iff.mp run
    obtain ⟨rfl, rfl⟩ := hend
    rw [List.append_nil]
    exact ⟨(Context.freed_of_release released).1, hleft⟩
  · intro h
    obtain ⟨freed, rfl⟩ := h
    obtain ⟨reply, released⟩ := Context.runs_release_of_freed freed
    rw [← List.append_nil events]
    refine released.bind ?_
    cases reply with
    | error e => exact .note (.done _)
    | ok _ => exact .done _

/-- The session after its release. -/
def withoutHandles (s : Session) : Session :=
  ⟨Handle.invalid, s.receiving.withoutEvent, s.sending.withoutEvent⟩

theorem runs_release_iff :
    Runs s.release events (answer, t) ↔ s.Releases events answer ∧ t = s.withoutHandles := by
  constructor
  · intro run
    obtain ⟨receiving, first, rest, rfl, hfirst, run⟩ := runs_bind_iff.mp run
    obtain ⟨sending, second, last, rfl, hsecond, run⟩ := runs_bind_iff.mp run
    obtain ⟨firstFreed, rfl⟩ := runs_releaseContext_iff.mp hfirst
    obtain ⟨secondFreed, rfl⟩ := runs_releaseContext_iff.mp hsecond
    by_cases invalid : s.handle = Handle.invalid
    · rw [if_pos invalid] at run
      obtain ⟨rfl, rfl, rfl⟩ := runs_pair_iff.mp run
      exact ⟨.inTurn firstFreed secondFreed (.absent invalid), rfl⟩
    · rw [if_neg invalid, runs_ask_bind_iff] at run
      obtain ⟨reply, rest, rfl, ended⟩ := run
      have hend : rest = [] ∧ answer = reply.mapError (.host .close) ∧ t = s.withoutHandles := by
        cases reply with
        | error e => exact runs_pair_iff.mp ended
        | ok _ => exact runs_pair_iff.mp (runs_note_iff.mp ended)
      obtain ⟨rfl, rfl, rfl⟩ := hend
      exact ⟨.inTurn firstFreed secondFreed (.released invalid reply), rfl⟩
  · intro h
    obtain ⟨⟨first, second, last⟩, rfl⟩ := h
    refine (runs_releaseContext_iff.mpr ⟨first, rfl⟩).bind
      ((runs_releaseContext_iff.mpr ⟨second, rfl⟩).bind ?_)
    cases last with
    | absent invalid =>
      rw [if_pos invalid]
      exact .done _
    | released live reply =>
      rw [if_neg live, runs_ask_bind_iff]
      refine ⟨reply, [], rfl, ?_⟩
      cases reply with
      | error e => exact .done _
      | ok _ => exact .note (.done _)

theorem released_withoutHandles (s : Session) : s.withoutHandles.Released := ⟨rfl, rfl, rfl⟩

/-- A session that is closed is let go once it is released, and then there is nothing left of it. -/
theorem runs_close_iff : Runs s.close events answer ↔ s.Releases events answer := by
  constructor
  · intro run
    obtain ⟨⟨reply, rest⟩, before, after, rfl, released, run⟩ := runs_bind_iff.mp run
    obtain ⟨releases, rfl⟩ := runs_release_iff.mp released
    simp only [drop_of_released s.released_withoutHandles, done_bind, pure_eq,
      runs_done_iff] at run
    obtain ⟨rfl, rfl⟩ := run
    rwa [List.append_nil]
  · intro releases
    rw [← List.append_nil events]
    refine (runs_release_iff.mpr ⟨releases, rfl⟩).bind ?_
    simp only [drop_of_released s.released_withoutHandles]
    exact .done _

/-- A session that is let go is released in the same way, and nobody is told how it went. -/
theorem runs_drop_iff : Runs s.drop events () ↔ ∃ answer, s.Releases events answer := by
  have hreceiving := Context.drop_of_released s.released_withoutHandles.receiving
  have hsending := Context.drop_of_released s.released_withoutHandles.sending
  constructor
  · intro run
    obtain ⟨⟨reply, rest⟩, before, after, rfl, released, run⟩ := runs_bind_iff.mp run
    obtain ⟨releases, rfl⟩ := runs_release_iff.mp released
    simp only [hreceiving, hsending] at run
    have hafter : after = [] := by
      cases reply with
      | error e => exact (runs_done_iff.mp (runs_note_iff.mp run)).1
      | ok _ => exact (runs_done_iff.mp run).1
    rw [hafter, List.append_nil]
    exact ⟨reply, releases⟩
  · intro h
    obtain ⟨reply, releases⟩ := h
    rw [← List.append_nil events]
    refine (runs_release_iff.mpr ⟨releases, rfl⟩).bind ?_
    simp only [hreceiving, hsending]
    cases reply with
    | error e => exact .note (.done _)
    | ok _ => exact .done _

end Session

/-! ### Opening -/

/-- The calls that open a session, and what they come to. Without both events there is no session,
and then the first event, if there is one, and the handle are released again. -/
inductive Opened (entry : Entry) (filter : Filter) (layer : Layer) (priority : Int)
    (flags : Flags) : List Event → Except SessionError Session → Prop
  | refused (e : HostError) :
    Opened entry filter layer priority flags
      [⟨.openSession entry filter layer priority flags, .error e⟩]
      (.error (.host .openSession e))
  | noReceiving (handle : Handle) (e : HostError) (answer : Except HostError Unit) :
    Opened entry filter layer priority flags
      [⟨.openSession entry filter layer priority flags, .ok handle⟩, ⟨.createEvent, .error e⟩,
        ⟨.closeHandle handle, answer⟩]
      (.error (.host .createEvent e))
  | noSending (handle receiving : Handle) (e : HostError) {freed : List Event}
      (first : Freed receiving freed) (answer : Except HostError Unit) :
    Opened entry filter layer priority flags
      (⟨.openSession entry filter layer priority flags, .ok handle⟩
        :: ⟨.createEvent, .ok receiving⟩ :: ⟨.createEvent, .error e⟩
        :: (freed ++ [⟨.closeHandle handle, answer⟩]))
      (.error (.host .createEvent e))
  | opened (handle receiving sending : Handle) :
    Opened entry filter layer priority flags
      [⟨.openSession entry filter layer priority flags, .ok handle⟩,
        ⟨.createEvent, .ok receiving⟩, ⟨.createEvent, .ok sending⟩]
      (.ok ⟨handle, ⟨.withEvent receiving⟩, ⟨.withEvent sending⟩⟩)

namespace Session

variable {entry : Entry} {filter : Filter} {layer : Layer} {priority : Int} {flags : Flags}
  {events : List Event} {made : Except SessionError Session}

/-- Without its events a handle is released, and the failure of the creation stands. -/
theorem runs_unmade_iff {handle : Handle} {e : HostError} :
    Runs (do
      match ← Program.ask (.closeHandle handle) with
      | .ok () => return .error (.host .createEvent e)
      | .error kept =>
        Program.report (.handleKept handle kept)
        return .error (.host .createEvent e)) events made ↔
      ∃ answer, events = [⟨.closeHandle handle, answer⟩]
        ∧ made = .error (.host .createEvent e) := by
  rw [runs_ask_bind_iff]
  constructor
  · intro h
    obtain ⟨answer, rest, rfl, ended⟩ := h
    cases answer with
    | ok _ =>
      obtain ⟨rfl, rfl⟩ := runs_done_iff.mp ended
      exact ⟨_, rfl, rfl⟩
    | error kept =>
      obtain ⟨rfl, rfl⟩ := runs_done_iff.mp (runs_note_iff.mp ended)
      exact ⟨_, rfl, rfl⟩
  · intro h
    obtain ⟨answer, rfl, rfl⟩ := h
    refine ⟨answer, [], rfl, ?_⟩
    cases answer with
    | ok _ => exact .done _
    | error kept => exact .note (.done _)

theorem runs_openWith_iff :
    Runs (openWith entry filter layer priority flags) events made ↔
      Opened entry filter layer priority flags events made := by
  constructor
  · intro run
    obtain ⟨reply, rest, rfl, ended⟩ := runs_ask_bind_iff.mp run
    cases reply with
    | error e =>
      obtain ⟨rfl, rfl⟩ := runs_done_iff.mp ended
      exact .refused e
    | ok handle =>
      obtain ⟨contexts, first, last, rfl, hcontexts, ended⟩ := runs_bind_iff.mp ended
      obtain ⟨created, before, second, rfl, hcreate, hcontexts⟩ := runs_bind_iff.mp hcontexts
      obtain ⟨reply, rfl, rfl⟩ := Context.event_of_create hcreate
      cases reply with
      | error e =>
        obtain ⟨rfl, rfl⟩ := runs_done_iff.mp hcontexts
        obtain ⟨answer, rfl, rfl⟩ := runs_unmade_iff.mp ended
        exact .noReceiving handle e answer
      | ok receiving =>
        obtain ⟨created, before, third, rfl, hcreate, hcontexts⟩ := runs_bind_iff.mp hcontexts
        obtain ⟨reply, rfl, rfl⟩ := Context.event_of_create hcreate
        cases reply with
        | error e =>
          obtain ⟨⟨⟩, freed, rest, rfl, hdrop, hcontexts⟩ := runs_bind_iff.mp hcontexts
          obtain ⟨rfl, rfl⟩ := runs_done_iff.mp hcontexts
          obtain ⟨answer, rfl, rfl⟩ := runs_unmade_iff.mp ended
          rw [List.append_nil]
          exact .noSending handle receiving e (Context.freed_of_drop hdrop) answer
        | ok sending =>
          obtain ⟨rfl, rfl⟩ := runs_done_iff.mp hcontexts
          obtain ⟨rfl, rfl⟩ := runs_done_iff.mp (runs_note_iff.mp ended)
          exact .opened handle receiving sending
  · intro opened
    cases opened with
    | refused e => exact runs_ask_bind_iff.mpr ⟨.error e, [], rfl, .done _⟩
    | noReceiving handle e answer =>
      have contexts : Runs createContexts [⟨.createEvent, .error e⟩] (.error e) :=
        (Context.runs_create (.error e)).bind (.done _)
      exact runs_ask_bind_iff.mpr
        ⟨.ok handle, _, rfl, contexts.bind (runs_unmade_iff.mpr ⟨answer, rfl, rfl⟩)⟩
    | @noSending handle receiving e freed first answer =>
      have dropped : Runs (Context.drop ⟨.withEvent receiving⟩) freed () :=
        Context.runs_drop_iff.mpr first
      have contexts : Runs createContexts
          (⟨.createEvent, .ok receiving⟩ :: ⟨.createEvent, .error e⟩ :: freed) (.error e) := by
        rw [← List.append_nil freed]
        exact (Context.runs_create (.ok receiving)).bind
          ((Context.runs_create (.error e)).bind (dropped.bind (.done _)))
      exact runs_ask_bind_iff.mpr
        ⟨.ok handle, _, rfl, contexts.bind (runs_unmade_iff.mpr ⟨answer, rfl, rfl⟩)⟩
    | opened handle receiving sending =>
      have contexts : Runs createContexts
          [⟨.createEvent, .ok receiving⟩, ⟨.createEvent, .ok sending⟩]
          (.ok (⟨.withEvent receiving⟩, ⟨.withEvent sending⟩)) :=
        (Context.runs_create (.ok receiving)).bind ((Context.runs_create (.ok sending)).bind (.done _))
      exact runs_ask_bind_iff.mpr ⟨.ok handle, _, rfl, contexts.bind (.note (.done _))⟩

end Session

end PacketDiversion

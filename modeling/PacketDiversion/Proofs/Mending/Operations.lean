import PacketDiversion.Proofs.Lifetime
import PacketDiversion.Proofs.Mending.Rules
import PacketDiversion.Relay.Loop

/-!
# Operations cut short

Every operation of the library mirrors itself: cut short by a panic it makes the calls that it would
make after a failure in that place, and leaves behind what it would leave behind then. The words in
its contexts' blocks make no difference either, so two sessions may be compared as long as they have
the same handle and events.
-/

namespace PacketDiversion

open Program

/-! ### Sessions -/

namespace Session

variable {s s' : Session}

section Release

variable {T : Except SessionError Unit → Except SessionError Unit → Prop}

theorem releaseContext_mirrors {handle : Handle} {c c' : Context} {T : Context → Context → Prop}
    (same : c'.event = c.event) :
    Mirrors (fun r r' => r.event = Handle.null ∧ r'.event = Handle.null) T
      (releaseContext handle c) (releaseContext handle c') := by
  refine (Context.release_mirrors (T := fun _ _ => False) same).bind ?_ fun _ _ => False.elim
  intro r r' released
  obtain ⟨answer, rest⟩ := r
  obtain ⟨answer', rest'⟩ := r'
  obtain rfl : answer' = answer := released.1
  cases answer' with
  | error e => exact .report_bind (.done released.2)
  | ok _ => exact .done released.2

section Same

variable (same : s.Same s')
include same

theorem release_mirrors {T : Except SessionError Unit × Session →
      Except SessionError Unit × Session → Prop} :
    Mirrors (fun r r' => r'.1 = r.1 ∧ r.2.Released ∧ r'.2.Released) T s.release s'.release := by
  unfold release
  rw [same.handle]
  refine (releaseContext_mirrors (T := fun _ _ => False) same.receiving).bind ?_
    fun _ _ => False.elim
  intro receiving receiving' nullReceiving
  refine (releaseContext_mirrors (T := fun _ _ => False) same.sending).bind ?_
    fun _ _ => False.elim
  intro sending sending' nullSending
  have related (answer : Except SessionError Unit) :
      answer = answer ∧ Released ⟨Handle.invalid, receiving, sending⟩
        ∧ Released ⟨Handle.invalid, receiving', sending'⟩ :=
    ⟨rfl, ⟨rfl, nullReceiving.1, nullSending.1⟩, ⟨rfl, nullReceiving.2, nullSending.2⟩⟩
  dsimp only
  split
  · exact .done (related _)
  · refine .ask_bind id fun answer => ?_
    cases answer with
    | error e => exact .done (related _)
    | ok _ => exact .report_bind (.done (related _))

theorem close_mirrors : Mirrors (fun r r' => r' = r) T s.close s'.close := by
  refine (release_mirrors (T := fun _ _ => False) same).bind ?_ fun _ _ => False.elim
  intro r r' released
  obtain ⟨answer, rest⟩ := r
  obtain ⟨answer', rest'⟩ := r'
  obtain ⟨rfl, gone, gone'⟩ : answer' = answer ∧ rest.Released ∧ rest'.Released := released
  simp only [drop_of_released gone, drop_of_released gone', done_bind]
  exact .done rfl

theorem drop_mirrors {T : Unit → Unit → Prop} :
    Mirrors (fun _ _ => True) T s.drop s'.drop := by
  refine (release_mirrors (T := fun _ _ => False) same).bind ?_ fun _ _ => False.elim
  intro r r' released
  obtain ⟨answer, rest⟩ := r
  obtain ⟨answer', rest'⟩ := r'
  obtain ⟨rfl, gone, gone'⟩ : answer' = answer ∧ rest.Released ∧ rest'.Released := released
  simp only [Context.drop_of_released gone.receiving, Context.drop_of_released gone.sending,
    Context.drop_of_released gone'.receiving, Context.drop_of_released gone'.sending, done_bind]
  cases answer' with
  | error e => exact .report_bind (.done trivial)
  | ok _ => exact .done trivial

end Same

theorem Releases.calm {events : List Event} {answer : Except SessionError Unit}
    (releases : s.Releases events answer) : Calm events := by
  obtain ⟨first, second, last⟩ := releases
  refine first.calm.append (second.calm.append ?_)
  cases last with
  | absent invalid => exact calm_nil
  | released live answer => exact calm_nil.cons id

/-- A session is released in the same way when it is let go and when it is closed. -/
theorem drop_close_mirrors {T : Unit → Except SessionError Unit → Prop} :
    Mirrors (fun _ _ => True) T s.drop s.close := by
  intro events events' value run mended
  obtain ⟨answer, releases⟩ := runs_drop_iff.mp run
  obtain rfl := releases.calm.eq_of_mended mended
  exact ⟨answer, runs_close_iff.mpr releases, .inl ⟨rfl, trivial⟩⟩

end Release

theorem createContext_mirrors
    {T : Except SessionError Context → Except SessionError Context → Prop} :
    Mirrors (fun r r' => r' = r) T createContext createContext := by
  refine .of_calm fun events made run => ?_
  rcases event_of_createContext run with ⟨source, rfl, -⟩ | ⟨event, rfl, -⟩
  · exact calm_nil.cons id
  · exact calm_nil.cons id

theorem openWith_mirrors {entry : Entry} {filter : Filter} {layer : Layer} {priority : Int}
    {flags : Flags} {T : Except SessionError Session → Except SessionError Session → Prop} :
    Mirrors (fun r r' => r' = r) T (openWith entry filter layer priority flags)
      (openWith entry filter layer priority flags) := by
  refine .of_calm fun events made run => ?_
  cases runs_openWith_iff.mp run with
  | refused e => exact calm_nil.cons id
  | noReceiving handle e answer => exact ((calm_nil.cons id).cons id).cons id
  | noSending handle receiving e first answer =>
    exact (((first.calm.append (calm_nil.cons id)).cons id).cons id).cons id
  | opened handle receiving sending => exact ((calm_nil.cons id).cons id).cons id

/-! #### Transfers -/

section Transfers

variable (same : s.Same s')
include same

theorem recv_mirrors (buffer : Bytes) (address : Address) :
    Mirrors (fun r r' => r'.1 = r.1 ∧ r.2.Same r'.2)
      (fun r r' => r.1.outcome.Cut r'.1.outcome ∧ r.2.Same r'.2)
      (s.recv buffer address) (s'.recv buffer address) := by
  unfold recv
  rw [same.handle]
  refine (Context.issue_mirrors same.receiving).map ?_ ?_
  · rintro ended _ rfl
    exact ⟨rfl, rfl, rfl, same.sending⟩
  · intro ended ended' cut
    exact ⟨(cut.1.outcome _).map _ _, rfl, cut.2, same.sending⟩

theorem send_mirrors (data : Bytes) (address : Address) :
    Mirrors (fun r r' => r'.1 = r.1 ∧ r.2.Same r'.2) (fun r r' => r.1.Cut r'.1 ∧ r.2.Same r'.2)
      (s.send data address) (s'.send data address) := by
  unfold send
  rw [same.handle]
  refine (Context.issue_mirrors same.sending).map ?_ ?_
  · rintro ended _ rfl
    exact ⟨rfl, rfl, same.receiving, rfl⟩
  · intro ended ended' cut
    exact ⟨(cut.1.outcome _).map _ _, rfl, same.receiving, cut.2⟩

/-- A session and a context that may have been lent, with the same handle and events as others. -/
def SameLent (r r' : Session × Option Context) : Prop :=
  r.1.Same r'.1 ∧ r'.2.map Context.event = r.2.map Context.event

variable {own own' : Option Context} (lent : own'.map Context.event = own.map Context.event)
include lent

theorem recvBatch_mirrors (buffer : Bytes) (records : List Address) :
    Mirrors (fun r r' => r'.1 = r.1 ∧ SameLent r.2 r'.2)
      (fun r r' => r.1.outcome.Cut r'.1.outcome ∧ SameLent r.2 r'.2)
      (s.recvBatch buffer records own) (s'.recvBatch buffer records own') := by
  unfold recvBatch
  rw [same.handle]
  split
  · exact .done ⟨rfl, same, lent⟩
  · cases own with
    | none =>
      obtain rfl := Option.map_eq_none_iff.mp lent
      refine (Context.issue_mirrors same.receiving).map ?_ ?_
      · rintro ended _ rfl
        exact ⟨rfl, ⟨rfl, rfl, same.sending⟩, rfl⟩
      · intro ended ended' cut
        exact ⟨(cut.1.outcome _).map _ _, ⟨rfl, cut.2, same.sending⟩, rfl⟩
    | some c =>
      obtain ⟨c', rfl, hevent⟩ := Option.map_eq_some_iff.mp lent
      refine (Context.issue_mirrors hevent).map ?_ ?_
      · rintro ended _ rfl
        exact ⟨rfl, same, rfl⟩
      · intro ended ended' cut
        exact ⟨(cut.1.outcome _).map _ _, same, congrArg some cut.2⟩

theorem sendBatch_mirrors (data : Bytes) (records : List Address) :
    Mirrors (fun r r' => r'.1 = r.1 ∧ SameLent r.2 r'.2)
      (fun r r' => r.1.Cut r'.1 ∧ SameLent r.2 r'.2)
      (s.sendBatch data records own) (s'.sendBatch data records own') := by
  unfold sendBatch
  rw [same.handle]
  split
  · exact .done ⟨rfl, same, lent⟩
  · cases own with
    | none =>
      obtain rfl := Option.map_eq_none_iff.mp lent
      refine (Context.issue_mirrors same.sending).map ?_ ?_
      · rintro ended _ rfl
        exact ⟨rfl, ⟨rfl, same.receiving, rfl⟩, rfl⟩
      · intro ended ended' cut
        exact ⟨(cut.1.outcome _).map _ _, ⟨rfl, same.receiving, cut.2⟩, rfl⟩
    | some c =>
      obtain ⟨c', rfl, hevent⟩ := Option.map_eq_some_iff.mp lent
      refine (Context.issue_mirrors hevent).map ?_ ?_
      · rintro ended _ rfl
        exact ⟨rfl, same, rfl⟩
      · intro ended ended' cut
        exact ⟨(cut.1.outcome _).map _ _, same, congrArg some cut.2⟩

end Transfers

/-! #### Tuning -/

section Tuning

variable (same : s.Same s')
include same

theorem shutdown_mirrors (how : Direction) :
    Mirrors (fun r r' => r' = r) Outcome.Cut (s.shutdown how) (s'.shutdown how) := by
  unfold shutdown
  rw [same.handle]
  refine Context.issueOnce_mirrors.bind ?_ ?_
  · rintro ⟨verdict, left⟩ _ rfl
    exact .of_calm fun events outcome run => (runs_ended_iff.mp run).1 ▸ calm_nil
  · rintro ⟨_, left⟩ ⟨_, left'⟩ ⟨rfl, e, rfl⟩
    exact .done (Outcome.cut_error _)

theorem getParameter_mirrors (p : Parameter) :
    Mirrors (fun r r' => r' = r) Outcome.Cut (s.getParameter p) (s'.getParameter p) := by
  unfold getParameter
  rw [same.handle]
  refine Context.issueOnce_mirrors.bind ?_ ?_
  · rintro ⟨verdict, left⟩ _ rfl
    exact .of_calm fun events outcome run => (runs_ended_iff.mp run).1 ▸ calm_nil
  · rintro ⟨_, left⟩ ⟨_, left'⟩ ⟨rfl, e, rfl⟩
    exact .done (Outcome.cut_error _)

theorem setParameter_mirrors (p : Parameter) (value : UInt64) :
    Mirrors (fun r r' => r' = r) Outcome.Cut (s.setParameter p value)
      (s'.setParameter p value) := by
  unfold setParameter
  rw [same.handle]
  cases p.check value with
  | error e => exact .done rfl
  | ok _ =>
    refine Context.issueOnce_mirrors.bind ?_ ?_
    · rintro ⟨verdict, left⟩ _ rfl
      exact .of_calm fun events outcome run => (runs_ended_iff.mp run).1 ▸ calm_nil
    · rintro ⟨_, left⟩ ⟨_, left'⟩ ⟨rfl, e, rfl⟩
      exact .done (Outcome.cut_error _)

/-- The second number is not asked for after a panic, and neither after a failure. -/
theorem version_mirrors :
    Mirrors (fun r r' => r' = r) Outcome.Cut s.version s'.version := by
  refine (getParameter_mirrors same _).bind ?_ ?_
  · rintro _ major rfl
    cases major with
    | error e => exact .done rfl
    | unwound why => exact .done rfl
    | ok major =>
      refine (getParameter_mirrors same _).bind ?_ ?_
      · rintro _ minor rfl
        cases minor with
        | error e => exact .done rfl
        | unwound why => exact .done rfl
        | ok minor => exact .done rfl
      · intro minor minor' cut
        obtain ⟨rfl, ⟨e, rfl⟩ | ⟨why, rfl⟩⟩ := cut.cases
        · exact .done (Outcome.cut_error e)
        · exact .done (Outcome.cut_unwound why)
  · intro major major' cut
    obtain ⟨rfl, ⟨e, rfl⟩ | ⟨why, rfl⟩⟩ := cut.cases
    · exact .done (Outcome.cut_error e)
    · exact .done (Outcome.cut_unwound why)

end Tuning

end Session

/-! ### The gate -/

/-- A probe is released whether a panic ends it or a failure. -/
theorem Entry.probeVersion_mirrors (entry : Entry) :
    Mirrors (fun r r' => r' = r) Outcome.Cut entry.probeVersion entry.probeVersion := by
  refine (Session.openWith_mirrors (T := fun _ _ => False)).bind ?_ fun _ _ => False.elim
  rintro _ made rfl
  cases made with
  | error e => exact .done rfl
  | ok probe =>
    refine (Session.version_mirrors (.refl probe)).bind ?_ ?_
    · rintro _ version rfl
      cases version with
      | unwound why =>
        exact (Session.drop_mirrors (T := fun _ _ => False) (.refl probe)).bind
          (fun _ _ _ => .done rfl) fun _ _ => False.elim
      | error e =>
        exact (Session.close_mirrors (T := fun _ _ => False) (.refl probe)).bind
          (fun _ _ _ => .done rfl) fun _ _ => False.elim
      | ok version =>
        refine (Session.close_mirrors (T := fun _ _ => False) (.refl probe)).bind ?_
          fun _ _ => False.elim
        rintro _ closed rfl
        cases closed with
        | error e => exact .done rfl
        | ok _ => exact .report_bind (.done rfl)
    · intro version version' cut
      obtain ⟨rfl, ⟨e, rfl⟩ | ⟨why, rfl⟩⟩ := cut.cases
      · exact (Session.drop_close_mirrors (T := fun _ _ => False)).bind
          (fun _ _ _ => .done (Outcome.cut_error e)) fun _ _ => False.elim
      · exact (Session.drop_mirrors (T := fun _ _ => False) (.refl probe)).bind
          (fun _ _ _ => .done (Outcome.cut_unwound why)) fun _ _ => False.elim

namespace Driver

theorem check_mirrors : Mirrors (fun r r' => r' = r) Outcome.Cut check check := by
  refine .ask_bind id fun emulated => ?_
  rcases emulated with e | (_ | _)
  · exact .done rfl
  · refine .ask_bind id fun loaded => ?_
    cases loaded with
    | error e => exact .done rfl
    | ok entry =>
      refine entry.probeVersion_mirrors.bind ?_ ?_
      · rintro _ version rfl
        cases version with
        | unwound why => exact .done rfl
        | error e => exact .done rfl
        | ok version =>
          dsimp only
          split
          · exact .report_bind (.done rfl)
          · exact .done rfl
      · intro version version' cut
        obtain ⟨rfl, ⟨e, rfl⟩ | ⟨why, rfl⟩⟩ := cut.cases
        · exact .done (Outcome.cut_error _)
        · exact .done (Outcome.cut_unwound why)
  · exact .done rfl

/-- The cell keeps what it had when the gate is cut short. -/
theorem enter_mirrors (d : Driver) :
    Mirrors (fun r r' => r' = r)
      (fun r r' => r.1 = .error .host ∧ (∃ why, r'.1 = .error why) ∧ r'.2 = r.2)
      d.enter d.enter := by
  unfold enter
  split
  · exact .done rfl
  · refine check_mirrors.bind ?_ ?_
    · rintro _ outcome rfl
      cases outcome with
      | ok entry => exact .done rfl
      | unwound why => exact .done rfl
      | error reason => exact .report_bind (.done rfl)
    · intro outcome outcome' cut
      obtain ⟨rfl, ⟨e, rfl⟩ | ⟨why, rfl⟩⟩ := cut.cases
      · exact .report_right (.done ⟨rfl, ⟨_, rfl⟩, rfl⟩)
      · exact .done ⟨rfl, ⟨_, rfl⟩, rfl⟩

theorem openSession_mirrors (d : Driver) (filter : String) (layer : Layer) (priority : Int)
    (flags : Flags) :
    Mirrors (fun r r' => r' = r) (fun r r' => r.1.Cut r'.1 ∧ r'.2 = r.2)
      (d.openSession filter layer priority flags) (d.openSession filter layer priority flags) := by
  unfold openSession
  split
  · exact .done rfl
  · split
    · exact .done rfl
    · refine d.enter_mirrors.bind ?_ ?_
      · rintro _ ⟨entered, driver⟩ rfl
        cases entered with
        | error why => exact .done rfl
        | ok entry =>
          refine (Session.openWith_mirrors (T := fun _ _ => False)).bind ?_ fun _ _ => False.elim
          rintro _ made rfl
          exact .done rfl
      · rintro ⟨_, driver⟩ ⟨_, _⟩ ⟨rfl, ⟨why, rfl⟩, rfl⟩
        exact .done ⟨Outcome.cut_unwound why, rfl⟩

theorem version_mirrors (d : Driver) :
    Mirrors (fun r r' => r' = r) (fun r r' => r.1.Cut r'.1 ∧ r'.2 = r.2) d.version d.version := by
  refine d.enter_mirrors.bind ?_ ?_
  · rintro _ ⟨entered, driver⟩ rfl
    cases entered with
    | error why => exact .done rfl
    | ok entry =>
      exact entry.probeVersion_mirrors.map (fun _ _ same => congrArg (·, driver) same)
        fun _ _ cut => ⟨cut, rfl⟩
  · rintro ⟨_, driver⟩ ⟨_, _⟩ ⟨rfl, ⟨why, rfl⟩, rfl⟩
    exact .done ⟨Outcome.cut_unwound why, rfl⟩

end Driver

/-! ### Relays -/

namespace Relay

/-- Relays that differ at most in the words of their contexts' blocks. -/
structure State.Alike (st st' : State) : Prop where
  session : st.session.Same st'.session
  buffer : st'.buffer = st.buffer
  records : st'.records = st.records
  stats : st'.stats = st.stats

/-- Rounds with the same end. -/
inductive Step.Alike : Step → Step → Prop
  | ended (ending : Ending) {s s' : Session} (same : s.Same s') :
    Alike (.over ending s) (.over ending s')
  | next {st st' : State} (alike : st.Alike st') : Alike (.next st) (.next st')

/-- A round that unwinds from a panicking call, and one that ends in its place. -/
inductive Step.Cut : Step → Step → Prop
  | ended (ending : Ending) {s s' : Session} (same : s.Same s') :
    Cut (.over (.unwound .host) s) (.over ending s')

theorem reportPackets_mirrors {α β : Type} {E T : α → β → Prop} {f : Unit → Program α}
    {g : Unit → Program β} (records : List Address) (h : Mirrors E T (f ()) (g ())) :
    Mirrors E T (reportPackets records >>= f) (reportPackets records >>= g) := by
  induction records with
  | nil => exact h
  | cons a rest ih =>
    change Mirrors E T (report _ >>= fun _ => reportPackets rest >>= f)
      (report _ >>= fun _ => reportPackets rest >>= g)
    exact .report_bind ih

variable {o : Options} {st st' : State}

theorem passOn_mirrors (alike : st.Alike st') (got : Delivery) :
    Mirrors Step.Alike Step.Cut (passOn o st got) (passOn o st' got) := by
  obtain ⟨s, buffer, records, stats⟩ := st
  obtain ⟨s', _, _, _⟩ := st'
  obtain ⟨same, rfl, rfl, rfl⟩ := alike
  unfold passOn
  split
  · dsimp only
    split
    · exact .done (.ended _ same)
    · refine (Session.sendBatch_mirrors same rfl _ _).bind ?_ ?_
      · rintro ⟨_, t, own⟩ ⟨outcome, t', own'⟩ ⟨rfl, kept, -⟩
        cases outcome with
        | error e => exact .done (.ended _ kept)
        | unwound why => exact .done (.ended _ kept)
        | ok written => exact .report_bind (.done (.next ⟨kept, rfl, rfl, rfl⟩))
      · rintro ⟨outcome, t, own⟩ ⟨outcome', t', own'⟩ ⟨cut, kept, -⟩
        obtain ⟨rfl, ⟨e, rfl⟩ | ⟨why, rfl⟩⟩ := cut.cases
        · exact .done (.ended _ kept)
        · exact .done (.ended _ kept)
  · exact .done (.next ⟨same, rfl, rfl, rfl⟩)

theorem round_mirrors (alike : st.Alike st') :
    Mirrors Step.Alike Step.Cut (round o st) (round o st') := by
  obtain ⟨s, buffer, records, stats⟩ := st
  obtain ⟨s', _, _, _⟩ := st'
  obtain ⟨same, rfl, rfl, rfl⟩ := alike
  refine (Session.recvBatch_mirrors same rfl _ _).bind ?_ ?_
  · rintro ⟨_, t, own⟩ ⟨got, t', own'⟩ ⟨rfl, kept, -⟩
    have kept : t.Same t' := kept
    dsimp only
    split
    · exact .done (.ended _ kept)
    · split
      · exact .report_bind (.done (.ended _ kept))
      · exact .done (.ended _ kept)
    · split
      · exact .done (.ended _ kept)
      · refine reportPackets_mirrors _ (passOn_mirrors ?_ _)
        exact ⟨kept, rfl, rfl, rfl⟩
  · rintro ⟨⟨outcome, room, slots⟩, t, own⟩ ⟨⟨outcome', room', slots'⟩, t', own'⟩ ⟨cut, kept, -⟩
    obtain ⟨rfl, ⟨e, rfl⟩ | ⟨why, rfl⟩⟩ := cut.cases
    · -- a receive that fails may be the one that finds the session drained
      dsimp only
      split
      · exact .report_right (.done (.ended _ kept))
      · exact .done (.ended _ kept)
    · exact .done (.ended _ kept)

/-- A relay that unwinds and one that ends in its place. -/
def Severed (r r' : Ending × Session) : Prop := r.1 = .unwound .host ∧ r.2.Same r'.2

theorem rounds_mirrors {limit : Nat} (alike : st.Alike st') :
    Mirrors (fun r r' => r'.1 = r.1 ∧ r.2.Same r'.2) Severed (rounds o limit st)
      (rounds o limit st') := by
  induction limit generalizing st st' with
  | zero =>
    exact .done ⟨congrArg Ending.ongoing alike.stats, alike.session⟩
  | succ limit ih =>
    refine (round_mirrors alike).bind ?_ ?_
    · intro step step' related
      cases related with
      | ended ending same => exact .done ⟨rfl, same⟩
      | next alike => exact ih alike
    · intro step step' cut
      cases cut with
      | ended ending same => exact .done ⟨rfl, same⟩

theorem run_mirrors {s s' : Session} (same : s.Same s') (limit : Nat) :
    Mirrors (fun r r' => r'.1 = r.1 ∧ r.2.Same r'.2) Severed (run limit s o) (run limit s' o) := by
  unfold run
  split
  · exact .done ⟨rfl, same⟩
  · exact .report_bind (rounds_mirrors ⟨same, rfl, rfl, rfl⟩)

end Relay

end PacketDiversion

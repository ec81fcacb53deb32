import PacketDiversion.Proofs.Handles.Frame
import PacketDiversion.Proofs.Handles.Released
import PacketDiversion.Proofs.Refusals

/-!
# Whose handles they are

The handle and the events of a session are those that the system returned when it was opened, until
it is closed or dropped, and the event of a caller's context is the one that was created for it,
until it is released, dropped or replaced. Both are read off the history (`Owned`, `Kept`) and agree
with what the client has in its slots. On a system with fresh handles no two owners have a number in
common.
-/

namespace PacketDiversion

open Program Handles

namespace Client

/-! ### Owners in a history -/

/-- The deed opens a session in a slot: its last three calls return the handle and the events. -/
def Deed.Opens (d : Deed) (slot : Nat) (g : Grant) : Prop :=
  d.outcome = .ok (.handle g.handle) ∧ ∃ filter layer priority flags gate entry parsed,
    d.action = .openSession slot filter layer priority flags
      ∧ d.events = gate ++ [⟨.openSession entry parsed layer priority flags, .ok g.handle⟩,
        ⟨.createEvent, .ok g.receiving⟩, ⟨.createEvent, .ok g.sending⟩]

/-- The deed closes or drops the session in a slot. -/
def Deed.Ends (d : Deed) (slot : Nat) : Prop := d.action = .close slot ∨ d.action = .drop slot

/-- A session was opened in a slot with these handles, and was neither closed nor dropped since. -/
def Owned (slot : Nat) (g : Grant) (deeds : List Deed) : Prop :=
  Since (fun d => d.Opens slot g) (fun d => d.Ends slot) deeds

/-- The deed creates a context in a slot, for which the system returns an event. -/
def Deed.Gives (d : Deed) (k : Nat) (event : Handle) : Prop :=
  (∃ slot, d.action = .createContext slot k)
    ∧ ∃ rest, d.events = ⟨.createEvent, .ok event⟩ :: rest

/-- The deed takes its event from the context in a slot. -/
def Deed.Takes (d : Deed) (k : Nat) : Prop :=
  d.action = .releaseContext k ∨ d.action = .dropContext k ∨ ∃ event, d.Gives k event

/-- A context was created in a slot with an event, and kept it since. -/
def Kept (k : Nat) (event : Handle) (deeds : List Deed) : Prop :=
  Since (fun d => d.Gives k event) (fun d => d.Takes k) deeds

/-! ### Opening a session -/

theorem opened_of_driver {d next : Driver} {filter : String} {layer : Layer} {priority : Int}
    {flags : Flags} {events : List Event} {s : Session}
    (run : Runs (d.openSession filter layer priority flags) events (.ok s, next)) :
    ∃ gate entry parsed, events = gate
      ++ [⟨.openSession entry parsed layer priority flags, .ok s.grant.handle⟩,
        ⟨.createEvent, .ok s.grant.receiving⟩, ⟨.createEvent, .ok s.grant.sending⟩] := by
  unfold Driver.openSession at run
  cases hpriority : Priority.check priority with
  | error e =>
    simp only [hpriority] at run
    cases (runs_pair_iff.mp run).2.1
  | ok _ =>
    cases hfilter : Filter.parse filter with
    | error nulAt =>
      simp only [hpriority, hfilter] at run
      cases (runs_pair_iff.mp run).2.1
    | ok parsed =>
      simp only [hpriority, hfilter] at run
      obtain ⟨⟨entered, driver⟩, gate, rest, rfl, -, run⟩ := runs_bind_iff.mp run
      cases entered with
      | error why => cases (runs_pair_iff.mp run).2.1
      | ok entry =>
        obtain ⟨opened, own, after, rfl, hopen, run⟩ := runs_bind_iff.mp run
        obtain ⟨rfl, houtcome, -⟩ := runs_pair_iff.mp run
        cases opened with
        | error e => cases houtcome
        | ok t =>
          cases houtcome
          rcases Session.made_of_openWith hopen with ⟨operation, source, hfailed, -⟩ | ⟨t, ht, rfl⟩
          · cases hfailed
          · cases ht
            rw [List.append_nil]
            exact ⟨gate, entry, parsed, rfl⟩

theorem Deed.Opens.unique {d : Deed} {k : Nat} {g g' : Grant} (opens : d.Opens k g)
    (opens' : d.Opens k g') : g = g' := by
  obtain ⟨-, filter, layer, priority, flags, gate, entry, parsed, -, heq⟩ := opens
  obtain ⟨-, filter', layer', priority', flags', gate', entry', parsed', -, heq'⟩ := opens'
  obtain ⟨-, hlast⟩ := List.append_inj' (heq.symm.trans heq') rfl
  obtain ⟨handle, receiving, sending⟩ := g
  cases hlast
  rfl

/-! ### Sessions in slots -/

/-- What a deed makes of the session in a slot. -/
inductive Handed (d : Deed) (k : Nat) : Prop
  | kept (same : d.after.grantAt k = d.before.grantAt k) (unopened : ∀ g, ¬ d.Opens k g)
      (lasting : ¬ d.Ends k)
  | opened {g : Grant} (free : d.before.grantAt k = none) (opens : d.Opens k g)
      (now : d.after.grantAt k = some g)
  | ended (ends : d.Ends k) (empty : d.after.grantAt k = none)

theorem Deed.Opens.seat {d : Deed} {k : Nat} {g : Grant} (opens : d.Opens k g) :
    d.action.seat? = some k := by
  obtain ⟨-, filter, layer, priority, flags, gate, entry, parsed, haction, -⟩ := opens
  rw [haction]
  rfl

theorem Deed.Ends.seat {d : Deed} {k : Nat} (ends : d.Ends k) : d.action.seat? = some k := by
  rcases ends with haction | haction
  · rw [haction]
    rfl
  · rw [haction]
    rfl

theorem Deed.Ends.not_opens {d : Deed} {k : Nat} (ends : d.Ends k) (g : Grant) :
    ¬ d.Opens k g := by
  rintro ⟨-, filter, layer, priority, flags, gate, entry, parsed, haction, -⟩
  rcases ends with hends | hends
  · cases haction.symm.trans hends
  · cases haction.symm.trans hends

theorem Deed.Done.handed_of_open {d : Deed} (run : d.Done) {k : Nat} {filter : String}
    {layer : Layer} {priority : Int} {flags : Flags}
    (haction : d.action = .openSession k filter layer priority flags) : Handed d k := by
  have lasting : ¬ d.Ends k := by
    rintro (hends | hends)
    · cases haction.symm.trans hends
    · cases haction.symm.trans hends
  have failed (same : d.after.sessions = d.before.sessions)
      (hfailed : ∀ answer, d.outcome ≠ .ok answer) : Handed d k := by
    refine .kept (by rw [grantAt, same, grantAt]) ?_ lasting
    rintro g ⟨houtcome, -⟩
    exact hfailed _ houtcome
  obtain ⟨before, a, events, outcome, after⟩ := d
  dsimp only at haction
  subst haction
  change Runs (before.openSession k filter layer priority flags) events (outcome, after) at run
  unfold openSession at run
  cases hslot : before.sessions.get? k with
  | some taken =>
    simp only [hslot] at run
    obtain ⟨-, rfl, rfl⟩ := runs_pair_iff.mp run
    exact failed rfl fun answer h => by cases h
  | none =>
    simp only [hslot] at run
    obtain ⟨⟨result, driver⟩, first, rest, rfl, hopen, run⟩ := runs_bind_iff.mp run
    cases result with
    | error e =>
      obtain ⟨-, rfl, rfl⟩ := runs_pair_iff.mp run
      exact failed rfl fun answer h => by cases h
    | unwound why =>
      obtain ⟨-, rfl, rfl⟩ := runs_pair_iff.mp run
      exact failed rfl fun answer h => by cases h
    | ok s =>
      obtain ⟨rfl, rfl, rfl⟩ := runs_pair_iff.mp run
      obtain ⟨gate, entry, parsed, rfl⟩ := opened_of_driver hopen
      have free : before.grantAt k = none := congrArg (Option.map Session.grant) hslot
      refine Handed.opened (g := s.grant) free ?_ (grantAt_putSession _ k s)
      exact ⟨rfl, filter, layer, priority, flags, gate, entry, parsed, rfl, List.append_nil _⟩

/-- A slot whose session, if there was one, is let go and taken out. -/
theorem grantAt_of_erase {c next : Client} {k : Nat} {α : Type} {go : Session → Program α}
    {answer : α → Outcome Failure Answer} {events : List Event} {outcome : Outcome Failure Answer}
    (run : Runs (c.withSession k fun s => go s >>= fun value =>
      pure (answer value, { c with sessions := c.sessions.erase k })) events (outcome, next)) :
    next.grantAt k = none := by
  unfold withSession at run
  cases hs : c.sessions.get? k with
  | none =>
    simp only [hs] at run
    obtain ⟨-, -, rfl⟩ := runs_pair_iff.mp run
    rw [grantAt, hs]
    rfl
  | some s =>
    simp only [hs] at run
    obtain ⟨value, gone, rest, -, -, run⟩ := runs_bind_iff.mp run
    obtain ⟨-, -, rfl⟩ := runs_pair_iff.mp run
    have erased : (c.sessions.erase k).get? k = none := Slots.get?_erase_self c.sessions k
    rw [grantAt, erased]
    rfl

theorem Deed.Done.grantAt_of_ends {d : Deed} (run : d.Done) {k : Nat} (ends : d.Ends k) :
    d.after.grantAt k = none := by
  unfold Done at run
  rcases ends with haction | haction
  · rw [haction] at run
    exact grantAt_of_erase run
  · rw [haction] at run
    exact grantAt_of_erase run

theorem Deed.Done.handed {d : Deed} (run : d.Done) (proper : ∀ e ∈ d.events, e.Proper) (k : Nat) :
    Handed d k := by
  by_cases seat : d.action.seat? = some k
  · cases haction : d.action with
    | openSession slot filter layer priority flags =>
      rw [haction] at seat
      obtain rfl : slot = k := Option.some.inj seat
      exact run.handed_of_open haction
    | close slot =>
      rw [haction] at seat
      obtain rfl : slot = k := Option.some.inj seat
      have ends : d.Ends slot := .inl haction
      exact .ended ends (run.grantAt_of_ends ends)
    | drop slot =>
      rw [haction] at seat
      obtain rfl : slot = k := Option.some.inj seat
      have ends : d.Ends slot := .inr haction
      exact .ended ends (run.grantAt_of_ends ends)
    | _ =>
      rw [haction] at seat
      cases seat
  · have framed := run.framed proper
    exact .kept (framed.grants seat) (fun g opens => seat opens.seat) fun ends => seat ends.seat

/-- A client has in a slot the session that was opened there last, unless it was let go. -/
theorem owned_iff {deeds : List Deed} {last : Client} (path : Path {} deeds last)
    (proper : ∀ e ∈ eventsOf deeds, e.Proper) {k : Nat} {g : Grant} :
    Owned k g deeds ↔ last.grantAt k = some g := by
  induction deeds using List.reverseRecOn generalizing last with
  | nil =>
    cases path
    exact iff_of_false not_since_nil fun held => by cases held
  | append_singleton deeds d ih =>
    obtain ⟨before, run, rest⟩ := path.of_split
    cases rest
    obtain ⟨hearly, hproper⟩ := proper_of_concat proper
    rw [Owned, since_concat_iff, ← Owned, ih before hearly]
    cases run.handed hproper k with
    | kept same unopened lasting =>
      rw [same]
      exact ⟨fun either => (either.resolve_left (unopened g)).1, fun held => .inr ⟨held, lasting⟩⟩
    | opened free opens now =>
      -- the slot was free, so nobody else owned it
      rw [now, free, Option.some.injEq]
      constructor
      · rintro (other | ⟨held, -⟩)
        · exact opens.unique other
        · cases held
      · rintro rfl
        exact .inl opens
    | ended ends empty =>
      rw [empty]
      refine iff_of_false ?_ fun held => by cases held
      rintro (opens | ⟨-, lasting⟩)
      · exact ends.not_opens g opens
      · exact lasting ends

/-! ### Contexts in slots -/

/-- What a deed makes of the context in a slot. -/
inductive Provided (d : Deed) (k : Nat) : Prop
  | same (heq : d.after.eventAt k = d.before.eventAt k) (lasting : ¬ d.Takes k)
  | given {event : Handle} (gives : d.Gives k event) (now : d.after.eventAt k = some event)
  | taken (takes : d.Takes k) (ungiven : ∀ event, ¬ d.Gives k event)
      (without : ∀ h ∈ d.after.eventAt k, h = Handle.null)

theorem Deed.Takes.context {d : Deed} {k : Nat} (takes : d.Takes k) :
    d.action.Moves ∧ d.action.context? = some k := by
  rcases takes with haction | haction | ⟨event, ⟨slot, haction⟩, -⟩
  · rw [haction]
    exact ⟨trivial, rfl⟩
  · rw [haction]
    exact ⟨trivial, rfl⟩
  · rw [haction]
    exact ⟨trivial, rfl⟩

theorem Deed.Done.provided_of_create {d : Deed} (run : d.Done) {slot k : Nat}
    (haction : d.action = .createContext slot k) : Provided d k := by
  have failed (same : d.after = d.before)
      (hfailed : ∀ event rest, d.events ≠ ⟨.createEvent, .ok event⟩ :: rest) : Provided d k := by
    refine .same (by rw [same]) ?_
    rintro (hother | hother | ⟨event, -, rest, heq⟩)
    · cases haction.symm.trans hother
    · cases haction.symm.trans hother
    · exact hfailed event rest heq
  obtain ⟨before, a, events, outcome, after⟩ := d
  dsimp only at haction
  subst haction
  change Runs (before.withSession slot fun _ => before.createContext k) events (outcome, after)
    at run
  unfold withSession at run
  split at run
  · obtain ⟨rfl, rfl, rfl⟩ := runs_pair_iff.mp run
    exact failed rfl fun event rest h => by cases h
  · obtain ⟨made, first, rest, rfl, hmade, run⟩ := runs_bind_iff.mp run
    rcases Session.event_of_createContext hmade with ⟨source, rfl, rfl⟩ | ⟨event, rfl, rfl⟩
    · obtain ⟨rfl, rfl, rfl⟩ := runs_pair_iff.mp run
      refine failed rfl fun event rest heq => ?_
      cases heq
    · have hafter : after = before.putContext k ⟨.withEvent event⟩ := by
        dsimp only at run
        split at run
        · obtain ⟨⟨⟩, dropped, last, rfl, -, run⟩ := runs_bind_iff.mp run
          exact (runs_pair_iff.mp run).2.2
        · exact (runs_pair_iff.mp run).2.2
      have now : after.eventAt k = some event := by
        rw [hafter]
        exact eventAt_putContext before k ⟨.withEvent event⟩
      exact .given ⟨⟨slot, rfl⟩, rest, rfl⟩ now

theorem Deed.Done.without_of_release {d : Deed} (run : d.Done) {k : Nat}
    (haction : d.action = .releaseContext k) : ∀ h ∈ d.after.eventAt k, h = Handle.null := by
  intro h hh
  unfold Done at run
  rw [haction, step, withContext] at run
  cases hown : d.before.contexts.get? k with
  | none =>
    simp only [hown] at run
    obtain ⟨-, -, hafter⟩ := runs_pair_iff.mp run
    rw [hafter, eventAt, hown] at hh
    cases hh
  | some own =>
    simp only [hown] at run
    obtain ⟨⟨answer, rest⟩, released, later, -, hrelease, run⟩ := runs_bind_iff.mp run
    have hafter : d.after = d.before.putContext k rest := by
      cases answer with
      | error e => exact (runs_pair_iff.mp run).2.2
      | ok _ => exact (runs_pair_iff.mp run).2.2
    rw [hafter, eventAt_putContext] at hh
    cases hh
    exact (Context.freed_of_release hrelease).2

theorem Deed.Done.eventAt_of_drop {d : Deed} (run : d.Done) {k : Nat}
    (haction : d.action = .dropContext k) : d.after.eventAt k = none := by
  unfold Done at run
  rw [haction, step, withContext] at run
  cases hown : d.before.contexts.get? k with
  | none =>
    simp only [hown] at run
    obtain ⟨-, -, hafter⟩ := runs_pair_iff.mp run
    rw [hafter, eventAt, hown]
    rfl
  | some own =>
    simp only [hown] at run
    obtain ⟨⟨⟩, dropped, rest, -, -, run⟩ := runs_bind_iff.mp run
    obtain ⟨-, -, hafter⟩ := runs_pair_iff.mp run
    have erased : (d.before.contexts.erase k).get? k = none :=
      Slots.get?_erase_self d.before.contexts k
    rw [hafter, eventAt, erased]
    rfl

theorem Deed.Done.provided {d : Deed} (run : d.Done) (proper : ∀ e ∈ d.events, e.Proper) (k : Nat) :
    Provided d k := by
  by_cases touched : d.action.Moves ∧ d.action.context? = some k
  · obtain ⟨moves, hk⟩ := touched
    cases haction : d.action with
    | createContext slot context =>
      rw [haction] at hk
      obtain rfl : context = k := Option.some.inj hk
      exact run.provided_of_create haction
    | releaseContext context =>
      rw [haction] at hk
      obtain rfl : context = k := Option.some.inj hk
      refine .taken (.inl haction) ?_ (run.without_of_release haction)
      rintro event ⟨⟨slot, hother⟩, -⟩
      cases haction.symm.trans hother
    | dropContext context =>
      rw [haction] at hk
      obtain rfl : context = k := Option.some.inj hk
      refine .taken (.inr (.inl haction)) ?_ ?_
      · rintro event ⟨⟨slot, hother⟩, -⟩
        cases haction.symm.trans hother
      · rw [run.eventAt_of_drop haction]
        exact fun h hh => by cases hh
    | _ =>
      rw [haction] at moves
      exact absurd moves id
  · refine .same ?_ fun takes => touched takes.context
    by_cases hk : d.action.context? = some k
    · have still : ¬ d.action.Moves := fun moves => touched ⟨moves, hk⟩
      exact ((step_retains still).keeps run (promises_lenient proper)).2 k
    · exact congrArg (Option.map Context.event) ((run.framed proper).contexts hk)

/-- A context of a client has the event that was created for it, unless it was taken away. -/
theorem kept_iff {deeds : List Deed} {last : Client} (path : Path {} deeds last)
    (proper : ∀ e ∈ eventsOf deeds, e.Proper) {k : Nat} {event : Handle} :
    Kept k event deeds ↔ last.eventAt k = some event ∧ event ≠ Handle.null := by
  induction deeds using List.reverseRecOn generalizing last with
  | nil =>
    cases path
    refine iff_of_false not_since_nil ?_
    rintro ⟨held, -⟩
    cases held
  | append_singleton deeds d ih =>
    obtain ⟨before, run, rest⟩ := path.of_split
    cases rest
    obtain ⟨hearly, hproper⟩ := proper_of_concat proper
    rw [Kept, since_concat_iff, ← Kept, ih before hearly]
    cases run.provided hproper k with
    | same heq lasting =>
      rw [heq]
      have ungiven : ¬ d.Gives k event := fun gives => lasting (.inr (.inr ⟨event, gives⟩))
      exact ⟨fun either => (either.resolve_left ungiven).1, fun held => .inr ⟨held, lasting⟩⟩
    | @given fresh gives now =>
      -- a new context takes the slot from the old one
      obtain ⟨hcreate, later, hevents⟩ := gives
      have live : fresh ≠ Handle.null :=
        hproper ⟨.createEvent, .ok fresh⟩ (hevents ▸ List.mem_cons_self)
      rw [now, Option.some.injEq]
      constructor
      · rintro (⟨-, later', hevents'⟩ | ⟨-, lasting⟩)
        · cases hevents.symm.trans hevents'
          exact ⟨rfl, live⟩
        · exact absurd (.inr (.inr ⟨fresh, hcreate, later, hevents⟩)) lasting
      · rintro ⟨rfl, -⟩
        exact .inl ⟨hcreate, later, hevents⟩
    | taken takes ungiven without =>
      refine iff_of_false ?_ fun held => held.2 (without event held.1)
      rintro (gives | ⟨-, lasting⟩)
      · exact ungiven event gives
      · exact lasting takes

/-! ### Different owners -/

section Owners

variable {c : Client} {k j : Nat} {g g' : Grant} {event : Handle}

theorem handles_of_grant (sound : c.Sound) (hg : c.grantAt k = some g) :
    c.handles = ↑g.handles + handles { c with sessions := c.sessions.erase k } := by
  obtain ⟨s, hs, rfl⟩ := Option.map_eq_some_iff.mp hg
  rw [handles, Slots.total_erase Session.handles sound.sessions hs, add_assoc]
  rfl

theorem handles_of_event (sound : c.Sound) (hk : c.eventAt k = some event)
    (live : event ≠ Handle.null) :
    c.handles = {event} + handles { c with contexts := c.contexts.erase k } := by
  obtain ⟨own, hown, rfl⟩ := Option.map_eq_some_iff.mp hk
  rw [handles, Slots.total_erase Context.handles sound.contexts hown,
    Context.handles_of_live live, add_left_comm]
  rfl

theorem mem_handles_of_grant (sound : c.Sound) (hg : c.grantAt k = some g) {h : Handle}
    (hh : h ∈ g.handles) : h ∈ c.handles := by
  rw [handles_of_grant sound hg]
  exact Multiset.mem_add.mpr (.inl (Multiset.mem_coe.mpr hh))

theorem mem_handles_of_event (sound : c.Sound) (hk : c.eventAt k = some event)
    (live : event ≠ Handle.null) : event ∈ c.handles := by
  rw [handles_of_event sound hk live]
  exact Multiset.mem_add.mpr (.inl (Multiset.mem_singleton_self event))

variable (sound : c.Sound) (nodup : c.handles.Nodup)
include sound nodup

theorem grant_nodup (hg : c.grantAt k = some g) : g.handles.Nodup := by
  rw [handles_of_grant sound hg] at nodup
  exact Multiset.coe_nodup.mp (Multiset.nodup_add.mp nodup).1

theorem grants_apart (hjk : j ≠ k) (hg : c.grantAt k = some g) (hg' : c.grantAt j = some g')
    {h : Handle} (hh : h ∈ g.handles) : h ∉ g'.handles := by
  rw [handles_of_grant sound hg] at nodup
  have disjoint := (Multiset.nodup_add.mp nodup).2.2
  have hrest : grantAt { c with sessions := c.sessions.erase k } j = some g' := by
    have hother : (c.sessions.erase k).get? j = c.sessions.get? j :=
      Slots.get?_erase_of_ne hjk c.sessions
    rw [grantAt, hother]
    exact hg'
  intro hh'
  have hmem := mem_handles_of_grant (sound_eraseSession sound k) hrest hh'
  exact Multiset.disjoint_left.mp disjoint (Multiset.mem_coe.mpr hh) hmem

theorem event_apart (hg : c.grantAt k = some g) (hj : c.eventAt j = some event)
    (live : event ≠ Handle.null) : event ∉ g.handles := by
  rw [handles_of_grant sound hg] at nodup
  have disjoint := (Multiset.nodup_add.mp nodup).2.2
  have hrest : eventAt { c with sessions := c.sessions.erase k } j = some event := hj
  intro hh
  have hmem := mem_handles_of_event (sound_eraseSession sound k) hrest live
  exact Multiset.disjoint_left.mp disjoint (Multiset.mem_coe.mpr hh) hmem

theorem events_apart {event' : Handle} (hjk : j ≠ k) (hk : c.eventAt k = some event)
    (live : event ≠ Handle.null) (hj : c.eventAt j = some event')
    (live' : event' ≠ Handle.null) : event ≠ event' := by
  rw [handles_of_event sound hk live] at nodup
  have disjoint := (Multiset.nodup_add.mp nodup).2.2
  have hrest : eventAt { c with contexts := c.contexts.erase k } j = some event' := by
    have hother : (c.contexts.erase k).get? j = c.contexts.get? j :=
      Slots.get?_erase_of_ne hjk c.contexts
    rw [eventAt, hother]
    exact hj
  rintro rfl
  have hmem := mem_handles_of_event (sound_eraseContext sound k) hrest live'
  exact Multiset.disjoint_left.mp disjoint (Multiset.mem_singleton_self event) hmem

end Owners

end Client

end PacketDiversion

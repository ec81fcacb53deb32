import PacketDiversion.Host.Scripted
import PacketDiversion.Proofs.Gate.Course

/-!
# Which answers decide the gate

The gate's calls are a part of one sequence, in its order (`canonical`). It stops at the first step
that fails, with that step's error, and of the releases that follow only one can decide anything:
that of the probe's handle, once both numbers of the version have been read
(`check_stops_at_first_failure`).
-/

namespace PacketDiversion

open Program

/-! ### One sequence of calls -/

/-- The calls of a request on an event of its own. -/
def singleCalls (handle : Handle) (request : Request) (event : Handle) : List Call :=
  [.createEvent, .control handle request (.withEvent event), .result handle event true,
    .closeHandle event]

/-- The calls of a gate that is passed from its first step to its last, when both requests have to
be waited for. -/
def canonical (entry : Entry) (handle receiving sending major minor : Handle) : List Call :=
  [.queryEmulation, .loadEntry,
    .openSession entry .matchNothing .network Priority.default .none, .createEvent, .createEvent]
  ++ (singleCalls handle (.read .versionMajor) major
  ++ (singleCalls handle (.read .versionMinor) minor
  ++ [.closeHandle receiving, .closeHandle sending, .closeHandle handle]))

section Calls

variable {events : List Event} {s : Session} {entry : Entry}

theorem Freed.calls {event : Handle} (freed : Freed event events) :
    (events.map Event.call).Sublist [.closeHandle event] := by
  cases freed with
  | absent null => exact List.nil_sublist _
  | released live answer => exact List.Sublist.refl _

theorem Shut.calls {handle : Handle} {answer : Except SessionError Unit}
    (shut : Shut handle events answer) :
    (events.map Event.call).Sublist [.closeHandle handle] := by
  cases shut with
  | absent invalid => exact List.nil_sublist _
  | released live answer => exact List.Sublist.refl _

theorem Single.calls {handle : Handle} {request : Request} {done : Completion}
    (single : Single handle request events done) :
    ∃ event, (events.map Event.call).Sublist (singleCalls handle request event) := by
  cases single with
  | noEvent e => exact ⟨Handle.null, List.singleton_sublist.mpr List.mem_cons_self⟩
  | @onEvent event events freed done exchange hfreed =>
    refine ⟨event, List.Sublist.cons_cons _ ?_⟩
    have hexchange : (events.map Event.call).Sublist
        [.control handle request (.withEvent event), .result handle event true] := by
      cases exchange with
      | atOnce hpending => exact List.singleton_sublist.mpr List.mem_cons_self
      | later hpending => exact List.Sublist.refl _
    rw [List.map_append]
    exact hexchange.append hfreed.calls

theorem Session.Releases.calls {answer : Except SessionError Unit}
    (releases : s.Releases events answer) :
    (events.map Event.call).Sublist
      [.closeHandle s.receiving.event, .closeHandle s.sending.event, .closeHandle s.handle] := by
  obtain ⟨first, second, last⟩ := releases
  rw [List.map_append, List.map_append]
  exact first.calls.append (second.calls.append last.calls)

theorem Session.Versioned.calls {outcome : Outcome SessionError Version}
    (versioned : s.Versioned events outcome) :
    ∃ major minor, (events.map Event.call).Sublist
      (singleCalls s.handle (.read .versionMajor) major
        ++ singleCalls s.handle (.read .versionMinor) minor) := by
  have first {events : List Event} {done : Completion}
      (single : Single s.handle (.read .versionMajor) events done) :
      ∃ major minor, (events.map Event.call).Sublist
        (singleCalls s.handle (.read .versionMajor) major
          ++ singleCalls s.handle (.read .versionMinor) minor) := by
    obtain ⟨major, hmajor⟩ := single.calls
    exact ⟨major, Handle.null, hmajor.trans (List.sublist_append_left _ _)⟩
  have both {first second : List Event} {done done' : Completion}
      (major : Single s.handle (.read .versionMajor) first done)
      (minor : Single s.handle (.read .versionMinor) second done') :
      ∃ major minor, ((first ++ second).map Event.call).Sublist
        (singleCalls s.handle (.read .versionMajor) major
          ++ singleCalls s.handle (.read .versionMinor) minor) := by
    obtain ⟨major, hmajor⟩ := major.calls
    obtain ⟨minor, hminor⟩ := minor.calls
    rw [List.map_append]
    exact ⟨major, minor, hmajor.append hminor⟩
  cases versioned with
  | noMajor readMajor _ => exact first readMajor
  | majorPanicked readMajor _ => exact first readMajor
  | noMinor readMajor _ readMinor _ => exact both readMajor readMinor
  | minorPanicked readMajor _ readMinor _ => exact both readMajor readMinor
  | read readMajor _ readMinor _ => exact both readMajor readMinor

/-- A probe that cannot be opened releases what there is of it. -/
theorem Opened.calls_of_error {e : SessionError}
    (failed : Opened entry .matchNothing .network Priority.default .none events (.error e)) :
    ∃ receiving handle, (events.map Event.call).Sublist
      ([.openSession entry .matchNothing .network Priority.default .none, .createEvent,
        .createEvent] ++ [.closeHandle receiving, .closeHandle handle]) := by
  cases failed with
  | refused e =>
    exact ⟨Handle.null, Handle.null, List.singleton_sublist.mpr List.mem_cons_self⟩
  | noReceiving handle e answer =>
    refine ⟨Handle.null, handle, List.Sublist.cons_cons _ (List.Sublist.cons_cons _ ?_)⟩
    exact List.singleton_sublist.mpr (by simp)
  | noSending handle receiving e first answer =>
    refine ⟨receiving, handle, ?_⟩
    rw [List.map_cons, List.map_cons, List.map_cons, List.map_append]
    refine List.Sublist.cons_cons _ (List.Sublist.cons_cons _ (List.Sublist.cons_cons _ ?_))
    exact first.calls.append (List.Sublist.refl [Call.closeHandle handle])

theorem Opened.eq_of_ok {filter : Filter} {layer : Layer} {priority : Int} {flags : Flags}
    (opened : Opened entry filter layer priority flags events (.ok s)) :
    events = [⟨.openSession entry filter layer priority flags, .ok s.handle⟩,
      ⟨.createEvent, .ok s.receiving.event⟩, ⟨.createEvent, .ok s.sending.event⟩] := by
  cases opened with
  | opened handle receiving sending => rfl

theorem Probed.calls {outcome : Outcome SessionError Version} (probed : Probed entry events outcome) :
    ∃ handle receiving sending major minor,
      (.queryEmulation :: .loadEntry :: events.map Event.call).Sublist
        (canonical entry handle receiving sending major minor) := by
  have whole {opening reading releases : List Event} {s : Session}
      {version : Outcome SessionError Version} {answer : Except SessionError Unit}
      (opened : Opened entry .matchNothing .network Priority.default .none opening (.ok s))
      (versioned : s.Versioned reading version) (released : s.Releases releases answer) :
      ∃ handle receiving sending major minor,
        (.queryEmulation :: .loadEntry
            :: (opening ++ (reading ++ releases)).map Event.call).Sublist
          (canonical entry handle receiving sending major minor) := by
    obtain ⟨major, minor, hreading⟩ := versioned.calls
    refine ⟨s.handle, s.receiving.event, s.sending.event, major, minor, ?_⟩
    rw [opened.eq_of_ok, List.map_append, List.map_append]
    have hrest := hreading.append released.calls
    rw [List.append_assoc] at hrest
    exact (List.Sublist.refl [_, _, _, _, _]).append hrest
  cases probed with
  | unopened failed =>
    obtain ⟨receiving, handle, hopening⟩ := failed.calls_of_error
    refine ⟨handle, receiving, Handle.null, Handle.null, Handle.null,
      List.Sublist.cons_cons _ (List.Sublist.cons_cons _ (hopening.trans ?_))⟩
    refine (List.Sublist.refl [_, _, _]).append ?_
    -- what is skipped is the reading of the version, and the second event
    refine List.Sublist.trans ?_ (List.sublist_append_right (singleCalls _ _ _) _)
    refine List.Sublist.trans ?_ (List.sublist_append_right (singleCalls _ _ _) _)
    exact List.Sublist.cons_cons _ (List.sublist_cons_self _ _)
  | unread opened failed released => exact whole opened failed released
  | panicked opened unwound released => exact whole opened unwound released
  | unclosed opened read failed => exact whole opened read failed
  | probed opened read closed => exact whole opened read closed

theorem Checked.calls {outcome : Outcome Rejection Entry} (checked : Checked events outcome) :
    ∃ entry handle receiving sending major minor,
      (events.map Event.call).Sublist
        (canonical entry handle receiving sending major minor) := by
  have short {calls : List Call} (hcalls : calls.Sublist [.queryEmulation, .loadEntry]) :
      ∃ entry handle receiving sending major minor,
        calls.Sublist (canonical entry handle receiving sending major minor) :=
    ⟨⟨0⟩, Handle.null, Handle.null, Handle.null, Handle.null, Handle.null,
      hcalls.trans (List.sublist_append_left [_, _] _)⟩
  cases checked with
  | emulationUnknown e => exact short (List.singleton_sublist.mpr List.mem_cons_self)
  | emulated => exact short (List.singleton_sublist.mpr List.mem_cons_self)
  | notLoaded reason => exact short (List.Sublist.refl _)
  | noVersion failed => exact ⟨_, failed.calls⟩
  | panicked unwound => exact ⟨_, unwound.calls⟩
  | unsupported probed _ => exact ⟨_, probed.calls⟩
  | accepted probed _ => exact ⟨_, probed.calls⟩

end Calls

/-! ### Answers to releases -/

/-- An element in the middle of two lists stands in the first or in the second. -/
theorem append_eq_append_cons_cases {α : Type} {first second before after : List α} {a : α}
    (h : first ++ second = before ++ a :: after) :
    (∃ rest, first = before ++ a :: rest ∧ after = rest ++ second)
      ∨ ∃ more, before = first ++ more ∧ second = more ++ a :: after := by
  rcases List.append_eq_append_iff.mp h with ⟨more, rfl, hsecond⟩ | ⟨rest, rfl, hrest⟩
  · exact .inr ⟨more, rfl, hsecond⟩
  · cases rest with
    | nil => exact .inr ⟨[], by simp, hrest.symm⟩
    | cons b rest =>
      obtain ⟨rfl, rfl⟩ := List.cons.inj hrest
      exact .inl ⟨rest, rfl, rfl⟩

theorem append_cons_eq_singleton {α : Type} {before after : List α} {a b : α}
    (h : before ++ a :: after = [b]) : before = [] ∧ a = b ∧ after = [] := by
  cases before with
  | nil =>
    obtain ⟨hhead, htail⟩ := List.cons.inj h
    exact ⟨rfl, hhead, htail⟩
  | cons c before => simp at h

/-- A release in a sequence that begins with other calls comes after these. -/
theorem append_release_cases {h : Handle} {given : Except HostError Unit}
    {before after rest : List Event} (first : List Event)
    (hfirst : ∀ e ∈ first, ∀ k, e.call ≠ .closeHandle k)
    (heq : before ++ ⟨.closeHandle h, given⟩ :: after = first ++ rest) :
    ∃ more, before = first ++ more ∧ rest = more ++ ⟨.closeHandle h, given⟩ :: after := by
  rcases append_eq_append_cons_cases heq.symm with ⟨left, rfl, -⟩ | hmore
  · exact absurd rfl (hfirst _ (List.mem_append_right before List.mem_cons_self) h)
  · exact hmore

/-- With any other answer to any one of the releases in it, a sequence is still of the kind. -/
def Heedless (L : List Event → Prop) : Prop :=
  ∀ before h answer after answer', L (before ++ ⟨.closeHandle h, answer⟩ :: after) →
    L (before ++ ⟨.closeHandle h, answer'⟩ :: after)

/-- A sequence of one kind, and then one of another. -/
def Following (L M : List Event → Prop) (events : List Event) : Prop :=
  ∃ first second, events = first ++ second ∧ L first ∧ M second

theorem Heedless.following {L M : List Event → Prop} (hL : Heedless L) (hM : Heedless M) :
    Heedless (Following L M) := by
  intro before h answer after answer' hevents
  obtain ⟨first, second, heq, hfirst, hsecond⟩ := hevents
  rcases append_eq_append_cons_cases heq.symm with ⟨rest, rfl, rfl⟩ | ⟨more, rfl, rfl⟩
  · exact ⟨before ++ ⟨.closeHandle h, answer'⟩ :: rest, second, by simp,
      hL _ _ _ _ _ hfirst, hsecond⟩
  · exact ⟨first, more ++ ⟨.closeHandle h, answer'⟩ :: after, by simp, hfirst,
      hM _ _ _ _ _ hsecond⟩

theorem heedless_of_calls {L : List Event → Prop}
    (hL : ∀ events, L events → ∀ e ∈ events, ∀ h, e.call ≠ .closeHandle h) : Heedless L := by
  intro before h answer after answer' hevents
  exact absurd rfl (hL _ hevents _ (List.mem_append_right before List.mem_cons_self) h)

section Heedless

variable {handle : Handle} {s : Session}

theorem heedless_freed (event : Handle) : Heedless (Freed event) := by
  intro before h answer after answer' freed
  generalize hevents : before ++ (⟨.closeHandle h, answer⟩ : Event) :: after = events at freed
  cases freed with
  | absent null => simp at hevents
  | released live given =>
    obtain ⟨rfl, hevent, rfl⟩ := append_cons_eq_singleton hevents
    cases hevent
    exact .released live answer'

theorem heedless_exchange (request : Request) (block : Overlapped) (done : Completion) :
    Heedless fun events => Exchange handle request block events done := by
  refine heedless_of_calls fun events exchange e he h hcall => ?_
  cases exchange with
  | atOnce hpending =>
    rw [List.mem_singleton.mp he] at hcall
    cases hcall
  | later hpending =>
    rcases List.mem_cons.mp he with rfl | he
    · cases hcall
    · rw [List.mem_singleton.mp he] at hcall
      cases hcall

theorem heedless_single (request : Request) (done : Completion) :
    Heedless fun events => Single handle request events done := by
  intro before h answer after answer' single
  generalize hevents : before ++ (⟨.closeHandle h, answer⟩ : Event) :: after = events at single
  cases single with
  | noEvent e =>
    obtain ⟨-, hevent, -⟩ := append_cons_eq_singleton hevents
    cases hevent
  | onEvent exchange hfreed =>
    obtain ⟨more, rfl, hrest⟩ := append_release_cases [_] (by simp) hevents
    obtain ⟨first, second, heq, hfirst, hsecond⟩ :=
      (heedless_exchange request _ done).following (heedless_freed _) more h answer after answer'
        ⟨_, _, hrest.symm, exchange, hfreed⟩
    rw [List.append_assoc, heq, List.singleton_append]
    exact .onEvent hfirst hsecond

theorem heedless_versioned (outcome : Outcome SessionError Version) :
    Heedless fun events => s.Versioned events outcome := by
  have one (p : Parameter) (done : Completion) :
      Heedless fun events => Single s.handle (.read p) events done := heedless_single _ done
  intro before h answer after answer' versioned
  generalize hevents : before ++ (⟨.closeHandle h, answer⟩ : Event) :: after = events at versioned
  cases versioned with
  | noMajor readMajor failed =>
    rw [← hevents] at readMajor
    exact .noMajor (one _ _ _ _ _ _ _ readMajor) failed
  | majorPanicked readMajor panicked =>
    rw [← hevents] at readMajor
    exact .majorPanicked (one _ _ _ _ _ _ _ readMajor) panicked
  | noMinor readMajor finished readMinor failed =>
    obtain ⟨first, second, heq, hfirst, hsecond⟩ := (one _ _).following (one _ _) before h answer
      after answer' ⟨_, _, hevents, readMajor, readMinor⟩
    rw [heq]
    exact .noMinor hfirst finished hsecond failed
  | minorPanicked readMajor finished readMinor panicked =>
    obtain ⟨first, second, heq, hfirst, hsecond⟩ := (one _ _).following (one _ _) before h answer
      after answer' ⟨_, _, hevents, readMajor, readMinor⟩
    rw [heq]
    exact .minorPanicked hfirst finished hsecond panicked
  | read readMajor finished readMinor finished' =>
    obtain ⟨first, second, heq, hfirst, hsecond⟩ := (one _ _).following (one _ _) before h answer
      after answer' ⟨_, _, hevents, readMajor, readMinor⟩
    rw [heq]
    exact .read hfirst finished hsecond finished'

end Heedless

section Reanswered

variable {before after : List Event} {h : Handle} {given : Except HostError Unit}
  {s : Session} {entry : Entry}

theorem Shut.reanswer {handle : Handle} {answer : Except SessionError Unit}
    (shut : Shut handle (before ++ ⟨.closeHandle h, given⟩ :: after) answer)
    (given' : Except HostError Unit) :
    ∃ answer', Shut handle (before ++ ⟨.closeHandle h, given'⟩ :: after) answer'
      ∧ (after ≠ [] ∨ h ≠ handle → answer' = answer) := by
  generalize hevents : before ++ (⟨.closeHandle h, given⟩ : Event) :: after = events at shut
  cases shut with
  | absent invalid => simp at hevents
  | released live reply =>
    obtain ⟨rfl, hevent, rfl⟩ := append_cons_eq_singleton hevents
    cases hevent
    exact ⟨_, .released live given', fun aside => absurd aside (by simp)⟩

/-- Only the last answer to a release, that to its handle, is what closing comes to. -/
theorem Session.Releases.reanswer {answer : Except SessionError Unit}
    (releases : s.Releases (before ++ ⟨.closeHandle h, given⟩ :: after) answer)
    (given' : Except HostError Unit) :
    ∃ answer', s.Releases (before ++ ⟨.closeHandle h, given'⟩ :: after) answer'
      ∧ (after ≠ [] ∨ h ≠ s.handle → answer' = answer) := by
  generalize hevents : before ++ (⟨.closeHandle h, given⟩ : Event) :: after = events at releases
  obtain ⟨first, second, last⟩ := releases
  rw [← List.append_assoc] at hevents
  rcases append_eq_append_cons_cases hevents.symm with ⟨rest, hfreed, rfl⟩ | ⟨more, rfl, rfl⟩
  · obtain ⟨_, _, heq, first, second⟩ :=
      (heedless_freed s.receiving.event).following (heedless_freed s.sending.event) before h given
        rest given' ⟨_, _, hfreed.symm, first, second⟩
    refine ⟨answer, ?_, fun _ => rfl⟩
    rw [← List.cons_append, ← List.append_assoc, heq, List.append_assoc]
    exact .inTurn first second last
  · obtain ⟨answer', last, hsame⟩ := last.reanswer given'
    refine ⟨answer', ?_, hsame⟩
    rw [List.append_assoc, List.append_assoc]
    exact .inTurn first second last

/-- The number that an event opens a session on. -/
def Event.opened? : Event → Option Handle
  | ⟨.openSession .., .ok handle⟩ => some handle
  | _ => none

/-- The release of a handle is not the last call, or else no session has been opened on it. -/
def Incidental (before : List Event) (h : Handle) (after : List Event) : Prop :=
  after ≠ [] ∨ ∀ e ∈ before, e.opened? ≠ some h

theorem Opened.reanswer {filter : Filter} {layer : Layer} {priority : Int} {flags : Flags}
    {made : Except SessionError Session}
    (opened : Opened entry filter layer priority flags
      (before ++ ⟨.closeHandle h, given⟩ :: after) made) (given' : Except HostError Unit) :
    Opened entry filter layer priority flags (before ++ ⟨.closeHandle h, given'⟩ :: after) made := by
  generalize hevents : before ++ (⟨.closeHandle h, given⟩ : Event) :: after = events at opened
  cases opened with
  | refused e =>
    obtain ⟨-, hevent, -⟩ := append_cons_eq_singleton hevents
    cases hevent
  | noReceiving handle e answer =>
    obtain ⟨more, rfl, hrest⟩ := append_release_cases [_, _] (by simp) hevents
    obtain ⟨rfl, hevent, rfl⟩ := append_cons_eq_singleton hrest.symm
    cases hevent
    exact .noReceiving h e given'
  | noSending handle receiving e first answer =>
    obtain ⟨more, rfl, hrest⟩ := append_release_cases [_, _, _] (by simp) hevents
    rcases append_eq_append_cons_cases hrest with ⟨rest, rfl, rfl⟩ | ⟨left, rfl, hlast⟩
    · rw [List.append_assoc, ← List.cons_append, ← List.append_assoc more]
      exact .noSending handle receiving e (heedless_freed receiving more h given rest given' first)
        answer
    · obtain ⟨rfl, hevent, rfl⟩ := append_cons_eq_singleton hlast.symm
      cases hevent
      rw [List.append_nil, List.append_assoc]
      exact .noSending h receiving e first given'
  | opened handle receiving sending =>
    obtain ⟨more, rfl, hrest⟩ := append_release_cases [_, _] (by simp) hevents
    obtain ⟨-, hevent, -⟩ := append_cons_eq_singleton hrest.symm
    cases hevent

theorem Probed.reanswer {outcome : Outcome SessionError Version}
    (probed : Probed entry (before ++ ⟨.closeHandle h, given⟩ :: after) outcome)
    (aside : Incidental before h after) (given' : Except HostError Unit) :
    Probed entry (before ++ ⟨.closeHandle h, given'⟩ :: after) outcome := by
  -- a probe that is opened, read and released is so still, with the same version
  have whole {opening reading releases : List Event} {s : Session}
      {version : Outcome SessionError Version} {answer : Except SessionError Unit}
      (opened : Opened entry .matchNothing .network Priority.default .none opening (.ok s))
      (versioned : s.Versioned reading version) (released : s.Releases releases answer)
      (hevents : before ++ (⟨.closeHandle h, given⟩ : Event) :: after
        = opening ++ (reading ++ releases)) :
      ∃ reading' releases', before ++ ⟨.closeHandle h, given'⟩ :: after
          = opening ++ (reading' ++ releases')
        ∧ s.Versioned reading' version ∧ s.Releases releases' answer := by
    obtain ⟨more, rfl, hrest⟩ := append_release_cases opening (by simp [opened.eq_of_ok]) hevents
    have notLast : after ≠ [] ∨ h ≠ s.handle := by
      refine aside.imp_right fun unopened heq => ?_
      rw [opened.eq_of_ok] at unopened
      exact unopened _ List.mem_cons_self (by rw [heq]; rfl)
    rcases append_eq_append_cons_cases hrest with ⟨rest, rfl, rfl⟩ | ⟨left, rfl, rfl⟩
    · refine ⟨more ++ ⟨.closeHandle h, given'⟩ :: rest, releases, by simp, ?_, released⟩
      exact heedless_versioned _ _ _ _ _ _ versioned
    · obtain ⟨answer', released, hsame⟩ := released.reanswer given'
      rw [hsame notLast] at released
      exact ⟨reading, left ++ ⟨.closeHandle h, given'⟩ :: after, by simp, versioned, released⟩
  generalize hevents : before ++ (⟨.closeHandle h, given⟩ : Event) :: after = events at probed
  cases probed with
  | unopened failed =>
    rw [← hevents] at failed
    exact .unopened (failed.reanswer given')
  | unread opened failed released =>
    obtain ⟨_, _, heq, failed, released⟩ := whole opened failed released hevents
    rw [heq]
    exact .unread opened failed released
  | panicked opened unwound released =>
    obtain ⟨_, _, heq, unwound, released⟩ := whole opened unwound released hevents
    rw [heq]
    exact .panicked opened unwound released
  | unclosed opened read failed =>
    obtain ⟨_, _, heq, read, failed⟩ := whole opened read failed hevents
    rw [heq]
    exact .unclosed opened read failed
  | probed opened read closed =>
    obtain ⟨_, _, heq, read, closed⟩ := whole opened read closed hevents
    rw [heq]
    exact .probed opened read closed

theorem Checked.reanswer {outcome : Outcome Rejection Entry}
    (checked : Checked (before ++ ⟨.closeHandle h, given⟩ :: after) outcome)
    (aside : Incidental before h after) (given' : Except HostError Unit) :
    Checked (before ++ ⟨.closeHandle h, given'⟩ :: after) outcome := by
  generalize hevents : before ++ (⟨.closeHandle h, given⟩ : Event) :: after = events at checked
  have of_probe {entry : Entry} {probe : List Event} {version : Outcome SessionError Version}
      (probed : Probed entry probe version)
      (hevents : before ++ (⟨.closeHandle h, given⟩ : Event) :: after
        = ⟨.queryEmulation, .ok false⟩ :: ⟨.loadEntry, .ok entry⟩ :: probe) :
      ∃ probe', before ++ ⟨.closeHandle h, given'⟩ :: after
          = ⟨.queryEmulation, .ok false⟩ :: ⟨.loadEntry, .ok entry⟩ :: probe'
        ∧ Probed entry probe' version := by
    obtain ⟨more, rfl, rfl⟩ := append_release_cases [_, _] (by simp) hevents
    have aside : Incidental more h after := aside.imp_right fun unopened e he =>
      unopened e (List.mem_cons_of_mem _ (List.mem_cons_of_mem _ he))
    exact ⟨_, rfl, probed.reanswer aside given'⟩
  cases checked with
  | emulationUnknown e =>
    obtain ⟨-, hevent, -⟩ := append_cons_eq_singleton hevents
    cases hevent
  | emulated =>
    obtain ⟨-, hevent, -⟩ := append_cons_eq_singleton hevents
    cases hevent
  | notLoaded reason =>
    obtain ⟨more, rfl, hrest⟩ := append_release_cases [_] (by simp) hevents
    obtain ⟨-, hevent, -⟩ := append_cons_eq_singleton hrest.symm
    cases hevent
  | noVersion failed =>
    obtain ⟨probe, heq, failed⟩ := of_probe failed hevents
    rw [heq]
    exact .noVersion failed
  | panicked unwound =>
    obtain ⟨probe, heq, unwound⟩ := of_probe unwound hevents
    rw [heq]
    exact .panicked unwound
  | unsupported probed foreign =>
    obtain ⟨probe, heq, probed⟩ := of_probe probed hevents
    rw [heq]
    exact .unsupported probed foreign
  | accepted probed known =>
    obtain ⟨probe, heq, probed⟩ := of_probe probed hevents
    rw [heq]
    exact .accepted probed known

end Reanswered

/-- The gate's calls and its verdict are those of `Checked`, and all of these may come about: it
stops at the first step that fails, with the error of that step, and then only releases what its
probe has created by then; it yields an entry if no step fails and the version is supported. Its
calls are a part of one sequence, in order. With any other answer to any one of its releases it
makes the same calls and comes to the same verdict, unless that release is the last call and that of
the handle that the probe was opened on. -/
theorem check_stops_at_first_failure {events : List Event} {outcome : Outcome Rejection Entry}
    (run : Runs Driver.check events outcome) :
    Checked events outcome
      ∧ (∀ events' outcome', Checked events' outcome' → Runs Driver.check events' outcome')
      ∧ (∃ entry handle receiving sending major minor, (events.map Event.call).Sublist
        (canonical entry handle receiving sending major minor))
      ∧ (∀ before h answer after, events = before ++ ⟨.closeHandle h, answer⟩ :: after →
        Incidental before h after → ∀ answer',
          Runs Driver.check (before ++ ⟨.closeHandle h, answer'⟩ :: after) outcome) := by
  have checked : Checked events outcome := Driver.runs_check_iff.mp run
  refine ⟨checked, fun _ _ => Driver.runs_check_iff.mpr, checked.calls, ?_⟩
  intro before h answer after hevents aside answer'
  rw [hevents] at checked
  exact Driver.runs_check_iff.mpr (checked.reanswer aside answer')

/-- The second number of the version cannot be read, and no release succeeds. -/
def stumbling : Transcript Scripted.System (Outcome Rejection Entry) :=
  Driver.check.run Scripted.host
    (Scripted.System.setFates
      (Scripted.System.setFates
        (Scripted.System.setFates { pend := true } .getParameter [.success, .failure 5])
        .closeEvent [.failure 6, .failure 6, .failure 6, .failure 6])
      .closeSession [.failure 7])

/-- The error is that of the reading, also if the first event had been released. -/
theorem stumbling_stops :
    stumbling.value = .error (.version (.host .getParameter (.code 5)))
      ∧ stumbling.events.length = 15
      ∧ Runs Driver.check (stumbling.events.take 8 ++ ⟨.closeHandle 0x110, .ok ()⟩
          :: stumbling.events.drop 9) stumbling.value := by
  have run : Runs Driver.check stumbling.events stumbling.value := runs_run _ _ _
  obtain ⟨-, -, -, reanswered⟩ := check_stops_at_first_failure run
  have hsplit : stumbling.events = stumbling.events.take 8
      ++ ⟨.closeHandle 0x110, .error (.code 6)⟩ :: stumbling.events.drop 9 := rfl
  have aside : Incidental (stumbling.events.take 8) 0x110 (stumbling.events.drop 9) :=
    .inl (List.cons_ne_nil _ _)
  exact ⟨by decide +kernel, by decide +kernel, reanswered _ _ _ _ hsplit aside (.ok ())⟩

end PacketDiversion

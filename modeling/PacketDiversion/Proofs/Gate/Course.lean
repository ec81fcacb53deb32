import PacketDiversion.Gate
import PacketDiversion.Proofs.Lifetime

/-!
# The course of the gate

Every run of the gate, call by call: it stops at the first step that fails, and then it only
releases what its probe has created by then. The tables are exact: `Session.Versioned` for reading
the version, `Probed` for the probe and `Checked` for the whole gate have the event sequences that
may come about, and no other (`Driver.runs_check_iff`).
-/

namespace PacketDiversion

open Program

/-! ### Reading the version -/

/-- The calls that read a driver's version through a session. The first number that cannot be read
ends it. -/
inductive Session.Versioned (s : Session) : List Event → Outcome SessionError Version → Prop
  | noMajor {first : List Event} {major : Completion} {e : HostError}
      (readMajor : Single s.handle (.read .versionMajor) first major)
      (failed : major.verdict = .failed e) :
    Versioned s first (.error (.host .getParameter e))
  | majorPanicked {first : List Event} {major : Completion}
      (readMajor : Single s.handle (.read .versionMajor) first major)
      (panicked : major.verdict = .panicked) :
    Versioned s first (.unwound .host)
  | noMinor {first second : List Event} {major minor : Completion} {bytes : UInt32} {e : HostError}
      (readMajor : Single s.handle (.read .versionMajor) first major)
      (finished : major.verdict = .finished bytes)
      (readMinor : Single s.handle (.read .versionMinor) second minor)
      (failed : minor.verdict = .failed e) :
    Versioned s (first ++ second) (.error (.host .getParameter e))
  | minorPanicked {first second : List Event} {major minor : Completion} {bytes : UInt32}
      (readMajor : Single s.handle (.read .versionMajor) first major)
      (finished : major.verdict = .finished bytes)
      (readMinor : Single s.handle (.read .versionMinor) second minor)
      (panicked : minor.verdict = .panicked) :
    Versioned s (first ++ second) (.unwound .host)
  | read {first second : List Event} {major minor : Completion} {bytes bytes' : UInt32}
      (readMajor : Single s.handle (.read .versionMajor) first major)
      (finished : major.verdict = .finished bytes)
      (readMinor : Single s.handle (.read .versionMinor) second minor)
      (finished' : minor.verdict = .finished bytes') :
    Versioned s (first ++ second)
      (.ok ⟨Request.valueRead .versionMajor major, Request.valueRead .versionMinor minor⟩)

theorem Session.runs_version_iff {s : Session} {events : List Event}
    {outcome : Outcome SessionError Version} :
    Runs s.version events outcome ↔ s.Versioned events outcome := by
  constructor
  · intro run
    obtain ⟨first, before, rest, rfl, hfirst, run⟩ := runs_bind_iff.mp run
    obtain ⟨major, readMajor, rfl⟩ := runs_getParameter_iff.mp hfirst
    cases hmajor : major.verdict with
    | failed e =>
      simp only [hmajor, Verdict.outcome, Outcome.map, pure_eq, runs_done_iff] at run
      obtain ⟨rfl, rfl⟩ := run
      rw [List.append_nil]
      exact .noMajor readMajor hmajor
    | panicked =>
      simp only [hmajor, Verdict.outcome, Outcome.map, pure_eq, runs_done_iff] at run
      obtain ⟨rfl, rfl⟩ := run
      rw [List.append_nil]
      exact .majorPanicked readMajor hmajor
    | finished bytes =>
      simp only [hmajor, Verdict.outcome, Outcome.map] at run
      obtain ⟨second, after, rest, rfl, hsecond, run⟩ := runs_bind_iff.mp run
      obtain ⟨minor, readMinor, rfl⟩ := runs_getParameter_iff.mp hsecond
      cases hminor : minor.verdict with
      | failed e =>
        simp only [hminor, Verdict.outcome, Outcome.map, pure_eq, runs_done_iff] at run
        obtain ⟨rfl, rfl⟩ := run
        rw [List.append_nil]
        exact .noMinor readMajor hmajor readMinor hminor
      | panicked =>
        simp only [hminor, Verdict.outcome, Outcome.map, pure_eq, runs_done_iff] at run
        obtain ⟨rfl, rfl⟩ := run
        rw [List.append_nil]
        exact .minorPanicked readMajor hmajor readMinor hminor
      | finished bytes' =>
        simp only [hminor, Verdict.outcome, Outcome.map, pure_eq, runs_done_iff] at run
        obtain ⟨rfl, rfl⟩ := run
        rw [List.append_nil]
        exact .read readMajor hmajor readMinor hminor
  · intro versioned
    have parameter {p : Parameter} {events : List Event} {done : Completion}
        (single : Single s.handle (.read p) events done) :=
      runs_getParameter_iff.mpr ⟨done, single, rfl⟩
    rw [← List.append_nil events]
    cases versioned with
    | noMajor readMajor failed =>
      refine (parameter readMajor).bind ?_
      rw [failed]
      exact .done _
    | majorPanicked readMajor panicked =>
      refine (parameter readMajor).bind ?_
      rw [panicked]
      exact .done _
    | noMinor readMajor finished readMinor failed =>
      rw [List.append_assoc]
      refine (parameter readMajor).bind ?_
      rw [finished]
      refine (parameter readMinor).bind ?_
      rw [failed]
      exact .done _
    | minorPanicked readMajor finished readMinor panicked =>
      rw [List.append_assoc]
      refine (parameter readMajor).bind ?_
      rw [finished]
      refine (parameter readMinor).bind ?_
      rw [panicked]
      exact .done _
    | read readMajor finished readMinor finished' =>
      rw [List.append_assoc]
      refine (parameter readMajor).bind ?_
      rw [finished]
      refine (parameter readMinor).bind ?_
      rw [finished']
      exact .done _

/-! ### The probe -/

/-- The calls of the probe that an entry's version is read through: it is opened, the version is
read, and whatever has come of that, the probe is released. -/
inductive Probed (entry : Entry) : List Event → Outcome SessionError Version → Prop
  | unopened {opening : List Event} {e : SessionError}
      (failed : Opened entry .matchNothing .network Priority.default .none opening (.error e)) :
    Probed entry opening (.error e)
  | unread {opening reading releases : List Event} {s : Session} {e : SessionError}
      {answer : Except SessionError Unit}
      (opened : Opened entry .matchNothing .network Priority.default .none opening (.ok s))
      (failed : s.Versioned reading (.error e)) (released : s.Releases releases answer) :
    Probed entry (opening ++ (reading ++ releases)) (.error e)
  | panicked {opening reading releases : List Event} {s : Session} {why : Panic}
      {answer : Except SessionError Unit}
      (opened : Opened entry .matchNothing .network Priority.default .none opening (.ok s))
      (unwound : s.Versioned reading (.unwound why)) (released : s.Releases releases answer) :
    Probed entry (opening ++ (reading ++ releases)) (.unwound why)
  | unclosed {opening reading releases : List Event} {s : Session} {version : Version}
      {e : SessionError}
      (opened : Opened entry .matchNothing .network Priority.default .none opening (.ok s))
      (read : s.Versioned reading (.ok version)) (failed : s.Releases releases (.error e)) :
    Probed entry (opening ++ (reading ++ releases)) (.error e)
  | probed {opening reading releases : List Event} {s : Session} {version : Version}
      (opened : Opened entry .matchNothing .network Priority.default .none opening (.ok s))
      (read : s.Versioned reading (.ok version)) (closed : s.Releases releases (.ok ())) :
    Probed entry (opening ++ (reading ++ releases)) (.ok version)

theorem Entry.runs_probeVersion_iff {entry : Entry} {events : List Event}
    {outcome : Outcome SessionError Version} :
    Runs entry.probeVersion events outcome ↔ Probed entry events outcome := by
  constructor
  · intro run
    obtain ⟨made, opening, rest, rfl, hopen, run⟩ := runs_bind_iff.mp run
    have opened := Session.runs_openWith_iff.mp hopen
    cases made with
    | error e =>
      obtain ⟨rfl, rfl⟩ := runs_done_iff.mp run
      rw [List.append_nil]
      exact .unopened opened
    | ok s =>
      obtain ⟨version, reading, rest, rfl, hversion, run⟩ := runs_bind_iff.mp run
      have versioned := Session.runs_version_iff.mp hversion
      cases version with
      | unwound why =>
        obtain ⟨⟨⟩, releases, rest, rfl, hdrop, run⟩ := runs_bind_iff.mp run
        obtain ⟨rfl, rfl⟩ := runs_done_iff.mp run
        obtain ⟨answer, released⟩ := Session.runs_drop_iff.mp hdrop
        rw [List.append_nil]
        exact .panicked opened versioned released
      | error e =>
        obtain ⟨answer, releases, rest, rfl, hclose, run⟩ := runs_bind_iff.mp run
        obtain ⟨rfl, rfl⟩ := runs_done_iff.mp run
        rw [List.append_nil]
        exact .unread opened versioned (Session.runs_close_iff.mp hclose)
      | ok version =>
        obtain ⟨answer, releases, rest, rfl, hclose, run⟩ := runs_bind_iff.mp run
        have released := Session.runs_close_iff.mp hclose
        cases answer with
        | error e =>
          obtain ⟨rfl, rfl⟩ := runs_done_iff.mp run
          rw [List.append_nil]
          exact .unclosed opened versioned released
        | ok _ =>
          obtain ⟨rfl, rfl⟩ := runs_done_iff.mp (runs_note_iff.mp run)
          rw [List.append_nil]
          exact .probed opened versioned released
  · intro probed
    rw [← List.append_nil events]
    cases probed with
    | unopened failed => exact (Session.runs_openWith_iff.mpr failed).bind (.done _)
    | unread opened failed released =>
      rw [List.append_assoc, List.append_assoc]
      exact (Session.runs_openWith_iff.mpr opened).bind
        ((Session.runs_version_iff.mpr failed).bind
          ((Session.runs_close_iff.mpr released).bind (.done _)))
    | panicked opened unwound released =>
      rw [List.append_assoc, List.append_assoc]
      exact (Session.runs_openWith_iff.mpr opened).bind
        ((Session.runs_version_iff.mpr unwound).bind
          ((Session.runs_drop_iff.mpr ⟨_, released⟩).bind (.done _)))
    | unclosed opened read failed =>
      rw [List.append_assoc, List.append_assoc]
      exact (Session.runs_openWith_iff.mpr opened).bind
        ((Session.runs_version_iff.mpr read).bind
          ((Session.runs_close_iff.mpr failed).bind (.done _)))
    | probed opened read closed =>
      rw [List.append_assoc, List.append_assoc]
      exact (Session.runs_openWith_iff.mpr opened).bind
        ((Session.runs_version_iff.mpr read).bind
          ((Session.runs_close_iff.mpr closed).bind (.note (.done _))))

/-! ### The gate -/

/-- The calls of the gate, and its verdict. -/
inductive Checked : List Event → Outcome Rejection Entry → Prop
  | emulationUnknown (e : HostError) :
    Checked [⟨.queryEmulation, .error e⟩] (.error (.emulationUnknown e))
  | emulated : Checked [⟨.queryEmulation, .ok true⟩] (.error .emulated)
  | notLoaded (reason : Rejection) :
    Checked [⟨.queryEmulation, .ok false⟩, ⟨.loadEntry, .error reason⟩] (.error reason)
  | noVersion {entry : Entry} {probe : List Event} {e : SessionError}
      (failed : Probed entry probe (.error e)) :
    Checked (⟨.queryEmulation, .ok false⟩ :: ⟨.loadEntry, .ok entry⟩ :: probe)
      (.error (.version e))
  | panicked {entry : Entry} {probe : List Event} {why : Panic}
      (unwound : Probed entry probe (.unwound why)) :
    Checked (⟨.queryEmulation, .ok false⟩ :: ⟨.loadEntry, .ok entry⟩ :: probe) (.unwound why)
  | unsupported {entry : Entry} {probe : List Event} {version : Version}
      (probed : Probed entry probe (.ok version)) (foreign : version.isSupported = false) :
    Checked (⟨.queryEmulation, .ok false⟩ :: ⟨.loadEntry, .ok entry⟩ :: probe)
      (.error (.unsupported version))
  | accepted {entry : Entry} {probe : List Event} {version : Version}
      (probed : Probed entry probe (.ok version)) (known : version.isSupported = true) :
    Checked (⟨.queryEmulation, .ok false⟩ :: ⟨.loadEntry, .ok entry⟩ :: probe) (.ok entry)

theorem Driver.runs_check_iff {events : List Event} {outcome : Outcome Rejection Entry} :
    Runs check events outcome ↔ Checked events outcome := by
  constructor
  · intro run
    unfold check at run
    rw [runs_ask_bind_iff] at run
    obtain ⟨reply, rest, rfl, run⟩ := run
    rcases reply with e | (_ | _)
    · obtain ⟨rfl, rfl⟩ := runs_done_iff.mp run
      exact .emulationUnknown e
    · obtain ⟨loaded, rest, rfl, loading⟩ := runs_ask_bind_iff.mp run
      cases loaded with
      | error reason =>
        obtain ⟨rfl, rfl⟩ := runs_done_iff.mp loading
        exact .notLoaded reason
      | ok entry =>
        obtain ⟨version, probe, rest, rfl, hprobe, run⟩ := runs_bind_iff.mp loading
        have probed := Entry.runs_probeVersion_iff.mp hprobe
        cases version with
        | unwound why =>
          obtain ⟨rfl, rfl⟩ := runs_done_iff.mp run
          rw [List.append_nil]
          exact .panicked probed
        | error e =>
          obtain ⟨rfl, rfl⟩ := runs_done_iff.mp run
          rw [List.append_nil]
          exact .noVersion probed
        | ok version =>
          cases hsupported : version.isSupported with
          | true =>
            simp only [hsupported, if_true] at run
            obtain ⟨rfl, rfl⟩ := runs_done_iff.mp (runs_note_iff.mp run)
            rw [List.append_nil]
            exact .accepted probed hsupported
          | false =>
            simp only [hsupported, Bool.false_eq_true, if_false, pure_eq, runs_done_iff] at run
            obtain ⟨rfl, rfl⟩ := run
            rw [List.append_nil]
            exact .unsupported probed hsupported
    · obtain ⟨rfl, rfl⟩ := runs_done_iff.mp run
      exact .emulated
  · intro checked
    have probing {entry : Entry} {probe : List Event} {version : Outcome SessionError Version}
        {next : Outcome SessionError Version → Program (Outcome Rejection Entry)}
        (probed : Probed entry probe version) (ends : Runs (next version) [] outcome) :
        Runs (entry.probeVersion >>= next) probe outcome := by
      rw [← List.append_nil probe]
      exact (Entry.runs_probeVersion_iff.mpr probed).bind ends
    cases checked with
    | emulationUnknown e => exact .call _ (.done _)
    | emulated => exact .call _ (.done _)
    | notLoaded reason => exact .call _ (.call _ (.done _))
    | noVersion failed => exact .call _ (.call _ (probing failed (.done _)))
    | panicked unwound => exact .call _ (.call _ (probing unwound (.done _)))
    | unsupported probed foreign =>
      refine .call _ (.call _ (probing probed ?_))
      simp only [foreign]
      exact .done _
    | accepted probed known =>
      refine .call _ (.call _ (probing probed ?_))
      simp only [known]
      exact .note (.done _)

end PacketDiversion

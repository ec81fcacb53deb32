import PacketDiversion.Proofs.Refusals
import PacketDiversion.Proofs.Settings.Acceptance

/-!
# Using accepted settings

Settings that a text was accepted with can be used: opening their session, setting the parameters of
their queue and running their relay never meets a local error, except that a filter with a NUL,
which no check of the settings looks at, is refused when the session is opened. Any other value that
would meet a local error has its text refused (`accepted_usable`).
-/

namespace PacketDiversion.Settings

open Program

/-- Using the settings with some flags, on some system, meets an error. -/
inductive Meets (s : Settings) (flags : Flags) (e : SessionError) : Prop
  | opening {d next : Driver} {events : List Event}
      (run : Runs (d.openSession s.session.filter s.session.layer s.session.priority flags)
        events (.error e, next))
  | tuning {session : Session} {entry : Parameter × UInt64} {events : List Event}
      (mem : entry ∈ s.queue.entries)
      (run : Runs (session.setParameter entry.1 entry.2) events (.error e))
  | relaying {session rest : Session} {limit : Nat} {events : List Event}
      (run : Runs (Relay.run limit session (s.relay.options flags)) events (.failed e, rest))

/-- The error of a filter with a NUL. -/
def nulError (s : Settings) : SessionError := .filter (Filter.nulOffset s.session.filter.toList)

theorem local_of_meets {s : Settings} {flags : Flags} {e : SessionError} (checked : s.Checked)
    (meets : s.Meets flags e) (isLocal : e.IsLocal) :
    '\x00' ∈ s.session.filter.toList ∧ e = s.nulError := by
  cases meets with
  | opening run =>
    by_cases nul : '\x00' ∈ s.session.filter.toList
    · rw [Driver.openSession_of_nul checked.priority nul] at run
      obtain ⟨-, herror⟩ := runs_done_iff.mp run
      cases herror
      exact ⟨nul, rfl⟩
    · exact absurd isLocal (Driver.not_isLocal_of_openSession checked.priority nul run)
  | tuning mem run =>
    exact absurd isLocal (Session.not_isLocal_of_setParameter (checked.queue _ mem) run)
  | relaying run =>
    exact absurd isLocal (Relay.not_isLocal_of_run checked.batch checked.bufferSize run)

/-- With an accepted text the flags can be resolved, and no use meets a local error but for the
filter's NUL, which is then refused by every driver without a call. A text whose settings would meet
any other local error is refused. -/
theorem accepted_usable (text : String) :
    (∀ s, parse text = .ok s → ∃ flags, s.session.flags = .ok flags
      ∧ (∀ e, s.Meets flags e → e.IsLocal → '\x00' ∈ s.session.filter.toList ∧ e = s.nulError)
      ∧ ('\x00' ∈ s.session.filter.toList → ∀ d : Driver,
        d.openSession s.session.filter s.session.layer s.session.priority flags
          = done (.error s.nulError, d)))
    ∧ ∀ s flags e, Describes text s → s.Meets flags e → e.IsLocal → (∀ n, e ≠ .filter n) →
      ∃ why, parse text = .error (.invalid why) := by
  constructor
  · intro s accepted
    have checked := check_eq_ok_iff.mp (parse_eq_ok_iff.mp accepted).2
    obtain ⟨flags, hflags⟩ := checked.flags
    refine ⟨flags, hflags, fun e => local_of_meets checked, fun nul d => ?_⟩
    exact Driver.openSession_of_nul checked.priority nul
  · intro s flags e described meets isLocal other
    rw [parse_of_described described]
    cases hcheck : s.check with
    | error why => exact ⟨why, rfl⟩
    | ok _ =>
      have heq := (local_of_meets (check_eq_ok_iff.mp hcheck) meets isLocal).2
      exact absurd heq (other _)

theorem tuning_usable :
    (∃ s flags, parse "[session]\nfilter = \"true\"\n[queue]\nlength = 8192\n" = .ok s
      ∧ s.queue.entries = [(.queueLength, 8192)] ∧ s.session.flags = .ok flags
      ∧ ∀ e, s.Meets flags e → ¬ e.IsLocal)
    ∧ ∃ why, parse "[session]\nfilter = \"true\"\npriority = 30001\n" = .error (.invalid why) := by
  constructor
  · have accepted : (parse "[session]\nfilter = \"true\"\n[queue]\nlength = 8192\n").toOption
        = some { session := { filter := "true" }, queue := { length := some 8192 } } := by
      decide +kernel
    obtain ⟨flags, hflags, meets, -⟩ :=
      (accepted_usable _).1 _ (toOption_eq_some_iff.mp accepted)
    refine ⟨_, flags, toOption_eq_some_iff.mp accepted, rfl, hflags, fun e hmeets isLocal => ?_⟩
    have nulFree : '\x00' ∉ "true".toList := by decide
    exact nulFree (meets e hmeets isLocal).1
  · have described : (Toml.Document.read "[session]\nfilter = \"true\"\npriority = 30001\n").bind
        (fun t => (ofTable t).toOption)
        = some { session := { filter := "true", priority := 30001 } } := by decide +kernel
    obtain ⟨t, hread, htable⟩ := Option.bind_eq_some_iff.mp described
    have refused : Runs (Driver.openSession {} "true" .network 30001 .none) []
        (.error (.priority 30001 (-30000) 30000), {}) := .done _
    exact (accepted_usable _).2 _ _ _ ⟨t, hread, toOption_eq_some_iff.mp htable⟩
      (.opening refused) trivial (fun n h => by cases h)

/-- A NUL that is written as an escape is accepted, and its filter is refused. -/
theorem nulFilter_accepted :
    ∃ s flags, parse "[session]\nfilter = \"a\\u0000b\"\n" = .ok s ∧ s.session.flags = .ok flags
      ∧ s.Meets flags (.filter 1) := by
  have accepted : (parse "[session]\nfilter = \"a\\u0000b\"\n").toOption
      = some { session := { filter := "a\x00b" } } := by decide +kernel
  have refused : Runs (Driver.openSession {} "a\x00b" .network 0 .none) []
      (.error (.filter 1), {}) := .done _
  exact ⟨_, .none, toOption_eq_some_iff.mp accepted, rfl, .opening refused⟩

end PacketDiversion.Settings

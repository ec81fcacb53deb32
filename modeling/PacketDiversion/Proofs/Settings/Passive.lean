import PacketDiversion.Host.Scripted
import PacketDiversion.Proofs.Relay.Calls
import PacketDiversion.Proofs.Settings.Acceptance

/-!
# Passive sessions

A session that sniffs, drops or only receives is not to inject. Its flags are listed by name in the
settings; one of these three names anywhere in the list takes injection away from the relay, and a
relay without it never sends (`passive_never_injects`). Without such a name the relay injects as the
settings say.
-/

namespace PacketDiversion

open Program

/-! ### Flag sets -/

namespace Flags

theorem intersects_union (a b c : Flags) :
    (a.union b).intersects c = (a.intersects c || b.intersects c) := by
  have hbits : ((a.bits ||| b.bits) &&& c.bits == 0)
      = (a.bits &&& c.bits == 0 && b.bits &&& c.bits == 0) := by
    have hand : (a.bits ||| b.bits) &&& c.bits = a.bits &&& c.bits ||| b.bits &&& c.bits := by
      apply UInt64.toBitVec_inj.mp
      simp only [UInt64.toBitVec_and, UInt64.toBitVec_or, BitVec.and_or_distrib_right]
    rw [hand, Bool.eq_iff_iff]
    simp only [beq_iff_eq, Bool.and_eq_true, UInt64.or_eq_zero_iff]
  simp only [intersects, isEmpty, inter, union, hbits, Bool.not_and]

/-- The names of the flags that are not to be injected with. -/
def passiveNames : List String := ["SNIFF", "DROP", "RECV_ONLY"]

theorem intersects_of_ofName? {name : String} {flag : Flags} (h : ofName? name = some flag) :
    flag.intersects passive = true ↔ name ∈ passiveNames := by
  have hnamed : ∀ entry ∈ named,
      entry.2.intersects passive = true ↔ entry.1 ∈ passiveNames := by decide
  obtain ⟨entry, hfind, rfl⟩ := Option.map_eq_some_iff.mp h
  have hmem : entry ∈ named := List.mem_of_find?_eq_some hfind
  have hname : entry.1 = name := by simpa using List.find?_some hfind
  rw [← hname]
  exact hnamed entry hmem

/-- A set that names stand for has a passive flag exactly if one of the names does. -/
theorem intersects_ofNames {names : List String} {flags : Flags}
    (h : ofNames names = .ok flags) :
    flags.intersects passive = true ↔ ∃ name ∈ names, name ∈ passiveNames := by
  induction names generalizing flags with
  | nil =>
    cases h
    simp [intersects, isEmpty, inter, none]
  | cons name rest ih =>
    unfold ofNames at h
    cases hname : ofName? name with
    | none =>
      simp only [hname] at h
      cases h
    | some flag =>
      simp only [hname] at h
      cases hrest : ofNames rest with
      | error other =>
        rw [hrest] at h
        cases h
      | ok others =>
        rw [hrest] at h
        cases h
        have hfirst := intersects_of_ofName? hname
        have hothers := ih hrest
        rw [intersects_union, Bool.or_eq_true, hfirst, hothers]
        simp only [List.mem_cons, exists_eq_or_imp]

end Flags

namespace RelaySettings

variable {r : RelaySettings} {names : List String} {flags : Flags}

theorem reinject_of_passive (h : Flags.ofNames names = .ok flags)
    (passive : ∃ name ∈ names, name ∈ Flags.passiveNames) :
    (r.options flags).reinject = false := by
  have hflags := (Flags.intersects_ofNames h).mpr passive
  simp only [options, hflags, Bool.not_true, Bool.and_false]

theorem reinject_of_active (h : Flags.ofNames names = .ok flags)
    (active : ∀ name ∈ names, name ∉ Flags.passiveNames) :
    (r.options flags).reinject = r.reinject := by
  have hflags : flags.intersects Flags.passive = false := by
    rw [Bool.eq_false_iff]
    intro passive
    obtain ⟨name, hname, hpassive⟩ := (Flags.intersects_ofNames h).mp passive
    exact active name hname hpassive
  simp only [options, hflags, Bool.not_false, Bool.and_true]

end RelaySettings

/-! ### Relays that do not inject -/

namespace Relay

variable {o : Options} {limit : Nat} {s t : Session} {events : List Event} {ending : Ending}

/-- The call issues a send. -/
def Sends (c : Call) : Prop :=
  ∃ handle request block, c = .control handle request block ∧ request.code = RequestCode.send

theorem Asks.not_sends {c : Call} (asks : Asks o s c) (passive : o.reinject = false) :
    ¬ Sends c := by
  rintro ⟨handle, request, block, rfl, hcode⟩
  cases asks with
  | receive hevent =>
    have apart : RequestCode.recv ≠ RequestCode.send := by decide
    exact apart hcode
  | inject passes hdata some hrecords hevent =>
    rw [passive] at passes
    cases passes

theorem not_sends_of_run (passive : o.reinject = false)
    (run : Runs (Relay.run limit s o) events (ending, t)) :
    (∀ e ∈ events, ¬ Sends e.call) ∧ ∀ stats ∈ ending.stats?, stats.reinjected = 0 := by
  obtain ⟨hasks, hleaves⟩ := (run_calls limit s o).calls run
  refine ⟨fun e he => (hasks e he).not_sends passive, ?_⟩
  intro stats hstats
  exact hleaves.2 stats hstats passive

end Relay

/-! ### From the text to the driver -/

namespace Settings

/-- The relay of an accepted text has the text's sizes. If a passive flag is among the session's, it
never sends and counts no injected packet, on any session and any system; if none is, it injects as
the text says. -/
theorem passive_never_injects {text : String} {s : Settings} (accepted : parse text = .ok s) :
    ∃ flags, s.session.flags = .ok flags
      ∧ (s.relay.options flags).batch = s.relay.batch
      ∧ (s.relay.options flags).bufferSize = s.relay.bufferSize
      ∧ ((∃ name ∈ s.session.flagNames, name ∈ Flags.passiveNames) →
        ∀ (limit : Nat) (session last : Session) (events : List Event) (ending : Relay.Ending),
          Runs (Relay.run limit session (s.relay.options flags)) events (ending, last) →
          (∀ e ∈ events, ¬ Relay.Sends e.call)
            ∧ ∀ stats ∈ ending.stats?, stats.reinjected = 0)
      ∧ ((∀ name ∈ s.session.flagNames, name ∉ Flags.passiveNames) →
        (s.relay.options flags).reinject = s.relay.reinject) := by
  have checked := check_eq_ok_iff.mp (parse_eq_ok_iff.mp accepted).2
  obtain ⟨flags, hflags⟩ := checked.flags
  have hnames : Flags.ofNames s.session.flagNames = .ok flags := mapError_eq_ok_iff.mp hflags
  refine ⟨flags, hflags, rfl, rfl, ?_, RelaySettings.reinject_of_active hnames⟩
  intro passive limit session last events ending run
  exact Relay.not_sends_of_run (RelaySettings.reinject_of_passive hnames passive) run

/-- A session that sniffs fragments, with a small relay. -/
def sniffingText : String :=
  "[session]\nfilter = \"true\"\nflags = [\"FRAGMENTS\", \"SNIFF\"]\n"
    ++ "[relay]\nbatch = 2\nbuffer_size = 16\n"

/-- Its relay, with a packet to receive. -/
def sniffing : Transcript Scripted.System (Relay.Ending × Session) :=
  (Relay.run 2 ⟨0x104, ⟨.withEvent 0x108⟩, ⟨.withEvent 0x10c⟩⟩ ⟨2, 16, false⟩).run
    Scripted.host { arrivals := [.batch { packets := [[1, 2, 3]] }] }

theorem sniffing_injects_nothing :
    ∃ s, parse sniffingText = .ok s ∧ s.relay.reinject = true
      ∧ (∀ e ∈ sniffing.events, ¬ Relay.Sends e.call)
      ∧ sniffing.value.1
        = .drained { batches := 1, packets := 1, bytes := 3, reinjected := 0 } := by
  have accepted : (parse sniffingText).toOption
      = some { session := { filter := "true", flagNames := ["FRAGMENTS", "SNIFF"] }
               relay := { batch := 2, bufferSize := 16 } } := by decide +kernel
  obtain ⟨flags, hflags, -, -, passive, -⟩ :=
    passive_never_injects (toOption_eq_some_iff.mp accepted)
  have listed : ∃ name ∈ ["FRAGMENTS", "SNIFF"], name ∈ Flags.passiveNames := by decide
  have hoptions :
      RelaySettings.options { batch := 2, bufferSize := 16 } flags = ⟨2, 16, false⟩ := by
    cases hflags
    rfl
  rw [hoptions] at passive
  have run : Runs (Relay.run 2 ⟨0x104, ⟨.withEvent 0x108⟩, ⟨.withEvent 0x10c⟩⟩ ⟨2, 16, false⟩)
      sniffing.events (sniffing.value.1, sniffing.value.2) := runs_run _ _ _
  obtain ⟨silent, -⟩ := passive listed 2 _ _ sniffing.events _ run
  exact ⟨_, toOption_eq_some_iff.mp accepted, rfl, silent, by decide +kernel⟩

end Settings

end PacketDiversion

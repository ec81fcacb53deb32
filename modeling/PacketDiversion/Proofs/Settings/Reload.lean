import Mathlib.Data.List.Induction
import PacketDiversion.Proofs.Settings.Acceptance
import PacketDiversion.Settings.Live

/-!
# Reloading

Settings that follow a file are, after any registrations and file events, the ones that were last
loaded from it (`lastGood`), and each reload is told to everyone who was registered before it and to
no one else. Which loads count and who is registered is read off the inputs alone (`loaded?`,
`registered`); `Stands` ties the state to them, one input keeps it, and so does a whole sequence.
-/

namespace PacketDiversion.LiveSettings

variable {ι : Type}

/-! ### What the inputs say -/

/-- The settings that an input brings: only a changed file that can be loaded does. -/
def Input.loaded? (path : String) : Input ι → Option Settings
  | .event (.changed now) => (Settings.load path now).toOption
  | .event .other | .event (.failed _) | .register _ => none

def Input.listener? : Input ι → Option ι
  | .register listener => some listener
  | .event _ => none

/-- The settings loaded last. -/
def lastGood (path : String) (initial : Settings) (inputs : List (Input ι)) : Settings :=
  (inputs.filterMap (Input.loaded? path)).getLastD initial

def registered (inputs : List (Input ι)) : List ι := inputs.filterMap Input.listener?

theorem lastGood_concat (path : String) (initial : Settings) (inputs : List (Input ι))
    (i : Input ι) :
    lastGood path initial (inputs ++ [i])
      = (i.loaded? path).getD (lastGood path initial inputs) := by
  unfold lastGood
  cases hloaded : i.loaded? path with
  | none => simp [hloaded]
  | some s => simp [hloaded]

theorem registered_concat (inputs : List (Input ι)) (i : Input ι) :
    registered (inputs ++ [i]) = registered inputs ++ i.listener?.toList := by
  unfold registered
  cases hlistener : i.listener? with
  | none => simp [hlistener]
  | some listener => simp [hlistener]

theorem loaded?_eq_some {path : String} {i : Input ι} {s : Settings}
    (loaded : i.loaded? path = some s) :
    ∃ now, i = .event (.changed now) ∧ Settings.load path now = .ok s := by
  unfold Input.loaded? at loaded
  split at loaded
  · rename_i now
    exact ⟨now, rfl, toOption_eq_some_iff.mp loaded⟩
  all_goals cases loaded

/-! ### One input -/

/-- The state that a sequence of inputs leads to. -/
structure Stands (path : String) (initial : Settings) (inputs : List (Input ι))
    (l : LiveSettings ι) : Prop where
  path_eq : l.path = path
  current_eq : l.current = lastGood path initial inputs
  usable : l.current.check = .ok ()
  listeners_eq : l.listeners = registered inputs

variable {path : String} {initial : Settings} {before : List (Input ι)} {l : LiveSettings ι}

theorem step_of_loaded {i : Input ι} {s : Settings} (loaded : i.loaded? l.path = some s) :
    (l.step i).1.told = l.listeners.map (·, s) ∧ (l.step i).2 = { l with current := s }
      ∧ i.listener? = none := by
  obtain ⟨now, rfl, hload⟩ := loaded?_eq_some loaded
  simp only [step, follow, hload, Input.listener?, and_self]

theorem step_of_not_loaded {i : Input ι} (none : i.loaded? l.path = none) :
    (l.step i).1.told = []
      ∧ (l.step i).2 = { l with listeners := l.listeners ++ i.listener?.toList } := by
  cases i with
  | register listener => exact ⟨rfl, rfl⟩
  | event e =>
    simp only [Input.listener?, Option.toList_none, List.append_nil]
    cases e with
    | changed now =>
      cases hload : Settings.load l.path now with
      | error why => simp only [step, follow, hload, and_self]
      | ok s => simp [Input.loaded?, hload, Except.toOption] at none
    | other => exact ⟨rfl, rfl⟩
    | failed text => exact ⟨rfl, rfl⟩

theorem Stands.step (stands : Stands path initial before l) (i : Input ι) :
    Stands path initial (before ++ [i]) (l.step i).2 := by
  obtain ⟨rfl, hcurrent, husable, hlisteners⟩ := stands
  have hlast := lastGood_concat l.path initial before i
  have hregistered := registered_concat before i
  cases hloaded : i.loaded? l.path with
  | some s =>
    obtain ⟨now, -, hload⟩ := loaded?_eq_some hloaded
    obtain ⟨-, hstep, hnone⟩ := step_of_loaded hloaded
    rw [hloaded, Option.getD_some] at hlast
    rw [hnone, Option.toList_none, List.append_nil] at hregistered
    rw [hstep]
    exact ⟨rfl, hlast.symm, Settings.check_of_load hload, hlisteners.trans hregistered.symm⟩
  | none =>
    obtain ⟨-, hstep⟩ := step_of_not_loaded hloaded
    rw [hloaded, Option.getD_none] at hlast
    rw [hstep]
    exact ⟨rfl, hcurrent.trans hlast.symm, husable, by rw [hlisteners, hregistered]⟩

/-! ### Sequences of inputs -/

theorem steps_append (l : LiveSettings ι) (before rest : List (Input ι)) :
    l.steps (before ++ rest)
      = ((l.steps before).1 ++ ((l.steps before).2.steps rest).1,
          ((l.steps before).2.steps rest).2) := by
  induction before generalizing l with
  | nil => rfl
  | cons i before ih => simp only [List.cons_append, LiveSettings.steps, ih]

theorem length_steps (l : LiveSettings ι) (inputs : List (Input ι)) :
    (l.steps inputs).1.length = inputs.length := by
  induction inputs generalizing l with
  | nil => rfl
  | cons i rest ih => simp only [LiveSettings.steps, List.length_cons, ih]

theorem steps_concat (l : LiveSettings ι) (before : List (Input ι)) (i : Input ι) :
    (l.steps (before ++ [i])).2 = ((l.steps before).2.step i).2 := by
  rw [steps_append]
  rfl

/-- The reaction to an input is what it is made to do where it comes. -/
theorem reaction_at (l : LiveSettings ι) (before rest : List (Input ι)) (i : Input ι) :
    (l.steps (before ++ i :: rest)).1[before.length]? = some ((l.steps before).2.step i).1 := by
  have hlength := length_steps l before
  rw [steps_append, List.getElem?_append_right (Nat.le_of_eq hlength), hlength, Nat.sub_self]
  rfl

theorem Stands.steps (stands : Stands path initial [] l) (inputs : List (Input ι)) :
    Stands path initial inputs (l.steps inputs).2 := by
  induction inputs using List.reverseRecOn with
  | nil => exact stands
  | append_singleton inputs i ih =>
    rw [steps_concat]
    exact ih.step i

/-- What was started stands at the settings it was started with, and no one is registered. -/
theorem stands_of_start {file : FileState} {watcher : Except String Unit}
    (started : start path file watcher = .ok l) :
    ∃ initial, Settings.load path file = .ok initial ∧ Stands path initial [] l := by
  obtain ⟨s, hload, hrest⟩ := bind_eq_ok_iff.mp started
  obtain ⟨⟨⟩, -, hstart⟩ := bind_eq_ok_iff.mp hrest
  cases hstart
  exact ⟨s, hload, rfl, rfl, Settings.check_of_load hload, rfl⟩

/-- The settings in effect are always the last good ones. An input that brings settings has them
told to everyone registered so far, in order, and in effect from then on; any other input tells no
one and changes no settings. -/
theorem follows_last_good {file : FileState} {watcher : Except String Unit}
    (started : start path file watcher = .ok l) :
    ∃ initial, Settings.load path file = .ok initial ∧ ∀ inputs : List (Input ι),
      (l.steps inputs).2.current = lastGood path initial inputs
      ∧ (l.steps inputs).2.current.check = .ok ()
      ∧ ∀ before i rest, inputs = before ++ i :: rest →
        ∃ reaction, (l.steps inputs).1[before.length]? = some reaction
          ∧ (∀ s, i.loaded? path = some s →
            reaction.told = (registered before).map (·, s)
              ∧ (l.steps (before ++ [i])).2.current = s)
          ∧ (i.loaded? path = none →
            reaction.told = []
              ∧ (l.steps (before ++ [i])).2.current = (l.steps before).2.current) := by
  obtain ⟨initial, hload, stands⟩ := stands_of_start started
  refine ⟨initial, hload, fun inputs => ?_⟩
  have hinputs := stands.steps inputs
  refine ⟨hinputs.current_eq, hinputs.usable, ?_⟩
  intro before i rest heq
  have hbefore := stands.steps before
  rw [steps_concat, heq]
  refine ⟨_, reaction_at l before rest i, ?_, ?_⟩
  · intro s hloaded
    obtain ⟨htold, hstep, -⟩ := step_of_loaded (hbefore.path_eq.symm ▸ hloaded)
    rw [hstep, ← hbefore.listeners_eq]
    exact ⟨htold, rfl⟩
  · intro hnone
    obtain ⟨htold, hstep⟩ := step_of_not_loaded (hbefore.path_eq.symm ▸ hnone)
    rw [hstep]
    exact ⟨htold, rfl⟩

/-- A file that sets a session's filter and nothing else. -/
def filterFile (filter : String) : FileState :=
  .content ("[session]\nfilter = \"" ++ filter ++ "\"\n").toUTF8.toList

/-- A usable edit between a deleted file and a failure of the watcher. -/
def edits : List (Input Nat) :=
  [.register 0, .event (.changed .missing), .register 1, .event (.changed (filterFile "udp")),
    .event (.failed "lost"), .register 2]

theorem edits_followed :
    ∃ l : LiveSettings Nat, start "divert.toml" (filterFile "tcp") (.ok ()) = .ok l
      ∧ (l.steps edits).2.current = { session := { filter := "udp" } }
      ∧ ∃ reaction, (l.steps edits).1[3]? = some reaction
        ∧ reaction.told = [(0, { session := { filter := "udp" } }),
          (1, { session := { filter := "udp" } })] := by
  have hudp : (.event (.changed (filterFile "udp")) : Input Nat).loaded? "divert.toml"
      = some { session := { filter := "udp" } } := by decide +kernel
  have hbrought : edits.filterMap (Input.loaded? "divert.toml")
      = [{ session := { filter := "udp" } }] := by decide +kernel
  have htcp : (Settings.load "divert.toml" (filterFile "tcp")).toOption
      = some { session := { filter := "tcp" } } := by decide +kernel
  have started : start "divert.toml" (filterFile "tcp") (.ok ())
      = .ok (⟨"divert.toml", { session := { filter := "tcp" } }, []⟩ : LiveSettings Nat) := by
    unfold start
    rw [toOption_eq_some_iff.mp htcp]
    rfl
  obtain ⟨initial, -, followed⟩ := follows_last_good started
  obtain ⟨hcurrent, -, hreactions⟩ := followed edits
  obtain ⟨reaction, hat, htold, -⟩ := hreactions
    [.register 0, .event (.changed .missing), .register 1] _ _ rfl
  refine ⟨_, started, ?_, reaction, hat, (htold _ hudp).1⟩
  rw [hcurrent, lastGood, hbrought]
  rfl

end PacketDiversion.LiveSettings

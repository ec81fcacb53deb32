import PacketDiversion.Logging.Level
import PacketDiversion.Settings.Load

/-!
# Live settings

Settings that follow their file while the program runs. When the file is changed and holds usable
settings, they take effect and every listener is told. An unusable edit is reported and otherwise
ignored: the settings in effect are always the last good ones.
-/

namespace PacketDiversion

open Logging

/-- What the watcher of a file tells. -/
inductive FileEvent
  /-- The file was changed; this is what is found there now. -/
  | changed (now : FileState)
  /-- Something else happened to the file. -/
  | other
  /-- The watcher itself failed. -/
  | failed (text : String)

/-- Settings that follow a file; listeners are told apart by values of `ι`. -/
structure LiveSettings (ι : Type) where
  path : String
  current : Settings
  /-- Who is told of a reload, in order of registration. -/
  listeners : List ι := []

/-- What a reload does. -/
structure Reaction (ι : Type) where
  /-- What is logged. -/
  log : List Line := []
  /-- Who is told, and of which settings, in order. -/
  told : List (ι × Settings) := []

namespace LiveSettings

variable {ι : Type}

/-- Loads settings and starts to follow their file, if the watcher can. -/
def start (path : String) (file : FileState) (watcher : Except String Unit) :
    Except SettingsError (LiveSettings ι) := do
  let s ← Settings.load path file
  watcher.mapError .watcher
  return { path := path, current := s }

def register (l : LiveSettings ι) (listener : ι) : LiveSettings ι :=
  { l with listeners := l.listeners ++ [listener] }

/-- Follows what happened to the file. -/
def follow (l : LiveSettings ι) : FileEvent → Reaction ι × LiveSettings ι
  | .changed now =>
    match Settings.load l.path now with
    | .ok s =>
      ({ log := [⟨.info, "Config reloaded"⟩], told := l.listeners.map fun who => (who, s) },
        { l with current := s })
    | .error e => ({ log := [⟨.error, s!"Failed to reload config: {e.message}"⟩] }, l)
  | .other | .failed _ => ({}, l)

inductive Input (ι : Type)
  | register (listener : ι)
  | event (e : FileEvent)

def step (l : LiveSettings ι) : Input ι → Reaction ι × LiveSettings ι
  | .register listener => ({}, l.register listener)
  | .event e => l.follow e

def steps (l : LiveSettings ι) : List (Input ι) → List (Reaction ι) × LiveSettings ι
  | [] => ([], l)
  | input :: rest =>
    let (reaction, l) := l.step input
    let (reactions, l) := l.steps rest
    (reaction :: reactions, l)

end LiveSettings

end PacketDiversion

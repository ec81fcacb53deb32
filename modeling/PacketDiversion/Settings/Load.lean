import PacketDiversion.Bytes
import PacketDiversion.Settings.Error
import PacketDiversion.Settings.Section
import PacketDiversion.Toml.Document

/-!
# Loading settings

From a file to settings that can be used: the content must be text, the text a document, the
document must describe settings, and the settings must pass `Settings.check`. That check meets the
values in a fixed order and refuses the first one that cannot be used.
-/

namespace PacketDiversion

/-- The session's flags. The first name that stands for none is refused. -/
def SessionSettings.flags (s : SessionSettings) : Except Invalid Flags :=
  (Flags.ofNames s.flagNames).mapError .flag

/-- Refuses the first value that its parameter does not take. -/
def Parameter.checkAll : List (Parameter × UInt64) → Except SessionError Unit
  | [] => .ok ()
  | (p, value) :: rest => do
    p.check value
    checkAll rest

namespace Settings

/-- Checks the priority, the flags, the values of the queue and the sizes of the relay, in this
order. The filter is passed on unchecked. -/
def check (s : Settings) : Except Invalid Unit := do
  (Priority.check s.session.priority).mapError .priority
  let _ ← s.session.flags
  (Parameter.checkAll s.queue.entries).mapError .queue
  if s.relay.batch = 0 then .error .noBatch
  else if s.relay.bufferSize = 0 then .error .noBuffer
  else .ok ()

/-- The settings that a document describes, if they can be used. -/
def ofDocument (t : Toml.Table) : Except SettingsError Settings := do
  let s ← (ofTable t).mapError .mismatch
  s.check.mapError .invalid
  return s

/-- The settings that a text describes, if they can be used. -/
def parse (text : String) : Except SettingsError Settings :=
  match Toml.Document.read text with
  | none => .error .malformed
  | some t => ofDocument t

end Settings

/-! ### Files -/

/-- What is found at a path. -/
inductive FileState
  | missing
  | directory
  | unreadable (error : HostError)
  | content (bytes : Bytes)
  deriving DecidableEq, Repr

/-- The text of a file. -/
def FileState.text : FileState → Except FileTrouble String
  | missing => .error .notFound
  | directory => .error .isDirectory
  | unreadable error => .error (.host error)
  | content bytes =>
    match String.fromUTF8? ⟨bytes.toArray⟩ with
    | some text => .ok text
    | none => .error .notText

/-- The settings in a file, if they can be used. -/
def Settings.load (path : String) (file : FileState) : Except SettingsError Settings := do
  let text ← file.text.mapError (.file path)
  parse text

end PacketDiversion

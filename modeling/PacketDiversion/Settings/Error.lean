import PacketDiversion.Session.Error
import PacketDiversion.Settings.Mismatch

/-!
# Errors of settings

Why settings could not be read or cannot be used.
-/

namespace PacketDiversion

/-- Why a file could not be read as a text. -/
inductive FileTrouble
  | notFound
  | isDirectory
  /-- The content is not UTF-8. -/
  | notText
  | host (error : HostError)
  deriving DecidableEq, Repr

def FileTrouble.text : FileTrouble → String
  | notFound => (HostError.code 2).text
  | isDirectory => (HostError.code 21).text
  | notText => "stream did not contain valid UTF-8"
  | host error => error.text

/-- Why settings cannot be used. -/
inductive Invalid
  | priority (error : SessionError)
  | flag (name : String)
  | queue (error : SessionError)
  | noBatch
  | noBuffer
  deriving DecidableEq, Repr

def Invalid.text : Invalid → String
  | priority error => error.message
  | flag name => "unknown session flag \x60" ++ name ++ "\x60"
  | queue error => s!"queue: {error.message}"
  | noBatch => "relay.batch must be > 0"
  | noBuffer => "relay.buffer_size must be > 0"

/-- Why there are no settings. -/
inductive SettingsError
  | file (path : String) (trouble : FileTrouble)
  /-- The text is not a document. -/
  | malformed
  /-- The document does not describe settings. -/
  | mismatch (what : Mismatch)
  | invalid (why : Invalid)
  | watcher (text : String)

def SettingsError.message : SettingsError → String
  | file path trouble =>
    "I/O error while accessing \x60" ++ path ++ "\x60: " ++ trouble.text
  | malformed => "TOML parse error: the text is not a document"
  | mismatch what => s!"TOML parse error: {what.message}"
  | invalid why => s!"Validation error: {why.text}"
  | watcher text => s!"Watcher error: {text}"

end PacketDiversion

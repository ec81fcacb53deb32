import PacketDiversion.Settings.Basic
import PacketDiversion.Settings.Form

/-!
# Settings in a document

The settings are the top-level table of a document, with a section for the session, the queue, the
relay and the log. Keys that the settings do not know are ignored.
-/

namespace PacketDiversion

open Form

/-! ### Sections -/

/-- The section `session`. -/
def SessionSettings.form : Form where
  title := "SessionConfig"
  fields := [("filter", fits text), ("layer", fits Form.layer), ("priority", fits int16),
    ("flags", fits texts)]
  required := 1

def SessionSettings.ofValue (v : Toml.Value) : Except Mismatch SessionSettings := do
  let entries ← form.entries v
  return {
    filter := ← get text "filter" entries
    layer := ← getD Form.layer "layer" entries default
    priority := ← getD int16 "priority" entries Priority.default
    flagNames := ← getD texts "flags" entries [] }

/-- The section `queue`. -/
def QueueSettings.form : Form where
  title := "QueueConfig"
  fields := [("length", fits word64), ("time", fits word64), ("size", fits word64)]
  required := 3

def QueueSettings.ofValue (v : Toml.Value) : Except Mismatch QueueSettings := do
  let entries ← form.entries v
  return {
    length := ← get? word64 "length" entries
    time := ← get? word64 "time" entries
    size := ← get? word64 "size" entries }

/-- The section `relay`. -/
def RelaySettings.form : Form where
  title := "RelayConfig"
  fields := [("batch", fits size), ("buffer_size", fits size), ("reinject", fits boolean)]
  required := 0

def RelaySettings.ofValue (v : Toml.Value) : Except Mismatch RelaySettings := do
  let entries ← form.entries v
  let standard : RelaySettings := {}
  return {
    batch := ← getD size "batch" entries standard.batch
    bufferSize := ← getD size "buffer_size" entries standard.bufferSize
    reinject := ← getD boolean "reinject" entries standard.reinject }

/-- The section `logging`. -/
def LoggingSettings.form : Form where
  title := "LoggingConfig"
  fields := [("spec", fits text), ("directory", fits path)]
  required := 0

def LoggingSettings.ofValue (v : Toml.Value) : Except Mismatch LoggingSettings := do
  let entries ← form.entries v
  let standard : LoggingSettings := {}
  return {
    spec := ← getD text "spec" entries standard.spec
    directory := ← getD path "directory" entries standard.directory }

/-! ### The document -/

/-- The top level of a document. -/
def Settings.form : Form where
  title := "Config"
  fields := [("session", fits SessionSettings.ofValue), ("queue", fits QueueSettings.ofValue),
    ("relay", fits RelaySettings.ofValue), ("logging", fits LoggingSettings.ofValue)]
  required := 1

/-- The settings that the top-level table of a document describes. -/
def Settings.ofTable (t : Toml.Table) : Except Mismatch Settings := do
  let entries ← form.entries (.table t)
  return {
    session := ← get SessionSettings.ofValue "session" entries
    queue := ← getD QueueSettings.ofValue "queue" entries {}
    relay := ← getD RelaySettings.ofValue "relay" entries {}
    logging := ← getD LoggingSettings.ofValue "logging" entries {} }

end PacketDiversion

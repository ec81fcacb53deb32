import PacketDiversion.Logging.Spec

/-!
# Log records

A record of the running program, and how it is written. Every record that the specification admits
goes to the log file; warnings and errors go to the error stream as well. A record can name the
writers it is meant for by a target such as `{_Default}`. There is only the default one; each other
name is reported on the error stream.
-/

namespace PacketDiversion.Logging

structure Record where
  level : Level
  /-- What the specification decides by. -/
  target : String
  module : Option String
  line : Option Nat
  message : String
  deriving DecidableEq, Repr

namespace Record

/-- The record's level in five columns. -/
def levelColumn (r : Record) : String :=
  let name := r.level.name
  name ++ String.ofList (List.replicate (5 - name.length) ' ')

/-- The record as it is written, with the time and the name of its thread. -/
def text (r : Record) (time : String) (thread : Option String) : String :=
  let origin := r.module.getD "<unknown>"
  let threadName := thread.getD "<unnamed>"
  s!"{time} [{r.levelColumn}] [{threadName}] [{origin}:{r.line.getD 0}] {r.message}"

/-- Whether the record also goes to the error stream. -/
def isUrgent (r : Record) : Bool := r.level.rank ≤ Level.warn.rank

/-- The names of the writers that the target lists between braces, if it begins with one. -/
def writers? (r : Record) : Option (List String) :=
  match r.target.toList with
  | '\x7b' :: rest => some ((pieces ',' rest.dropLast).map String.ofList)
  | _ => none

/-- The name of the writer to the log file. -/
def defaultWriter : String := "_Default"

/-- What the specification decides by: the target, or the module if the target lists the default
writer. A record for other writers only is not decided about. -/
def subject? (r : Record) : Option String :=
  match r.writers? with
  | none => some r.target
  | some writers => if writers.contains defaultWriter then some (r.module.getD "") else none

/-- The report about a writer that there is not. -/
def unknownWriter (name : String) : List String :=
  [s!"[flexi_logger][ERRCODE::WriterSpec] bad writer spec: {name}",
    "    See https://docs.rs/flexi_logger/latest/flexi_logger/error_info/index.html#writerspec"]

/-- The reports about the writers of the record that there are not. -/
def complaints (r : Record) : List String :=
  ((r.writers?.getD []).filter fun name => name != defaultWriter).flatMap unknownWriter

end Record

structure Output where
  /-- The texts in the log file. -/
  file : List String
  /-- The texts on the error stream. -/
  errors : List String
  deriving DecidableEq, Repr

/-- What a record comes to. At a level that the specification lets through for no module nothing is
even looked at. -/
def Record.output (spec : Spec) (time : String) (thread : Option String) (r : Record) : Output :=
  if !spec.reaches r.level then ⟨[], []⟩
  else
    let admitted := r.subject?.any fun subject => spec.admits r.level subject r.message
    let text := r.text time thread
    { file := if admitted then [text] else []
      errors := r.complaints ++ if admitted && r.isUrgent then [text] else [] }

def write (spec : Spec) (time : String) (thread : Option String) (records : List Record) :
    Output :=
  let outputs := records.map (Record.output spec time thread)
  { file := outputs.flatMap Output.file
    errors := outputs.flatMap Output.errors }

end PacketDiversion.Logging

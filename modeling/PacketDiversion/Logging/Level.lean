/-!
# Log levels and lines

Levels are ordered by urgency: an error is the most urgent. A filter admits the levels up to a
limit, or none.
-/

namespace PacketDiversion.Logging

inductive Level
  | error
  | warn
  | info
  | debug
  | trace
  deriving DecidableEq, Repr

namespace Level

/-- Every level, the most urgent first. -/
def all : List Level := [error, warn, info, debug, trace]

def rank : Level → Nat
  | error => 1
  | warn => 2
  | info => 3
  | debug => 4
  | trace => 5

def name : Level → String
  | error => "ERROR"
  | warn => "WARN"
  | info => "INFO"
  | debug => "DEBUG"
  | trace => "TRACE"

def ofName? (s : String) : Option Level := all.find? fun l => l.name == s

end Level

/-- A log line before it is written anywhere. -/
structure Line where
  level : Level
  message : String
  deriving DecidableEq, Repr

def Line.text (l : Line) : String := s!"{l.level.name} {l.message}"

end PacketDiversion.Logging

/-!
# The agent

The command line of the agent. It diverts packets through a driver that only one operating system
has, so elsewhere it does nothing but say so.
-/

namespace PacketDiversion.Agent

/-- How a run of the agent ends. -/
structure Run where
  exitCode : UInt8
  /-- What was written to the output stream. -/
  output : String
  /-- What was written to the error stream. -/
  errors : String
  deriving DecidableEq, Repr

/-- A run of the agent where there is no driver. It looks neither at its arguments nor at its
settings. -/
def run (_arguments : List String) (_settings : Option String) : Run where
  exitCode := 1
  output := ""
  errors := "Error: divert-agent requires Windows and the WinDivert driver\n"

end PacketDiversion.Agent

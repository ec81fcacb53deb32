import PacketDiversion.Agent

/-!
# The agent's command line
-/

open PacketDiversion

def main (arguments : List String) : IO UInt32 := do
  let run := Agent.run arguments none
  IO.print run.output
  IO.eprint run.errors
  return run.exitCode.toUInt32

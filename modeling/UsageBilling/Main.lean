import UsageBilling.Launch
/-!
The command line: it takes no arguments, and its settings come from the environment.
-/
open UsageBilling

def readEnvironment : IO Environment :=
  Launch.variableNames.filterMapM fun name => do
    return (← IO.getEnv name).map fun value => (name, value)

def main : IO UInt32 := do
  let launch := Launch.run (← readEnvironment)
  for event in launch.logs do
    IO.println ((Text.ofBytes? event.toJson.render).getD "")
  for line in launch.errorLines do
    IO.eprintln line
  return UInt32.ofNat launch.exitCode

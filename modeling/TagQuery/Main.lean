import TagQuery.CommandLine

/-!
# The program

Hands the arguments, the environment and the file with the store to the command
line, prints what comes back, and exits with its code.
-/

namespace TagQuery.CommandLine

def settings : IO Settings := do
  let values ← Settings.variableNames.mapM fun name => return (name, ← IO.getEnv name)
  return .ofLookup fun name => (values.lookup name).join

def textOf (path : String) : IO (Option String) := do
  return (← (IO.FS.readFile path).toBaseIO).toOption

/-- Carries out what the arguments ask for. -/
def outcome (args : List String) : IO Outcome := do
  match Invocation.ofArgs args with
  | .error refusal => return refusal.outcome
  | .ok invocation => return invocation.run (← settings) (← textOf invocation.store)

end TagQuery.CommandLine

def main (args : List String) : IO UInt32 := do
  let outcome ← TagQuery.CommandLine.outcome args
  IO.print outcome.output
  return outcome.exitCode.toUInt32

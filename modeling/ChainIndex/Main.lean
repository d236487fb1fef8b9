import ChainIndex.CommandLine.Outline

/-!
# The command line

Reads the arguments and the environment and tells what work they stand for. A line that is not
understood ends with status 2, a configuration that makes no sense with status 1.
-/

open ChainIndex CommandLine

/-- Looks variables up, so that the lookup no longer hangs on the world. -/
def lookUp (names : List String) : IO (String → Option String) := do
  let found ← names.filterMapM fun name => do
    let value ← IO.getEnv name
    pure (value.map fun v => (name, v))
  pure fun name => found.lookup name

def main (args : List String) : IO UInt32 := do
  let environment ← lookUp variableNames
  match parse environment args with
  | .error .help =>
    IO.println UsageError.help.line
    pure 0
  | .error e =>
    IO.eprintln e.line
    pure 2
  | .ok command =>
    match outline command with
    | .error e =>
      IO.eprintln e.message
      pure 1
    | .ok lines =>
      lines.forM fun line => IO.println line
      pure 0

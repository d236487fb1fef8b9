import ChainIndex.Config

/-!
# What a command line comes to

A command in a few lines: which chain is indexed where, and which work there is. A line that is not
understood comes to one line that says why.
-/

namespace ChainIndex.CommandLine

/-- What is said of a line that is not understood. -/
def UsageError.line (e : UsageError) : String :=
  let about := String.intercalate ", " e.arguments
  match e with
  | .help => "commands: historic, live, setup"
  | .noCommand => "error: a command is required: historic, live or setup"
  | .unknownCommand name => "error: unrecognized subcommand '" ++ name ++ "'"
  | .unknownArgument _ => "error: unexpected argument '" ++ about ++ "' found"
  | .repeated _ => "error: the argument '" ++ about ++ "' cannot be used multiple times"
  | .unwantedValue _ => "error: unexpected value for '" ++ about ++ "'"
  | .noValue _ => "error: a value is required for '" ++ about ++ "'"
  | .badValue .. => e.message.getD ""
  | .missing _ => "error: required arguments were not provided: " ++ about

/-- Every variable of the environment that a command may look at. -/
def variableNames : List String := ((historicSpecs ++ liveSpecs).map Spec.variable).eraseDups

def rangeText (r : HeightRange) : String := "#" ++ toString r.first.toNat ++ "..#" ++ toString r.last.toNat

def configLines (c : Config) : List String :=
  let window := c.rpc.rateWindow
  let millis := window.secs.toNat * 1000 + window.nanos.toNat / 1000000
  ["chain " ++ c.chainName ++ " at " ++ c.rpc.url.toString,
    "at most " ++ toString c.rpc.rateLimit.toNat ++ " requests in " ++ toString millis ++ " ms"]

/-- The work that a command stands for. -/
def outline : Command → Except IndexError (List String)
  | .historic range o => do
    let c ← Config.ofOptions o
    let count := rangeCount range.first range.last c.maxBlockChunkSize
    pure (configLines c ++ [rangeText range ++ " in " ++ toString count ++ " chunks"])
  | .live skip o => do
    let c ← Config.ofOptions o
    let start := if skip then "from the head" else "from the last stored height"
    pure (configLines c ++ [start ++ " on, at most " ++ toString c.maxBlockChunkSize.toNat ++ " heights at a time"])
  | .setup _ connections => pure ["tables over at most " ++ toString connections.toNat ++ " connections"]

end ChainIndex.CommandLine

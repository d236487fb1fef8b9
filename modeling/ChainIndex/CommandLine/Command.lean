import ChainIndex.Chunking
import ChainIndex.CommandLine.Reader

/-!
# Commands

There are three: to index a range of heights, to follow the head of the chain, and to create the tables
in storage. Every option can also be given by a variable of the environment.
-/

namespace ChainIndex

/-- The options of a run. -/
structure RunOptions where
  databaseUrl : String
  databaseMaxConnections : UInt32
  rpcUrl : Url
  rpcTimeoutSecs : UInt64
  rpcFetchAttempts : UInt32
  rpcRateLimit : UInt32
  rpcRateWindowMs : UInt64
  chainName : String
  maxBlockChunkSize : UInt64
  maxTransactionChunkSize : UInt64
  livePoolingMs : UInt64
  retryAttempts : UInt32
  retryPauseEvery : UInt32
  retryPauseTimeMs : UInt64
  retryBackoffMs : UInt64
  oneByOne : Bool
  deriving DecidableEq, Repr

inductive Command where
  | historic (range : HeightRange) (options : RunOptions)
  | live (skipDbCheck : Bool) (options : RunOptions)
  | setup (databaseUrl : String) (databaseMaxConnections : UInt32)
  deriving DecidableEq, Repr

namespace CommandLine

/-! ## Options -/

def databaseSpecs : List Spec :=
  [{ name := "database-url", kind := .text, required := true },
    { name := "database-max-connections", kind := .smallNumber 0 }]

def rpcSpecs : List Spec :=
  [{ name := "rpc-url", kind := .url, required := true }, { name := "rpc-timeout-secs", kind := .number },
    { name := "rpc-fetch-attempts", kind := .smallNumber 0 }, { name := "rpc-rate-limit", kind := .smallNumber 1 },
    { name := "rpc-rate-window-ms", kind := .boundedNumber }]

def pipelineSpecs : List Spec :=
  [{ name := "chain-name", kind := .text }, { name := "max-block-chunk-size", kind := .size },
    { name := "max-transaction-chunk-size", kind := .size }, { name := "live-pooling-ms", kind := .number }]

def retrySpecs : List Spec :=
  [{ name := "retry-attempts", kind := .smallNumber 0 }, { name := "retry-pause-every", kind := .smallNumber 0 },
    { name := "retry-pause-time-ms", kind := .number }, { name := "retry-backoff-ms", kind := .number },
    { name := "address-one-by-one-fallback", kind := .flag }]

def runSpecs : List Spec := databaseSpecs ++ rpcSpecs ++ pipelineSpecs ++ retrySpecs

def historicSpecs : List Spec :=
  { name := "from-height", kind := .number, required := true } ::
    { name := "to-height", kind := .number, required := true } :: runSpecs

def liveSpecs : List Spec := { name := "skip-db-check", kind := .flag, takesValue := false } :: runSpecs

/-! ## Values -/

def Given.number (g : Given) (name : String) (usual : Nat) : Nat :=
  match g.find? name with
  | some (.number n) => n
  | _ => usual

def Given.text (g : Given) (name usual : String) : String :=
  match g.find? name with
  | some (.text s) => s
  | _ => usual

def Given.flag (g : Given) (name : String) (usual : Bool) : Bool :=
  match g.find? name with
  | some (.flag b) => b
  | _ => usual

/-- A URL for an option that has to be given. -/
def Given.url (g : Given) (name : String) : Except UsageError Url :=
  match g.find? name with
  | some (.url u) => .ok u
  | _ => .error (.missing [name])

/-- The options of a run, the usual value in place of each that is not given. -/
def Given.runOptions (g : Given) : Except UsageError RunOptions := do
  let word32 name usual := (g.number name usual).toUInt32
  let word64 name usual := (g.number name usual).toUInt64
  let rpcUrl ← g.url "rpc-url"
  pure
    { rpcUrl
      databaseUrl := g.text "database-url" ""
      databaseMaxConnections := word32 "database-max-connections" 20
      rpcTimeoutSecs := word64 "rpc-timeout-secs" 10
      rpcFetchAttempts := word32 "rpc-fetch-attempts" 3
      rpcRateLimit := word32 "rpc-rate-limit" 200
      rpcRateWindowMs := word64 "rpc-rate-window-ms" 1000
      chainName := g.text "chain-name" "gnoland"
      maxBlockChunkSize := word64 "max-block-chunk-size" 50
      maxTransactionChunkSize := word64 "max-transaction-chunk-size" 100
      livePoolingMs := word64 "live-pooling-ms" 1000
      retryAttempts := word32 "retry-attempts" 3
      retryPauseEvery := word32 "retry-pause-every" 0
      retryPauseTimeMs := word64 "retry-pause-time-ms" 0
      retryBackoffMs := word64 "retry-backoff-ms" 200
      oneByOne := g.flag "address-one-by-one-fallback" true }

/-! ## Commands -/

def commandNames : List String := ["historic", "live", "setup", "help"]

/-- What a line that asks for help on commands comes to. -/
def helpOn : List String → UsageError
  | [] => .help
  | [name] => if commandNames.contains name then .help else .unknownCommand name
  | name :: next :: _ => if commandNames.contains name then .unknownCommand next else .unknownCommand name

/-- What a line comes to that does not begin with a command. -/
def withoutCommand (first : String) (rest : List String) : UsageError :=
  match Argument.of first with
  | .endOfOptions =>
    match rest with
    | [] => .noCommand
    | name :: _ => if commandNames.contains name then .unknownArgument name else .unknownCommand name
  | .short c => if c = 'h' then .help else .unknownArgument ("-" ++ String.singleton c)
  | .long "help" none => .help
  | .long "help" (some _) => .unwantedValue "--help"
  | .long name _ => .unknownArgument ("--" ++ name)
  | .plain s => .unknownCommand s

/-- Reads a command line, without the program's name. -/
def parse (env : String → Option String) : List String → Except UsageError Command
  | [] => .error .noCommand
  | "historic" :: rest => do
    let given ← readOptions historicSpecs env rest
    let height name := (given.number name 0).toUInt64
    let options ← given.runOptions
    pure (.historic ⟨height "from-height", height "to-height"⟩ options)
  | "live" :: rest => do
    let given ← readOptions liveSpecs env rest
    let options ← given.runOptions
    pure (.live (given.flag "skip-db-check" false) options)
  | "setup" :: rest => do
    let given ← readOptions databaseSpecs env rest
    pure (.setup (given.text "database-url" "") (given.number "database-max-connections" 20).toUInt32)
  | "help" :: rest => .error (helpOn rest)
  | first :: rest => .error (withoutCommand first rest)

end CommandLine

end ChainIndex

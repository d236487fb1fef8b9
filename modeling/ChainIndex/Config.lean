import ChainIndex.Address.Solver
import ChainIndex.CommandLine.Command
import ChainIndex.Error
import ChainIndex.Indexing.Chunk
import ChainIndex.Text.Blank

/-!
# Configuration

The options of a run, checked once more and put where they are used. A chain has a name, no chunk is
empty, the rate limiter lets something through, and there is a connection to storage.
-/

namespace ChainIndex

/-- How the node is asked. -/
structure RpcConfig where
  url : Url
  timeout : Duration
  rateLimit : UInt32
  rateWindow : Duration
  retry : Retry.Params
  deriving DecidableEq, Repr

structure Config where
  databaseUrl : String
  databaseMaxConnections : UInt32
  rpc : RpcConfig
  chainName : String
  maxBlockChunkSize : UInt64
  maxTransactionChunkSize : UInt64
  livePooling : Duration
  solver : SolverSettings
  deriving DecidableEq, Repr

namespace Config

/-- How an address insert is repeated. -/
def solverRetry (o : RunOptions) : Retry.Params where
  amount := o.retryAttempts
  pauseEvery := o.retryPauseEvery
  pause := .ofMillis o.retryPauseTimeMs
  backoff := .ofMillis o.retryBackoffMs

/-- How a fetch is repeated: with the same backoff, and no pauses. -/
def fetchRetry (o : RunOptions) : Retry.Params where
  amount := o.rpcFetchAttempts
  pauseEvery := 0
  pause := .zero
  backoff := .ofMillis o.retryBackoffMs

/-- The configuration of a run. -/
def ofOptions (o : RunOptions) : Except IndexError Config :=
  if Text.trim o.chainName = "" then
    .error (.config "chain name must not be empty")
  else if o.maxBlockChunkSize = 0 ∨ o.maxTransactionChunkSize = 0 then
    .error (.config "chunk sizes must be greater than 0")
  else if o.rpcRateLimit = 0 ∨ o.rpcRateWindowMs = 0 then
    .error (.config "rate limit and window must be greater than 0")
  else if o.databaseMaxConnections = 0 then
    .error (.config "database pool needs at least one connection")
  else
    .ok
      { databaseUrl := o.databaseUrl
        databaseMaxConnections := o.databaseMaxConnections
        rpc :=
          { url := o.rpcUrl
            timeout := .ofSecs o.rpcTimeoutSecs
            rateLimit := o.rpcRateLimit
            rateWindow := .ofMillis o.rpcRateWindowMs
            retry := fetchRetry o }
        chainName := o.chainName
        maxBlockChunkSize := o.maxBlockChunkSize
        maxTransactionChunkSize := o.maxTransactionChunkSize
        livePooling := .ofMillis o.livePoolingMs
        solver := ⟨solverRetry o, o.oneByOne⟩ }

/-- The indexer that a configuration describes, with its two address books. -/
def indexer (c : Config) : Indexer where
  processor :=
    { chain := c.chainName
      accounts := ⟨⟨c.chainName, .account⟩, 0⟩
      validators := ⟨⟨c.chainName, .validator⟩, 1⟩
      solver := c.solver }
  fetchRetry := c.rpc.retry
  blockChunk := c.maxBlockChunkSize
  transactionChunk := c.maxTransactionChunkSize
  idle := c.livePooling

end Config

end ChainIndex

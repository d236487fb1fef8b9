import ChainIndex.Envelope.Writer
import ChainIndex.Indexing.Historic
import ChainIndex.Indexing.Live
import ChainIndex.Main
import ChainIndex.Proofs.Address.Agreement
import ChainIndex.Proofs.Address.Mark
import ChainIndex.Proofs.Address.Recovery
import ChainIndex.Proofs.Envelope.Accounts
import ChainIndex.Proofs.Envelope.Faults
import ChainIndex.Proofs.Envelope.Merge
import ChainIndex.Proofs.Envelope.Spelling
import ChainIndex.Proofs.Indexing.Convergence
import ChainIndex.Proofs.Indexing.Cutting
import ChainIndex.Proofs.Indexing.Reports
import ChainIndex.Proofs.Indexing.Stopping
import ChainIndex.Proofs.Indexing.Sums
import ChainIndex.Proofs.Indexing.Turns
import ChainIndex.Proofs.Json.Shapes
import ChainIndex.Proofs.Log.Line
import ChainIndex.Proofs.Node.Accepted
import ChainIndex.Proofs.Node.Admission
import ChainIndex.Proofs.Node.FanOut
import ChainIndex.Proofs.Node.Targets
import ChainIndex.Proofs.Processing.Phases
import ChainIndex.Proofs.Processing.References
import ChainIndex.Proofs.RateLimit.Supply
import ChainIndex.Proofs.Retry.Attempts
import ChainIndex.Proofs.Retry.Delay
import ChainIndex.Proofs.Sql.Slices
import ChainIndex.Proofs.Throughput.Window
import ChainIndex.Shutdown
import ChainIndex.Simulation.Database
import ChainIndex.Simulation.Limiter
import ChainIndex.Simulation.LogForm
import ChainIndex.Simulation.Scenario
import ChainIndex.Simulation.Schedule
import ChainIndex.Simulation.Server
import ChainIndex.Throughput

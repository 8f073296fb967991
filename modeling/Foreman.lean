import Foreman.Json
import Foreman.Main
import Foreman.Proofs.Adjacency
import Foreman.Proofs.AnyOrder
import Foreman.Proofs.Budget
import Foreman.Proofs.Commands
import Foreman.Proofs.CriticalPath
import Foreman.Proofs.Removal
import Foreman.Proofs.Slack
import Foreman.Proofs.Pool.Clients
import Foreman.Proofs.Pool.Index
import Foreman.Proofs.Run.Capability
import Foreman.Proofs.Run.Concurrency
import Foreman.Proofs.Run.DependencySafety
import Foreman.Proofs.Run.Leases
import Foreman.Proofs.Run.Requests
import Foreman.Proofs.Run.Scripts
import Foreman.Proofs.Run.StalePlans
import Foreman.Proofs.Run.Timing
import Foreman.Shell.Records.Pattern
import Foreman.Shell.Records.Reader
import Foreman.Proofs.Run.Modes
import Foreman.Proofs.Run.Elapsed
import Foreman.Proofs.Run.Bare
import Foreman.Proofs.Run.AgentChoice
import Foreman.Proofs.Run.Indifference
import Foreman.Proofs.Ledger
import Foreman.Proofs.Run.Bookkeeping
import Foreman.Proofs.Run.RunnerCalls
import Foreman.Proofs.Depths
import Foreman.Proofs.ReleaseOrder
import Foreman.Proofs.CycleReports
import Foreman.Proofs.Reordering
import Foreman.Proofs.Numbers
import Foreman.Proofs.WorkflowFiles
import Foreman.Memory.Access
import Foreman.Proofs.Memory.Chronicle
import Foreman.Proofs.Pool.Idle
import Foreman.Proofs.Attempting
import Foreman.Proofs.Repetitions
import Foreman.Proofs.Calendar
import Foreman.Proofs.Codecs
import Foreman.Proofs.Documents
import Foreman.Proofs.DotText

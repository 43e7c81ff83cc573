import OrchLab.Machine.Run
import OrchLab.Machine.Locality
import OrchLab.Machine.Ranking
import OrchLab.Machine.Relabelling
import OrchLab.Storage.Table
import OrchLab.Storage.Dict
import OrchLab.ToMathlib.LastWhere
import OrchLab.ToMathlib.Pairwise
import OrchLab.ToMathlib.RoundHalfEven
import OrchLab.ToMathlib.SortOn
import OrchLab.ToMathlib.OrderStatistics
import OrchLab.ToMathlib.Interpolation
import OrchLab.Text.Lines
import OrchLab.Text.CodePoints
import OrchLab.Text.JsonDecoder
import OrchLab.Text.PlainJson
import OrchLab.Model.Shared.CanonicalJson
import OrchLab.Model.Shared.Json
import OrchLab.Model.Shared.Artifacts
import OrchLab.Model.Shared.Envelope
import OrchLab.Model.Inventory.Deliveries
import OrchLab.Model.Shared.Decision
import OrchLab.Model.Orders.Database
import OrchLab.Model.Orders.Trajectory
import OrchLab.Model.Orders.Repositories
import OrchLab.Model.Orders.StateBuilder
import OrchLab.Model.Orders.Validator
import OrchLab.Model.Orders.Executor
import OrchLab.Model.Orders.Handlers
import OrchLab.Model.Orders.Service
import OrchLab.Model.System
import OrchLab.Model.Scripts.Collect
import OrchLab.Model.Scripts.Consolidate
import OrchLab.ToMathlib.FirstRun
import OrchLab.ToMathlib.FirstOccurrences
import OrchLab.ToMathlib.Counting
import OrchLab.Model.Scripts.Metrics
import OrchLab.Model.Scripts.Traceability
import OrchLab.Model.Scripts.Workload
import OrchLab.Model.Scripts.Lines
import OrchLab.Model.Scripts.Summary
import OrchLab.Model.Scripts.Gate
import OrchLab.Model.DeadLetters
import OrchLab.Soundness.Orders.Move
import OrchLab.Soundness.Orders.Handlers
import OrchLab.Soundness.Orders.Steps
import OrchLab.Soundness.Orders.Transactions
import OrchLab.Soundness.Orders.Final
import OrchLab.Soundness.Orders.Points
import OrchLab.Soundness.Orders.Ledger
import OrchLab.Soundness.Orders.Files
import OrchLab.Soundness.Orders.Control
import OrchLab.Soundness.Orders.Requests
import OrchLab.Soundness.Orders.Items
import OrchLab.Soundness.Orders.Approval
import OrchLab.Soundness.Orders.Conducting
import OrchLab.Soundness.Orders.Malformed
import OrchLab.Soundness.Orders.Containment
import OrchLab.Soundness.Orders.Reasons
import OrchLab.Soundness.Orders.Endpoint
import OrchLab.Soundness.Orders.Results
import OrchLab.Soundness.Orders.Policy
import OrchLab.Soundness.Orders.Ladder
import OrchLab.Soundness.Orders.Escalation
import OrchLab.Soundness.Orders.Climb
import OrchLab.Soundness.Orders.Escalated
import OrchLab.Soundness.Orders.Bounds
import OrchLab.Soundness.Orders.Attempts
import OrchLab.Soundness.Orders.Timeouts
import OrchLab.Soundness.Orders.Occurrences
import OrchLab.Soundness.Orders.Window
import OrchLab.Soundness.Orders.Repeats
import OrchLab.Soundness.Orders.Latency
import OrchLab.Soundness.Orders.Checks
import OrchLab.Soundness.Orders.Fold
import OrchLab.Soundness.Orders.Congruence
import OrchLab.Soundness.Orders.Agreement
import OrchLab.Soundness.Orders.Duplicates
import OrchLab.Soundness.Orders.Renumbering
import OrchLab.Soundness.Orders.Parts
import OrchLab.Soundness.Orders.Independence
import OrchLab.Soundness.Orders.Dispatches
import OrchLab.Soundness.Orders.Failures
import OrchLab.Soundness.Scripts.Export
import OrchLab.Soundness.Shared.Artifacts
import OrchLab.Soundness.Orders.Recording
import OrchLab.Soundness.Orders.Provenance
import OrchLab.Soundness.Scripts.Outcomes
import OrchLab.Soundness.Scripts.Percentile
import OrchLab.Soundness.Scripts.Cost
import OrchLab.Soundness.Scripts.Recovery
import OrchLab.Soundness.Scripts.Trajectories
import OrchLab.Soundness.Scripts.Traceability
import OrchLab.Soundness.Scripts.Gate
import OrchLab.Model.Scripts.Experiment
import OrchLab.Model.Scripts.Injectors
import OrchLab.Soundness.Scripts.Experiment
import OrchLab.Soundness.Scripts.Injectors
import OrchLab.Soundness.Scripts.Workload
import OrchLab.Soundness.Scripts.LatencyColumns
import OrchLab.Soundness.Scripts.Summary
import OrchLab.Soundness.Inventory.Answers
import OrchLab.Soundness.Inventory.Deliveries
import OrchLab.Soundness.Inventory.Samples
import OrchLab.Soundness.Inventory.Faults
import OrchLab.Soundness.System.Steps
import OrchLab.Soundness.System.Network
import OrchLab.Soundness.System.Reservations
import OrchLab.Soundness.System.Items
import OrchLab.Soundness.System.Stock
import OrchLab.Soundness.System.Triggers
import OrchLab.Soundness.System.Pending
import OrchLab.Soundness.System.Coverage
import OrchLab.Soundness.System.Work
import OrchLab.Soundness.System.Settlement
import OrchLab.Soundness.System.Accounts
import OrchLab.Soundness.System.DeadLetters
import OrchLab.Soundness.System.Load
import OrchLab.Soundness.System.Reasons
import OrchLab.Soundness.System.Recovery

import AgentRuntime.Recovery.CoordinatorLaw
import AgentRuntime.Delivery.DispatcherRuns
import AgentRuntime.Store.DeliveryBounds
import AgentRuntime.Store.WriterFencing
import AgentRuntime.Delivery.EndToEnd
import AgentRuntime.Runtime.RunAdmissionLaw
import AgentRuntime.Runtime.HalfOpenProbe
import AgentRuntime.Runtime.StuckProbe
import AgentRuntime.Runtime.DurableReplay
import AgentRuntime.Recovery.UncertainEffects
import AgentRuntime.Security.SingleExecution
import AgentRuntime.Store.EffectAuthority
import AgentRuntime.Store.ReceiptReplay
import AgentRuntime.Service.RouteOwnership
import AgentRuntime.Service.TransactionalOutbox
import AgentRuntime.Service.ControlHistory
import AgentRuntime.Runtime.PendingApproval
import AgentRuntime.Runtime.HandlerKeys
import AgentRuntime.Service.OperationAgreement
import AgentRuntime.Runtime.DrainLaw
import AgentRuntime.Runtime.CheckpointWriters
import AgentRuntime.Service.CommandRuns
import AgentRuntime.Store.ReceiptReview
import AgentRuntime.Runtime.Cancellation
import AgentRuntime.Store.CommitLaw
import AgentRuntime.Delivery.InboxLaw
import AgentRuntime.Runtime.MachineryErrors
import AgentRuntime.Security.CachedResults
import AgentRuntime.Runtime.RecordedTruth
import AgentRuntime.Service.TerminalReplay
import AgentRuntime.Runtime.FileRefinement
import AgentRuntime.Security.Sanitizing
import AgentRuntime.Library.WeakOrder
import AgentRuntime.Rag.Retriever
import AgentRuntime.Security.CanonicalText
import AgentRuntime.Security.PolicyTables
import AgentRuntime.Library.Stateful
import AgentRuntime.Workflow.Runner
import AgentRuntime.Workflow.Journal
import AgentRuntime.Workflow.RunnerRules
import AgentRuntime.Workflow.Attempts
import AgentRuntime.Workflow.Bookkeeping
import AgentRuntime.Library.Surroundings
import AgentRuntime.Runtime.Readiness
import AgentRuntime.Runtime.AnsweredCalls
import AgentRuntime.Runtime.StepBudget
import AgentRuntime.Planning.Actions
import AgentRuntime.Planning.RunPlanner
import AgentRuntime.Planning.PlannerLaw
import AgentRuntime.Planning.LlmPlanner
import AgentRuntime.Runtime.Shutdown
import AgentRuntime.Runtime.ShutdownLaw
import AgentRuntime.Library.FirstWrite
import AgentRuntime.Mcp.Servers
import AgentRuntime.Mcp.FirstWrites
import AgentRuntime.Workflow.SalesNodes
import AgentRuntime.Workflow.SalesLaw
import AgentRuntime.Service.IngressGate
import AgentRuntime.Service.EntryAnswers
import AgentRuntime.Service.IngressLaw
import AgentRuntime.Runtime.RunEvaluation
import AgentRuntime.Library.Implementation
import AgentRuntime.Store.TransitionCommits
import AgentRuntime.Recovery.EndedRecoveries
import AgentRuntime.Recovery.Observability
import AgentRuntime.Recovery.Reports
import AgentRuntime.Recovery.ObservedRecoveries
import AgentRuntime.Library.BinaryInsertion

import GraphBlocks.TicketQueueOrder
import GraphBlocks.LeasePoolHistory
import GraphBlocks.JournalRefinement
import GraphBlocks.GraphNormalizationAgreement
import GraphBlocks.NumberAgreement
import GraphBlocks.BudgetPermits
import GraphBlocks.BudgetGuarantees
import GraphBlocks.UsageLedgerGuarantees
import GraphBlocks.UsageRefinement
import GraphBlocks.CompositionEncapsulation
import GraphBlocks.RunStoreAgreement
import GraphBlocks.TestRuntimeGuarantees
import GraphBlocks.CheckpointResumption
import GraphBlocks.CallbackAudit
import GraphBlocks.CallbackRedrives
import GraphBlocks.ConversationGuarantees
import GraphBlocks.OrchestrationLeases
import GraphBlocks.ExhaustionBounds
import GraphBlocks.PythonAdmissionRuns
import GraphBlocks.PythonLeaseFencing
import GraphBlocks.RecoveryAgreement
import GraphBlocks.ToolQueueProgress
import GraphBlocks.CallbackUrlAcceptance
import GraphBlocks.DeclarativeRedaction
import GraphBlocks.DraftTerminals
import GraphBlocks.DurableSourceRuns
import GraphBlocks.EventWindowPanes
import GraphBlocks.PythonRunPatchLaws
import GraphBlocks.RunStatePatches
import GraphBlocks.WorkerProtocolCodec
import GraphBlocks.ConversationArchives
import GraphBlocks.PolicyGrammar
import GraphBlocks.AuthorityClock
import GraphBlocks.CitationRepair
import GraphBlocks.ContextSelection
import GraphBlocks.FusionAuthorization
import GraphBlocks.IngestionManifests
import GraphBlocks.IntegerChunks
import GraphBlocks.PlaybackInterruptions
import GraphBlocks.RateLimiter
import GraphBlocks.RecordPages
import GraphBlocks.TaskGroups
import GraphBlocks.TaskPlanConflicts
import GraphBlocks.TicketQueueDeferral
import GraphBlocks.ToolCallLife
import GraphBlocks.Cancellation

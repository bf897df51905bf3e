import Velox.Lib.Codec
import Velox.Lib.ColumnTable
import Velox.Lib.Coupling
import Velox.Lib.CursorWalk
import Velox.Lib.Effect
import Velox.Lib.FixedWidth
import Velox.Lib.Guard
import Velox.Lib.Interleaving
import Velox.Lib.Machine
import Velox.Lib.OrderedDict
import Velox.Lib.PercentEncoding
import Velox.Lib.Pool
import Velox.Lib.RetryQueue
import Velox.Lib.Run
import Velox.Lib.Substitution
import Velox.Lib.TableRows
import Velox.Lib.Transcript
import Velox.Python.Lines
import Velox.Python.Date
import Velox.Python.Parse
import Velox.Python.Path
import Velox.Python.Text
import Velox.Python.Time
import Velox.Python.Url
import Velox.Python.Value
import Velox.Python.ZoneInfo
import Velox.Core.Action
import Velox.Core.Approval
import Velox.Core.Credentials
import Velox.Core.Delegation
import Velox.Core.Environment
import Velox.Core.Error
import Velox.Core.Permission
import Velox.Core.Semantic
import Velox.Events.Classifier
import Velox.Events.Event
import Velox.Events.Workflow
import Velox.Events.WorkflowSafety
import Velox.Workers.Draining
import Velox.Workers.Executor
import Velox.Workers.Manifest
import Velox.Workers.Registration
import Velox.Workers.Routing
import Velox.Workers.Runtime
import Velox.Workers.Settlement
import Velox.SoftwareEngineering.Continuation
import Velox.SoftwareEngineering.Decision
import Velox.SoftwareEngineering.Ingress
import Velox.SoftwareEngineering.Migration
import Velox.SoftwareEngineering.Reconciliation
import Velox.SoftwareEngineering.Recovery
import Velox.SoftwareEngineering.Repository
import Velox.SoftwareEngineering.RepositoryAgreement
import Velox.SoftwareEngineering.RestartTransparency
import Velox.SoftwareEngineering.Route
import Velox.SoftwareEngineering.RunControl
import Velox.SoftwareEngineering.RunFacts
import Velox.SoftwareEngineering.RunPersistence
import Velox.SoftwareEngineering.RunRow
import Velox.SoftwareEngineering.RunSchema
import Velox.SoftwareEngineering.RunState
import Velox.SoftwareEngineering.RunStatements
import Velox.SoftwareEngineering.SessionProtocol
import Velox.SoftwareEngineering.SessionSecrecy
import Velox.SoftwareEngineering.SqliteInterleaving
import Velox.SoftwareEngineering.SqliteOperations
import Velox.SoftwareEngineering.SqliteRepository
import Velox.SoftwareEngineering.SqliteTransactions
import Velox.SoftwareEngineering.TaskSession
import Velox.SoftwareEngineering.WorkerOutcome
import Velox.Integrations.CalendarAgreement
import Velox.Integrations.CalendarBoundary
import Velox.Integrations.CalendarEventPath
import Velox.Integrations.CalendarExecutor
import Velox.Integrations.CalendarIngress
import Velox.Integrations.CalendarManualSync
import Velox.Integrations.CalendarOrchestrator
import Velox.Integrations.CalendarPagination
import Velox.Integrations.CalendarRequest
import Velox.Integrations.CalendarSyncAgreement
import Velox.Integrations.CalendarAgenda
import Velox.Integrations.CalendarAgendaQuery
import Velox.Integrations.CalendarTokens
import Velox.Integrations.CalendarTransport
import Velox.Integrations.ClaudeCode
import Velox.Integrations.ClaudeCodeOutcome
import Velox.Integrations.CredentialAgreement
import Velox.Integrations.DiscardRetry
import Velox.Integrations.Evidence
import Velox.Integrations.GitSite
import Velox.Integrations.Gmail
import Velox.Integrations.GmailAgreement
import Velox.Integrations.GoogleOAuth
import Velox.Integrations.GoogleProvider
import Velox.Integrations.Json
import Velox.Integrations.JsonDocument
import Velox.Integrations.Keyring
import Velox.Integrations.Promotion
import Velox.Integrations.PromotionGate
import Velox.Integrations.PromotionRetry
import Velox.Integrations.PromotionStages
import Velox.Integrations.PullRequest
import Velox.Integrations.WorkProduct
import Velox.Integrations.WorkProductSafety
import Velox.Integrations.SemanticAgreement
import Velox.Integrations.StatusListing
import Velox.Integrations.Workspace
import Velox.Integrations.WorktreeRegistry
import Velox.System.ApprovalSafety
import Velox.System.Container
import Velox.System.Ledger
import Velox.System.ServiceClaims
import Velox.System.ServiceOps
import Velox.System.SharedEvidence
import Velox.System.SharedRuns

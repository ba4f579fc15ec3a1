import Urp.Library.Dict
import Urp.Library.Program
import Urp.Library.Run
import Urp.Library.Lines
import Urp.Library.Mutex
import Urp.Library.Slices
import Urp.Python.Value
import Urp.Python.Sha256
import Urp.Python.Json
import Urp.Python.JsonRoundTrip
import Urp.Errors
import Urp.PolicyStrictness
import Urp.Schema
import Urp.LedgerRuns
import Urp.PolicyNaming
import Urp.ChunkIsolation
import Urp.Encoding
import Urp.Planner
import Urp.ExactRoundTrip
import Urp.ShadowIsolation
import Urp.Progress
import Urp.CacheHits
import Urp.CacheTenants
import Urp.LedgerTampering
import Urp.RangeReads
import Urp.GoClient
import Urp.AiRequests
import Urp.Dispatch
import Urp.GatewaySteps
import Urp.ModelAllowlist
import Urp.WorkUnitReports
import Urp.SemanticRuns
import Urp.GatewayCaches
import Urp.VerifierErrors
import Urp.ChatEnds
import Urp.GatewaySafety
import Urp.CacheKeys
import Urp.StoredRows
import Urp.GatewayRuns
import Urp.ExactProvenance
import Urp.HitProgress
import Urp.PolicyHits
import Urp.WorkUnitStore
import Urp.PayloadEncoding
import Urp.Library.DictAlike
import Urp.CacheBackends
import Urp.Library.Ignores
import Urp.TrialRequests
import Urp.PlanConformance
import Urp.Recording
import Urp.PolicyAtomicity
import Urp.ExecutionProgress
import Urp.StoredRepresentation
import Urp.PayloadDecoders
import Urp.ManifestStores
import Urp.Library.Blocks
import Urp.DenialAudit
import Urp.PolicyVersions
import Urp.EdgeSync
import Urp.SinkContinuity
import Urp.EdgeSyncRuns
import Urp.Backup
import Urp.BackupRoundTrip
import Urp.StateFiles
import Urp.BackupRuns
import Urp.EdgeRestore
import Urp.OnlineBackup
import Urp.OnlineBackupRuns
import Urp.ExportConsistency
import Urp.Checkpoints
import Urp.CheckpointChains
import Urp.CheckpointFrames
import Urp.RustChunker
import Urp.DecodedPayloads
import Urp.Library.Tiling
import Urp.RangeTiling
import Urp.Redaction
import Urp.Library.ArgMax
import Urp.SemanticLookup
import Urp.WrittenManifests
import Urp.ObjectPuts
import Urp.BucketListing
import Urp.BucketRuns
import Urp.ObjectProgress
import Urp.RedactedManifests
import Urp.StoredSizes
import Urp.SavingsReports
import Urp.SavingsRuns
import Urp.PlanRecords
import Urp.PlanRuns
import Urp.Authorization
import Urp.GatewayServers
import Urp.ServerTenants
import Urp.PolicyOrder
import Urp.Reducers
import Urp.RestoredFiles
import Urp.SinkAtomicity
import Urp.CheckpointTermination
import Urp.PolicyListing
import Urp.RecordRoundTrips
import Urp.Impact
import Urp.AnswerTexts
import Urp.ContextBudgets
import Urp.ToolReplies
import Urp.Training
import Urp.LedgerCrashes
import Urp.LogTemplates
import Urp.Release
import Urp.PackageDigests
import Urp.Refusals
import Urp.PosixFiles
import Urp.PostgresStores
import Urp.StoreTenants
import Urp.StoreAgreement
import Urp.LedgerReaders
import Urp.CacheLifetimes
import Urp.ManifestWrites
import Urp.LegalHolds
import Urp.HoldRuns
import Urp.Library.Assembly
import Urp.Library.Turns
import Urp.Library.DictMap
import Urp.Multipart
import Urp.MultipartSections
import Urp.MultipartLives
import Urp.MultipartSteps
import Urp.MultipartRuns
import Urp.MultipartProgress
import Urp.MultipartCompletion
import Urp.Kms
import Urp.KmsKeys
import Urp.KmsRuns
import Urp.ObjectReads
import Urp.ObjectRetrieval
import Urp.ApprovalIssue
import Urp.ApprovalKeeps
import Urp.ApprovalRuns

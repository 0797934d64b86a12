import ReplicateOnTag.Library.Dict
import ReplicateOnTag.Library.Sha256
import ReplicateOnTag.Library.CanonicalJson
import ReplicateOnTag.Library.BoundedMemory
import ReplicateOnTag.Library.KeepBest
import ReplicateOnTag.Library.ConditionalStore
import ReplicateOnTag.Library.HeldToken
import ReplicateOnTag.Library.Contention
import ReplicateOnTag.Library.Awaiting
import ReplicateOnTag.Library.OneByOne
import ReplicateOnTag.Library.AnnounceOnce
import ReplicateOnTag.Library.PublishLast
import ReplicateOnTag.Library.LastWriterWins
import ReplicateOnTag.Library.PercentEncoding
import ReplicateOnTag.Library.FirstFailure
import ReplicateOnTag.Library.Md5
import ReplicateOnTag.Library.ByteText
import ReplicateOnTag.Library.Csv
import ReplicateOnTag.Library.OrderStatistic
import ReplicateOnTag.Library.SqlPredicate
import ReplicateOnTag.Library.Json
import ReplicateOnTag.Library.JsonLayout
import ReplicateOnTag.Library.JsonValue
import ReplicateOnTag.Library.CanonicalText
import ReplicateOnTag.Library.OldestFirst
import ReplicateOnTag.Library.CivilTime
import ReplicateOnTag.Library.Decimal
import ReplicateOnTag.Library.UnicodeDigits
import ReplicateOnTag.Library.WhiteSpace
import ReplicateOnTag.Library.IsoTime
import ReplicateOnTag.Core.Watermark
import ReplicateOnTag.Core.Models
import ReplicateOnTag.Core.CheckpointLogic
import ReplicateOnTag.Core.WatermarkText
import ReplicateOnTag.Core.CheckpointSerializer
import ReplicateOnTag.Core.CompletionSerializer
import ReplicateOnTag.Core.StateText
import ReplicateOnTag.Core.ProcessedHistory
import ReplicateOnTag.Core.JournalDedup
import ReplicateOnTag.Core.RuleMatcher
import ReplicateOnTag.Core.ManifestGenerator
import ReplicateOnTag.Core.RuleDeriver
import ReplicateOnTag.Core.Gathering
import ReplicateOnTag.Core.ManifestCsv
import ReplicateOnTag.Core.JobRecovery
import ReplicateOnTag.Core.CompletionTracker
import ReplicateOnTag.Core.CompletionReport
import ReplicateOnTag.Core.ConfigLoader
import ReplicateOnTag.Adapters.Payload
import ReplicateOnTag.Adapters.SharedPayload
import ReplicateOnTag.Adapters.SubmissionRecords
import ReplicateOnTag.Adapters.CompletionState
import ReplicateOnTag.Adapters.StateOp
import ReplicateOnTag.Adapters.ItemKeys
import ReplicateOnTag.Adapters.MergeReport
import ReplicateOnTag.Adapters.MergeOrder
import ReplicateOnTag.Adapters.SideMaps
import ReplicateOnTag.Adapters.ReportReader
import ReplicateOnTag.Adapters.InventoryManifest
import ReplicateOnTag.Adapters.IntactReport
import ReplicateOnTag.Adapters.ReportEcho
import ReplicateOnTag.Core.RowBudget
import ReplicateOnTag.Adapters.Journal
import ReplicateOnTag.Adapters.PreflightPredicate
import ReplicateOnTag.Adapters.RecordLookup
import ReplicateOnTag.Orchestrator.Environment
import ReplicateOnTag.Orchestrator.PriorJobs
import ReplicateOnTag.Orchestrator.JournalWindow
import ReplicateOnTag.Orchestrator.Submission
import ReplicateOnTag.Orchestrator.ProcessBucket
import ReplicateOnTag.Orchestrator.RunClient
import ReplicateOnTag.Orchestrator.RunPuts
import ReplicateOnTag.Orchestrator.RunAlone
import ReplicateOnTag.Orchestrator.AlertBlind
import ReplicateOnTag.Orchestrator.RunShape
import ReplicateOnTag.Orchestrator.PersistedWindow
import ReplicateOnTag.Orchestrator.StaticRuns
import ReplicateOnTag.Orchestrator.RecoveryFlags
import ReplicateOnTag.Orchestrator.History
import ReplicateOnTag.Orchestrator.RunSteps
import ReplicateOnTag.Orchestrator.PublishPhase
import ReplicateOnTag.Orchestrator.ItemSteps
import ReplicateOnTag.Orchestrator.ReportAccess
import ReplicateOnTag.Orchestrator.Enrichment
import ReplicateOnTag.Orchestrator.Timeline
import ReplicateOnTag.Orchestrator.Overlap
import ReplicateOnTag.Orchestrator.AlertMarks
import ReplicateOnTag.Orchestrator.ReportCheck
import ReplicateOnTag.Properties.DisabledRange
import ReplicateOnTag.Properties.Readmission
import ReplicateOnTag.Properties.ForwardProgress
import ReplicateOnTag.Properties.ScanCount
import ReplicateOnTag.Properties.LateArrivals
import ReplicateOnTag.Properties.CircuitBreaker
import ReplicateOnTag.Properties.ConsecutiveFailures
import ReplicateOnTag.Properties.ScoredOnce
import ReplicateOnTag.Properties.StaleLease
import ReplicateOnTag.Properties.OverlappingRuns
import ReplicateOnTag.Properties.EscalatedOnce
import ReplicateOnTag.Properties.NothingSkipped
import ReplicateOnTag.Properties.JobCoverage
import ReplicateOnTag.Properties.UniformQuiescence
import ReplicateOnTag.Properties.PublishedOnce
import ReplicateOnTag.Properties.OneIdentity
import ReplicateOnTag.Properties.LostEnrichment
import ReplicateOnTag.Properties.VersionDrain
import ReplicateOnTag.Properties.CheckerInterference
import ReplicateOnTag.Properties.ReadBudget
import ReplicateOnTag.Properties.ShadowedVersions
import ReplicateOnTag.Properties.CheckpointAdvance
import ReplicateOnTag.Properties.NewestRecord
import ReplicateOnTag.Properties.RecordRetention
import ReplicateOnTag.Properties.RaisedLookback
import ReplicateOnTag.Properties.RuleCoverage
import ReplicateOnTag.Properties.ReportedRouting
import ReplicateOnTag.Properties.EarlierDeletes
import ReplicateOnTag.Properties.ReportBatches
import ReplicateOnTag.Properties.IntactReports
import ReplicateOnTag.Properties.IntactManifests
import ReplicateOnTag.Properties.ConfigGrammar
import ReplicateOnTag.Properties.PoisonedState
import ReplicateOnTag.Properties.CodecRoundTrip
import ReplicateOnTag.Properties.SideMapCeiling
import ReplicateOnTag.Properties.WatermarkOrder
import ReplicateOnTag.Properties.OperationIdentity
import ReplicateOnTag.Library.SqlQuery
import ReplicateOnTag.Adapters.EventTime
import ReplicateOnTag.Adapters.JournalQueries
import ReplicateOnTag.Adapters.JournalAnswers
import ReplicateOnTag.Adapters.JournalBounds
import ReplicateOnTag.Adapters.JournalSession
import ReplicateOnTag.Adapters.JournalService
import ReplicateOnTag.Properties.JournalReads
import ReplicateOnTag.Orchestrator.WindowSession
import ReplicateOnTag.Properties.WindowReads

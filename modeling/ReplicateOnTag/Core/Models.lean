import ReplicateOnTag.Library.CanonicalJson
import ReplicateOnTag.Library.Sha256
import ReplicateOnTag.Core.Watermark

/-! Data model of the solution, with watermarks and times as instants. Settings
of the stack and metrics are not part of it. -/
namespace ReplicateOnTag

abbrev TagSet := Dict String String

structure DerivedReplicationRule where
  sourceBucket : String
  replicationConfigId : String
  ruleId : String
  tagFilter : TagSet
  destinationBucketArn : String
  keyPrefix : Option String
  deriving DecidableEq

/-- A journal record. A missing tag set is kept apart from an empty one. -/
structure TaggingOperation where
  sourceBucket : String
  objectKey : String
  resultingTagSet : Option TagSet
  sequenceNumber : String
  eventTime : Instant
  operationVersion : Option String
  lastModified : Option Instant
  storageClass : Option String
  deriving DecidableEq

namespace TaggingOperation

/-- `_NULL_VERSION`. -/
def nullVersion : String := "\x01null-version"

def tagRepr (op : TaggingOperation) : String :=
  match op.resultingTagSet with
  | none => "null"
  | some tags => CanonicalJson.dumps tags

def digest (op : TaggingOperation) : String :=
  String.ofList ((Sha256.hexdigest op.tagRepr).toList.take 16)

def logicalOperationId (op : TaggingOperation) : String :=
  "\x00".intercalate
    [op.sourceBucket, op.objectKey, op.operationVersion.getD nullVersion, op.digest]

def watermark (op : TaggingOperation) : Watermark := Watermark.toWatermark op.eventTime

/-- The identity under which an operation joins back to a manifest entry. -/
def triple (op : TaggingOperation) : String × String × Option String :=
  (op.sourceBucket, op.objectKey, op.operationVersion)

end TaggingOperation

/-- Sets of rule ids and destinations are lists without repetition. -/
structure MatchedObject where
  sourceBucket : String
  objectKey : String
  replicationConfigId : String
  matchedRuleIds : List String
  versionId : Option String
  taggedAt : Option Instant
  lastModified : Option Instant
  destinationBucketArns : List String
  deriving DecidableEq

/-- An outbound manifest row; the report columns belong to the report reader. -/
structure ManifestEntry where
  sourceBucket : String
  objectKey : String
  versionId : Option String
  deriving DecidableEq

def ManifestEntry.triple (entry : ManifestEntry) : String × String × Option String :=
  (entry.sourceBucket, entry.objectKey, entry.versionId)

inductive LeaseStatus where
  | inFlight
  deriving DecidableEq

structure ProcessedRef where
  logicalOperationId : String
  watermark : Watermark
  deriving DecidableEq

structure Lease where
  leaseId : String
  candidateMaxWatermark : Watermark
  acquiredAt : Instant
  status : LeaseStatus
  deriving DecidableEq

structure CheckpointState where
  sourceBucket : String
  lastProcessedWatermark : Watermark
  lease : Option Lease
  processedWindow : List ProcessedRef
  deriving DecidableEq

structure BucketDisableState where
  disabled : Bool
  reason : String
  disabledAt : Option Instant
  deriving DecidableEq

inductive FailureClass where
  | permanentClient
  | service
  | timeout
  | unknown
  deriving DecidableEq

inductive SubmissionStatus where
  | submitted
  | createFailed
  | submitFailed
  | skipped
  deriving DecidableEq

structure SubmissionRecord where
  replicationConfigId : String
  sourceBucket : String
  jobId : String
  manifestKey : String
  submittedAt : Instant
  status : SubmissionStatus
  watermarkLow : Watermark
  watermarkHigh : Watermark
  consecutiveFailures : Nat
  reportDiagnosed : Bool
  recoveryScored : Bool
  deriving DecidableEq

inductive CompletionState where
  | pending
  | resolved
  deriving DecidableEq

structure ConfigContext where
  replicationConfigId : String
  jobId : String
  manifestGeneratedAt : Instant
  bopsConfirmed : Bool
  deriving DecidableEq

structure TrackedObject where
  sourceBucket : String
  objectKey : String
  versionId : Option String
  configs : Dict String ConfigContext
  state : CompletionState
  resolvedAt : Option Instant
  resolutionMethod : Option String
  replicationOutcome : Option String
  taggedAt : Option Instant
  lastModified : Option Instant
  matchedRules : List String
  destinations : List String
  deriving DecidableEq

structure ScanState where
  lastScanAt : Instant
  lastScanMatchCount : Nat
  deriving DecidableEq

end ReplicateOnTag

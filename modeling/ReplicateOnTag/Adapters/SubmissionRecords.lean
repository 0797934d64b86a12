import ReplicateOnTag.Adapters.Payload
import Mathlib.Data.List.Sort

/-! Checkpoint, lease and submission-record mutators of the state store, as
functions of the payload they read. `none` is an error raised before the put. -/
namespace ReplicateOnTag.StateStore

/-- `put_checkpoint`: overlays the checkpoint keys and no other. -/
def putCheckpoint (state : CheckpointState) (stored : Option Payload) : Payload :=
  { payloadOrDefault state.sourceBucket stored with
    sourceBucket := state.sourceBucket
    lastProcessedWatermark := state.lastProcessedWatermark
    lease := state.lease
    processedWindow := state.processedWindow }

/-- `acquire_lease` reads the checkpoint, then `put_checkpoint` reads again. -/
def acquireLease (now : Instant) (sourceBucket : String) (lease : Lease)
    (first second : Option Payload) : Option Payload := do
  let state ← getCheckpoint now sourceBucket first
  return putCheckpoint { state with lease := some lease } second

def releaseLease (now : Instant) (sourceBucket : String)
    (submittedRefs : Option (List ProcessedRef))
    (lookback : Lookback) (candidateMaxWatermark : Option Watermark)
    (first second : Option Payload) : Option Payload := do
  let state ← getCheckpoint now sourceBucket first
  return putCheckpoint
    (CheckpointLogic.advanceCheckpoint state submittedRefs lookback candidateMaxWatermark) second

section Records

def loadRecord (records : Dict String SubmissionRecord) (stored : StoredRecord) :
    Dict String SubmissionRecord :=
  match stored with
  | .unreadable => records
  | .readable record => if record.jobId = "" then records else records.insert record.jobId record

/-- `_submission_records_by_job_id`: unreadable entries and empty ids are dropped. -/
def submissionRecordsByJobId (payload : Payload) : Dict String SubmissionRecord :=
  payload.submissionRecords.values.foldl loadRecord .empty

def getSubmissionRecords (stored : Option Payload) : Dict String SubmissionRecord :=
  match stored with
  | none => .empty
  | some payload => submissionRecordsByJobId payload

/-- `SUBMISSION_RECORD_CEILING_HEADROOM`. -/
def submissionRecordCeilingHeadroom : Nat := 20

def submissionRecordCeiling (maxConcurrentJobs : Nat) : Nat :=
  maxConcurrentJobs + submissionRecordCeilingHeadroom

/-- `_discard_alert_suppression`. -/
def discardAlertSuppression (alerted removed : List String) : List String :=
  alerted.filter fun entry => entry ∉ removed

/-- A record settles once its job is terminal and diagnosed, and merged when
completion tracking is on. -/
def isSettled (payload : Payload) (keepJobId : String) (terminalJobIds : List String)
    (completionTrackingEnabled : Bool) (jobId : String) (record : SubmissionRecord) : Bool :=
  jobId ≠ keepJobId && jobId ∈ terminalJobIds && record.reportDiagnosed &&
    (!completionTrackingEnabled || jobId ∈ payload.completionProcessedJobIds)

/-- `_prune_settled_records`. -/
def pruneSettledRecords (records : Dict String SubmissionRecord) (payload : Payload)
    (keepJobId : String) (terminalJobIds : List String) (completionTrackingEnabled : Bool) :
    Dict String SubmissionRecord :=
  records.filter fun jobId record =>
    !isSettled payload keepJobId terminalJobIds completionTrackingEnabled jobId record

/-- Terminal jobs are evicted before running ones, and older before newer. -/
def evictsBefore (terminalJobIds : List String) (first second : String × SubmissionRecord) : Prop :=
  (first.1 ∈ terminalJobIds ∧ second.1 ∉ terminalJobIds) ∨
    ((first.1 ∈ terminalJobIds ↔ second.1 ∈ terminalJobIds) ∧
      first.2.submittedAt ≤ second.2.submittedAt)

instance (terminalJobIds : List String) : DecidableRel (evictsBefore terminalJobIds) :=
  fun first second => inferInstanceAs (Decidable
    ((first.1 ∈ terminalJobIds ∧ second.1 ∉ terminalJobIds) ∨
      ((first.1 ∈ terminalJobIds ↔ second.1 ∈ terminalJobIds) ∧
        first.2.submittedAt ≤ second.2.submittedAt)))

def evictedJobIds (records : Dict String SubmissionRecord) (keepJobId : String)
    (terminalJobIds : List String) (ceiling : Nat) : List String :=
  (((records.entries.filter fun entry => entry.1 ≠ keepJobId).insertionSort
    (evictsBefore terminalJobIds)).take (records.size - ceiling)).map Prod.fst

/-- `_evict_above_ceiling`. -/
def evictAboveCeiling (records : Dict String SubmissionRecord) (keepJobId : String)
    (terminalJobIds : List String) (ceiling : Nat) : Dict String SubmissionRecord :=
  let evicted := evictedJobIds records keepJobId terminalJobIds ceiling
  records.filter fun jobId _ => jobId ∉ evicted

/-- The records left by one `record_submission`. -/
def retainedRecords (payload : Payload) (submission : SubmissionRecord)
    (terminalJobIds : List String) (completionTrackingEnabled : Bool)
    (maxConcurrentJobs : Option Nat) : Dict String SubmissionRecord :=
  let records := (submissionRecordsByJobId payload).insert submission.jobId submission
  let pruned :=
    pruneSettledRecords records payload submission.jobId terminalJobIds completionTrackingEnabled
  match maxConcurrentJobs with
  | none => pruned
  | some limit =>
      evictAboveCeiling pruned submission.jobId terminalJobIds (submissionRecordCeiling limit)

def recordSubmission (submission : SubmissionRecord) (terminalJobIds : List String)
    (completionTrackingEnabled : Bool) (maxConcurrentJobs : Option Nat) (stored : Option Payload) :
    Payload :=
  let payload := payloadOrDefault submission.sourceBucket stored
  let before := (submissionRecordsByJobId payload).keys
  let records :=
    retainedRecords payload submission terminalJobIds completionTrackingEnabled maxConcurrentJobs
  { payload with
    completionReportAlertedConfigs :=
      discardAlertSuppression payload.completionReportAlertedConfigs
        (before.filter fun jobId => jobId ∉ records.keys)
    submissionRecords := records.mapValues fun _ record => .readable record
    submissionRecord := none }

def disableBucket (sourceBucket reason : String) (now : Instant)
    (stored : Option Payload) : Payload :=
  let payload := payloadOrDefault sourceBucket stored
  { payload with
    disabled := true
    disabledReason := some reason
    disabledAt := some now
    completionReportAlertedConfigs :=
      discardAlertSuppression payload.completionReportAlertedConfigs
        (submissionRecordsByJobId payload).keys
    submissionRecords := .empty
    submissionRecord := none }

/-- Flags are only ever set. -/
def setFlags (reportDiagnosed recoveryScored : Bool)
    (record : SubmissionRecord) : SubmissionRecord :=
  { record with
    reportDiagnosed := record.reportDiagnosed || reportDiagnosed
    recoveryScored := record.recoveryScored || recoveryScored }

def markStored (jobId : String) (reportDiagnosed recoveryScored : Bool) :
    StoredRecord → StoredRecord
  | .unreadable => .unreadable
  | .readable record =>
      if record.jobId = jobId then .readable (setFlags reportDiagnosed recoveryScored record)
      else .readable record

def markReportDiagnosed (sourceBucket jobId : String) (reportDiagnosed recoveryScored : Bool)
    (stored : Option Payload) : Payload :=
  let payload := payloadOrDefault sourceBucket stored
  { payload with
    submissionRecords := payload.submissionRecords.mapValues fun _ record =>
      markStored jobId reportDiagnosed recoveryScored record }

end Records

section Streaks

def incrementSubmissionFailureStreak (sourceBucket bucketName : String) (stored : Option Payload) :
    Nat × Payload :=
  let payload := payloadOrDefault sourceBucket stored
  let newValue := (payload.submissionFailureStreaks.get? bucketName).getD 0 + 1
  (newValue, { payload with
    submissionFailureStreaks := payload.submissionFailureStreaks.insert bucketName newValue })

def clearSubmissionFailureStreak (sourceBucket bucketName : String)
    (stored : Option Payload) : Payload :=
  let payload := payloadOrDefault sourceBucket stored
  { payload with submissionFailureStreaks := payload.submissionFailureStreaks.erase bucketName }

def recordJournalUnavailableAlert (sourceBucket bucketName : String) (now : Instant)
    (stored : Option Payload) : Payload :=
  let payload := payloadOrDefault sourceBucket stored
  { payload with
    journalUnavailableAlerts := payload.journalUnavailableAlerts.insert bucketName now }

end Streaks
end ReplicateOnTag.StateStore

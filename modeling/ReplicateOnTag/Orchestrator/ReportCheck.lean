import ReplicateOnTag.Library.AnnounceOnce
import ReplicateOnTag.Orchestrator.ReportAccess

/-! `check_report_handler` for one bucket: which submission records it escalates,
and its sweep over them, one look at the object or one write at a time. -/
namespace ReplicateOnTag.Orchestrator
open StateStore AnnounceOnce JobRecovery

/-- `_REPORT_OVERDUE_THRESHOLD`: one hour. -/
def reportOverdueThreshold : Int := 60 * 60 * 1000000

def isReportOverdue (terminalAt now : Instant) : Bool := reportOverdueThreshold < now - terminalAt

/-- `_REPORT_UNCONSUMED_THRESHOLD`: 48 hours. -/
def reportUnconsumedThreshold : Int := 48 * 60 * 60 * 1000000

def isReportUnconsumedOverdue (reportWrittenAt : Option Instant) (now : Instant) : Bool :=
  match reportWrittenAt with
  | none => false
  | some writtenAt => reportUnconsumedThreshold < now - writtenAt

inductive AlertReason where
  | missing
  | presentButUnconsumed
  deriving DecidableEq

/-- What one check of a bucket meets. One instant stands for its clock. -/
structure CheckEnv where
  now : Instant
  /-- The clients of the bucket's region were created. -/
  starts : Bool
  readsAlerted : Bool
  readsRecords : Bool
  readsProcessed : String → Bool
  describeJob : String → Option JobDescription
  /-- `report_manifest_written_at` by prefix and job; none when it raises. -/
  reportManifestWrittenAt : String → String → Option (Option Instant)
  logs : String → Bool
  /-- The topic took the message, or there is no topic. -/
  publishes : String → Bool

/-- From `describe_job` on: why the record's job is to be escalated, if it is. -/
def alertReason (bucketName : String) (env : CheckEnv)
    (rec : SubmissionRecord) : Option AlertReason :=
  match env.describeJob rec.jobId with
  | none => none
  | some job =>
      if !isTerminalStatus (some job.status) then none
      else if job.tasksSucceeded = some 0 && job.tasksFailed = some 0 then none
      else
        match job.terminationDate <|> job.creationTime,
          env.reportManifestWrittenAt
            (completionReportPrefix bucketName rec.manifestKey) rec.jobId with
        | none, _ | _, none => none
        | some _, some (some writtenAt) =>
            if isReportUnconsumedOverdue (some writtenAt) env.now
              then some .presentButUnconsumed else none
        | some terminalAt, some none =>
            if isReportOverdue terminalAt env.now then some .missing else none

/-- The record would be escalated, if it is neither suppressed nor processed. -/
def EscalationDue (bucketName : String) (env : CheckEnv) (rec : SubmissionRecord) : Prop :=
  rec.jobId ≠ "" ∧ env.readsProcessed rec.jobId = true ∧ (alertReason bucketName env rec).isSome ∧
    env.logs rec.jobId = true

instance : Decidable (EscalationDue bucketName env rec) :=
  inferInstanceAs (Decidable (_ ∧ _ ∧ _ ∧ _))

abbrev Check := Announcer SubmissionRecord String

/-- One look or write of a check: where it stands then, what it puts, and what it
leaves on record. -/
structure CheckMove (κ : Type) where
  check : Check
  put : Option StateOp
  note : Option (Note κ SubmissionRecord String)

/-- What becomes of the mark it puts: an answer that is lost leaves the mark in
the object and not in `alerted`. -/
def markMove (k : κ) (alerted : List String) (jobId : String)
    (todo : List SubmissionRecord) : WriteReply → CheckMove κ
  | .refused => ⟨.looking alerted todo, none, none⟩
  | .served => ⟨.looking (alerted.insert jobId) todo, some (.addAlertedConfig jobId),
      some (.marked k jobId)⟩
  | .lost => ⟨.looking alerted todo, some (.addAlertedConfig jobId), some (.marked k jobId)⟩

/-- The next look or write of a check, on an object of this content. -/
def checkMove (bucketName : String) (env : CheckEnv) (k : κ) (content : Option Payload)
    (reply : WriteReply) :
    Check → CheckMove κ
  | .idle =>
      if !env.starts || !env.readsAlerted then ⟨.through, none, none⟩
      else ⟨.begun (alertedConfigs content), none, some (.began k (alertedConfigs content))⟩
  | .begun alerted =>
      if !env.readsRecords then ⟨.through, none, none⟩
      else
        let priorSubmissions := (getSubmissionRecords content).values
        ⟨.looking alerted priorSubmissions, none, some (.read k priorSubmissions)⟩
  | .looking _ [] => ⟨.through, none, none⟩
  | .looking alerted (rec :: todo) =>
      if rec.jobId = "" || rec.jobId ∈ alerted || !env.readsProcessed rec.jobId ||
          completionJobExists content rec.jobId then ⟨.looking alerted todo, none, none⟩
      else
        match alertReason bucketName env rec with
        | none => ⟨.looking alerted todo, none, none⟩
        | some _ =>
            if !env.logs rec.jobId then ⟨.looking alerted todo, none, none⟩
            else if !env.publishes rec.jobId then
              ⟨.looking alerted todo, none, some (.announced k rec.jobId)⟩
            else ⟨.marking alerted rec.jobId todo, none, some (.announced k rec.jobId)⟩
  | .marking alerted jobId todo => markMove k alerted jobId todo reply
  | .through => ⟨.through, none, none⟩

end ReplicateOnTag.Orchestrator

import ReplicateOnTag.Library.HeldToken
import ReplicateOnTag.Orchestrator.ProcessBucket

/-! A run as a client of the state object: its reads, and the writes that
`StateWriter` makes on the token it holds, in the order the run makes them. -/
namespace ReplicateOnTag.Orchestrator
open StateStore JobRecovery HeldToken

def WriteReply.transport : WriteReply → Transport
  | .served => .clean
  | .refused => .blocked
  | .lost => .unanswered

abbrev RunClient := Client StateOp Payload

namespace RunClient
variable (settings : Settings) (env : RunEnv)

def write (site : WriteSite) (op : StateOp) : RunClient Bool :=
  .put op (env.writes site).transport fun ok _ => .done ok

def writeBestEffort (site : WriteSite) (op : StateOp) : RunClient Unit :=
  .put op (env.writes site).transport fun _ _ => .done ()

section Jobs

def clearAlert (jobId : String) : RunClient Unit :=
  if env.reads (.alertedConfigs jobId) then
    .look fun stored =>
      if jobId ∈ alertedConfigs stored then
        writeBestEffort env (.clearAlerted jobId) (.clearAlertedConfig jobId)
      else .done ()
  else .done ()

def mergeReport (jobId : String) (job : JobDescription) : RunClient Unit :=
  match completionReportOf env jobId job, job.creationTime with
  | some report, some createdAt => do
      let merged ← write env (.merge jobId)
        (.mergeCompletionReport report settings.bucketName jobId createdAt none)
      if merged then clearAlert env jobId else return ()
  | _, _ => return ()

/-- `on_job_terminal`. -/
def onJobTerminal (jobId : String) (job : JobDescription) : RunClient Unit :=
  if !settings.completionTracking || !env.reads (.completionJob jobId) then .done ()
  else
    .look fun stored =>
      if completionJobExists stored jobId then .done () else mergeReport settings env jobId job

def diagnoseReport (rec : SubmissionRecord) (job : JobDescription) : RunClient Unit :=
  if !rec.reportDiagnosed && (completionReportOf env rec.jobId job).isSome then
    writeBestEffort env (.diagnosed rec.jobId) (.markReportDiagnosed rec.jobId true false)
  else .done ()

def settleReport (rec : SubmissionRecord) : RunClient Unit :=
  match viewJob env rec.jobId with
  | .terminal job => do
      onJobTerminal settings env rec.jobId job
      diagnoseReport env rec job
  | _ => return ()

def describePriorJobs : List SubmissionRecord → JobCheck → RunClient JobCheck
  | [], check => return check
  | rec :: rest, check =>
      if rec.jobId = "" then describePriorJobs rest check
      else do
        settleReport settings env rec
        describePriorJobs rest (check.note settings env rec)

/-- `_commit_recovery_scored`. -/
def commitRecoveryScored : List String → RunClient Unit
  | [] => return ()
  | jobId :: rest => do
      writeBestEffort env (.scored jobId) (.markReportDiagnosed jobId false true)
      commitRecoveryScored rest

/-- `_disable_bucket`. -/
def disable (reason : String) : RunClient Unit :=
  writeBestEffort env .disable (.disableBucket reason env.now)

/-- `_apply_recovery_plan`. -/
def applyRecoveryPlan (plan : RecoveryPlan) (state : CheckpointState) :
    RunClient (Option CheckpointState) :=
  match plan.disableReason, plan.rollbackTo with
  | some reason, _ => do
      disable env reason
      return none
  | none, some target => return some (rollback target state)
  | none, none => return some state

def priorSubmissions : RunClient (List SubmissionRecord) :=
  if env.reads .submissionRecords then
    .look fun stored => .done (getSubmissionRecords stored).values
  else .done []

structure Prepared where
  check : JobCheck
  plan : RecoveryPlan
  checkpoint : Option CheckpointState

/-- What follows the checkpoint read in `_prepare_state_and_recovery`. -/
def prepareStateAndRecovery (state : CheckpointState) : RunClient Prepared := do
  let prior ← priorSubmissions env
  let check ← describePriorJobs settings env prior .empty
  let plan := planRecovery prior check.outcomes settings.bucketName settings.maxBatchJobFailures
  if check.anyCheckFailed then
    match ← applyRecoveryPlan env plan state with
    | none =>
        commitRecoveryScored env check.newlyScoredJobIds
        return ⟨check, plan, none⟩
    | some rolledBack => return ⟨check, plan, some rolledBack⟩
  else return ⟨check, plan, some state⟩

end Jobs

section Window

/-- An alert whose suppression cannot be read is due. -/
def journalAlertDue : RunClient Bool :=
  if env.reads .journalAlert then
    .look fun stored => .done (journalUnavailableAlertDue settings env stored)
  else .done true

/-- `_escalate_journal_unavailable`. -/
def escalateJournalUnavailable : RunClient Unit := do
  let due ← journalAlertDue settings env
  if settings.alertsJournalUnavailable && due && env.alertDelivered then
    writeBestEffort env .journalAlert (.recordJournalUnavailableAlert settings.bucketName env.now)
  else return ()

/-- `_read_journal_window`. -/
def readJournalWindow (checkpointWatermark : Watermark) : RunClient (Option JournalWindow) :=
  let upTo := journalUntil settings env checkpointWatermark
  if !env.queries .boundary || upTo.any (fun bound => bound ≤ checkpointWatermark) then return none
  else
    match sinceTimestamp settings env checkpointWatermark with
    | none => return none
    | some (since, shortened) =>
        if !env.queries .journal then do
          if env.journalUnavailable then escalateJournalUnavailable settings env
          return none
        else
          let (ops, errors) := AthenaJournal.readJournal env.journal settings.bucketName since upTo
          return some ⟨ops, errors, since, upTo, shortened⟩

end Window

section Lease
open ManifestGenerator AthenaJournal

def recordScan (matchCount : Nat) : RunClient Unit :=
  if settings.completionTracking then
    writeBestEffort env .scan (.recordScanResult settings.bucketName env.now matchCount)
  else return ()

def storeTimestamps (entries : Entries) : RunClient Unit :=
  let timestamps := getTimestamps entries settings.bucketName
  let routing := getRouting entries settings.bucketName
  if timestamps.entries.isEmpty && routing.entries.isEmpty then return ()
  else writeBestEffort env .timestamps (.storeCompletionTimestamps timestamps (some routing))

/-- `_build_manifest`. -/
def buildManifest (entries : Entries)
    (window : JournalWindow) : RunClient (Option WrittenManifest) :=
  if !env.queries .preflight then return none
  else do
    recordScan settings env
      (preflightCount env.journal settings.bucketName settings.rules window.since window.upTo)
    match keptEntries settings env entries window.since, env.manifestKey with
    | some kept, some key => return some ⟨key, kept⟩
    | _, _ => return none

/-- `_escalate_submission_failure`. The streak counts one when its write fails. -/
def escalateSubmissionFailure : RunClient Bool :=
  .put (.incrementSubmissionFailureStreak settings.bucketName)
    (env.writes .incrementStreak).transport
    fun ok stored =>
      let streak :=
        if ok then
          (incrementSubmissionFailureStreak settings.bucketName settings.bucketName stored).1
        else 1
      if streak < settings.maxBatchJobFailures then return false
      else do
        disable env (submissionDisableReason settings.bucketName streak)
        return true

/-- `_submit_job`. -/
def submitJob (manifest : WrittenManifest) (bucketConsecutiveFailures : Nat)
    (checkpointWatermark : Watermark) (candidateHwm : Option Watermark) :
    RunClient SubmissionOutcome :=
  let submission := submitBatchJob env manifest.objectCount
  match submission.jobId with
  | some jobId => do
      writeBestEffort env .clearStreak (.clearSubmissionFailureStreak settings.bucketName)
      return ⟨true, some (submissionRecord settings env jobId manifest.key bucketConsecutiveFailures
        checkpointWatermark candidateHwm), false⟩
  | none =>
      if submission.failureClass = some .permanentClient then do
        let disabled ← escalateSubmissionFailure settings env
        return ⟨false, none, disabled⟩
      else return ⟨false, none, false⟩

/-- What the lease body hands on. No outcome means the bucket is skipped. -/
structure Leased where
  outcome : Option SubmissionOutcome
  submittedRefs : Option (List ProcessedRef)

/-- `_leased_manifest_and_submit`. -/
def leasedManifestAndSubmit (selected : Selected) (window : JournalWindow)
    (bucketConsecutiveFailures : Nat) (checkpointWatermark : Watermark) : RunClient Leased := do
  let entries := matchAndAccumulate selected.dedupedOps settings.rules
  if !hasAccumulatedEntries entries settings.bucketName && selected.candidateHwm.isNone then
    recordScan settings env 0
    return ⟨none, none⟩
  else
    storeTimestamps settings env entries
    match ← buildManifest settings env entries window with
    | none => return ⟨none, none⟩
    | some manifest =>
        let outcome ← submitJob settings env manifest bucketConsecutiveFailures checkpointWatermark
          selected.candidateHwm
        if outcome.bucketDisabled then return ⟨none, none⟩
        else
          return ⟨some outcome,
            if outcome.succeeded then
              some (JournalDedup.buildSubmittedRefs selected.dedupedOps manifest.keptTriples)
            else none⟩

/-- `_persist_submission`. -/
def persistSubmission (lastSubmission : Option SubmissionRecord) (terminalJobIds : List String) :
    RunClient Unit :=
  match lastSubmission with
  | none => return ()
  | some submission =>
      writeBestEffort env .persist
        (.recordSubmission submission terminalJobIds settings.completionTracking
          (some settings.maxConcurrentJobs))

/-- What follows the lease scope. -/
def concludeRun (check : JobCheck) (outcome : Option SubmissionOutcome) (released : Bool) :
    RunClient Unit :=
  match outcome with
  | none => return ()
  | some outcome => do
      if released then persistSubmission settings env outcome.lastSubmission check.terminalJobIds
      if outcome.succeeded then commitRecoveryScored env check.newlyScoredJobIds

/-- The lease scope around the body; without a candidate there is no lease. -/
def runSelected (prep : Prepared) (checkpoint : CheckpointState) (window : JournalWindow)
    (selected : Selected) : RunClient Unit :=
  let body := leasedManifestAndSubmit settings env selected window prep.plan.consecutiveFailures
    checkpoint.lastProcessedWatermark
  match selected.candidateHwm with
  | none => do
      let leased ← body
      concludeRun settings env prep.check leased.outcome false
  | some candidateHwm => do
      let acquired ← write env .acquire (.acquireLease env.now (newLease env candidateHwm))
      if acquired then
        let leased ← body
        let released ← write env .release
          (.releaseLease env.now leased.submittedRefs settings.lookback (some candidateHwm))
        concludeRun settings env prep.check leased.outcome released

end Lease

/-- `_process_bucket` from the checkpoint read on. -/
def processBucket (state : CheckpointState) : RunClient Unit := do
  let prep ← prepareStateAndRecovery settings env state
  match prep.checkpoint with
  | none => return ()
  | some checkpoint =>
      if settings.maxConcurrentJobs ≤ prep.check.outstanding.length then return ()
      else
        match ← readJournalWindow settings env checkpoint.lastProcessedWatermark with
        | none => return ()
        | some window =>
            runSelected settings env prep checkpoint window
              (selectEligible settings window.ops checkpoint)

/-- A bucket that is disabled, or whose flag cannot be read, costs nothing. The
token held is that of the checkpoint read. -/
def runBucket : Opening StateOp Payload Unit :=
  if !env.reads .disableState then .quit ()
  else
    .look fun stored =>
      if (getDisableState stored).disabled || !env.starts || !env.reads .checkpoint then .quit ()
      else
        .hold fun stored =>
          match getCheckpoint env.now settings.bucketName stored with
          | none => .done ()
          | some state => processBucket settings env state

end RunClient
end ReplicateOnTag.Orchestrator

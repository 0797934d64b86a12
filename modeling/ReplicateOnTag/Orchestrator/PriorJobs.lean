import ReplicateOnTag.Core.JobRecovery
import ReplicateOnTag.Orchestrator.Environment

/-! The check of a bucket's prior jobs and the application of its recovery
plan. Notifications and log entries are not modelled. -/
namespace ReplicateOnTag.Orchestrator
open StateStore JobRecovery

structure InFlightJob where
  jobId : String
  status : String
  createdAt : Option Instant
  submittedAt : Instant
  deriving DecidableEq

/-- `_JobCheckResult`. -/
structure JobCheck where
  outcomes : List JobOutcome
  outstanding : List InFlightJob
  terminalJobIds : List String
  newlyScoredJobIds : List String
  deriving DecidableEq

namespace JobCheck

def empty : JobCheck := ⟨[], [], [], []⟩

def anyCheckFailed (check : JobCheck) : Bool := check.outcomes.any isEffectiveFailure

end JobCheck

def unknownJobStatus : String := "Unknown"

/-- `_UNDESCRIBABLE_JOB_MAX_AGE`: 14 days. -/
def undescribableJobMaxAge : Int := 14 * 24 * 60 * 60 * 1000000

inductive JobView where
  | undescribable
  | running (job : JobDescription)
  | terminal (job : JobDescription)
  deriving DecidableEq

def viewJob (env : RunEnv) (jobId : String) : JobView :=
  match env.describeJob jobId with
  | none => .undescribable
  | some job => if isTerminalStatus (some job.status) then .terminal job else .running job

def toOutcome (settings : Settings) (rec : SubmissionRecord) (job : JobDescription) : JobOutcome :=
  { configId := settings.bucketName
    jobId := rec.jobId
    status := job.status
    watermarkLow := rec.watermarkLow
    watermarkHigh := rec.watermarkHigh
    consecutiveFailures := rec.consecutiveFailures
    tasksSucceeded := job.tasksSucceeded
    tasksFailed := job.tasksFailed }

/-- A job that cannot be described stops counting once its record is old. -/
def inFlightJob (env : RunEnv) (rec : SubmissionRecord) : Option InFlightJob :=
  match viewJob env rec.jobId with
  | .undescribable =>
      if undescribableJobMaxAge < env.now - rec.submittedAt then none
      else some ⟨rec.jobId, unknownJobStatus, none, rec.submittedAt⟩
  | .running job => some ⟨rec.jobId, job.status, job.creationTime, rec.submittedAt⟩
  | .terminal _ => none

/-- Terminal jobs are scored once: an outcome is collected while the record's
flag is not set. -/
def scoredOutcome (settings : Settings) (env : RunEnv)
    (rec : SubmissionRecord) : Option JobOutcome :=
  match viewJob env rec.jobId with
  | .terminal job => if rec.recoveryScored then none else some (toOutcome settings rec job)
  | _ => none

def terminalJobId (env : RunEnv) (rec : SubmissionRecord) : Option String :=
  match viewJob env rec.jobId with
  | .terminal _ => some rec.jobId
  | _ => none

def JobCheck.note (settings : Settings) (env : RunEnv) (check : JobCheck) (rec : SubmissionRecord) :
    JobCheck :=
  let scored := scoredOutcome settings env rec
  { outcomes := check.outcomes ++ scored.toList
    outstanding := check.outstanding ++ (inFlightJob env rec).toList
    terminalJobIds := check.terminalJobIds ++ (terminalJobId env rec).toList
    newlyScoredJobIds := check.newlyScoredJobIds ++ (scored.map JobOutcome.jobId).toList }

section Reports

/-- `_completion_report`: a job with no task has no report to read. -/
def completionReportOf (env : RunEnv) (jobId : String) (job : JobDescription) :
    Option BopsCompletionReport :=
  match job.tasksSucceeded, job.tasksFailed with
  | some succeeded, some failed =>
      if succeeded + failed = 0 then
        (job.terminationDate <|> job.creationTime).map fun terminalAt => ⟨terminalAt, []⟩
      else env.completionReport jobId
  | _, _ => none

def alertedConfigs (stored : Option Payload) : List String :=
  (stored.map Payload.completionReportAlertedConfigs).getD []

def completionJobExists (stored : Option Payload) (jobId : String) : Bool :=
  match stored with
  | none => false
  | some payload => jobId ∈ payload.completionProcessedJobIds

def clearAlert (settings : Settings) (env : RunEnv) (jobId : String) (stored : Option Payload) :
    Option Payload :=
  if env.reads (.alertedConfigs jobId) && jobId ∈ alertedConfigs stored then
    writeBestEffort settings env (.clearAlerted jobId) (.clearAlertedConfig jobId) stored
  else stored

/-- `on_job_terminal`. -/
def onJobTerminal (settings : Settings) (env : RunEnv) (jobId : String) (job : JobDescription)
    (stored : Option Payload) : Option Payload :=
  if !settings.completionTracking || !env.reads (.completionJob jobId) then stored
  else if completionJobExists stored jobId then stored
  else
    match completionReportOf env jobId job, job.creationTime with
    | some report, some createdAt =>
        let merged := write settings env (.merge jobId)
          (.mergeCompletionReport report settings.bucketName jobId createdAt none) stored
        if merged.ok then clearAlert settings env jobId merged.stored else merged.stored
    | _, _ => stored

def diagnoseReport (settings : Settings) (env : RunEnv) (rec : SubmissionRecord)
    (job : JobDescription) (stored : Option Payload) : Option Payload :=
  if !rec.reportDiagnosed && (completionReportOf env rec.jobId job).isSome then
    writeBestEffort settings env (.diagnosed rec.jobId)
      (.markReportDiagnosed rec.jobId true false) stored
  else stored

def settleReport (settings : Settings) (env : RunEnv) (rec : SubmissionRecord)
    (stored : Option Payload) : Option Payload :=
  match viewJob env rec.jobId with
  | .terminal job => diagnoseReport settings env rec job
      (onJobTerminal settings env rec.jobId job stored)
  | _ => stored

end Reports

def checkJob (settings : Settings) (env : RunEnv) (acc : JobCheck × Option Payload)
    (rec : SubmissionRecord) : JobCheck × Option Payload :=
  if rec.jobId = "" then acc
  else (acc.1.note settings env rec, settleReport settings env rec acc.2)

def describePriorJobs (settings : Settings) (env : RunEnv) (prevSubmissions : List SubmissionRecord)
    (stored : Option Payload) : JobCheck × Option Payload :=
  prevSubmissions.foldl (checkJob settings env) (.empty, stored)

/-- `_commit_recovery_scored`. -/
def commitRecoveryScored (settings : Settings) (env : RunEnv) (jobIds : List String)
    (stored : Option Payload) : Option Payload :=
  jobIds.foldl (fun stored jobId =>
    writeBestEffort settings env (.scored jobId)
      (.markReportDiagnosed jobId false true) stored) stored

/-- `_disable_bucket`. -/
def disable (settings : Settings) (env : RunEnv) (reason : String) (stored : Option Payload) :
    Option Payload :=
  writeBestEffort settings env .disable (.disableBucket reason env.now) stored

/-- The in-memory rollback. Nothing writes it to the state object. -/
def rollback (target : Watermark) (state : CheckpointState) : CheckpointState :=
  { state with
    lastProcessedWatermark := target
    processedWindow := state.processedWindow.filter fun ref => ref.watermark ≤ target }

/-- `_apply_recovery_plan`; no checkpoint when the threshold is breached. -/
def applyRecoveryPlan (settings : Settings) (env : RunEnv) (plan : RecoveryPlan)
    (state : CheckpointState) (stored : Option Payload) : Option CheckpointState × Option Payload :=
  match plan.disableReason, plan.rollbackTo with
  | some reason, _ => (none, disable settings env reason stored)
  | none, some target => (some (rollback target state), stored)
  | none, none => (some state, stored)

structure Preparation where
  check : JobCheck
  plan : RecoveryPlan
  /-- As read, before any rollback. -/
  found : CheckpointState
  /-- What the rest of the run works on; none when the breaker tripped. -/
  checkpoint : Option CheckpointState
  stored : Option Payload

/-- The records the run looks at; a failed read skips recovery. -/
def priorSubmissions (env : RunEnv) (stored : Option Payload) : List SubmissionRecord :=
  if env.reads .submissionRecords then (getSubmissionRecords stored).values else []

def recoveryPlan (settings : Settings) (env : RunEnv) (stored : Option Payload) : RecoveryPlan :=
  let prior := priorSubmissions env stored
  planRecovery prior (describePriorJobs settings env prior stored).1.outcomes settings.bucketName
    settings.maxBatchJobFailures

def prepareStateAndRecovery (settings : Settings) (env : RunEnv) (stored : Option Payload) :
    Option Preparation :=
  if !env.reads .checkpoint then none
  else
    match getCheckpoint env.now settings.bucketName stored with
    | none => none
    | some state =>
        let (check, settled) := describePriorJobs settings env (priorSubmissions env stored) stored
        let plan := recoveryPlan settings env stored
        if check.anyCheckFailed then
          match applyRecoveryPlan settings env plan state settled with
          | (none, after) =>
              some ⟨check, plan, state, none,
                commitRecoveryScored settings env check.newlyScoredJobIds after⟩
          | (some rolledBack, after) => some ⟨check, plan, state, some rolledBack, after⟩
        else some ⟨check, plan, state, some state, settled⟩

section Loop
variable {settings : Settings} {env : RunEnv}

/-- The loop visits each record once: what it collects does not depend on the
writes it makes on the way. -/
theorem foldl_checkJob (prior : List SubmissionRecord) (check : JobCheck)
    (stored : Option Payload) :
    (prior.foldl (checkJob settings env) (check, stored)).1 =
      { outcomes := check.outcomes ++
          (prior.filter (·.jobId ≠ "")).filterMap (scoredOutcome settings env)
        outstanding := check.outstanding ++
          (prior.filter (·.jobId ≠ "")).filterMap (inFlightJob env)
        terminalJobIds := check.terminalJobIds ++
          (prior.filter (·.jobId ≠ "")).filterMap (terminalJobId env)
        newlyScoredJobIds := check.newlyScoredJobIds ++
          ((prior.filter (·.jobId ≠ "")).filterMap (scoredOutcome settings env)).map
            JobOutcome.jobId } := by
  induction prior generalizing check stored with
  | nil => simp
  | cons rec rest ih =>
    rw [List.foldl_cons]
    by_cases unnamed : rec.jobId = ""
    · rw [checkJob, if_pos unnamed, ih]
      simp [unnamed]
    · rw [checkJob, if_neg unnamed, ih]
      have kept : decide (rec.jobId ≠ "") = true := decide_eq_true unnamed
      simp only [JobCheck.note, List.filter_cons, kept, if_true, List.filterMap_cons]
      cases scoredOutcome settings env rec <;> cases inFlightJob env rec <;>
        cases terminalJobId env rec <;> simp

theorem describePriorJobs_outcomes (prior : List SubmissionRecord) (stored : Option Payload) :
    (describePriorJobs settings env prior stored).1.outcomes =
      (prior.filter (·.jobId ≠ "")).filterMap (scoredOutcome settings env) := by
  rw [describePriorJobs, foldl_checkJob]
  rfl

theorem describePriorJobs_newlyScored (prior : List SubmissionRecord) (stored : Option Payload) :
    (describePriorJobs settings env prior stored).1.newlyScoredJobIds =
      (describePriorJobs settings env prior stored).1.outcomes.map JobOutcome.jobId := by
  rw [describePriorJobs, foldl_checkJob]
  rfl

theorem scoredOutcome_eq_some :
    scoredOutcome settings env rec = some outcome ↔
      ∃ job, viewJob env rec.jobId = .terminal job ∧ rec.recoveryScored = false ∧
        outcome = toOutcome settings rec job := by
  rw [scoredOutcome]
  cases viewed : viewJob env rec.jobId with
  | terminal job =>
    cases scored : rec.recoveryScored <;> simp [eq_comm]
  | undescribable | running => simp

/-- The outcomes are those of the unscored records whose job is terminal. -/
theorem mem_outcomes {prior : List SubmissionRecord} {stored : Option Payload} :
    outcome ∈ (describePriorJobs settings env prior stored).1.outcomes ↔
      ∃ rec ∈ prior, rec.jobId ≠ "" ∧ rec.recoveryScored = false ∧
        ∃ job, viewJob env rec.jobId = .terminal job ∧ outcome = toOutcome settings rec job := by
  rw [describePriorJobs_outcomes]
  simp only [List.mem_filterMap, List.mem_filter, decide_eq_true_eq, scoredOutcome_eq_some]
  constructor
  · rintro ⟨rec, ⟨member, named⟩, job, viewed, unscored, rfl⟩
    exact ⟨rec, member, named, unscored, job, viewed, rfl⟩
  · rintro ⟨rec, member, named, unscored, job, viewed, rfl⟩
    exact ⟨rec, ⟨member, named⟩, job, viewed, unscored, rfl⟩

theorem mem_terminalJobIds {prior : List SubmissionRecord} {stored : Option Payload} :
    jobId ∈ (describePriorJobs settings env prior stored).1.terminalJobIds ↔
      ∃ rec ∈ prior, rec.jobId ≠ "" ∧ rec.jobId = jobId ∧
        ∃ job, viewJob env rec.jobId = .terminal job := by
  rw [describePriorJobs, foldl_checkJob]
  simp only [JobCheck.empty, List.nil_append, List.mem_filterMap, List.mem_filter,
    decide_eq_true_eq]
  constructor
  · rintro ⟨rec, ⟨member, named⟩, found⟩
    rw [terminalJobId] at found
    cases viewed : viewJob env rec.jobId with
    | terminal job =>
      simp only [viewed, Option.some.injEq] at found
      exact ⟨rec, member, named, found, job, viewed⟩
    | undescribable | running => simp [viewed] at found
  · rintro ⟨rec, member, named, rfl, job, viewed⟩
    exact ⟨rec, ⟨member, named⟩, by simp [terminalJobId, viewed]⟩

/-- A job that is not seen to be terminal is outstanding, unless its record is
old and it cannot be described. -/
theorem mem_outstanding {prior : List SubmissionRecord} {stored : Option Payload}
    (member : rec ∈ prior)
    (named : rec.jobId ≠ "") (live : ∀ job, viewJob env rec.jobId ≠ .terminal job)
    (recent : viewJob env rec.jobId = .undescribable →
      env.now - rec.submittedAt ≤ undescribableJobMaxAge) :
    rec.jobId ∈ (describePriorJobs settings env prior stored).1.outstanding.map
      InFlightJob.jobId := by
  rw [describePriorJobs, foldl_checkJob]
  simp only [JobCheck.empty, List.nil_append]
  have listed : rec ∈ prior.filter (·.jobId ≠ "") :=
    List.mem_filter.mpr ⟨member, decide_eq_true named⟩
  cases viewed : viewJob env rec.jobId with
  | undescribable =>
    have found : inFlightJob env rec =
        some ⟨rec.jobId, unknownJobStatus, none, rec.submittedAt⟩ := by
      simp only [inFlightJob, viewed, if_neg (recent viewed).not_gt]
    exact List.mem_map.mpr ⟨_, List.mem_filterMap.mpr ⟨rec, listed, found⟩, rfl⟩
  | running job =>
    have found : inFlightJob env rec =
        some ⟨rec.jobId, job.status, job.creationTime, rec.submittedAt⟩ := by
      simp only [inFlightJob, viewed]
    exact List.mem_map.mpr ⟨_, List.mem_filterMap.mpr ⟨rec, listed, found⟩, rfl⟩
  | terminal job => exact absurd viewed (live job)

end Loop

section Evolution
variable (settings : Settings) (env : RunEnv)

/-- What the loop may write: reports, alerts and the diagnosis flag. -/
def IsReportOp : StateOp → Prop
  | .mergeCompletionReport .. => True
  | .clearAlertedConfig _ => True
  | .markReportDiagnosed _ _ scored => scored = false
  | _ => False

def IsScoringOp (jobIds : List String) : StateOp → Prop
  | .markReportDiagnosed jobId diagnosed scored => jobId ∈ jobIds ∧
      diagnosed = false ∧ scored = true
  | _ => False

theorem onJobTerminal_evolves (jobId : String) (job : JobDescription) (stored : Option Payload) :
    Evolves settings.bucketName IsReportOp stored
      (onJobTerminal settings env jobId job stored) := by
  rw [onJobTerminal]
  split
  · exact .refl _
  split
  · exact .refl _
  split
  · rename_i report createdAt _ _
    have merged : Evolves settings.bucketName IsReportOp stored
        (write settings env (.merge jobId)
          (.mergeCompletionReport report settings.bucketName jobId createdAt none) stored).stored :=
      write_evolves trivial
    simp only
    split
    · refine merged.trans ?_
      rw [clearAlert]
      split
      · exact write_evolves trivial
      · exact .refl _
    · exact merged
  · exact .refl _

theorem settleReport_evolves (rec : SubmissionRecord) (stored : Option Payload) :
    Evolves settings.bucketName IsReportOp stored (settleReport settings env rec stored) := by
  rw [settleReport]
  split
  · rename_i job _
    refine (onJobTerminal_evolves settings env rec.jobId job stored).trans ?_
    rw [diagnoseReport]
    split
    · exact write_evolves rfl
    · exact .refl _
  · exact .refl _

theorem describePriorJobs_evolves (prior : List SubmissionRecord) (stored : Option Payload) :
    Evolves settings.bucketName IsReportOp stored
      (describePriorJobs settings env prior stored).2 := by
  rw [describePriorJobs]
  generalize JobCheck.empty = check
  induction prior generalizing check stored with
  | nil => exact .refl _
  | cons rec rest ih =>
    rw [List.foldl_cons, checkJob]
    split
    · exact ih stored check
    · exact (settleReport_evolves settings env rec stored).trans (ih _ _)

theorem commitRecoveryScored_evolves (jobIds : List String) (stored : Option Payload) :
    Evolves settings.bucketName (IsScoringOp jobIds) stored
      (commitRecoveryScored settings env jobIds stored) := by
  have each : ∀ ids : List String, (∀ jobId ∈ ids, jobId ∈ jobIds) → ∀ stored,
      Evolves settings.bucketName (IsScoringOp jobIds) stored
        (commitRecoveryScored settings env ids stored) := by
    intro ids
    induction ids with
    | nil => exact fun _ stored => .refl stored
    | cons jobId rest ih =>
      intro listed stored
      have first : Evolves settings.bucketName (IsScoringOp jobIds) stored
          (writeBestEffort settings env (.scored jobId)
            (.markReportDiagnosed jobId false true) stored) :=
        write_evolves ⟨listed jobId List.mem_cons_self, rfl, rfl⟩
      exact first.trans (ih (fun other member => listed other (List.mem_cons_of_mem _ member)) _)
  exact each jobIds (fun _ member => member) stored

end Evolution
end ReplicateOnTag.Orchestrator

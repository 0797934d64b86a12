import ReplicateOnTag.Adapters.IntactReport
import ReplicateOnTag.Orchestrator.ItemSteps

/-! The accessor that reads the report of one terminal job once and keeps what it
led to, its two consumers, and the runs whose reports are read so. The text form of
a job id within a message is a parameter. -/
namespace ReplicateOnTag.Orchestrator
open StateStore ReportReader

section Accessor
variable (repr : String → String) (source : Source) (bucketName : String)

/-- `_completion_report_prefix`. -/
def completionReportPrefix (replicationConfigId manifestKey : String) : String :=
  "completion-reports/" ++ replicationConfigId ++ "/" ++
    String.ofList (manifestKey.toList.map fun c => if c = '/' then '_' else c) ++ "/"

/-- What a first call of `_completion_report` leads to. Counts that are absent are
unknown, and a job without tasks has no report to read. -/
def readReport (rec : SubmissionRecord) (job : JobDescription) : Except ReportError Report :=
  match job.tasksSucceeded, job.tasksFailed with
  | some succeeded, some failed =>
      if succeeded + failed = 0 then
        match job.terminationDate <|> job.creationTime with
        | none => .error (.notReady ("DescribeJob for job " ++ repr rec.jobId ++
            " carried neither TerminationDate nor CreationTime"))
        | some terminalAt => .ok ⟨terminalAt, []⟩
      else
        readBopsCompletionReport source
          (completionReportPrefix bucketName rec.manifestKey) rec.jobId
          (succeeded + failed : Nat)
  | _, _ => .error (.notReady ("DescribeJob for job " ++ repr rec.jobId ++
      " carried no ProgressSummary; invoked task count is unknown"))

/-- The variables that the accessor closes over. -/
structure Cell where
  report : Option Report
  reportError : Option ReportError
  reportAttempted : Bool

def Cell.fresh : Cell := ⟨none, none, false⟩

/-- `_completion_report`, where a first call leads to `first`. -/
def completionReport (first : Except ReportError Report)
    (cell : Cell) : Except ReportError Report × Cell :=
  match cell.report, cell.reportError with
  | some report, _ => (.ok report, cell)
  | none, some error => (.error error, cell)
  | none, none =>
      if cell.reportAttempted then
        (.error (.runtimeError "completion report read did not produce a result"), cell)
      else
        match first with
        | .ok report => (.ok report, ⟨some report, none, true⟩)
        | .error error => (.error error, ⟨none, some error, true⟩)

/-- The cell has not been asked, or keeps what a first call led to. -/
def Keeps (first : Except ReportError Report) (cell : Cell) : Prop :=
  cell = .fresh ∨ cell = (completionReport first .fresh).2

/-- Every call of the accessor ends like the first one. -/
theorem completionReport_keeps {first : Except ReportError Report} {cell : Cell}
    (keeps : Keeps first cell) :
    (completionReport first cell).1 = first ∧ Keeps first (completionReport first cell).2 := by
  rcases keeps with rfl | rfl
  · refine ⟨?_, .inr rfl⟩
    cases first <;> rfl
  · cases first with
    | ok report => exact ⟨rfl, .inr rfl⟩
    | error error => exact ⟨rfl, .inr rfl⟩

end Accessor

section Consumers
variable (settings : Settings) (env : RunEnv) (first : Except ReportError Report)

/-- `_CompletionHooks.on_job_terminal` with the accessor; whatever is raised is logged. -/
def mergeFrom (jobId : String) (job : JobDescription) (stored : Option Payload) (cell : Cell) :
    Option Payload × Cell :=
  if !settings.completionTracking || !env.reads (.completionJob jobId) then (stored, cell)
  else if completionJobExists stored jobId then (stored, cell)
  else
    match completionReport first cell with
    | (.error _, cell) => (stored, cell)
    | (.ok report, cell) =>
        match job.creationTime with
        | none => (stored, cell)
        | some createdAt =>
            let merged := write settings env (.merge jobId)
              (.mergeCompletionReport report.summary settings.bucketName jobId
                createdAt none) stored
            if merged.ok then (clearAlert settings env jobId merged.stored, cell)
              else (merged.stored, cell)

/-- The diagnosis block of `_describe_prior_jobs`. -/
def diagnoseFrom (rec : SubmissionRecord) (stored : Option Payload)
    (cell : Cell) : Option Payload :=
  if rec.reportDiagnosed then stored
  else
    match completionReport first cell with
    | (.error _, _) => stored
    | (.ok _, _) =>
        writeBestEffort settings env (.diagnosed rec.jobId)
          (.markReportDiagnosed rec.jobId true false) stored

/-- Both consumers of a terminal job, over one cell. -/
def settleFrom (rec : SubmissionRecord) (job : JobDescription)
    (stored : Option Payload) : Option Payload :=
  let merged := mergeFrom settings env first rec.jobId job stored .fresh
  diagnoseFrom settings env first rec merged.1 merged.2

variable {settings : Settings} {env : RunEnv} {first : Except ReportError Report} {jobId : String}
  {rec : SubmissionRecord} {job : JobDescription} {stored : Option Payload}

theorem mergeFrom_keeps : Keeps first (mergeFrom settings env first jobId job stored .fresh).2 := by
  have fresh : Keeps first .fresh := .inl rfl
  rw [mergeFrom]
  split
  · exact fresh
  · split
    · exact fresh
    · obtain ⟨_, keeps⟩ := completionReport_keeps fresh
      generalize completionReport first .fresh = answer at keeps
      obtain ⟨_ | report, cell⟩ := answer
      · exact keeps
      · simp only
        split
        · exact keeps
        · split <;> exact keeps

theorem diagnoseFrom_eq {cell : Cell} (keeps : Keeps first cell) :
    diagnoseFrom settings env first rec stored cell =
      if !rec.reportDiagnosed && first.toOption.isSome then
        writeBestEffort settings env (.diagnosed rec.jobId)
          (.markReportDiagnosed rec.jobId true false) stored
      else stored := by
  have asked := (completionReport_keeps keeps).1
  rw [diagnoseFrom]
  generalize completionReport first cell = answer at asked
  obtain ⟨outcome, _⟩ := answer
  subst asked
  cases rec.reportDiagnosed with
  | true => rfl
  | false => cases outcome <;> rfl

/-- Nothing is written for a job whose report cannot be read. -/
theorem settleFrom_error (error : ReportError) :
    settleFrom settings env (.error error) rec job stored = stored := by
  have unmerged : (mergeFrom settings env (.error error) rec.jobId job stored .fresh).1 =
      stored := by
    rw [mergeFrom]
    split
    · rfl
    · split <;> rfl
  have undiagnosed : (!rec.reportDiagnosed &&
      (Except.error error : Except ReportError Report).toOption.isSome) = false :=
    Bool.and_false _
  rw [settleFrom, diagnoseFrom_eq mergeFrom_keeps, undiagnosed, unmerged]
  rfl

end Consumers

section Runs
variable (repr : String → String) (source : Source) (settings : Settings)

/-- The report of a job with these counts: empty where no task was invoked, and the
intact one of the state bucket otherwise. -/
def HasReport (rec : SubmissionRecord) (job : JobDescription) (report : Report) : Prop :=
  ∃ succeeded failed, job.tasksSucceeded = some succeeded ∧ job.tasksFailed = some failed ∧
    if succeeded + failed = 0 then
      ∃ terminalAt, (job.terminationDate <|> job.creationTime) = some terminalAt ∧
        report = ⟨terminalAt, []⟩
    else
      IntactReport source (completionReportPrefix settings.bucketName rec.manifestKey) rec.jobId
        (succeeded + failed : Nat) report

/-- A run on the object that it found, where the reports of recorded jobs are read
from the state bucket. -/
def RunEnv.reading (env : RunEnv) (found : Option Payload) : RunEnv :=
  { env with
    completionReport := fun jobId =>
      (recordFor settings.bucketName found jobId).bind fun rec =>
        (env.describeJob jobId).bind fun job =>
          (readReport repr source settings.bucketName rec job).toOption.map Report.summary }

/-- A recorded job that is terminal and has a report. -/
def Reported (env : RunEnv) (found : Option Payload) (jobId : String) : Prop :=
  ∃ rec job report, recordFor settings.bucketName found jobId = some rec ∧
    viewJob env jobId = .terminal job ∧
    HasReport source settings rec job report

variable {repr : String → String} {source : Source} {settings : Settings} {env : RunEnv}
  {rec : SubmissionRecord} {job : JobDescription} {found stored : Option Payload} {jobId : String}

/-- A job's report is found exactly when there is one. -/
theorem readReport_ok {report : Report} :
    readReport repr source settings.bucketName rec job = .ok report ↔
      HasReport source settings rec job report := by
  rw [readReport, HasReport]
  cases job.tasksSucceeded with
  | none => simp
  | some succeeded =>
    cases job.tasksFailed with
    | none => simp
    | some failed =>
      simp only [Option.some.injEq, exists_and_left, exists_eq_left']
      split
      · cases (job.terminationDate <|> job.creationTime) with
        | none => simp
        | some terminalAt => simp [eq_comm]
      · exact read_ok

theorem describeJob_of_terminal (viewed : viewJob env jobId = .terminal job) :
    env.describeJob jobId = some job := by
  rw [viewJob] at viewed
  split at viewed
  · cases viewed
  · rename_i described
    split at viewed
    · cases viewed
      exact described
    · cases viewed

/-- The report that a run is given of a recorded job is the one it reads. -/
theorem completionReportOf_reading (recorded : recordFor settings.bucketName found jobId = some rec)
    (viewed : viewJob env jobId = .terminal job) :
    completionReportOf (env.reading repr source settings found) jobId job =
      (readReport repr source settings.bucketName rec job).toOption.map Report.summary := by
  rw [completionReportOf, readReport]
  cases succeeds : job.tasksSucceeded with
  | none => rfl
  | some succeeded =>
    cases fails : job.tasksFailed with
    | none => rfl
    | some failed =>
      simp only
      split
      · cases (job.terminationDate <|> job.creationTime) <;> rfl
      · rename_i invoked
        simp only [RunEnv.reading, recorded, describeJob_of_terminal viewed, Option.bind_some,
          readReport, succeeds, fails, invoked, if_false]

/-- The items change only with the processed ids, and these only by jobs that have
a report. -/
structure OnlyReported (source : Source) (settings : Settings) (env : RunEnv)
    (found stored : Option Payload) :
    Prop where
  kept : ∀ jobId ∈ processedJobIds settings.bucketName found,
    jobId ∈ processedJobIds settings.bucketName stored
  processed : ∀ jobId ∈ processedJobIds settings.bucketName stored,
    jobId ∈ processedJobIds settings.bucketName found ∨ Reported source settings env found jobId
  tracked : (itemsOf settings.bucketName stored = itemsOf settings.bucketName found ∧
      processedJobIds settings.bucketName stored = processedJobIds settings.bucketName found) ∨
    ∃ jobId ∈ processedJobIds settings.bucketName stored,
      jobId ∉ processedJobIds settings.bucketName found ∧ Reported source settings env found jobId

theorem onlyReported_step {op : StateOp} {after : Payload}
    (only : OnlyReported source settings env found stored)
    (permitted : RunStep settings (env.reading repr source settings found) chosen found stored op)
    (applied : op.apply settings.bucketName stored = some after) :
    OnlyReported source settings env found (some after) := by
  rcases step_cases permitted applied with ⟨report, jobId, createdAt, rfl,
    fresh⟩ | ⟨items, processed⟩
  · obtain ⟨_, _, merges⟩ := permitted
    obtain ⟨rec, recorded⟩ := Option.isSome_iff_exists.mp merges.recorded
    obtain ⟨job, viewed, _, given⟩ := merges.described
    have viewed : viewJob env jobId = .terminal job := viewed
    rw [completionReportOf_reading recorded viewed, Option.map_eq_some_iff] at given
    obtain ⟨whole, read, _⟩ := given
    have reported : Reported source settings env found jobId :=
      ⟨rec, job, whole, recorded, viewed, readReport_ok.mp (FirstFailure.toOption_eq_some.mp read)⟩
    obtain ⟨_, ids⟩ := merge_items applied
    refine ⟨fun other old => (ids other).mpr (.inr (only.kept other old)), ?_, ?_⟩
    · intro other now
      rcases (ids other).mp now with rfl | old
      · exact .inr reported
      · exact only.processed other old
    · exact .inr ⟨jobId, (ids jobId).mpr (.inl rfl), fun old =>
        fresh (only.kept jobId old), reported⟩
  · refine ⟨?_, ?_, ?_⟩
    · rw [processed]
      exact only.kept
    · rw [processed]
      exact only.processed
    · rw [items, processed]
      exact only.tracked

theorem completionJobExists_iff (bucket : String) :
    completionJobExists stored jobId = true ↔ jobId ∈ processedJobIds bucket stored := by
  cases stored with
  | none => exact ⟨nofun, nofun⟩
  | some payload => exact decide_eq_true_iff

/-- A whole run tracks nothing but jobs that have a report. -/
theorem runBucket_onlyReported (env : RunEnv) (found : Option Payload) :
    OnlyReported source settings env found
      (runBucket settings (env.reading repr source settings found) found).stored := by
  refine (runBucket_steps settings (env.reading repr source settings found) found).preserves
    (OnlyReported source settings env found) ?_ ?_
  · exact fun _ _ _ permitted applied only => onlyReported_step only permitted applied
  · exact ⟨fun _ => id, fun _ => .inl, .inl ⟨rfl, rfl⟩⟩

end Runs
end ReplicateOnTag.Orchestrator

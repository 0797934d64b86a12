import ReplicateOnTag.Core.ManifestGenerator
import ReplicateOnTag.Orchestrator.PriorJobs
import ReplicateOnTag.Orchestrator.JournalWindow

/-! The phases of a run that hold the lease: matching, manifest building and
submission, and what is written before and after them. -/
namespace ReplicateOnTag.Orchestrator
open StateStore ManifestGenerator AthenaJournal

structure WrittenManifest where
  key : String
  entries : List ManifestEntry
  deriving DecidableEq

namespace WrittenManifest

def objectCount (manifest : WrittenManifest) : Nat := manifest.entries.length

def keptTriples (manifest : WrittenManifest) : List (String × String × Option String) :=
  manifest.entries.map ManifestEntry.triple

end WrittenManifest

/-- `record_scan` and `record_idle_scan`, no-ops without completion tracking. -/
def recordScan (settings : Settings) (env : RunEnv) (matchCount : Nat) (stored : Option Payload) :
    Option Payload :=
  if settings.completionTracking then
    writeBestEffort settings env .scan
      (.recordScanResult settings.bucketName env.now matchCount) stored
  else stored

def permanentDeletes (settings : Settings) (env : RunEnv) (since : Watermark) :
    List (String × Option String) :=
  if env.queries .permanentDeletes then readPermanentDeletes env.journal settings.bucketName since
  else []

/-- The entries that survive the deleted-version filter; none on a skip path. -/
def keptEntries (settings : Settings) (env : RunEnv) (entries : Entries) (since : Watermark) :
    Option (List ManifestEntry) :=
  let result := finalize entries settings.bucketName
  if result.hasMatches then
    filterDeletedEntries result.entries (permanentDeletes settings env since)
  else none

structure ManifestBuild where
  manifest : Option WrittenManifest
  /-- The match count handed to the scan record. -/
  scan : Option Nat
  stored : Option Payload

/-- `_build_manifest`. -/
def buildManifest (settings : Settings) (env : RunEnv) (entries : Entries) (window : JournalWindow)
    (stored : Option Payload) : ManifestBuild :=
  if !env.queries .preflight then ⟨none, none, stored⟩
  else
    let count :=
      preflightCount env.journal settings.bucketName settings.rules window.since window.upTo
    let scanned := recordScan settings env count stored
    match keptEntries settings env entries window.since, env.manifestKey with
    | some kept, some key => ⟨some ⟨key, kept⟩, some count, scanned⟩
    | _, _ => ⟨none, some count, scanned⟩

section Submitting

structure SubmissionResult where
  status : SubmissionStatus
  jobId : Option String
  failureClass : Option FailureClass
  deriving DecidableEq

/-- `submit_batch_job`: an empty manifest creates no job. -/
def submitBatchJob (env : RunEnv) (objectCount : Nat) : SubmissionResult :=
  if objectCount = 0 then ⟨.skipped, none, none⟩
  else
    match env.createJob with
    | .created jobId => ⟨.submitted, some jobId, none⟩
    | .rejected failureClass | .lost _ failureClass => ⟨.createFailed, none, some failureClass⟩

structure SubmissionOutcome where
  succeeded : Bool
  lastSubmission : Option SubmissionRecord
  bucketDisabled : Bool
  deriving DecidableEq

def submissionDisableReason (bucketName : String) (streak : Nat) : String :=
  "S3 Batch Operations job submission for bucket " ++ JobRecovery.reprName bucketName ++
    " was rejected by the AWS API before it was sent (" ++ toString streak ++
    " consecutive interval(s)). The cause is a request the Solution builds that botocore's own " ++
    "parameter validation rejects — this is a code defect, not a condition in your account. " ++
    "Re-enabling this bucket without a Solution code fix will reproduce the failure."

/-- `_escalate_submission_failure`: true when the streak disabled the bucket. -/
def escalateSubmissionFailure (settings : Settings) (env : RunEnv) (stored : Option Payload) :
    Bool × Option Payload :=
  let counted := write settings env .incrementStreak
    (.incrementSubmissionFailureStreak settings.bucketName) stored
  let streak :=
    if counted.ok then
      (incrementSubmissionFailureStreak settings.bucketName settings.bucketName stored).1
    else 1
  if streak < settings.maxBatchJobFailures then (false, counted.stored)
  else
    (true, disable settings env (submissionDisableReason settings.bucketName streak) counted.stored)

/-- The record of a submitted job: its range runs from the run's checkpoint
watermark to its candidate. -/
def submissionRecord (settings : Settings) (env : RunEnv) (jobId manifestKey : String)
    (bucketConsecutiveFailures : Nat) (checkpointWatermark : Watermark)
    (candidateHwm : Option Watermark) : SubmissionRecord :=
  { replicationConfigId := settings.bucketName
    sourceBucket := settings.bucketName
    jobId
    manifestKey
    submittedAt := env.now
    status := .submitted
    watermarkLow := checkpointWatermark
    watermarkHigh := candidateHwm.getD Watermark.epoch
    consecutiveFailures := bucketConsecutiveFailures
    reportDiagnosed := false
    recoveryScored := false }

/-- `_submit_job`. -/
def submitJob (settings : Settings) (env : RunEnv) (manifest : WrittenManifest)
    (bucketConsecutiveFailures : Nat) (checkpointWatermark : Watermark)
    (candidateHwm : Option Watermark) (stored : Option Payload) :
    SubmissionOutcome × Option Payload :=
  let submission := submitBatchJob env manifest.objectCount
  match submission.jobId with
  | some jobId =>
      (⟨true, some (submissionRecord settings env jobId manifest.key bucketConsecutiveFailures
          checkpointWatermark candidateHwm), false⟩,
        writeBestEffort settings env .clearStreak
          (.clearSubmissionFailureStreak settings.bucketName) stored)
  | none =>
      if submission.failureClass = some .permanentClient then
        let (disabled, after) := escalateSubmissionFailure settings env stored
        (⟨false, none, disabled⟩, after)
      else (⟨false, none, false⟩, stored)

end Submitting

/-- What the lease body leaves behind. No outcome means the bucket is skipped. -/
structure LeaseBody where
  outcome : Option SubmissionOutcome
  submittedRefs : Option (List ProcessedRef)
  scan : Option Nat
  stored : Option Payload

def storeTimestamps (settings : Settings) (env : RunEnv) (entries : Entries)
    (stored : Option Payload) :
    Option Payload :=
  let timestamps := getTimestamps entries settings.bucketName
  let routing := getRouting entries settings.bucketName
  if timestamps.entries.isEmpty && routing.entries.isEmpty then stored
  else
    writeBestEffort settings env .timestamps
      (.storeCompletionTimestamps timestamps (some routing)) stored

/-- `_leased_manifest_and_submit`. -/
def leasedManifestAndSubmit (settings : Settings) (env : RunEnv) (selected : Selected)
    (window : JournalWindow) (bucketConsecutiveFailures : Nat) (checkpointWatermark : Watermark)
    (stored : Option Payload) : LeaseBody :=
  let entries := matchAndAccumulate selected.dedupedOps settings.rules
  if !hasAccumulatedEntries entries settings.bucketName && selected.candidateHwm.isNone then
    ⟨none, none, some 0, recordScan settings env 0 stored⟩
  else
    let built := buildManifest settings env entries window
      (storeTimestamps settings env entries stored)
    match built.manifest with
    | none => ⟨none, none, built.scan, built.stored⟩
    | some manifest =>
        let (outcome, after) := submitJob settings env manifest bucketConsecutiveFailures
          checkpointWatermark selected.candidateHwm built.stored
        if outcome.bucketDisabled then ⟨none, none, built.scan, after⟩
        else
          ⟨some outcome,
            if outcome.succeeded then
              some (JournalDedup.buildSubmittedRefs selected.dedupedOps manifest.keptTriples)
            else none,
            built.scan, after⟩

/-- `_persist_submission`. -/
def persistSubmission (settings : Settings) (env : RunEnv)
    (lastSubmission : Option SubmissionRecord)
    (terminalJobIds : List String) (stored : Option Payload) : Option Payload :=
  match lastSubmission with
  | none => stored
  | some submission =>
      writeBestEffort settings env .persist
        (.recordSubmission submission terminalJobIds settings.completionTracking
          (some settings.maxConcurrentJobs)) stored

section Body
variable {settings : Settings} {env : RunEnv} {selected : Selected} {window : JournalWindow}

/-- What the lease body may write: enrichment, the scan, the failure streak,
and a disable on a breached streak. -/
def IsBodyOp : StateOp → Prop
  | .storeCompletionTimestamps .. => True
  | .recordScanResult .. => True
  | .incrementSubmissionFailureStreak _ => True
  | .clearSubmissionFailureStreak _ => True
  | .disableBucket .. => True
  | _ => False

theorem recordScan_evolves (settings : Settings) (env : RunEnv) (count : Nat)
    (stored : Option Payload) :
    Evolves settings.bucketName IsBodyOp stored (recordScan settings env count stored) := by
  rw [recordScan]
  split
  · exact write_evolves trivial
  · exact .refl _

theorem storeTimestamps_evolves (settings : Settings) (env : RunEnv) (entries : Entries)
    (stored : Option Payload) :
    Evolves settings.bucketName IsBodyOp stored (storeTimestamps settings env entries stored) := by
  simp only [storeTimestamps]
  split
  · exact .refl _
  · exact write_evolves trivial

theorem buildManifest_evolves (settings : Settings) (env : RunEnv) (entries : Entries)
    (window : JournalWindow) (stored : Option Payload) :
    Evolves settings.bucketName IsBodyOp stored
      (buildManifest settings env entries window stored).stored := by
  simp only [buildManifest]
  split
  · exact .refl _
  · split <;> exact recordScan_evolves settings env _ stored

/-- What submitting may write: the failure streak, and a disable when it is breached. -/
def IsSubmitOp : StateOp → Prop
  | .incrementSubmissionFailureStreak _ => True
  | .clearSubmissionFailureStreak _ => True
  | .disableBucket .. => True
  | _ => False

theorem isBodyOp_submit {op : StateOp} (submit : IsSubmitOp op) : IsBodyOp op := by
  cases op <;> trivial

theorem submitJob_evolves (settings : Settings) (env : RunEnv) (manifest : WrittenManifest)
    (counter : Nat) (low : Watermark) (candidate : Option Watermark) (stored : Option Payload) :
    Evolves settings.bucketName IsSubmitOp stored
      (submitJob settings env manifest counter low candidate stored).2 := by
  simp only [submitJob]
  split
  · exact write_evolves trivial
  · split
    · simp only [escalateSubmissionFailure]
      have counted : Evolves settings.bucketName IsSubmitOp stored
          (write settings env .incrementStreak
            (.incrementSubmissionFailureStreak settings.bucketName) stored).stored :=
        write_evolves trivial
      split
      · split <;> first | exact counted | exact counted.trans (write_evolves trivial)
      · split <;> first | exact counted | exact counted.trans (write_evolves trivial)
    · exact .refl _

theorem leasedManifestAndSubmit_evolves (settings : Settings) (env : RunEnv) (selected : Selected)
    (window : JournalWindow) (counter : Nat) (low : Watermark) (stored : Option Payload) :
    Evolves settings.bucketName IsBodyOp stored
      (leasedManifestAndSubmit settings env selected window counter low stored).stored := by
  simp only [leasedManifestAndSubmit]
  split
  · exact recordScan_evolves settings env 0 stored
  · generalize matchAndAccumulate selected.dedupedOps settings.rules = entries
    have stamped := storeTimestamps_evolves settings env entries stored
    have built := stamped.trans (buildManifest_evolves settings env entries window _)
    split
    · exact built
    · rename_i manifest _
      have submitted := built.trans
        ((submitJob_evolves settings env manifest counter low selected.candidateHwm _).mono
          fun _ => isBodyOp_submit)
      split <;> exact submitted

end Body
end ReplicateOnTag.Orchestrator

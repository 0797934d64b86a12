import ReplicateOnTag.Core.Models

/-! Recovery arithmetic over the terminal outcomes of prior jobs. -/
namespace ReplicateOnTag.JobRecovery
open Watermark

structure JobOutcome where
  configId : String
  jobId : String
  status : String
  watermarkLow : Watermark
  watermarkHigh : Watermark
  consecutiveFailures : Nat
  tasksSucceeded : Option Nat
  tasksFailed : Option Nat
  deriving DecidableEq

structure RecoveryPlan where
  consecutiveFailures : Nat
  rollbackTo : Option Watermark
  skippedEmptyLows : Nat
  disableReason : Option String
  deriving DecidableEq

def terminalJobStatuses : List String := ["Complete", "Failed", "Cancelled"]

def isTerminalStatus (status : Option String) : Bool :=
  match status with
  | none => false
  | some name => name ∈ terminalJobStatuses

/-- `_is_all_tasks_failed_complete`. -/
def isAllTasksFailedComplete (outcome : JobOutcome) : Bool :=
  if outcome.status ≠ "Complete" then false
  else
    match outcome.tasksSucceeded, outcome.tasksFailed with
    | some succeeded, some failed => succeeded = 0 ∧ 0 < failed
    | _, _ => false

def isEffectiveFailure (outcome : JobOutcome) : Bool :=
  outcome.status ∈ ["Failed", "Cancelled"] || isAllTasksFailedComplete outcome

def latestSubmission : List SubmissionRecord → Option Instant
  | [] => none
  | record :: rest => some (rest.foldl (fun latest next =>
      max latest next.submittedAt) record.submittedAt)

/-- `_seed_consecutive_failures`: the largest counter among the newest records. -/
def seedConsecutiveFailures (records : List SubmissionRecord) : Nat :=
  match latestSubmission records with
  | none => 0
  | some latest =>
      ((records.filter fun record => record.submittedAt = latest).map
        SubmissionRecord.consecutiveFailures).foldl max 0

def minWatermark : List Watermark → Option Watermark
  | [] => none
  | low :: rest => some (rest.foldl min low)

def failedLows (outcomes : List JobOutcome) : List Watermark :=
  (outcomes.filter isEffectiveFailure).map JobOutcome.watermarkLow

def usableLows (outcomes : List JobOutcome) : List Watermark :=
  (failedLows outcomes).filter fun low => low ≠ epoch

def nextConsecutiveFailures (seeded : Nat) (outcomes : List JobOutcome) : Nat :=
  if outcomes.any isEffectiveFailure then seeded + 1
  else if outcomes.length > 0 then 0
  else seeded

/-- Python `repr` of a bucket name, which needs no escapes. -/
def reprName (name : String) : String := "'" ++ name ++ "'"

def disableReason (bucketName : String) (consecutiveFailures threshold : Nat) : String :=
  "S3 Batch Operations job for bucket " ++ reprName bucketName ++ " has failed " ++
    toString consecutiveFailures ++ " consecutive time(s) (threshold: " ++ toString threshold ++
    "). Bucket disabled to prevent runaway per-job costs. Investigate and re-enable by setting " ++
    "\"disabled\": false in the bucket's state object."

def planRecovery (records : List SubmissionRecord) (outcomes : List JobOutcome)
    (bucketName : String) (threshold : Nat) : RecoveryPlan :=
  let consecutiveFailures := nextConsecutiveFailures (seedConsecutiveFailures records) outcomes
  { consecutiveFailures := consecutiveFailures
    rollbackTo := minWatermark (usableLows outcomes)
    skippedEmptyLows := (failedLows outcomes).length - (usableLows outcomes).length
    disableReason :=
      if threshold ≤ consecutiveFailures then
        some (disableReason bucketName consecutiveFailures threshold)
      else none }

section Rollback

theorem minWatermark_eq_min? (lows : List Watermark) : minWatermark lows = lows.min? := by
  cases lows <;> rfl

theorem minWatermark_le (found : minWatermark lows = some target)
    (member : low ∈ lows) : target ≤ low := by
  rw [minWatermark_eq_min?] at found
  exact (List.le_min?_iff found).mp le_rfl low member

theorem minWatermark_mem (found : minWatermark lows = some target) : target ∈ lows := by
  rw [minWatermark_eq_min?] at found
  exact List.min?_mem found

theorem mem_usableLows :
    low ∈ usableLows outcomes ↔
      low ≠ epoch ∧ ∃ outcome ∈ outcomes, isEffectiveFailure outcome ∧
        outcome.watermarkLow = low := by
  simp only [usableLows, failedLows, List.mem_filter, List.mem_map, decide_eq_true_eq, and_assoc]
  tauto

/-- The rollback target is at or below the low of every failed outcome that has one. -/
theorem rollbackTo_le
    (planned : (planRecovery records outcomes bucket threshold).rollbackTo = some target)
    (member : outcome ∈ outcomes) (failed : isEffectiveFailure outcome)
    (usable : outcome.watermarkLow ≠ epoch) : target ≤ outcome.watermarkLow :=
  minWatermark_le planned (mem_usableLows.mpr ⟨usable, outcome, member, failed, rfl⟩)

end Rollback

section Counter

theorem latestSubmission_eq_max? (records : List SubmissionRecord) :
    latestSubmission records = (records.map SubmissionRecord.submittedAt).max? := by
  cases records with
  | nil => rfl
  | cons first rest => rw [latestSubmission, List.map_cons, List.max?_cons', List.foldl_map]

theorem latestSubmission_le_iff (found : latestSubmission records = some latest) (bound : Instant) :
    latest ≤ bound ↔ ∀ record ∈ records, record.submittedAt ≤ bound := by
  rw [latestSubmission_eq_max?] at found
  rw [List.max?_le_iff found, List.forall_mem_map]

/-- The seed is bounded by the counters of the newest records. -/
theorem seedConsecutiveFailures_le_iff :
    seedConsecutiveFailures records ≤ bound ↔
      ∀ record ∈ records, (∀ other ∈ records, other.submittedAt ≤ record.submittedAt) →
        record.consecutiveFailures ≤ bound := by
  cases found : latestSubmission records with
  | none =>
    cases records with
    | nil => simp [seedConsecutiveFailures, found]
    | cons => cases found
  | some latest =>
    have seed : seedConsecutiveFailures records ≤ bound ↔
        ∀ record ∈ records, record.submittedAt = latest → record.consecutiveFailures ≤ bound := by
      simp only [seedConsecutiveFailures, found]
      rw [List.max?_le_iff (List.max?_cons' ..), List.forall_mem_cons, List.forall_mem_map]
      simp
    rw [seed]
    refine forall₂_congr fun record member => imp_congr_left ?_
    rw [← latestSubmission_le_iff found]
    have below := (latestSubmission_le_iff found latest).mp le_rfl record member
    exact ⟨ge_of_eq, below.antisymm⟩

theorem counter_of_failure (failed : outcomes.any isEffectiveFailure) :
    (planRecovery records outcomes bucket threshold).consecutiveFailures =
      seedConsecutiveFailures records + 1 := by
  simp [planRecovery, nextConsecutiveFailures, failed]

theorem counter_of_pass (passed : outcomes.any isEffectiveFailure = false) (some : outcomes ≠ []) :
    (planRecovery records outcomes bucket threshold).consecutiveFailures = 0 := by
  simp [planRecovery, nextConsecutiveFailures, passed, List.length_pos_iff.mpr some]

theorem counter_le_of_calm (calm : outcomes.any isEffectiveFailure = false) :
    (planRecovery records outcomes bucket threshold).consecutiveFailures ≤
      seedConsecutiveFailures records := by
  simp only [planRecovery, nextConsecutiveFailures, calm, Bool.false_eq_true, if_false]
  split <;> omega

/-- One run raises the counter by one at most, however many jobs failed. -/
theorem counter_le_succ (records : List SubmissionRecord)
    (outcomes : List JobOutcome) (bucket : String)
    (threshold : Nat) : (planRecovery records outcomes bucket threshold).consecutiveFailures ≤
      seedConsecutiveFailures records + 1 := by
  cases failed : outcomes.any isEffectiveFailure with
  | true => exact (counter_of_failure failed).le
  | false => exact (counter_le_of_calm failed).trans (Nat.le_succ _)

theorem disableReason_isSome_iff :
    (planRecovery records outcomes bucket threshold).disableReason.isSome ↔
      threshold ≤ (planRecovery records outcomes bucket threshold).consecutiveFailures := by
  simp only [planRecovery]
  split <;> simp_all

end Counter
end ReplicateOnTag.JobRecovery

import ReplicateOnTag.Orchestrator.History

/-! What a run that rolled the watermark back leaves of the failed ranges: the
capped read covers a first slice of them, and the rest must survive under the
persisted watermark and window, which the rollback never reaches. -/
namespace ReplicateOnTag.Orchestrator
open StateStore AthenaJournal Watermark CheckpointLogic JournalDedup

section Statement
variable (settings : Settings) (report : RunReport) (op : TaggingOperation)

/-- The run read the operation and held it eligible. -/
def ReadEligible : Prop :=
  ∃ window checkpoint, report.window = some window ∧ report.checkpoint = some checkpoint ∧
    op ∈ window.ops ∧ isEligible op checkpoint settings.lookback

/-- The operation is eligible under the watermark and window of an object. -/
def EligibleUnder (stored : Option Payload) : Prop :=
  isEligible op { (payloadOrDefault settings.bucketName stored).checkpoint with lease := none }
    settings.lookback

/-- Every journal operation in the range of a failed job whose flag the run
commits was offered to the run or can be offered to a later one. -/
def RangesReadmitted (journal : Journal) : Prop :=
  ∀ outcome ∈ report.outcomes, JobRecovery.isEffectiveFailure outcome →
    outcome.jobId ∈ report.committed →
    ∀ op ∈ (readJournal journal settings.bucketName epoch none).1,
      outcome.watermarkLow < op.watermark → op.watermark ≤ outcome.watermarkHigh →
        ReadEligible settings report op ∨ EligibleUnder settings op report.stored

end Statement

section Condition
variable (settings : Settings) (env : RunEnv) (state : CheckpointState) (target : Watermark)
  (op : TaggingOperation)

/-- In the slice that a capped read of the rolled-back window starts with, and
past the lease that was found. -/
def inFirstSlice : Bool :=
  target < op.watermark &&
    (journalUntil settings env target).all (fun bound => op.watermark ≤ bound) &&
    !leaseHolds state.lease op.watermark

/-- In the tail of the watermark that was found and not in its window, where no
operation of the slice has its identity or moves the tail past it. -/
def leftInTail : Bool :=
  subtract state.lastProcessedWatermark settings.lookback < op.watermark &&
    op.logicalOperationId ∉ processedIds state &&
    (readJournal env.journal settings.bucketName epoch (journalUntil settings env target)).1.all
      fun other => !isEligible other (rollback target state) settings.lookback ||
        (other.logicalOperationId ≠ op.logicalOperationId &&
          subtract other.watermark settings.lookback < op.watermark)

/-- The condition on the inputs of a run for all it commits. -/
def RangesCovered (report : RunReport) : Prop :=
  ∀ outcome ∈ report.outcomes, JobRecovery.isEffectiveFailure outcome →
    outcome.jobId ∈ report.committed →
    ∀ op ∈ (readJournal env.journal settings.bucketName epoch none).1,
      outcome.watermarkLow < op.watermark → op.watermark ≤ outcome.watermarkHigh →
        inFirstSlice settings env state target op || leftInTail settings env state target op

/-- Everything that was submitted in the range of a committed failed job lies
in the first slice; a job whose low is the epoch takes no part in the rollback. -/
def SubmittedInSlice (past : Past) (report : RunReport) : Prop :=
  ∀ submission ∈ past.submissions, ∀ outcome, NewlyFailed report submission outcome →
    outcome.jobId ∈ report.committed → outcome.watermarkLow ≠ epoch →
    ∀ op ∈ (readJournal env.journal settings.bucketName epoch none).1,
      submission.Carries op → outcome.watermarkLow < op.watermark →
        inFirstSlice settings env state target op

end Condition

section Slice
variable {settings : Settings} {env : RunEnv} {state : CheckpointState} {target : Watermark}

/-- An operation of the first slice is read and eligible. -/
theorem readEligible_of_inFirstSlice
    (reads : ReadsWindow settings env (rollback target state).lastProcessedWatermark window)
    (journaled : op ∈ (readJournal env.journal settings.bucketName epoch none).1)
    (slice : inFirstSlice settings env state target op) :
    op ∈ window.ops ∧ isEligible op (rollback target state) settings.lookback := by
  simp only [inFirstSlice, Bool.and_eq_true, decide_eq_true_eq, Bool.not_eq_true'] at slice
  obtain ⟨⟨above, below⟩, free⟩ := slice
  constructor
  · rw [reads.ops, mem_readJournal_iff_range]
    refine ⟨journaled, lt_of_le_of_lt reads.since above, ?_⟩
    intro bound found
    have upTo : journalUntil settings env target = some bound := reads.upTo ▸ found
    simpa [upTo] using below
  · exact (isEligible_iff _ _ _).mpr ⟨free, .inr (.inl above)⟩

/-- What the selection of a rolled-back run is made from. -/
theorem selected_in_slice
    (reads : ReadsWindow settings env (rollback target state).lastProcessedWatermark window)
    (member : other ∈ (selectEligibleOperations window.ops (rollback target state)
      settings.lookback).eligible) :
    other ∈ (readJournal env.journal settings.bucketName epoch
      (journalUntil settings env target)).1 ∧
      isEligible other (rollback target state) settings.lookback := by
  obtain ⟨read, _, eligible⟩ := eligible_mem_ops member
  rw [reads.ops, mem_readJournal_iff_range] at read
  obtain ⟨journaled, _, below⟩ := read
  refine ⟨mem_readJournal_iff_range.mpr ⟨journaled, epoch_lt_toWatermark _, ?_⟩, eligible⟩
  intro bound found
  exact below bound (reads.upTo.trans found)

/-- An operation left in the tail stays eligible under what the run persists. -/
theorem eligibleUnder_of_leftInTail {prep : Preparation} {run : LeasedRun} {before : Option Payload}
    (reads : ReadsWindow settings env (rollback target state).lastProcessedWatermark window)
    (submits : Submits settings env prep (rollback target state) window
      (selectEligible settings window.ops (rollback target state)) before run submission)
    (watermark : (payloadOrDefault settings.bucketName before).lastProcessedWatermark =
      state.lastProcessedWatermark)
    (kept : (payloadOrDefault settings.bucketName before).processedWindow = state.processedWindow)
    (tail : leftInTail settings env state target op) : EligibleUnder settings op run.stored := by
  simp only [leftInTail, Bool.and_eq_true, decide_eq_true_eq, List.all_eq_true, Bool.or_eq_true,
    Bool.not_eq_true'] at tail
  obtain ⟨⟨inside, unrecorded⟩, slice⟩ := tail
  have apart : ∀ other ∈ (selectEligibleOperations window.ops (rollback target state)
      settings.lookback).eligible, other.logicalOperationId ≠ op.logicalOperationId ∧
        subtract other.watermark settings.lookback < op.watermark := by
    intro other member
    obtain ⟨read, eligible⟩ := selected_in_slice reads member
    rcases slice other read with skipped | apart
    · rw [eligible] at skipped
      cases skipped
    · exact apart
  have selected : ∀ ref ∈ submission.refs, ∃ other ∈ (selectEligibleOperations window.ops
      (rollback target state) settings.lookback).eligible,
        ref = ⟨other.logicalOperationId, other.watermark⟩ := by
    intro ref listed
    obtain ⟨_, other, member, same⟩ := submits.ref_of_selected listed
    exact ⟨other, (mem_dedupedOps.mp member).1, same⟩
  refine (isEligible_iff _ _ _).mpr ⟨rfl, .inr (.inr ?_)⟩
  rcases submits.persisted with keeps | advances
  · constructor
    · simp only [Payload.checkpoint, keeps.watermark.trans watermark]
      exact inside
    · simp only [processedIds, Payload.checkpoint, keeps.window.trans kept]
      exact unrecorded
  · constructor
    · have advanced := advances.watermark
      rw [watermark] at advanced
      simp only [Payload.checkpoint, advanced]
      refine advancedWatermark_of_all (fun value =>
        subtract value settings.lookback < op.watermark) inside ?_ ?_
      · intro ref listed
        obtain ⟨other, member, rfl⟩ := selected ref listed
        exact (apart other member).2
      · rintro value ⟨⟩
        obtain ⟨other, member, attained⟩ := maxWatermark_attained submits.candidate
        exact attained ▸ (apart other member).2
    · intro recorded
      obtain ⟨ref, listed, same⟩ := List.mem_map.mp recorded
      simp only [Payload.checkpoint, advances.window, kept] at listed
      rcases List.mem_append.mp ((pruneWindow_prunes _ _).sound ref listed).1 with old | new
      · exact unrecorded (same ▸ List.mem_map_of_mem old)
      · obtain ⟨other, member, rfl⟩ := selected ref new
        exact (apart other member).1 same

end Slice

section Readmission
variable {settings : Settings} {env : RunEnv} {stored : Option Payload} {state : CheckpointState}
  {target : Watermark}

/-- A run that rolled back went on with the checkpoint it read, rolled back. -/
theorem rolledBackTo_recovery {prep : Preparation} {report : RunReport}
    (same : report.preparation = some prep) (prepares : Prepares settings env stored prep)
    (rolledBack : report.rolledBackTo = some target) (ready : prep.checkpoint = some checkpoint) :
    checkpoint = rollback target prep.found := by
  simp only [RunReport.rolledBackTo, same, Option.bind_some, ready, Option.isSome_some,
    Bool.and_true]
    at rolledBack
  split at rolledBack
  · rename_i failed
    rcases (prepares.ready checkpoint ready).1 with ⟨untouched⟩ | ⟨_, planned⟩
    · rw [untouched failed] at rolledBack
      cases rolledBack
    · rw [rolledBack, Option.some.injEq] at planned
      rw [planned]
  · cases rolledBack

theorem not_tripped_of_rolledBackTo {report : RunReport}
    (rolledBack : report.rolledBackTo = some target) :
    report.tripped = false := by
  rw [RunReport.rolledBackTo] at rolledBack
  rw [RunReport.tripped]
  cases prepared : report.preparation with
  | none => rfl
  | some prep => cases ready : prep.checkpoint <;> simp [prepared, ready] at rolledBack ⊢

/-- What led a run that commits flags after a rollback to its report. -/
theorem committed_after_rollback
    (rolledBack : (runBucket settings env stored).rolledBackTo = some target)
    (found : getCheckpoint env.now settings.bucketName stored = some state)
    (committed : jobId ∈ (runBucket settings env stored).committed) :
    ∃ prep window submission, Prepares settings env stored prep ∧
      prep.checkpoint = some (rollback target state) ∧
      ReadsWindow settings env (rollback target state).lastProcessedWatermark window ∧
      (let selected := selectEligible settings window.ops (rollback target state)
      let run := runSelected settings env prep (rollback target state) window selected prep.stored
      runBucket settings env stored =
          ⟨some prep, some window, some selected, run.scan, run.submission,
            run.committed, run.stored⟩ ∧
        Nonempty (Submits settings env prep (rollback target state) window selected prep.stored run
          submission)) := by
  obtain ⟨submission, submitted⟩ :=
    committed_shape committed (not_tripped_of_rolledBackTo rolledBack)
  obtain ⟨prep, checkpoint, window, prepares, ready, reads, ran, submits⟩ :=
    submission_shape submitted
  have same : (runBucket settings env stored).preparation = some prep := by rw [ran]
  have worked := rolledBackTo_recovery same prepares rolledBack ready
  have read := prepares.found
  rw [found, Option.some.injEq] at read
  rw [← read] at worked
  subst worked
  exact ⟨prep, window, submission, prepares, ready, reads, ran, submits⟩

/-- Whenever the ranges of the jobs a run commits are covered by the slice it
starts with or by what its tail leaves, nothing of them is lost. -/
theorem rangesReadmitted_of_covered
    (rolledBack : (runBucket settings env stored).rolledBackTo = some target)
    (found : getCheckpoint env.now settings.bucketName stored = some state)
    (covered : RangesCovered settings env state target (runBucket settings env stored)) :
    RangesReadmitted settings (runBucket settings env stored) env.journal := by
  intro outcome scored failed committed op journaled above below
  obtain ⟨prep, window, submission, prepares, ready, reads, ran, ⟨submits⟩⟩ :=
    committed_after_rollback rolledBack found committed
  have place := covered outcome scored failed committed op journaled above below
  rcases Bool.or_eq_true_iff.mp place with slice | tail
  · left
    obtain ⟨member, eligible⟩ := readEligible_of_inFirstSlice reads journaled slice
    rw [ran]
    exact ⟨window, _, rfl, ready, member, eligible⟩
  · right
    have keeps := keepsWindow_evolves (prepares.evolves ready) fun _ => isQuietOp_report
    obtain ⟨_, watermark, kept⟩ := getCheckpoint_fields found
    rw [ran]
    exact eligibleUnder_of_leftInTail reads submits (keeps.watermark.trans watermark.symm)
      (keeps.window.trans kept.symm) tail

/-- What a failed job submitted is readmitted only through the first slice. -/
theorem submittedInSlice_of_readmitted (path : Reachable settings FreshJob past stored)
    (fresh : FreshJob past env stored)
    (rolledBack : (runBucket settings env stored).rolledBackTo = some target)
    (found : getCheckpoint env.now settings.bucketName stored = some state)
    (readmitted : RangesReadmitted settings (runBucket settings env stored) env.journal) :
    SubmittedInSlice settings env state target past (runBucket settings env stored) := by
  intro submission member outcome failed committed usable op journaled carries above
  obtain ⟨history, memory⟩ := reachable_memory path fun _ _ _ fresh => fresh
  obtain ⟨later, grown, after⟩ := memory_run memory fresh
  obtain ⟨prep, window, _, prepares, ready, reads, ran, _⟩ :=
    committed_after_rollback rolledBack found committed
  have scored := failed.scored
  rw [ran] at scored
  obtain ⟨own, listed, same, _, high, remembered⟩ := memory_outcome memory prepares scored
  obtain rfl : own = submission :=
    memory_submission_unique memory listed member (same.trans failed.own)
  have below : op.watermark ≤ outcome.watermarkHigh := high ▸ (remembered.refs _ carries).2
  rcases readmitted outcome failed.scored failed.failed committed op journaled above below with
    ⟨read, checkpoint, windowed, worked, member, eligible⟩ | persisted
  · rw [ran] at windowed worked
    cases windowed
    cases (show prep.checkpoint = some checkpoint from worked).symm.trans ready
    have planned : prep.plan.rollbackTo = some target := by
      rw [ran] at rolledBack
      simp only [RunReport.rolledBackTo, Option.bind_some] at rolledBack
      split at rolledBack
      · exact rolledBack
      · cases rolledBack
    rw [prepares.plan] at planned
    have scoredHere : outcome ∈ (describePriorJobs settings env (priorSubmissions env stored)
        stored).1.outcomes := prepares.check ▸ scored
    have target_le := JobRecovery.rollbackTo_le planned scoredHere failed.failed usable
    rw [reads.ops, mem_readJournal_iff_range, reads.upTo] at member
    have upTo : (journalUntil settings env target).all (fun bound =>
        op.watermark ≤ bound) = true := by
      cases bounded : journalUntil settings env target with
      | none => rfl
      | some bound => exact decide_eq_true (member.2.2 bound bounded)
    have free := ((isEligible_iff _ _ _).mp eligible).1
    simp only [inFirstSlice, Bool.and_eq_true, decide_eq_true_eq, Bool.not_eq_true']
    exact ⟨⟨lt_of_le_of_lt target_le above, upTo⟩, free⟩
  · have agree : ProcessedHistory.Represents settings.lookback
        { (payloadOrDefault settings.bucketName
            (runBucket settings env stored).stored).checkpoint with
          lease := none } later := ProcessedHistory.represents_lease after.represents none
    have hidden := not_eligible_of_carries agree (remembered.extend grown) carries
    rw [EligibleUnder, hidden] at persisted
    cases persisted

/-- Covered ranges are readmitted; and of what was submitted in them nothing
but the first slice is. -/
theorem rangesReadmitted_when_covered (path : Reachable settings FreshJob past stored)
    (fresh : FreshJob past env stored)
    (rolledBack : (runBucket settings env stored).rolledBackTo = some target)
    (found : getCheckpoint env.now settings.bucketName stored = some state) :
    (RangesCovered settings env state target (runBucket settings env stored) →
      RangesReadmitted settings (runBucket settings env stored) env.journal) ∧
    (RangesReadmitted settings (runBucket settings env stored) env.journal →
      SubmittedInSlice settings env state target past (runBucket settings env stored)) :=
  ⟨rangesReadmitted_of_covered rolledBack found,
    submittedInSlice_of_readmitted path fresh rolledBack found⟩

end Readmission

section Sample
open Settings

/-- Two jobs may run at once, and three failures in a row trip the breaker. -/
def pairs : Settings :=
  { photos with
    maxBatchJobFailures := 3
    maxConcurrentJobs := 2
    failuresPositive := by decide
    concurrencyPositive := by decide }

def threeRows : Journal :=
  [photosRow "ant" "yes" 11, photosRow "bee" "yes" 12, photosRow "cat" "yes" 13]

def stillRunning (_ : String) : Option JobDescription := some (.plain "Active")

def bothFailed (_ : String) : Option JobDescription := some (.plain "Failed")

/-- A job over the first two rows, then one over the third. -/
def firstJob : RunEnv := .smooth 20 threeRows stillRunning (.created "job-1")

def secondJob : RunEnv := .smooth 30 threeRows stillRunning (.created "job-2")

def firstSubmitted : Past × Option Payload :=
  replay pairs [firstJob] .initial (some (seedCheckpoint "photos" 10))

/-- The first job fails before the second is submitted. -/
def firstFailed : RunEnv := .smooth 30 threeRows bothFailed (.created "job-2")

/-- Its range fits the cap and is readmitted. -/
theorem rangesReadmitted_first_job :
    RangesReadmitted pairs (runBucket pairs firstFailed firstSubmitted.2) threeRows := by
  have path : Reachable pairs FreshJob firstSubmitted.1 firstSubmitted.2 :=
    reachable_replay pairs [firstJob] (.seeded 10) (by decide +kernel)
  have found : getCheckpoint firstFailed.now "photos" firstSubmitted.2 =
      some (payloadOrDefault "photos" firstSubmitted.2).checkpoint := by decide +kernel
  have rolledBack : (runBucket pairs firstFailed firstSubmitted.2).rolledBackTo =
      some (toWatermark 10) := by decide +kernel
  have covered : RangesCovered pairs firstFailed
      (payloadOrDefault "photos" firstSubmitted.2).checkpoint
      (toWatermark 10) (runBucket pairs firstFailed firstSubmitted.2) := by
    rw [RangesCovered]
    decide +kernel
  exact (rangesReadmitted_when_covered path (by decide +kernel) rolledBack found).1 covered

def rowsSubmitted : Past × Option Payload :=
  replay pairs [firstJob, secondJob] .initial (some (seedCheckpoint "photos" 10))

theorem rowsSubmitted_reachable : Reachable pairs FreshJob rowsSubmitted.1 rowsSubmitted.2 :=
  reachable_replay pairs [firstJob, secondJob] (.seeded 10) (by decide +kernel)

/-- Both jobs have failed when the third run rolls the watermark back. -/
def rolledBackRun : RunEnv := .smooth 40 threeRows bothFailed (.created "job-3")

/-- The capped read covers the first two rows again, both flags are committed,
and the third row stays behind the persisted watermark and window. -/
theorem ranges_not_readmitted :
    ¬ ∀ settings past stored env target, Reachable settings FreshJob past stored →
      FreshJob past env stored → (runBucket settings env stored).rolledBackTo = some target →
      RangesReadmitted settings (runBucket settings env stored) env.journal := by
  intro readmitted
  have claimed := readmitted pairs rowsSubmitted.1 rowsSubmitted.2 rolledBackRun (toWatermark 10)
    rowsSubmitted_reachable (by decide +kernel) (by decide +kernel)
  let cat := photosOp "cat" "yes" 13
  have lost : ∃ outcome ∈ (runBucket pairs rolledBackRun rowsSubmitted.2).outcomes,
      JobRecovery.isEffectiveFailure outcome ∧
      outcome.jobId ∈ (runBucket pairs rolledBackRun rowsSubmitted.2).committed ∧
      cat ∈ (readJournal rolledBackRun.journal "photos" epoch none).1 ∧
      outcome.watermarkLow < cat.watermark ∧ cat.watermark ≤ outcome.watermarkHigh := by
    decide +kernel
  obtain ⟨outcome, scored, failed, committed, journaled, above, below⟩ := lost
  rcases claimed outcome scored failed committed cat journaled above below with
    ⟨window, checkpoint, read, worked, member, eligible⟩ | persisted
  · have unread : (runBucket pairs rolledBackRun rowsSubmitted.2).window.any
        (fun window => cat ∈ window.ops) = false := by decide +kernel
    rw [read, Option.any_some, decide_eq_false_iff_not] at unread
    exact unread member
  · have hidden : isEligible cat { (payloadOrDefault "photos"
        (runBucket pairs rolledBackRun rowsSubmitted.2).stored).checkpoint with lease := none }
        pairs.lookback = false := by decide +kernel
    exact absurd persisted (by rw [EligibleUnder]; exact Bool.eq_false_iff.mp hidden)

end Sample
end ReplicateOnTag.Orchestrator

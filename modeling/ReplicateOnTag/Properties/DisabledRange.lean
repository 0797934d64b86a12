import ReplicateOnTag.Orchestrator.History

/-! What a bucket re-reads after the terminal-job breaker disabled it and an
operator re-enabled it: the failed jobs' own release has already moved the
watermark over their range, and the rollback that would undo it is dropped. -/
namespace ReplicateOnTag.Orchestrator
open StateStore Watermark CheckpointLogic ProcessedHistory

/-- The breaker tripped and its disable reached the object. -/
structure Disables (settings : Settings) (env : RunEnv)
    (stored : Option Payload) (after : Payload) :
    Prop where
  tripped : (runBucket settings env stored).tripped
  leaves : (runBucket settings env stored).stored = some after
  disabled : after.disabled = true

/-- Every operation of a newly failed job's range that was submitted in it is
eligible under the checkpoint. -/
def RangeReadmitted (settings : Settings) (past : Past) (report : RunReport)
    (state : CheckpointState) :
    Prop :=
  ∀ submission ∈ past.submissions, ∀ outcome, NewlyFailed report submission outcome →
    ∀ op, submission.Carries op → outcome.watermarkLow < op.watermark →
      op.watermark ≤ outcome.watermarkHigh → isEligible op state settings.lookback

/-- Nothing the newly failed jobs submitted lies above the start of their range. -/
def OnlyLateArrivals (past : Past) (report : RunReport) : Prop :=
  ∀ submission ∈ past.submissions, ∀ outcome, NewlyFailed report submission outcome →
    ∀ op, submission.Carries op → op.watermark ≤ outcome.watermarkLow

section Disabling
variable {settings : Settings} {env : RunEnv} {past : Past}
  {stored : Option Payload} {after : Payload}

/-- The run that disables a bucket leaves what was remembered as it was, and
its newly failed jobs are among it. -/
theorem disables_memory (path : Reachable settings FreshJob past stored)
    (disables : Disables settings env stored after) :
    ∃ history, Represents settings.lookback after.checkpoint history ∧
      ∀ submission ∈ past.submissions, ∀ outcome,
        NewlyFailed (runBucket settings env stored) submission outcome →
          submission.record.watermarkHigh = outcome.watermarkHigh ∧
            Remembered history submission := by
  obtain ⟨history, memory⟩ := reachable_memory path fun _ _ _ fresh => fresh
  obtain ⟨prep, reason, prepares, _, ran⟩ := tripped_shape disables.tripped
  have unsubmitted : (runBucket settings env stored).submission = none := by rw [ran]
  have kept := memory_evolves (runBucket_unsubmitted unsubmitted) (fun _ => isQuietOp_run) memory
  rw [disables.leaves] at kept
  refine ⟨history, kept.represents, ?_⟩
  intro submission member outcome failed
  have scored := failed.scored
  rw [ran] at scored
  obtain ⟨own, listed, same, _, high, remembered⟩ := memory_outcome memory prepares scored
  have equal : own = submission :=
    memory_submission_unique memory listed member (same.trans failed.own)
  exact equal ▸ ⟨high, remembered⟩

/-- After a disable and a re-enable the failed range is readmitted only when
there is nothing in it to readmit. -/
theorem rangeReadmitted_iff_onlyLateArrivals (path : Reachable settings FreshJob past stored)
    (disables : Disables settings env stored after)
    (read : getCheckpoint now settings.bucketName (some (reenabled after)) = some state) :
    RangeReadmitted settings past (runBucket settings env stored) state ↔
      OnlyLateArrivals past (runBucket settings env stored) := by
  obtain ⟨history, agree, newlyFailed⟩ := disables_memory path disables
  have found : Represents settings.lookback state history := by
    obtain ⟨_, watermark, window⟩ := getCheckpoint_fields read
    exact represents_of_fields agree watermark window
  constructor
  · intro readmitted submission member outcome failed op carries
    obtain ⟨high, remembered⟩ := newlyFailed submission member outcome failed
    by_contra above
    have eligible := readmitted submission member outcome failed op carries (not_le.mp above)
      (high ▸ (remembered.refs _ carries).2)
    rw [not_eligible_of_carries found remembered carries] at eligible
    cases eligible
  · intro late submission member outcome failed op carries above _
    exact absurd above (not_lt.mpr (late submission member outcome failed op carries))

end Disabling

section Sample
open Settings

/-- One run submits a job over one row; the next finds it failed. -/
def catSubmitted : RunEnv :=
  .smooth 20 [photosRow "cat" "yes" 15] (fun _ => none) (.created "job-1")

def catFailed : RunEnv :=
  .smooth 30 [photosRow "cat" "yes" 15] (fun _ => some (.plain "Failed")) (.rejected .service)

def catPoint : Past × Option Payload :=
  replay photos [catSubmitted] .initial (some (seedCheckpoint "photos" 10))

def catDisabled : Payload :=
  payloadOrDefault "photos" (runBucket photos catFailed catPoint.2).stored

theorem catPoint_reachable : Reachable photos FreshJob catPoint.1 catPoint.2 :=
  reachable_replay photos [catSubmitted] (.seeded 10) (by decide +kernel)

theorem catFailed_disables : Disables photos catFailed catPoint.2 catDisabled :=
  ⟨by decide +kernel, by decide +kernel, by decide +kernel⟩

theorem rangeReadmitted_iff_onlyLateArrivals_cat :
    RangeReadmitted photos catPoint.1 (runBucket photos catFailed catPoint.2)
      catDisabled.checkpoint ↔
      OnlyLateArrivals catPoint.1 (runBucket photos catFailed catPoint.2) :=
  rangeReadmitted_iff_onlyLateArrivals catPoint_reachable catFailed_disables
    (show getCheckpoint 40 "photos" (some (reenabled catDisabled)) = some catDisabled.checkpoint by
      decide +kernel)

/-- The row of the failed job stays hidden behind the watermark its own
submission has persisted. -/
theorem disabled_range_not_readmitted :
    ¬ ∀ settings past stored env after now state, Reachable settings FreshJob past stored →
      Disables settings env stored after →
      getCheckpoint now settings.bucketName (some (reenabled after)) = some state →
      RangeReadmitted settings past (runBucket settings env stored) state := by
  intro readmitted
  have claimed := readmitted photos catPoint.1 catPoint.2 catFailed catDisabled 40
    catDisabled.checkpoint catPoint_reachable catFailed_disables (by decide +kernel)
  let cat := photosOp "cat" "yes" 15
  have lost : ∃ submission ∈ catPoint.1.submissions,
      ∃ outcome ∈ (runBucket photos catFailed catPoint.2).outcomes,
        JobRecovery.isEffectiveFailure outcome ∧ outcome.jobId = submission.record.jobId ∧
        (⟨cat.logicalOperationId, cat.watermark⟩ : ProcessedRef) ∈ submission.refs ∧
        outcome.watermarkLow < cat.watermark ∧ cat.watermark ≤ outcome.watermarkHigh := by
    decide +kernel
  obtain ⟨submission, member, outcome, scored, failed, own, carries, above, below⟩ := lost
  have eligible := claimed submission member outcome ⟨scored, failed, own⟩ cat carries above below
  have hidden : isEligible cat catDisabled.checkpoint photos.lookback = false := by decide +kernel
  rw [hidden] at eligible
  cases eligible

end Sample
end ReplicateOnTag.Orchestrator

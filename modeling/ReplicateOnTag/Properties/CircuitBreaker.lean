import ReplicateOnTag.Orchestrator.History

/-! When the recovery outcome of a failed job is used up: its flag is set, or
its record goes, in a run that submits a job or in one that disables the
bucket. The breaker's own branch commits the flags whether or not its disable
reached the object. -/
namespace ReplicateOnTag.Orchestrator
open StateStore JobRecovery

/-- The run does not see that the job of the record succeeded. -/
def mayHaveFailed (settings : Settings) (env : RunEnv) (record : SubmissionRecord) : Bool :=
  !terminalRecord env record || failedRecord settings env record

/-- Whenever a run uses up the outcome of a job that may have failed, it has
submitted a job or left the bucket disabled. -/
def ConsumesOnlyWhenActing (settings : Settings) (env : RunEnv) (stored : Option Payload) : Prop :=
  ∀ jobId record, recordFor settings.bucketName stored jobId = some record →
    record.recoveryScored = false → mayHaveFailed settings env record →
    Consumed settings.bucketName (runBucket settings env stored).stored jobId →
      (runBucket settings env stored).submission.isSome ∨
        (payloadOrDefault settings.bucketName (runBucket settings env stored).stored).disabled =
          true

/-- What the loop over the jobs of earlier runs collects. -/
def priorCheck (settings : Settings) (env : RunEnv) (stored : Option Payload) : JobCheck :=
  (describePriorJobs settings env (priorSubmissions env stored) stored).1

/-- The run comes to the recovery step, and the plan there is to disable the bucket. -/
structure BreakerTrips (settings : Settings) (env : RunEnv) (stored : Option Payload) : Prop where
  enabled : env.reads .disableState = true ∧ (getDisableState stored).disabled = false
  starts : env.starts = true
  found : env.reads .checkpoint = true ∧ (getCheckpoint env.now settings.bucketName stored).isSome
  failed : (priorCheck settings env stored).anyCheckFailed = true
  planned : (recoveryPlan settings env stored).disableReason.isSome

/-- A tripped breaker's disable reaches the object, or no flag of a failed job does. -/
def DisableOutweighsFlags (settings : Settings) (env : RunEnv) (stored : Option Payload) : Prop :=
  BreakerTrips settings env stored →
    env.writes .disable ≠ .refused ∨
      ∀ outcome ∈ (priorCheck settings env stored).outcomes, isEffectiveFailure outcome →
        env.writes (.scored outcome.jobId) = .refused

section Tripping
variable {settings : Settings} {env : RunEnv} {stored : Option Payload}

/-- The preparation gives up its checkpoint where the plan is to disable. -/
theorem prepared_breached_iff :
    (∃ prep, prepareStateAndRecovery settings env stored = some prep ∧ prep.checkpoint = none) ↔
      (env.reads .checkpoint = true ∧ (getCheckpoint env.now settings.bucketName stored).isSome) ∧
        (priorCheck settings env stored).anyCheckFailed = true ∧
        (recoveryPlan settings env stored).disableReason.isSome := by
  simp only [prepareStateAndRecovery, priorCheck, applyRecoveryPlan]
  cases env.reads .checkpoint with
  | false => simp
  | true =>
    cases getCheckpoint env.now settings.bucketName stored with
    | none => simp
    | some state =>
      cases (describePriorJobs settings env (priorSubmissions env stored)
        stored).1.anyCheckFailed with
      | false => simp
      | true =>
        cases (recoveryPlan settings env stored).disableReason with
        | some reason => simp
        | none => cases (recoveryPlan settings env stored).rollbackTo <;> simp

theorem tripped_iff : (runBucket settings env stored).tripped = true ↔
    BreakerTrips settings env stored := by
  have parts : BreakerTrips settings env stored ↔
      (env.reads .disableState = true ∧ (getDisableState stored).disabled = false) ∧
        env.starts = true ∧
        ∃ prep, prepareStateAndRecovery settings env stored = some prep ∧
          prep.checkpoint = none := by
    rw [prepared_breached_iff]
    exact ⟨fun trips => ⟨trips.enabled, trips.starts, trips.found, trips.failed, trips.planned⟩,
      fun ⟨enabled, starts, found, failed, planned⟩ => ⟨enabled, starts, found, failed, planned⟩⟩
  rw [parts, runBucket, processBucket]
  cases env.reads .disableState <;> cases (getDisableState stored).disabled <;> cases env.starts <;>
    try simp [RunReport.tripped, RunReport.skipped]
  cases prepareStateAndRecovery settings env stored with
  | none => simp
  | some prep =>
    cases ready : prep.checkpoint with
    | none => simp [ready]
    | some checkpoint =>
      simp only [ready]
      split
      · simp [ready]
      · split <;> simp [ready]

end Tripping

section Pending
variable {bucket jobId : String} {stored : Option Payload}

/-- The bucket is disabled, or the job's outcome can still be scored. -/
def Pending (bucket jobId : String) (stored : Option Payload) : Prop :=
  (payloadOrDefault bucket stored).disabled = true ∨
    ∃ record, recordFor bucket stored jobId = some record ∧ record.recoveryScored = false

/-- Operations that neither replace the records nor set the job's flag; a
disable does, and leaves the bucket disabled. -/
def KeepsOutcome (jobId : String) : StateOp → Prop
  | .recordSubmission .. => False
  | .markReportDiagnosed marked _ scored => marked = jobId → scored = false
  | _ => True

theorem Pending.not_consumed (pending : Pending bucket jobId stored)
    (consumed : Consumed bucket stored jobId) :
    (payloadOrDefault bucket stored).disabled = true := by
  rcases pending with disabled | ⟨record, found, unscored⟩
  · exact disabled
  · rw [consumed record found] at unscored
    cases unscored

theorem pending_of_frame {op : StateOp} (applied : op.apply bucket stored = some after)
    (records : PayloadKey.submissionRecords ∉ op.ownedKeys)
    (flag : PayloadKey.disabled ∉ op.ownedKeys)
    (pending : Pending bucket jobId stored) : Pending bucket jobId (some after) := by
  rcases pending with disabled | ⟨record, found, unscored⟩
  · have same : (payloadOrDefault bucket stored).disabled = after.disabled :=
      StateOp.frame applied flag
    exact .inl (same.symm.trans disabled)
  · exact .inr ⟨record, (recordFor_of_agrees (StateOp.frame applied records)).trans found, unscored⟩

theorem pending_apply (keeps : KeepsOutcome jobId op)
    (applied : op.apply bucket stored = some after)
    (pending : Pending bucket jobId stored) : Pending bucket jobId (some after) := by
  cases op with
  | recordSubmission => exact keeps.elim
  | disableBucket reason now =>
    cases applied
    exact .inl rfl
  | markReportDiagnosed marked diagnosed scored =>
    rcases pending with disabled | ⟨record, found, unscored⟩
    · have same : (payloadOrDefault bucket stored).Agrees after .disabled :=
        StateOp.frame applied (by simp [StateOp.ownedKeys])
      exact .inl (Eq.trans (Eq.symm same) disabled)
    · right
      cases applied
      rw [recordFor_markReportDiagnosed, found, Option.map_some]
      refine ⟨_, rfl, ?_⟩
      split
      · rename_i own
        simp [setFlags, unscored, keeps own.symm]
      · exact unscored
  | putCheckpoint | acquireLease | releaseLease | mergeCompletionReport | storeCompletionTimestamps
  | deleteCompletionItems | addAlertedConfig | clearAlertedConfig | recordScanResult
  | incrementSubmissionFailureStreak | clearSubmissionFailureStreak
  | recordJournalUnavailableAlert =>
    exact pending_of_frame applied (by simp [StateOp.ownedKeys, StateOp.checkpointKeys])
      (by simp [StateOp.ownedKeys, StateOp.checkpointKeys]) pending

theorem pending_evolves (path : Evolves bucket allowed stored after)
    (keeps : ∀ op, allowed op → KeepsOutcome jobId op) (pending : Pending bucket jobId stored) :
    Pending bucket jobId after :=
  path.preserves (Pending bucket jobId) (fun op _ _ member applied =>
    pending_apply (keeps op member) applied)
    pending

/-- A run keeps the outcomes of the jobs whose flags it does not commit. -/
theorem keepsOutcome_run {op : StateOp} (run : IsRunOp committed op) (other : jobId ∉ committed) :
    KeepsOutcome jobId op := by
  cases op with
  | recordSubmission => exact run
  | markReportDiagnosed marked diagnosed scored =>
    intro same
    cases scored with
    | false => rfl
    | true => exact absurd (same ▸ run rfl) other
  | _ => trivial

end Pending

section Acting
variable {settings : Settings} {env : RunEnv} {stored : Option Payload}

/-- A newly scored job that may have failed is among the failed outcomes. -/
theorem failed_outcome_of_newlyScored (prepares : Prepares settings env stored prep)
    (found : recordFor settings.bucketName stored jobId = some record)
    (may : mayHaveFailed settings env record) (listed : jobId ∈ prep.check.newlyScoredJobIds) :
    ∃ outcome ∈ prep.check.outcomes, isEffectiveFailure outcome ∧ outcome.jobId = jobId := by
  rw [newlyScored_eq prepares] at listed
  obtain ⟨outcome, scored, rfl⟩ := List.mem_map.mp listed
  obtain ⟨stores, job, present, _, viewed, rfl⟩ := record_of_outcome prepares scored
  have same : some record = some stores := found.symm.trans present
  cases same
  refine ⟨_, scored, ?_, rfl⟩
  simpa [mayHaveFailed, terminalRecord, failedRecord, viewed] using may

/-- A run that trips the breaker without its disable reaching the object sets
the flags of the jobs whose flag write does. -/
theorem breach_outweighs (acting : ConsumesOnlyWhenActing settings env stored) :
    DisableOutweighsFlags settings env stored := by
  intro trips
  by_contra neither
  simp only [not_or, not_not, not_forall] at neither
  obtain ⟨refused, outcome, scored, failed, landed⟩ := neither
  obtain ⟨prep, reason, prepares, _, ran⟩ := tripped_shape (tripped_iff.mpr trips)
  rw [priorCheck, ← prepares.check] at scored
  obtain ⟨record, job, found, unscored, viewed, same⟩ := record_of_outcome prepares scored
  have may : mayHaveFailed settings env record := by
    rw [same] at failed
    simp only [mayHaveFailed, failedRecord, viewed, Bool.or_eq_true]
    exact .inr failed
  have listed : outcome.jobId ∈ prep.check.newlyScoredJobIds := by
    rw [newlyScored_eq prepares]
    exact List.mem_map_of_mem scored
  have unchanged : disable settings env reason (settledObject settings env stored) =
      settledObject settings env stored := write_refused refused
  have acted := acting outcome.jobId record found unscored may
  rw [ran, unchanged] at acted
  rcases acted (commitRecoveryScored_scores listed landed) with submitted | disabled
  · cases submitted
  · have enabled : (payloadOrDefault settings.bucketName stored).disabled = false :=
      enabled_of_prepared (by rw [ran]; rfl)
    have first := settledObject_disabled settings env stored
    have last := commitRecoveryScored_disabled settings env prep.check.newlyScoredJobIds
      (settledObject settings env stored)
    have agree : (payloadOrDefault settings.bucketName stored).disabled = _ :=
      agrees_trans first last
    rw [← agree, enabled] at disabled
    cases disabled

/-- What a breached run leaves of an outcome that may still be scored. -/
theorem pending_breached (prepares : Prepares settings env stored prep)
    (found : recordFor settings.bucketName stored jobId = some record)
    (may : mayHaveFailed settings env record)
    (pending : Pending settings.bucketName jobId (settledObject settings env stored))
    (outweighs : env.writes .disable ≠ .refused ∨
      ∀ outcome ∈ prep.check.outcomes, isEffectiveFailure outcome →
        env.writes (.scored outcome.jobId) = .refused) :
    Pending settings.bucketName jobId
      (commitRecoveryScored settings env prep.check.newlyScoredJobIds
      (disable settings env reason (settledObject settings env stored))) := by
  have disables : Pending settings.bucketName jobId
      (disable settings env reason (settledObject settings env stored)) := by
    have path : Evolves settings.bucketName (KeepsOutcome jobId) (settledObject settings env stored)
        (disable settings env reason (settledObject settings env stored)) := write_evolves trivial
    exact pending_evolves path (fun _ keeps => keeps) pending
  by_cases landed : env.writes .disable ≠ .refused
  · have disabled := disable_landed settings reason (settledObject settings env stored) landed
    have kept := commitRecoveryScored_disabled settings env prep.check.newlyScoredJobIds
      (disable settings env reason (settledObject settings env stored))
    exact .inl (Eq.trans (Eq.symm kept) disabled)
  · have refused := outweighs.resolve_left landed
    rw [commitRecoveryScored_landed]
    refine pending_evolves (commitRecoveryScored_evolves settings env _ _)
      (fun _ scoring => keepsOutcome_run (isRunOp_scoring scoring) ?_) disables
    intro listed
    obtain ⟨newly, reaches⟩ := List.mem_filter.mp listed
    obtain ⟨outcome, scored, failed, rfl⟩ := failed_outcome_of_newlyScored prepares found may newly
    exact of_decide_eq_true reaches (refused outcome scored failed)

theorem acts_of_outweighs (outweighs : DisableOutweighsFlags settings env stored) :
    ConsumesOnlyWhenActing settings env stored := by
  intro jobId record found unscored may consumed
  have pending : Pending settings.bucketName jobId stored := .inr ⟨record, found, unscored⟩
  cases submitted : (runBucket settings env stored).submission with
  | some submission => exact .inl rfl
  | none =>
    right
    refine Pending.not_consumed ?_ consumed
    by_cases tripped : (runBucket settings env stored).tripped
    · have settled := pending_evolves (settledObject_evolves settings env stored)
        (fun _ report => keepsOutcome_run (isRunOp_report report) List.not_mem_nil) pending
      have reaches := outweighs (tripped_iff.mp tripped)
      obtain ⟨prep, reason, prepares, _, ran⟩ := tripped_shape tripped
      rw [priorCheck, ← prepares.check] at reaches
      rw [ran]
      exact pending_breached prepares found may settled reaches
    · refine pending_evolves (runBucket_unsubmitted submitted)
        (fun _ run => keepsOutcome_run run fun committed => ?_) pending
      obtain ⟨submission, other⟩ := committed_shape committed (Bool.eq_false_iff.mpr tripped)
      cases submitted.symm.trans other

/-- In every state, reachable or not, a run uses up the outcome of a job that may
have failed only while acting on it, exactly when the disable of a tripped
breaker reaches the object or no failed job's flag write does. -/
theorem consumesOnlyWhenActing_iff (settings : Settings) (env : RunEnv) (stored : Option Payload) :
    ConsumesOnlyWhenActing settings env stored ↔ DisableOutweighsFlags settings env stored :=
  ⟨breach_outweighs, acts_of_outweighs⟩

end Acting

section Sample
open Settings

def oneRow : Journal := [photosRow "ant" "yes" 11]

def antJob : Past × Option Payload :=
  replay photos [.smooth 20 oneRow (fun _ => none) (.created "job-1")] .initial
    (some (seedCheckpoint "photos" 10))

theorem antJob_reachable : Reachable photos FreshJob antJob.1 antJob.2 :=
  reachable_replay photos _ (.seeded 10) (by decide +kernel)

/-- The next run finds the job failed; its disable is refused and its flag
write served. -/
def disableRefused : RunEnv :=
  { RunEnv.smooth 30 oneRow (fun _ => some (.plain "Failed")) (.rejected .service) with
    writes := fun site => if site = .disable then .refused else .served }

/-- The failed job is scored although no job was submitted and the bucket stays enabled. -/
theorem outcome_consumed_without_acting :
    ¬ ∀ settings past stored env, Reachable settings FreshJob past stored →
      FreshJob past env stored → ConsumesOnlyWhenActing settings env stored := by
  intro acting
  have claimed := acting photos antJob.1 antJob.2 disableRefused
    antJob_reachable (by decide +kernel)
  have pending : (recordFor "photos" antJob.2 "job-1").any (fun record =>
      !record.recoveryScored && mayHaveFailed photos disableRefused record) =
        true := by decide +kernel
  have scored : (recordFor "photos" (runBucket photos disableRefused antJob.2).stored "job-1").all
      (fun record => record.recoveryScored) = true := by decide +kernel
  obtain ⟨record, found, unscored⟩ := (Option.any_eq_true _ _).mp pending
  simp only [Bool.and_eq_true, Bool.not_eq_true'] at unscored
  rcases claimed "job-1" record found unscored.1 unscored.2 fun later stored => by
      have found : recordFor "photos" (runBucket photos disableRefused antJob.2).stored "job-1" =
        some later := stored
      simpa [found] using scored
    with submitted | disabled
  · exact absurd submitted (by decide +kernel)
  · exact absurd disabled (by decide +kernel)

end Sample
end ReplicateOnTag.Orchestrator

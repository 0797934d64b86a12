import ReplicateOnTag.Adapters.RecordLookup
import ReplicateOnTag.Orchestrator.PersistedWindow

/-! What a run leaves of the submission records: where each record comes from,
and which flags it gained on the way. -/
namespace ReplicateOnTag.Orchestrator
open StateStore

section Origin

/-- What a quiet operation does to the records: a disable drops them all, a
flag write marks one, and the others leave them alone. -/
theorem records_quiet (quiet : IsQuietOp op) (applied : op.apply bucket stored = some after) :
    (∃ reason now, op = .disableBucket reason now ∧
      ∀ jobId, recordFor bucket (some after) jobId = none) ∨
      (∃ marked diagnosed scored, op = .markReportDiagnosed marked diagnosed scored ∧
        ∀ jobId, recordFor bucket (some after) jobId =
          (recordFor bucket stored jobId).map fun record =>
          if jobId = marked then setFlags diagnosed scored record else record) ∨
      ∀ jobId, recordFor bucket (some after) jobId = recordFor bucket stored jobId := by
  by_cases foreign : PayloadKey.submissionRecords ∈ op.ownedKeys
  · cases op with
    | recordSubmission => exact quiet.elim
    | disableBucket reason now =>
      cases applied
      exact .inl ⟨reason, now, rfl, fun _ => recordFor_disableBucket⟩
    | markReportDiagnosed marked diagnosed scored =>
      cases applied
      exact .inr (.inl ⟨marked, diagnosed, scored, rfl, fun _ => recordFor_markReportDiagnosed⟩)
    | putCheckpoint | acquireLease | releaseLease | mergeCompletionReport
    | storeCompletionTimestamps | deleteCompletionItems | addAlertedConfig | clearAlertedConfig
    | recordScanResult
    | incrementSubmissionFailureStreak | clearSubmissionFailureStreak
    | recordJournalUnavailableAlert => simp [StateOp.ownedKeys, StateOp.checkpointKeys] at foreign
  · exact .inr (.inr fun _ => recordFor_of_agrees (StateOp.frame applied foreign))

/-- What a quiet operation leaves of a job's record: nothing, or the record up
to its flags. -/
theorem recordFor_quiet (quiet : IsQuietOp op) (applied : op.apply bucket stored = some after)
    (found : recordFor bucket (some after) jobId = some record) :
    ∃ old, recordFor bucket stored jobId = some old ∧
      (record = old ∨ ∃ diagnosed scored, op = .markReportDiagnosed jobId diagnosed scored ∧
        record = setFlags diagnosed scored old) := by
  rcases records_quiet quiet applied with
    ⟨_, _, _, gone⟩ | ⟨marked, diagnosed, scored, rfl, marks⟩ | same
  · rw [gone] at found
    cases found
  · rw [marks] at found
    obtain ⟨old, present, equal⟩ := Option.map_eq_some_iff.mp found
    refine ⟨old, present, ?_⟩
    split at equal
    · rename_i own
      exact .inr ⟨diagnosed, scored, by rw [own], equal.symm⟩
    · exact .inl equal.symm
  · exact ⟨record, same jobId ▸ found, .inl rfl⟩

theorem setFlags_none (record : SubmissionRecord) : setFlags false false record = record := by
  simp [setFlags]

theorem setFlags_setFlags (record : SubmissionRecord) :
    setFlags diagnosed scored (setFlags earlier first record) =
      setFlags (earlier || diagnosed) (first || scored) record := by
  simp [setFlags, Bool.or_assoc]

/-- After quiet operations a record is an earlier one, up to the flags that
operations on its own job have set. -/
theorem recordFor_evolves (path : Evolves bucket allowed stored after)
    (quiet : ∀ op, allowed op → IsQuietOp op)
    (found : recordFor bucket after jobId = some record) :
    ∃ old diagnosed scored, recordFor bucket stored jobId = some old ∧
      record = setFlags diagnosed scored old ∧
      (scored = true → ∃ marked, allowed (.markReportDiagnosed jobId marked true)) := by
  induction path generalizing record with
  | refl => exact ⟨record, false, false, found, (setFlags_none record).symm, nofun⟩
  | next earlier member applied ih =>
    obtain ⟨middle, present, shape⟩ := recordFor_quiet (quiet _ member) applied found
    obtain ⟨old, diagnosed, scored, first, rfl, cause⟩ := ih present
    rcases shape with rfl | ⟨marks, scores, rfl, rfl⟩
    · exact ⟨old, diagnosed, scored, first, rfl, cause⟩
    · refine ⟨old, _, _, first, setFlags_setFlags old, ?_⟩
      intro either
      cases scores with
      | false => exact cause (by simpa using either)
      | true => exact ⟨marks, member⟩

/-- A record without its flags. -/
def unflagged (record : SubmissionRecord) : SubmissionRecord :=
  { record with
    reportDiagnosed := false
    recoveryScored := false }

theorem unflagged_marked (found : Option SubmissionRecord) (own : Prop) [Decidable own]
    (diagnosed scored : Bool) :
    (found.map fun record => if own then setFlags diagnosed scored record
      else record).map unflagged =
      found.map unflagged := by
  rw [Option.map_map]
  congr 1
  funext record
  simp only [Function.comp_apply]
  split <;> rfl

theorem submittedAt_of_unflagged (same : unflagged first = unflagged second) :
    first.submittedAt = second.submittedAt := by
  change (unflagged first).submittedAt = (unflagged second).submittedAt
  rw [same]

theorem counter_of_unflagged (same : unflagged first = unflagged second) :
    first.consecutiveFailures = second.consecutiveFailures := by
  change (unflagged first).consecutiveFailures = (unflagged second).consecutiveFailures
  rw [same]

/-- No record is left, or every one is there up to its flags. -/
def KeepsRecords (bucket : String) (before after : Option Payload) : Prop :=
  (∀ jobId, recordFor bucket after jobId = none) ∨
    ∀ jobId, (recordFor bucket after jobId).map unflagged =
      (recordFor bucket before jobId).map unflagged

theorem keepsRecords_apply (quiet : IsQuietOp op) (applied : op.apply bucket stored = some after)
    (keeps : KeepsRecords bucket before stored) :
    KeepsRecords bucket before (some after) := by
  rcases records_quiet quiet applied with ⟨_, _, _, gone⟩ | ⟨marked, _, _, _, marks⟩ | same
  · exact .inl gone
  · rcases keeps with gone | kept
    · exact .inl fun jobId => by rw [marks, gone, Option.map_none]
    · exact .inr fun jobId => by rw [marks, unflagged_marked, kept]
  · exact keeps.imp (fun gone jobId => (same jobId).trans (gone jobId))
      fun kept jobId => by rw [same, kept]

theorem keepsRecords_evolves (path : Evolves bucket allowed stored after)
    (quiet : ∀ op, allowed op → IsQuietOp op) : KeepsRecords bucket stored after :=
  path.preserves (KeepsRecords bucket stored)
    (fun op _ _ member applied => keepsRecords_apply (quiet op member) applied) (.inr fun _ => rfl)

end Origin

section Committing
variable {settings : Settings} {env : RunEnv} {stored : Option Payload}

/-- The job's outcome is no longer there to be scored. -/
def Consumed (bucket : String) (stored : Option Payload) (jobId : String) : Prop :=
  ∀ record, recordFor bucket stored jobId = some record → record.recoveryScored = true

theorem disable_landed (settings : Settings) (reason : String) (stored : Option Payload)
    (landed : env.writes .disable ≠ .refused) :
    (payloadOrDefault settings.bucketName (disable settings env reason stored)).disabled =
      true := by
  have applied : (StateOp.disableBucket reason env.now).apply settings.bucketName stored =
      some (disableBucket settings.bucketName reason env.now stored) := rfl
  rw [disable, writeBestEffort, write_landed applied landed]
  rfl

/-- Only the flag writes that reach the object count. -/
theorem commitRecoveryScored_landed (jobIds : List String) (stored : Option Payload) :
    commitRecoveryScored settings env jobIds stored =
      commitRecoveryScored settings env (jobIds.filter fun jobId =>
        env.writes (.scored jobId) ≠ .refused)
        stored := by
  induction jobIds generalizing stored with
  | nil => rfl
  | cons jobId rest ih =>
    simp only [commitRecoveryScored] at ih ⊢
    by_cases refused : env.writes (.scored jobId) = .refused
    · rw [List.foldl_cons, writeBestEffort, write_refused refused, ih]
      simp [refused]
    · rw [List.foldl_cons, ih]
      simp [refused]

theorem commitRecoveryScored_disabled (settings : Settings) (env : RunEnv) (jobIds : List String)
    (stored : Option Payload) :
    (payloadOrDefault settings.bucketName stored).Agrees
      (payloadOrDefault settings.bucketName (commitRecoveryScored settings env jobIds stored))
      .disabled := by
  refine (commitRecoveryScored_evolves settings env jobIds stored).frame fun op scoring => ?_
  cases op <;> simp_all [IsScoringOp, StateOp.ownedKeys]

theorem settledObject_disabled (settings : Settings) (env : RunEnv) (stored : Option Payload) :
    (payloadOrDefault settings.bucketName stored).Agrees
      (payloadOrDefault settings.bucketName (settledObject settings env stored)) .disabled := by
  refine (settledObject_evolves settings env stored).frame fun op report => ?_
  cases op <;> simp_all [IsReportOp, StateOp.ownedKeys]

/-- A flag that is set stays set while flags are written. -/
theorem consumed_scoring (consumed : Consumed settings.bucketName stored jobId)
    (jobIds : List String) :
    Consumed settings.bucketName (commitRecoveryScored settings env jobIds stored) jobId := by
  refine (commitRecoveryScored_evolves settings env jobIds stored).preserves
    (Consumed settings.bucketName · jobId) ?_ consumed
  intro op before after scoring applied consumed record found
  obtain ⟨old, present, shape⟩ := recordFor_quiet (isQuietOp_scoring scoring) applied found
  rcases shape with rfl | ⟨diagnosed, scored, _, rfl⟩
  · exact consumed record present
  · simp [setFlags, consumed old present]

/-- One flag write that reaches the object. -/
theorem consumed_write (landed : env.writes (.scored jobId) ≠ .refused) :
    Consumed settings.bucketName (writeBestEffort settings env (.scored jobId)
      (.markReportDiagnosed jobId false true) stored) jobId := by
  have applied : (StateOp.markReportDiagnosed jobId false true).apply settings.bucketName stored =
      some (markReportDiagnosed settings.bucketName jobId false true stored) := rfl
  rw [writeBestEffort, write_landed applied landed]
  intro record found
  rw [recordFor_markReportDiagnosed] at found
  obtain ⟨old, _, rfl⟩ := Option.map_eq_some_iff.mp found
  simp [setFlags]

/-- A job whose flag write reaches the object is scored afterwards. -/
theorem commitRecoveryScored_scores (listed : jobId ∈ jobIds)
    (landed : env.writes (.scored jobId) ≠ .refused) :
    Consumed settings.bucketName (commitRecoveryScored settings env jobIds stored) jobId := by
  induction jobIds generalizing stored with
  | nil => cases listed
  | cons first rest ih =>
    rcases List.mem_cons.mp listed with rfl | later
    · exact consumed_scoring (consumed_write landed) rest
    · exact ih later

/-- Flag writes keep every record, up to its flags. -/
theorem commitRecoveryScored_unflagged (jobIds : List String) (jobId : String) :
    (recordFor settings.bucketName (commitRecoveryScored settings env jobIds stored)
      jobId).map unflagged =
      (recordFor settings.bucketName stored jobId).map unflagged := by
  refine (commitRecoveryScored_evolves settings env jobIds stored).preserves
    (fun object => (recordFor settings.bucketName object jobId).map unflagged =
      (recordFor settings.bucketName stored jobId).map unflagged) ?_ rfl
  intro op before after scoring applied same
  rcases records_quiet (isQuietOp_scoring scoring) applied with
    ⟨_, _, rfl, _⟩ | ⟨marked, _, _, _, marks⟩ | unchanged
  · cases scoring
  · rw [marks, unflagged_marked, same]
  · rw [unchanged, same]

end Committing

section Submitting
variable {settings : Settings} {env : RunEnv} {prep : Preparation} {checkpoint : CheckpointState}
  {window : JournalWindow} {selected : Selected} {stored : Option Payload} {run : LeasedRun}
  {submission : Submission}

theorem Submits.named
    (submits : Submits settings env prep checkpoint window selected stored run submission)
    (named : ∀ jobId, env.createJob = .created jobId → jobId ≠ "") :
    submission.record.jobId ≠ "" := by
  rw [submits.record]
  exact named _ submits.created

/-- The object between the release of a submitting run and its flag writes. -/
def Submits.filed
    (submits : Submits settings env prep checkpoint window selected stored run submission) :
    Option Payload :=
  let released := write settings env .release
    (.releaseLease env.now (some submission.refs) settings.lookback (some submits.candidateHwm))
    submits.body
  if released.ok then
    persistSubmission settings env (some submission.record)
      prep.check.terminalJobIds released.stored
  else released.stored

theorem Submits.commits
    (submits : Submits settings env prep checkpoint window selected stored run submission) :
    run.stored = commitRecoveryScored settings env run.committed submits.filed := by
  rw [submits.committed]
  exact submits.concluded

/-- Until the release a record is one that was stored, or its diagnosis flag. -/
theorem Submits.record_released {jobId : String} {record : SubmissionRecord}
    (submits : Submits settings env prep checkpoint window selected stored run submission)
    (found : recordFor settings.bucketName submits.body jobId = some record) :
    ∃ old diagnosed, recordFor settings.bucketName stored jobId = some old ∧
      record = setFlags diagnosed false old := by
  obtain ⟨old, diagnosed, scored, present, same, cause⟩ :=
    recordFor_evolves submits.until_release (fun _ => isQuietOp_unsubmitted) found
  refine ⟨old, diagnosed, present, ?_⟩
  cases scored with
  | false => exact same
  | true =>
    obtain ⟨marked, body⟩ := cause rfl
    cases body

/-- A record that is filed is the new job's, or was stored before. -/
theorem Submits.record_filed {jobId : String} {record : SubmissionRecord}
    (submits : Submits settings env prep checkpoint window selected stored run submission)
    (named : submission.record.jobId ≠ "")
    (found : recordFor settings.bucketName submits.filed jobId = some record) :
    (jobId = submission.record.jobId ∧ record = submission.record) ∨
      ∃ old diagnosed, recordFor settings.bucketName stored jobId = some old ∧
        record = setFlags diagnosed false old := by
  rw [Submits.filed] at found
  generalize releasing : write settings env .release (.releaseLease env.now (some submission.refs)
    settings.lookback (some submits.candidateHwm)) submits.body = released at found
  have frame := write_frame settings env .release
    (.releaseLease env.now (some submission.refs) settings.lookback (some submits.candidateHwm))
    submits.body
    (show PayloadKey.submissionRecords ∉ _ by simp [StateOp.ownedKeys, StateOp.checkpointKeys])
  rw [releasing] at frame
  have kept : ∀ {record}, recordFor settings.bucketName released.stored jobId = some record →
      ∃ old diagnosed, recordFor settings.bucketName stored jobId = some old ∧
        record = setFlags diagnosed false old := fun found =>
    submits.record_released (recordFor_of_agrees frame ▸ found)
  split at found
  · simp only [persistSubmission, writeBestEffort] at found
    rcases write_cases settings env .persist (.recordSubmission submission.record
      prep.check.terminalJobIds settings.completionTracking (some settings.maxConcurrentJobs))
      released.stored with ⟨same, _⟩ | ⟨after, applied, same⟩
    · rw [same] at found
      exact .inr (kept found)
    · rw [same] at found
      simp only [StateOp.apply, StateOp.program, ConditionalStore.Update.atomically,
        StateOp.compute] at applied
      split at applied
      · rename_i own
        cases applied
        rw [recordFor_recordSubmission named, own] at found
        rcases retainedRecords_sound found with new | ⟨_, old⟩
        · exact .inl new
        · exact .inr (kept old)
      · cases applied
  · exact .inr (kept found)

/-- When writes are served the record is filed on the object the release left. -/
theorem Submits.filed_served
    (submits : Submits settings env prep checkpoint window selected stored run submission)
    (served : ∀ site, env.writes site = .served)
    (readable : Readable env.now settings.bucketName stored) :
    ∃ after, (StateOp.releaseLease env.now (some submission.refs) settings.lookback
        (some submits.candidateHwm)).apply settings.bucketName submits.body = some after ∧
      submits.filed = some (recordSubmission submission.record prep.check.terminalJobIds
        settings.completionTracking (some settings.maxConcurrentJobs) (some after)) := by
  obtain ⟨after, applied⟩ := submits.release_applies readable
  have own : submission.record.sourceBucket = settings.bucketName := by
    rw [submits.record]
    rfl
  have files : (StateOp.recordSubmission submission.record prep.check.terminalJobIds
      settings.completionTracking (some settings.maxConcurrentJobs)).apply settings.bucketName
      (some after) = some (recordSubmission submission.record prep.check.terminalJobIds
        settings.completionTracking (some settings.maxConcurrentJobs) (some after)) := by
    simp only [StateOp.apply, StateOp.program, ConditionalStore.Update.atomically, StateOp.compute,
      if_pos own]
  refine ⟨after, applied, ?_⟩
  rw [Submits.filed]
  simp only [write_served applied (served .release), if_true, persistSubmission, writeBestEffort,
    write_served files (served .persist)]

/-- The record of a run whose writes are served is filed. -/
theorem Submits.filed_own
    (submits : Submits settings env prep checkpoint window selected stored run submission)
    (served : ∀ site, env.writes site = .served)
    (readable : Readable env.now settings.bucketName stored)
    (named : submission.record.jobId ≠ "") :
    recordFor settings.bucketName submits.filed submission.record.jobId =
      some submission.record := by
  obtain ⟨after, _, stores⟩ := submits.filed_served served readable
  rw [stores, recordFor_recordSubmission named]
  exact retainedRecords_own _ _ _ _ _

end Submitting

section Runs
variable {settings : Settings} {env : RunEnv} {stored : Option Payload}

/-- After a run a record is the new job's or an earlier one, up to its flags;
only committed jobs gain the scored flag. -/
theorem runBucket_record
    (named : ∀ jobId, env.createJob = .created jobId → jobId ≠ "")
    (found : recordFor settings.bucketName (runBucket settings env stored).stored
      jobId = some record) :
    ∃ diagnosed scored,
      (scored = true → jobId ∈ (runBucket settings env stored).committed) ∧
      ((∃ submission, (runBucket settings env stored).submission = some submission ∧
          jobId = submission.record.jobId ∧ record = setFlags diagnosed scored submission.record) ∨
        ∃ old, recordFor settings.bucketName stored jobId = some old ∧
          record = setFlags diagnosed scored old) := by
  cases submitted : (runBucket settings env stored).submission with
  | none =>
    obtain ⟨old, diagnosed, scored, present, same, cause⟩ :=
      recordFor_evolves (runBucket_unsubmitted submitted) (fun _ => isQuietOp_run) found
    refine ⟨diagnosed, scored, fun flagged => ?_, .inr ⟨old, present, same⟩⟩
    obtain ⟨marked, run⟩ := cause flagged
    exact run rfl
  | some submission =>
    obtain ⟨prep, checkpoint, window, prepares, ready, _, ran, ⟨submits⟩⟩ :=
      submission_shape submitted
    have own := submits.named named
    rw [ran] at found ⊢
    simp only [submits.commits] at found
    obtain ⟨middle, diagnosed, scored, present, rfl, cause⟩ := recordFor_evolves
      (commitRecoveryScored_evolves settings env _ _) (fun _ => isQuietOp_scoring) found
    have committed : scored = true → jobId ∈ _ := fun flagged => (cause flagged).choose_spec.1
    rcases submits.record_filed own present with ⟨rfl, rfl⟩ | ⟨old, marks, stays, rfl⟩
    · exact ⟨diagnosed, scored, committed, .inl ⟨submission, rfl, rfl, rfl⟩⟩
    · obtain ⟨first, earlier, flag, kept, rfl, none⟩ := recordFor_evolves
        (prepares.evolves ready) (fun _ => isQuietOp_report) stays
      have unflagged : flag = false := by
        cases flag with
        | false => rfl
        | true =>
          obtain ⟨_, report⟩ := none rfl
          cases report
      subst unflagged
      refine ⟨earlier || marks || diagnosed, scored, committed, .inr ⟨first, kept, ?_⟩⟩
      simp [setFlags_setFlags]

/-- A run whose writes are served files the record of the job it submits. -/
theorem runBucket_filed
    (named : ∀ jobId, env.createJob = .created jobId → jobId ≠ "")
    (served : ∀ site, env.writes site = .served)
    (submitted : (runBucket settings env stored).submission = some submission) :
    ∃ record, recordFor settings.bucketName (runBucket settings env stored).stored
        submission.record.jobId = some record ∧ unflagged record = unflagged submission.record := by
  obtain ⟨prep, checkpoint, window, prepares, ready, _, ran, ⟨submits⟩⟩ :=
    submission_shape submitted
  have own := submits.named named
  have readable := readable_evolves (prepares.evolves ready) (fun _ => isQuietOp_report)
    (readable_of_getCheckpoint prepares.found)
  rw [ran]
  refine Option.map_eq_some_iff.mp ?_
  simp only [submits.commits]
  rw [commitRecoveryScored_unflagged,
    submits.filed_own served readable own, Option.map_some]

/-- A flag that a run commits is set when its write is served. -/
theorem runBucket_committed (served : ∀ site, env.writes site = .served)
    (committed : jobId ∈ (runBucket settings env stored).committed) :
    Consumed settings.bucketName (runBucket settings env stored).stored jobId := by
  have landed : env.writes (.scored jobId) ≠ .refused := by simp [served]
  by_cases tripped : (runBucket settings env stored).tripped
  · obtain ⟨prep, reason, prepares, _, ran⟩ := tripped_shape tripped
    rw [ran] at committed ⊢
    exact commitRecoveryScored_scores committed landed
  · obtain ⟨submission, submitted⟩ := committed_shape committed (Bool.eq_false_iff.mpr tripped)
    obtain ⟨prep, checkpoint, window, prepares, ready, _, ran, ⟨submits⟩⟩ :=
      submission_shape submitted
    rw [ran] at committed ⊢
    simp only [submits.commits]
    exact commitRecoveryScored_scores committed landed

/-- A submitting run commits the flags of all it scored. -/
theorem mem_committed_iff
    (submitted : (runBucket settings env stored).submission = some submission) :
    jobId ∈ (runBucket settings env stored).committed ↔
      ∃ outcome ∈ (runBucket settings env stored).outcomes, outcome.jobId = jobId := by
  obtain ⟨prep, checkpoint, window, prepares, _, _, ran, ⟨submits⟩⟩ := submission_shape submitted
  rw [ran]
  simp only [submits.committed, newlyScored_eq prepares, List.mem_map, RunReport.outcomes,
    Option.map_some, Option.getD_some]

end Runs

section Enabled
variable {settings : Settings} {env : RunEnv} {stored : Option Payload}

/-- A disabled bucket stays disabled. -/
theorem disabled_apply {op : StateOp} (applied : op.apply bucket stored = some after)
    (disabled : (payloadOrDefault bucket stored).disabled = true) : after.disabled = true := by
  by_cases foreign : PayloadKey.disabled ∈ op.ownedKeys
  · cases op with
    | disableBucket =>
      cases applied
      rfl
    | _ => simp [StateOp.ownedKeys, StateOp.checkpointKeys] at foreign
  · exact (Eq.symm (StateOp.frame applied foreign)).trans disabled

theorem disabled_evolves (path : Evolves bucket allowed stored after)
    (disabled : (payloadOrDefault bucket stored).disabled = true) :
    (payloadOrDefault bucket after).disabled = true :=
  path.preserves (fun object => (payloadOrDefault bucket object).disabled = true)
    (fun _ _ _ _ applied => disabled_apply applied) disabled

/-- Quiet operations that leave the bucket enabled keep every record, up to its flags. -/
theorem keepsRecords_enabled (path : Evolves bucket allowed stored after)
    (quiet : ∀ op, allowed op → IsQuietOp op)
    (enabled : (payloadOrDefault bucket after).disabled = false) (jobId : String) :
    (recordFor bucket after jobId).map unflagged =
    (recordFor bucket stored jobId).map unflagged := by
  have either : (payloadOrDefault bucket after).disabled = true ∨
      (recordFor bucket after jobId).map unflagged =
        (recordFor bucket stored jobId).map unflagged := by
    refine path.preserves (fun object => (payloadOrDefault bucket object).disabled = true ∨
      (recordFor bucket object jobId).map unflagged =
        (recordFor bucket stored jobId).map unflagged) ?_
      (.inr rfl)
    intro op before after member applied holds
    rcases holds with disabled | same
    · exact .inl (disabled_apply applied disabled)
    rcases records_quiet (quiet op member) applied with ⟨_, _, rfl, _⟩ | ⟨_, _,
      _, _, marks⟩ | unchanged
    · cases applied
      exact .inl rfl
    · exact .inr (by rw [marks, unflagged_marked, same])
    · exact .inr (by rw [unchanged, same])
  rcases either with disabled | same
  · rw [enabled] at disabled
    cases disabled
  · exact same

/-- A run whose disable would have reached the object did not trip the breaker
when it leaves the bucket enabled. -/
theorem calm_of_enabled (landed : env.writes .disable ≠ .refused)
    (enabled : (payloadOrDefault settings.bucketName
      (runBucket settings env stored).stored).disabled = false) :
    (runBucket settings env stored).tripped = false := by
  by_contra tripped
  obtain ⟨prep, reason, prepares, _, ran⟩ := tripped_shape (Bool.not_eq_false _ ▸ tripped)
  have disabled := disable_landed settings reason (settledObject settings env stored) landed
  have kept := commitRecoveryScored_disabled settings env prep.check.newlyScoredJobIds
    (disable settings env reason (settledObject settings env stored))
  rw [ran] at enabled
  cases (Eq.trans (Eq.symm kept) disabled).symm.trans enabled

/-- A run that submits nothing and leaves the bucket enabled keeps every record,
up to its diagnosis flag. -/
theorem unsubmitted_record (landed : env.writes .disable ≠ .refused)
    (enabled : (payloadOrDefault settings.bucketName
      (runBucket settings env stored).stored).disabled = false)
    (absent : (runBucket settings env stored).submission = none) (jobId : String) :
    (∀ record, recordFor settings.bucketName
      (runBucket settings env stored).stored jobId = some record →
      ∃ old, recordFor settings.bucketName stored jobId = some old ∧
        record.recoveryScored = old.recoveryScored) ∧
    ((recordFor settings.bucketName stored jobId).isSome →
      (recordFor settings.bucketName (runBucket settings env stored).stored jobId).isSome) := by
  have path := runBucket_unsubmitted absent
  constructor
  · intro record found
    obtain ⟨old, diagnosed, scored, present, rfl, cause⟩ :=
      recordFor_evolves path (fun _ => isQuietOp_run) found
    refine ⟨old, present, ?_⟩
    cases scored with
    | false => simp [setFlags]
    | true =>
      obtain ⟨_, run⟩ := cause rfl
      obtain ⟨submission, other⟩ := committed_shape (run rfl) (calm_of_enabled landed enabled)
      cases absent.symm.trans other
  · intro present
    have same := keepsRecords_enabled path (fun _ => isQuietOp_run) enabled jobId
    rw [← Option.isSome_map, same, Option.isSome_map]
    exact present

/-- Fewer records, fewer jobs of any kind. -/
theorem recordedJobs_le (records : ∀ jobId, (recordFor bucket after jobId).isSome →
      (recordFor bucket stored jobId).isSome) (kind : String → Bool) :
    ((getSubmissionRecords after).keys.filter kind).length ≤
      ((getSubmissionRecords stored).keys.filter kind).length := by
  refine (List.subperm_of_subset ((Dict.keys_nodup _).filter _) ?_).length_le
  intro key member
  obtain ⟨listed, ofKind⟩ := List.mem_filter.mp member
  rw [getSubmissionRecords_eq bucket, Dict.mem_keys_iff] at listed
  refine List.mem_filter.mpr ⟨?_, ofKind⟩
  rw [getSubmissionRecords_eq bucket, Dict.mem_keys_iff]
  exact Option.isSome_iff_exists.mp (records key (Option.isSome_iff_exists.mpr listed))

/-- While the jobs not known to be terminal fit under the ceiling, submitting
keeps the record of each of them. -/
theorem Submits.filed_running {prep : Preparation} {checkpoint : CheckpointState}
    {window : JournalWindow}
    {selected : Selected} {run : LeasedRun} {submission : Submission} {jobId : String}
    (submits : Submits settings env prep checkpoint window selected stored run submission)
    (served : ∀ site, env.writes site = .served)
    (readable : Readable env.now settings.bucketName stored)
    (named : submission.record.jobId ≠ "")
    (enabled : (payloadOrDefault settings.bucketName submits.filed).disabled = false)
    (present : (recordFor settings.bucketName stored jobId).isSome)
    (other : jobId ≠ submission.record.jobId) (running : jobId ∉ prep.check.terminalJobIds)
    (few : ((getSubmissionRecords stored).keys.filter fun other =>
      other ∉ prep.check.terminalJobIds).length <
        submissionRecordCeiling settings.maxConcurrentJobs) :
    (recordFor settings.bucketName submits.filed jobId).isSome := by
  obtain ⟨after, applied, stores⟩ := submits.filed_served served readable
  have own : submission.record.sourceBucket = settings.bucketName := by
    rw [submits.record]
    rfl
  have records := StateOp.frame applied
    (show PayloadKey.submissionRecords ∉ _ by simp [StateOp.ownedKeys, StateOp.checkpointKeys])
  have flag := StateOp.frame applied
    (show PayloadKey.disabled ∉ _ by simp [StateOp.ownedKeys, StateOp.checkpointKeys])
  rw [stores, recordSubmission, own] at enabled
  have open_ : (payloadOrDefault settings.bucketName submits.body).disabled = false :=
    Eq.trans flag enabled
  have loaded : ∀ jobId, recordFor settings.bucketName (some after) jobId =
      recordFor settings.bucketName submits.body jobId := fun jobId => recordFor_of_agrees records
  have kept := keepsRecords_enabled submits.until_release (fun _ => isQuietOp_unsubmitted) open_
  have same : ∀ jobId, (recordFor settings.bucketName (some after) jobId).isSome =
      (recordFor settings.bucketName stored jobId).isSome := by
    intro jobId
    rw [loaded, ← Option.isSome_map, kept, Option.isSome_map]
  obtain ⟨record, old⟩ := Option.isSome_iff_exists.mp ((same jobId).trans present)
  have fewer := (recordedJobs_le (fun jobId => (same jobId).le) fun other =>
    other ∉ prep.check.terminalJobIds).trans_lt few
  rw [stores, recordFor_recordSubmission named]
  exact Option.isSome_of_eq_some (retainedRecords_running old other running fewer)

/-- The same over a whole run that submits and leaves the bucket enabled. -/
theorem runBucket_running {jobId : String} {prep : Preparation}
    (named : ∀ jobId, env.createJob = .created jobId → jobId ≠ "")
    (served : ∀ site, env.writes site = .served)
    (enabled : (payloadOrDefault settings.bucketName
      (runBucket settings env stored).stored).disabled = false)
    (submitted : (runBucket settings env stored).submission = some submission)
    (prepared : (runBucket settings env stored).preparation = some prep)
    (present : (recordFor settings.bucketName stored jobId).isSome)
    (other : jobId ≠ submission.record.jobId) (running : jobId ∉ prep.check.terminalJobIds)
    (few : ((getSubmissionRecords stored).keys.filter fun other =>
      other ∉ prep.check.terminalJobIds).length <
        submissionRecordCeiling settings.maxConcurrentJobs) :
    (recordFor settings.bucketName (runBucket settings env stored).stored jobId).isSome := by
  obtain ⟨found, checkpoint, window, prepares, ready, _, ran, ⟨submits⟩⟩ :=
    submission_shape submitted
  rw [ran] at prepared enabled ⊢
  cases prepared
  have own := submits.named named
  have readable := readable_evolves (prepares.evolves ready) (fun _ => isQuietOp_report)
    (readable_of_getCheckpoint prepares.found)
  simp only [submits.commits] at enabled ⊢
  have scoring := commitRecoveryScored_evolves settings env
    (runSelected settings env prep checkpoint window (selectEligible settings window.ops checkpoint)
      prep.stored).committed submits.filed
  have open_ : (payloadOrDefault settings.bucketName submits.filed).disabled = false := by
    by_contra disabled
    rw [disabled_evolves scoring (by simpa using disabled)] at enabled
    cases enabled
  have settled : (payloadOrDefault settings.bucketName prep.stored).disabled = false := by
    rw [(prepares.ready checkpoint ready).2]
    have started : (runBucket settings env stored).preparation.isSome := by
      rw [ran]
      rfl
    exact Eq.trans (Eq.symm (settledObject_disabled settings env stored))
      (enabled_of_prepared started)
  have kept := keepsRecords_enabled (prepares.evolves ready) (fun _ => isQuietOp_report) settled
  have same : ∀ jobId, (recordFor settings.bucketName prep.stored jobId).isSome =
      (recordFor settings.bucketName stored jobId).isSome := by
    intro jobId
    rw [← Option.isSome_map, kept, Option.isSome_map]
  have filed := submits.filed_running served readable own open_
    ((same jobId).trans present) other running
    ((recordedJobs_le (fun jobId => (same jobId).le) _).trans_lt few)
  rw [← Option.isSome_map, commitRecoveryScored_unflagged, Option.isSome_map]
  exact filed

end Enabled
end ReplicateOnTag.Orchestrator

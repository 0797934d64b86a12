import ReplicateOnTag.Library.Awaiting
import ReplicateOnTag.Orchestrator.Timeline

/-! When the outcome of a terminal job is handed to the recovery plan. -/
namespace ReplicateOnTag.Orchestrator
open StateStore Awaiting JobRecovery

/-- The run finds the job at a terminal status. -/
def Ran.Observes (settings : Settings) (jobId : String) (ran : Ran) : Prop :=
  ∃ prep, (ran.report settings).preparation = some prep ∧ jobId ∈ prep.check.terminalJobIds

/-- The job's outcome is part of what the run plans recovery from. -/
def Ran.Scores (settings : Settings) (jobId : String) (ran : Ran) : Prop :=
  ∃ outcome ∈ (ran.report settings).outcomes, outcome.jobId = jobId

def Ran.Submits (settings : Settings) (ran : Ran) : Prop := (ran.report settings).submission.isSome

/-- No record of the object is marked as acted on; records of earlier builds
carry no such mark, under whatever key they are stored. -/
def Unscored (settings : Settings) (stored : Option Payload) : Prop :=
  ∀ jobId record, recordFor settings.bucketName stored jobId = some record →
    record.recoveryScored = false

/-- The job is in the records of an object that some event found. -/
def Recorded (settings : Settings) (past : List Moment) (stored : Option Payload)
    (jobId : String) : Prop :=
  ∃ object ∈ past.map Moment.found ++ [stored], (recordFor settings.bucketName object jobId).isSome

/-- State reads, state writes and DescribeJob succeed and the bucket is not
disabled. Batch Operations issues new job ids and keeps a terminal status. -/
structure Answered (settings : Settings) (past : List Moment) (env : RunEnv)
    (stored : Option Payload) :
    Prop where
  reads : ∀ read, env.reads read = true
  writes : ∀ site, env.writes site = .served
  enabled : (payloadOrDefault settings.bucketName (runBucket settings env stored).stored).disabled =
    false
  described : ∀ jobId record, recordFor settings.bucketName stored jobId = some record →
    env.describeJob jobId ≠ none
  final : ∀ jobId, (∃ ran ∈ runs past, ran.Observes settings jobId) →
    ∀ job, env.describeJob jobId = some job → isTerminalStatus (some job.status)
  fresh : ∀ jobId, env.createJob = .created jobId → jobId ≠ "" ∧
    ¬ Recorded settings past stored jobId

def AnsweredEvent (settings : Settings) (past : List Moment) (event : Event)
    (stored : Option Payload) :
    Prop :=
  ∀ env, event = .run env → Answered settings past env stored

section Step
variable {settings : Settings} {env : RunEnv} {past : List Moment} {stored : Option Payload}
  {jobId : String}

theorem observes_iff (reads : ∀ read, env.reads read = true) :
    Ran.Observes settings jobId ⟨env, stored⟩ ↔ (runBucket settings env stored).preparation.isSome ∧
      ∃ record job, recordFor settings.bucketName stored jobId = some record ∧
        viewJob env jobId = .terminal job := by
  constructor
  · rintro ⟨prep, prepared, listed⟩
    have prepares := prepares_of_preparation prepared
    rw [prepares.check] at listed
    obtain ⟨record, prior, _, rfl, job, viewed⟩ := mem_terminalJobIds.mp listed
    rw [priorSubmissions, if_pos (reads _)] at prior
    obtain ⟨key, found⟩ := mem_getSubmissionRecords.mp prior
    obtain ⟨rfl, _⟩ := recordFor_jobId found
    exact ⟨Option.isSome_of_eq_some prepared, record, job, found, viewed⟩
  · rintro ⟨reached, record, job, found, viewed⟩
    obtain ⟨prep, prepared⟩ := Option.isSome_iff_exists.mp reached
    refine ⟨prep, prepared, ?_⟩
    obtain ⟨own, named⟩ := recordFor_jobId found
    rw [(prepares_of_preparation prepared).check, mem_terminalJobIds, priorSubmissions,
      if_pos (reads _)]
    exact ⟨record, mem_getSubmissionRecords.mpr ⟨jobId, found⟩, own ▸ named, own, job, own ▸ viewed⟩

theorem scores_iff (reads : ∀ read, env.reads read = true) :
    Ran.Scores settings jobId ⟨env, stored⟩ ↔ (runBucket settings env stored).preparation.isSome ∧
      ∃ record job, recordFor settings.bucketName stored jobId = some record ∧
        record.recoveryScored = false ∧ viewJob env jobId = .terminal job := by
  constructor
  · rintro ⟨outcome, scored, rfl⟩
    simp only [Ran.report, RunReport.outcomes] at scored
    cases prepared : (runBucket settings env stored).preparation with
    | none => simp [prepared] at scored
    | some prep =>
      rw [prepared] at scored
      obtain ⟨record, job, found, unscored, viewed, same⟩ :=
        record_of_outcome (prepares_of_preparation prepared) scored
      have own : record.jobId = outcome.jobId := by rw [same]; rfl
      exact ⟨rfl, record, job, found, unscored, own ▸ viewed⟩
  · rintro ⟨reached, record, job, found, unscored, viewed⟩
    obtain ⟨prep, prepared⟩ := Option.isSome_iff_exists.mp reached
    obtain ⟨own, named⟩ := recordFor_jobId found
    have listed : toOutcome settings record job ∈ prep.check.outcomes := by
      rw [(prepares_of_preparation prepared).check, mem_outcomes, priorSubmissions,
        if_pos (reads _)]
      exact ⟨record, mem_getSubmissionRecords.mpr ⟨jobId, found⟩, own ▸ named,
        unscored, job, own ▸ viewed,
        rfl⟩
    refine ⟨toOutcome settings record job, ?_, own⟩
    simpa [Ran.report, RunReport.outcomes, prepared] using listed

theorem observed_of_scores (reads : ∀ read, env.reads read = true)
    (scores : Ran.Scores settings jobId ⟨env, stored⟩) :
    Ran.Observes settings jobId ⟨env, stored⟩ := by
  obtain ⟨reached, record, job, found, _, viewed⟩ := (scores_iff reads).mp scores
  exact (observes_iff reads).mpr ⟨reached, record, job, found, viewed⟩

theorem terminal_of_final (answered : Answered settings past env stored)
    (found : recordFor settings.bucketName stored jobId = some record)
    (saw : ∃ ran ∈ runs past, ran.Observes settings jobId) : ∃ job,
      viewJob env jobId = .terminal job := by
  cases replied : env.describeJob jobId with
  | none => exact absurd replied (answered.described jobId record found)
  | some job => exact ⟨job, by simp [viewJob, replied, answered.final jobId saw job replied]⟩

end Step

section Scoring
variable {settings : Settings} {env : RunEnv} {past : List Moment} {stored : Option Payload}
  {jobId : String}

abbrev StandingOutcome (settings : Settings) (past : List Moment) (jobId : String) : Prop :=
  Standing (Ran.Observes settings jobId) (Ran.Submits settings) (runs past)

abbrev DueOutcome (settings : Settings) (past : List Moment) (jobId : String) (ran : Ran) : Prop :=
  Due (Ran.Observes settings jobId) (Ran.Submits settings) (runs past) ran

theorem standingOutcome_run : StandingOutcome settings (past ++ [⟨.run env, stored⟩]) jobId ↔
    DueOutcome settings past jobId ⟨env, stored⟩ ∧ ¬ Ran.Submits settings ⟨env, stored⟩ := by
  rw [StandingOutcome, runs_run, standing_next]

theorem exists_observes_run :
    (∃ ran ∈ runs (past ++ [⟨.run env, stored⟩]), ran.Observes settings jobId) ↔
    (∃ ran ∈ runs past, ran.Observes settings jobId) ∨
      Ran.Observes settings jobId ⟨env, stored⟩ := by
  simp [or_and_right, exists_or]

/-- A stored flag says that the job was observed and its outcome acted on; an
outcome still to be acted on has its record. -/
structure Flagged (settings : Settings) (past : List Moment) (stored : Option Payload) : Prop where
  flag : ∀ jobId record, recordFor settings.bucketName stored jobId = some record →
    (record.recoveryScored = true ↔
      (∃ ran ∈ runs past, ran.Observes settings jobId) ∧ ¬ StandingOutcome settings past jobId)
  standing : ∀ jobId, StandingOutcome settings past jobId →
    (recordFor settings.bucketName stored jobId).isSome

theorem Flagged.unscored (flagged : Flagged settings past stored)
    (found : recordFor settings.bucketName stored jobId = some record) :
    record.recoveryScored = false ↔ StandingOutcome settings past jobId ∨
      ∀ ran ∈ runs past, ¬ ran.Observes settings jobId := by
  rw [← Bool.not_eq_true, flagged.flag jobId record found]
  constructor
  · intro neither
    by_cases standing : StandingOutcome settings past jobId
    · exact .inl standing
    · exact .inr fun ran member saw => neither ⟨⟨ran, member, saw⟩, standing⟩
  · rintro (standing | unseen) ⟨⟨ran, member, saw⟩, gone⟩
    · exact gone standing
    · exact unseen ran member saw

/-- A run that reaches the loop scores a job exactly when the job is due. -/
theorem Flagged.scores_iff_due (flagged : Flagged settings past stored)
    (answered : Answered settings past env stored)
    (reached : (runBucket settings env stored).preparation.isSome) :
    Ran.Scores settings jobId ⟨env, stored⟩ ↔ DueOutcome settings past jobId ⟨env, stored⟩ := by
  constructor
  · intro scores
    have observes := observed_of_scores answered.reads scores
    obtain ⟨_, record, job, found, unscored, _⟩ := (scores_iff answered.reads).mp scores
    exact ((flagged.unscored found).mp unscored).imp id fun unseen => ⟨observes, unseen⟩
  · rintro (standing | ⟨observes, unseen⟩)
    · obtain ⟨record, found⟩ := Option.isSome_iff_exists.mp (flagged.standing jobId standing)
      obtain ⟨job, viewed⟩ := terminal_of_final answered found standing.observed
      exact (scores_iff answered.reads).mpr
        ⟨reached, record, job, found, (flagged.unscored found).mpr (.inl standing), viewed⟩
    · obtain ⟨_, record, job, found, viewed⟩ := (observes_iff answered.reads).mp observes
      exact (scores_iff answered.reads).mpr
        ⟨reached, record, job, found, (flagged.unscored found).mpr (.inr unseen), viewed⟩

/-- Only what is recorded is observed. -/
theorem recorded_of_observes (reads : ∀ read, env.reads read = true)
    (observes : Ran.Observes settings jobId ⟨env, stored⟩) :
    (recordFor settings.bucketName stored jobId).isSome := by
  obtain ⟨_, record, _, found, _⟩ := (observes_iff reads).mp observes
  exact Option.isSome_of_eq_some found

/-- A run that submits nothing leaves the outcomes as they stood. -/
theorem flagged_unsubmitted (flagged : Flagged settings past stored)
    (answered : Answered settings past env stored)
    (absent : (runBucket settings env stored).submission = none) :
    Flagged settings (past ++ [⟨.run env, stored⟩]) (runBucket settings env stored).stored := by
  have landed : env.writes .disable ≠ .refused := by simp [answered.writes]
  have keeps := unsubmitted_record landed answered.enabled absent
  have idle : ¬ Ran.Submits settings ⟨env, stored⟩ := by simp [Ran.Submits, Ran.report, absent]
  refine ⟨fun jobId record found => ?_, fun jobId standing => (keeps jobId).2 ?_⟩
  · obtain ⟨old, present, same⟩ := (keeps jobId).1 record found
    rw [same, flagged.flag jobId old present, exists_observes_run, standingOutcome_run]
    constructor
    · rintro ⟨saw, gone⟩
      exact ⟨.inl saw, fun due => not_standing_of_acted saw gone due.1⟩
    · rintro ⟨saw, gone⟩
      have quiet : ¬ DueOutcome settings past jobId ⟨env, stored⟩ := fun due => gone ⟨due, idle⟩
      refine ⟨?_, fun standing => quiet (.inl standing)⟩
      rcases saw with earlier | now
      · exact earlier
      · by_contra unseen
        exact quiet (.inr ⟨now, fun ran member observes => unseen ⟨ran, member, observes⟩⟩)
  · rcases (standingOutcome_run.mp standing).1 with before | ⟨observes, _⟩
    · exact flagged.standing jobId before
    · exact recorded_of_observes answered.reads observes

theorem submitted_jobId (submitted : (runBucket settings env stored).submission = some submission) :
    env.createJob = .created submission.record.jobId := by
  obtain ⟨_, _, _, _, created⟩ := submission_fields submitted
  exact created

/-- A run that submits has acted on every outcome that was due. -/
theorem flagged_submitted (flagged : Flagged settings past stored)
    (answered : Answered settings past env stored)
    (observedRecorded : ∀ jobId, (∃ ran ∈ runs past, ran.Observes settings jobId) →
      Recorded settings past stored jobId)
    (submitted : (runBucket settings env stored).submission = some submission) :
    Flagged settings (past ++ [⟨.run env, stored⟩]) (runBucket settings env stored).stored := by
  have acts : Ran.Submits settings ⟨env, stored⟩ := by simp [Ran.Submits, Ran.report, submitted]
  have gone : ∀ jobId, ¬ StandingOutcome settings (past ++ [⟨.run env, stored⟩]) jobId := by
    intro jobId standing
    exact (standingOutcome_run.mp standing).2 acts
  obtain ⟨prep, prepared, _⟩ := submission_fields submitted
  have reached := Option.isSome_of_eq_some prepared
  refine ⟨fun jobId record found => ?_, fun jobId standing => absurd standing (gone jobId)⟩
  have named : ∀ jobId, env.createJob = .created jobId → jobId ≠ "" := fun jobId created =>
    (answered.fresh jobId created).1
  rw [exists_observes_run, and_iff_left (gone jobId)]
  obtain ⟨diagnosed, scored, commits, origin⟩ := runBucket_record named found
  constructor
  · intro flag
    by_cases scores : Ran.Scores settings jobId ⟨env, stored⟩
    · exact .inr (observed_of_scores answered.reads scores)
    have uncommitted : scored = false := by
      by_contra set
      exact scores ((mem_committed_iff submitted).mp (commits (by simpa using set)))
    rcases origin with ⟨other, own, rfl, rfl⟩ | ⟨old, present, rfl⟩
    · obtain ⟨_, checkpoint, window, _, _, _, _, ⟨submits⟩⟩ := submission_shape own
      rw [uncommitted, submits.record] at flag
      cases flag
    · have before : old.recoveryScored = true := by simpa [setFlags, uncommitted] using flag
      exact .inl ((flagged.flag jobId old present).mp before).1
  · intro saw
    have recorded : Recorded settings past stored jobId := by
      rcases saw with earlier | now
      · exact observedRecorded jobId earlier
      · exact ⟨stored, by simp, recorded_of_observes answered.reads now⟩
    by_cases scores : Ran.Scores settings jobId ⟨env, stored⟩
    · exact runBucket_committed answered.writes
        ((mem_committed_iff submitted).mpr scores) record found
    rcases origin with ⟨other, own, rfl, rfl⟩ | ⟨old, present, rfl⟩
    · exact absurd recorded (answered.fresh _ (submitted_jobId own)).2
    · have idle := mt (flagged.scores_iff_due answered reached).mpr scores
      have before : old.recoveryScored = true := by
        by_contra unset
        have unscored : old.recoveryScored = false := by simpa using unset
        rcases (flagged.unscored present).mp unscored with standing | unseen
        · exact idle (.inl standing)
        · rcases saw with ⟨ran, member, observes⟩ | now
          · exact unseen ran member observes
          · exact idle (.inr ⟨now, unseen⟩)
      simp [setFlags, before]

theorem flagged_frame (same : (payloadOrDefault settings.bucketName stored).Agrees
      (payloadOrDefault settings.bucketName after) .submissionRecords)
    (unmoved : runs later = runs past)
    (flagged : Flagged settings past stored) : Flagged settings later after := by
  refine ⟨fun jobId record found => ?_, fun jobId standing => ?_⟩
  · rw [StandingOutcome, unmoved]
    exact flagged.flag jobId record (recordFor_of_agrees same ▸ found)
  · rw [StandingOutcome, unmoved] at standing
    rw [recordFor_of_agrees same]
    exact flagged.standing jobId standing

end Scoring

section Reachability
variable {settings : Settings} {past : List Moment} {stored : Option Payload} {jobId : String}

theorem Recorded.later (recorded : Recorded settings past stored jobId) (event : Event)
    (after : Option Payload) : Recorded settings (past ++ [⟨event, stored⟩]) after jobId := by
  obtain ⟨object, member, present⟩ := recorded
  refine ⟨object, List.mem_append_left _ ?_, present⟩
  rw [List.map_append]
  exact member

theorem timeline_recorded (path : Timeline settings initial (AnsweredEvent settings) past stored)
    (saw : ∃ ran ∈ runs past, ran.Observes settings jobId) :
    Recorded settings past stored jobId := by
  induction path with
  | start => obtain ⟨ran, member, _⟩ := saw; cases member
  | @next past stored event _ permitted ih =>
    obtain ⟨ran, member, observes⟩ := saw
    cases event with
    | run env =>
      rw [runs_run, List.mem_append, List.mem_singleton] at member
      rcases member with old | rfl
      · exact (ih ⟨ran, old, observes⟩).later _ _
      · exact Recorded.later ⟨stored, by simp,
          recorded_of_observes (permitted env rfl).reads observes⟩ _ _
    | publish env =>
      rw [runs_publish] at member
      exact (ih ⟨ran, member, observes⟩).later _ _
    | alerted other =>
      rw [runs_alerted] at member
      exact (ih ⟨ran, member, observes⟩).later _ _

theorem timeline_flagged
    (path : Timeline settings (Unscored settings) (AnsweredEvent settings) past stored) :
    Flagged settings past stored := by
  induction path with
  | start unscored =>
    refine ⟨fun jobId record found => ?_, fun jobId standing => absurd standing standing_nil⟩
    simp [unscored jobId record found]
  | @next past stored event path permitted ih =>
    cases event with
    | run env =>
      have answered := permitted env rfl
      cases submitted : (runBucket settings env stored).submission with
      | none => exact flagged_unsubmitted ih answered submitted
      | some submission =>
        exact flagged_submitted ih answered (fun _ => timeline_recorded path) submitted
    | publish env =>
      exact flagged_frame (publish_frame env .submissionRecords (by simp [StateOp.ownedKeys]))
        (runs_publish past env stored) ih
    | alerted other =>
      exact flagged_frame (alerted_frame other .submissionRecords (by simp [StateOp.ownedKeys]))
        (runs_alerted past other stored) ih

/-- In every run that reaches the loop a job is scored exactly from the first
run that finds it terminal through the first run from there on that submits. -/
theorem scored_until_acted_on {env : RunEnv}
    (path : Timeline settings (Unscored settings) (AnsweredEvent settings) past stored)
    (answered : Answered settings past env stored)
    (reached : (runBucket settings env stored).preparation.isSome) (jobId : String) :
    Ran.Scores settings jobId ⟨env, stored⟩ ↔
      Due (Ran.Observes settings jobId) (Ran.Submits settings) (runs past) ⟨env, stored⟩ :=
  (timeline_flagged path).scores_iff_due answered reached

end Reachability

section Sample
open Settings

instance : Decidable (Recorded settings past stored jobId) :=
  inferInstanceAs (Decidable (∃ object ∈ past.map Moment.found ++ [stored], _))

/-- Every job that is asked about has completed. -/
def completeRun (now : Instant) (key : String) (createJob : CreateReply) : RunEnv :=
  .smooth now [photosRow key "yes" (now - 5)] (fun _ => some (.plain "Complete")) createJob

theorem answered_complete (fresh : ∀ jobId, createJob = .created jobId →
      jobId ≠ "" ∧ ¬ Recorded settings past stored jobId)
    (enabled : (payloadOrDefault settings.bucketName
      (runBucket settings (completeRun now key createJob) stored).stored).disabled = false) :
    Answered settings past (completeRun now key createJob) stored := by
  refine ⟨fun _ => rfl, fun _ => rfl, enabled, fun _ _ _ => by simp [completeRun, RunEnv.smooth],
    ?_, fresh⟩
  intro jobId _ job replied
  cases replied
  rfl

/-- The first job has completed when the second run fails to submit. -/
def firstCompletes : List Event :=
  [.run (completeRun 20 "ant" (.created "job-1")), .run (completeRun 30 "bee" (.rejected .service))]

def afterFirst : List Moment × Option Payload :=
  happen photos firstCompletes [] (some (seedCheckpoint "photos" 10))

/-- The third run scores the first job, which has been waiting since the second. -/
theorem scored_until_acted_on_third :
    Due (Ran.Observes photos "job-1") (Ran.Submits photos) (runs afterFirst.1)
      ⟨completeRun 40 "cat" (.created "job-2"), afterFirst.2⟩ := by
  have path : Timeline photos (Unscored photos) (AnsweredEvent photos)
      afterFirst.1 afterFirst.2 := by
    refine timeline_happen photos firstCompletes (.start ?_) ⟨?_, ?_, trivial⟩
    · intro jobId record found
      cases found
    · rintro env ⟨⟩
      exact answered_complete (by rintro _ ⟨⟩; decide +kernel) (by decide +kernel)
    · rintro env ⟨⟩
      exact answered_complete (by rintro _ ⟨⟩) (by decide +kernel)
  have answered : Answered photos afterFirst.1
      (completeRun 40 "cat" (.created "job-2")) afterFirst.2 :=
    answered_complete (by rintro _ ⟨⟩; decide +kernel) (by decide +kernel)
  refine (scored_until_acted_on path answered (by decide +kernel) "job-1").mp ?_
  change ∃ outcome ∈ (runBucket _ _ _).outcomes, outcome.jobId = "job-1"
  decide +kernel

end Sample
end ReplicateOnTag.Orchestrator

import ReplicateOnTag.Orchestrator.Timeline

/-! Submission records cover every job that is still running, and bound how
many there are. -/
namespace ReplicateOnTag.Orchestrator
open StateStore JobRecovery

/-- The run as it is when no answer of `CreateJob` gets lost. -/
def RunEnv.heard (env : RunEnv) : RunEnv := { env with createJob := env.createJob.heard }

/-- The job that a run creates, whether or not it learns of it. -/
def createdJob (settings : Settings) (env : RunEnv) (stored : Option Payload) : Option String :=
  (runBucket settings env.heard stored).submission.map fun submission => submission.record.jobId

/-- The jobs of the bucket so far, in order. -/
def createdJobs (settings : Settings) (past : List Moment) : List String :=
  (runs past).filterMap fun ran => createdJob settings ran.env ran.found

/-- `ended n job`: the job is terminal once `n` events have happened. -/
def runningJobs (settings : Settings) (ended : Nat → String → Bool)
    (past : List Moment) : List String :=
  (createdJobs settings past).filter fun jobId => !ended past.length jobId

/-- The job was submitted or described within the time after which it counts as undescribable. -/
def HeardFrom (settings : Settings) (past : List Moment) (now : Instant)
    (record : SubmissionRecord) : Prop :=
  now - record.submittedAt ≤ undescribableJobMaxAge ∨
    ∃ ran ∈ runs past, (recordFor settings.bucketName ran.found record.jobId).isSome ∧
      (ran.env.describeJob record.jobId).isSome ∧ now - ran.env.now ≤ undescribableJobMaxAge

/-- State reads and writes succeed, the bucket is not disabled, and a call for
a recorded job fails only if the job was heard from. Batch Operations issues new
job ids and reports a terminal status only of a job that has ended. -/
structure Attended (settings : Settings) (ended : Nat → String → Bool)
    (past : List Moment) (env : RunEnv)
    (stored : Option Payload) : Prop where
  reads : ∀ read, env.reads read = true
  writes : ∀ site, env.writes site = .served
  enabled : (payloadOrDefault settings.bucketName (runBucket settings env stored).stored).disabled =
    false
  reported : ∀ jobId job, viewJob env jobId = .terminal job → ended (past.length + 1) jobId
  described : ∀ jobId record, recordFor settings.bucketName stored jobId = some record →
    viewJob env jobId = .undescribable → HeardFrom settings past env.now record
  fresh : ∀ jobId, env.createJob.jobId = some jobId → jobId ≠ "" ∧ jobId ∉ createdJobs settings past

/-- A call for a recorded job fails only while its record is young. -/
def YoungWhenUnread (settings : Settings) (env : RunEnv) (stored : Option Payload) : Prop :=
  ∀ jobId record, recordFor settings.bucketName stored jobId = some record →
    viewJob env jobId = .undescribable → env.now - record.submittedAt ≤ undescribableJobMaxAge

/-- A job that the run creates and does not learn of has ended when the run is over. -/
def EndedUnheard (settings : Settings) (ended : Nat → String → Bool)
    (past : List Moment) (env : RunEnv)
    (stored : Option Payload) : Prop :=
  ∀ jobId, createdJob settings env stored = some jobId →
    (runBucket settings env stored).submission = none →
    ended (past.length + 1) jobId

/-- The event is not a run, or one that is permitted where it happens. -/
def EachRun (permits : List Moment → RunEnv → Option Payload → Prop)
    (past : List Moment) (event : Event)
    (stored : Option Payload) : Prop :=
  ∀ env, event = .run env → permits past env stored

/-- An attended run whose failed calls are for young records, and which hears of
each job it creates or outlives it. -/
structure Kept (settings : Settings) (ended : Nat → String → Bool)
    (past : List Moment) (env : RunEnv)
    (stored : Option Payload) : Prop where
  attended : Attended settings ended past env stored
  young : YoungWhenUnread settings env stored
  heard : EndedUnheard settings ended past env stored

/-- Every running job has its record, and there are not too many. -/
structure Covered (settings : Settings) (ended : Nat → String → Bool) (past : List Moment)
    (stored : Option Payload) : Prop where
  distinct : (createdJobs settings past).Nodup
  recorded : ∀ jobId ∈ runningJobs settings ended past,
    (recordFor settings.bucketName stored jobId).isSome
  bounded : (runningJobs settings ended past).length ≤ settings.maxConcurrentJobs

section Jobs
variable {settings : Settings} {ended : Nat → String → Bool} {past : List Moment}
  {stored : Option Payload}
  {env : RunEnv}

theorem heard_of_created (created : env.createJob = .created jobId) : env.heard = env := by
  have same : env.createJob.heard = env.createJob := by
    rw [created]
    rfl
  rw [RunEnv.heard, same]

/-- A submitted job is the one that was created. -/
theorem createdJob_submitted
    (submitted : (runBucket settings env stored).submission = some submission) :
    createdJob settings env stored = some submission.record.jobId := by
  obtain ⟨_, _, _, _, created⟩ := submission_fields submitted
  rw [createdJob, heard_of_created created, submitted, Option.map_some]

theorem jobId_of_createdJob (created : createdJob settings env stored = some jobId) :
    env.createJob.jobId = some jobId := by
  obtain ⟨submission, submitted, rfl⟩ := Option.map_eq_some_iff.mp created
  obtain ⟨_, _, _, _, reply⟩ := submission_fields submitted
  rw [RunEnv.heard] at reply
  cases given : env.createJob with
  | created jobId | lost jobId failureClass =>
    simp only [given, CreateReply.heard, CreateReply.created.injEq] at reply
    rw [CreateReply.jobId, reply]
  | rejected failureClass =>
    simp only [given, CreateReply.heard] at reply
    cases reply

theorem createdJobs_run (settings : Settings) (past : List Moment) (env : RunEnv)
    (stored : Option Payload) :
    createdJobs settings (past ++ [⟨.run env, stored⟩]) =
      createdJobs settings past ++ (createdJob settings env stored).toList := by
  rw [createdJobs, runs_run, List.filterMap_append, ← createdJobs, List.filterMap_cons,
    List.filterMap_nil]
  cases createdJob settings env stored <;> rfl

theorem createdJobs_of_runs (same : runs later = runs past) :
    createdJobs settings later = createdJobs settings past := by
  rw [createdJobs, same, createdJobs]

/-- Freshly issued ids stay distinct. -/
theorem createdJobs_distinct (attended : Attended settings ended past env stored)
    (distinct : (createdJobs settings past).Nodup) :
    (createdJobs settings (past ++ [⟨.run env, stored⟩])).Nodup := by
  rw [createdJobs_run]
  cases created : createdJob settings env stored with
  | none => rwa [Option.toList_none, List.append_nil]
  | some jobId =>
    have unused := (attended.fresh jobId (jobId_of_createdJob created)).2
    rw [Option.toList_some]
    exact List.nodup_append_comm.mp (List.nodup_cons.mpr ⟨unused, distinct⟩)

theorem mem_runningJobs : jobId ∈ runningJobs settings ended past ↔
    jobId ∈ createdJobs settings past ∧ ended past.length jobId = false := by
  simp [runningJobs]

/-- Old jobs still running after an event. -/
def remaining (settings : Settings) (ended : Nat → String → Bool)
    (past : List Moment) : List String :=
  (createdJobs settings past).filter fun jobId => !ended (past.length + 1) jobId

theorem mem_remaining : jobId ∈ remaining settings ended past ↔
    jobId ∈ createdJobs settings past ∧ ended (past.length + 1) jobId = false := by
  simp [remaining]

theorem running_of_remaining (lasting : ∀ n jobId, ended n jobId → ended (n + 1) jobId)
    (member : jobId ∈ remaining settings ended past) : jobId ∈ runningJobs settings ended past := by
  obtain ⟨submitted, running⟩ := mem_remaining.mp member
  refine mem_runningJobs.mpr ⟨submitted, ?_⟩
  by_contra late
  simp [lasting _ _ (by simpa using late)] at running

theorem length_remaining (lasting : ∀ n jobId, ended n jobId → ended (n + 1) jobId)
    (distinct : (createdJobs settings past).Nodup) :
    (remaining settings ended past).length ≤ (runningJobs settings ended past).length :=
  (List.subperm_of_subset (distinct.filter _) fun _ => running_of_remaining lasting).length_le

theorem runningJobs_quiet (same : createdJobs settings later = createdJobs settings past)
    (next : later.length = past.length + 1) :
    runningJobs settings ended later = remaining settings ended past := by
  rw [runningJobs, same, next, remaining]

theorem runningJobs_run (settings : Settings) (ended : Nat → String → Bool)
    (past : List Moment) (env : RunEnv)
    (stored : Option Payload) : runningJobs settings ended (past ++ [⟨.run env, stored⟩]) =
      remaining settings ended past ++
        (createdJob settings env stored).toList.filter fun jobId => !ended
          (past.length + 1) jobId := by
  rw [runningJobs, createdJobs_run, List.filter_append, List.length_append]
  rfl

/-- The jobs running after a run that submits none are the old ones. -/
theorem runningJobs_unsubmitted (heard : EndedUnheard settings ended past env stored)
    (absent : (runBucket settings env stored).submission = none) :
    runningJobs settings ended (past ++ [⟨.run env, stored⟩]) = remaining settings ended past := by
  rw [runningJobs_run]
  cases created : createdJob settings env stored with
  | none => simp
  | some jobId => simp [heard jobId created absent]

/-- The jobs running after a submission are the old ones and at most the new one. -/
theorem runningJobs_submitted
    (submitted : (runBucket settings env stored).submission = some submission) :
    (∀ jobId ∈ runningJobs settings ended (past ++ [⟨.run env, stored⟩]),
      jobId ∈ remaining settings ended past ∨ jobId = submission.record.jobId) ∧
    (runningJobs settings ended (past ++ [⟨.run env, stored⟩])).length ≤
      (remaining settings ended past).length + 1 := by
  rw [runningJobs_run, createdJob_submitted submitted, Option.toList_some]
  constructor
  · intro jobId member
    rcases List.mem_append.mp member with old | new
    · exact .inl old
    · exact .inr (List.mem_singleton.mp (List.mem_filter.mp new).1)
  · rw [List.length_append]
    exact Nat.add_le_add_left (List.length_filter_le _ _) _

end Jobs

section Step
variable {settings : Settings} {ended : Nat → String → Bool} {past : List Moment}
  {stored : Option Payload}
  {env : RunEnv} {prep : Preparation}

/-- A recorded job that the run does not find terminal is outstanding. -/
theorem outstanding_of_recorded (kept : Kept settings ended past env stored)
    (prepares : Prepares settings env stored prep)
    (found : recordFor settings.bucketName stored jobId = some record)
    (live : jobId ∉ prep.check.terminalJobIds) :
    jobId ∈ prep.check.outstanding.map InFlightJob.jobId := by
  obtain ⟨rfl, named⟩ := recordFor_jobId found
  have prior : record ∈ priorSubmissions env stored := by
    rw [priorSubmissions, if_pos (kept.attended.reads _)]
    exact mem_getSubmissionRecords.mpr ⟨_, found⟩
  rw [prepares.check] at live ⊢
  refine mem_outstanding prior named ?_ fun undescribable => kept.young _ record found undescribable
  intro job viewed
  exact live (mem_terminalJobIds.mpr ⟨record, prior, named, rfl, job, viewed⟩)

/-- The loop counts every old job that is still running after the run. -/
theorem remaining_le_outstanding (covered : Covered settings ended past stored)
    (kept : Kept settings ended past env stored)
    (lasting : ∀ n jobId, ended n jobId → ended (n + 1) jobId)
    (prepares : Prepares settings env stored prep) :
    (∀ jobId ∈ remaining settings ended past, jobId ∉ prep.check.terminalJobIds) ∧
      (remaining settings ended past).length ≤ prep.check.outstanding.length := by
  have live : ∀ jobId ∈ remaining settings ended past, jobId ∉ prep.check.terminalJobIds := by
    intro jobId member listed
    rw [prepares.check] at listed
    obtain ⟨_, _, _, rfl, job, viewed⟩ := mem_terminalJobIds.mp listed
    have ended := kept.attended.reported _ job viewed
    rw [(mem_remaining.mp member).2] at ended
    cases ended
  refine ⟨live, ?_⟩
  rw [← List.length_map InFlightJob.jobId]
  refine (List.subperm_of_subset (covered.distinct.filter _) ?_).length_le
  intro jobId member
  obtain ⟨record, found⟩ := Option.isSome_iff_exists.mp
    (covered.recorded jobId (running_of_remaining lasting member))
  exact outstanding_of_recorded kept prepares found (live jobId member)

/-- Recorded jobs not known to be terminal fit under the ceiling of a run that submits. -/
theorem live_lt_ceiling (kept : Kept settings ended past env stored)
    (prepares : Prepares settings env stored prep)
    (room : prep.check.outstanding.length < settings.maxConcurrentJobs) :
    ((getSubmissionRecords stored).keys.filter fun other =>
      other ∉ prep.check.terminalJobIds).length <
      submissionRecordCeiling settings.maxConcurrentJobs := by
  have counted : ((getSubmissionRecords stored).keys.filter fun other =>
      other ∉ prep.check.terminalJobIds).length ≤ prep.check.outstanding.length := by
    rw [← List.length_map InFlightJob.jobId]
    refine (List.subperm_of_subset ((Dict.keys_nodup _).filter _) ?_).length_le
    intro jobId member
    obtain ⟨listed, live⟩ := List.mem_filter.mp member
    rw [getSubmissionRecords_eq settings.bucketName, Dict.mem_keys_iff] at listed
    obtain ⟨record, found⟩ := listed
    exact outstanding_of_recorded kept prepares found (of_decide_eq_true live)
  rw [submissionRecordCeiling]
  omega

theorem covered_unsubmitted (covered : Covered settings ended past stored)
    (kept : Kept settings ended past env stored)
    (lasting : ∀ n jobId, ended n jobId → ended (n + 1) jobId)
    (absent : (runBucket settings env stored).submission = none) :
    Covered settings ended (past ++ [⟨.run env, stored⟩])
      (runBucket settings env stored).stored := by
  have landed : env.writes .disable ≠ .refused := by simp [kept.attended.writes]
  have jobs := runningJobs_unsubmitted kept.heard absent
  refine ⟨createdJobs_distinct kept.attended covered.distinct, fun jobId running => ?_, ?_⟩
  · rw [jobs] at running
    exact (unsubmitted_record landed kept.attended.enabled absent jobId).2
      (covered.recorded jobId (running_of_remaining lasting running))
  · rw [jobs]
    exact (length_remaining lasting covered.distinct).trans covered.bounded

theorem covered_submitted (covered : Covered settings ended past stored)
    (kept : Kept settings ended past env stored)
    (lasting : ∀ n jobId, ended n jobId → ended (n + 1) jobId)
    (submitted : (runBucket settings env stored).submission = some submission) :
    Covered settings ended (past ++ [⟨.run env, stored⟩])
      (runBucket settings env stored).stored := by
  obtain ⟨prep, prepared, _, _, created⟩ := submission_fields submitted
  have prepares := prepares_of_preparation prepared
  have room := outstanding_lt_of_submission submitted prepared
  have names : ∀ jobId, env.createJob = .created jobId → jobId ≠ "" := fun jobId given =>
    (kept.attended.fresh jobId (by rw [given, CreateReply.jobId])).1
  have unused : submission.record.jobId ∉ createdJobs settings past :=
    (kept.attended.fresh _ (by rw [created, CreateReply.jobId])).2
  obtain ⟨live, counted⟩ := remaining_le_outstanding covered kept lasting prepares
  obtain ⟨jobs, length⟩ := @runningJobs_submitted settings ended past stored
    env submission submitted
  refine ⟨createdJobs_distinct kept.attended covered.distinct, fun jobId running => ?_, by omega⟩
  rcases jobs jobId running with old | rfl
  · have other : jobId ≠ submission.record.jobId := by
      rintro rfl
      exact unused (mem_remaining.mp old).1
    exact runBucket_running names kept.attended.writes kept.attended.enabled submitted prepared
      (covered.recorded jobId (running_of_remaining lasting old)) other (live jobId old)
      (live_lt_ceiling kept prepares room)
  · obtain ⟨record, found, _⟩ := runBucket_filed names kept.attended.writes submitted
    exact Option.isSome_of_eq_some found

/-- A count that a run reports is no smaller than the number of jobs running after it. -/
theorem running_le_reported (covered : Covered settings ended past stored)
    (kept : Kept settings ended past env stored)
    (lasting : ∀ n jobId, ended n jobId → ended (n + 1) jobId)
    (reports : (runBucket settings env stored).outstandingJobs = some count) :
    (runningJobs settings ended (past ++ [⟨.run env, stored⟩])).length ≤ count := by
  obtain ⟨prep, prepared, known⟩ := Option.bind_eq_some_iff.mp reports
  obtain ⟨_, _, rfl⟩ := Option.map_eq_some_iff.mp known
  obtain ⟨_, counted⟩ := remaining_le_outstanding covered kept lasting
    (prepares_of_preparation prepared)
  cases submitted : (runBucket settings env stored).submission with
  | none =>
    rw [runningJobs_unsubmitted kept.heard submitted]
    exact counted.trans (Nat.le_add_right _ _)
  | some submission =>
    have length := (@runningJobs_submitted settings ended past stored env submission submitted).2
    simp only [Option.toList_some, List.length_singleton]
    omega

theorem covered_frame (lasting : ∀ n jobId, ended n jobId → ended (n + 1) jobId)
    (covered : Covered settings ended past stored)
    (same : (payloadOrDefault settings.bucketName stored).Agrees
      (payloadOrDefault settings.bucketName after) .submissionRecords)
    (unmoved : runs later = runs past) (next : later.length = past.length + 1) :
    Covered settings ended later after := by
  have created : createdJobs settings later = createdJobs settings past :=
    createdJobs_of_runs unmoved
  have jobs : runningJobs settings ended later = remaining settings ended past :=
    runningJobs_quiet created next
  refine ⟨created ▸ covered.distinct, fun jobId running => ?_, ?_⟩
  · rw [jobs] at running
    rw [recordFor_of_agrees same]
    exact covered.recorded jobId (running_of_remaining lasting running)
  · rw [jobs]
    exact (length_remaining lasting covered.distinct).trans covered.bounded

end Step

section Reachability
variable {settings : Settings} {ended : Nat → String → Bool} {past : List Moment}
  {stored : Option Payload}

theorem timeline_covered (lasting : ∀ n jobId, ended n jobId → ended (n + 1) jobId)
    (path : Timeline settings (Deployed settings) (EachRun (Kept settings ended)) past stored) :
    Covered settings ended past stored := by
  induction path with
  | start => exact ⟨List.nodup_nil, nofun, Nat.zero_le _⟩
  | @next past stored event _ permitted ih =>
    cases event with
    | run env =>
      have kept := permitted env rfl
      cases submitted : (runBucket settings env stored).submission with
      | none => exact covered_unsubmitted ih kept lasting submitted
      | some submission => exact covered_submitted ih kept lasting submitted
    | publish env =>
      exact covered_frame lasting ih
        (publish_frame env .submissionRecords (by simp [StateOp.ownedKeys]))
        (runs_publish past env stored) (by simp)
    | alerted other =>
      exact covered_frame lasting ih
        (alerted_frame other .submissionRecords (by simp [StateOp.ownedKeys]))
        (runs_alerted past other stored) (by simp)

/-- After every run each running job has its record, no more than the limit
are running, and a reported count covers them, as long as `DescribeJob` fails
only for young records and no running job was created unheard. -/
theorem records_cover_running_jobs {env : RunEnv}
    (lasting : ∀ n jobId, ended n jobId → ended (n + 1) jobId)
    (path : Timeline settings (Deployed settings) (EachRun (Kept settings ended)) past stored)
    (kept : Kept settings ended past env stored) :
    Covered settings ended (past ++ [⟨.run env, stored⟩]) (runBucket settings env stored).stored ∧
      ∀ count, (runBucket settings env stored).outstandingJobs = some count →
        (runningJobs settings ended (past ++ [⟨.run env, stored⟩])).length ≤ count := by
  have last : EachRun (Kept settings ended) past (.run env) stored := by
    rintro env ⟨⟩
    exact kept
  exact ⟨timeline_covered lasting (.next path last), fun _ reports =>
    running_le_reported (timeline_covered lasting path) kept lasting reports⟩

end Reachability

section Sample
open Settings

/-- Jobs that never end. -/
def endless : Nat → String → Bool := fun _ _ => false

theorem endless_lasting (n : Nat) (jobId : String)
    (ended : endless n jobId) : endless (n + 1) jobId := ended

def days (count : Int) : Int := count * (24 * 60 * 60 * 1000000)

/-- A run with one matching row, in which every job is still active or no call is answered. -/
def activeRun (now : Instant) (key : String) (answers : Bool) (createJob : CreateReply) : RunEnv :=
  .smooth now [photosRow key "yes" (now - 5)]
    (fun _ => if answers then some (.plain "Active") else none) createJob

theorem attended_active
    (enabled : (payloadOrDefault settings.bucketName
      (runBucket settings (activeRun now key answers createJob) stored).stored).disabled = false)
    (described : answers = false → ∀ record ∈ (getSubmissionRecords stored).values,
      HeardFrom settings past now record)
    (fresh : ∀ jobId, createJob.jobId = some jobId → jobId ≠ "" ∧
      jobId ∉ createdJobs settings past) :
    Attended settings endless past (activeRun now key answers createJob) stored := by
  refine ⟨fun _ => rfl, fun _ => rfl, enabled, fun jobId job viewed => ?_,
    fun jobId record found undescribable => ?_, fresh⟩
  · cases answers <;> cases viewed
  · cases answers with
    | false => exact described rfl record (mem_getSubmissionRecords.mpr ⟨_, found⟩)
    | true => cases undescribable

theorem young_active (young : answers = false → ∀ record ∈ (getSubmissionRecords stored).values,
    now - record.submittedAt ≤ undescribableJobMaxAge) :
    YoungWhenUnread settings (activeRun now key answers createJob) stored := by
  intro jobId record found undescribable
  cases answers with
  | false => exact young rfl record (mem_getSubmissionRecords.mpr ⟨_, found⟩)
  | true => cases undescribable

def seededPhotos : Option Payload := some (seedCheckpoint "photos" 10)

def afterOne (createJob : CreateReply) : List Moment × Option Payload :=
  happen photos [.run (activeRun 20 "ant" true createJob)] [] seededPhotos

theorem attended_first (createJob : CreateReply)
    (enabled : (payloadOrDefault "photos"
      (runBucket photos (activeRun 20 "ant" true createJob) seededPhotos).stored).disabled = false)
    (named : createJob.jobId ≠ some "") :
    Attended photos endless [] (activeRun 20 "ant" true createJob) seededPhotos :=
  attended_active enabled nofun fun _ given =>
    ⟨fun empty => named (empty ▸ given), List.not_mem_nil⟩

/-- A job that cannot be described ten days on still holds the only slot. -/
theorem records_cover_running_jobs_ten_days :
    (runningJobs photos endless ((afterOne (.created "job-1")).1 ++
      [⟨.run (activeRun (days 10) "bee" false (.created "job-2")),
        (afterOne (.created "job-1")).2⟩])).length ≤ 1 := by
  have path : Timeline photos (Deployed photos) (EachRun (Kept photos endless))
      (afterOne (.created "job-1")).1 (afterOne (.created "job-1")).2 := by
    refine timeline_happen photos _ (.start (.inr ⟨10, rfl⟩)) ⟨?_, trivial⟩
    rintro env ⟨⟩
    exact ⟨attended_first _ (by decide +kernel) (by decide),
      young_active nofun, by unfold EndedUnheard; decide +kernel⟩
  refine (records_cover_running_jobs endless_lasting path ⟨?_, ?_, ?_⟩).2 1 (by decide +kernel)
  · exact attended_active (by decide +kernel) (fun _ => by unfold HeardFrom; decide +kernel)
      (by rintro _ ⟨⟩; decide +kernel)
  · exact young_active fun _ => by decide +kernel
  · unfold EndedUnheard
    decide +kernel

def afterTwo : List Moment × Option Payload :=
  happen photos [.run (activeRun 20 "ant" true (.created "job-1")),
    .run (activeRun (days 10) "bee" true (.created "job-2"))] [] seededPhotos

/-- What the theorem says of kept runs, for runs that are `permits`. -/
def Covers (permits : Settings → (Nat → String → Bool) → List Moment → RunEnv →
    Option Payload → Prop) : Prop :=
  ∀ settings ended past stored env, (∀ n jobId, ended n jobId → ended (n + 1) jobId) →
    Timeline settings (Deployed settings) (EachRun (permits settings ended)) past stored →
    permits settings ended past env stored →
    Covered settings ended (past ++ [⟨.run env, stored⟩]) (runBucket settings env stored).stored ∧
      ∀ count, (runBucket settings env stored).outstandingJobs = some count →
        (runningJobs settings ended (past ++ [⟨.run env, stored⟩])).length ≤ count

theorem Covers.mono (covers : Covers permits)
    (imp : ∀ settings ended past env stored, stronger settings ended past env stored →
      permits settings ended past env stored) : Covers stronger := by
  intro settings ended past stored env lasting path kept
  exact covers settings ended past stored env lasting
    (path.mono fun _ _ _ each env same => imp _ _ _ _ _ (each env same)) (imp _ _ _ _ _ kept)

/-- A job described after ten days and unreadable once after fifteen is not counted. -/
theorem unread_job_not_counted : ¬ Covers fun settings ended past env stored =>
    Attended settings ended past env stored ∧ EndedUnheard settings ended past env stored := by
  intro covers
  have path : Timeline photos (Deployed photos) (EachRun fun past env stored =>
      Attended photos endless past env stored ∧ EndedUnheard photos endless past env stored)
        afterTwo.1 afterTwo.2 := by
    refine timeline_happen photos _ (.start (.inr ⟨10, rfl⟩)) ⟨?_, ?_, trivial⟩
    · rintro env ⟨⟩
      exact ⟨attended_first _ (by decide +kernel) (by decide), by
        unfold EndedUnheard; decide +kernel⟩
    · rintro env ⟨⟩
      exact ⟨attended_active (by decide +kernel) nofun (by rintro _ ⟨⟩; decide +kernel),
        by unfold EndedUnheard; decide +kernel⟩
  have attended : Attended photos endless afterTwo.1
      (activeRun (days 15) "cat" false (.created "job-2"))
      afterTwo.2 :=
    attended_active (by decide +kernel) (fun _ => by unfold HeardFrom; decide +kernel)
      (by rintro _ ⟨⟩; decide +kernel)
  have bounded := (covers photos endless afterTwo.1 afterTwo.2 _ endless_lasting path
    ⟨attended, by unfold EndedUnheard; decide +kernel⟩).1.bounded
  exact absurd bounded (by decide +kernel)

/-- A job whose creation timed out has no record, and the next run creates one more. -/
theorem unheard_job_not_counted : ¬ Covers fun settings ended past env stored =>
    Attended settings ended past env stored ∧ YoungWhenUnread settings env stored := by
  intro covers
  let past := afterOne (.lost "job-1" .timeout)
  have path : Timeline photos (Deployed photos) (EachRun fun past env stored =>
      Attended photos endless past env stored ∧
        YoungWhenUnread photos env stored) past.1 past.2 := by
    refine timeline_happen photos _ (.start (.inr ⟨10, rfl⟩)) ⟨?_, trivial⟩
    rintro env ⟨⟩
    exact ⟨attended_first _ (by decide +kernel) (by decide), young_active nofun⟩
  have attended : Attended photos endless past.1
      (activeRun 40 "bee" true (.created "job-2")) past.2 :=
    attended_active (by decide +kernel) nofun (by rintro _ ⟨⟩; decide +kernel)
  have bounded := (covers photos endless past.1 past.2 _ endless_lasting path
    ⟨attended, young_active nofun⟩).1.bounded
  exact absurd bounded (by decide +kernel)

/-- Attended runs do not cover every running job, even if each creation is heard
of, or if no unread record is old. -/
theorem running_job_not_counted : ¬ Covers Attended ∧
    (¬ Covers fun settings ended past env stored =>
      Attended settings ended past env stored ∧ EndedUnheard settings ended past env stored) ∧
    ¬ Covers fun settings ended past env stored =>
      Attended settings ended past env stored ∧ YoungWhenUnread settings env stored :=
  ⟨fun covers => unread_job_not_counted (covers.mono fun _ _ _ _ _ => And.left),
    unread_job_not_counted,
    unheard_job_not_counted⟩

end Sample
end ReplicateOnTag.Orchestrator

import ReplicateOnTag.Core.ProcessedHistory
import ReplicateOnTag.Orchestrator.RecoveryFlags

/-! Sequences of runs of one bucket with a ghost record of what they submitted
and observed, and the invariant that ties the stored window and submission
records to it. -/
namespace ReplicateOnTag.Orchestrator
open StateStore Watermark CheckpointLogic ProcessedHistory

inductive Observation where
  | failing
  | passing
  deriving DecidableEq

/-- What the runs so far did; observations are newest first. -/
structure Past where
  submissions : List Submission
  seen : List String
  observations : List Observation
  clock : Option Instant

namespace Past

def initial : Past := ⟨[], [], [], none⟩

def jobIds (past : Past) : List String := past.submissions.map fun submission =>
    submission.record.jobId

end Past

/-- The job's manifest held the operation, under its own instant. -/
def Submission.Carries (submission : Submission) (op : TaggingOperation) : Prop :=
  ⟨op.logicalOperationId, op.watermark⟩ ∈ submission.refs

/-- The run scored the submission's job for the first time, as failed. -/
structure NewlyFailed (report : RunReport) (submission : Submission)
    (outcome : JobRecovery.JobOutcome) : Prop where
  scored : outcome ∈ report.outcomes
  failed : JobRecovery.isEffectiveFailure outcome
  own : outcome.jobId = submission.record.jobId

/-- The job of a record is terminal and failed, as the run sees it. -/
def failedRecord (settings : Settings) (env : RunEnv) (record : SubmissionRecord) : Bool :=
  match viewJob env record.jobId with
  | .terminal job => JobRecovery.isEffectiveFailure (toOutcome settings record job)
  | _ => false

def terminalRecord (env : RunEnv) (record : SubmissionRecord) : Bool :=
  match viewJob env record.jobId with
  | .terminal _ => true
  | _ => false

/-- Records whose job this run is the first to see at a terminal status. -/
def firstSeen (env : RunEnv) (seen : List String) (prior : List SubmissionRecord) :
    List SubmissionRecord :=
  prior.filter fun record => record.jobId ∉ seen && terminalRecord env record

/-- A run observes when it sees a job terminal for the first time. -/
def observe (settings : Settings) (env : RunEnv) (seen : List String)
    (prior : List SubmissionRecord) :
    Option Observation :=
  let first := firstSeen env seen prior
  if first.isEmpty then none
  else if first.any (failedRecord settings env) then some .failing
  else some .passing

/-- The records a run describes; a run that is skipped describes none. -/
def describedRecords (settings : Settings) (env : RunEnv) (stored : Option Payload) :
    List SubmissionRecord :=
  if (runBucket settings env stored).preparation.isSome then priorSubmissions env stored else []

def Past.extend (settings : Settings) (past : Past) (env : RunEnv)
    (stored : Option Payload) : Past :=
  let described := describedRecords settings env stored
  { submissions := past.submissions ++ (runBucket settings env stored).submission.toList
    seen := past.seen ++ (described.filter (terminalRecord env)).map SubmissionRecord.jobId
    observations := (observe settings env past.seen described).toList ++ past.observations
    clock := some env.now }

/-- A checkpoint as `_seed_checkpoints` writes it. -/
def seedCheckpoint (bucketName : String) (now : Instant) : Payload :=
  .ofCheckpoint ⟨bucketName, toWatermark now, none, []⟩

/-- The edit that re-enables a bucket. -/
def reenabled (payload : Payload) : Payload := { payload with disabled := false }

/-- Writes of the report checker and of the publish phase. -/
def IsForeignOp : StateOp → Prop
  | .addAlertedConfig _ => True
  | .deleteCompletionItems _ => True
  | _ => False

/-- Objects a bucket can have after runs that are all `allowed`, other
functions' writes, and operators clearing the disabled flag. -/
inductive Reachable (settings : Settings) (allowed : Past → RunEnv → Option Payload → Prop) :
    Past → Option Payload → Prop where
  | absent : Reachable settings allowed .initial none
  | seeded (now : Instant) :
      Reachable settings allowed .initial (some (seedCheckpoint settings.bucketName now))
  | run (path : Reachable settings allowed past stored) (permitted : allowed past env stored) :
      Reachable settings allowed (past.extend settings env stored)
        (runBucket settings env stored).stored
  | foreign (path : Reachable settings allowed past stored) (outside : IsForeignOp op)
      (applied : op.apply settings.bucketName stored = some after) :
      Reachable settings allowed past (some after)
  | reenabled (path : Reachable settings allowed past (some payload)) :
      Reachable settings allowed past (some (reenabled payload))

theorem Reachable.mono (path : Reachable settings allowed past stored)
    (imp : ∀ past env stored, allowed past env stored → weaker past env stored) :
    Reachable settings weaker past stored := by
  induction path with
  | absent => exact .absent
  | seeded now => exact .seeded now
  | run _ permitted ih => exact .run ih (imp _ _ _ permitted)
  | foreign _ outside applied ih => exact .foreign ih outside applied
  | reenabled _ ih => exact .reenabled ih

/-- Batch Operations issues job ids that are not empty and never repeat. -/
def FreshJob (past : Past) (env : RunEnv) (_ : Option Payload) : Prop :=
  ∀ jobId, env.createJob = .created jobId → jobId ≠ "" ∧ jobId ∉ past.jobIds

instance : Decidable (FreshJob past env stored) :=
  match created : env.createJob with
  | .created jobId =>
      decidable_of_iff (jobId ≠ "" ∧ jobId ∉ past.jobIds)
        ⟨fun fresh _ same => by cases created.symm.trans same; exact fresh,
          fun fresh => fresh jobId created⟩
  | .rejected _ => isTrue fun _ same => by cases created.symm.trans same
  | .lost _ _ => isTrue fun _ same => by cases created.symm.trans same

section Replay
variable (settings : Settings)

/-- Runs in order, each on the object the one before it left. -/
def replay : List RunEnv → Past → Option Payload → Past × Option Payload
  | [], past, stored => (past, stored)
  | env :: rest, past, stored =>
      replay rest (past.extend settings env stored) (runBucket settings env stored).stored

def Permits (allowed : Past → RunEnv → Option Payload → Prop) :
    List RunEnv → Past → Option Payload → Prop
  | [], _, _ => True
  | env :: rest, past, stored =>
      allowed past env stored ∧
        Permits allowed rest (past.extend settings env stored)
          (runBucket settings env stored).stored

instance decidablePermits {allowed : Past → RunEnv → Option Payload → Prop}
    [∀ past env stored, Decidable (allowed past env stored)] :
    ∀ envs past stored, Decidable (Permits settings allowed envs past stored)
  | [], _, _ => isTrue trivial
  | env :: rest, past, stored =>
      @instDecidableAnd _ _ (inferInstance : Decidable (allowed past env stored))
        (decidablePermits rest (past.extend settings env stored)
          (runBucket settings env stored).stored)

theorem reachable_replay (envs : List RunEnv) (path : Reachable settings allowed past stored)
    (permitted : Permits settings allowed envs past stored) :
    Reachable settings allowed (replay settings envs past stored).1
      (replay settings envs past stored).2 := by
  induction envs generalizing past stored with
  | nil => exact path
  | cons env rest ih => exact ih (.run path permitted.1) permitted.2

end Replay

section Memory
variable {settings : Settings} {submissions : List Submission} {history : ProcessedHistory.History}

/-- The refs and the range of a submission are part of what was recorded. -/
structure Remembered (history : ProcessedHistory.History) (submission : Submission) : Prop where
  refs : ∀ ref ∈ submission.refs, ref ∈ history.recorded ∧
    ref.watermark ≤ submission.record.watermarkHigh
  high : submission.record.watermarkHigh ≤ history.watermark

/-- Nothing that was remembered is forgotten. -/
structure Extends (history later : ProcessedHistory.History) : Prop where
  recorded : ∀ ref ∈ history.recorded, ref ∈ later.recorded
  watermark : history.watermark ≤ later.watermark

theorem Extends.refl (history : ProcessedHistory.History) : Extends history history :=
  ⟨fun _ member => member, le_rfl⟩

theorem Remembered.extend (remembered : Remembered history submission)
    (grown : Extends history later) :
    Remembered later submission :=
  ⟨fun ref listed => ⟨grown.recorded ref (remembered.refs ref listed).1,
    (remembered.refs ref listed).2⟩,
    remembered.high.trans grown.watermark⟩

/-- What was submitted in a remembered job is past every later window. -/
theorem not_eligible_of_carries {state : CheckpointState}
    (agree : Represents lookback state history)
    (remembered : Remembered history submission) (carries : submission.Carries op) :
    isEligible op state lookback = false := by
  rw [Bool.eq_false_iff]
  intro eligible
  exact agree.not_admits (remembered.refs _ carries).1 rfl rfl (admits_of_isEligible agree eligible)

/-- The stored record is about the submitted job, up to its flags. -/
structure SameJob (submitted stored : SubmissionRecord) : Prop where
  jobId : submitted.jobId = stored.jobId
  low : submitted.watermarkLow = stored.watermarkLow
  high : submitted.watermarkHigh = stored.watermarkHigh

/-- The stored window represents the history, and every stored record belongs
to a remembered submission. -/
structure Memory (settings : Settings) (submissions : List Submission) (stored : Option Payload)
    (history : ProcessedHistory.History) : Prop where
  distinct : (submissions.map fun submission => submission.record.jobId).Nodup
  represents : Represents settings.lookback
    (payloadOrDefault settings.bucketName stored).checkpoint history
  filed : ∀ jobId record, recordFor settings.bucketName stored jobId = some record →
    ∃ submission ∈ submissions, SameJob submission.record record ∧ Remembered history submission

theorem represents_of_fields {first second : CheckpointState}
    (agree : Represents lookback first history)
    (watermark : second.lastProcessedWatermark = first.lastProcessedWatermark)
    (window : second.processedWindow = first.processedWindow) :
    Represents lookback second history :=
  ⟨watermark.trans agree.watermark, window ▸ agree.remembers, agree.bounded⟩

theorem memory_quiet (quiet : IsQuietOp op)
    (applied : op.apply settings.bucketName stored = some after)
    (memory : Memory settings submissions stored history) :
    Memory settings submissions (some after) history := by
  have keeps := keepsWindow_quiet quiet applied
  refine ⟨memory.distinct,
    represents_of_fields memory.represents keeps.watermark keeps.window, ?_⟩
  intro jobId record found
  obtain ⟨old, present, shape⟩ := recordFor_quiet quiet applied found
  obtain ⟨submission, member, same, remembered⟩ := memory.filed jobId old present
  refine ⟨submission, member, ?_, remembered⟩
  rcases shape with rfl | ⟨diagnosed, scored, _, rfl⟩
  · exact same
  · exact ⟨same.jobId, same.low, same.high⟩

theorem memory_evolves (path : Evolves settings.bucketName allowed stored after)
    (quiet : ∀ op, allowed op → IsQuietOp op)
    (memory : Memory settings submissions stored history) :
    Memory settings submissions after history :=
  path.preserves (Memory settings submissions · history)
    (fun op _ _ member applied => memory_quiet (quiet op member) applied) memory

theorem isQuietOp_foreign {op : StateOp} (foreign : IsForeignOp op) : IsQuietOp op := by
  cases op <;> trivial

theorem records_foreign {op : StateOp} (foreign : IsForeignOp op) :
    PayloadKey.submissionRecords ∉ op.ownedKeys := by
  cases op <;> first | exact foreign.elim | simp [StateOp.ownedKeys]

theorem agrees_reenabled (bucket : String) (payload : Payload) :
    (payloadOrDefault bucket (some payload)).Agrees
    (payloadOrDefault bucket (some (reenabled payload)))
      .submissionRecords := rfl

theorem extends_release (history : ProcessedHistory.History) (refs : List ProcessedRef)
    (candidate : Option Watermark) :
    Extends history ⟨advancedWatermark history.watermark refs candidate,
      history.recorded ++ refs⟩ :=
  ⟨fun _ member => List.mem_append_left _ member, le_advancedWatermark _ _ _⟩

/-- A durable release adds its refs to what is remembered. -/
theorem memory_release {refs : List ProcessedRef}
    (memory : Memory settings submissions stored history)
    (released : (StateOp.releaseLease now (some refs) settings.lookback candidate).apply
      settings.bucketName stored = some after) (submitted : refs ≠ []) :
    Memory settings submissions (some after)
      ⟨advancedWatermark history.watermark refs candidate, history.recorded ++ refs⟩ := by
  have records := StateOp.frame released
    (show PayloadKey.submissionRecords ∉ _ by simp [StateOp.ownedKeys, StateOp.checkpointKeys])
  obtain ⟨state, read, rfl⟩ := StateOp.apply_releaseLease released
  obtain ⟨_, watermark, window⟩ := getCheckpoint_fields read
  have found : Represents settings.lookback state history :=
    represents_of_fields memory.represents watermark window
  refine ⟨memory.distinct, represents_submitted found submitted,
    fun jobId record present => ?_⟩
  rw [recordFor_of_agrees records] at present
  obtain ⟨submission, member, same, remembered⟩ := memory.filed jobId record present
  exact ⟨submission, member, same, remembered.extend (extends_release history refs candidate)⟩

theorem remembered_release {submission : Submission}
    (high : submission.record.watermarkHigh = candidateHwm)
    (bounded : ∀ ref ∈ submission.refs, ref.watermark ≤ candidateHwm) :
    Remembered ⟨advancedWatermark history.watermark submission.refs (some candidateHwm),
      history.recorded ++ submission.refs⟩ submission := by
  refine ⟨fun ref listed => ⟨List.mem_append_right _ listed, ?_⟩, ?_⟩
  · rw [high]
    exact bounded ref listed
  · rw [high]
    exact candidate_le_advancedWatermark

/-- Filing the record of a remembered submission keeps the invariant. -/
theorem memory_persist {submission : Submission}
    (memory : Memory settings submissions stored history)
    (member : submission ∈ submissions) (named : submission.record.jobId ≠ "")
    (remembered : Remembered history submission)
    (applied : (StateOp.recordSubmission submission.record terminal tracking limit).apply
      settings.bucketName stored = some after) :
        Memory settings submissions (some after) history := by
  have watermark : (payloadOrDefault settings.bucketName stored).Agrees after
      .lastProcessedWatermark :=
    StateOp.frame applied (by simp [StateOp.ownedKeys])
  have window : (payloadOrDefault settings.bucketName stored).Agrees after .processedWindow :=
    StateOp.frame applied (by simp [StateOp.ownedKeys])
  refine ⟨memory.distinct,
    represents_of_fields memory.represents (Eq.symm watermark) (Eq.symm window),
      fun jobId record found => ?_⟩
  simp only [StateOp.apply, StateOp.program, ConditionalStore.Update.atomically,
    StateOp.compute] at applied
  split at applied
  · rename_i own
    cases applied
    rw [recordFor_recordSubmission named, own] at found
    rcases retainedRecords_sound found with ⟨_, rfl⟩ | ⟨_, old⟩
    · exact ⟨submission, member, ⟨rfl, rfl, rfl⟩, remembered⟩
    · exact memory.filed jobId record old
  · cases applied

theorem memory_submitted {submission : Submission}
    (memory : Memory settings submissions stored history)
    (fresh : submission.record.jobId ∉ submissions.map fun submission => submission.record.jobId) :
    Memory settings (submissions ++ [submission]) stored history := by
  refine ⟨?_, memory.represents, fun jobId record found => ?_⟩
  · rw [List.map_append, List.map_singleton]
    exact memory.distinct.append (List.nodup_singleton _) (by simpa using fresh)
  · obtain ⟨earlier, member, same, remembered⟩ := memory.filed jobId record found
    exact ⟨earlier, List.mem_append_left _ member, same, remembered⟩

/-- What a job's submission leaves of the object, given what its lease body left. -/
theorem memory_submits {run : LeasedRun} {submission : Submission} {ops : List TaggingOperation}
    (submits : Submits settings env prep checkpoint window
      (selectEligible settings ops checkpoint) stored
      run submission)
    (memory : Memory settings submissions stored history)
    (fresh : ∀ jobId, env.createJob = .created jobId →
      jobId ≠ "" ∧ jobId ∉ submissions.map fun submission => submission.record.jobId) :
    ∃ later, Extends history later ∧
      Memory settings (submissions ++ [submission]) run.stored later := by
  obtain ⟨named, unused⟩ := fresh submits.jobId submits.created
  have jobId : submission.record.jobId = submits.jobId := by rw [submits.record]; rfl
  have high : submission.record.watermarkHigh = submits.candidateHwm := by rw [submits.record]; rfl
  have body := memory_submitted
    (memory_evolves submits.until_release (fun _ => isQuietOp_unsubmitted) memory) (jobId ▸ unused)
  have member : submission ∈ submissions ++ [submission] := by simp
  have scored : ∀ {object later}, Memory settings (submissions ++ [submission]) object later →
      Memory settings (submissions ++ [submission])
        (commitRecoveryScored settings env prep.check.newlyScoredJobIds object) later :=
    fun memory => memory_evolves (commitRecoveryScored_evolves settings env _ _)
      (fun _ => isQuietOp_scoring) memory
  rw [submits.concluded]
  rcases write_cases settings env .release
      (.releaseLease env.now (some submission.refs) settings.lookback (some submits.candidateHwm))
      submits.body with ⟨same, refused⟩ | ⟨after, applied, same⟩
  · refine ⟨history, .refl history, scored ?_⟩
    simp only [refused, Bool.false_eq_true, if_false, same]
    exact body
  · have released := memory_release body applied submits.refs_ne_nil
    have remembered : Remembered
        ⟨advancedWatermark history.watermark submission.refs (some submits.candidateHwm),
          history.recorded ++ submission.refs⟩ submission :=
      remembered_release high fun ref listed => (submits.ref_of_selected listed).1
    refine ⟨⟨advancedWatermark history.watermark submission.refs (some submits.candidateHwm),
      history.recorded ++ submission.refs⟩, extends_release history submission.refs _, scored ?_⟩
    simp only [same]
    split
    · simp only [persistSubmission, writeBestEffort]
      rcases write_cases settings env .persist (.recordSubmission submission.record
          prep.check.terminalJobIds settings.completionTracking (some settings.maxConcurrentJobs))
          (some after) with ⟨unfiled, _⟩ | ⟨filed, stores, persisted⟩
      · rw [unfiled]
        exact released
      · rw [persisted]
        exact memory_persist released member (jobId ▸ named) remembered stores
    · exact released

/-- A scored outcome is that of a stored record whose flag is not set. -/
theorem record_of_outcome (prepares : Prepares settings env stored prep)
    (scored : outcome ∈ prep.check.outcomes) :
    ∃ record job, recordFor settings.bucketName stored outcome.jobId = some record ∧
      record.recoveryScored = false ∧ viewJob env record.jobId = .terminal job ∧
      outcome = toOutcome settings record job := by
  rw [prepares.check] at scored
  obtain ⟨record, prior, _, unscored, job, viewed, rfl⟩ := mem_outcomes.mp scored
  rw [priorSubmissions] at prior
  split at prior
  · obtain ⟨jobId, found⟩ := mem_getSubmissionRecords.mp prior
    obtain ⟨rfl, _⟩ := recordFor_jobId found
    exact ⟨record, job, found, unscored, viewed, rfl⟩
  · cases prior

/-- A scored outcome is that of a remembered submission. -/
theorem memory_outcome (memory : Memory settings submissions stored history)
    (prepares : Prepares settings env stored prep) (scored : outcome ∈ prep.check.outcomes) :
    ∃ submission ∈ submissions, submission.record.jobId = outcome.jobId ∧
      submission.record.watermarkLow = outcome.watermarkLow ∧
      submission.record.watermarkHigh = outcome.watermarkHigh ∧ Remembered history submission := by
  obtain ⟨record, job, found, _, _, rfl⟩ := record_of_outcome prepares scored
  obtain ⟨submission, member, same, remembered⟩ := memory.filed _ record found
  exact ⟨submission, member, same.jobId, same.low, same.high, remembered⟩

/-- Job ids tell submissions apart. -/
theorem memory_submission_unique (memory : Memory settings submissions stored history)
    (first : one ∈ submissions) (second : other ∈ submissions)
    (same : one.record.jobId = other.record.jobId) : one = other :=
  List.inj_on_of_nodup_map memory.distinct first second same

/-- One run, whatever replies it meets. -/
theorem memory_run (memory : Memory settings submissions stored history)
    (fresh : ∀ jobId, env.createJob = .created jobId →
      jobId ≠ "" ∧ jobId ∉ submissions.map fun submission => submission.record.jobId) :
    ∃ later, Extends history later ∧
      Memory settings (submissions ++ (runBucket settings env stored).submission.toList)
        (runBucket settings env stored).stored later := by
  cases submitted : (runBucket settings env stored).submission with
  | none =>
    refine ⟨history, .refl history, ?_⟩
    rw [Option.toList_none, List.append_nil]
    exact memory_evolves (runBucket_unsubmitted submitted) (fun _ => isQuietOp_run) memory
  | some submission =>
    obtain ⟨prep, checkpoint, window, prepares, ready, _, ran, ⟨submits⟩⟩ :=
      submission_shape submitted
    have settled := memory_evolves (prepares.evolves ready) (fun _ => isQuietOp_report) memory
    rw [ran]
    exact memory_submits submits settled fresh

theorem memory_initial (stored : Option Payload)
    (records : (payloadOrDefault settings.bucketName stored).submissionRecords = .empty)
    (window : (payloadOrDefault settings.bucketName stored).processedWindow = []) :
    Memory settings [] stored
      (.start (payloadOrDefault settings.bucketName stored).lastProcessedWatermark) := by
  refine ⟨List.nodup_nil, ?_, fun jobId record found => ?_⟩
  · exact represents_of_fields (represents_start settings.lookback "" _ none) rfl window
  · simp only [recordFor, submissionRecordsByJobId, records] at found
    cases found

theorem memory_reenabled (memory : Memory settings submissions (some payload) history) :
    Memory settings submissions (some (reenabled payload)) history := by
  have records := agrees_reenabled settings.bucketName payload
  refine ⟨memory.distinct, memory.represents,
    fun jobId record found => ?_⟩
  rw [recordFor_of_agrees records] at found
  exact memory.filed jobId record found

/-- In every reachable state the window and the records are accounted for. -/
theorem reachable_memory (path : Reachable settings allowed past stored)
    (fresh : ∀ past env stored, allowed past env stored → FreshJob past env stored) :
    ∃ history, Memory settings past.submissions stored history := by
  induction path with
  | absent => exact ⟨_, memory_initial none rfl rfl⟩
  | seeded now => exact ⟨_, memory_initial _ rfl rfl⟩
  | run _ permitted ih =>
    obtain ⟨history, memory⟩ := ih
    obtain ⟨later, _, next⟩ := memory_run memory (fresh _ _ _ permitted)
    exact ⟨later, next⟩
  | foreign _ outside applied ih =>
    obtain ⟨history, memory⟩ := ih
    exact ⟨history, memory_quiet (isQuietOp_foreign outside) applied memory⟩
  | reenabled _ ih =>
    obtain ⟨history, memory⟩ := ih
    exact ⟨history, memory_reenabled memory⟩

end Memory
end ReplicateOnTag.Orchestrator

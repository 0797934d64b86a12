import Mathlib.Data.List.TakeWhile
import ReplicateOnTag.Orchestrator.History

/-! The failure counter against the runs that observed an outcome. The counter
is stored only in the record of the next submission, so a passing run resets
the stored one only when it goes on to submit a job. -/
namespace ReplicateOnTag.Orchestrator
open StateStore JobRecovery

/-- Failing runs since the last passing one. -/
def Past.trailingFailures (past : Past) : Nat :=
  (past.observations.takeWhile fun observation => observation = .failing).length

/-- The last observing runs, as many as the threshold, all failed. -/
def LastRunsFailed (settings : Settings) (past : Past) : Prop :=
  past.observations.take settings.maxBatchJobFailures =
    List.replicate settings.maxBatchJobFailures .failing

/-- The counter that the next run starts from. -/
def storedCounter (stored : Option Payload) : Nat :=
  seedConsecutiveFailures (getSubmissionRecords stored).values

/-- The job can be described; once terminal it stays so, with one verdict. -/
def statusSettled (settings : Settings) (verdict : String → Bool) (past : Past) (env : RunEnv)
    (record : SubmissionRecord) : Bool :=
  match viewJob env record.jobId with
  | .undescribable => false
  | .running _ => record.jobId ∉ past.seen
  | .terminal _ => failedRecord settings env record = verdict record.jobId

/-- A run later than the ones before it whose writes and descriptions succeed. -/
structure Orderly (settings : Settings) (verdict : String → Bool) (past : Past) (env : RunEnv)
    (stored : Option Payload) : Prop where
  fresh : FreshJob past env stored
  writes : ∀ site, env.writes site = .served
  described : ∀ record ∈ describedRecords settings env stored,
    statusSettled settings verdict past env record
  later : ∀ clock ∈ past.clock, clock < env.now

/-- A passing run with a counter to reset submits a job, and none finds a
failed job that an earlier run saw and did not score. -/
def ResetsOnPass (settings : Settings) (past : Past) (env : RunEnv)
    (stored : Option Payload) : Prop :=
  observe settings env past.seen (describedRecords settings env stored) = some .passing →
    (storedCounter stored = 0 ∨ (runBucket settings env stored).submission.isSome) ∧
      ∀ record ∈ describedRecords settings env stored, record.jobId ∈ past.seen →
        record.recoveryScored = false → failedRecord settings env record = false

instance : Decidable (LastRunsFailed settings past) := inferInstanceAs (Decidable (_ = _))

instance : Decidable (ResetsOnPass settings past env stored) := inferInstanceAs (Decidable (_ → _))

section Observing
variable {settings : Settings} {env : RunEnv} {past : Past} {stored : Option Payload}
  {seen : List String} {prior : List SubmissionRecord}

theorem lastRunsFailed_of_trailing
    (reached : settings.maxBatchJobFailures ≤ past.trailingFailures) :
    LastRunsFailed settings past := by
  obtain ⟨rest, split⟩ : (past.observations.takeWhile fun observation => observation = .failing) <+:
      past.observations := List.takeWhile_prefix _
  have front : past.observations.take settings.maxBatchJobFailures =
      (past.observations.takeWhile fun observation => observation = .failing).take
        settings.maxBatchJobFailures := by
    conv_lhs => rw [← split]
    exact List.take_append_of_le_length reached
  rw [LastRunsFailed, front, List.eq_replicate_iff]
  constructor
  · exact List.length_take_of_le reached
  · intro observation member
    simpa using List.mem_takeWhile_imp (List.mem_of_mem_take member)

theorem trailing_of_none
    (unobserved : observe settings env past.seen (describedRecords settings env stored) = none) :
    (past.extend settings env stored).trailingFailures = past.trailingFailures := by
  simp [Past.trailingFailures, Past.extend, unobserved]

theorem trailing_of_failing
    (failing : observe settings env past.seen
      (describedRecords settings env stored) = some .failing) :
    (past.extend settings env stored).trailingFailures = past.trailingFailures + 1 := by
  simp [Past.trailingFailures, Past.extend, failing]

theorem terminalRecord_of_failed (failed : failedRecord settings env record) :
    terminalRecord env record := by
  rw [failedRecord] at failed
  rw [terminalRecord]
  cases viewed : viewJob env record.jobId with
  | terminal job => rfl
  | undescribable | running => simp [viewed] at failed

/-- A job whose failure the run sees for the first time makes the run failing. -/
theorem seen_of_failed (calm : observe settings env seen prior ≠ some .failing)
    (member : record ∈ prior) (failed : failedRecord settings env record) :
    record.jobId ∈ seen := by
  by_contra unseen
  have terminal := terminalRecord_of_failed failed
  have first : record ∈ firstSeen env seen prior := by
    simp [firstSeen, member, unseen, terminal]
  have any : (firstSeen env seen prior).any (failedRecord settings env) = true :=
    List.any_eq_true.mpr ⟨record, first, failed⟩
  apply calm
  simp [observe, any, List.ne_nil_of_mem first]

theorem first_of_passing (passing : observe settings env seen prior = some .passing) :
    ∃ record ∈ prior, record.jobId ∉ seen ∧ terminalRecord env record := by
  simp only [observe] at passing
  split at passing
  · cases passing
  · rename_i some
    obtain ⟨record, first⟩ := List.exists_mem_of_ne_nil _ (by simpa using some)
    obtain ⟨member, shape⟩ := List.mem_filter.mp first
    simp only [Bool.and_eq_true, decide_eq_true_eq] at shape
    exact ⟨record, member, shape⟩

theorem describedRecords_eq (prepared : (runBucket settings env stored).preparation = some prep) :
    describedRecords settings env stored = priorSubmissions env stored := by
  simp [describedRecords, prepared]

/-- A described record is stored. -/
theorem recordFor_of_described (member : record ∈ describedRecords settings env stored) :
    recordFor settings.bucketName stored record.jobId = some record := by
  rw [describedRecords, priorSubmissions] at member
  split at member
  · split at member
    · obtain ⟨jobId, found⟩ := mem_getSubmissionRecords.mp member
      obtain ⟨rfl, _⟩ := recordFor_jobId found
      exact found
    · cases member
  · cases member

/-- A run that describes one record describes them all. -/
theorem described_of_recordFor (described : other ∈ describedRecords settings env stored)
    (found : recordFor settings.bucketName stored jobId = some record) :
    record ∈ describedRecords settings env stored := by
  rw [describedRecords, priorSubmissions] at described ⊢
  split at described
  · rename_i prepared
    rw [if_pos prepared]
    split at described
    · rename_i read
      rw [if_pos read]
      exact mem_getSubmissionRecords.mpr ⟨jobId, found⟩
    · cases described
  · cases described

/-- The terminal jobs among the described ones are seen from then on. -/
theorem mem_seen_extend :
    jobId ∈ (past.extend settings env stored).seen ↔
      jobId ∈ past.seen ∨ ∃ record ∈ describedRecords settings env stored,
        record.jobId = jobId ∧ terminalRecord env record := by
  simp only [Past.extend, List.mem_append, List.mem_map, List.mem_filter]
  refine or_congr_right (exists_congr fun record => ?_)
  tauto

end Observing

section Counter
variable {bucket : String} {before after : Option Payload}

theorem storedCounter_le_iff (bucket : String) (stored : Option Payload) (bound : Nat) :
    storedCounter stored ≤ bound ↔
      ∀ jobId record, recordFor bucket stored jobId = some record →
        (∀ otherId other, recordFor bucket stored otherId = some other →
          other.submittedAt ≤ record.submittedAt) → record.consecutiveFailures ≤ bound := by
  rw [storedCounter, seedConsecutiveFailures_le_iff]
  have stores : ∀ record, record ∈ (getSubmissionRecords stored).values ↔
      ∃ jobId, recordFor bucket stored jobId = some record := fun _ => mem_getSubmissionRecords
  simp only [stores]
  constructor
  · intro bounded jobId record found newest
    exact bounded record ⟨jobId, found⟩ fun other ⟨otherId, present⟩ => newest otherId other present
  · intro bounded record ⟨jobId, found⟩ newest
    exact bounded jobId record found fun otherId other present => newest other ⟨otherId, present⟩

/-- Flags play no part in the stored counter. -/
theorem storedCounter_keeps (keeps : KeepsRecords bucket before after) :
    storedCounter after ≤ storedCounter before := by
  rw [storedCounter_le_iff bucket]
  intro jobId record found newest
  rcases keeps with gone | kept
  · rw [gone] at found
    cases found
  · have pair : ∀ id, (recordFor bucket after id).map unflagged =
        (recordFor bucket before id).map unflagged := kept
    have old := pair jobId
    rw [found, Option.map_some] at old
    obtain ⟨first, present, same⟩ := Option.map_eq_some_iff.mp old.symm
    rw [← counter_of_unflagged same]
    refine (storedCounter_le_iff bucket before _).mp le_rfl jobId first present ?_
    intro otherId other stored
    have later := pair otherId
    rw [stored, Option.map_some] at later
    obtain ⟨next, listed, equal⟩ := Option.map_eq_some_iff.mp later
    rw [submittedAt_of_unflagged same, ← submittedAt_of_unflagged equal]
    exact newest otherId next listed

end Counter

/-- An earlier run saw the job fail, and no run has scored it yet. -/
structure Leftover (verdict : String → Bool) (past : Past) (record : SubmissionRecord) : Prop where
  unscored : record.recoveryScored = false
  seen : record.jobId ∈ past.seen
  failed : verdict record.jobId = true

/-- The stored counter, and the failure still to be scored if there is one, are
covered by the failing runs since the last passing one. -/
structure Streak (bucket : String) (verdict : String → Bool) (past : Past)
    (stored : Option Payload) :
    Prop where
  counted : storedCounter stored ≤ past.trailingFailures
  leftover : ∀ jobId record, recordFor bucket stored jobId = some record →
    Leftover verdict past record →
    storedCounter stored < past.trailingFailures
  scored : ∀ jobId record, recordFor bucket stored jobId = some record →
    record.recoveryScored = true →
    jobId ∈ past.seen
  dated : ∀ jobId record, recordFor bucket stored jobId = some record →
    ∃ clock ∈ past.clock, record.submittedAt ≤ clock
  known : ∀ jobId ∈ past.seen, jobId ∈ past.jobIds

section Scoring
variable {settings : Settings} {env : RunEnv} {verdict : String → Bool} {past : Past}
  {stored : Option Payload} {prep : Preparation}

theorem terminal_of_settled (settled : statusSettled settings verdict past env record)
    (seen : record.jobId ∈ past.seen) : terminalRecord env record := by
  rw [statusSettled] at settled
  rw [terminalRecord]
  cases viewed : viewJob env record.jobId with
  | terminal job => rfl
  | undescribable => simp [viewed] at settled
  | running job => simp [viewed, seen] at settled

theorem verdict_of_settled (settled : statusSettled settings verdict past env record)
    (terminal : terminalRecord env record) :
    failedRecord settings env record = verdict record.jobId := by
  rw [statusSettled] at settled
  rw [terminalRecord] at terminal
  cases viewed : viewJob env record.jobId with
  | terminal job => simpa [viewed] using settled
  | undescribable | running => simp [viewed] at terminal

/-- A job left over after a run was left over before it, or the run is failing. -/
theorem leftover_before (orderly : Orderly settings verdict past env stored)
    (leftover : Leftover verdict (past.extend settings env stored) record) :
    Leftover verdict past record ∨
      observe settings env past.seen (describedRecords settings env stored) = some .failing := by
  by_cases calm : observe settings env past.seen
    (describedRecords settings env stored) = some .failing
  · exact .inr calm
  left
  refine ⟨leftover.unscored, ?_, leftover.failed⟩
  rcases mem_seen_extend.mp leftover.seen with seen | ⟨other, member, same, terminal⟩
  · exact seen
  · have failed : failedRecord settings env other = true := by
      rw [verdict_of_settled (orderly.described other member) terminal, same]
      exact leftover.failed
    exact same ▸ seen_of_failed calm member failed

theorem not_leftover_of_passing (orderly : Orderly settings verdict past env stored)
    (resets : ResetsOnPass settings past env stored)
    (passing : observe settings env past.seen
      (describedRecords settings env stored) = some .passing)
    (found : recordFor settings.bucketName stored jobId = some record) :
    ¬ Leftover verdict past record := by
  intro leftover
  obtain ⟨_, described, _⟩ := first_of_passing passing
  have member := described_of_recordFor described found
  have settled := orderly.described record member
  have failed := verdict_of_settled settled (terminal_of_settled settled leftover.seen)
  rw [(resets passing).2 record member leftover.seen leftover.unscored, leftover.failed] at failed
  cases failed

theorem record_of_failed_outcome {prior : List SubmissionRecord}
    (failed : (describePriorJobs settings env prior stored).1.outcomes.any isEffectiveFailure) :
    ∃ record ∈ prior, record.recoveryScored = false ∧ failedRecord settings env record := by
  obtain ⟨outcome, scored, effective⟩ := List.any_eq_true.mp failed
  obtain ⟨record, member, _, unscored, job, viewed, rfl⟩ := mem_outcomes.mp scored
  exact ⟨record, member, unscored, by simpa [failedRecord, viewed] using effective⟩

/-- An unscored record whose job is terminal has an outcome. -/
theorem outcome_of_record (settings : Settings) (member : record ∈ priorSubmissions env stored)
    (unscored : record.recoveryScored = false) (terminal : terminalRecord env record) :
    ∃ outcome ∈ (describePriorJobs settings env (priorSubmissions env stored) stored).1.outcomes,
      outcome.jobId = record.jobId := by
  have named : record.jobId ≠ "" := by
    rw [priorSubmissions] at member
    split at member
    · have stores : ∃ jobId, recordFor settings.bucketName stored jobId = some record :=
        mem_getSubmissionRecords.mp member
      obtain ⟨jobId, found⟩ := stores
      obtain ⟨rfl, named⟩ := recordFor_jobId found
      exact named
    · cases member
  rw [terminalRecord] at terminal
  cases viewed : viewJob env record.jobId with
  | terminal job =>
    exact ⟨toOutcome settings record job,
      mem_outcomes.mpr ⟨record, member, named, unscored, job, viewed, rfl⟩, rfl⟩
  | undescribable | running => simp [viewed] at terminal

theorem counter_of_undescribed (undescribed : priorSubmissions env stored = []) :
    (recoveryPlan settings env stored).consecutiveFailures = 0 := by
  simp only [recoveryPlan, undescribed]
  rfl

/-- The counter a run computes is covered by the failing runs up to it. -/
theorem counter_le (streak : Streak settings.bucketName verdict past stored)
    (orderly : Orderly settings verdict past env stored)
    (resets : ResetsOnPass settings past env stored)
    (prepared : (runBucket settings env stored).preparation = some prep) :
    prep.plan.consecutiveFailures ≤ (past.extend settings env stored).trailingFailures := by
  have described := describedRecords_eq prepared
  rw [(prepares_of_preparation prepared).plan]
  by_cases read : env.reads .submissionRecords = true
  · have prior : priorSubmissions env stored = (getSubmissionRecords stored).values := if_pos read
    have seed : seedConsecutiveFailures (priorSubmissions env stored) = storedCounter stored := by
      rw [prior]
      rfl
    have raised : (recoveryPlan settings env stored).consecutiveFailures ≤
        storedCounter stored + 1 :=
      seed ▸ counter_le_succ (priorSubmissions env stored) _ _ _
    have counted := streak.counted
    cases observed : observe settings env past.seen (describedRecords settings env stored) with
    | none =>
      rw [trailing_of_none observed]
      cases failed : (describePriorJobs settings env (priorSubmissions env stored)
          stored).1.outcomes.any isEffectiveFailure with
      | true =>
        obtain ⟨record, member, unscored, fails⟩ := record_of_failed_outcome failed
        rw [← described] at member
        have settled := orderly.described record member
        have seen : record.jobId ∈ past.seen :=
          seen_of_failed (by rw [observed]; nofun) member fails
        have leftover : Leftover verdict past record :=
          ⟨unscored, seen, verdict_of_settled settled (terminalRecord_of_failed fails) ▸ fails⟩
        have pending := streak.leftover _ record (recordFor_of_described member) leftover
        omega
      | false =>
        have kept : (recoveryPlan settings env stored).consecutiveFailures ≤ storedCounter stored :=
          seed ▸ counter_le_of_calm failed
        omega
    | some observation =>
      cases observation with
      | failing =>
        rw [trailing_of_failing observed]
        omega
      | passing =>
        obtain ⟨first, member, unseen, terminal⟩ := first_of_passing observed
        have passed : (describePriorJobs settings env (priorSubmissions env stored)
            stored).1.outcomes.any isEffectiveFailure = false := by
          rw [Bool.eq_false_iff]
          intro failed
          obtain ⟨record, listed, unscored, fails⟩ := record_of_failed_outcome failed
          rw [← described] at listed
          have seen := seen_of_failed (by rw [observed]; nofun) listed fails
          rw [(resets observed).2 record listed seen unscored] at fails
          cases fails
        have unscored : first.recoveryScored = false := by
          rw [Bool.eq_false_iff]
          intro flagged
          exact unseen (streak.scored _ first (recordFor_of_described member) flagged)
        obtain ⟨outcome, scored, _⟩ :=
          outcome_of_record settings (described ▸ member) unscored terminal
        have zero : (recoveryPlan settings env stored).consecutiveFailures = 0 :=
          counter_of_pass passed (List.ne_nil_of_mem scored)
        omega
  · have zero : (recoveryPlan settings env stored).consecutiveFailures = 0 :=
      counter_of_undescribed (if_neg read)
    omega

/-- A committed flag is that of a described job, seen terminal. -/
theorem described_of_committed (committed : jobId ∈ (runBucket settings env stored).committed) :
    ∃ record ∈ describedRecords settings env stored, record.jobId = jobId ∧
      terminalRecord env record := by
  obtain ⟨prep, prepared, same⟩ := committed_eq committed
  have prepares := prepares_of_preparation prepared
  rw [same, newlyScored_eq prepares, prepares.check] at committed
  obtain ⟨outcome, scored, rfl⟩ := List.mem_map.mp committed
  obtain ⟨record, member, _, _, job, viewed, rfl⟩ := mem_outcomes.mp scored
  rw [describedRecords_eq prepared]
  exact ⟨record, member, rfl, by simp [terminalRecord, viewed]⟩

/-- A run that submits a job commits every outcome it found. -/
theorem committed_of_described
    (submitted : (runBucket settings env stored).submission = some submission)
    (member : record ∈ describedRecords settings env stored)
    (unscored : record.recoveryScored = false)
    (terminal : terminalRecord env record) :
    record.jobId ∈ (runBucket settings env stored).committed := by
  obtain ⟨prep, checkpoint, window, prepares, ready, _, ran, ⟨submits⟩⟩ :=
    submission_shape submitted
  have prepared : (runBucket settings env stored).preparation = some prep := by rw [ran]
  rw [describedRecords_eq prepared] at member
  obtain ⟨outcome, scored, same⟩ := outcome_of_record settings member unscored terminal
  rw [ran]
  simp only [submits.committed]
  rw [newlyScored_eq prepares, prepares.check, ← same]
  exact List.mem_map_of_mem scored

end Scoring

section Run
variable {settings : Settings} {env : RunEnv} {verdict : String → Bool} {past : Past}
  {stored : Option Payload} {history : ProcessedHistory.History}

/-- Once a run has submitted a job, its record is the newest one. -/
theorem storedCounter_submitted (streak : Streak settings.bucketName verdict past stored)
    (orderly : Orderly settings verdict past env stored)
    (submitted : (runBucket settings env stored).submission = some submission) :
    storedCounter (runBucket settings env stored).stored ≤
      submission.record.consecutiveFailures := by
  have named : ∀ jobId, env.createJob = .created jobId → jobId ≠ "" := fun jobId created =>
    (orderly.fresh jobId created).1
  rw [storedCounter_le_iff settings.bucketName]
  intro jobId record found newest
  obtain ⟨diagnosed, scored, _, origin⟩ := runBucket_record named found
  rcases origin with ⟨other, same, rfl, rfl⟩ | ⟨old, present, rfl⟩
  · cases submitted.symm.trans same
    exact le_rfl
  · obtain ⟨filed, stores, equal⟩ := runBucket_filed named orderly.writes submitted
    obtain ⟨_, _, _, instant, _⟩ := submission_fields submitted
    obtain ⟨clock, last, dated⟩ := streak.dated jobId old present
    have bound : filed.submittedAt ≤ old.submittedAt := newest _ filed stores
    have later := orderly.later clock last
    rw [submittedAt_of_unflagged equal, instant] at bound
    exact absurd (bound.trans dated) (not_le.mpr later)

theorem known_run (memory : Memory settings past.submissions stored history)
    (streak : Streak settings.bucketName verdict past stored)
    (seen : jobId ∈ (past.extend settings env stored).seen) : jobId ∈ past.jobIds := by
  rcases mem_seen_extend.mp seen with earlier | ⟨record, member, rfl, _⟩
  · exact streak.known jobId earlier
  · obtain ⟨submission, listed, same, _⟩ := memory.filed _ record (recordFor_of_described member)
    exact same.jobId ▸ List.mem_map_of_mem listed

theorem counted_run (streak : Streak settings.bucketName verdict past stored)
    (orderly : Orderly settings verdict past env stored)
    (resets : ResetsOnPass settings past env stored) :
    storedCounter (runBucket settings env stored).stored ≤
      (past.extend settings env stored).trailingFailures := by
  cases submitted : (runBucket settings env stored).submission with
  | some submission =>
    obtain ⟨prep, prepared, counter, _⟩ := submission_fields submitted
    have stores := storedCounter_submitted streak orderly submitted
    have covered := counter_le streak orderly resets prepared
    omega
  | none =>
    have keeps := keepsRecords_evolves (runBucket_unsubmitted submitted) (fun _ => isQuietOp_run)
    have stores := storedCounter_keeps keeps
    have counted := streak.counted
    cases observed : observe settings env past.seen (describedRecords settings env stored) with
    | none =>
      rw [trailing_of_none observed]
      omega
    | some observation =>
      cases observation with
      | failing =>
        rw [trailing_of_failing observed]
        omega
      | passing =>
        rcases (resets observed).1 with zero | submits
        · omega
        · rw [submitted] at submits
          cases submits

/-- A failure that stays unscored is covered on top of the stored counter. -/
theorem leftover_run (memory : Memory settings past.submissions stored history)
    (streak : Streak settings.bucketName verdict past stored)
    (orderly : Orderly settings verdict past env stored)
    (resets : ResetsOnPass settings past env stored)
    (found : recordFor settings.bucketName
      (runBucket settings env stored).stored jobId = some record)
    (leftover : Leftover verdict (past.extend settings env stored) record) :
    storedCounter (runBucket settings env stored).stored <
      (past.extend settings env stored).trailingFailures := by
  have named : ∀ jobId, env.createJob = .created jobId → jobId ≠ "" := fun jobId created =>
    (orderly.fresh jobId created).1
  obtain ⟨diagnosed, scored, _, origin⟩ := runBucket_record named found
  rcases origin with ⟨submission, submitted, rfl, rfl⟩ | ⟨old, present, rfl⟩
  · obtain ⟨_, _, _, _, created⟩ := submission_fields submitted
    exact absurd (known_run memory streak leftover.seen) (orderly.fresh _ created).2
  have unscored : old.recoveryScored = false := (Bool.or_eq_false_iff.mp leftover.unscored).1
  have own : old.jobId = jobId := (recordFor_jobId present).1
  have before : Leftover verdict (past.extend settings env stored) old :=
    ⟨unscored, leftover.seen, leftover.failed⟩
  cases submitted : (runBucket settings env stored).submission with
  | none =>
    have keeps := keepsRecords_evolves (runBucket_unsubmitted submitted) (fun _ => isQuietOp_run)
    have stores := storedCounter_keeps keeps
    cases observed : observe settings env past.seen (describedRecords settings env stored) with
    | none =>
      have earlier := (leftover_before orderly before).resolve_right (by rw [observed]; nofun)
      have pending := streak.leftover jobId old present earlier
      rw [trailing_of_none observed]
      omega
    | some observation =>
      cases observation with
      | failing =>
        have counted := streak.counted
        rw [trailing_of_failing observed]
        omega
      | passing =>
        have earlier := (leftover_before orderly before).resolve_right (by rw [observed]; nofun)
        exact absurd earlier (not_leftover_of_passing orderly resets observed present)
  | some submission =>
    by_cases member : old ∈ describedRecords settings env stored
    · -- The submission has committed the flag of a job it found terminal.
      have terminal : terminalRecord env old := by
        rcases mem_seen_extend.mp before.seen with seen | ⟨other, _, same, terminal⟩
        · exact terminal_of_settled (orderly.described old member) seen
        · simpa [terminalRecord, same] using terminal
      have committed := committed_of_described submitted member unscored terminal
      have flagged := runBucket_committed orderly.writes committed _ (own ▸ found)
      rw [leftover.unscored] at flagged
      cases flagged
    · -- The records could not be read, and the counter starts over.
      have undescribed : describedRecords settings env stored = [] :=
        List.eq_nil_iff_forall_not_mem.mpr fun other described =>
          member (described_of_recordFor described present)
      have unobserved : observe settings env past.seen
          (describedRecords settings env stored) = none := by
        rw [undescribed]
        rfl
      have earlier := (leftover_before orderly before).resolve_right (by rw [unobserved]; nofun)
      have pending := streak.leftover jobId old present earlier
      obtain ⟨prep, prepared, counter, _⟩ := submission_fields submitted
      have stores := storedCounter_submitted streak orderly submitted
      rw [describedRecords_eq prepared] at undescribed
      have zero : prep.plan.consecutiveFailures = 0 := by
        rw [(prepares_of_preparation prepared).plan]
        exact counter_of_undescribed undescribed
      rw [trailing_of_none unobserved]
      omega

/-- One run keeps the stored counter within the failing runs. -/
theorem streak_run (memory : Memory settings past.submissions stored history)
    (streak : Streak settings.bucketName verdict past stored)
    (orderly : Orderly settings verdict past env stored)
    (resets : ResetsOnPass settings past env stored) :
    Streak settings.bucketName verdict (past.extend settings env stored)
      (runBucket settings env stored).stored := by
  have named : ∀ jobId, env.createJob = .created jobId → jobId ≠ "" := fun jobId created =>
    (orderly.fresh jobId created).1
  refine ⟨counted_run streak orderly resets,
    fun _ _ => leftover_run memory streak orderly resets, ?_, ?_, ?_⟩
  · intro jobId record found flagged
    obtain ⟨diagnosed, scored, commits, origin⟩ := runBucket_record named found
    rw [mem_seen_extend]
    cases scored with
    | true => exact .inr (described_of_committed (commits rfl))
    | false =>
      rcases origin with ⟨submission, submitted, rfl, rfl⟩ | ⟨old, present, rfl⟩
      · obtain ⟨prep, checkpoint, window, _, _, _, _, ⟨submits⟩⟩ := submission_shape submitted
        rw [submits.record] at flagged
        cases flagged
      · have before : old.recoveryScored = true := by simpa [setFlags] using flagged
        exact .inl (streak.scored jobId old present before)
  · intro jobId record found
    obtain ⟨diagnosed, scored, _, origin⟩ := runBucket_record named found
    refine ⟨env.now, rfl, ?_⟩
    rcases origin with ⟨submission, submitted, rfl, rfl⟩ | ⟨old, present, rfl⟩
    · obtain ⟨_, _, _, instant, _⟩ := submission_fields submitted
      exact instant.le
    · obtain ⟨clock, last, dated⟩ := streak.dated jobId old present
      exact dated.trans (orderly.later clock last).le
  · intro jobId seen
    have known := known_run memory streak seen
    simp only [Past.jobIds, Past.extend, List.map_append, List.mem_append]
    exact .inl known

end Run

section Reachability
variable {settings : Settings} {env : RunEnv} {verdict : String → Bool} {past : Past}
  {stored : Option Payload}

theorem streak_initial (bucket : String) (verdict : String → Bool) (stored : Option Payload)
    (none : ∀ jobId, recordFor bucket stored jobId = none) :
    Streak bucket verdict .initial stored := by
  have unrecorded : ∀ jobId record, recordFor bucket stored jobId ≠ some record := by simp [none]
  refine ⟨?_, fun jobId record found => absurd found (unrecorded jobId record),
    fun jobId record found => absurd found (unrecorded jobId record),
    fun jobId record found => absurd found (unrecorded jobId record), nofun⟩
  rw [storedCounter_le_iff bucket]
  intro jobId record found
  exact absurd found (unrecorded jobId record)

/-- Only the records matter. -/
theorem streak_of_agrees {bucket : String} {after : Option Payload}
    (same : (payloadOrDefault bucket stored).Agrees
      (payloadOrDefault bucket after) .submissionRecords)
    (streak : Streak bucket verdict past stored) : Streak bucket verdict past after := by
  have records : ∀ jobId, recordFor bucket after jobId = recordFor bucket stored jobId := fun _ =>
    recordFor_of_agrees same
  have counter : storedCounter after ≤ storedCounter stored :=
    storedCounter_keeps (.inr fun jobId => by rw [records])
  refine ⟨counter.trans streak.counted, ?_, ?_, ?_, streak.known⟩
  · intro jobId record found leftover
    exact counter.trans_lt (streak.leftover jobId record (records jobId ▸ found) leftover)
  · intro jobId record found
    exact streak.scored jobId record (records jobId ▸ found)
  · intro jobId record found
    exact streak.dated jobId record (records jobId ▸ found)

theorem reachable_streak
    (path : Reachable settings (fun past env stored =>
      Orderly settings verdict past env stored ∧
        ResetsOnPass settings past env stored) past stored) :
    Streak settings.bucketName verdict past stored := by
  induction path with
  | absent => exact streak_initial _ _ _ fun _ => rfl
  | seeded now => exact streak_initial _ _ _ fun _ => rfl
  | run earlier permitted ih =>
    obtain ⟨_, memory⟩ := reachable_memory earlier fun _ _ _ allowed => allowed.1.fresh
    exact streak_run memory ih permitted.1 permitted.2
  | foreign _ outside applied ih =>
    exact streak_of_agrees (StateOp.frame applied (records_foreign outside)) ih
  | reenabled _ ih => exact streak_of_agrees (agrees_reenabled _ _) ih

/-- Over runs that reset the counter whenever they pass, the breaker trips only
on as many failing runs in a row as its threshold. -/
theorem breaker_follows_failures
    (path : Reachable settings (fun past env stored =>
      Orderly settings verdict past env stored ∧ ResetsOnPass settings past env stored) past stored)
    (orderly : Orderly settings verdict past env stored)
    (resets : ResetsOnPass settings past env stored)
    (tripped : (runBucket settings env stored).tripped) :
    LastRunsFailed settings (past.extend settings env stored) := by
  apply lastRunsFailed_of_trailing
  obtain ⟨prep, reason, prepares, disabled, ran⟩ := tripped_shape tripped
  have prepared : (runBucket settings env stored).preparation = some prep := by rw [ran]
  have covered := counter_le (reachable_streak path) orderly resets prepared
  have breached : settings.maxBatchJobFailures ≤ prep.plan.consecutiveFailures := by
    rw [prepares.plan] at disabled ⊢
    exact disableReason_isSome_iff.mp (Option.isSome_of_eq_some disabled)
  exact breached.trans covered

end Reachability

section Sample
open Settings

/-- Two jobs at a time, and a breaker for the second failure. -/
def photosTwice : Settings :=
  { photos with
    maxBatchJobFailures := 2
    maxConcurrentJobs := 2
    failuresPositive := Nat.two_pos
    concurrencyPositive := Nat.two_pos }

def antThenBee : Journal := [photosRow "ant" "yes" 11, photosRow "bee" "yes" 12]

def statuses (listed : List (String × String)) (jobId : String) : Option JobDescription :=
  (listed.lookup jobId).map .plain

def allButSecond (jobId : String) : Bool := jobId ≠ "job-2"

def allButFirst (jobId : String) : Bool := jobId ≠ "job-1"

theorem orderly_of_served (served : ∀ site, env.writes site = .served)
    (replies : FreshJob past env stored ∧
      (∀ record ∈ describedRecords settings env stored,
        statusSettled settings verdict past env record) ∧
      ∀ clock ∈ past.clock, clock < env.now) : Orderly settings verdict past env stored :=
  ⟨replies.1, served, replies.2.1, replies.2.2⟩

/-- The first job succeeds while the second is submitted; the second and third fail. -/
def failsTwice : List RunEnv :=
  [.smooth 20 [photosRow "ant" "yes" 11] (statuses []) (.created "job-1"),
    .smooth 30 antThenBee (statuses [("job-1", "Complete")]) (.created "job-2"),
    .smooth 40 antThenBee (statuses [("job-1", "Complete"),
      ("job-2", "Failed")]) (.created "job-3")]

def afterFirstFailure : Past × Option Payload :=
  replay photosTwice failsTwice .initial (some (seedCheckpoint "photos" 10))

def secondFailure : RunEnv :=
  .smooth 50 antThenBee (statuses [("job-1", "Complete"), ("job-2", "Failed"), ("job-3", "Failed")])
    (.rejected .service)

theorem breaker_follows_failures_twice :
    LastRunsFailed photosTwice
      (afterFirstFailure.1.extend photosTwice secondFailure afterFirstFailure.2) := by
  have path : Reachable photosTwice (fun past env stored =>
      Orderly photosTwice allButFirst past env stored ∧ ResetsOnPass photosTwice past env stored)
      afterFirstFailure.1 afterFirstFailure.2 :=
    reachable_replay photosTwice failsTwice (.seeded 10)
      ⟨⟨orderly_of_served (fun _ => rfl) (by decide +kernel), by decide +kernel⟩,
        ⟨orderly_of_served (fun _ => rfl) (by decide +kernel), by decide +kernel⟩,
        ⟨orderly_of_served (fun _ => rfl) (by decide +kernel), by decide +kernel⟩, trivial⟩
  exact breaker_follows_failures path (orderly_of_served (fun _ => rfl) (by decide +kernel))
    (by decide +kernel) (by decide +kernel)

/-- The first job fails while the second is running; the second succeeds in a
run that finds nothing to submit. -/
def idlePass : List RunEnv :=
  [.smooth 20 [photosRow "ant" "yes" 11] (statuses []) (.created "job-1"),
    .smooth 30 antThenBee (statuses [("job-1", "Active")]) (.created "job-2"),
    .smooth 40 antThenBee (statuses [("job-1", "Failed"), ("job-2", "Active")]) (.created "job-3"),
    .smooth 50 antThenBee (statuses [("job-1", "Failed"),
      ("job-2", "Complete"), ("job-3", "Active")])
      (.rejected .service)]

def afterIdlePass : Past × Option Payload :=
  replay photosTwice idlePass .initial (some (seedCheckpoint "photos" 10))

def failureAfterPass : RunEnv :=
  .smooth 60 antThenBee (statuses [("job-1", "Failed"), ("job-2", "Complete"), ("job-3", "Failed")])
    (.rejected .service)

/-- The breaker counts the failures on both sides of the passing run. -/
theorem breaker_trips_past_success :
    ¬ ∀ settings verdict past stored env,
      Reachable settings (Orderly settings verdict) past stored →
      Orderly settings verdict past env stored → (runBucket settings env stored).tripped →
      LastRunsFailed settings (past.extend settings env stored) := by
  intro follows
  have path : Reachable photosTwice (Orderly photosTwice allButSecond)
      afterIdlePass.1 afterIdlePass.2 :=
    reachable_replay photosTwice idlePass (.seeded 10)
      ⟨orderly_of_served (fun _ => rfl) (by decide +kernel),
        orderly_of_served (fun _ => rfl) (by decide +kernel),
        orderly_of_served (fun _ => rfl) (by decide +kernel),
        orderly_of_served (fun _ => rfl) (by decide +kernel), trivial⟩
  have claimed := follows photosTwice allButSecond afterIdlePass.1
    afterIdlePass.2 failureAfterPass path
    (orderly_of_served (fun _ => rfl) (by decide +kernel)) (by decide +kernel)
  exact absurd claimed (by decide +kernel)

end Sample
end ReplicateOnTag.Orchestrator

import ReplicateOnTag.Orchestrator.History

/-! When a run whose read was capped moves the persisted watermark: only the
release of a submitted job does, so a slice without anything to submit is read
again by the next run. -/
namespace ReplicateOnTag.Orchestrator
open StateStore AthenaJournal Watermark CheckpointLogic JournalDedup ManifestGenerator

/-- A run whose read was truncated, with every call succeeding. -/
structure TruncatedRun (settings : Settings) (env : RunEnv) (stored : Option Payload)
    (checkpoint : CheckpointState) (window : JournalWindow) : Prop where
  serves : env.Serves
  created : ∃ jobId, env.createJob = .created jobId
  keyed : ∃ key, env.manifestKey = some key
  worked : (runBucket settings env stored).checkpoint = some checkpoint
  read : (runBucket settings env stored).window = some window
  truncated : window.upTo.isSome

section Condition
variable (settings : Settings) (env : RunEnv) (window : JournalWindow)
  (checkpoint : CheckpointState)

/-- The manifest rows of the slice, before the deleted versions are removed. -/
def sliceEntries : List ManifestEntry :=
  (finalize (matchAndAccumulate (selectEligible settings window.ops checkpoint).dedupedOps
    settings.rules) settings.bucketName).entries

/-- The slice has something to submit, and something eligible past the bound. -/
def HasProgress (bound : Watermark) : Prop :=
  (∃ entry ∈ sliceEntries settings window checkpoint,
    (entry.objectKey, entry.versionId) ∉ permanentDeletes settings env window.since) ∧
  ∃ op ∈ (selectEligibleOperations window.ops checkpoint settings.lookback).eligible,
    bound < op.watermark

end Condition

section Step
variable {settings : Settings} {env : RunEnv} {stored : Option Payload}
  {checkpoint : CheckpointState}
  {window : JournalWindow}

theorem keptEntries_isSome_iff :
    (keptEntries settings env entries since).isSome ↔
      ∃ entry ∈ (finalize entries settings.bucketName).entries,
        (entry.objectKey, entry.versionId) ∉ permanentDeletes settings env since := by
  rw [← filterDeletedEntries_isSome_iff]
  simp only [keptEntries]
  split
  · rfl
  · rename_i unmatched
    rw [finalize_hasMatches_iff, not_not] at unmatched
    simp [filterDeletedEntries_isSome_iff, unmatched]

/-- The persisted watermark moves past its old value only to the watermark of
an operation the run selected. -/
theorem advances_past (submits : Submits settings env prep checkpoint window
      (selectEligible settings window.ops checkpoint) before run submission)
    (advances : Advances settings.bucketName settings.lookback submission.refs submits.candidateHwm
      stored after) :
    watermarkOf settings.bucketName after = watermarkOf settings.bucketName stored ∨
      ∃ op ∈ (selectEligibleOperations window.ops checkpoint settings.lookback).eligible,
        watermarkOf settings.bucketName after = op.watermark := by
  rw [watermarkOf]
  rw [advances.watermark]
  refine advancedWatermark_of_all (fun value => value = _ ∨
    ∃ op ∈ (selectEligibleOperations window.ops checkpoint settings.lookback).eligible,
      value = op.watermark) (.inl rfl) ?_ ?_
  · intro ref listed
    obtain ⟨_, op, member, rfl⟩ := submits.ref_of_selected listed
    exact .inr ⟨op, (mem_dedupedOps.mp member).1, rfl⟩
  · rintro value ⟨⟩
    obtain ⟨op, member, attained⟩ := maxWatermark_attained submits.candidate
    exact .inr ⟨op, member, attained.symm⟩

/-- A run that read a window and moved the watermark submitted a job from it. -/
theorem hasProgress_of_moved (read : (runBucket settings env stored).window = some window)
    (worked : (runBucket settings env stored).checkpoint = some checkpoint)
    (moved : watermarkOf settings.bucketName stored <
      watermarkOf settings.bucketName (runBucket settings env stored).stored) :
    HasProgress settings env window checkpoint (watermarkOf settings.bucketName stored) ∧
      ∃ op ∈ window.ops, watermarkOf settings.bucketName (runBucket settings env stored).stored =
        op.watermark := by
  rcases runBucket_persisted settings env stored with keeps | ⟨submission, hwm, submitted, advances⟩
  · have same : watermarkOf settings.bucketName (runBucket settings env stored).stored =
        watermarkOf settings.bucketName stored := keeps.watermark
    exact absurd moved (same ▸ lt_irrefl _)
  · obtain ⟨prep, prepares, ready, reads, ran⟩ := window_shape read worked
    rw [ran] at submitted
    obtain ⟨submits⟩ := runSelected_submits dedupedOps_of_no_candidate submitted
    have settled := keepsWindow_evolves (prepares.evolves ready) fun _ => isQuietOp_report
    have past : watermarkOf settings.bucketName (runBucket settings env stored).stored =
        watermarkOf settings.bucketName stored ∨
        ∃ op ∈ (selectEligibleOperations window.ops checkpoint settings.lookback).eligible,
          watermarkOf settings.bucketName
            (runBucket settings env stored).stored = op.watermark := by
      rcases submits.persisted with keeps | own
      · left
        rw [ran]
        exact (settled.trans keeps).watermark
      · rw [ran]
        exact advances_past submits (own.before settled)
    rcases past with same | ⟨op, member, same⟩
    · exact absurd moved (same ▸ lt_irrefl _)
    · refine ⟨⟨?_, op, member, same ▸ moved⟩, op, (eligible_mem_ops member).1, same⟩
      exact keptEntries_isSome_iff.mp (by rw [submits.filtered]; rfl)

theorem moved_of_hasProgress (run : TruncatedRun settings env stored checkpoint window)
    (progress : HasProgress settings env window checkpoint
      (watermarkOf settings.bucketName stored)) :
    watermarkOf settings.bucketName stored <
      watermarkOf settings.bucketName (runBucket settings env stored).stored := by
  obtain ⟨submittable, op, member, newer⟩ := progress
  obtain ⟨prep, prepares, ready, reads, ran⟩ := window_shape run.read run.worked
  obtain ⟨jobId, created⟩ := run.created
  obtain ⟨key, keyed⟩ := run.keyed
  obtain ⟨kept, filtered⟩ := Option.isSome_iff_exists.mp (keptEntries_isSome_iff.mpr submittable)
  have settled := prepares.evolves ready
  have readable := readable_evolves settled (fun _ => isQuietOp_report)
    (readable_of_getCheckpoint prepares.found)
  cases candidate : (selectEligible settings window.ops checkpoint).candidateHwm with
  | none =>
    have empty := (maxWatermark_eq_none_iff _).mp (selectEligible_candidate ▸ candidate)
    rw [empty] at member
    cases member
  | some candidateHwm =>
    obtain ⟨submission, submitted⟩ := Option.isSome_iff_exists.mp
      (runSelected_served prep checkpoint run.serves readable created keyed filtered candidate)
    obtain ⟨submits⟩ := runSelected_submits dedupedOps_of_no_candidate submitted
    have advances := (submits.advances (run.serves.writes .release) readable).before
      (keepsWindow_evolves settled fun _ => isQuietOp_report)
    have reached : op.watermark ≤ submits.candidateHwm :=
      le_maxWatermark (selectEligible_candidate ▸ submits.candidate) member
    have advanced := advances.watermark
    rw [ran]
    simp only [watermarkOf] at newer ⊢
    rw [advanced]
    exact lt_of_lt_of_le newer (reached.trans candidate_le_advancedWatermark)

end Step

section Backlog

/-- The tagging rows above the persisted watermark. -/
def backlog (settings : Settings) (journal : Journal) (stored : Option Payload) : Nat :=
  (taggingRows journal settings.bucketName (watermarkOf settings.bucketName stored) none).length

/-- Runs over one journal, with the number of truncated ones that have
something to submit past the watermark; the runs between them are any runs. -/
inductive CappedRuns (settings : Settings) (journal : Journal) :
    Nat → Option Payload → Option Payload → Prop where
  | start (stored : Option Payload) : CappedRuns settings journal 0 stored stored
  | other (env : RunEnv) (earlier : CappedRuns settings journal count first stored) :
      CappedRuns settings journal count first (runBucket settings env stored).stored
  | capped (earlier : CappedRuns settings journal count first stored) (same : env.journal = journal)
      (run : TruncatedRun settings env stored checkpoint window)
      (progress : HasProgress settings env window checkpoint
        (watermarkOf settings.bucketName stored)) :
      CappedRuns settings journal (count + 1) first (runBucket settings env stored).stored

theorem backlog_runBucket (settings : Settings) (journal : Journal) (env : RunEnv)
    (stored : Option Payload) :
    backlog settings journal (runBucket settings env stored).stored ≤
      backlog settings journal stored := by
  rw [backlog]
  rw [taggingRows_above (watermark_le_runBucket settings env stored)]
  exact List.length_filter_le _ _

/-- A run that moves the watermark leaves at least one row of the journal behind. -/
theorem backlog_shrinks (same : env.journal = journal)
    (run : TruncatedRun settings env stored checkpoint window)
    (progress : HasProgress settings env window checkpoint
      (watermarkOf settings.bucketName stored)) :
    backlog settings journal (runBucket settings env stored).stored <
      backlog settings journal stored := by
  have moved := moved_of_hasProgress run progress
  obtain ⟨prep, prepares, ready, reads, ran⟩ := window_shape run.read run.worked
  obtain ⟨_, op, read, reached⟩ := hasProgress_of_moved run.read run.worked moved
  rw [reads.ops, mem_readJournal] at read
  obtain ⟨row, member, tagging, _, accepted⟩ := read
  have instant := (parseRow_ok tagging accepted).2.2.2
  have passed : row ∈ taggingRows journal settings.bucketName
      (watermarkOf settings.bucketName stored)
      none := by
    refine mem_taggingRows.mpr ⟨same ▸ member, tagging, inRange_iff.mpr ⟨?_, by simp⟩⟩
    rw [← instant, ← reached]
    exact moved
  exact taggingRows_shrink moved.le passed (instant ▸ reached.ge)

theorem cappedRuns_drain (runs : CappedRuns settings journal count first last) :
    count + backlog settings journal last ≤ backlog settings journal first := by
  induction runs with
  | start => omega
  | other env _ ih =>
    have shrinks := backlog_runBucket settings journal env
    exact (Nat.add_le_add_left (shrinks _) _).trans ih
  | capped _ same run progress ih =>
    have shrinks := backlog_shrinks same run progress
    omega

end Backlog

/-- A truncated run moves the watermark exactly when its slice has something to
submit and something eligible past the watermark, and there are no more such
runs than rows above the watermark they start from. -/
theorem truncated_run_progresses_iff (settings : Settings) (journal : Journal) :
    (∀ env stored checkpoint window, TruncatedRun settings env stored checkpoint window →
      (watermarkOf settings.bucketName stored <
          watermarkOf settings.bucketName (runBucket settings env stored).stored ↔
        HasProgress settings env window checkpoint (watermarkOf settings.bucketName stored))) ∧
    (∀ count first last, CappedRuns settings journal count first last →
      count + backlog settings journal last ≤ backlog settings journal first) := by
  refine ⟨fun env stored checkpoint window run => ⟨fun moved => ?_, moved_of_hasProgress run⟩, ?_⟩
  · exact (hasProgress_of_moved run.read run.worked moved).1
  · intro count first last runs
    exact cappedRuns_drain runs

section Sample
open Settings

/-- A full slice of rows that no rule matches, above a fresh watermark. -/
def unmatchedSlice : RunEnv :=
  .smooth 20 [photosRow "ant" "no" 11, photosRow "bee" "no" 12] (fun _ => none) (.created "job-1")

def matchedSlice : RunEnv :=
  .smooth 20 [photosRow "ant" "no" 11, photosRow "bee" "yes" 12] (fun _ => none) (.created "job-1")

def freshCheckpoint : CheckpointState := (seedCheckpoint "photos" 10).checkpoint

def sliceWindow (env : RunEnv) : JournalWindow :=
  let read := readJournal env.journal "photos" (toWatermark 5) (some (toWatermark 12))
  ⟨read.1, read.2, toWatermark 5, some (toWatermark 12), false⟩

theorem truncated_run_progresses_matched :
    watermarkOf "photos" (some (seedCheckpoint "photos" 10)) <
      watermarkOf "photos" (runBucket photos matchedSlice
        (some (seedCheckpoint "photos" 10))).stored := by
  have run : TruncatedRun photos matchedSlice (some (seedCheckpoint "photos" 10)) freshCheckpoint
      (sliceWindow matchedSlice) :=
    ⟨RunEnv.smooth_serves _ _ _ _, ⟨_, rfl⟩, ⟨_, rfl⟩, by decide +kernel, by decide +kernel, rfl⟩
  refine ((truncated_run_progresses_iff photos matchedSlice.journal).1 _ _ _ _ run).mpr ⟨?_, ?_⟩
  · decide +kernel
  · decide +kernel

/-- The slice without a match leaves the watermark where it was. -/
theorem truncated_run_stands_still :
    ¬ ∀ settings past stored env checkpoint window, Reachable settings FreshJob past stored →
      TruncatedRun settings env stored checkpoint window →
      watermarkOf settings.bucketName stored <
        watermarkOf settings.bucketName (runBucket settings env stored).stored := by
  intro progresses
  have run : TruncatedRun photos unmatchedSlice (some (seedCheckpoint "photos" 10)) freshCheckpoint
      (sliceWindow unmatchedSlice) :=
    ⟨RunEnv.smooth_serves _ _ _ _, ⟨_, rfl⟩, ⟨_, rfl⟩, by decide +kernel, by decide +kernel, rfl⟩
  have moved := progresses photos .initial _ unmatchedSlice _ _ (.seeded 10) run
  have still : watermarkOf "photos"
      (runBucket photos unmatchedSlice (some (seedCheckpoint "photos" 10))).stored =
        toWatermark 10 := by
    decide +kernel
  exact absurd moved (by rw [show photos.bucketName = "photos" from rfl, still]; exact lt_irrefl _)

end Sample
end ReplicateOnTag.Orchestrator

import ReplicateOnTag.Core.ProcessedHistory
import ReplicateOnTag.Orchestrator.PersistedWindow

/-! Runs that read the same records one after the other, and what each of them
still finds eligible. -/
namespace ReplicateOnTag.Orchestrator
open StateStore Watermark CheckpointLogic JournalDedup ManifestGenerator ProcessedHistory

section Runs
variable (settings : Settings) (ops : List TaggingOperation)

/-- The manifest of a run that reads the records and finds no version deleted. -/
def manifestAt (state : CheckpointState) : List ManifestEntry :=
  (finalize (matchAndAccumulate (selectEligible settings ops state).dedupedOps settings.rules)
    settings.bucketName).entries

/-- The checkpoint such a run releases when its job was submitted. -/
def releasedAt (state : CheckpointState) : CheckpointState :=
  advanceCheckpoint state
    (some (buildSubmittedRefs (selectEligible settings ops state).dedupedOps
      ((manifestAt settings ops state).map ManifestEntry.triple)))
    settings.lookback (selectEligible settings ops state).candidateHwm

def checkpointAt (start : CheckpointState) : Nat → CheckpointState
  | 0 => start
  | n + 1 => releasedAt settings ops (checkpointAt start n)

/-- The manifest of the run with the number, counted from zero. -/
def manifestOf (start : CheckpointState) (n : Nat) : List ManifestEntry :=
  manifestAt settings ops (checkpointAt settings ops start n)

/-- One operation for each id. -/
def distinctOps : List TaggingOperation := dedupe (ops.filter isValid)

/-- Every record lies above the tail of every other, none is archived, and the
first run finds everything eligible. -/
structure ReadsStatic (start : CheckpointState) : Prop where
  above : ∀ op ∈ ops, ∀ other ∈ ops, subtract other.watermark settings.lookback < op.watermark
  unarchived : ∀ op ∈ ops, isArchivedOperation op = false
  eligible : ∀ op ∈ distinctOps ops, isEligible op start settings.lookback

/-- The bound of the window once the first run has submitted. -/
def drainTail (start : CheckpointState) : Watermark :=
  subtract (raiseToCandidate start.lastProcessedWatermark
    (maxWatermark (distinctOps ops))) settings.lookback

/-- The window of the first run holds the id of the operation, from an earlier
tagging, and keeps it. -/
def RecordedBefore (start : CheckpointState) (op : TaggingOperation) : Prop :=
  ∃ ref ∈ start.processedWindow, ref.logicalOperationId = op.logicalOperationId ∧
    drainTail settings ops start < ref.watermark

instance : Decidable (RecordedBefore settings ops start op) :=
  inferInstanceAs (Decidable (∃ ref ∈ start.processedWindow, _ ∧ _))

end Runs

section Reading
variable {settings : Settings} {ops : List TaggingOperation} {start : CheckpointState}

theorem mem_distinctOps_sound (member : op ∈ distinctOps ops) : op ∈ ops :=
  (List.mem_filter.mp (mem_dedupe_sound member)).1

/-- Ids tell the distinct operations apart. -/
theorem distinctOps_unique (first : op ∈ distinctOps ops) (second : other ∈ distinctOps ops)
    (same : op.logicalOperationId = other.logicalOperationId) : op = other :=
  (keeps_dedupe _).unique first second same

theorem dedupedOps_static (static : ReadsStatic settings ops start) (state : CheckpointState) :
    (selectEligible settings ops state).dedupedOps =
      (distinctOps ops).filter fun op => isEligible op state settings.lookback := by
  refine List.filter_eq_self.mpr fun op member => ?_
  have read := mem_distinctOps_sound (List.mem_filter.mp member).1
  simp [static.unarchived op read]

theorem le_raised (member : op ∈ distinctOps ops) (current : Watermark) :
    op.watermark ≤ raiseToCandidate current (maxWatermark (distinctOps ops)) := by
  cases found : maxWatermark (distinctOps ops) with
  | none =>
    rw [(maxWatermark_eq_none_iff _).mp found] at member
    cases member
  | some top =>
    have le := le_maxWatermark found member
    rw [raiseToCandidate]
    split
    · exact le
    · rename_i order
      exact le.trans (not_lt.mp order)

/-- Every operation stays inside the window of the later runs. -/
theorem drainTail_lt (static : ReadsStatic settings ops start) (member : op ∈ distinctOps ops) :
    drainTail settings ops start < op.watermark := by
  rw [drainTail]
  cases found : maxWatermark (distinctOps ops) with
  | none =>
    rw [(maxWatermark_eq_none_iff _).mp found] at member
    cases member
  | some top =>
    obtain ⟨latest, listed, rfl⟩ := maxWatermark_attained found
    rw [raiseToCandidate]
    split
    · exact static.above op (mem_distinctOps_sound member) latest (mem_distinctOps_sound listed)
    · rename_i order
      have older := not_lt.mp order
      obtain ⟨_, fresh | past | ⟨inside, _⟩⟩ :=
        (isEligible_iff _ _ _).mp (static.eligible op member)
      · rw [fresh] at older
        exact absurd (epoch_lt_toWatermark latest.eventTime) (not_lt.mpr older)
      · exact absurd (past.trans_le (le_maxWatermark found member)) (not_lt.mpr older)
      · exact inside

end Reading

section Rounds
variable {settings : Settings} {ops : List TaggingOperation} {start state : CheckpointState}

/-- The version of a key that the manifest of a run takes. -/
def servedAt (settings : Settings) (ops : List TaggingOperation)
    (state : CheckpointState) (key : String) :
    Option (Option String) :=
  (versionsOf key (matchingOps settings.rules settings.bucketName
    (selectEligible settings ops state).dedupedOps)).head?

theorem mem_manifestAt_iff : entry ∈ manifestAt settings ops state ↔
    entry.sourceBucket = settings.bucketName ∧
      servedAt settings ops state entry.objectKey = some entry.versionId :=
  mem_finalize_iff

theorem triple_mem_manifestAt_iff {op : TaggingOperation} :
    op.triple ∈ (manifestAt settings ops state).map ManifestEntry.triple ↔
      op.sourceBucket = settings.bucketName ∧
        servedAt settings ops state op.objectKey = some op.operationVersion := by
  rw [List.mem_map]
  constructor
  · rintro ⟨entry, listed, same⟩
    obtain ⟨bucket, rest⟩ := Prod.mk.inj same
    obtain ⟨key, version⟩ := Prod.mk.inj rest
    rw [mem_manifestAt_iff, bucket, key, version] at listed
    exact listed
  · intro served
    exact ⟨⟨op.sourceBucket, op.objectKey, op.operationVersion⟩, mem_manifestAt_iff.mpr served, rfl⟩

/-- The refs of a run. -/
def refsAt (settings : Settings) (ops : List TaggingOperation)
    (state : CheckpointState) : List ProcessedRef :=
  buildSubmittedRefs (selectEligible settings ops state).dedupedOps
    ((manifestAt settings ops state).map ManifestEntry.triple)

theorem mem_refsAt_iff (static : ReadsStatic settings ops start) {ref : ProcessedRef} :
    ref ∈ refsAt settings ops state ↔ ∃ op ∈ distinctOps ops,
      isEligible op state settings.lookback ∧
      op.triple ∈ (manifestAt settings ops state).map ManifestEntry.triple ∧
        ref = ⟨op.logicalOperationId, op.watermark⟩ := by
  rw [refsAt, mem_buildSubmittedRefs, dedupedOps_static static]
  simp only [List.mem_filter, and_assoc]

theorem candidate_le (found : (selectEligible settings ops state).candidateHwm = some value)
    (current : Watermark) :
    value ≤ raiseToCandidate current (maxWatermark (distinctOps ops)) := by
  obtain ⟨op, member, rfl⟩ := maxWatermark_attained found
  exact le_raised (mem_eligible_iff.mp member).1 current

theorem releasedAt_watermark_le (static : ReadsStatic settings ops start)
    (le : state.lastProcessedWatermark ≤
      raiseToCandidate start.lastProcessedWatermark (maxWatermark (distinctOps ops))) :
    (releasedAt settings ops state).lastProcessedWatermark ≤
      raiseToCandidate start.lastProcessedWatermark (maxWatermark (distinctOps ops)) := by
  have refs : ∀ ref ∈ refsAt settings ops state, ref.watermark ≤
      raiseToCandidate start.lastProcessedWatermark (maxWatermark (distinctOps ops)) := by
    intro ref listed
    obtain ⟨op, member, _, _, rfl⟩ := (mem_refsAt_iff static).mp listed
    exact le_raised member _
  rw [releasedAt, ← refsAt]
  cases given : refsAt settings ops state with
  | nil => exact le
  | cons first rest =>
    rw [advanceCheckpoint_submitted (List.cons_ne_nil first rest)]
    refine (advancedWatermark_le_iff _ _ _ _).mpr ⟨le, given ▸ refs, fun value found => ?_⟩
    exact candidate_le found _

/-- The watermark and window of a later run, once the first has submitted. -/
structure Follows (settings : Settings) (ops : List TaggingOperation)
    (start : CheckpointState) (n : Nat) :
    Prop where
  lease : (checkpointAt settings ops start n).lease = none
  watermark : (checkpointAt settings ops start n).lastProcessedWatermark =
    raiseToCandidate start.lastProcessedWatermark (maxWatermark (distinctOps ops))
  retains : Retains settings.lookback (checkpointAt settings ops start n)
    (start.processedWindow ++ (List.range n).flatMap fun i =>
      refsAt settings ops (checkpointAt settings ops start i))

theorem le_raiseToCandidate (current : Watermark) (candidate : Option Watermark) :
    current ≤ raiseToCandidate current candidate := by
  cases candidate with
  | none => exact le_rfl
  | some value =>
    rw [raiseToCandidate]
    split
    · rename_i order
      exact order.le
    · exact le_rfl

theorem raiseToCandidate_le_advanced (current : Watermark) (refs : List ProcessedRef)
    (candidate : Option Watermark) :
    raiseToCandidate current candidate ≤ advancedWatermark current refs candidate := by
  cases candidate with
  | none => exact le_advancedWatermark _ _ _
  | some value =>
    rw [raiseToCandidate]
    split
    · exact candidate_le_advancedWatermark
    · exact le_advancedWatermark _ _ _

theorem candidate_start (static : ReadsStatic settings ops start) :
    (selectEligible settings ops start).candidateHwm = maxWatermark (distinctOps ops) := by
  rw [selectEligible_candidate]
  congr 1
  exact List.filter_eq_self.mpr static.eligible

theorem follows_first (static : ReadsStatic settings ops start)
    (submitted : refsAt settings ops start ≠ []) :
    Follows settings ops start 1 := by
  have released : checkpointAt settings ops start 1 = advanceCheckpoint start
      (some (refsAt settings ops start)) settings.lookback (maxWatermark (distinctOps ops)) := by
    rw [← candidate_start static]
    rfl
  refine ⟨?_, le_antisymm ?_ ?_, ?_⟩
  · rw [released]
    exact advanceCheckpoint_lease _ _ _ _
  · exact releasedAt_watermark_le static (le_raiseToCandidate _ _)
  · rw [released, advanceCheckpoint_submitted submitted]
    exact raiseToCandidate_le_advanced _ _ _
  · have first := @retains_submitted settings.lookback
      (maxWatermark (distinctOps ops)) _ start submitted
    rw [← released] at first
    simpa [checkpointAt] using first

theorem follows_next (static : ReadsStatic settings ops start)
    (follows : Follows settings ops start n) :
    Follows settings ops start (n + 1) := by
  refine ⟨advanceCheckpoint_lease _ _ _ _, le_antisymm ?_ ?_, ?_⟩
  · exact releasedAt_watermark_le static follows.watermark.le
  · rw [← follows.watermark]
    exact advanceCheckpoint_monotone _ _ _ _
  · have next := retains_release follows.retains ⟨(checkpointAt settings ops start n).lease,
      some (refsAt settings ops (checkpointAt settings ops start n)),
      (selectEligible settings ops (checkpointAt settings ops start n)).candidateHwm⟩
    rw [List.range_succ, List.flatMap_append, List.flatMap_singleton, ← List.append_assoc]
    exact next

theorem follows_all (static : ReadsStatic settings ops start)
    (submitted : refsAt settings ops start ≠ [])
    (n : Nat) : Follows settings ops start (n + 1) := by
  induction n with
  | zero => exact follows_first static submitted
  | succ n ih => exact follows_next static ih

/-- An operation has its id in the window when it was recorded before, or a run
found it eligible and submitted its version. -/
theorem Follows.mem_processedIds_iff (static : ReadsStatic settings ops start)
    (follows : Follows settings ops start n) (member : op ∈ distinctOps ops) :
    op.logicalOperationId ∈ processedIds (checkpointAt settings ops start n) ↔
      RecordedBefore settings ops start op ∨
        ∃ i < n, isEligible op (checkpointAt settings ops start i) settings.lookback ∧
          op.triple ∈ (manifestOf settings ops start i).map ManifestEntry.triple := by
  have tail : subtract (checkpointAt settings ops start
      n).lastProcessedWatermark settings.lookback =
      drainTail settings ops start := by rw [follows.watermark, drainTail]
  rw [processedIds, follows.retains.remembers.mem_keys_iff, BoundedMemory.seen_append, tail]
  refine or_congr Iff.rfl ?_
  constructor
  · rintro ⟨ref, listed, same, _⟩
    obtain ⟨i, range, submitted⟩ := List.mem_flatMap.mp listed
    obtain ⟨other, otherMember, eligible, kept, rfl⟩ := (mem_refsAt_iff static).mp submitted
    obtain rfl := distinctOps_unique otherMember member same
    exact ⟨i, List.mem_range.mp range, eligible, kept⟩
  · rintro ⟨i, early, eligible, kept⟩
    refine ⟨⟨op.logicalOperationId, op.watermark⟩,
      List.mem_flatMap.mpr ⟨i, List.mem_range.mpr early,
      (mem_refsAt_iff static).mpr ⟨op, member, eligible, kept, rfl⟩⟩, rfl,
        drainTail_lt static member⟩

/-- From the second run on, eligible is what was not recorded before and whose
version no run has submitted. -/
theorem isEligible_run_iff (static : ReadsStatic settings ops start)
    (submitted : refsAt settings ops start ≠ [])
    (member : op ∈ distinctOps ops) (n : Nat) :
    isEligible op (checkpointAt settings ops start n) settings.lookback ↔
      (n = 0 ∨ ¬ RecordedBefore settings ops start op) ∧
        ∀ i < n, op.triple ∉ (manifestOf settings ops start i).map ManifestEntry.triple := by
  induction n using Nat.strongRecOn with
  | ind n ih =>
    cases n with
    | zero => simpa [checkpointAt] using static.eligible op member
    | succ n =>
      have follows := follows_all static submitted n
      have latest := le_raised member start.lastProcessedWatermark
      rw [← follows.watermark] at latest
      have inside := drainTail_lt static member
      rw [drainTail, ← follows.watermark] at inside
      have started : (checkpointAt settings ops start (n + 1)).lastProcessedWatermark ≠ epoch := by
        intro fresh
        rw [fresh] at latest
        exact absurd (epoch_lt_toWatermark op.eventTime) (not_lt.mpr latest)
      rw [isEligible_iff, follows.lease, follows.mem_processedIds_iff static member]
      simp only [leaseHolds_none, started, not_lt.mpr latest, inside, false_or, true_and, not_or,
        Nat.add_one_ne_zero]
      refine and_congr_right fun fresh => ?_
      constructor
      · intro none i
        -- the first run that submits the version would have found the operation eligible
        induction i using Nat.strongRecOn with
        | ind i earlier =>
          intro early kept
          have open_ := (ih i early).mpr ⟨.inr fresh, fun j before =>
            earlier j before (before.trans early)⟩
          exact none ⟨i, early, open_, kept⟩
      · rintro none ⟨i, early, _, kept⟩
        exact none i early kept

end Rounds

section Release
variable {settings : Settings} {env : RunEnv} {stored : Option Payload}
  {checkpoint : CheckpointState}
  {window : JournalWindow} {submission : Submission}

end Release

end ReplicateOnTag.Orchestrator

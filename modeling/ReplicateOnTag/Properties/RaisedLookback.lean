import ReplicateOnTag.Core.ProcessedHistory

/-! What a larger lookback finds eligible again: the window was pruned with the
smaller one, so it no longer holds what lies between the two bounds. -/
namespace ReplicateOnTag.ProcessedHistory
open Watermark CheckpointLogic

/-- One lease cycle by the operations its job submitted. -/
structure Cycle where
  held : Option Lease
  submitted : Option (List TaggingOperation)
  candidateMaxWatermark : Option Watermark

namespace Cycle

def toRef (op : TaggingOperation) : ProcessedRef := ⟨op.logicalOperationId, op.watermark⟩

def operations (cycle : Cycle) : List TaggingOperation := cycle.submitted.getD []

def release (cycle : Cycle) : Release :=
  ⟨cycle.held, cycle.submitted.map (List.map toRef), cycle.candidateMaxWatermark⟩

theorem refs_release (cycle : Cycle) : cycle.release.refs = cycle.operations.map toRef := by
  cases given : cycle.submitted <;> simp [Release.refs, release, operations, given]

end Cycle

section Course
variable (bucket : String) (seed : Watermark) (first second : Lookback) (before after : List Cycle)

/-- The checkpoint after the cycles run with the first lookback. -/
def stateBefore : CheckpointState :=
  (before.map Cycle.release).foldl (Release.apply first) ⟨bucket, seed, none, []⟩

/-- The checkpoint a later run finds, after more cycles with the second. -/
def stateAfter : CheckpointState :=
  (after.map Cycle.release).foldl (Release.apply second) (stateBefore bucket seed first before)

/-- Nothing that was ever submitted is eligible in the later run. -/
def NeverReplicatedTwice : Prop :=
  ∀ cycle ∈ before ++ after, ∀ op ∈ cycle.operations,
    isEligible op (stateAfter bucket seed first second before after) second = false

/-- Where the first lookback's last prune ends. -/
def prunedTo : Watermark :=
  subtract (stateBefore bucket seed first before).lastProcessedWatermark first

/-- Where the later run's tail begins. -/
def tailFrom : Watermark :=
  subtract (stateAfter bucket seed first second before after).lastProcessedWatermark second

/-- What was pruned under the first lookback and lies in the tail of the second
was submitted again, under its id, past one of the two bounds. -/
def PrunedOutsideTail : Prop :=
  ∀ cycle ∈ before, ∀ op ∈ cycle.operations,
    tailFrom bucket seed first second before after < op.watermark →
      op.watermark ≤ prunedTo bucket seed first before →
      (∃ other ∈ before, ∃ later ∈ other.operations, later.logicalOperationId =
        op.logicalOperationId ∧
        prunedTo bucket seed first before < later.watermark) ∨
      ∃ other ∈ after, ∃ later ∈ other.operations, later.logicalOperationId =
        op.logicalOperationId ∧
        tailFrom bucket seed first second before after < later.watermark

end Course

section Raising
variable {bucket : String} {seed : Watermark} {first second : Lookback} {before after : List Cycle}

theorem mem_refs {cycles : List Cycle} {ref : ProcessedRef} :
    ref ∈ (cycles.map Cycle.release).flatMap Release.refs ↔
      ∃ cycle ∈ cycles, ∃ op ∈ cycle.operations, ref = Cycle.toRef op := by
  simp only [List.mem_flatMap, List.mem_map]
  constructor
  · rintro ⟨_, ⟨cycle, member, rfl⟩, listed⟩
    rw [Cycle.refs_release] at listed
    obtain ⟨op, submitted, rfl⟩ := List.mem_map.mp listed
    exact ⟨cycle, member, op, submitted, rfl⟩
  · rintro ⟨cycle, member, op, submitted, rfl⟩
    refine ⟨_, ⟨cycle, member, rfl⟩, ?_⟩
    rw [Cycle.refs_release]
    exact List.mem_map_of_mem submitted

theorem represents_before (bucket : String) (seed : Watermark) (first : Lookback)
    (before : List Cycle) :
    Represents first (stateBefore bucket seed first before)
      ((before.map Cycle.release).foldl Release.record (.start seed)) :=
  represents_releases (represents_start first bucket seed none) _

theorem recorded_before (seed : Watermark) (before : List Cycle) :
    ((before.map Cycle.release).foldl Release.record (.start seed)).recorded =
      (before.map Cycle.release).flatMap Release.refs := by
  rw [releases_recorded]
  rfl

/-- The window before the change holds an id above a bound exactly when it was
submitted above that bound and the last prune. -/
theorem seen_before (id : String) (bound : Watermark) :
    SeenIn (stateBefore bucket seed first before).processedWindow id bound ↔
      ∃ cycle ∈ before, ∃ op ∈ cycle.operations, op.logicalOperationId = id ∧
        prunedTo bucket seed first before < op.watermark ∧ bound < op.watermark := by
  have agree := represents_before bucket seed first before
  have seen := @BoundedMemory.Remembers.seen_below _ _ _ _ _ _ _ bound _ _ id agree.remembers
  rw [← agree.watermark, recorded_before] at seen
  rw [SeenIn, seen]
  constructor
  · rintro ⟨_, listed, same, above, later⟩
    obtain ⟨cycle, member, op, submitted, rfl⟩ := mem_refs.mp listed
    exact ⟨cycle, member, op, submitted, same, above, later⟩
  · rintro ⟨cycle, member, op, submitted, same, above, later⟩
    exact ⟨_, mem_refs.mpr ⟨cycle, member, op, submitted, rfl⟩, same, above, later⟩

/-- A later lookback that is no smaller starts from the window as it stands. -/
theorem represents_change (raised : first ≤ second) :
    Represents second (stateBefore bucket seed first before)
      ⟨(stateBefore bucket seed first before).lastProcessedWatermark,
        (stateBefore bucket seed first before).processedWindow⟩ := by
  have agree := represents_before bucket seed first before
  refine ⟨rfl, ⟨?_, fun _ _ _ => Iff.rfl⟩, ?_⟩
  · intro entry member
    have above := agree.remembers.above entry member
    rw [← agree.watermark] at above
    exact (subtract_antitone _ raised).trans_lt above
  · intro entry member
    by_contra past
    have later := not_le.mp past
    rw [agree.watermark] at later
    obtain ⟨other, recorded, _, beyond⟩ := (agree.remembers.seen_iff entry.logicalOperationId _
      (subtract_le _ _)).mp ⟨entry, member, rfl, later⟩
    exact absurd (agree.bounded other recorded) (not_le.mpr beyond)

theorem represents_after (raised : first ≤ second) :
    Represents second (stateAfter bucket seed first second before after)
      ((after.map Cycle.release).foldl Release.record
        ⟨(stateBefore bucket seed first before).lastProcessedWatermark,
          (stateBefore bucket seed first before).processedWindow⟩) :=
  represents_releases (represents_change raised) _

theorem stateAfter_lease : (stateAfter bucket seed first second before after).lease = none := by
  have start : (stateBefore bucket seed first before).lease = none := releases_lease _ _ _ _
  rw [stateAfter]
  induction after using List.reverseRecOn with
  | nil => exact start
  | append_singleton earlier last _ =>
    rw [List.map_append, List.foldl_append]
    exact advanceCheckpoint_lease _ _ _ _

theorem stateBefore_le_stateAfter :
    (stateBefore bucket seed first before).lastProcessedWatermark ≤
      (stateAfter bucket seed first second before after).lastProcessedWatermark := by
  rw [stateAfter]
  induction after using List.reverseRecOn with
  | nil => exact le_rfl
  | append_singleton earlier last ih =>
    rw [List.map_append, List.foldl_append]
    exact ih.trans (advanceCheckpoint_monotone _ _ _ _)

/-- The watermark is past everything that was submitted. -/
theorem le_stateAfter (raised : first ≤ second) (member : cycle ∈ before ++ after)
    (submitted : op ∈ cycle.operations) :
    op.watermark ≤ (stateAfter bucket seed first second before after).lastProcessedWatermark := by
  rcases List.mem_append.mp member with early | late
  · have agree := represents_before bucket seed first before
    have recorded := mem_refs.mpr ⟨cycle, early, op, submitted, rfl⟩
    rw [← recorded_before seed] at recorded
    have bounded := agree.bounded _ recorded
    rw [← agree.watermark] at bounded
    exact bounded.trans stateBefore_le_stateAfter
  · have agree := @represents_after bucket seed first second before after raised
    rw [agree.watermark]
    refine agree.bounded (Cycle.toRef op) ?_
    rw [releases_recorded]
    exact List.mem_append_right _ (mem_refs.mpr ⟨cycle, late, op, submitted, rfl⟩)

/-- The later run finds a submitted operation eligible exactly when it lies in
the tail and no window entry has its id there. -/
theorem isEligible_after_iff (raised : first ≤ second) (member : cycle ∈ before ++ after)
    (submitted : op ∈ cycle.operations) :
    isEligible op (stateAfter bucket seed first second before after) second ↔
      tailFrom bucket seed first second before after < op.watermark ∧
        ¬ (SeenIn (stateBefore bucket seed first before).processedWindow op.logicalOperationId
            (tailFrom bucket seed first second before after) ∨
          ∃ other ∈ after, ∃ later ∈ other.operations, later.logicalOperationId =
            op.logicalOperationId ∧
            tailFrom bucket seed first second before after < later.watermark) := by
  have agree := @represents_after bucket seed first second before after raised
  have watermark := agree.watermark
  have seen : ((after.map Cycle.release).foldl Release.record
      ⟨(stateBefore bucket seed first before).lastProcessedWatermark,
        (stateBefore bucket seed first before).processedWindow⟩).Seen op.logicalOperationId
          (tailFrom bucket seed first second before after) ↔
      SeenIn (stateBefore bucket seed first before).processedWindow op.logicalOperationId
            (tailFrom bucket seed first second before after) ∨
          ∃ other ∈ after, ∃ later ∈ other.operations, later.logicalOperationId =
            op.logicalOperationId ∧
            tailFrom bucket seed first second before after < later.watermark := by
    rw [History.Seen, releases_recorded, BoundedMemory.seen_append]
    refine or_congr_right ⟨?_, ?_⟩
    · rintro ⟨_, listed, same, later⟩
      obtain ⟨cycle, member, op, submitted, rfl⟩ := mem_refs.mp listed
      exact ⟨cycle, member, op, submitted, same, later⟩
    · rintro ⟨cycle, member, op, submitted, same, later⟩
      exact ⟨_, mem_refs.mpr ⟨cycle, member, op, submitted, rfl⟩, same, later⟩
  have past : op.watermark ≤
      (stateAfter bucket seed first second before after).lastProcessedWatermark :=
    le_stateAfter raised member submitted
  rw [isEligible_iff_admits agree stateAfter_lease, History.Admits, ← watermark, ← tailFrom, seen]
  constructor
  · rintro (fresh | newer | inside)
    · rw [fresh] at past
      exact absurd (epoch_lt_toWatermark op.eventTime) (not_lt.mpr past)
    · exact absurd newer (not_lt.mpr past)
    · exact inside
  · exact fun inside => .inr (.inr inside)

end Raising

/-- Raising the lookback never makes a submitted operation eligible again
exactly when everything pruned before lies outside the new tail, or was
submitted again past one of the bounds. -/
theorem raised_lookback_iff (bucket : String) (seed : Watermark) (raised : first < second)
    (before after : List Cycle) :
    NeverReplicatedTwice bucket seed first second before after ↔
      PrunedOutsideTail bucket seed first second before after := by
  constructor
  · intro never cycle member op submitted inside pruned
    have held := never cycle (List.mem_append_left _ member) op submitted
    rw [Bool.eq_false_iff, ne_eq,
      isEligible_after_iff raised.le (List.mem_append_left _ member) submitted, not_and, not_not,
      seen_before] at held
    rcases held inside with ⟨other, listed, later, again, same, above, _⟩ | again
    · exact .inl ⟨other, listed, later, again, same, above⟩
    · exact .inr again
  · intro outside cycle member op submitted
    rw [Bool.eq_false_iff, ne_eq, isEligible_after_iff raised.le member submitted, not_and, not_not,
      seen_before]
    intro inside
    rcases List.mem_append.mp member with early | late
    · by_cases above : prunedTo bucket seed first before < op.watermark
      · exact .inl ⟨cycle, early, op, submitted, rfl, above, inside⟩
      · rcases outside cycle early op submitted inside (not_lt.mp above) with
          ⟨other, listed, later, again, same, past⟩ | again
        · exact .inl ⟨other, listed, later, again, same, past,
            inside.trans ((not_lt.mp above).trans_lt past)⟩
        · exact .inr again
    · exact .inr ⟨cycle, late, op, submitted, rfl, inside⟩

section Sample

def taggedAt (key : String) (instant : Instant) : TaggingOperation :=
  { sourceBucket := "photos"
    objectKey := key
    resultingTagSet := some (Dict.ofList [("keep", "yes")])
    sequenceNumber := "1"
    eventTime := instant
    operationVersion := none
    lastModified := none
    storageClass := none }

/-- A job with one operation, released with its own watermark. -/
def submitsAt (key : String) (instant : Instant) : Cycle :=
  ⟨none, some [taggedAt key instant], none⟩

theorem raised_lookback_recent :
    NeverReplicatedTwice "photos" epoch 5 10 [submitsAt "ant" 8, submitsAt "bee" 12]
      [submitsAt "cat" 15] := by
  refine (raised_lookback_iff "photos" epoch (by decide) _ _).mpr ?_
  have pruned : prunedTo "photos" epoch 5 [submitsAt "ant" 8,
      submitsAt "bee" 12] = toWatermark 7 := by
    decide +kernel
  intro cycle member op submitted _ old
  rw [pruned] at old
  have recent : ∀ cycle ∈ [submitsAt "ant" 8, submitsAt "bee" 12], ∀ op ∈ cycle.operations,
      ¬ op.watermark ≤ toWatermark 7 := by decide +kernel
  exact absurd old (recent cycle member op submitted)

/-- Under a lookback of 5 the release at 14 forgets the operation at 8, which
lies in the tail of a lookback of 10. -/
theorem raised_lookback_repeats :
    ¬ ∀ bucket seed first second, first < second → ∀ before after,
      NeverReplicatedTwice bucket seed first second before after := by
  intro never
  have again : isEligible (taggedAt "ant" 8)
      (stateAfter "photos" epoch 5 10 [submitsAt "ant" 8, submitsAt "bee" 14] []) 10 =
        true := by decide +kernel
  have held := never "photos" epoch 5 10 (by decide) [submitsAt "ant" 8, submitsAt "bee" 14] []
    (submitsAt "ant" 8) (by simp) (taggedAt "ant" 8) (by simp [submitsAt, Cycle.operations])
  rw [again] at held
  cases held

end Sample
end ReplicateOnTag.ProcessedHistory

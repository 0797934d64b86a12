import ReplicateOnTag.Orchestrator.JournalWindow

/-! Deduplication and the archive exclusion go by the newest record of each
operation, and the candidate watermark covers what they leave out. -/
namespace ReplicateOnTag.Orchestrator
open JournalDedup CheckpointLogic

/-- The valid record of the id with the highest sequence number, the one
delivered first when several share it. -/
def newestRecord (ops : List TaggingOperation) (id : String) : Option TaggingOperation :=
  KeepBest.bestOf TaggingOperation.logicalOperationId TaggingOperation.sequenceNumber
    (ops.filter isValid) id

/-- Valid records of one id are told apart by their sequence numbers. -/
def DistinctPerId (ops : List TaggingOperation) : Prop :=
  ∀ first ∈ ops.filter isValid, ∀ second ∈ ops.filter isValid,
    first.logicalOperationId = second.logicalOperationId →
      first.sequenceNumber = second.sequenceNumber →
      first = second

structure FollowsNewest (settings : Settings) (state : CheckpointState)
    (ops : List TaggingOperation)
    (selected : Selected) : Prop where
  once : ((selected.dedupedOps ++ selected.archivedOps).map
    TaggingOperation.logicalOperationId).Nodup
  kept : ∀ op, op ∈ selected.dedupedOps ↔ newestRecord ops op.logicalOperationId = some op ∧
    isEligible op state settings.lookback ∧ isArchivedOperation op = false
  excluded : ∀ op, op ∈ selected.archivedOps ↔ newestRecord ops op.logicalOperationId = some op ∧
    isEligible op state settings.lookback ∧ isArchivedOperation op = true
  newest : ∀ op ∈ selected.dedupedOps, newestRecord ops op.logicalOperationId = some op
  highest : ∀ op ∈ selected.dedupedOps, op ∈ ops ∧ isValid op ∧
    ∀ other ∈ ops, isValid other → other.logicalOperationId = op.logicalOperationId →
      other.sequenceNumber ≤ op.sequenceNumber
  archived : ∀ id record, newestRecord ops id = some record → isArchivedOperation record →
    ∀ op ∈ selected.dedupedOps, op.logicalOperationId ≠ id
  candidate : selected.candidateHwm =
    ((selected.dedupedOps ++ selected.archivedOps).map TaggingOperation.watermark).max?
  unordered : DistinctPerId ops → ∀ other : List TaggingOperation, other.Perm ops →
    (selectEligible settings other state).dedupedOps.Perm selected.dedupedOps

section Selecting
variable {settings : Settings} {ops : List TaggingOperation} {state : CheckpointState}

theorem mem_dedupe_iff : op ∈ dedupe (ops.filter isValid) ↔
    newestRecord ops op.logicalOperationId = some op := by
  rw [dedupe, Dict.mem_values_iff, keepNewest_eq_keep]
  simp only [KeepBest.get?_fold, newestRecord]
  constructor
  · rintro ⟨id, found⟩
    rw [(KeepBest.bestOf_mem found).2.1]
    exact found
  · exact fun found => ⟨op.logicalOperationId, found⟩

theorem nodup_dedupe (valid : List TaggingOperation) :
    ((dedupe valid).map TaggingOperation.logicalOperationId).Nodup := by
  rw [dedupe, (keeps_dedupe valid).map_values]
  exact Dict.keys_nodup _

/-- The kept operations with the archived ones are the eligible operations again. -/
theorem perm_split : ((selectEligible settings ops state).dedupedOps ++
    (selectEligible settings ops state).archivedOps).Perm
      (selectEligibleOperations ops state settings.lookback).eligible := by
  have split := List.filter_append_perm isArchivedOperation
    (selectEligibleOperations ops state settings.lookback).eligible
  exact List.perm_append_comm.trans split

theorem mem_dedupedOps_iff : op ∈ (selectEligible settings ops state).dedupedOps ↔
    newestRecord ops op.logicalOperationId = some op ∧ isEligible op state settings.lookback ∧
      isArchivedOperation op = false := by
  rw [mem_dedupedOps, mem_eligible_iff, mem_dedupe_iff, and_assoc]

theorem mem_archivedOps_iff : op ∈ (selectEligible settings ops state).archivedOps ↔
    newestRecord ops op.logicalOperationId = some op ∧ isEligible op state settings.lookback ∧
      isArchivedOperation op = true := by
  have member : op ∈ (selectEligible settings ops state).archivedOps ↔
      op ∈ (selectEligibleOperations ops state settings.lookback).eligible ∧
        isArchivedOperation op = true :=
    List.mem_filter
  rw [member, mem_eligible_iff, mem_dedupe_iff, and_assoc]

theorem nodup_eligible (ops : List TaggingOperation) (state : CheckpointState)
    (lookback : Lookback) :
    ((selectEligibleOperations ops state lookback).eligible.map
      TaggingOperation.logicalOperationId).Nodup :=
  (nodup_dedupe (ops.filter isValid)).sublist (List.filter_sublist.map _)

/-- Told apart by sequence numbers, the newest record of an id does not depend
on the order of delivery. -/
theorem newestRecord_perm {other : List TaggingOperation} (distinct : DistinctPerId ops)
    (same : other.Perm ops)
    (id : String) : newestRecord other id = newestRecord ops id := by
  have member : ∀ record, record ∈ other.filter isValid ↔ record ∈ ops.filter isValid :=
    fun _ => (same.filter isValid).mem_iff
  have distinctOther : DistinctPerId other := fun first listed second found =>
    distinct first ((member first).mp listed) second ((member second).mp found)
  refine Option.ext fun record => ?_
  rw [newestRecord, newestRecord, KeepBest.bestOf_eq_some_iff distinctOther,
    KeepBest.bestOf_eq_some_iff distinct]
  simp only [member]

end Selecting

/-- The kept operations are the newest valid records of their ids, whatever was
delivered in whatever order. -/
theorem selection_follows_newest (settings : Settings) (state : CheckpointState)
    (ops : List TaggingOperation) :
    FollowsNewest settings state ops (selectEligible settings ops state) := by
  constructor
  · exact (perm_split.map _).nodup_iff.mpr (nodup_eligible ops state settings.lookback)
  · exact fun op => mem_dedupedOps_iff
  · exact fun op => mem_archivedOps_iff
  · intro op kept
    exact (mem_dedupedOps_iff.mp kept).1
  · intro op kept
    obtain ⟨member, _, highest⟩ := KeepBest.bestOf_mem (mem_dedupedOps_iff.mp kept).1
    obtain ⟨listed, valid⟩ := List.mem_filter.mp member
    refine ⟨listed, valid, ?_⟩
    intro other found otherValid same
    exact highest other (List.mem_filter.mpr ⟨found, otherValid⟩) same
  · rintro _ record newest archived op kept rfl
    obtain ⟨own, _, live⟩ := mem_dedupedOps_iff.mp kept
    rw [newest, Option.some.injEq] at own
    rw [own, live] at archived
    cases archived
  · rw [selectEligible_candidate, maxWatermark_eq_max?]
    refine Option.ext fun value => ?_
    rw [List.max?_eq_some_iff, List.max?_eq_some_iff]
    simp only [(perm_split.map TaggingOperation.watermark).mem_iff]
  · intro distinct other same
    have nodup : ∀ ops : List TaggingOperation,
        (selectEligible settings ops state).dedupedOps.Nodup := by
      intro ops
      have all : ((selectEligible settings ops state).dedupedOps ++
          (selectEligible settings ops state).archivedOps).Nodup :=
        perm_split.nodup_iff.mpr (nodup_eligible ops state settings.lookback).of_map
      exact all.of_append_left
    refine (List.perm_ext_iff_of_nodup (nodup other) (nodup ops)).mpr fun op => ?_
    rw [mem_dedupedOps_iff, mem_dedupedOps_iff, newestRecord_perm distinct same]

end ReplicateOnTag.Orchestrator

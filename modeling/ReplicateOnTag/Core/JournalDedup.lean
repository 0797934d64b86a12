import ReplicateOnTag.Library.WhiteSpace
import ReplicateOnTag.Core.CheckpointLogic

/-! Validity, deduplication, eligibility and archive exclusion of the records
read for one interval, and the refs of a submitted job. -/
namespace ReplicateOnTag.JournalDedup
open CheckpointLogic

structure SkippedRecord where
  sequenceNumber : String
  sourceBucket : String
  objectKey : Option String
  reason : String
  deriving DecidableEq

def hasTags (op : TaggingOperation) : Bool :=
  match op.resultingTagSet with
  | none => false
  | some tags => !tags.entries.isEmpty

/-- The reason a record is dropped before deduplication. -/
def skipped? (op : TaggingOperation) : Option SkippedRecord :=
  if op.objectKey = "" then
    some ⟨op.sequenceNumber, op.sourceBucket, none, "missing object_key"⟩
  else if hasTags op then none
  else
    some ⟨op.sequenceNumber, op.sourceBucket, some op.objectKey,
      "missing or empty resulting_tag_set"⟩

def isValid (op : TaggingOperation) : Bool := (skipped? op).isNone

def keepNewest (best : Dict String TaggingOperation) (op : TaggingOperation) :
    Dict String TaggingOperation :=
  match best.get? op.logicalOperationId with
  | none => best.insert op.logicalOperationId op
  | some existing =>
      if existing.sequenceNumber < op.sequenceNumber then best.insert op.logicalOperationId op
      else best

def dedupe (valid : List TaggingOperation) : List TaggingOperation :=
  (valid.foldl keepNewest Dict.empty).values

def maxWatermark : List TaggingOperation → Option Watermark
  | [] => none
  | op :: rest => some (rest.foldl (fun best next => max best next.watermark) op.watermark)

structure Selection where
  eligible : List TaggingOperation
  skipped : List SkippedRecord
  candidateMaxWatermark : Option Watermark

def selectEligibleOperations (ops : List TaggingOperation) (state : CheckpointState)
    (lookback : Lookback) : Selection :=
  let eligible := (dedupe (ops.filter isValid)).filter fun op => isEligible op state lookback
  ⟨eligible, ops.filterMap skipped?, maxWatermark eligible⟩

/-- The operations whose triple reached the written manifest. -/
def submittedOps (ops : List TaggingOperation)
    (keptTriples : List (String × String × Option String)) :
    List TaggingOperation :=
  ops.filter fun op => op.triple ∈ keptTriples

/-- One ref for each of them. -/
def buildSubmittedRefs (ops : List TaggingOperation)
    (keptTriples : List (String × String × Option String)) : List ProcessedRef :=
  (submittedOps ops keptTriples).map fun op => ⟨op.logicalOperationId, op.watermark⟩

/-- `str.upper` on one character, as far as comparison with an archived class
can tell: only the dotless i becomes a letter of one outside ASCII. -/
def upper (c : Char) : Char := if c.toNat = 0x131 then 'I' else c.toUpper

/-- `storage_class.strip().upper()`. -/
def normalizedStorageClass (storageClass : String) : String :=
  String.ofList ((WhiteSpace.strip storageClass.toList).map upper)

def archivedStorageClasses : List String := ["GLACIER", "DEEP_ARCHIVE"]

def isArchived (storageClass : Option String) : Bool :=
  match storageClass with
  | none => false
  | some name => name ≠ "" ∧ normalizedStorageClass name ∈ archivedStorageClasses

def isArchivedOperation (op : TaggingOperation) : Bool := isArchived op.storageClass

/-- Kept operations and archived ones, both in order. -/
def filterArchivedOperations (ops : List TaggingOperation) :
    List TaggingOperation × List TaggingOperation :=
  (ops.filter fun op => !isArchivedOperation op, ops.filter isArchivedOperation)

section Deduplication

theorem keepNewest_eq_keep :
    keepNewest = KeepBest.keep TaggingOperation.logicalOperationId
      TaggingOperation.sequenceNumber := by
  funext best op
  rw [keepNewest, KeepBest.keep]
  cases best.get? op.logicalOperationId with
  | none => rfl
  | some existing => exact if_congr Iff.rfl rfl rfl

/-- The newest record of each identity, the earlier one on equal numbers. -/
theorem keeps_dedupe (valid : List TaggingOperation) :
    KeepBest.Keeps TaggingOperation.logicalOperationId TaggingOperation.sequenceNumber valid
      (valid.foldl keepNewest Dict.empty) := by
  rw [keepNewest_eq_keep]
  exact KeepBest.keeps_fold _ _ valid

theorem mem_dedupe_sound (member : op ∈ dedupe valid) : op ∈ valid :=
  (keeps_dedupe valid).mem member

/-- Every valid record is represented by a record of its own identity. -/
theorem dedupe_represents (member : op ∈ valid) :
    ∃ kept ∈ dedupe valid, kept.logicalOperationId = op.logicalOperationId ∧
      op.sequenceNumber ≤ kept.sequenceNumber :=
  (keeps_dedupe valid).represents member

end Deduplication

section Selection
variable {ops : List TaggingOperation} {state : CheckpointState} {lookback : Lookback}

theorem mem_eligible_iff :
    op ∈ (selectEligibleOperations ops state lookback).eligible ↔
      op ∈ dedupe (ops.filter isValid) ∧ isEligible op state lookback := by
  simp only [selectEligibleOperations, List.mem_filter]

theorem eligible_mem_ops (member : op ∈ (selectEligibleOperations ops state lookback).eligible) :
    op ∈ ops ∧ isValid op ∧ isEligible op state lookback := by
  obtain ⟨deduped, eligible⟩ := mem_eligible_iff.mp member
  obtain ⟨read, valid⟩ := List.mem_filter.mp (mem_dedupe_sound deduped)
  exact ⟨read, valid, eligible⟩

theorem maxWatermark_eq_none_iff (ops : List TaggingOperation) :
    maxWatermark ops = none ↔ ops = [] := by
  cases ops <;> simp [maxWatermark]

theorem maxWatermark_eq_max? (ops : List TaggingOperation) :
    maxWatermark ops = (ops.map TaggingOperation.watermark).max? := by
  cases ops with
  | nil => rfl
  | cons op rest => rw [maxWatermark, List.map_cons, List.max?_cons', List.foldl_map]

theorem maxWatermark_le_iff (found : maxWatermark ops = some value) (bound : Watermark) :
    value ≤ bound ↔ ∀ op ∈ ops, op.watermark ≤ bound := by
  rw [maxWatermark_eq_max?] at found
  rw [List.max?_le_iff found, List.forall_mem_map]

theorem le_maxWatermark (found : maxWatermark ops = some value) (member : op ∈ ops) :
    op.watermark ≤ value :=
  (maxWatermark_le_iff found value).mp le_rfl op member

theorem maxWatermark_attained (found : maxWatermark ops = some value) :
    ∃ op ∈ ops, op.watermark = value := by
  rw [maxWatermark_eq_max?] at found
  exact List.mem_map.mp (List.max?_mem found)

end Selection

section Refs

theorem mem_buildSubmittedRefs {ref : ProcessedRef} :
    ref ∈ buildSubmittedRefs ops keptTriples ↔
      ∃ op ∈ ops, op.triple ∈ keptTriples ∧ ref = ⟨op.logicalOperationId, op.watermark⟩ := by
  simp only [buildSubmittedRefs, submittedOps, List.mem_map, List.mem_filter, decide_eq_true_eq]
  constructor
  · rintro ⟨op, ⟨member, kept⟩, rfl⟩
    exact ⟨op, member, kept, rfl⟩
  · rintro ⟨op, member, kept, rfl⟩
    exact ⟨op, ⟨member, kept⟩, rfl⟩

end Refs
end ReplicateOnTag.JournalDedup

import ReplicateOnTag.Core.CheckpointSerializer

/-! Eligibility over the text of the watermarks, as the code compares them, and
what it means for the instants behind the text. -/
namespace ReplicateOnTag.StateText
open CivilTime
open IsoTime
open WatermarkText
open CheckpointSerializer

section Text

/-- `to_watermark(op.event_time)`; `none` for an instant that is no `datetime`. -/
def operationWatermark (op : TaggingOperation) : Option String :=
  (Civil.ofInstant op.eventTime).bind fun civil => toWatermark ⟨civil, some utc⟩

def leaseHolds (lease : Option CheckpointSerializer.Lease) (opWm : String) : Bool :=
  match lease with
  | none => false
  | some held => held.status = .inFlight ∧ opWm ≤ held.candidateMaxWatermark

def processedIds (state : CheckpointSerializer.CheckpointState) : List String :=
  state.processedWindow.map CheckpointSerializer.ProcessedRef.logicalOperationId

/-- `none` is an exception. -/
def isEligible (op : TaggingOperation) (state : CheckpointSerializer.CheckpointState)
    (lookback : Lookback) :
    Option Bool :=
  (operationWatermark op).bind fun opWm =>
    if leaseHolds state.lease opWm then some false
    else if state.lastProcessedWatermark = epochWatermark then some true
    else if state.lastProcessedWatermark < opWm then some true
    else (subtract state.lastProcessedWatermark lookback).map fun windowStart =>
      if opWm ≤ windowStart then false
      else if op.logicalOperationId ∈ processedIds state then false
      else true

end Text

section Meaning

def leaseMeaning (lease : CheckpointSerializer.Lease) : ReplicateOnTag.Lease where
  leaseId := lease.leaseId
  candidateMaxWatermark := meaning lease.candidateMaxWatermark
  acquiredAt := utcInstant lease.acquiredAt
  status := lease.status

def refMeaning (ref : CheckpointSerializer.ProcessedRef) : ReplicateOnTag.ProcessedRef where
  logicalOperationId := ref.logicalOperationId
  watermark := meaning ref.watermark

def stateMeaning (state : CheckpointSerializer.CheckpointState) :
    ReplicateOnTag.CheckpointState where
  sourceBucket := state.sourceBucket
  lastProcessedWatermark := meaning state.lastProcessedWatermark
  lease := state.lease.map leaseMeaning
  processedWindow := state.processedWindow.map refMeaning

/-- The watermark and the candidate of a lease are canonical. -/
def CanonicalState (state : CheckpointSerializer.CheckpointState) : Prop :=
  isCanonicalWatermark state.lastProcessedWatermark ∧
    ∀ held, state.lease = some held → isCanonicalWatermark held.candidateMaxWatermark

theorem operationWatermark_eq {op : TaggingOperation} {civil : Civil}
    (dated : Civil.ofInstant op.eventTime = some civil) : operationWatermark op =
      some (strftime civil) := by
  rw [operationWatermark, dated, Option.bind_some, toWatermark_utc]

theorem meaning_operationWatermark {op : TaggingOperation} {civil : Civil}
    (dated : Civil.ofInstant op.eventTime = some civil) (wide : fixedWidthYear ≤ civil.date.year) :
    meaning (strftime civil) = op.watermark := by
  rw [meaning_strftime wide, Civil.instant_of_ofInstant dated]
  rfl

theorem processedIds_meaning (state : CheckpointSerializer.CheckpointState) :
    CheckpointLogic.processedIds (stateMeaning state) = processedIds state := by
  rw [CheckpointLogic.processedIds, stateMeaning, List.map_map, processedIds]
  rfl

theorem leaseHolds_meaning {lease : Option CheckpointSerializer.Lease} {opWm : String}
    (canonical : isCanonicalWatermark opWm)
    (candidates : ∀ held, lease = some held → isCanonicalWatermark held.candidateMaxWatermark) :
    leaseHolds lease opWm = CheckpointLogic.leaseHolds (lease.map leaseMeaning) (meaning opWm) := by
  cases lease with
  | none => rfl
  | some held =>
    have below := le_iff_meaning_le canonical (candidates held rfl)
    simp only [leaseHolds, Option.map_some, CheckpointLogic.leaseHolds, leaseMeaning, below]

/-- Eligibility over canonical texts is eligibility over what they stand for. -/
theorem isEligible_meaning {op : TaggingOperation} {civil : Civil}
    {state : CheckpointSerializer.CheckpointState}
    {lookback : Lookback} {eligible : Bool} (dated : Civil.ofInstant op.eventTime = some civil)
    (wide : fixedWidthYear ≤ civil.date.year)
    (canonical : CanonicalState state)
    (start : ∀ windowStart, subtract state.lastProcessedWatermark lookback = some windowStart →
      isCanonicalWatermark windowStart)
    (read : isEligible op state lookback = some eligible) :
    eligible = CheckpointLogic.isEligible op (stateMeaning state) lookback := by
  have own := isCanonicalWatermark_strftime wide
  have same := meaning_operationWatermark dated wide
  have held := leaseHolds_meaning own canonical.2
  have first := meaning_eq_epoch_iff canonical.1
  have newer := lt_iff_meaning_lt canonical.1 own
  rw [same] at held newer
  rw [isEligible, operationWatermark_eq dated, Option.bind_some, held] at read
  simp only [first, newer] at read
  rw [CheckpointLogic.isEligible, processedIds_meaning]
  have lease : (stateMeaning state).lease = state.lease.map leaseMeaning := rfl
  have last : (stateMeaning state).lastProcessedWatermark =
    meaning state.lastProcessedWatermark := rfl
  rw [lease, last]
  by_cases holds : CheckpointLogic.leaseHolds (state.lease.map leaseMeaning) op.watermark = true
  · rw [if_pos holds] at read ⊢
    exact (Option.some.inj read).symm
  rw [if_neg holds] at read ⊢
  by_cases empty : meaning state.lastProcessedWatermark = Watermark.epoch
  · rw [if_pos empty] at read ⊢
    exact (Option.some.inj read).symm
  rw [if_neg empty] at read ⊢
  by_cases past : meaning state.lastProcessedWatermark < op.watermark
  · rw [if_pos past] at read ⊢
    exact (Option.some.inj read).symm
  rw [if_neg past] at read ⊢
  obtain ⟨windowStart, shifted, result⟩ := Option.map_eq_some_iff.mp read
  have below := le_iff_meaning_le own (start windowStart shifted)
  rw [same, meaning_subtract canonical.1 shifted (start windowStart shifted)] at below
  rw [← result]
  simp only [below]

end Meaning
end ReplicateOnTag.StateText

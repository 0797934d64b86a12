import ReplicateOnTag.Core.Models
import ReplicateOnTag.Library.BoundedMemory
import ReplicateOnTag.Library.KeepBest
import Mathlib.Data.List.Induction
import Mathlib.Data.List.Sort

/-! Eligibility of a journal operation and advancement of the checkpoint. -/
namespace ReplicateOnTag.CheckpointLogic
open Watermark

/-- An in-flight lease holds every operation up to its candidate watermark. -/
def leaseHolds (lease : Option Lease) (opWatermark : Watermark) : Bool :=
  match lease with
  | none => false
  | some held => held.status = .inFlight ∧ opWatermark ≤ held.candidateMaxWatermark

def processedIds (state : CheckpointState) : List String :=
  state.processedWindow.map ProcessedRef.logicalOperationId

def isEligible (op : TaggingOperation) (state : CheckpointState) (lookback : Lookback) : Bool :=
  if leaseHolds state.lease op.watermark then false
  else if state.lastProcessedWatermark = epoch then true
  else if state.lastProcessedWatermark < op.watermark then true
  else if op.watermark ≤ subtract state.lastProcessedWatermark lookback then false
  else if op.logicalOperationId ∈ processedIds state then false
  else true

def keepHighest (windowStart : Watermark) (best : Dict String ProcessedRef) (ref : ProcessedRef) :
    Dict String ProcessedRef :=
  if ref.watermark ≤ windowStart then best
  else
    match best.get? ref.logicalOperationId with
    | none => best.insert ref.logicalOperationId ref
    | some existing =>
        if existing.watermark < ref.watermark then best.insert ref.logicalOperationId ref else best

def sortsBefore (first second : ProcessedRef) : Prop :=
  first.watermark < second.watermark ∨
    first.watermark = second.watermark ∧ first.logicalOperationId ≤ second.logicalOperationId

instance : DecidableRel sortsBefore := fun first second =>
  inferInstanceAs (Decidable (first.watermark < second.watermark ∨
    first.watermark = second.watermark ∧ first.logicalOperationId ≤ second.logicalOperationId))

/-- `_prune_window`. -/
def pruneWindow (refs : List ProcessedRef) (windowStart : Watermark) : List ProcessedRef :=
  (refs.foldl (keepHighest windowStart) Dict.empty).values.insertionSort sortsBefore

def raiseWatermark (current : Watermark) (ref : ProcessedRef) : Watermark :=
  if current < ref.watermark then ref.watermark else current

def raiseToCandidate (current : Watermark) : Option Watermark → Watermark
  | none => current
  | some candidate => if current < candidate then candidate else current

/-- The watermark after a release whose submitted refs are not empty. -/
def advancedWatermark (current : Watermark) (refs : List ProcessedRef)
    (candidateMaxWatermark : Option Watermark) : Watermark :=
  raiseToCandidate (refs.foldl raiseWatermark current) candidateMaxWatermark

def advanceCheckpoint (state : CheckpointState) (submittedRefs : Option (List ProcessedRef))
    (lookback : Lookback) (candidateMaxWatermark : Option Watermark) : CheckpointState :=
  match submittedRefs.getD [] with
  | [] => { state with lease := none }
  | first :: rest =>
      let refs := first :: rest
      let newWatermark :=
        advancedWatermark state.lastProcessedWatermark refs candidateMaxWatermark
      { sourceBucket := state.sourceBucket
        lastProcessedWatermark := newWatermark
        lease := none
        processedWindow := pruneWindow (state.processedWindow ++ refs)
          (subtract newWatermark lookback) }

section Eligibility

@[simp] theorem leaseHolds_none (opWatermark : Watermark) :
    leaseHolds none opWatermark = false := rfl

/-- What eligibility means without a lease: past the watermark, or inside the
lookback tail and not yet recorded. -/
theorem isEligible_iff (op : TaggingOperation) (state : CheckpointState) (lookback : Lookback) :
    isEligible op state lookback ↔
      leaseHolds state.lease op.watermark = false ∧
        (state.lastProcessedWatermark = epoch ∨ state.lastProcessedWatermark < op.watermark ∨
          subtract state.lastProcessedWatermark lookback < op.watermark ∧
            op.logicalOperationId ∉ processedIds state) := by
  rw [isEligible]
  by_cases held : leaseHolds state.lease op.watermark
  · simp [held]
  · by_cases first : state.lastProcessedWatermark = epoch
    · simp [held, first]
    · by_cases newer : state.lastProcessedWatermark < op.watermark
      · simp [held, first, newer]
      · by_cases old : op.watermark ≤ subtract state.lastProcessedWatermark lookback
        · simp [held, first, newer, old, not_lt.mpr old]
        · by_cases recorded : op.logicalOperationId ∈ processedIds state <;>
            simp [held, first, newer, old, not_le.mp old, recorded]

end Eligibility

section Pruning

theorem keepHighest_eq_keep (windowStart : Watermark) (best : Dict String ProcessedRef)
    (ref : ProcessedRef) :
    keepHighest windowStart best ref =
      if windowStart < ref.watermark then
        KeepBest.keep ProcessedRef.logicalOperationId ProcessedRef.watermark best ref
      else best := by
  rw [keepHighest]
  by_cases below : ref.watermark ≤ windowStart
  · rw [if_pos below, if_neg (not_lt.mpr below)]
  · rw [if_neg below, if_pos (not_le.mp below), KeepBest.keep]
    cases best.get? ref.logicalOperationId with
    | none => rfl
    | some existing => rfl

/-- The window is made of the latest ref of each id among those above the bound. -/
theorem keeps_window (refs : List ProcessedRef) (windowStart : Watermark) :
    KeepBest.Keeps ProcessedRef.logicalOperationId ProcessedRef.watermark
      (refs.filter fun ref => windowStart < ref.watermark)
      (refs.foldl (keepHighest windowStart) Dict.empty) := by
  have kept := KeepBest.keeps_fold ProcessedRef.logicalOperationId ProcessedRef.watermark
    (refs.filter fun ref => windowStart < ref.watermark)
  rw [List.foldl_filter] at kept
  simpa only [decide_eq_true_eq, ← keepHighest_eq_keep] using kept

theorem mem_pruneWindow : ref ∈ pruneWindow refs windowStart ↔
    ref ∈ (refs.foldl (keepHighest windowStart) Dict.empty).values :=
  List.mem_insertionSort sortsBefore

abbrev Prunes := BoundedMemory.Prunes ProcessedRef.logicalOperationId ProcessedRef.watermark

theorem pruneWindow_prunes (refs : List ProcessedRef) (windowStart : Watermark) :
    Prunes windowStart refs (pruneWindow refs windowStart) := by
  have kept := keeps_window refs windowStart
  constructor
  · intro ref member
    obtain ⟨seen, above⟩ := List.mem_filter.mp (kept.mem (mem_pruneWindow.mp member))
    exact ⟨seen, of_decide_eq_true above⟩
  · intro ref member above
    obtain ⟨latest, listed, same, le⟩ :=
      kept.represents (List.mem_filter.mpr ⟨member, decide_eq_true above⟩)
    exact ⟨latest, mem_pruneWindow.mpr listed, same, le⟩

/-- A pruned window has one entry for each id. -/
theorem pruneWindow_unique (kept : first ∈ pruneWindow refs windowStart)
    (other : second ∈ pruneWindow refs windowStart)
    (same : first.logicalOperationId = second.logicalOperationId) : first = second :=
  (keeps_window refs windowStart).unique (mem_pruneWindow.mp kept) (mem_pruneWindow.mp other) same

end Pruning

section Advancement

theorem raiseWatermark_eq_max (current : Watermark) (ref : ProcessedRef) :
    raiseWatermark current ref = max current ref.watermark := by
  rw [raiseWatermark]
  split <;> rename_i order
  · exact (max_eq_right order.le).symm
  · exact (max_eq_left (not_lt.mp order)).symm

theorem foldl_raise_le_iff (refs : List ProcessedRef) (current bound : Watermark) :
    refs.foldl raiseWatermark current ≤ bound ↔
      current ≤ bound ∧ ∀ ref ∈ refs, ref.watermark ≤ bound := by
  induction refs generalizing current with
  | nil => simp
  | cons ref rest ih =>
    simp only [List.foldl_cons, ih, raiseWatermark_eq_max, max_le_iff, List.mem_cons,
      forall_eq_or_imp]
    tauto

/-- The advanced watermark is the least upper bound of the old watermark, the
refs and the candidate. -/
theorem advancedWatermark_le_iff (current bound : Watermark) (refs : List ProcessedRef)
    (candidate : Option Watermark) :
    advancedWatermark current refs candidate ≤ bound ↔
      current ≤ bound ∧ (∀ ref ∈ refs, ref.watermark ≤ bound) ∧
        ∀ value, candidate = some value → value ≤ bound := by
  have raised := foldl_raise_le_iff refs current bound
  cases candidate with
  | none => simp [advancedWatermark, raiseToCandidate, raised]
  | some value =>
    simp only [advancedWatermark, raiseToCandidate, Option.some.injEq, forall_eq']
    split <;> rename_i order
    · constructor
      · intro le
        have both := raised.mp (order.le.trans le)
        exact ⟨both.1, both.2, le⟩
      · exact fun all => all.2.2
    · rw [raised, ← and_assoc]
      exact ⟨fun both => ⟨both, (not_lt.mp order).trans (raised.mpr both)⟩, fun all => all.1⟩

theorem le_advancedWatermark (current : Watermark) (refs : List ProcessedRef)
    (candidate : Option Watermark) : current ≤ advancedWatermark current refs candidate :=
  ((advancedWatermark_le_iff _ _ _ _).mp le_rfl).1

theorem ref_le_advancedWatermark (member : ref ∈ refs) :
    ref.watermark ≤ advancedWatermark current refs candidate :=
  ((advancedWatermark_le_iff _ _ _ _).mp le_rfl).2.1 ref member

theorem candidate_le_advancedWatermark :
    value ≤ advancedWatermark current refs (some value) :=
  ((advancedWatermark_le_iff _ _ _ _).mp le_rfl).2.2 value rfl

/-- The advanced watermark is one of those it is made from. -/
theorem advancedWatermark_of_all (holds : Watermark → Prop) (start : holds current)
    (each : ∀ ref ∈ refs, holds ref.watermark)
    (last : ∀ value, candidate = some value → holds value) :
    holds (advancedWatermark current refs candidate) := by
  have raised : holds (refs.foldl raiseWatermark current) := by
    induction refs generalizing current with
    | nil => exact start
    | cons ref rest ih =>
      have step : holds (raiseWatermark current ref) := by
        rw [raiseWatermark]
        split
        · exact each ref List.mem_cons_self
        · exact start
      exact ih step fun later member => each later (List.mem_cons_of_mem _ member)
  simp only [advancedWatermark, raiseToCandidate]
  cases candidate with
  | none => exact raised
  | some value =>
    simp only
    split
    · exact last value rfl
    · exact raised

theorem advanceCheckpoint_failed (empty : submittedRefs.getD [] = []) :
    advanceCheckpoint state submittedRefs lookback candidate = { state with lease := none } := by
  simp only [advanceCheckpoint, empty]

theorem advanceCheckpoint_submitted {refs : List ProcessedRef} (submitted : refs ≠ []) :
    advanceCheckpoint state (some refs) lookback candidate =
      { sourceBucket := state.sourceBucket
        lastProcessedWatermark := advancedWatermark state.lastProcessedWatermark refs candidate
        lease := none
        processedWindow := pruneWindow (state.processedWindow ++ refs)
          (subtract (advancedWatermark state.lastProcessedWatermark refs
            candidate) lookback) } := by
  cases refs with
  | nil => exact absurd rfl submitted
  | cons first rest => rfl

theorem advanceCheckpoint_lease (state : CheckpointState)
    (submittedRefs : Option (List ProcessedRef))
    (lookback : Lookback) (candidate : Option Watermark) :
    (advanceCheckpoint state submittedRefs lookback candidate).lease = none := by
  rw [advanceCheckpoint]
  split <;> rfl

theorem advanceCheckpoint_monotone (state : CheckpointState)
    (submittedRefs : Option (List ProcessedRef)) (lookback : Lookback)
    (candidate : Option Watermark) :
    state.lastProcessedWatermark ≤
      (advanceCheckpoint state submittedRefs lookback candidate).lastProcessedWatermark := by
  rw [advanceCheckpoint]
  split
  · exact le_rfl
  · exact le_advancedWatermark _ _ _

end Advancement
end ReplicateOnTag.CheckpointLogic

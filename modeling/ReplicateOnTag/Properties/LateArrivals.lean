import ReplicateOnTag.Core.ProcessedHistory
import ReplicateOnTag.Orchestrator.Submission

/-! What an in-memory rollback readmits of a failed job: operations above its
low, and of those it picked up from the lookback tail only the ones whose id
the rolled-back window no longer holds. -/
namespace ReplicateOnTag.Orchestrator
open Watermark CheckpointLogic JournalDedup ProcessedHistory

/-- A job between its submission and the run that rolls it back: it was selected
on `seen` and released on `found`, and other releases followed. -/
structure JobCourse where
  settings : Settings
  env : RunEnv
  ops : List TaggingOperation
  seen : CheckpointState
  found : CheckpointState
  jobId : String
  manifest : WrittenManifest
  counter : Nat
  later : List Release
  /-- The lease the rolling-back run reads. -/
  lease : Option Lease

namespace JobCourse
variable (course : JobCourse)

def selected : Selected := selectEligible course.settings course.ops course.seen

def record : SubmissionRecord :=
  submissionRecord course.settings course.env course.jobId course.manifest.key course.counter
    course.seen.lastProcessedWatermark course.selected.candidateHwm

def refs : List ProcessedRef :=
  buildSubmittedRefs course.selected.dedupedOps course.manifest.keptTriples

/-- The job's operations: those whose object reached the manifest. -/
def submitted : List TaggingOperation :=
  submittedOps course.selected.dedupedOps course.manifest.keptTriples

def released : CheckpointState :=
  advanceCheckpoint course.found (some course.refs) course.settings.lookback
    course.selected.candidateHwm

/-- The checkpoint the rolling-back run reads. -/
def current : CheckpointState :=
  { course.later.foldl (Release.apply course.settings.lookback) course.released with
    lease := course.lease }

def rolledBack : CheckpointState := rollback course.record.watermarkLow course.current

/-- Every ref recorded up to then, from the window the job was released on. -/
def recorded : List ProcessedRef :=
  course.found.processedWindow ++ course.refs ++ course.later.flatMap Release.refs

/-- What is recorded under the operation's id has left the window, or its last
ref is above the job's low. -/
def Outlived (op : TaggingOperation) : Prop :=
  SeenIn course.recorded op.logicalOperationId
      (subtract course.current.lastProcessedWatermark course.settings.lookback) →
    SeenIn course.recorded op.logicalOperationId course.record.watermarkLow

theorem refs_eq : course.refs =
    course.submitted.map fun op => ⟨op.logicalOperationId, op.watermark⟩ := rfl

/-- The window the rolling-back run reads, against everything recorded. -/
theorem retains (some : course.refs ≠ []) :
    Retains course.settings.lookback course.current course.recorded := by
  have first : Retains course.settings.lookback course.released
      (course.found.processedWindow ++ course.refs) := retains_submitted course.found some
  have last := retains_releases first course.later
  exact ⟨last.remembers, last.unique⟩

/-- Eligibility under the rolled-back checkpoint, by the operation's position. -/
theorem isEligible_rolledBack_iff (some : course.refs ≠ []) (op : TaggingOperation) :
    isEligible op course.rolledBack course.settings.lookback ↔
      leaseHolds course.lease op.watermark = false ∧
        (course.record.watermarkLow = epoch ∨ course.record.watermarkLow < op.watermark ∨
          subtract course.record.watermarkLow course.settings.lookback < op.watermark ∧
            course.Outlived op) := by
  have window : op.logicalOperationId ∈ processedIds course.rolledBack ↔
      ∃ entry ∈ course.current.processedWindow, entry.logicalOperationId = op.logicalOperationId ∧
        entry.watermark ≤ course.record.watermarkLow := by
    simp only [processedIds, rolledBack, rollback, List.mem_map, List.mem_filter, decide_eq_true_eq]
    constructor
    · rintro ⟨entry, ⟨member, below⟩, same⟩
      exact ⟨entry, member, same, below⟩
    · rintro ⟨entry, member, same, below⟩
      exact ⟨entry, ⟨member, below⟩, same⟩
  have outlived : op.logicalOperationId ∉ processedIds course.rolledBack ↔ course.Outlived op := by
    rw [window, (course.retains some).entry_below_iff, Outlived, not_and_not_right]
  rw [isEligible_iff, outlived]
  rfl

/-- The rollback readmits everything the job submitted above the rolled-back
tail exactly when the lease it reads holds none of it and every late arrival
has outlived its ref in the window. -/
theorem rollback_readmits_iff :
    (∀ op ∈ course.submitted, isEligible op course.rolledBack course.settings.lookback ∨
      op.watermark ≤ subtract course.record.watermarkLow course.settings.lookback) ↔
    ∀ op ∈ course.submitted,
      subtract course.record.watermarkLow course.settings.lookback < op.watermark →
        leaseHolds course.lease op.watermark = false ∧
          (op.watermark ≤ course.record.watermarkLow → course.Outlived op) := by
  refine forall₂_congr fun op member => ?_
  have some : course.refs ≠ [] := by
    rw [refs_eq]
    exact List.ne_nil_of_mem (List.mem_map_of_mem member)
  rw [course.isEligible_rolledBack_iff some op]
  constructor
  · rintro (⟨free, place⟩ | below) inside
    · refine ⟨free, ?_⟩
      intro late
      rcases place with fresh | newer | ⟨_, outlived⟩
      · rw [fresh] at late
        exact absurd (epoch_lt_toWatermark op.eventTime) (not_lt.mpr late)
      · exact absurd newer (not_lt.mpr late)
      · exact outlived
    · exact absurd inside (not_lt.mpr below)
  · intro readmits
    by_cases inside : subtract course.record.watermarkLow course.settings.lookback < op.watermark
    · obtain ⟨free, outlived⟩ := readmits inside
      refine .inl ⟨free, ?_⟩
      by_cases late : op.watermark ≤ course.record.watermarkLow
      · exact .inr (.inr ⟨inside, outlived late⟩)
      · exact .inr (.inl (not_le.mp late))
    · exact .inr (not_lt.mp inside)

section Sample
open Settings

/-- A job over a new row and one that reached the journal late. -/
def withLateArrival : JobCourse where
  settings := photos
  env := .smooth 20 [] (fun _ => none) (.created "job-1")
  ops := [photosOp "late" "yes" 8, photosOp "new" "yes" 12]
  seen := ⟨"photos", toWatermark 10, none, []⟩
  found := ⟨"photos", toWatermark 10, none, []⟩
  jobId := "job-1"
  manifest := ⟨"manifests/run.csv", [⟨"photos", "late", none⟩, ⟨"photos", "new", none⟩]⟩
  counter := 0
  later := []
  lease := none

/-- The rollback keeps the late arrival's own ref, which hides it. -/
theorem late_arrival_not_readmitted :
    ¬ ∀ course : JobCourse, ∀ op ∈ course.submitted,
      isEligible op course.rolledBack course.settings.lookback ∨
        op.watermark ≤ subtract course.record.watermarkLow course.settings.lookback := by
  intro readmits
  have late : photosOp "late" "yes" 8 ∈ withLateArrival.submitted := by decide +kernel
  have hidden : isEligible (photosOp "late" "yes" 8) withLateArrival.rolledBack
      withLateArrival.settings.lookback = false := by decide +kernel
  have inside : ¬ (photosOp "late" "yes" 8).watermark ≤
      subtract withLateArrival.record.watermarkLow withLateArrival.settings.lookback := by
        decide +kernel
  rcases readmits withLateArrival _ late with eligible | below
  · rw [hidden] at eligible
    cases eligible
  · exact inside below

end Sample
end JobCourse
end ReplicateOnTag.Orchestrator

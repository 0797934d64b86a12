import ReplicateOnTag.Core.CheckpointLogic

/-! The processed-operation window against a memory that never forgets: the
abstract history keeps every ref of every successful release. -/
namespace ReplicateOnTag.ProcessedHistory
open Watermark CheckpointLogic

/-- What a bucket would remember without pruning. -/
structure History where
  watermark : Watermark
  recorded : List ProcessedRef

namespace History

def start (watermark : Watermark) : History := ⟨watermark, []⟩

/-- A ref under `id` later than `bound` was recorded by some release. -/
abbrev Seen (history : History) (id : String) (bound : Watermark) : Prop :=
  BoundedMemory.Seen ProcessedRef.logicalOperationId ProcessedRef.watermark
    history.recorded id bound

def Admits (history : History) (lookback : Lookback) (op : TaggingOperation) : Prop :=
  history.watermark = epoch ∨ history.watermark < op.watermark ∨
    subtract history.watermark lookback < op.watermark ∧
      ¬ history.Seen op.logicalOperationId (subtract history.watermark lookback)

end History

/-- One lease cycle of a bucket: the lease it held and what its release reports. -/
structure Release where
  held : Option Lease
  submittedRefs : Option (List ProcessedRef)
  candidateMaxWatermark : Option Watermark

def Release.refs (release : Release) : List ProcessedRef := release.submittedRefs.getD []

def Release.apply (lookback : Lookback) (state : CheckpointState) (release : Release) :
    CheckpointState :=
  advanceCheckpoint { state with lease := release.held } release.submittedRefs lookback
    release.candidateMaxWatermark

def Release.record (history : History) (release : Release) : History :=
  match release.refs with
  | [] => history
  | first :: rest =>
      { watermark :=
          advancedWatermark history.watermark (first :: rest) release.candidateMaxWatermark
        recorded := history.recorded ++ first :: rest }

abbrev Remembers := BoundedMemory.Remembers ProcessedRef.logicalOperationId ProcessedRef.watermark

/-- The window is the part of the history above the lookback bound, up to
entries superseded under their own id. -/
structure Represents (lookback : Lookback) (state : CheckpointState)
    (history : History) : Prop where
  watermark : state.lastProcessedWatermark = history.watermark
  remembers : Remembers (subtract history.watermark lookback) state.processedWindow history.recorded
  bounded : ∀ ref ∈ history.recorded, ref.watermark ≤ history.watermark

/-- What a window keeps of a list of refs, whatever the window it started from. -/
structure Retains (lookback : Lookback) (state : CheckpointState)
    (recorded : List ProcessedRef) : Prop where
  remembers : Remembers (subtract state.lastProcessedWatermark lookback)
    state.processedWindow recorded
  unique : ∀ first ∈ state.processedWindow, ∀ second ∈ state.processedWindow,
    first.logicalOperationId = second.logicalOperationId → first = second

abbrev SeenIn := BoundedMemory.Seen ProcessedRef.logicalOperationId ProcessedRef.watermark

/-- The first release that carries refs prunes the window it found. -/
theorem retains_submitted {refs : List ProcessedRef} (state : CheckpointState)
    (submitted : refs ≠ []) :
    Retains lookback (advanceCheckpoint state (some refs) lookback candidate)
      (state.processedWindow ++ refs) := by
  rw [advanceCheckpoint_submitted submitted]
  have pruned := pruneWindow_prunes (state.processedWindow ++ refs)
    (subtract (advancedWatermark state.lastProcessedWatermark refs candidate) lookback)
  refine ⟨⟨fun entry member => (pruned.sound entry member).2, fun id bound le =>
    pruned.seen_iff le⟩, ?_⟩
  exact fun first kept second other => pruneWindow_unique kept other

theorem submittedRefs_of_cons {release : Release}
    (given : release.submittedRefs.getD [] = first :: rest) :
    release.submittedRefs = some (first :: rest) := by
  cases stored : release.submittedRefs with
  | none => simp [stored] at given
  | some refs => simpa [stored] using given

theorem retains_release (retains : Retains lookback state recorded) (release : Release) :
    Retains lookback (release.apply lookback state) (recorded ++ release.refs) := by
  rw [Release.apply, Release.refs]
  cases given : release.submittedRefs.getD [] with
  | nil =>
    rw [advanceCheckpoint_failed given, List.append_nil]
    exact ⟨retains.remembers, retains.unique⟩
  | cons first rest =>
    rw [submittedRefs_of_cons given, advanceCheckpoint_submitted (List.cons_ne_nil first rest)]
    refine ⟨?_, fun one kept other member => pruneWindow_unique kept member⟩
    have advanced := le_advancedWatermark state.lastProcessedWatermark (first :: rest)
      release.candidateMaxWatermark
    exact retains.remembers.record (subtract_mono lookback advanced) (pruneWindow_prunes _ _)

theorem retains_releases (retains : Retains lookback state recorded) (releases : List Release) :
    Retains lookback (releases.foldl (Release.apply lookback) state)
      (recorded ++ releases.flatMap Release.refs) := by
  induction releases generalizing state recorded with
  | nil => simpa using retains
  | cons release rest ih =>
    have next := ih (retains_release retains release)
    rwa [List.append_assoc] at next

/-- An id has an entry at or below `low` exactly when the last ref recorded
under it is still inside the window and not above `low`. -/
theorem Retains.entry_below_iff (retains : Retains lookback state recorded) (id : String)
    (low : Watermark) :
    (∃ entry ∈ state.processedWindow, entry.logicalOperationId = id ∧ entry.watermark ≤ low) ↔
      SeenIn recorded id (subtract state.lastProcessedWatermark lookback) ∧
        ¬ SeenIn recorded id low := by
  have inside := retains.remembers.seen_iff id _ le_rfl
  constructor
  · rintro ⟨entry, member, same, below⟩
    have above := retains.remembers.above entry member
    refine ⟨inside.mp ⟨entry, member, same, above⟩, ?_⟩
    intro later
    obtain ⟨other, kept, identity, past⟩ :=
      (retains.remembers.seen_iff id low (above.le.trans below)).mpr later
    obtain rfl := retains.unique entry member other kept (same.trans identity.symm)
    exact absurd past (not_lt.mpr below)
  · rintro ⟨seen, unseen⟩
    obtain ⟨entry, member, same, above⟩ := inside.mpr seen
    refine ⟨entry, member, same, not_lt.mp fun past => unseen ?_⟩
    by_cases order : subtract state.lastProcessedWatermark lookback ≤ low
    · exact (retains.remembers.seen_iff id low order).mp ⟨entry, member, same, past⟩
    · obtain ⟨other, recorded, identity, later⟩ := seen
      exact ⟨other, recorded, identity, (not_le.mp order).trans later⟩

theorem represents_start (lookback : Lookback) (bucket : String) (watermark : Watermark)
    (lease : Option Lease) :
    Represents lookback ⟨bucket, watermark, lease, []⟩ (.start watermark) :=
  ⟨rfl, .nil _, by simp [History.start]⟩

theorem represents_lease (agree : Represents lookback state history) (lease : Option Lease) :
    Represents lookback { state with lease := lease } history :=
  ⟨agree.watermark, agree.remembers, agree.bounded⟩

theorem represents_submitted {refs : List ProcessedRef} (agree : Represents lookback state history)
    (submitted : refs ≠ []) :
    Represents lookback (advanceCheckpoint state (some refs) lookback candidate)
      { watermark := advancedWatermark history.watermark refs candidate
        recorded := history.recorded ++ refs } := by
  rw [advanceCheckpoint_submitted submitted, agree.watermark]
  have advanced := le_advancedWatermark history.watermark refs candidate
  refine ⟨rfl, ?_, ?_⟩
  · exact agree.remembers.record (subtract_mono lookback advanced) (pruneWindow_prunes _ _)
  · intro ref member
    rcases List.mem_append.mp member with old | new
    · exact (agree.bounded ref old).trans advanced
    · exact ref_le_advancedWatermark new

theorem represents_release (agree : Represents lookback state history) (release : Release) :
    Represents lookback (release.apply lookback state) (release.record history) := by
  rw [Release.apply, Release.record, Release.refs]
  cases given : release.submittedRefs.getD [] with
  | nil =>
    rw [advanceCheckpoint_failed given]
    exact represents_lease (represents_lease agree _) none
  | cons first rest =>
    rw [submittedRefs_of_cons given]
    exact represents_submitted (represents_lease agree _) (List.cons_ne_nil first rest)

theorem represents_releases (agree : Represents lookback state history) (releases : List Release) :
    Represents lookback (releases.foldl (Release.apply lookback) state)
      (releases.foldl Release.record history) := by
  induction releases generalizing state history with
  | nil => exact agree
  | cons release rest ih => exact ih (represents_release agree release)

/-- With no lease held, the bounded window and the unbounded history admit the
same operations. -/
theorem isEligible_iff_admits (agree : Represents lookback state history)
    (released : state.lease = none) (op : TaggingOperation) :
    isEligible op state lookback ↔ history.Admits lookback op := by
  have recorded : op.logicalOperationId ∈ processedIds state ↔
      history.Seen op.logicalOperationId (subtract history.watermark lookback) :=
    agree.remembers.mem_keys_iff
  rw [isEligible_iff, released, agree.watermark, recorded, leaseHolds_none]
  simp only [true_and, History.Admits]

/-- A lease only takes eligibility away. -/
theorem admits_of_isEligible (agree : Represents lookback state history)
    (eligible : isEligible op state lookback) : history.Admits lookback op := by
  have released := represents_lease agree none
  refine (isEligible_iff_admits released rfl op).mp ((isEligible_iff _ _ _).mpr ⟨rfl, ?_⟩)
  exact ((isEligible_iff _ _ _).mp eligible).2

theorem releases_lease (bucket : String) (watermark : Watermark) (lookback : Lookback)
    (releases : List Release) :
    (releases.foldl (Release.apply lookback) ⟨bucket, watermark, none, []⟩).lease = none := by
  induction releases using List.reverseRecOn with
  | nil => rfl
  | append_singleton earlier last _ =>
    rw [List.foldl_append]
    exact advanceCheckpoint_lease _ _ _ _

theorem record_recorded (history : History) (release : Release) :
    (release.record history).recorded = history.recorded ++ release.refs := by
  rw [Release.record]
  cases release.refs with
  | nil => simp
  | cons first rest => rfl

theorem releases_recorded (history : History) (releases : List Release) :
    (releases.foldl Release.record history).recorded =
      history.recorded ++ releases.flatMap Release.refs := by
  induction releases generalizing history with
  | nil => simp
  | cons release rest ih => simp [ih, record_recorded]

/-- An operation recorded at its own instant is past every later window. -/
theorem Represents.not_admits (agree : Represents lookback state history)
    (recorded : ref ∈ history.recorded) (identity : op.logicalOperationId = ref.logicalOperationId)
    (instant : op.watermark = ref.watermark) : ¬ history.Admits lookback op := by
  have bounded := agree.bounded ref recorded
  rintro (fresh | newer | ⟨inside, unseen⟩)
  · rw [fresh, ← instant] at bounded
    exact absurd (epoch_lt_toWatermark op.eventTime) (not_lt.mpr bounded)
  · exact absurd newer (not_lt.mpr (instant ▸ bounded))
  · exact unseen ⟨ref, recorded, identity.symm, instant ▸ inside⟩

/-- Eligibility after any sequence of lease cycles is eligibility against
everything ever submitted; nothing recorded at its own instant returns, and
nothing above the tail that was never recorded above it is lost. -/
theorem window_equivalent_to_history (bucket : String) (watermark : Watermark) (lookback : Lookback)
    (releases : List Release) (op : TaggingOperation) :
    let state := releases.foldl (Release.apply lookback) ⟨bucket, watermark, none, []⟩
    let tail := subtract state.lastProcessedWatermark lookback
    let submitted := releases.flatMap Release.refs
    (isEligible op state lookback ↔
      state.lastProcessedWatermark = epoch ∨ state.lastProcessedWatermark < op.watermark ∨
        tail < op.watermark ∧ ¬ ∃ ref ∈ submitted,
          ref.logicalOperationId = op.logicalOperationId ∧ tail < ref.watermark) ∧
    (∀ ref ∈ submitted, op.logicalOperationId = ref.logicalOperationId →
      op.watermark = ref.watermark → isEligible op state lookback = false) ∧
    (tail < op.watermark → (∀ ref ∈ submitted, ref.logicalOperationId ≠ op.logicalOperationId) →
      isEligible op state lookback) := by
  intro state tail submitted
  have agree := represents_releases (represents_start lookback bucket watermark none) releases
  have released := releases_lease bucket watermark lookback releases
  have recorded : (releases.foldl Release.record (.start watermark)).recorded = submitted := by
    rw [releases_recorded]
    rfl
  have eligible : isEligible op state lookback ↔
      state.lastProcessedWatermark = epoch ∨ state.lastProcessedWatermark < op.watermark ∨
        tail < op.watermark ∧ ¬ ∃ ref ∈ submitted,
          ref.logicalOperationId = op.logicalOperationId ∧ tail < ref.watermark := by
    rw [isEligible_iff_admits agree released op, History.Admits, History.Seen, recorded,
      ← agree.watermark]
    rfl
  refine ⟨eligible, ?_, ?_⟩
  · intro ref member identity instant
    rw [Bool.eq_false_iff]
    intro admitted
    exact agree.not_admits (recorded ▸ member) identity instant
      ((isEligible_iff_admits agree released op).mp admitted)
  · intro inside unseen
    refine eligible.mpr (.inr (.inr ⟨inside, ?_⟩))
    rintro ⟨ref, member, same, _⟩
    exact unseen ref member same

end ReplicateOnTag.ProcessedHistory

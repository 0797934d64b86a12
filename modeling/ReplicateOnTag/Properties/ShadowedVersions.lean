import ReplicateOnTag.Orchestrator.Submission

/-! Which keys with a live matched version keep an entry once the permanently
deleted versions are filtered out. The manifest names one version of each key,
chosen before any delete is read. -/
namespace ReplicateOnTag.Orchestrator
open ManifestGenerator RuleMatcher

section Filtering
variable (bucket : String) (rules : List DerivedReplicationRule)
  (deleted : List (String × Option String))
  (ops : List TaggingOperation)

/-- The entries that `_filter_deleted_entries` leaves of the run's manifest. -/
def survivors : List ManifestEntry :=
  (filterDeletedEntries (finalize (matchAndAccumulate ops rules) bucket).entries deleted).getD []

/-- Every key with a matched version that is not deleted keeps an entry of a
version that is not deleted. -/
def LiveKeysKept : Prop :=
  ∀ op ∈ matchingOps rules bucket ops, (op.objectKey, op.operationVersion) ∉ deleted →
    ∃ entry ∈ survivors bucket rules deleted ops,
      entry.objectKey = op.objectKey ∧ (entry.objectKey, entry.versionId) ∉ deleted

/-- A key with a live matched version has no deleted version as its first one. -/
def LiveKeysFirst : Prop :=
  ∀ op ∈ matchingOps rules bucket ops, (op.objectKey, op.operationVersion) ∉ deleted →
    ∀ first, (matchingOps rules bucket ops).find? (fun other =>
      other.objectKey = op.objectKey) = some first →
      (first.objectKey, first.operationVersion) ∉ deleted

end Filtering

section Shadowing
variable {bucket : String} {rules : List DerivedReplicationRule}
  {deleted : List (String × Option String)}
  {ops : List TaggingOperation} {key : String}

/-- The version a key has in the manifest is the one of its first matching operation. -/
theorem head?_versionsOf (key : String) (ops : List TaggingOperation) :
    (versionsOf key ops).head? =
      (ops.find? fun op => op.objectKey = key).map TaggingOperation.operationVersion := by
  rw [versionsOf, List.head?_map, List.head?_filter]

theorem mem_survivors_iff {entry : ManifestEntry} :
    entry ∈ survivors bucket rules deleted ops ↔
      entry.sourceBucket = bucket ∧ (entry.objectKey, entry.versionId) ∉ deleted ∧
        ∃ first, (matchingOps rules bucket ops).find? (fun op =>
          op.objectKey = entry.objectKey) = some first ∧
          first.operationVersion = entry.versionId := by
  rw [survivors, mem_filterDeletedEntries_iff (finalize_nodup _ _), mem_finalize_iff,
    head?_versionsOf, Option.map_eq_some_iff]
  constructor
  · rintro ⟨⟨own, chosen⟩, live⟩
    exact ⟨own, live, chosen⟩
  · rintro ⟨own, live, chosen⟩
    exact ⟨⟨own, chosen⟩, live⟩

/-- A key keeps an entry exactly when the version of its first matching
operation is live. -/
theorem survives_iff
    (found : (matchingOps rules bucket ops).find? (fun op => op.objectKey = key) = some first) :
    (∃ entry ∈ survivors bucket rules deleted ops, entry.objectKey = key) ↔
      (first.objectKey, first.operationVersion) ∉ deleted := by
  have own : first.objectKey = key := by simpa using List.find?_some found
  constructor
  · rintro ⟨entry, kept, rfl⟩
    obtain ⟨_, live, chosen, same, version⟩ := mem_survivors_iff.mp kept
    rw [found] at same
    cases same
    rw [own, version]
    exact live
  · intro live
    refine ⟨⟨bucket, key, first.operationVersion⟩,
      mem_survivors_iff.mpr ⟨rfl, ?_, first, found, rfl⟩, rfl⟩
    rw [own] at live
    exact live

/-- A deleted version shadows no live one of its key exactly when no key with a
live matched version has a deleted version matched first. -/
theorem live_keys_kept_iff (bucket : String) (rules : List DerivedReplicationRule)
    (deleted : List (String × Option String)) (ops : List TaggingOperation) :
    LiveKeysKept bucket rules deleted ops ↔ LiveKeysFirst bucket rules deleted ops := by
  refine forall₂_congr fun op member => forall_congr' fun _ => ?_
  constructor
  · rintro ⟨entry, kept, same, _⟩ first found
    exact (survives_iff found).mp ⟨entry, kept, same⟩
  · intro live
    have some : ((matchingOps rules bucket ops).find? fun other =>
        other.objectKey = op.objectKey).isSome :=
      List.find?_isSome.mpr ⟨op, member, decide_eq_true rfl⟩
    obtain ⟨first, found⟩ := Option.isSome_iff_exists.mp some
    obtain ⟨entry, kept, same⟩ := (survives_iff found).mpr (live first found)
    exact ⟨entry, kept, same, (mem_survivors_iff.mp kept).2.1⟩

end Shadowing

section Sample
open Settings

/-- Two versions of one key, tagged one after the other. -/
def taggedTwice : List TaggingOperation :=
  [{ photosOp "ant" "yes" 15 with operationVersion := some "v1" },
    { photosOp "ant" "yes" 16 with operationVersion := some "v2" }]

/-- The deleted first version leaves the key without an entry. -/
theorem deleted_version_shadows :
    ¬ ∀ bucket rules deleted ops, LiveKeysKept bucket rules deleted ops := by
  intro kept
  have none : survivors "photos" photos.rules [("ant", some "v1")] taggedTwice =
    [] := by decide +kernel
  obtain ⟨entry, listed, _⟩ := kept "photos" photos.rules [("ant", some "v1")] taggedTwice
    { photosOp "ant" "yes" 16 with operationVersion := some "v2" } (by decide +kernel) (by decide)
  rw [none] at listed
  cases listed

end Sample
end ReplicateOnTag.Orchestrator

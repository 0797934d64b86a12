import ReplicateOnTag.Core.Gathering
import ReplicateOnTag.Core.RuleDeriver
import ReplicateOnTag.Orchestrator.Environment

/-! From the replication configuration to the manifest: the entries are the
keys that an enabled tag-scoped rule asks for, whatever the order of the rules. -/
namespace ReplicateOnTag.ManifestGenerator
open RuleMatcher RuleDeriver

/-- The first operation on the key that the configuration asks for. -/
def IsFirstRequest (replicationConfig : ReplicationConfig)
    (ops : List TaggingOperation) (key : String)
    (op : TaggingOperation) : Prop :=
  ∃ earlier later, ops = earlier ++ op :: later ∧ op.objectKey = key ∧
    Requested replicationConfig op ∧
    ∀ other ∈ earlier, other.objectKey = key → ¬ Requested replicationConfig other

/-- The same configuration with its rules in another order. -/
def Reordered (first second : ReplicationConfig) : Prop :=
  ((innerConfig first).rules.getD []).Perm ((innerConfig second).rules.getD [])

structure Covers (sourceBucket : String) (replicationConfig : ReplicationConfig)
    (ops : List TaggingOperation)
    (entries : Entries) : Prop where
  bucket : ∀ entry ∈ (finalize entries sourceBucket).entries, entry.sourceBucket = sourceBucket
  sortedOnce : ((finalize entries sourceBucket).entries.map
    ManifestEntry.objectKey).Pairwise (· < ·)
  requested : ∀ key, (∃ entry ∈ (finalize entries sourceBucket).entries, entry.objectKey = key) ↔
    ∃ op ∈ ops, op.objectKey = key ∧ Requested replicationConfig op
  firstRequest : ∀ entry ∈ (finalize entries sourceBucket).entries, ∃ op,
    IsFirstRequest replicationConfig ops entry.objectKey op ∧
      entry.versionId = op.operationVersion ∧
      (getTimestamps entries sourceBucket).get? (entry.objectKey, entry.versionId.getD "") =
        some (some op.eventTime, op.lastModified)

structure SameResult (sourceBucket : String) (first second : Entries) : Prop where
  manifest : finalize first sourceBucket = finalize second sourceBucket
  timestamps : getTimestamps first sourceBucket = getTimestamps second sourceBucket
  routing : getRouting first sourceBucket = getRouting second sourceBucket

section Sorting

theorem keyLE_total (first second : (String × String) × Accumulated) : keyLE first second ∨
    keyLE second first := by
  rcases lt_trichotomy first.1.1 second.1.1 with less | same | more
  · exact .inl (.inl less)
  · rcases le_total first.1.2 second.1.2 with below | above
    · exact .inl (.inr ⟨same, below⟩)
    · exact .inr (.inr ⟨same.symm, above⟩)
  · exact .inr (.inl more)

theorem keyLE_trans (below : keyLE first second)
    (above : keyLE second third) : keyLE first third := by
  rcases below with less | ⟨same, below⟩
  · rcases above with later | ⟨same, _⟩
    · exact .inl (less.trans later)
    · exact .inl (same ▸ less)
  · rcases above with later | ⟨equal, above⟩
    · exact .inl (same ▸ later)
    · exact .inr ⟨same.trans equal, below.trans above⟩

instance : Std.Total keyLE := ⟨keyLE_total⟩

instance : IsTrans ((String × String) × Accumulated) keyLE := ⟨fun _ _ _ => keyLE_trans⟩

theorem finalize_entries (entries : Entries) (bucket : String) :
    (finalize entries bucket).entries =
    ((bucketEntries entries bucket).insertionSort keyLE).map toManifestEntry := by
  rw [finalize]
  cases bucketEntries entries bucket with
  | nil => rfl
  | cons first rest => rfl

theorem finalize_sorted (entries : Entries) (bucket : String) :
    ((finalize entries bucket).entries.map ManifestEntry.objectKey).Pairwise (· < ·) := by
  have distinct := finalize_nodup entries bucket
  rw [finalize_entries, List.map_map] at distinct ⊢
  have ordered := List.pairwise_insertionSort keyLE (bucketEntries entries bucket)
  have own : ∀ row ∈ (bucketEntries entries bucket).insertionSort keyLE,
      row.1.1 = bucket := fun row member =>
    of_decide_eq_true (List.mem_filter.mp ((List.mem_insertionSort keyLE).mp member)).2
  rw [List.pairwise_map]
  rw [List.Nodup, List.pairwise_map] at distinct
  refine (ordered.and distinct).imp_of_mem ?_
  rintro first second listed listed' ⟨below, differ⟩
  rcases below with less | ⟨_, below⟩
  · rw [own first listed, own second listed'] at less
    exact absurd less (lt_irrefl _)
  · exact lt_of_le_of_ne below differ

end Sorting

section Sameness

/-- Two accumulations that differ only in the order within their sets. -/
structure SameUpToSets (first second : Entries) : Prop where
  keys : first.keys = second.keys
  kept : ∀ key left right, first.get? key = some left → second.get? key = some right →
    left.origin = right.origin ∧ left.matchedRules.Perm right.matchedRules ∧
      left.destinations.Perm right.destinations

variable {first second : Entries} {bucket : String}

theorem map_bucketEntries_congr (same : SameUpToSets first second)
    {f : (String × String) × Accumulated → β}
    (blind : ∀ key left right, Accumulated.origin left = Accumulated.origin right →
      left.matchedRules.Perm right.matchedRules → left.destinations.Perm right.destinations →
        f (key, left) = f (key, right)) :
    (bucketEntries first bucket).map f = (bucketEntries second bucket).map f := by
  have own (entries : Entries) :
      bucketEntries entries bucket = (entries.filter fun key _ => key.1 = bucket).entries := rfl
  rw [own, own]
  refine Dict.map_entries_congr ?_ fun key left right stored stored' => ?_
  · have listed (entries : Entries) : (entries.filter fun key _ => key.1 = bucket).keys =
        entries.keys.filter fun key => key.1 = bucket := Dict.keys_filter _ entries
    rw [listed, listed, same.keys]
  · rw [Dict.get?_filter, Option.filter_eq_some_iff] at stored stored'
    obtain ⟨origin, rules, destinations⟩ := same.kept key left right stored.1 stored'.1
    exact blind key left right origin rules destinations

def rowLE (above below : ManifestEntry) : Prop :=
  above.sourceBucket < below.sourceBucket ∨
    above.sourceBucket = below.sourceBucket ∧ above.objectKey ≤ below.objectKey

instance : DecidableRel rowLE := fun above below =>
  inferInstanceAs (Decidable (above.sourceBucket < below.sourceBucket ∨
    above.sourceBucket = below.sourceBucket ∧ above.objectKey ≤ below.objectKey))

theorem finalize_eq_rows (entries : Entries) (bucket : String) :
    finalize entries bucket =
      let rows := ((bucketEntries entries bucket).map toManifestEntry).insertionSort rowLE
      ⟨bucket, rows ≠ [], rows, rows.length, rows ≠ []⟩ := by
  have rows : ((bucketEntries entries bucket).insertionSort keyLE).map toManifestEntry =
      ((bucketEntries entries bucket).map toManifestEntry).insertionSort rowLE :=
    List.map_insertionSort keyLE rowLE _ _ fun _ _ _ _ => Iff.rfl
  simp only [← rows]
  rw [finalize]
  cases bucketEntries entries bucket with
  | nil => rfl
  | cons above rest =>
    have some : ((above :: rest).insertionSort keyLE).map toManifestEntry ≠ [] := by
      intro none
      have length := congrArg List.length none
      rw [List.length_map, List.length_insertionSort] at length
      cases length
    simp only [some, ne_eq, not_false_eq_true, decide_true]

theorem sorted_perm {left right : List String}
    (same : left.Perm right) : sorted left = sorted right := by
  refine List.Perm.eq_of_pairwise' (r := (· ≤ ·)) (List.pairwise_insertionSort _ _)
    (List.pairwise_insertionSort _ _) ?_
  exact (List.perm_insertionSort _ _).trans (same.trans (List.perm_insertionSort _ _).symm)

/-- The order within the sets does not show in any result. -/
theorem SameUpToSets.result (same : SameUpToSets first second) :
    SameResult bucket first second := by
  constructor
  · rw [finalize_eq_rows, finalize_eq_rows,
      map_bucketEntries_congr same fun key left right origin _ _ => ?_]
    rw [toManifestEntry, toManifestEntry, (Origin.mk.inj origin).1]
  · rw [getTimestamps, getTimestamps,
      map_bucketEntries_congr same fun key left right origin _ _ => ?_]
    obtain ⟨version, tagged, modified⟩ := Origin.mk.inj origin
    rw [version, tagged, modified]
  · rw [getRouting, getRouting,
      map_bucketEntries_congr same fun key left right origin rules destinations => ?_]
    rw [(Origin.mk.inj origin).1, sorted_perm rules,
      sorted_perm (destinations.map destinationBucketName)]

end Sameness

section Coverage
variable {replicationConfig reordered : ReplicationConfig} {ops : List TaggingOperation}
  {entries others : Entries}

theorem deriveRules_perm (same : Reordered replicationConfig reordered) :
    (deriveRules bucket replicationConfig).Perm (deriveRules bucket reordered) :=
  same.filterMap _

theorem matches_perm {rules shuffled : List DerivedReplicationRule} (same : rules.Perm shuffled) :
    Matches rules op ↔ Matches shuffled op := by
  simp only [Matches, same.mem_iff]

theorem satisfied_perm {rules shuffled : List DerivedReplicationRule} (same : rules.Perm shuffled) :
    Satisfied rules op rule ↔ Satisfied shuffled op rule := by
  simp only [Satisfied, mem_satisfiedRules, same.mem_iff]

/-- Neither the order of the rules nor the iteration of the sets shows in what is gathered. -/
theorem gathers_same {rules shuffled : List DerivedReplicationRule} (same : rules.Perm shuffled)
    (gathers : Gathers rules ops entries) (gathers' : Gathers shuffled ops others) :
    SameUpToSets entries others := by
  have matches_ : ∀ op, Matches rules op ↔ Matches shuffled op := fun op => matches_perm same
  constructor
  · rw [gathers.keys, gathers'.keys]
    simp only [matches_]
  · intro key left right stored stored'
    have mine := gathers.gathered key
    have theirs := gathers'.gathered key
    rw [stored] at mine
    rw [stored'] at theirs
    refine ⟨?_, ?_, ?_⟩
    · have origins := mine.origin.symm
      simp only [matches_] at origins
      rw [theirs.origin] at origins
      exact Option.some.inj origins
    · refine (List.perm_ext_iff_of_nodup mine.rulesOnce theirs.rulesOnce).mpr fun ruleId => ?_
      simp only [mine.ruleIds, theirs.ruleIds, satisfied_perm same]
    · refine (List.perm_ext_iff_of_nodup mine.destinationsOnce
        theirs.destinationsOnce).mpr fun arn => ?_
      simp only [mine.arns, theirs.arns, satisfied_perm same]

theorem mem_finalize_entries {entry : ManifestEntry} :
    entry ∈ (finalize entries bucket).entries ↔ entry.sourceBucket = bucket ∧
      ∃ acc, entries.get? (bucket, entry.objectKey) = some acc ∧
        acc.versionId = entry.versionId := by
  rw [finalize_entries, List.mem_map]
  constructor
  · rintro ⟨⟨⟨source, key⟩, acc⟩, listed, rfl⟩
    obtain ⟨stored, own⟩ := List.mem_filter.mp ((List.mem_insertionSort keyLE).mp listed)
    obtain rfl : source = bucket := of_decide_eq_true own
    exact ⟨rfl, acc, Dict.mem_entries_iff.mp stored, rfl⟩
  · rintro ⟨rfl, acc, stored, version⟩
    refine ⟨((entry.sourceBucket, entry.objectKey), acc), (List.mem_insertionSort keyLE).mpr ?_, ?_⟩
    · exact List.mem_filter.mpr ⟨Dict.mem_entries_iff.mpr stored, decide_eq_true rfl⟩
    · rw [toManifestEntry, version]

/-- Every key of the bucket is found under the version it was listed with. -/
theorem get?_rekeyed (f : Accumulated → β) (stored : entries.get? (bucket, key) = some acc) :
    (Dict.ofList ((bucketEntries entries bucket).map fun entry =>
      ((entry.1.2, entry.2.versionId.getD ""), f entry.2))).get?
        (key, acc.versionId.getD "") = some (f acc) := by
  have distinct : ((bucketEntries entries bucket).map fun row => row.1.2).Nodup := by
    have rows := finalize_nodup entries bucket
    rw [finalize_entries, List.map_map] at rows
    exact ((List.perm_insertionSort keyLE (bucketEntries entries bucket)).map _).nodup_iff.mp rows
  refine Dict.get?_ofList ?_ (List.mem_map.mpr ⟨((bucket, key), acc), ?_, rfl⟩)
  · rw [List.map_map]
    refine List.Nodup.of_map Prod.fst ?_
    rwa [List.map_map]
  · exact List.mem_filter.mpr ⟨Dict.mem_entries_iff.mpr stored, decide_eq_true rfl⟩

theorem get?_getTimestamps (stored : entries.get? (bucket, key) = some acc) :
    (getTimestamps entries bucket).get? (key, acc.versionId.getD "") = some
    (acc.taggedAt, acc.lastModified) :=
  get?_rekeyed (fun acc => (acc.taggedAt, acc.lastModified)) stored

theorem get?_getRouting (stored : entries.get? (bucket, key) = some acc) :
    (getRouting entries bucket).get? (key, acc.versionId.getD "") =
      some (sorted acc.matchedRules, sorted (acc.destinations.map destinationBucketName)) :=
  get?_rekeyed (fun acc => (sorted acc.matchedRules,
    sorted (acc.destinations.map destinationBucketName))) stored

theorem isFirstRequest_of_find? (own : ∀ op ∈ ops, op.sourceBucket = bucket)
    (found : ops.find? (fun op => place op = (bucket, key) ∧
      Matches (deriveRules bucket replicationConfig) op) = some op) :
    IsFirstRequest replicationConfig ops key op := by
  obtain ⟨here, earlier, later, split, before⟩ := List.find?_eq_some_iff_append.mp found
  obtain ⟨at_, matches_⟩ := of_decide_eq_true here
  subst split
  have mine := own op (List.mem_append_right _ List.mem_cons_self)
  refine ⟨earlier, later, rfl, (Prod.mk.inj at_).2, (matches_deriveRules_iff mine).mp matches_, ?_⟩
  intro other member same requested
  have theirs := own other (List.mem_append_left _ member)
  have blocked := before other member
  simp only [place, theirs, same, (matches_deriveRules_iff theirs).mpr requested, and_self,
    decide_true, Bool.not_true, Bool.false_eq_true] at blocked

theorem gathers_covers (own : ∀ op ∈ ops, op.sourceBucket = bucket)
    (gathers : Gathers (deriveRules bucket replicationConfig) ops entries) :
    Covers bucket replicationConfig ops entries := by
  have gathered := fun key => gathers.gathered (bucket, key)
  refine ⟨fun entry member => (mem_finalize_entries.mp member).1,
    finalize_sorted entries bucket, fun key => ?_,
    fun entry member => ?_⟩
  · constructor
    · rintro ⟨entry, member, rfl⟩
      obtain ⟨_, acc, stored, _⟩ := mem_finalize_entries.mp member
      have origin := (gathered entry.objectKey).origin
      rw [stored, Option.map_some] at origin
      obtain ⟨op, found, _⟩ := Option.map_eq_some_iff.mp origin
      obtain ⟨earlier, later, split, here, requested, _⟩ := isFirstRequest_of_find? own found
      exact ⟨op, by rw [split]; exact List.mem_append_right _ List.mem_cons_self, here, requested⟩
    · rintro ⟨op, member, rfl, requested⟩
      have mine := own op member
      have origin := (gathered op.objectKey).origin
      cases stored : entries.get? (bucket, op.objectKey) with
      | none =>
        rw [stored, Option.map_none, Option.map_eq_none_iff, List.find?_eq_none] at origin
        exact absurd (decide_eq_true ⟨by rw [place, mine],
          (matches_deriveRules_iff mine).mpr requested⟩)
          (origin op member)
      | some acc => exact ⟨⟨bucket, op.objectKey, acc.versionId⟩,
          mem_finalize_entries.mpr ⟨rfl, acc, stored, rfl⟩, rfl⟩
  · obtain ⟨_, acc, stored, version⟩ := mem_finalize_entries.mp member
    have origin := (gathered entry.objectKey).origin
    rw [stored, Option.map_some] at origin
    obtain ⟨op, found, same⟩ := Option.map_eq_some_iff.mp origin
    obtain ⟨versions, tagged, modified⟩ := Origin.mk.inj same
    refine ⟨op, isFirstRequest_of_find? own found, version ▸ versions.symm, ?_⟩
    rw [← version, get?_getTimestamps stored, ← tagged, ← modified]

/-- The manifest holds each requested key once, in order and as its first
request left it, and the order of the rules does not matter. -/
theorem manifest_covers_requests {bucket : String} {replicationConfig : ReplicationConfig}
    {ops : List TaggingOperation} {entries : Entries} (own : ∀ op ∈ ops, op.sourceBucket = bucket)
    (gathers : Gathers (deriveRules bucket replicationConfig) ops entries) :
    Covers bucket replicationConfig ops entries ∧
      ∀ reordered others, Reordered replicationConfig reordered →
        Gathers (deriveRules bucket reordered) ops others → SameResult bucket entries others :=
  ⟨gathers_covers own gathers, fun _ _ same gathers' =>
    (gathers_same (deriveRules_perm same) gathers gathers').result⟩

end Coverage

section Sample
open Orchestrator.Settings

/-- One rule of every filter shape, and one that is disabled. -/
def everyShape : List ReplicationRule :=
  [⟨some "one", some "Enabled", some ⟨some ⟨"keep", "yes"⟩, none⟩, some "arn:aws:s3:::copies"⟩,
    ⟨some "two", some "Enabled", some ⟨none, some ⟨some "a", some [⟨"keep", "yes"⟩], none⟩⟩, none⟩,
    ⟨some "off", some "Disabled", some ⟨some ⟨"keep", "no"⟩, none⟩, none⟩,
    ⟨some "whole", some "Enabled", some ⟨none, none⟩, none⟩, ⟨none, some "Enabled", none, none⟩]

def shapeOps : List TaggingOperation :=
  [photosOp "bee" "yes" 11, photosOp "ant" "yes" 12, photosOp "ant" "yes" 13,
    photosOp "cat" "no" 14]

def shapeEntries (rules : List ReplicationRule) : Entries :=
  matchAndAccumulate shapeOps (deriveRules "photos" (.response ⟨some rules⟩))

theorem manifest_covers_requests_everyShape :
    (finalize (shapeEntries everyShape) "photos").entries =
    [⟨"photos", "ant", none⟩, ⟨"photos", "bee", none⟩] ∧
      Covers "photos" (.response ⟨some everyShape⟩) shapeOps (shapeEntries everyShape) ∧
      SameResult "photos" (shapeEntries everyShape) (shapeEntries everyShape.reverse) := by
  have covered := @manifest_covers_requests "photos" (.response ⟨some everyShape⟩) shapeOps
    (shapeEntries everyShape)
    (by decide) (gathers_matchAndAccumulate shapeOps _)
  refine ⟨by decide +kernel, covered.1, ?_⟩
  exact covered.2 (.response ⟨some everyShape.reverse⟩) _ (List.reverse_perm _).symm
    (gathers_matchAndAccumulate shapeOps _)

end Sample
end ReplicateOnTag.ManifestGenerator

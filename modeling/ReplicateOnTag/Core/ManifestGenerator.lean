import ReplicateOnTag.Core.RuleMatcher
import Mathlib.Data.List.Sort

/-! Accumulation of matched objects into one manifest per bucket, and the
filter for permanently deleted versions. The four parallel maps of the
generator have the same keys and are one map of records here. -/
namespace ReplicateOnTag.ManifestGenerator

/-- What is kept for one object: the first version and instants seen, and the
union of matched rules and destinations. -/
structure Accumulated where
  versionId : Option String
  taggedAt : Option Instant
  lastModified : Option Instant
  matchedRules : List String
  destinations : List String
  deriving DecidableEq

/-- Keyed by source bucket and object key. -/
abbrev Entries := Dict (String × String) Accumulated

def addObject (entries : Entries) (obj : MatchedObject) : Entries :=
  let key := (obj.sourceBucket, obj.objectKey)
  let found := (entries.get? key).getD ⟨obj.versionId, obj.taggedAt, obj.lastModified, [], []⟩
  entries.insert key
    { found with
      matchedRules := found.matchedRules ∪ obj.matchedRuleIds
      destinations := found.destinations ∪ obj.destinationBucketArns }

def accumulate (entries : Entries) (matched : List MatchedObject) : Entries :=
  matched.foldl addObject entries

def hasAccumulatedEntries (entries : Entries) (sourceBucket : String) : Bool :=
  entries.keys.any fun key => key.1 = sourceBucket

structure ManifestResult where
  sourceBucket : String
  hasMatches : Bool
  entries : List ManifestEntry
  objectCount : Nat
  allVersioned : Bool
  deriving DecidableEq

def keyLE (first second : (String × String) × Accumulated) : Prop :=
  first.1.1 < second.1.1 ∨ first.1.1 = second.1.1 ∧ first.1.2 ≤ second.1.2

instance : DecidableRel keyLE := fun first second =>
  inferInstanceAs (Decidable (first.1.1 < second.1.1 ∨
    first.1.1 = second.1.1 ∧ first.1.2 ≤ second.1.2))

def bucketEntries (entries : Entries)
    (sourceBucket : String) : List ((String × String) × Accumulated) :=
  entries.entries.filter fun entry => entry.1.1 = sourceBucket

def toManifestEntry (entry : (String × String) × Accumulated) : ManifestEntry :=
  ⟨entry.1.1, entry.1.2, entry.2.versionId⟩

def finalize (entries : Entries) (sourceBucket : String) : ManifestResult :=
  match bucketEntries entries sourceBucket with
  | [] => ⟨sourceBucket, false, [], 0, false⟩
  | first :: rest =>
      let rows := ((first :: rest).insertionSort keyLE).map toManifestEntry
      ⟨sourceBucket, true, rows, rows.length, true⟩

/-- `rpartition(":::")` over characters. -/
def rpartition : List Char → List Char → Option (List Char × List Char)
  | _, [] => none
  | before, c :: rest =>
      match rpartition (before ++ [c]) rest with
      | some found => some found
      | none =>
          if c = ':' ∧ [':', ':'].isPrefixOf rest then some (before, rest.drop 2) else none

def destinationBucketName (bucketArn : String) : String :=
  match rpartition [] bucketArn.toList with
  | none => bucketArn
  | some (before, bucket) =>
      if "arn:".toList.isPrefixOf before ∧ bucket ≠ [] then String.ofList bucket else bucketArn

/-- Instants per object key and transport version, the null version as `""`. -/
def getTimestamps (entries : Entries) (sourceBucket : String) :
    Dict (String × String) (Option Instant × Option Instant) :=
  Dict.ofList ((bucketEntries entries sourceBucket).map fun entry =>
    ((entry.1.2, entry.2.versionId.getD ""), (entry.2.taggedAt, entry.2.lastModified)))

def sorted (texts : List String) : List String := texts.insertionSort (· ≤ ·)

def getRouting (entries : Entries) (sourceBucket : String) :
    Dict (String × String) (List String × List String) :=
  Dict.ofList ((bucketEntries entries sourceBucket).map fun entry =>
    ((entry.1.2, entry.2.versionId.getD ""),
      (sorted entry.2.matchedRules, sorted (entry.2.destinations.map destinationBucketName))))

/-- `filter_deleted_versions` over the manifest's own entries. -/
def filterDeletedVersions (matched : List ManifestEntry)
    (permanentlyDeleted : List (String × Option String)) : List ManifestEntry × Nat :=
  (matched.filter fun entry => (entry.objectKey, entry.versionId) ∉ permanentlyDeleted,
    (matched.filter fun entry => (entry.objectKey, entry.versionId) ∈ permanentlyDeleted).length)

/-- `_filter_deleted_entries` on the deletes that were read: `none` when every
candidate is excluded. -/
def filterDeletedEntries (entries : List ManifestEntry)
    (permanentlyDeleted : List (String × Option String)) : Option (List ManifestEntry) :=
  let keptSet := (filterDeletedVersions entries permanentlyDeleted).1
  if keptSet.isEmpty then none
  else
    let keptKeys := keptSet.map fun entry => (entry.sourceBucket, entry.objectKey)
    some (entries.filter fun entry => (entry.sourceBucket, entry.objectKey) ∈ keptKeys)

/-- `_match_and_accumulate`. -/
def matchAndAccumulate (ops : List TaggingOperation)
    (rules : List DerivedReplicationRule) : Entries :=
  ops.foldl (fun entries op =>
    accumulate entries (RuleMatcher.matchOperation op rules).1) Dict.empty

section Accumulation
open RuleMatcher

theorem get?_addObject (entries : Entries) (obj : MatchedObject) (key : String × String) :
    ((addObject entries obj).get? key).map Accumulated.versionId =
      if key = (obj.sourceBucket, obj.objectKey) then
        some (((entries.get? key).map Accumulated.versionId).getD obj.versionId)
      else (entries.get? key).map Accumulated.versionId := by
  rw [addObject]
  rw [Dict.get?_insert]
  by_cases same : key = (obj.sourceBucket, obj.objectKey)
  · subst key
    cases entries.get? (obj.sourceBucket, obj.objectKey) <;> simp
  · simp [same]

/-- Every version kept for a key was proposed by an object of that key, and
every proposed key has a version. -/
structure Collects (proposed : List (String × String × Option String))
    (entries : Entries) : Prop where
  sound : ∀ bucket key acc, entries.get? (bucket, key) = some acc →
    (bucket, key, acc.versionId) ∈ proposed
  covers : ∀ bucket key version, (bucket, key, version) ∈ proposed →
    ∃ acc, entries.get? (bucket, key) = some acc

theorem collects_empty : Collects [] Dict.empty := ⟨by simp, by simp⟩

theorem collects_addObject (kept : Collects proposed entries) (obj : MatchedObject) :
    Collects (proposed ++ [(obj.sourceBucket, obj.objectKey, obj.versionId)])
      (addObject entries obj) := by
  constructor
  · intro bucket key acc found
    have version := get?_addObject entries obj (bucket, key)
    rw [found, Option.map_some] at version
    by_cases same : (bucket, key) = (obj.sourceBucket, obj.objectKey)
    · rw [if_pos same, Option.some.injEq] at version
      obtain ⟨rfl, rfl⟩ := Prod.mk.inj same
      cases old : entries.get? (obj.sourceBucket, obj.objectKey) with
      | none => simp [version, old]
      | some first =>
        have member := kept.sound _ _ first old
        simp only [old, Option.map_some, Option.getD_some] at version
        exact List.mem_append_left _ (version ▸ member)
    · rw [if_neg same] at version
      obtain ⟨first, old, equal⟩ := Option.map_eq_some_iff.mp version.symm
      exact List.mem_append_left _ (equal ▸ kept.sound bucket key first old)
  · intro bucket key version member
    have present := get?_addObject entries obj (bucket, key)
    have stored : ∃ version, ((addObject entries obj).get? (bucket, key)).map
        Accumulated.versionId =
        some version := by
      by_cases same : (bucket, key) = (obj.sourceBucket, obj.objectKey)
      · exact ⟨_, present.trans (if_pos same)⟩
      · rcases List.mem_append.mp member with old | new
        · obtain ⟨acc, found⟩ := kept.covers bucket key version old
          exact ⟨acc.versionId, by rw [present, if_neg same, found, Option.map_some]⟩
        · simp only [List.mem_singleton, Prod.mk.injEq] at new
          exact absurd (Prod.ext new.1 new.2.1) same
    obtain ⟨version, mapped⟩ := stored
    obtain ⟨acc, found, _⟩ := Option.map_eq_some_iff.mp mapped
    exact ⟨acc, found⟩

theorem collects_accumulate (kept : Collects proposed entries) (matched : List MatchedObject) :
    Collects (proposed ++ matched.map fun obj => (obj.sourceBucket, obj.objectKey, obj.versionId))
      (accumulate entries matched) := by
  induction matched generalizing proposed entries with
  | nil => simpa [accumulate] using kept
  | cons obj rest ih => simpa [accumulate] using ih (collects_addObject kept obj)

def proposals (rules : List DerivedReplicationRule) (op : TaggingOperation) :
    List (String × String × Option String) :=
  (matchOperation op rules).1.map fun obj => (obj.sourceBucket, obj.objectKey, obj.versionId)

theorem mem_proposals : triple ∈ proposals rules op ↔ Matches rules op ∧ triple = op.triple := by
  rw [proposals]
  rw [List.mem_map, ← matched_nonempty_iff]
  constructor
  · rintro ⟨obj, member, rfl⟩
    obtain ⟨bucket, key, version, _⟩ := matched_of_operation member
    exact ⟨List.ne_nil_of_mem member, by rw [bucket, key, version]; rfl⟩
  · rintro ⟨some, rfl⟩
    obtain ⟨obj, member⟩ := List.exists_mem_of_ne_nil _ some
    obtain ⟨bucket, key, version, _⟩ := matched_of_operation member
    exact ⟨obj, member, by rw [bucket, key, version]; rfl⟩

theorem collects_matchAndAccumulate (ops : List TaggingOperation)
    (rules : List DerivedReplicationRule) :
    Collects (ops.flatMap (proposals rules)) (matchAndAccumulate ops rules) := by
  induction ops using List.reverseRecOn with
  | nil => exact collects_empty
  | append_singleton earlier last ih =>
    rw [matchAndAccumulate, List.foldl_append, List.flatMap_append, List.flatMap_singleton]
    exact collects_accumulate ih _

/-- The first version seen for a key stays. -/
theorem versionId_accumulate {bucket key : String} {version : Option String}
    (matched : List MatchedObject)
    (own : ∀ obj ∈ matched, (obj.sourceBucket, obj.objectKey, obj.versionId) =
      (bucket, key, version))
    (entries : Entries) (other : String × String) :
    ((accumulate entries matched).get? other).map Accumulated.versionId =
      ((entries.get? other).map Accumulated.versionId).or
        (if matched ≠ [] ∧ other = (bucket, key) then some version else none) := by
  induction matched generalizing entries with
  | nil => simp [accumulate]
  | cons obj rest ih =>
    obtain ⟨rfl, rfl, rfl⟩ : obj.sourceBucket = bucket ∧ obj.objectKey = key ∧
        obj.versionId = version := by
      simpa using own obj List.mem_cons_self
    have later := ih (fun next listed => own next (List.mem_cons_of_mem _ listed))
      (addObject entries obj)
    rw [accumulate, List.foldl_cons, ← accumulate, later, get?_addObject]
    by_cases here : other = (obj.sourceBucket, obj.objectKey)
    · cases (entries.get? other).map Accumulated.versionId <;> simp [here]
    · simp [here]

/-- The versions of a key, one for each record. -/
def versionsOf (key : String) (ops : List TaggingOperation) : List (Option String) :=
  (ops.filter fun op => op.objectKey = key).map TaggingOperation.operationVersion

def matchingOps (rules : List DerivedReplicationRule) (bucket : String)
    (ops : List TaggingOperation) :
    List TaggingOperation :=
  ops.filter fun op => op.sourceBucket = bucket ∧ Matches rules op

theorem versionId_matchAndAccumulate (ops : List TaggingOperation)
    (rules : List DerivedReplicationRule)
    (bucket key : String) :
    ((matchAndAccumulate ops rules).get? (bucket, key)).map Accumulated.versionId =
      (versionsOf key (matchingOps rules bucket ops)).head? := by
  induction ops using List.reverseRecOn with
  | nil => rfl
  | append_singleton earlier last ih =>
    have own : ∀ obj ∈ (matchOperation last rules).1,
        (obj.sourceBucket, obj.objectKey, obj.versionId) =
        (last.sourceBucket, last.objectKey, last.operationVersion) := by
      intro obj member
      obtain ⟨bucket, key, version, _⟩ := matched_of_operation member
      rw [bucket, key, version]
    have parts : versionsOf key (matchingOps rules bucket (earlier ++ [last])) =
        versionsOf key (matchingOps rules bucket earlier) ++
          versionsOf key (matchingOps rules bucket [last]) := by
      simp [versionsOf, matchingOps]
    rw [matchAndAccumulate, List.foldl_append, List.foldl_cons, List.foldl_nil,
      ← matchAndAccumulate, versionId_accumulate _ own, ih, parts, List.head?_append]
    congr 1
    by_cases matching : Matches rules last
    · have some := (matched_nonempty_iff last rules).mpr matching
      by_cases bucketOwn : last.sourceBucket = bucket
      · by_cases keyOwn : last.objectKey = key
        · simp [versionsOf, matchingOps, some, matching, bucketOwn, keyOwn]
        · simp [versionsOf, matchingOps, keyOwn, Ne.symm keyOwn]
      · simp [versionsOf, matchingOps, bucketOwn, Ne.symm bucketOwn]
    · have none := not_not.mp (mt (matched_nonempty_iff last rules).mp matching)
      simp [versionsOf, matchingOps, none, matching]

/-- The manifest has each key once, with the version of its first matching operation. -/
theorem mem_finalize_iff {entry : ManifestEntry} :
    entry ∈ (finalize (matchAndAccumulate ops rules) bucket).entries ↔ entry.sourceBucket = bucket ∧
      (versionsOf entry.objectKey (matchingOps rules bucket ops)).head? = some entry.versionId := by
  rw [← versionId_matchAndAccumulate, Option.map_eq_some_iff]
  have listed : entry ∈ (finalize (matchAndAccumulate ops rules) bucket).entries ↔
      ∃ row ∈ bucketEntries (matchAndAccumulate ops rules) bucket, toManifestEntry row = entry := by
    rw [finalize]
    cases bucketEntries (matchAndAccumulate ops rules) bucket with
    | nil => simp
    | cons first rest => simp only [List.mem_map, List.mem_insertionSort]
  rw [listed]
  constructor
  · rintro ⟨⟨⟨source, key⟩, acc⟩, row, rfl⟩
    obtain ⟨stored, own⟩ := List.mem_filter.mp row
    obtain rfl : source = bucket := of_decide_eq_true own
    exact ⟨rfl, acc, Dict.mem_entries_iff.mp stored, rfl⟩
  · rintro ⟨rfl, acc, found, version⟩
    refine ⟨((entry.sourceBucket, entry.objectKey), acc),
      List.mem_filter.mpr ⟨Dict.mem_entries_iff.mpr found, decide_eq_true rfl⟩, ?_⟩
    rw [toManifestEntry, version]

/-- The triple of every manifest entry is that of a matching operation. -/
theorem finalize_sound (member : entry ∈ (finalize (matchAndAccumulate ops rules) bucket).entries) :
    ∃ op ∈ ops, Matches rules op ∧ entry.triple = op.triple := by
  have stored : ∃ row ∈ bucketEntries (matchAndAccumulate ops rules) bucket,
      entry = toManifestEntry row := by
    rw [finalize] at member
    cases rows : bucketEntries (matchAndAccumulate ops rules) bucket with
    | nil => simp [rows] at member
    | cons first rest =>
      simp only [rows, List.mem_map] at member
      obtain ⟨row, sorted, rfl⟩ := member
      exact ⟨row, (List.mem_insertionSort keyLE).mp sorted, rfl⟩
  obtain ⟨⟨⟨source, key⟩, acc⟩, row, rfl⟩ := stored
  have found := Dict.mem_entries_iff.mp (List.mem_filter.mp row).1
  have proposed := (collects_matchAndAccumulate ops rules).sound source key acc found
  obtain ⟨op, member, proposal⟩ := List.mem_flatMap.mp proposed
  obtain ⟨matching, triple⟩ := mem_proposals.mp proposal
  exact ⟨op, member, matching, triple⟩

/-- A manifest names each key once. -/
theorem finalize_nodup (entries : Entries) (bucket : String) :
    ((finalize entries bucket).entries.map ManifestEntry.objectKey).Nodup := by
  have keys : ((bucketEntries entries bucket).map fun row => row.1.2).Nodup := by
    have distinct : ((bucketEntries entries bucket).map Prod.fst).Nodup :=
      (Dict.keys_nodup entries).sublist (List.filter_sublist.map Prod.fst)
    have pairs : (bucketEntries entries bucket).map Prod.fst =
        ((bucketEntries entries bucket).map fun row => row.1.2).map fun key => (bucket, key) := by
      rw [List.map_map]
      refine List.map_congr_left fun row listed => ?_
      rw [Function.comp_apply, ← of_decide_eq_true (List.mem_filter.mp listed).2]
    rw [pairs] at distinct
    exact distinct.of_map _
  rw [finalize]
  cases rows : bucketEntries entries bucket with
  | nil => exact List.nodup_nil
  | cons first rest =>
    rw [rows] at keys
    rw [List.map_map]
    exact ((List.perm_insertionSort keyLE (first :: rest)).map _).nodup_iff.mpr keys

theorem finalize_covers (member : op ∈ ops) (matching : Matches rules op)
    (own : op.sourceBucket = bucket) :
    ∃ entry ∈ (finalize (matchAndAccumulate ops rules) bucket).entries,
      entry.objectKey = op.objectKey := by
  have proposed : op.triple ∈ ops.flatMap (proposals rules) :=
    List.mem_flatMap.mpr ⟨op, member, mem_proposals.mpr ⟨matching, rfl⟩⟩
  obtain ⟨acc, found⟩ := (collects_matchAndAccumulate ops rules).covers _ _ _ proposed
  have row : ((op.sourceBucket, op.objectKey), acc) ∈
      bucketEntries (matchAndAccumulate ops rules) bucket :=
    List.mem_filter.mpr ⟨Dict.mem_entries_iff.mpr found, decide_eq_true own⟩
  rw [finalize]
  cases rows : bucketEntries (matchAndAccumulate ops rules) bucket with
  | nil => simp [rows] at row
  | cons first rest =>
    refine ⟨_, List.mem_map.mpr ⟨_, (List.mem_insertionSort keyLE).mpr (rows ▸ row), rfl⟩, rfl⟩

theorem finalize_hasMatches_iff (entries : Entries) (bucket : String) :
    (finalize entries bucket).hasMatches ↔ (finalize entries bucket).entries ≠ [] := by
  rw [finalize]
  cases bucketEntries entries bucket with
  | nil => simp
  | cons first rest =>
    have length := List.length_insertionSort keyLE (first :: rest)
    simp only [ne_eq, List.map_eq_nil_iff, true_iff]
    intro empty
    simp [empty] at length

theorem hasAccumulatedEntries_iff (entries : Entries) (bucket : String) :
    hasAccumulatedEntries entries bucket ↔ (finalize entries bucket).hasMatches := by
  have keys : hasAccumulatedEntries entries bucket ↔ bucketEntries entries bucket ≠ [] := by
    simp only [hasAccumulatedEntries, Dict.keys, bucketEntries, List.any_eq_true, List.mem_map,
      ne_eq, List.filter_eq_nil_iff, decide_eq_true_eq, not_forall, not_not]
    constructor
    · rintro ⟨key, ⟨entry, member, rfl⟩, own⟩
      exact ⟨entry, member, own⟩
    · rintro ⟨entry, member, own⟩
      exact ⟨entry.1, ⟨entry, member, rfl⟩, own⟩
  rw [keys]
  rw [finalize]
  cases bucketEntries entries bucket <;> simp

/-- A bucket has accumulated entries exactly when one of its operations matches. -/
theorem hasAccumulatedEntries_matchAndAccumulate (own : ∀ op ∈ ops, op.sourceBucket = bucket) :
    hasAccumulatedEntries (matchAndAccumulate ops rules) bucket ↔ ∃ op ∈ ops, Matches rules op := by
  rw [hasAccumulatedEntries_iff, finalize_hasMatches_iff]
  constructor
  · intro some
    obtain ⟨entry, member⟩ := List.exists_mem_of_ne_nil _ some
    obtain ⟨op, opMember, matching, _⟩ := finalize_sound member
    exact ⟨op, opMember, matching⟩
  · rintro ⟨op, member, matching⟩
    obtain ⟨entry, found, _⟩ := finalize_covers member matching (own op member)
    exact List.ne_nil_of_mem found

/-- Something is kept as soon as one entry's own version is not deleted. -/
theorem filterDeletedEntries_isSome_iff :
    (filterDeletedEntries entries deleted).isSome ↔
      ∃ entry ∈ entries, (entry.objectKey, entry.versionId) ∉ deleted := by
  simp only [filterDeletedEntries]
  by_cases empty : (filterDeletedVersions entries deleted).1.isEmpty
  · rw [if_pos empty]
    simp only [filterDeletedVersions, List.isEmpty_iff, List.filter_eq_nil_iff, decide_eq_true_eq,
      not_not] at empty
    simpa using empty
  · rw [if_neg empty]
    simp only [filterDeletedVersions, List.isEmpty_iff, List.filter_eq_nil_iff, decide_eq_true_eq,
      not_forall, not_not] at empty
    obtain ⟨entry, member, kept⟩ := empty
    simp only [Option.isSome_some, true_iff]
    exact ⟨entry, member, kept⟩

theorem filterDeletedEntries_some (kept : filterDeletedEntries entries deleted = some keptEntries) :
    keptEntries ≠ [] ∧ ∀ entry ∈ keptEntries, entry ∈ entries := by
  simp only [filterDeletedEntries] at kept
  split at kept
  · cases kept
  · rename_i some
    simp only [Option.some.injEq] at kept
    subst kept
    refine ⟨?_, fun entry member => (List.mem_filter.mp member).1⟩
    simp only [List.isEmpty_iff] at some
    obtain ⟨entry, member⟩ := List.exists_mem_of_ne_nil _ some
    have stays : entry ∈ entries.filter fun other => (other.sourceBucket, other.objectKey) ∈
        (filterDeletedVersions entries deleted).1.map fun kept =>
          (kept.sourceBucket, kept.objectKey) :=
      List.mem_filter.mpr ⟨(List.mem_filter.mp member).1,
        decide_eq_true (List.mem_map_of_mem member)⟩
    exact List.ne_nil_of_mem stays

/-- Where each key is named once, exactly the entries of a live version are kept. -/
theorem mem_filterDeletedEntries_iff {manifest : List ManifestEntry} {entry : ManifestEntry}
    (distinct : (manifest.map ManifestEntry.objectKey).Nodup) :
    entry ∈ (filterDeletedEntries manifest deleted).getD [] ↔
      entry ∈ manifest ∧ (entry.objectKey, entry.versionId) ∉ deleted := by
  have kept : entry ∈ manifest → ((∃ other ∈ (filterDeletedVersions manifest deleted).1,
      (other.sourceBucket, other.objectKey) = (entry.sourceBucket, entry.objectKey)) ↔
        (entry.objectKey, entry.versionId) ∉ deleted) := by
    intro member
    simp only [filterDeletedVersions, List.mem_filter, decide_eq_true_eq]
    constructor
    · rintro ⟨other, ⟨listed, live⟩, same⟩
      obtain rfl := List.inj_on_of_nodup_map distinct listed member (Prod.mk.inj same).2
      exact live
    · intro live
      exact ⟨entry, ⟨member, live⟩, rfl⟩
  rw [filterDeletedEntries]
  by_cases empty : (filterDeletedVersions manifest deleted).1.isEmpty
  · rw [if_pos empty, Option.getD_none]
    rw [List.isEmpty_iff] at empty
    constructor
    · exact fun absent => absurd absent List.not_mem_nil
    · rintro ⟨member, live⟩
      obtain ⟨other, listed, _⟩ := (kept member).mpr live
      exact absurd (empty ▸ listed) List.not_mem_nil
  · rw [if_neg empty, Option.getD_some, List.mem_filter, decide_eq_true_eq, List.mem_map]
    exact and_congr_right kept

/-- What is kept for an object once one of its operations matched. -/
structure Complete (acc : Accumulated) : Prop where
  rules : acc.matchedRules ≠ []
  tagged : acc.taggedAt.isSome
  destinations : acc.destinations ≠ []

theorem union_ne_nil {left right : List String} (some : right ≠ []) : left ∪ right ≠ [] := by
  obtain ⟨text, member⟩ := List.exists_mem_of_ne_nil _ some
  exact List.ne_nil_of_mem (List.mem_union_iff.mpr (.inr member))

theorem complete_addObject (complete : ∀ key acc, entries.get? key = some acc → Complete acc)
    (rules : obj.matchedRuleIds ≠ []) (tagged : obj.taggedAt.isSome)
    (destinations : obj.destinationBucketArns ≠ []) :
    ∀ key acc, (addObject entries obj).get? key = some acc → Complete acc := by
  intro key acc found
  rw [addObject, Dict.get?_insert] at found
  split at found
  · cases found
    refine ⟨union_ne_nil rules, ?_, union_ne_nil destinations⟩
    cases old : entries.get? (obj.sourceBucket, obj.objectKey) with
    | none => exact tagged
    | some first => exact (complete _ first old).tagged
  · exact complete key acc found

theorem complete_matchAndAccumulate (ops : List TaggingOperation)
    (named : ∀ rule ∈ rules, rule.destinationBucketArn ≠ "") :
    ∀ key acc, (matchAndAccumulate ops rules).get? key = some acc → Complete acc := by
  induction ops using List.reverseRecOn with
  | nil => exact fun key acc found => by cases found
  | append_singleton earlier last ih =>
    rw [matchAndAccumulate, List.foldl_append, List.foldl_cons, List.foldl_nil,
      ← matchAndAccumulate]
    have objects : ∀ matched : List MatchedObject,
        (∀ obj ∈ matched, obj ∈ (matchOperation last rules).1) →
        ∀ entries : Entries, (∀ key acc, entries.get? key = some acc → Complete acc) →
          ∀ key acc, (accumulate entries matched).get? key = some acc → Complete acc := by
      intro matched
      induction matched with
      | nil => exact fun _ entries complete => complete
      | cons obj rest ih =>
        intro listed entries complete
        have member := listed obj List.mem_cons_self
        obtain ⟨ruled, destined⟩ := matched_complete named member
        have tagged : obj.taggedAt.isSome := by rw [(matched_of_operation member).2.2.2.1]; rfl
        exact ih (fun other listed' => listed other (List.mem_cons_of_mem _ listed'))
          (addObject entries obj)
          (complete_addObject complete ruled tagged destined)
    exact objects _ (fun _ member => member) _ ih

variable {entries : Entries} {bucket : String}

/-- Every instant and every route that is handed over is one of a matched object. -/
theorem getTimestamps_complete (complete : ∀ key acc, entries.get? key = some acc → Complete acc) :
    ∀ entry ∈ (getTimestamps entries bucket).entries, entry.2.1.isSome := by
  rintro ⟨key, value⟩ member
  obtain ⟨row, listed, same⟩ := List.mem_map.mp (Dict.mem_entries_ofList member)
  obtain ⟨_, rfl⟩ := Prod.mk.inj same
  exact (complete row.1 row.2 (Dict.mem_entries_iff.mp (List.mem_filter.mp listed).1)).tagged

theorem sorted_ne_nil {texts : List String} (some : texts ≠ []) : sorted texts ≠ [] := by
  intro empty
  have length := List.length_insertionSort (· ≤ ·) texts
  rw [sorted] at empty
  rw [empty] at length
  exact some (List.length_eq_zero_iff.mp length.symm)

theorem getRouting_complete (complete : ∀ key acc, entries.get? key = some acc → Complete acc) :
    ∀ entry ∈ (getRouting entries bucket).entries, entry.2.1 ≠ [] ∧ entry.2.2 ≠ [] := by
  rintro ⟨key, value⟩ member
  obtain ⟨row, listed, same⟩ := List.mem_map.mp (Dict.mem_entries_ofList member)
  obtain ⟨_, rfl⟩ := Prod.mk.inj same
  have own := complete row.1 row.2 (Dict.mem_entries_iff.mp (List.mem_filter.mp listed).1)
  refine ⟨sorted_ne_nil own.rules, sorted_ne_nil fun empty => own.destinations ?_⟩
  exact List.map_eq_nil_iff.mp empty

end Accumulation
end ReplicateOnTag.ManifestGenerator

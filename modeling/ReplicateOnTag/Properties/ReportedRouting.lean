import ReplicateOnTag.Properties.RuleCoverage

/-! The rules and destinations reported for a manifest entry come from every
operation on its key, those on other versions of the key included. -/
namespace ReplicateOnTag.ManifestGenerator
open RuleMatcher

/-- The reported rules and destinations are those of the concerned operations. -/
structure RoutedBy (concerned : TaggingOperation → Prop) (rules : List DerivedReplicationRule)
    (ops : List TaggingOperation) (ruleIds destinations : List String) : Prop where
  ruleIds : ∀ ruleId, ruleId ∈ ruleIds ↔
    ∃ op ∈ ops, concerned op ∧ ∃ rule, Satisfied rules op rule ∧ rule.ruleId = ruleId
  destinations : ∀ name, name ∈ destinations ↔
    ∃ op ∈ ops, concerned op ∧ ∃ rule, Satisfied rules op rule ∧ rule.destinationBucketArn ≠ "" ∧
      destinationBucketName rule.destinationBucketArn = name

def OnKey (entry : ManifestEntry) (op : TaggingOperation) : Prop :=
  place op = (entry.sourceBucket, entry.objectKey)

def OnVersion (entry : ManifestEntry) (op : TaggingOperation) : Prop :=
  OnKey entry op ∧ op.operationVersion = entry.versionId

/-- What the two report maps hold for an entry: the routing of the concerned
operations, and the event time of a matching operation on its own version. -/
structure Reports (concerned : TaggingOperation → Prop) (rules : List DerivedReplicationRule)
    (ops : List TaggingOperation) (entries : Entries) (entry : ManifestEntry) : Prop where
  routing : ∃ ruleIds destinations,
    (getRouting entries entry.sourceBucket).get? (entry.objectKey, entry.versionId.getD "") =
      some (ruleIds, destinations) ∧
    RoutedBy concerned rules ops ruleIds destinations
  taggedAt : ∃ op ∈ ops, OnVersion entry op ∧ Matches rules op ∧
    (getTimestamps entries entry.sourceBucket).get? (entry.objectKey, entry.versionId.getD "") =
      some (some op.eventTime, op.lastModified)

section Routing
variable {rules : List DerivedReplicationRule} {ops : List TaggingOperation} {entries : Entries}

theorem mem_sorted {text : String} {texts : List String} : text ∈ sorted texts ↔ text ∈ texts :=
  List.mem_insertionSort _

theorem Gathered.routedBy
    (gathered : Gathered rules ops (entry.sourceBucket, entry.objectKey) (some acc)) :
    RoutedBy (OnKey entry) rules ops (sorted acc.matchedRules)
      (sorted (acc.destinations.map destinationBucketName)) := by
  constructor
  · intro ruleId
    simpa only [mem_sorted, OnKey, rulesOf, Option.map_some, Option.getD_some]
      using gathered.ruleIds ruleId
  · intro name
    simp only [mem_sorted, List.mem_map, OnKey]
    constructor
    · rintro ⟨arn, listed, named⟩
      obtain ⟨op, member, here, rule, satisfied, given, same⟩ := (gathered.arns arn).mp listed
      exact ⟨op, member, here, rule, satisfied, given, same ▸ named⟩
    · rintro ⟨op, member, here, rule, satisfied, given, named⟩
      exact ⟨_, (gathered.arns _).mpr ⟨op, member, here, rule, satisfied, given, rfl⟩, named⟩

/-- The first matching operation on the key gives the version and the instants. -/
theorem Gathered.firstMatch (gathered : Gathered rules ops key (some acc)) :
    ∃ op ∈ ops, place op = key ∧ Matches rules op ∧ op.operationVersion = acc.versionId ∧
      some op.eventTime = acc.taggedAt ∧ op.lastModified = acc.lastModified := by
  have origin := gathered.origin
  rw [Option.map_some] at origin
  obtain ⟨op, found, same⟩ := Option.map_eq_some_iff.mp origin
  obtain ⟨version, tagged, modified⟩ := Origin.mk.inj same
  obtain ⟨here, matches_⟩ : place op = key ∧ Matches rules op := by
    simpa using List.find?_some found
  exact ⟨op, List.mem_of_find?_eq_some found, here, matches_, version, tagged, modified⟩

/-- Every entry reports the rules and destinations of all operations on its key,
and an instant of its own version. -/
theorem routing_unites_versions {bucket : String} (gathers : Gathers rules ops entries)
    {entry : ManifestEntry}
    (member : entry ∈ (finalize entries bucket).entries) :
    Reports (OnKey entry) rules ops entries entry := by
  obtain ⟨rfl, acc, stored, version⟩ := mem_finalize_entries.mp member
  have gathered := gathers.gathered (entry.sourceBucket, entry.objectKey)
  rw [stored] at gathered
  constructor
  · have routing := get?_getRouting stored
    rw [version] at routing
    exact ⟨_, _, routing, gathered.routedBy⟩
  · obtain ⟨op, listed, here, matches_, same, tagged, modified⟩ := gathered.firstMatch
    have timestamps := get?_getTimestamps stored
    rw [version, ← tagged, ← modified] at timestamps
    exact ⟨op, listed, ⟨here, same.trans version⟩, matches_, timestamps⟩

end Routing

section Sample
open Orchestrator.Settings

def keepRule (ruleId keep destination : String) : DerivedReplicationRule :=
  ⟨"photos", "config", ruleId, Dict.ofList [("keep", keep)], destination, none⟩

def twoRoutes : List DerivedReplicationRule :=
  [keepRule "one" "yes" "arn:aws:s3:::copies", keepRule "two" "no" "arn:aws:s3:::mirror"]

/-- Two versions of one key, each tagged for a rule of its own. -/
def twoVersions : List TaggingOperation :=
  [{ photosOp "ant" "yes" 11 with operationVersion := some "v1" },
    { photosOp "ant" "no" 12 with operationVersion := some "v2" }]

def firstVersion : ManifestEntry := ⟨"photos", "ant", some "v1"⟩

theorem routing_unites_versions_twoVersions :
    firstVersion ∈ (finalize (matchAndAccumulate twoVersions twoRoutes) "photos").entries ∧
      Reports (OnKey firstVersion) twoRoutes twoVersions
        (matchAndAccumulate twoVersions twoRoutes) firstVersion := by
  have member : firstVersion ∈
      (finalize (matchAndAccumulate twoVersions twoRoutes) "photos").entries := by
    decide +kernel
  exact ⟨member, routing_unites_versions (gathers_matchAndAccumulate twoVersions twoRoutes) member⟩

/-- The entry of the first version also names the rule that only the second satisfies. -/
theorem routing_of_other_version : ¬ ∀ (bucket : String) (rules : List DerivedReplicationRule)
    (ops : List TaggingOperation) (entries : Entries), Gathers rules ops entries →
      ∀ entry ∈ (finalize entries bucket).entries,
        Reports (OnVersion entry) rules ops entries entry := by
  intro own
  have member : firstVersion ∈
      (finalize (matchAndAccumulate twoVersions twoRoutes) "photos").entries := by
    decide +kernel
  obtain ⟨ruleIds, destinations, reported, routed⟩ :=
    (own "photos" twoRoutes twoVersions _
      (gathers_matchAndAccumulate twoVersions twoRoutes) _ member).routing
  have both : (getRouting (matchAndAccumulate twoVersions twoRoutes) "photos").get? ("ant", "v1") =
      some (["one", "two"], ["copies", "mirror"]) := by decide +kernel
  obtain ⟨rfl, rfl⟩ := Prod.mk.inj (Option.some.inj (both.symm.trans reported))
  obtain ⟨op, listed, ⟨_, version⟩, rule, ⟨tagSet, tags, satisfied⟩, named⟩ :=
    (routed.ruleIds "two").mp (by decide)
  rcases List.mem_pair.mp listed with rfl | rfl
  · obtain rfl := Option.some.inj tags
    have others : ∀ rule ∈ satisfiedRules
        { photosOp "ant" "yes" 11 with operationVersion := some "v1" }
        (Dict.ofList [("keep", "yes")]) twoRoutes, rule.ruleId ≠ "two" := by decide +kernel
    exact others rule satisfied named
  · exact absurd version (by decide)

end Sample
end ReplicateOnTag.ManifestGenerator

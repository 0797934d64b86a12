import ReplicateOnTag.Library.WhiteSpace
import ReplicateOnTag.Core.RuleMatcher

/-! Derivation of the tag-scoped rules from a replication configuration. -/
namespace ReplicateOnTag.RuleDeriver

structure Tag where
  key : String
  value : String
  deriving DecidableEq

structure AndFilter where
  keyPrefix : Option String
  tags : Option (List Tag)
  tag : Option Tag

/-- What is read of a filter; a prefix-only or an absent filter has neither. -/
structure Filter where
  tag : Option Tag
  and_ : Option AndFilter

/-- A missing status, or one that is no string, is `none`. -/
structure ReplicationRule where
  id : Option String
  status : Option String
  filter : Option Filter
  destinationBucket : Option String

structure ReplicationConfiguration where
  rules : Option (List ReplicationRule)

/-- The API response, or the configuration alone. -/
inductive ReplicationConfig where
  | response (replicationConfiguration : ReplicationConfiguration)
  | inner (replicationConfiguration : ReplicationConfiguration)

/-- `_inner_config`. -/
def innerConfig : ReplicationConfig → ReplicationConfiguration
  | .response config => config
  | .inner config => config

/-- `status.strip().upper()`, as far as comparison with `ENABLED` can tell. -/
def normalizedStatus (status : String) : String :=
  String.ofList ((WhiteSpace.strip status.toList).map Char.toUpper)

def isRuleEnabled (rule : ReplicationRule) : Bool :=
  match rule.status with
  | none => false
  | some status => normalizedStatus status = "ENABLED"

def storeTag (tags : TagSet) (tag : Tag) : TagSet := tags.insert tag.key tag.value

/-- `_extract_tag_filter_and_prefix`. -/
def extractTagFilterAndPrefix (rule : ReplicationRule) : TagSet × Option String :=
  let filterBlock := rule.filter.getD ⟨none, none⟩
  match filterBlock.tag with
  | some tag => (storeTag Dict.empty tag, none)
  | none =>
      match filterBlock.and_ with
      | some andBlock =>
          let keyPrefix := andBlock.keyPrefix.filter (· ≠ "")
          let tags := (andBlock.tags.getD []).foldl storeTag Dict.empty
          match andBlock.tag with
          | some tag => (storeTag tags tag, keyPrefix)
          | none => (tags, keyPrefix)
      | none => (Dict.empty, none)

def deriveRule (sourceBucket : String) (rule : ReplicationRule) : Option DerivedReplicationRule :=
  if isRuleEnabled rule then
    let ruleId := rule.id.getD ""
    let (tagFilter, keyPrefix) := extractTagFilterAndPrefix rule
    if tagFilter.entries = [] then none
    else
      some
        { sourceBucket := sourceBucket
          replicationConfigId := ruleId
          ruleId := ruleId
          tagFilter := tagFilter
          destinationBucketArn := rule.destinationBucket.getD ""
          keyPrefix := keyPrefix }
  else none

def deriveRules (sourceBucket : String) (replicationConfig : ReplicationConfig) :
    List DerivedReplicationRule :=
  ((innerConfig replicationConfig).rules.getD []).filterMap (deriveRule sourceBucket)

/-- The tags a rule's filter names. -/
def filterTags (rule : ReplicationRule) : List Tag :=
  match rule.filter with
  | none => []
  | some { tag := some tag, .. } => [tag]
  | some { tag := none, and_ := none } => []
  | some { tag := none, and_ := some andBlock } => andBlock.tags.getD [] ++ andBlock.tag.toList

/-- The prefix a filter names next to its tags. -/
def filterPrefix (rule : ReplicationRule) : Option String :=
  match rule.filter with
  | some { tag := none, and_ := some andBlock } => andBlock.keyPrefix
  | _ => none

/-- A tag listed again replaces its earlier value. -/
def Names (tags : List Tag) (key value : String) : Prop :=
  (tags.filter fun tag => tag.key = key).getLast? = some ⟨key, value⟩

/-- An enabled rule with a tag asks for the object: the object carries the
rule's tags, and its key begins with the rule's prefix. -/
structure AsksFor (rule : ReplicationRule) (tagSet : TagSet) (objectKey : String) : Prop where
  enabled : isRuleEnabled rule
  tagScoped : filterTags rule ≠ []
  tags : ∀ key value, Names (filterTags rule) key value → tagSet.get? key = some value
  located : ∀ keyPrefix, filterPrefix rule = some keyPrefix → keyPrefix.toList <+: objectKey.toList

/-- Some rule of the configuration asks for the object as the operation left it. -/
def Requested (replicationConfig : ReplicationConfig) (op : TaggingOperation) : Prop :=
  ∃ tagSet, op.resultingTagSet = some tagSet ∧
    ∃ rule ∈ (innerConfig replicationConfig).rules.getD [], AsksFor rule tagSet op.objectKey

section Derivation

theorem get?_foldl_storeTag (tags : List Tag) (key : String) :
    (tags.foldl storeTag Dict.empty).get? key =
      ((tags.filter fun tag => tag.key = key).getLast?).map Tag.value := by
  induction tags using List.reverseRecOn with
  | nil => rfl
  | append_singleton earlier last ih =>
    rw [List.foldl_append, List.foldl_cons, List.foldl_nil, storeTag, Dict.get?_insert, ih,
      List.filter_append]
    by_cases own : last.key = key
    · simp [own]
    · simp [own, Ne.symm own]

theorem foldl_storeTag_eq_nil_iff (tags : List Tag) :
    (tags.foldl storeTag Dict.empty).entries = [] ↔ tags = [] := by
  constructor
  · intro none
    cases tags using List.reverseRecOn with
    | nil => rfl
    | append_singleton earlier last =>
      rw [List.foldl_append, List.foldl_cons, List.foldl_nil] at none
      have stored : last.key ∈ (storeTag (earlier.foldl storeTag Dict.empty) last).keys :=
        Dict.mem_keys_iff.mpr ⟨last.value, Dict.get?_insert_self _ _ _⟩
      rw [Dict.keys, none] at stored
      exact absurd stored List.not_mem_nil
  · rintro rfl
    rfl

/-- All filter shapes store the tags one after the other. -/
theorem extract_tags (rule : ReplicationRule) :
    (extractTagFilterAndPrefix rule).1 = (filterTags rule).foldl storeTag Dict.empty := by
  rw [extractTagFilterAndPrefix, filterTags]
  cases rule.filter with
  | none => rfl
  | some filterBlock =>
    obtain ⟨_ | tag, _ | ⟨keyPrefix, tags, _ | tag⟩⟩ := filterBlock
    · rfl
    · simp
    · simp
    · rfl
    · rfl
    · rfl

/-- The empty prefix is no prefix. -/
theorem extract_prefix (rule : ReplicationRule) :
    (extractTagFilterAndPrefix rule).2 = (filterPrefix rule).filter (· ≠ "") := by
  rw [extractTagFilterAndPrefix, filterPrefix]
  cases rule.filter with
  | none => rfl
  | some filterBlock => obtain ⟨_ | tag, _ | ⟨keyPrefix, tags, _ | tag⟩⟩ := filterBlock <;> rfl

theorem names_iff (tags : List Tag) (key value : String) :
    Names tags key value ↔ (tags.foldl storeTag Dict.empty).get? key = some value := by
  rw [get?_foldl_storeTag, Names, Option.map_eq_some_iff]
  constructor
  · intro last
    exact ⟨_, last, rfl⟩
  · rintro ⟨tag, last, rfl⟩
    have own := of_decide_eq_true (List.mem_filter.mp (List.mem_of_getLast? last)).2
    rw [last, ← own]

theorem mem_deriveRules : derived ∈ deriveRules sourceBucket replicationConfig ↔
    ∃ rule ∈ (innerConfig replicationConfig).rules.getD [],
      deriveRule sourceBucket rule = some derived := by
  rw [deriveRules, List.mem_filterMap]

theorem deriveRule_eq_some_iff : deriveRule sourceBucket rule = some derived ↔
    isRuleEnabled rule ∧ filterTags rule ≠ [] ∧ derived =
      { sourceBucket := sourceBucket
        replicationConfigId := rule.id.getD ""
        ruleId := rule.id.getD ""
        tagFilter := (filterTags rule).foldl storeTag Dict.empty
        destinationBucketArn := rule.destinationBucket.getD ""
        keyPrefix := (filterPrefix rule).filter (· ≠ "") } := by
  rw [deriveRule]
  by_cases enabled : isRuleEnabled rule
  · rw [if_pos enabled]
    simp only [extract_tags, extract_prefix, foldl_storeTag_eq_nil_iff, enabled, true_and]
    by_cases untagged : filterTags rule = []
    · simp [untagged]
    · rw [if_neg untagged, Option.some.injEq]
      simp only [ne_eq, untagged, not_false_eq_true, true_and]
      exact eq_comm
  · simp [enabled]

/-- Every derived rule is of the bucket and names a tag. -/
theorem deriveRules_wellFormed (member : derived ∈ deriveRules sourceBucket replicationConfig) :
    derived.sourceBucket = sourceBucket ∧ derived.tagFilter.entries ≠ [] ∧
      derived.replicationConfigId = derived.ruleId ∧ derived.keyPrefix ≠ some "" := by
  obtain ⟨rule, _, derivation⟩ := mem_deriveRules.mp member
  obtain ⟨_, tagScoped, rfl⟩ := deriveRule_eq_some_iff.mp derivation
  refine ⟨rfl, mt (foldl_storeTag_eq_nil_iff _).mp tagScoped, rfl, ?_⟩
  intro blank
  simpa using (Option.filter_eq_some_iff.mp blank).2

theorem ruleSatisfies_iff : RuleMatcher.ruleSatisfies tagSet objectKey derived ↔
    (∀ key value, derived.tagFilter.get? key = some value → tagSet.get? key = some value) ∧
      ∀ keyPrefix, derived.keyPrefix = some keyPrefix → keyPrefix.toList <+: objectKey.toList := by
  rw [RuleMatcher.ruleSatisfies, Bool.and_eq_true, List.all_eq_true]
  refine and_congr ?_ ?_
  · simp only [decide_eq_true_eq, Prod.forall, Dict.mem_entries_iff]
  · cases derived.keyPrefix with
    | none => simp
    | some keyPrefix => simp [RuleMatcher.startsWith]

/-- A derived rule is satisfied exactly when the rule it comes from asks for the object. -/
theorem asksFor_iff (derivation : deriveRule sourceBucket rule = some derived) :
    RuleMatcher.ruleSatisfies tagSet objectKey derived ↔ AsksFor rule tagSet objectKey := by
  obtain ⟨enabled, tagScoped, rfl⟩ := deriveRule_eq_some_iff.mp derivation
  rw [ruleSatisfies_iff]
  constructor
  · rintro ⟨tags, located⟩
    refine ⟨enabled, tagScoped, fun key value named =>
      tags key value ((names_iff _ _ _).mp named), ?_⟩
    intro keyPrefix named
    by_cases blank : keyPrefix = ""
    · rw [blank]
      exact List.nil_prefix
    · exact located keyPrefix (by simp [named, blank])
  · rintro ⟨_, _, tags, located⟩
    refine ⟨fun key value named => tags key value ((names_iff _ _ _).mpr named), ?_⟩
    intro keyPrefix named
    exact located keyPrefix (Option.filter_eq_some_iff.mp named).1

/-- The derived rules match an operation of the bucket exactly when its configuration asks
for it. -/
theorem matches_deriveRules_iff (own : op.sourceBucket = sourceBucket) :
    RuleMatcher.Matches (deriveRules sourceBucket replicationConfig) op ↔
      Requested replicationConfig op := by
  refine exists_congr fun tagSet => and_congr_right fun _ => ?_
  constructor
  · rintro ⟨derived, member, _, satisfied⟩
    obtain ⟨rule, listed, derivation⟩ := mem_deriveRules.mp member
    exact ⟨rule, listed, (asksFor_iff derivation).mp satisfied⟩
  · rintro ⟨rule, listed, asks⟩
    have derivation : deriveRule sourceBucket rule = some _ :=
      deriveRule_eq_some_iff.mpr ⟨asks.enabled, asks.tagScoped, rfl⟩
    exact ⟨_, mem_deriveRules.mpr ⟨rule, listed, derivation⟩, own.symm,
      (asksFor_iff derivation).mpr asks⟩

end Derivation
end ReplicateOnTag.RuleDeriver

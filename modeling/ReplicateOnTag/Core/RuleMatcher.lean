import ReplicateOnTag.Core.Models
import Mathlib.Data.List.Induction

/-! Evaluation of one tagging operation against the derived rules. -/
namespace ReplicateOnTag.RuleMatcher

structure MatchError where
  sourceBucket : String
  objectKey : String
  reason : String
  deriving DecidableEq

def startsWith (text pre : String) : Bool := pre.toList.isPrefixOf text.toList

/-- `_rule_satisfies`. -/
def ruleSatisfies (tagSet : TagSet) (objectKey : String) (rule : DerivedReplicationRule) : Bool :=
  (rule.tagFilter.entries.all fun entry => tagSet.get? entry.1 = some entry.2) &&
    match rule.keyPrefix with
    | none => true
    | some keyPrefix => startsWith objectKey keyPrefix

/-- Rule ids and destinations matched under one replication configuration. -/
structure ConfigMatch where
  ruleIds : List String
  destinations : List String

def addRule (byConfig : Dict String ConfigMatch) (rule : DerivedReplicationRule) :
    Dict String ConfigMatch :=
  let found := (byConfig.get? rule.replicationConfigId).getD ⟨[], []⟩
  byConfig.insert rule.replicationConfigId
    { ruleIds := found.ruleIds.insert rule.ruleId
      destinations :=
        if rule.destinationBucketArn = "" then found.destinations
        else found.destinations.insert rule.destinationBucketArn }

def satisfiedRules (op : TaggingOperation) (tagSet : TagSet) (rules : List DerivedReplicationRule) :
    List DerivedReplicationRule :=
  (rules.filter fun rule => rule.sourceBucket = op.sourceBucket).filter
    (ruleSatisfies tagSet op.objectKey)

def toMatchedObject (op : TaggingOperation) (configId : String)
    (found : ConfigMatch) : MatchedObject :=
  { sourceBucket := op.sourceBucket
    objectKey := op.objectKey
    replicationConfigId := configId
    matchedRuleIds := found.ruleIds
    versionId := op.operationVersion
    taggedAt := some op.eventTime
    lastModified := op.lastModified
    destinationBucketArns := found.destinations }

/-- `match`: one object per configuration with a satisfied rule, in the order
the configurations are first satisfied. -/
def matchOperation (op : TaggingOperation) (rules : List DerivedReplicationRule) :
    List MatchedObject × List MatchError :=
  match op.resultingTagSet with
  | none =>
      ([], [⟨op.sourceBucket, op.objectKey,
        "resulting_tag_set is indeterminate: expected dict, got NoneType"⟩])
  | some tagSet =>
      let byConfig := (satisfiedRules op tagSet rules).foldl addRule Dict.empty
      (byConfig.entries.map fun entry => toMatchedObject op entry.1 entry.2, [])

/-- Some rule of the operation's bucket is satisfied by its tags and key. -/
def Matches (rules : List DerivedReplicationRule) (op : TaggingOperation) : Prop :=
  ∃ tagSet, op.resultingTagSet = some tagSet ∧
    ∃ rule ∈ rules, rule.sourceBucket = op.sourceBucket ∧ ruleSatisfies tagSet op.objectKey rule

theorem mem_satisfiedRules :
    rule ∈ satisfiedRules op tagSet rules ↔
      rule ∈ rules ∧ rule.sourceBucket = op.sourceBucket ∧
        ruleSatisfies tagSet op.objectKey rule := by
  simp only [satisfiedRules, List.mem_filter, decide_eq_true_eq, and_assoc]

theorem mem_keys_addRule {byConfig : Dict String ConfigMatch} {configId : String} :
    configId ∈ (addRule byConfig rule).keys ↔
      configId = rule.replicationConfigId ∨ configId ∈ byConfig.keys :=
  Dict.mem_keys_upsert

theorem mem_keys_foldl_addRule (satisfied : List DerivedReplicationRule) (configId : String) :
    configId ∈ (satisfied.foldl addRule Dict.empty).keys ↔
      ∃ rule ∈ satisfied, rule.replicationConfigId = configId := by
  induction satisfied using List.reverseRecOn with
  | nil => simp [Dict.empty, Dict.keys]
  | append_singleton earlier last ih =>
    rw [List.foldl_append, List.foldl_cons, List.foldl_nil, mem_keys_addRule, ih]
    constructor
    · rintro (rfl | ⟨rule, member, rfl⟩)
      · exact ⟨last, by simp, rfl⟩
      · exact ⟨rule, List.mem_append_left _ member, rfl⟩
    · rintro ⟨rule, member, rfl⟩
      rcases List.mem_append.mp member with old | new
      · exact .inr ⟨rule, old, rfl⟩
      · exact .inl (congrArg _ (List.mem_singleton.mp new))

/-- Every matched object carries the key, version and instants of its operation. -/
theorem matched_of_operation (member : obj ∈ (matchOperation op rules).1) :
    obj.sourceBucket = op.sourceBucket ∧ obj.objectKey = op.objectKey ∧
      obj.versionId = op.operationVersion ∧ obj.taggedAt = some op.eventTime ∧
      obj.lastModified = op.lastModified := by
  rw [matchOperation] at member
  cases tags : op.resultingTagSet with
  | none => simp [tags] at member
  | some tagSet =>
    simp only [tags, List.mem_map] at member
    obtain ⟨entry, _, rfl⟩ := member
    exact ⟨rfl, rfl, rfl, rfl, rfl⟩

theorem mem_foldl_addRule (holds : ConfigMatch → Prop) (satisfied : List DerivedReplicationRule)
    (adds : ∀ rule ∈ satisfied, ∀ byConfig found,
      (addRule byConfig rule).get? rule.replicationConfigId = some found →
      holds found) (configId : String) (found : ConfigMatch)
    (stored : (satisfied.foldl addRule Dict.empty).get? configId = some found) : holds found := by
  induction satisfied using List.reverseRecOn generalizing found with
  | nil => cases stored
  | append_singleton earlier last ih =>
    rw [List.foldl_append, List.foldl_cons, List.foldl_nil] at stored
    by_cases own : configId = last.replicationConfigId
    · subst own
      exact adds last (by simp) _ found stored
    · rw [addRule, Dict.get?_insert_of_ne own] at stored
      exact ih (fun rule member => adds rule (List.mem_append_left _ member)) found stored

/-- A matched object names a rule, and a destination when its rules do. -/
theorem matched_complete (named : ∀ rule ∈ rules, rule.destinationBucketArn ≠ "")
    (member : obj ∈ (matchOperation op rules).1) :
    obj.matchedRuleIds ≠ [] ∧ obj.destinationBucketArns ≠ [] := by
  rw [matchOperation] at member
  cases tags : op.resultingTagSet with
  | none => simp [tags] at member
  | some tagSet =>
    simp only [tags, List.mem_map] at member
    obtain ⟨entry, listed, rfl⟩ := member
    refine mem_foldl_addRule (fun found => found.ruleIds ≠ [] ∧ found.destinations ≠ [])
      (satisfiedRules op tagSet rules) ?_ entry.1 entry.2 (Dict.mem_entries_iff.mp listed)
    intro rule satisfied byConfig found stored
    rw [addRule, Dict.get?_insert_self, Option.some.injEq] at stored
    rw [← stored, if_neg (named rule (mem_satisfiedRules.mp satisfied).1)]
    exact ⟨List.ne_nil_of_mem List.mem_insert_self, List.ne_nil_of_mem List.mem_insert_self⟩

/-- A list of texts kept for a configuration is what its satisfied rules give. -/
theorem mem_part_foldl_addRule (part : ConfigMatch → List String)
    (gives : DerivedReplicationRule → String → Prop) (none : part ⟨[], []⟩ = [])
    (adds : ∀ byConfig rule found text,
      (addRule byConfig rule).get? rule.replicationConfigId = some found →
      (text ∈ part found ↔
        gives rule text ∨ text ∈ part ((byConfig.get? rule.replicationConfigId).getD ⟨[], []⟩)))
    (satisfied : List DerivedReplicationRule) (configId text : String) :
    text ∈ part (((satisfied.foldl addRule Dict.empty).get? configId).getD ⟨[], []⟩) ↔
      ∃ rule ∈ satisfied, rule.replicationConfigId = configId ∧ gives rule text := by
  induction satisfied using List.reverseRecOn with
  | nil => simp [none]
  | append_singleton earlier last ih =>
    rw [List.foldl_append, List.foldl_cons, List.foldl_nil]
    simp only [List.mem_append, List.mem_singleton, or_and_right, exists_or, exists_eq_left]
    rw [← ih]
    by_cases own : configId = last.replicationConfigId
    · subst own
      obtain ⟨found, stored⟩ := Dict.mem_keys_iff.mp (mem_keys_addRule.mpr (.inl rfl) :
        last.replicationConfigId ∈ (addRule (earlier.foldl addRule Dict.empty) last).keys)
      rw [stored, Option.getD_some, adds _ _ _ _ stored]
      simp only [true_and]
      exact or_comm
    · rw [addRule, Dict.get?_insert_of_ne own]
      simp only [Ne.symm own, false_and, or_false]

/-- What the objects of one operation carry together, whichever configurations
they are spread over. -/
theorem mem_part_matchOperation (part : ConfigMatch → List String)
    (carried : MatchedObject → List String)
    (gives : DerivedReplicationRule → String → Prop) (none : part ⟨[], []⟩ = [])
    (adds : ∀ byConfig rule found text,
      (addRule byConfig rule).get? rule.replicationConfigId = some found →
      (text ∈ part found ↔
        gives rule text ∨ text ∈ part ((byConfig.get? rule.replicationConfigId).getD ⟨[], []⟩)))
    (carries : ∀ op configId found, carried (toMatchedObject op configId found) = part found)
    (tags : op.resultingTagSet = some tagSet) (text : String) :
    (∃ obj ∈ (matchOperation op rules).1, text ∈ carried obj) ↔
      ∃ rule ∈ satisfiedRules op tagSet rules, gives rule text := by
  have kept := mem_part_foldl_addRule part gives none adds (satisfiedRules op tagSet rules)
  simp only [matchOperation, tags, List.mem_map]
  constructor
  · rintro ⟨obj, ⟨entry, listed, rfl⟩, member⟩
    rw [carries] at member
    have stored := Dict.mem_entries_iff.mp listed
    obtain ⟨rule, satisfied, _, given⟩ := (kept entry.1 text).mp (by rw [stored]; exact member)
    exact ⟨rule, satisfied, given⟩
  · rintro ⟨rule, satisfied, given⟩
    have member := (kept rule.replicationConfigId text).mpr ⟨rule, satisfied, rfl, given⟩
    cases stored : ((satisfiedRules op tagSet rules).foldl addRule Dict.empty).get?
      rule.replicationConfigId with
    | none => simp [stored, none] at member
    | some found =>
      rw [stored, Option.getD_some] at member
      exact ⟨_, ⟨_, Dict.mem_entries_iff.mpr stored, rfl⟩, by rw [carries]; exact member⟩

theorem mem_matchedRuleIds (tags : op.resultingTagSet = some tagSet) (ruleId : String) :
    (∃ obj ∈ (matchOperation op rules).1, ruleId ∈ obj.matchedRuleIds) ↔
      ∃ rule ∈ satisfiedRules op tagSet rules, rule.ruleId = ruleId := by
  refine mem_part_matchOperation ConfigMatch.ruleIds _ (fun rule text => rule.ruleId = text) rfl ?_
    (fun _ _ _ => rfl) tags ruleId
  intro byConfig rule found text stored
  rw [addRule, Dict.get?_insert_self, Option.some.injEq] at stored
  rw [← stored, List.mem_insert_iff, eq_comm]

theorem mem_destinationBucketArns (tags : op.resultingTagSet = some tagSet) (arn : String) :
    (∃ obj ∈ (matchOperation op rules).1, arn ∈ obj.destinationBucketArns) ↔
      ∃ rule ∈ satisfiedRules op tagSet rules, rule.destinationBucketArn ≠ "" ∧
        rule.destinationBucketArn = arn := by
  refine mem_part_matchOperation ConfigMatch.destinations _
    (fun rule text => rule.destinationBucketArn ≠ "" ∧ rule.destinationBucketArn = text) rfl ?_
    (fun _ _ _ => rfl) tags arn
  intro byConfig rule found text stored
  rw [addRule, Dict.get?_insert_self, Option.some.injEq] at stored
  rw [← stored]
  by_cases unnamed : rule.destinationBucketArn = ""
  · simp [unnamed]
  · simp [unnamed, eq_comm]

theorem matched_nonempty_iff (op : TaggingOperation) (rules : List DerivedReplicationRule) :
    (matchOperation op rules).1 ≠ [] ↔ Matches rules op := by
  rw [matchOperation, Matches]
  cases tags : op.resultingTagSet with
  | none => simp
  | some tagSet =>
    simp only [Option.some.injEq, exists_eq_left', ne_eq, List.map_eq_nil_iff]
    have keys := mem_keys_foldl_addRule (satisfiedRules op tagSet rules)
    constructor
    · intro some
      obtain ⟨entry, member⟩ := List.exists_mem_of_ne_nil _ some
      obtain ⟨rule, satisfied, _⟩ := (keys entry.1).mp (List.mem_map_of_mem member)
      exact ⟨rule, mem_satisfiedRules.mp satisfied⟩
    · rintro ⟨rule, satisfied⟩ none
      have member := (keys rule.replicationConfigId).mpr
        ⟨rule, mem_satisfiedRules.mpr satisfied, rfl⟩
      simp [Dict.keys, none] at member

instance (rules : List DerivedReplicationRule)
    (op : TaggingOperation) : Decidable (Matches rules op) :=
  decidable_of_iff ((matchOperation op rules).1 ≠ []) (matched_nonempty_iff op rules)

end ReplicateOnTag.RuleMatcher

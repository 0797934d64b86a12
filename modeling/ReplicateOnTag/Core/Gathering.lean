import ReplicateOnTag.Core.ManifestGenerator

/-! What is accumulated when the matched objects of each operation arrive as a
set: the objects of one operation come in any order. -/
namespace ReplicateOnTag.ManifestGenerator
open RuleMatcher

/-- The operations are matched in order, the objects of each in the order its
set is iterated. -/
inductive Gathers (rules : List DerivedReplicationRule) :
    List TaggingOperation → Entries → Prop where
  | start : Gathers rules [] Dict.empty
  | next {ops entries op matched} : Gathers rules ops entries →
      matched.Perm (matchOperation op rules).1 →
      Gathers rules (ops ++ [op]) (accumulate entries matched)

def objectPlace (obj : MatchedObject) : String × String := (obj.sourceBucket, obj.objectKey)

def place (op : TaggingOperation) : String × String := (op.sourceBucket, op.objectKey)

/-- The version and the instants that the first object of a key leaves. -/
structure Origin where
  versionId : Option String
  taggedAt : Option Instant
  lastModified : Option Instant

def Accumulated.origin (acc : Accumulated) : Origin :=
  ⟨acc.versionId, acc.taggedAt, acc.lastModified⟩

def objectOrigin (obj : MatchedObject) : Origin := ⟨obj.versionId, obj.taggedAt, obj.lastModified⟩

def operationOrigin (op : TaggingOperation) : Origin :=
  ⟨op.operationVersion, some op.eventTime, op.lastModified⟩

/-- The rules that the operation satisfies. -/
def Satisfied (rules : List DerivedReplicationRule) (op : TaggingOperation)
    (rule : DerivedReplicationRule) : Prop :=
  ∃ tagSet, op.resultingTagSet = some tagSet ∧ rule ∈ satisfiedRules op tagSet rules

section Accumulating

theorem keys_addObject (entries : Entries) (obj : MatchedObject) :
    (addObject entries obj).keys =
      entries.keys ++ if objectPlace obj ∈ entries.keys then [] else [objectPlace obj] :=
  (Dict.keys_upsert _ _ _).trans (by congr)

theorem get?_addObject_self (entries : Entries) (obj : MatchedObject) :
    ∃ acc, (addObject entries obj).get? (objectPlace obj) = some acc ∧
      acc.origin = ((entries.get? (objectPlace obj)).map
        Accumulated.origin).getD (objectOrigin obj) ∧
      acc.matchedRules =
        ((entries.get? (objectPlace obj)).map Accumulated.matchedRules).getD
          [] ∪ obj.matchedRuleIds ∧
      acc.destinations =
        ((entries.get? (objectPlace obj)).map Accumulated.destinations).getD
          [] ∪ obj.destinationBucketArns := by
  refine ⟨_, Dict.get?_insert_self _ _ _, ?_⟩
  rw [← objectPlace]
  cases entries.get? (objectPlace obj) with
  | none => exact ⟨rfl, rfl, rfl⟩
  | some found => exact ⟨rfl, rfl, rfl⟩

theorem get?_addObject_of_ne {entries : Entries} {obj : MatchedObject} {key : String × String}
    (different : key ≠ objectPlace obj) : (addObject entries obj).get? key = entries.get? key :=
  Dict.get?_insert_of_ne different

/-- Where the objects share their key, that key is appended once. -/
theorem keys_accumulate {key : String × String} {matched : List MatchedObject}
    (own : ∀ obj ∈ matched, objectPlace obj = key) (entries : Entries) :
    (accumulate entries matched).keys =
      entries.keys ++ if matched = [] ∨ key ∈ entries.keys then [] else [key] := by
  induction matched generalizing entries with
  | nil => simp [accumulate]
  | cons obj rest ih =>
    have here := own obj List.mem_cons_self
    rw [accumulate, List.foldl_cons, ← accumulate, ih fun other listed =>
      own other (List.mem_cons_of_mem _ listed)]
    have held : key ∈ (addObject entries obj).keys := Dict.mem_keys_upsert.mpr (.inl here.symm)
    rw [if_pos (.inr held), List.append_nil, keys_addObject, here]
    simp only [reduceCtorEq, false_or]

def rulesOf (found : Option Accumulated) : List String :=
  (found.map Accumulated.matchedRules).getD []

def destinationsOf (found : Option Accumulated) : List String :=
  (found.map Accumulated.destinations).getD []

/-- What is kept for one key: what its first object brought, and one occurrence
of every rule and destination of its objects. -/
structure Keeps (matched : List MatchedObject) (key : String × String)
    (found : Option Accumulated) : Prop where
  origin : (matched.find? fun obj => objectPlace obj = key).map objectOrigin =
    found.map Accumulated.origin
  rulesOnce : (rulesOf found).Nodup
  destinationsOnce : (destinationsOf found).Nodup
  ruleIds : ∀ ruleId, ruleId ∈ rulesOf found ↔
    ∃ obj ∈ matched, objectPlace obj = key ∧ ruleId ∈ obj.matchedRuleIds
  arns : ∀ arn, arn ∈ destinationsOf found ↔
    ∃ obj ∈ matched, objectPlace obj = key ∧ arn ∈ obj.destinationBucketArns

structure OnceEach (obj : MatchedObject) : Prop where
  rules : obj.matchedRuleIds.Nodup
  destinations : obj.destinationBucketArns.Nodup

theorem keeps_nil (key : String × String) : Keeps [] key none :=
  ⟨rfl, List.nodup_nil, List.nodup_nil, by simp [rulesOf], by simp [destinationsOf]⟩

/-- An object of another key changes nothing. -/
theorem Keeps.append_of_ne (kept : Keeps matched key found) (different : key ≠ objectPlace obj) :
    Keeps (matched ++ [obj]) key found := by
  refine ⟨?_, kept.rulesOnce, kept.destinationsOnce, fun ruleId => ?_, fun arn => ?_⟩
  · rw [List.find?_append, Option.map_or, kept.origin]
    simp [different.symm]
  · rw [kept.ruleIds]
    simp [different.symm, or_and_right, exists_or]
  · rw [kept.arns]
    simp [different.symm, or_and_right, exists_or]

/-- An object of the key adds its rules and destinations. -/
theorem Keeps.append_self (kept : Keeps matched (objectPlace obj) found) (once : OnceEach obj)
    (origin : acc.origin = (found.map Accumulated.origin).getD (objectOrigin obj))
    (rules : acc.matchedRules = rulesOf found ∪ obj.matchedRuleIds)
    (destinations : acc.destinations = destinationsOf found ∪ obj.destinationBucketArns) :
    Keeps (matched ++ [obj]) (objectPlace obj) (some acc) := by
  constructor
  · rw [List.find?_append, Option.map_or, kept.origin, Option.map_some, origin]
    cases found <;> simp
  · rw [rulesOf, Option.map_some, Option.getD_some, rules]
    exact once.rules.union _
  · rw [destinationsOf, Option.map_some, Option.getD_some, destinations]
    exact once.destinations.union _
  · intro ruleId
    rw [rulesOf, Option.map_some, Option.getD_some, rules, List.mem_union_iff, kept.ruleIds]
    simp [or_and_right, exists_or]
  · intro arn
    rw [destinationsOf, Option.map_some, Option.getD_some, destinations, List.mem_union_iff,
      kept.arns]
    simp [or_and_right, exists_or]

theorem keeps_addObject (kept : ∀ key, Keeps matched key (entries.get? key)) (once : OnceEach obj) :
    ∀ key, Keeps (matched ++ [obj]) key ((addObject entries obj).get? key) := by
  intro key
  by_cases own : key = objectPlace obj
  · subst own
    obtain ⟨acc, stored, origin, rules, destinations⟩ := get?_addObject_self entries obj
    rw [stored]
    exact (kept _).append_self once origin rules destinations
  · rw [get?_addObject_of_ne own]
    exact (kept key).append_of_ne own

theorem keeps_accumulate (kept : ∀ key, Keeps earlier key (entries.get? key))
    (once : ∀ obj ∈ matched, OnceEach obj) :
    ∀ key, Keeps (earlier ++ matched) key ((accumulate entries matched).get? key) := by
  induction matched generalizing earlier entries with
  | nil => simpa [accumulate] using kept
  | cons obj rest ih =>
    have added := keeps_addObject kept (once obj List.mem_cons_self)
    rw [List.append_cons, accumulate, List.foldl_cons, ← accumulate]
    exact ih added fun other listed => once other (List.mem_cons_of_mem _ listed)

end Accumulating

section Gathering

theorem objectPlace_matched (member : obj ∈ (matchOperation op rules).1) :
    objectPlace obj = place op ∧ objectOrigin obj = operationOrigin op := by
  obtain ⟨bucket, key, version, tagged, modified⟩ := matched_of_operation member
  constructor
  · rw [objectPlace, bucket, key, place]
  · rw [objectOrigin, version, tagged, modified, operationOrigin]

theorem matchOperation_once (member : obj ∈ (matchOperation op rules).1) : OnceEach obj := by
  rw [matchOperation] at member
  cases tags : op.resultingTagSet with
  | none => simp [tags] at member
  | some tagSet =>
    simp only [tags, List.mem_map] at member
    obtain ⟨entry, listed, rfl⟩ := member
    have once : ∀ configId, ((((satisfiedRules op tagSet rules).foldl addRule
        Dict.empty).get? configId).getD
        ⟨[], []⟩).ruleIds.Nodup ∧ ((((satisfiedRules op tagSet rules).foldl addRule Dict.empty).get?
          configId).getD ⟨[], []⟩).destinations.Nodup := by
      induction satisfiedRules op tagSet rules using List.reverseRecOn with
      | nil => exact fun _ => ⟨List.nodup_nil, List.nodup_nil⟩
      | append_singleton earlier last ih =>
        intro configId
        rw [List.foldl_append, List.foldl_cons, List.foldl_nil, addRule, Dict.get?_insert]
        split
        · refine ⟨(ih _).1.insert, ?_⟩
          simp only [Option.getD_some]
          split
          · exact (ih _).2
          · exact (ih _).2.insert
        · exact ih configId
    have stored := once entry.1
    rw [Dict.mem_entries_iff.mp listed] at stored
    exact ⟨stored.1, stored.2⟩

/-- What is gathered, per key, from the operations' own view: the first matching
operation, and the rules and destinations of all of them. -/
structure Gathered (rules : List DerivedReplicationRule) (ops : List TaggingOperation)
    (key : String × String) (found : Option Accumulated) : Prop where
  origin : (ops.find? fun op => place op = key ∧ Matches rules op).map operationOrigin =
    found.map Accumulated.origin
  rulesOnce : (rulesOf found).Nodup
  destinationsOnce : (destinationsOf found).Nodup
  ruleIds : ∀ ruleId, ruleId ∈ rulesOf found ↔
    ∃ op ∈ ops, place op = key ∧ ∃ rule, Satisfied rules op rule ∧ rule.ruleId = ruleId
  arns : ∀ arn, arn ∈ destinationsOf found ↔
    ∃ op ∈ ops, place op = key ∧ ∃ rule, Satisfied rules op rule ∧ rule.destinationBucketArn ≠ "" ∧
      rule.destinationBucketArn = arn

variable {matched : List MatchedObject} {ops : List TaggingOperation}

theorem find?_matched (matching : matched.Perm (matchOperation op rules).1)
    (key : String × String) :
    (matched.find? fun obj => objectPlace obj = key).map objectOrigin =
      if place op = key ∧ Matches rules op then some (operationOrigin op) else none := by
  have own : ∀ obj ∈ matched, objectPlace obj = place op ∧ objectOrigin obj = operationOrigin op :=
    fun obj member => objectPlace_matched (matching.mem_iff.mp member)
  by_cases here : place op = key ∧ Matches rules op
  · rw [if_pos here]
    have some := (matched_nonempty_iff op rules).mpr here.2
    cases matched with
    | nil => exact absurd matching.nil_eq.symm some
    | cons obj rest =>
      obtain ⟨at_, origin⟩ := own obj List.mem_cons_self
      rw [List.find?_cons_of_pos (by simp [at_, here.1]), Option.map_some, origin]
  · rw [if_neg here]
    have none : matched.find? (fun obj => objectPlace obj = key) = none := by
      refine List.find?_eq_none.mpr fun obj member same => here ⟨?_, ?_⟩
      · rw [← (own obj member).1]
        exact of_decide_eq_true same
      · exact (matched_nonempty_iff op rules).mp (List.ne_nil_of_mem (matching.mem_iff.mp member))
    rw [none, Option.map_none]

/-- The gathered entries are those of one sequence of objects, which holds the
objects of every operation. -/
theorem Gathers.objects (gathers : Gathers rules ops entries) : ∃ matched : List MatchedObject,
    (∀ key, Keeps matched key (entries.get? key)) ∧
    (∀ key, (matched.find? fun obj => objectPlace obj = key).map objectOrigin =
      (ops.find? fun op => place op = key ∧ Matches rules op).map operationOrigin) ∧
    ∀ obj, obj ∈ matched ↔ ∃ op ∈ ops, obj ∈ (matchOperation op rules).1 := by
  induction gathers with
  | start => exact ⟨[], keeps_nil, fun _ => rfl, by simp⟩
  | @next ops entries op matched _ matching ih =>
    obtain ⟨earlier, kept, origins, members⟩ := ih
    refine ⟨earlier ++ matched, ?_, fun key => ?_, fun obj => ?_⟩
    · exact keeps_accumulate kept fun obj member => matchOperation_once (matching.mem_iff.mp member)
    · rw [List.find?_append, List.find?_append, Option.map_or, Option.map_or, origins,
        find?_matched matching]
      congr 1
      by_cases here : place op = key ∧ Matches rules op
      · simp [here]
      · simp [here]
    · rw [List.mem_append, members, matching.mem_iff]
      simp [or_and_right, exists_or]

theorem exists_matched_iff
    (members : ∀ obj, obj ∈ matched ↔ ∃ op ∈ ops, obj ∈ (matchOperation op rules).1)
    (carried : MatchedObject → List String) (gives : DerivedReplicationRule → String → Prop)
    (carries : ∀ op tagSet text, op.resultingTagSet = some tagSet →
      ((∃ obj ∈ (matchOperation op rules).1, text ∈ carried obj) ↔
        ∃ rule ∈ satisfiedRules op tagSet rules, gives rule text))
    (key : String × String) (text : String) :
    (∃ obj ∈ matched, objectPlace obj = key ∧ text ∈ carried obj) ↔
      ∃ op ∈ ops, place op = key ∧ ∃ rule, Satisfied rules op rule ∧ gives rule text := by
  constructor
  · rintro ⟨obj, member, here, carried⟩
    obtain ⟨op, listed, own⟩ := (members obj).mp member
    refine ⟨op, listed, (objectPlace_matched own).1.symm.trans here, ?_⟩
    cases tags : op.resultingTagSet with
    | none => simp [matchOperation, tags] at own
    | some tagSet =>
      obtain ⟨rule, satisfied, given⟩ := (carries op tagSet text tags).mp ⟨obj, own, carried⟩
      exact ⟨rule, ⟨tagSet, tags, satisfied⟩, given⟩
  · rintro ⟨op, listed, here, rule, ⟨tagSet, tags, satisfied⟩, given⟩
    obtain ⟨obj, own, carried⟩ := (carries op tagSet text tags).mpr ⟨rule, satisfied, given⟩
    exact ⟨obj, (members obj).mpr ⟨op, listed, own⟩,
      (objectPlace_matched own).1.trans here, carried⟩

theorem Gathers.gathered (gathers : Gathers rules ops entries) (key : String × String) :
    Gathered rules ops key (entries.get? key) := by
  obtain ⟨matched, kept, origins, members⟩ := gathers.objects
  refine ⟨?_, (kept key).rulesOnce, (kept key).destinationsOnce, fun ruleId => ?_, fun arn => ?_⟩
  · rw [← origins, (kept key).origin]
  · rw [(kept key).ruleIds]
    exact exists_matched_iff members _ (fun rule text => rule.ruleId = text)
      (fun op tagSet text tags => mem_matchedRuleIds tags text) key ruleId
  · rw [(kept key).arns]
    exact exists_matched_iff members _ (fun rule text => rule.destinationBucketArn ≠ "" ∧
      rule.destinationBucketArn = text)
      (fun op tagSet text tags => mem_destinationBucketArns tags text) key arn

/-- The keys stand in the order in which their first operations match. -/
theorem Gathers.keys (gathers : Gathers rules ops entries) :
    entries.keys = ((ops.filter fun op => Matches rules op).map place).eraseDups := by
  induction gathers with
  | start => rfl
  | @next ops entries op matched _ matching ih =>
    have own : ∀ obj ∈ matched, objectPlace obj = place op :=
      fun obj member => (objectPlace_matched (matching.mem_iff.mp member)).1
    rw [keys_accumulate own, ih, List.filter_append, List.map_append, List.eraseDups_append]
    congr 1
    by_cases matches_ : Matches rules op
    · have some : matched ≠ [] := fun none =>
        (matched_nonempty_iff op rules).mpr matches_ (List.nil_perm.mp (none ▸ matching))
      by_cases held : place op ∈ (ops.filter fun op => Matches rules op).map place
      · simp [matches_, some, held, List.removeAll]
      · simp [matches_, some, held, List.removeAll, List.eraseDups_cons]
    · have none : matched = [] := by
        have empty := not_not.mp (mt (matched_nonempty_iff op rules).mp matches_)
        exact List.perm_nil.mp (empty ▸ matching)
      simp [matches_, none]

/-- The model's own order of the objects is one of the orders. -/
theorem gathers_matchAndAccumulate (ops : List TaggingOperation)
    (rules : List DerivedReplicationRule) :
    Gathers rules ops (matchAndAccumulate ops rules) := by
  induction ops using List.reverseRecOn with
  | nil => exact .start
  | append_singleton earlier last ih =>
    rw [matchAndAccumulate, List.foldl_append, List.foldl_cons, List.foldl_nil,
      ← matchAndAccumulate]
    exact .next ih (List.Perm.refl _)

end Gathering
end ReplicateOnTag.ManifestGenerator

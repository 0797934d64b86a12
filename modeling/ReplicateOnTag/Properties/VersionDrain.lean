import ReplicateOnTag.Library.OneByOne
import ReplicateOnTag.Orchestrator.StaticRuns

/-! Several versions of a key, one for each run: when runs that read the same
records submit them in order, and none is held back. -/
namespace ReplicateOnTag.Orchestrator
open Watermark CheckpointLogic JournalDedup ManifestGenerator

section Runs
variable (settings : Settings) (ops : List TaggingOperation)

/-- The matched versions of a key, in order of their first matching record. -/
def versionOrder (key : String) : List (Option String) :=
  (versionsOf key (matchingOps settings.rules settings.bucketName (ops.filter isValid))).eraseDups

/-- Run by run the manifests take the versions of each key in order, until none
is left. -/
structure Drains (start : CheckpointState) : Prop where
  manifests : ∀ n entry, entry ∈ manifestOf settings ops start n ↔
    entry.sourceBucket = settings.bucketName ∧
      (versionOrder settings ops entry.objectKey)[n]? = some entry.versionId
  rows : ∀ n, ((manifestOf settings ops start n).map ManifestEntry.objectKey).Nodup
  once : ∀ k, (∀ key, (versionOrder settings ops key).length ≤ k) →
    ∀ key, ∀ version ∈ versionOrder settings ops key,
      ∃! n, n < k ∧ ⟨settings.bucketName, key, version⟩ ∈ manifestOf settings ops start n
  drained : ∀ k, (∀ key, (versionOrder settings ops key).length ≤ k) →
    ∀ op ∈ (selectEligibleOperations ops (checkpointAt settings ops start k)
      settings.lookback).eligible,
      ∀ n < k, op.triple ∉ (manifestOf settings ops start n).map ManifestEntry.triple

/-- The operations that later runs may still submit. -/
def freshOps (start : CheckpointState) : List TaggingOperation :=
  (distinctOps ops).filter fun op => ¬ RecordedBefore settings ops start op

/-- The first version of a key, then those of the operations not recorded before. -/
def requests (start : CheckpointState) (key : String) : List (Option String) :=
  (versionsOf key (matchingOps settings.rules settings.bucketName
    (distinctOps ops))).head?.toList ++
    versionsOf key (matchingOps settings.rules settings.bucketName (freshOps settings ops start))

/-- Leaving out the operations recorded before keeps the order of the versions. -/
def KeepsOrder (start : CheckpointState) : Prop :=
  ∀ key, (requests settings ops start key).eraseDups = versionOrder settings ops key

end Runs

section Order
variable {settings : Settings} {ops : List TaggingOperation} {start : CheckpointState}

/-- The version of a key that the run with the number takes. -/
def servedOf (settings : Settings) (ops : List TaggingOperation) (start : CheckpointState)
    (key : String) (n : Nat) :
    Option (Option String) :=
  servedAt settings ops (checkpointAt settings ops start n) key

theorem mem_manifestOf_iff : entry ∈ manifestOf settings ops start n ↔
    entry.sourceBucket = settings.bucketName ∧
      servedOf settings ops start entry.objectKey n = some entry.versionId := mem_manifestAt_iff

/-- The versions of a key among the matching operations a run finds eligible. -/
theorem versionsOf_filter (key : String) (listed : List TaggingOperation) (p : Option String → Bool)
    (q : TaggingOperation → Bool) (own : ∀ op ∈ listed, op.sourceBucket = settings.bucketName →
      op.objectKey = key → q op = p op.operationVersion) :
    versionsOf key (matchingOps settings.rules settings.bucketName (listed.filter q)) =
      (versionsOf key (matchingOps settings.rules settings.bucketName listed)).filter p := by
  simp only [versionsOf, matchingOps, List.filter_map, List.filter_filter]
  congr 1
  refine List.filter_congr fun op member => ?_
  by_cases bucket : op.sourceBucket = settings.bucketName
  · by_cases here : op.objectKey = key
    · simp [bucket, here, own op member bucket here, Bool.and_comm]
    · simp [here]
  · simp [bucket]

theorem servedOf_zero (static : ReadsStatic settings ops start) (key : String) :
    servedOf settings ops start key 0 =
      (versionsOf key (matchingOps settings.rules settings.bucketName
        (distinctOps ops))).head? := by
  have all : ((distinctOps ops).filter fun op => isEligible op (checkpointAt settings ops start 0)
      settings.lookback) = distinctOps ops := List.filter_eq_self.mpr static.eligible
  rw [servedOf, servedAt, dedupedOps_static static, all]

/-- Of nothing that names the key, no part names it. -/
theorem versionsOf_filter_nil {listed : List TaggingOperation}
    (none : versionsOf key (matchingOps settings.rules settings.bucketName listed) = [])
    (q : TaggingOperation → Bool) :
    versionsOf key (matchingOps settings.rules settings.bucketName (listed.filter q)) = [] := by
  have part : (versionsOf key
      (matchingOps settings.rules settings.bucketName (listed.filter q))).Sublist
      (versionsOf key (matchingOps settings.rules settings.bucketName listed)) :=
    ((List.filter_sublist.filter _).filter _).map _
  rwa [none, List.sublist_nil] at part

theorem head?_requests (key : String) : (requests settings ops start key).head? =
    (versionsOf key (matchingOps settings.rules settings.bucketName (distinctOps ops))).head? := by
  rw [requests]
  cases all : versionsOf key (matchingOps settings.rules settings.bucketName (distinctOps ops)) with
  | nil =>
    rw [freshOps, versionsOf_filter_nil all]
    rfl
  | cons first rest => rfl

/-- What a later run finds eligible for a key is what no run has served. -/
theorem eligibleVersions (static : ReadsStatic settings ops start)
    (submitted : refsAt settings ops start ≠ [])
    (key : String) (n : Nat) :
    versionsOf key (matchingOps settings.rules settings.bucketName
      (selectEligible settings ops (checkpointAt settings ops start (n + 1))).dedupedOps) =
      (versionsOf key (matchingOps settings.rules settings.bucketName
        (freshOps settings ops start))).filter
        fun version => ∀ i < n + 1, servedOf settings ops start key i ≠ some version := by
  have split : (selectEligible settings ops (checkpointAt settings ops start (n + 1))).dedupedOps =
      (freshOps settings ops start).filter fun op =>
        ∀ i < n + 1, op.triple ∉ (manifestOf settings ops start i).map ManifestEntry.triple := by
    rw [dedupedOps_static static, freshOps, List.filter_filter]
    refine List.filter_congr fun op member => ?_
    rw [Bool.eq_iff_iff, isEligible_run_iff static submitted member (n + 1)]
    simp [and_comm]
  rw [split]
  refine versionsOf_filter key _ _ _ fun op _ bucket here => decide_eq_decide.mpr ?_
  refine forall₂_congr fun i _ => not_congr ?_
  rw [manifestOf, triple_mem_manifestAt_iff, here]
  exact and_iff_right bucket

/-- Without a ref no operation of the first run matched, nor of any other. -/
theorem servedOf_unsubmitted (static : ReadsStatic settings ops start)
    (none : refsAt settings ops start = [])
    (key : String) (n : Nat) :
    servedOf settings ops start key n = Option.none ∧ requests settings ops start key = [] := by
  have unmatched : versionsOf key
      (matchingOps settings.rules settings.bucketName (distinctOps ops)) = [] := by
    by_contra some
    obtain ⟨version, first⟩ := Option.isSome_iff_exists.mp (List.isSome_head?.mpr some)
    obtain ⟨op, listed, rfl⟩ := List.mem_map.mp (List.mem_of_mem_head? first)
    obtain ⟨matching, here⟩ := List.mem_filter.mp listed
    obtain ⟨member, own⟩ := List.mem_filter.mp matching
    obtain rfl : op.objectKey = key := of_decide_eq_true here
    have served := (servedOf_zero static op.objectKey).trans first
    have ref : (⟨op.logicalOperationId, op.watermark⟩ : ProcessedRef) ∈ refsAt settings ops start :=
      (mem_refsAt_iff static).mpr ⟨op, member, static.eligible op member,
        triple_mem_manifestAt_iff.mpr ⟨(of_decide_eq_true own).1, served⟩, rfl⟩
    rw [none] at ref
    cases ref
  constructor
  · rw [servedOf, servedAt, dedupedOps_static static, versionsOf_filter_nil unmatched]
    rfl
  · rw [requests, unmatched, freshOps, versionsOf_filter_nil unmatched]
    rfl

/-- Each run serves the first version of the key that no run before it served. -/
theorem serves_key (static : ReadsStatic settings ops start) (key : String) :
    OneByOne.Serves (requests settings ops start key) (servedOf settings ops start key) := by
  intro n
  by_cases submitted : refsAt settings ops start = []
  · obtain ⟨served, empty⟩ := servedOf_unsubmitted static submitted key n
    rw [served, empty]
    rfl
  cases n with
  | zero =>
    rw [servedOf_zero static, ← @head?_requests settings ops start]
    simp
  | succ n =>
    have zero := servedOf_zero static key
    rw [servedOf, servedAt, eligibleVersions static submitted, requests, List.filter_append]
    cases first : (versionsOf key
      (matchingOps settings.rules settings.bucketName (distinctOps ops))).head? with
    | none => rfl
    | some version =>
      rw [first] at zero
      have taken : ¬ ∀ i < n + 1, servedOf settings ops start key i ≠ some version :=
        fun open_ => open_ 0 (Nat.zero_lt_succ n) zero
      rw [Option.toList_some, List.filter_cons_of_neg (by rw [decide_eq_true_eq]; exact taken),
        List.filter_nil, List.nil_append]

theorem mem_manifestOf_eq (static : ReadsStatic settings ops start)
    {entry : ManifestEntry} (n : Nat) :
    entry ∈ manifestOf settings ops start n ↔ entry.sourceBucket = settings.bucketName ∧
      (requests settings ops start entry.objectKey).eraseDups[n]? = some entry.versionId := by
  rw [mem_manifestOf_iff, (serves_key static entry.objectKey).eq n]

/-- No operation of a version that a run submitted is found by a later run. -/
theorem submitted_not_eligible (static : ReadsStatic settings ops start) (later : n < k)
    (found : op ∈ (selectEligibleOperations ops (checkpointAt settings ops start k)
      settings.lookback).eligible) :
    op.triple ∉ (manifestOf settings ops start n).map ManifestEntry.triple := by
  obtain ⟨member, eligible⟩ := mem_eligible_iff.mp found
  by_cases submitted : refsAt settings ops start = []
  · intro listed
    obtain ⟨_, served⟩ := triple_mem_manifestAt_iff.mp listed
    have none := (servedOf_unsubmitted static submitted op.objectKey n).1
    cases served.symm.trans none
  · exact ((isEligible_run_iff static submitted member k).mp eligible).2 n later

/-- The runs drain the versions of every key in order exactly when no id that
the first run finds recorded, and keeps, holds a waiting version back or puts
it behind another. -/
theorem versions_drain_iff (static : ReadsStatic settings ops start) :
    Drains settings ops start ↔ KeepsOrder settings ops start := by
  constructor
  · intro drains key
    refine List.ext_getElem? fun n => Option.ext fun version => ?_
    have taken := @mem_manifestOf_eq settings ops start static ⟨settings.bucketName, key, version⟩ n
    rw [drains.manifests] at taken
    simpa using taken.symm
  · intro keeps
    refine ⟨fun n entry => ?_, fun n => finalize_nodup _ _, fun k rounds key version listed => ?_,
      fun k _ op found n later => submitted_not_eligible static later found⟩
    · rw [mem_manifestOf_eq static, keeps]
    · have once := (serves_key static key).once (List.mem_eraseDups.mp (keeps key ▸ listed))
        (keeps key ▸ rounds key)
      simpa [mem_manifestOf_iff] using once

end Order

section Identities
variable {settings : Settings} {ops : List TaggingOperation} {start : CheckpointState}

/-- Deduplication keeps the ids in the order of their first record. -/
theorem ids_dedupe (valid : List TaggingOperation) :
    (dedupe valid).map TaggingOperation.logicalOperationId =
      (valid.map TaggingOperation.logicalOperationId).eraseDups := by
  rw [dedupe, (keeps_dedupe valid).map_values, keepNewest_eq_keep]
  induction valid using List.reverseRecOn with
  | nil => rfl
  | append_singleton earlier last ih =>
    rw [List.foldl_append, List.foldl_cons, List.foldl_nil, KeepBest.keys_keep, ih, List.map_append,
      List.map_singleton, OneByOne.eraseDups_concat]
    simp only [List.mem_eraseDups]

/-- Records with one id are of one object version, and match alike. -/
def IdsTellApart (settings : Settings) (ops : List TaggingOperation) : Prop :=
  ∀ first ∈ ops, ∀ second ∈ ops, first.logicalOperationId = second.logicalOperationId →
    first.triple = second.triple ∧ (RuleMatcher.Matches settings.rules first ↔
      RuleMatcher.Matches settings.rules second)

/-- The version a record proposes for a key. -/
def proposedVersion (settings : Settings) (key : String)
    (op : TaggingOperation) : Option (Option String) :=
  if op.objectKey = key ∧ op.sourceBucket = settings.bucketName ∧
      RuleMatcher.Matches settings.rules op then
    some op.operationVersion
  else none

theorem versionsOf_eq_filterMap (key : String) (listed : List TaggingOperation) :
    versionsOf key (matchingOps settings.rules settings.bucketName listed) =
      listed.filterMap (proposedVersion settings key) := by
  rw [versionsOf, matchingOps, List.filter_filter, ← List.filterMap_eq_filter,
    ← List.filterMap_eq_map, List.filterMap_filterMap]
  refine List.filterMap_congr fun op _ => ?_
  rw [proposedVersion]
  by_cases here : op.objectKey = key <;> by_cases own : op.sourceBucket = settings.bucketName <;>
    by_cases matching : RuleMatcher.Matches settings.rules op
      <;> simp [here, own, matching, Option.guard]

/-- With ids that tell records apart, deduplication keeps the order of the versions. -/
theorem versions_dedupe (apart : IdsTellApart settings valid) (key : String) :
    (versionsOf key (matchingOps settings.rules settings.bucketName (dedupe valid))).eraseDups =
      (versionsOf key (matchingOps settings.rules settings.bucketName valid)).eraseDups := by
  have byId : ∃ ofId : String → Option (Option String), ∀ op ∈ valid,
      proposedVersion settings key op = ofId op.logicalOperationId := by
    refine ⟨fun id => (valid.find? fun op => op.logicalOperationId = id).bind
      (proposedVersion settings key), ?_⟩
    intro op member
    have listed : (valid.find? fun other =>
        other.logicalOperationId = op.logicalOperationId).isSome := by
      rw [List.find?_isSome]
      exact ⟨op, member, decide_eq_true rfl⟩
    obtain ⟨other, found⟩ := Option.isSome_iff_exists.mp listed
    have same : other.logicalOperationId = op.logicalOperationId := by
      simpa using List.find?_some found
    obtain ⟨triple, matching⟩ := apart other (List.mem_of_find?_eq_some found) op member same
    obtain ⟨bucket, rest⟩ := Prod.mk.inj triple
    obtain ⟨objectKey, version⟩ := Prod.mk.inj rest
    simp only [found, Option.bind_some, proposedVersion, bucket, objectKey, version, matching]
  obtain ⟨ofId, translated⟩ := byId
  have through : ∀ listed : List TaggingOperation, (∀ op ∈ listed, op ∈ valid) →
      versionsOf key (matchingOps settings.rules settings.bucketName listed) =
        (listed.map TaggingOperation.logicalOperationId).filterMap ofId := by
    intro listed sub
    rw [versionsOf_eq_filterMap, List.filterMap_map]
    exact List.filterMap_congr fun op member => translated op (sub op member)
  rw [through _ fun _ member => mem_dedupe_sound member, through _ fun _ member => member,
    ids_dedupe, OneByOne.eraseDups_filterMap]

/-- Nothing is held back when the window the first run finds holds no id of the journal. -/
theorem keepsOrder_of_unrecorded (apart : IdsTellApart settings (ops.filter isValid))
    (unrecorded : ∀ op ∈ distinctOps ops, ¬ RecordedBefore settings ops start op) :
    KeepsOrder settings ops start := by
  intro key
  have fresh : freshOps settings ops start = distinctOps ops :=
    List.filter_eq_self.mpr fun op member => decide_eq_true (unrecorded op member)
  rw [versionOrder, ← versions_dedupe apart, requests, fresh, ← distinctOps]
  cases versionsOf key (matchingOps settings.rules settings.bucketName (distinctOps ops)) with
  | nil => rfl
  | cons first rest => simp [List.eraseDups_cons]

end Identities

section Sample
open Settings

instance : Decidable (IdsTellApart settings ops) :=
  inferInstanceAs (Decidable (∀ first ∈ ops, ∀ second ∈ ops, _ → _ ∧ (_ ↔ _)))

def versionOp (version keep : String) (instant : Instant) : TaggingOperation :=
  { photosOp "ant" keep instant with
    operationVersion := some version, sequenceNumber := toString instant }

/-- Two matched versions, the first of them tagged twice, and one that no rule matches. -/
def interleaved : List TaggingOperation :=
  [versionOp "v1" "yes" 15, versionOp "v2" "yes" 16,
    { versionOp "v1" "yes" 17 with resultingTagSet := some (Dict.ofList
      [("keep", "yes"), ("owner", "lab")]) },
    versionOp "v3" "no" 18]

def seededAt (instant : Instant) : CheckpointState := ⟨"photos", toWatermark instant, none, []⟩

theorem reads_interleaved : ReadsStatic photos interleaved (seededAt 14) :=
  ⟨by decide +kernel, by decide +kernel, by decide +kernel⟩

theorem versions_drain_interleaved : Drains photos interleaved (seededAt 14) :=
  (versions_drain_iff reads_interleaved).mpr
    (keepsOrder_of_unrecorded (by decide +kernel) (by decide +kernel))

example : manifestOf photos interleaved (seededAt 14) 1 =
    [⟨"photos", "ant", some "v2"⟩] := by decide +kernel

/-- Two versions tagged again as they were before, the second of them at 13. -/
def retaggedVersions : List TaggingOperation := [versionOp "v1" "yes" 15, versionOp "v2" "yes" 16]

def recordedOnce : CheckpointState :=
  ⟨"photos", toWatermark 14, none, [⟨(versionOp "v2" "yes" 13).logicalOperationId, toWatermark 13⟩]⟩

/-- The second version waits one run, and is then taken for what was submitted before. -/
theorem versions_not_drained :
    ¬ ∀ settings ops start, ReadsStatic settings ops start →
      (∀ op ∈ ops, isEligible op start settings.lookback) →
      ops.Pairwise (fun first second => first.eventTime ≤ second.eventTime) →
      Drains settings ops start := by
  intro drained
  have drains := drained photos retaggedVersions recordedOnce
    ⟨by decide +kernel, by decide +kernel, by decide +kernel⟩
      (by decide +kernel) (by decide +kernel)
  have second := (drains.manifests 1 ⟨"photos", "ant", some "v2"⟩).mpr (by decide +kernel)
  exact absurd second (by decide +kernel)

/-- The same from a journal that still has the earlier records of both versions. -/
example : manifestOf photos ([versionOp "v1" "yes" 12, versionOp "v2" "yes" 13] ++ retaggedVersions)
    ⟨"photos", toWatermark 14, none,
      [⟨(versionOp "v1" "yes" 12).logicalOperationId, toWatermark 12⟩,
        ⟨(versionOp "v2" "yes" 13).logicalOperationId, toWatermark 13⟩]⟩ 1 = [] := by decide +kernel

end Sample
end ReplicateOnTag.Orchestrator

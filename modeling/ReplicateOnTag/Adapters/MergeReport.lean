import ReplicateOnTag.Library.ConditionalStore
import ReplicateOnTag.Adapters.CompletionState
import Mathlib.Data.Finset.Card
import Mathlib.Data.List.Range
import Mathlib.Data.Finset.Basic

/-! Where the put of `merge_completion_report` goes. The eviction loop reuses
the variable holding the object key, so the put misses the state object exactly
when an item is evicted. -/
namespace ReplicateOnTag.StateStore
open ConditionalStore

section Eviction

theorem mem_evictedKeys (member : key ∈ evictedKeys protectedKeys excess keys) :
    key ∈ keys ∧ key ∉ protectedKeys := by
  induction keys generalizing excess with
  | nil => cases excess <;> simp [evictedKeys] at member
  | cons head rest ih =>
    cases excess with
    | zero => simp [evictedKeys] at member
    | succ excess =>
      by_cases kept : head ∈ protectedKeys
      · rw [evictedKeys, if_pos kept] at member
        exact ⟨List.mem_cons_of_mem _ (ih member).1, (ih member).2⟩
      · rw [evictedKeys, if_neg kept] at member
        rcases List.mem_cons.mp member with rfl | later
        · exact ⟨List.mem_cons_self, kept⟩
        · exact ⟨List.mem_cons_of_mem _ (ih later).1, (ih later).2⟩

theorem evictedKeys_eq_nil_iff :
    evictedKeys protectedKeys excess keys = [] ↔ excess = 0 ∨
      ∀ key ∈ keys, key ∈ protectedKeys := by
  induction keys generalizing excess with
  | nil => cases excess <;> simp [evictedKeys]
  | cons head rest ih =>
    cases excess with
    | zero => simp [evictedKeys]
    | succ excess =>
      by_cases kept : head ∈ protectedKeys
      · simp [evictedKeys, kept, ih]
      · simp [evictedKeys, kept]

theorem evicted_eq_nil_iff (entries : Dict String ν) (ceiling : Nat) (protectedKeys : List String) :
    (evictSideMapAboveCeiling entries ceiling protectedKeys).2 = [] ↔
      entries.size ≤ ceiling ∨ ∀ key ∈ entries.keys, key ∈ protectedKeys := by
  rw [evictSideMapAboveCeiling, evictedKeys_eq_nil_iff, Nat.sub_eq_zero_iff_le]

/-- Protected entries survive with their values. -/
theorem evict_keeps (entries : Dict String ν) (ceiling : Nat) (kept : key ∈ protectedKeys) :
    (evictSideMapAboveCeiling entries ceiling protectedKeys).1.get? key = entries.get? key := by
  have survives : key ∉ (evictSideMapAboveCeiling entries ceiling protectedKeys).2 :=
    fun evicted => (mem_evictedKeys evicted).2 kept
  simp only [evictSideMapAboveCeiling] at survives ⊢
  rw [Dict.get?_filter]
  cases entries.get? key <;> simp [Option.filter, survives]

end Eviction

section Keys

/-- The separator every item key contains and no state object key does. -/
def separator : Char := '\x00'

theorem separator_mem_itemKey (objectKey : String) (versionId : Option String) :
    separator ∈ (itemKey objectKey versionId).toList := by
  simp [itemKey, separator]

theorem separator_mem_variant (own : separator ∈ key.toList)
    (variant : other ∈ sideMapKeyVariants key) :
    separator ∈ other.toList := by
  rw [sideMapKeyVariants] at variant
  split at variant
  · simp only [List.mem_cons, List.not_mem_nil, or_false] at variant
    rcases variant with rfl | rfl
    · exact own
    · simp [separator]
  · rw [List.mem_singleton.mp variant]
    exact own

theorem separator_not_mem_stateObjectKey (plain : separator ∉ bucket.toList) :
    separator ∉ (stateObjectKey bucket).toList := by
  simp [stateObjectKey, separator] at plain ⊢
  exact plain

theorem shadowedKey_nil : shadowedKey bucket [] = stateObjectKey bucket := rfl

theorem sideMapKeyVariants_ne_nil (key : String) : sideMapKeyVariants key ≠ [] := by
  rw [sideMapKeyVariants]
  split <;> simp

/-- After an eviction the put is sent to a key derived from the last evicted item. -/
theorem shadowedKey_ne (plain : separator ∉ bucket.toList) (some : evicted ≠ [])
    (items : ∀ key ∈ evicted, separator ∈ key.toList) :
    shadowedKey bucket evicted ≠ stateObjectKey bucket := by
  have last := List.getLast?_eq_some_getLast some
  have variant := List.getLast?_eq_some_getLast (sideMapKeyVariants_ne_nil (evicted.getLast some))
  intro same
  apply separator_not_mem_stateObjectKey plain
  rw [← same, shadowedKey, last]
  simp only [variant, Option.getD_some]
  exact separator_mem_variant (items _ (List.getLast_mem some)) (List.getLast_mem _)

end Keys

section Merging
variable (ctx : MergeContext)

theorem mem_keys_mergeRow (items : Dict String TrackedObject) (row : ReportRow) (key : String) :
    key ∈ (mergeRow ctx items row).keys ↔ key = rowKey row ∨ key ∈ items.keys := by
  simp only [mergeRow]
  split
  · rename_i superseded
    refine ⟨.inr, fun either => either.elim (fun same => ?_) id⟩
    subst key
    rw [Dict.mem_keys_iff]
    cases stored : items.get? (rowKey row) with
    | some item => exact ⟨item, rfl⟩
    | none =>
      rw [rowKey] at stored
      simp [stored, freshItem] at superseded
  · exact Dict.mem_keys_upsert

theorem mem_keys_foldl_mergeRow (rows : List ReportRow) (items : Dict String TrackedObject)
    (key : String) :
    key ∈ (rows.foldl (mergeRow ctx) items).keys ↔ key ∈ rows.map rowKey ∨ key ∈ items.keys := by
  induction rows generalizing items with
  | nil => simp
  | cons row rest ih =>
    rw [List.foldl_cons, ih, mem_keys_mergeRow, List.map_cons, List.mem_cons]
    tauto

theorem mem_keys_merged (report : BopsCompletionReport) (payload : Payload) (key : String) :
    key ∈ (mergedItems ctx report payload).keys ↔
      key ∈ report.entries.map rowKey ∨ key ∈ payload.completionItems.keys :=
  mem_keys_foldl_mergeRow ctx _ _ _

/-- Every stored item and every row of the report has one entry after merging. -/
theorem merged_size (report : BopsCompletionReport) (payload : Payload) :
    (mergedItems ctx report payload).size =
      (payload.completionItems.keys.toFinset ∪ (report.entries.map rowKey).toFinset).card := by
  have keys : (mergedItems ctx report payload).keys.toFinset =
      payload.completionItems.keys.toFinset ∪ (report.entries.map rowKey).toFinset := by
    ext key
    simp only [List.mem_toFinset, Finset.mem_union, mem_keys_merged, or_comm]
  rw [← keys, List.toFinset_card_of_nodup (Dict.keys_nodup _), Dict.length_keys]

end Merging

/-- Nothing is evicted: the stored items and the report's objects fit the
ceiling together, or the report covers every stored item. -/
def FitsCeiling (report : BopsCompletionReport) (payload : Payload) : Prop :=
  (payload.completionItems.keys.toFinset ∪ (report.entries.map rowKey).toFinset).card ≤
      completionSideMapCeiling ∨
    ∀ key ∈ payload.completionItems.keys, key ∈ report.entries.map rowKey

def ValidReport (report : BopsCompletionReport) : Prop :=
  (report.entries.map ReportRow.identity).Nodup

/-- The objects of the state bucket, each under its own conditional writes. -/
abbrev Objects := String → Register Payload

/-- One call: the key its put addressed, if any, and the objects afterwards. -/
structure MergeCall where
  addressed : Option String
  succeeded : Bool
  objects : Objects

/-- `StateStore.merge_completion_report` against the bucket's objects. -/
def callMergeCompletionReport (objects : Objects) (sourceBucket : String)
    (report : BopsCompletionReport)
    (replicationConfigId jobId : String) (jobCreatedAt : Instant) (timestamps : Option Timestamps)
    (currentEtag : Nat) : MergeCall :=
  match mergeCompletionReport sourceBucket report replicationConfigId jobId jobCreatedAt timestamps
      (objects (stateObjectKey sourceBucket)).content with
  | none => ⟨none, false, objects⟩
  | some request =>
      match (objects request.key).put currentEtag request.body with
      | none => ⟨some request.key, false, objects⟩
      | some register => ⟨some request.key, true, Function.update objects request.key register⟩

/-- The call writes one object, the state object, with the merged items of the
report and its job id, and addresses no other key. -/
def WritesStateObject (objects : Objects) (sourceBucket : String) (report : BopsCompletionReport)
    (replicationConfigId jobId : String) (jobCreatedAt : Instant) (timestamps : Option Timestamps)
    (call : MergeCall) : Prop :=
  let key := stateObjectKey sourceBucket
  let payload := payloadOrDefault sourceBucket (objects key).content
  let ctx := mergeContext sourceBucket report replicationConfigId jobId
    jobCreatedAt timestamps payload
  call.addressed = some key ∧ call.succeeded = true ∧
    ∃ body, call.objects = Function.update objects key ⟨body :: (objects key).writes⟩ ∧
      (∀ row ∈ report.entries, ∃ item,
        (mergedItems ctx report payload).get? (rowKey row) = some item ∧
        body.completionItems.get? (rowKey row) = some item) ∧
      jobId ∈ body.completionProcessedJobIds

section Call
variable {objects : Objects} {bucket : String} {report : BopsCompletionReport}
  {configId jobId : String} {createdAt : Instant} {timestamps : Option Timestamps}

theorem bounded_evicts_nothing_iff (ctx : MergeContext) (payload : Payload) :
    (boundedItems ctx report payload).2 = [] ↔ FitsCeiling report payload := by
  rw [boundedItems, evicted_eq_nil_iff, merged_size, FitsCeiling]
  apply or_congr_right
  simp only [mem_keys_merged]
  exact ⟨fun all key stored => all key (.inr stored), fun all key member =>
    member.elim id (all key)⟩

theorem evicted_are_items (ctx : MergeContext) (payload : Payload)
    (items : ∀ key ∈ payload.completionItems.keys, separator ∈ key.toList) :
    ∀ key ∈ (boundedItems ctx report payload).2, separator ∈ key.toList := by
  intro key member
  rcases (mem_keys_merged ctx report payload key).mp (mem_evictedKeys member).1 with fresh | stored
  · obtain ⟨row, _, rfl⟩ := List.mem_map.mp fresh
    exact separator_mem_itemKey _ _
  · exact items key stored

/-- A validated report always reaches its put. -/
theorem merge_requests (bucket configId jobId : String) (createdAt : Instant)
    (timestamps : Option Timestamps) (valid : ValidReport report) (stored : Option Payload) :
    mergeCompletionReport bucket report configId jobId createdAt timestamps stored =
      let payload := payloadOrDefault bucket stored
      let ctx := mergeContext bucket report configId jobId createdAt timestamps payload
      some ⟨shadowedKey bucket (boundedItems ctx report payload).2,
        mergedBody ctx report payload⟩ := by
  have distinct : (report.entries.map ReportRow.identity).Nodup := valid
  simp only [mergeCompletionReport, if_pos distinct]

theorem mergedBody_items (ctx : MergeContext) (payload : Payload) (member : row ∈ report.entries) :
    (mergedBody ctx report payload).completionItems.get? (rowKey row) =
      (mergedItems ctx report payload).get? (rowKey row) :=
  evict_keeps _ _ (List.mem_map_of_mem member)

/-- The put goes to the state object when nothing is evicted. -/
theorem writes_of_fits (valid : ValidReport report)
    (fits : FitsCeiling report
      (payloadOrDefault bucket (objects (stateObjectKey bucket)).content)) :
    WritesStateObject objects bucket report configId jobId createdAt timestamps
      (callMergeCompletionReport objects bucket report configId jobId createdAt timestamps
        (objects (stateObjectKey bucket)).token) := by
  have computed := merge_requests bucket configId jobId createdAt timestamps valid
    (objects (stateObjectKey bucket)).content
  simp only [(bounded_evicts_nothing_iff _ _).mpr fits, shadowedKey_nil] at computed
  simp only [callMergeCompletionReport, computed, Register.put, if_pos]
  refine ⟨rfl, rfl, _, rfl, fun row member => ?_, by simp [mergedBody, mergeContext]⟩
  obtain ⟨item, stored⟩ := Dict.mem_keys_iff.mp
    ((mem_keys_merged _ _ _ (rowKey row)).mpr (.inl (List.mem_map_of_mem member)))
  exact ⟨item, stored, (mergedBody_items _ _ member).trans stored⟩

/-- An eviction sends the put elsewhere. -/
theorem misses_of_eviction (configId jobId : String) (createdAt : Instant)
    (timestamps : Option Timestamps) (currentEtag : Nat) (valid : ValidReport report)
    (plain : separator ∉ bucket.toList)
    (items : ∀ key ∈ (payloadOrDefault bucket
      (objects (stateObjectKey bucket)).content).completionItems.keys, separator ∈ key.toList)
    (crowded : ¬ FitsCeiling report
      (payloadOrDefault bucket (objects (stateObjectKey bucket)).content)) :
    ∃ key ≠ stateObjectKey bucket,
      (callMergeCompletionReport objects bucket report configId jobId createdAt timestamps
        currentEtag).addressed = some key := by
  have computed := merge_requests bucket configId jobId createdAt timestamps valid
    (objects (stateObjectKey bucket)).content
  let payload := payloadOrDefault bucket (objects (stateObjectKey bucket)).content
  let ctx := mergeContext bucket report configId jobId createdAt timestamps payload
  refine ⟨_, shadowedKey_ne plain (fun none => crowded ((bounded_evicts_nothing_iff ctx _).mp none))
    (evicted_are_items ctx payload items), ?_⟩
  simp only [callMergeCompletionReport, computed]
  split <;> rfl

/-- A call that fails leaves every object as it was. -/
theorem failed_call_unchanged
    (failed : (callMergeCompletionReport objects bucket report configId jobId createdAt timestamps
      currentEtag).succeeded = false) :
    (callMergeCompletionReport objects bucket report configId jobId createdAt timestamps
      currentEtag).objects = objects := by
  rw [callMergeCompletionReport] at failed ⊢
  split
  · rfl
  · rename_i request computed
    simp only [computed] at failed
    split
    · rfl
    · rename_i register accepted
      simp [accepted] at failed

end Call

/-- At the current token the call writes the state object as it should; at any
token it addresses no other key and a failure changes nothing. -/
def AtomicOn (objects : Objects) (bucket : String) (report : BopsCompletionReport)
    (configId jobId : String) (createdAt : Instant) (timestamps : Option Timestamps) : Prop :=
  let call := callMergeCompletionReport objects bucket report configId jobId createdAt timestamps
  WritesStateObject objects bucket report configId jobId createdAt timestamps
      (call (objects (stateObjectKey bucket)).token) ∧
    ∀ currentEtag, (∀ key, (call currentEtag).addressed = some key → key = stateObjectKey bucket) ∧
      ((call currentEtag).succeeded = false → (call currentEtag).objects = objects)

theorem atomic_of_fits (valid : ValidReport report)
    (fits : FitsCeiling report
      (payloadOrDefault bucket (objects (stateObjectKey bucket)).content)) :
    AtomicOn objects bucket report configId jobId createdAt timestamps := by
  refine ⟨writes_of_fits valid fits, fun currentEtag =>
    ⟨fun key addressed => ?_, failed_call_unchanged⟩⟩
  have computed := merge_requests bucket configId jobId createdAt timestamps valid
    (objects (stateObjectKey bucket)).content
  simp only [(bounded_evicts_nothing_iff _ _).mpr fits, shadowedKey_nil] at computed
  simp only [callMergeCompletionReport, computed] at addressed
  split at addressed <;> exact (Option.some.inj addressed).symm

theorem fits_of_atomic (valid : ValidReport report) (plain : separator ∉ bucket.toList)
    (items : ∀ key ∈ (payloadOrDefault bucket
      (objects (stateObjectKey bucket)).content).completionItems.keys, separator ∈ key.toList)
    (atomic : AtomicOn objects bucket report configId jobId createdAt timestamps) :
    FitsCeiling report (payloadOrDefault bucket (objects (stateObjectKey bucket)).content) := by
  by_contra crowded
  obtain ⟨key, elsewhere, addressed⟩ :=
    misses_of_eviction configId jobId createdAt timestamps 0 valid plain items crowded
  exact elsewhere ((atomic.2 0).1 key addressed)

/-- A merge that fits the ceiling is atomic on the state object; on a store that
only holds item keys, no other merge is. -/
theorem merge_atomic_iff_fits (objects : Objects) (bucket : String) (report : BopsCompletionReport)
    (configId jobId : String) (createdAt : Instant) (timestamps : Option Timestamps)
    (valid : ValidReport report) :
    let payload := payloadOrDefault bucket (objects (stateObjectKey bucket)).content
    (FitsCeiling report payload →
      AtomicOn objects bucket report configId jobId createdAt timestamps) ∧
    (separator ∉ bucket.toList → (∀ key ∈ payload.completionItems.keys, separator ∈ key.toList) →
      (AtomicOn objects bucket report configId jobId createdAt timestamps ↔
        FitsCeiling report payload)) :=
  ⟨atomic_of_fits valid, fun plain items =>
    ⟨fits_of_atomic valid plain items, atomic_of_fits valid⟩⟩

section Crowded

/-- The `n`-th of distinct stored objects. -/
def crowdedObject (n : Nat) : String := String.ofList (List.replicate n 'a')

def crowdedItem (n : Nat) : TrackedObject :=
  { sourceBucket := "b", objectKey := crowdedObject n, versionId := some "v", configs := .empty
    state := .resolved, resolvedAt := some 1, resolutionMethod := some "bops_completion_report"
    replicationOutcome := some "COMPLETE", taggedAt := none, lastModified := none
    matchedRules := [], destinations := [] }

theorem crowdedKey_injective : Function.Injective fun n =>
    itemKey (crowdedObject n) (some "v") := by
  intro first second same
  have lengths := congrArg String.length same
  simpa [itemKey, crowdedObject] using lengths

/-- As many items as the ceiling allows. -/
def crowdedItems : Dict String TrackedObject where
  entries := (List.range completionSideMapCeiling).map fun n =>
    (itemKey (crowdedObject n) (some "v"), crowdedItem n)
  distinct := by
    rw [List.map_map]
    exact List.nodup_range.map crowdedKey_injective

def crowdedPayload : Payload := { Payload.ofCheckpoint ⟨"b", Watermark.toWatermark 1, none, []⟩ with
  completionItems := crowdedItems }

def crowdedObjects : Objects :=
  fun key => if key = stateObjectKey "b" then ⟨[crowdedPayload]⟩ else ⟨[]⟩

def oneRowReport : BopsCompletionReport := ⟨5, [⟨"new", some "v", some "succeeded"⟩]⟩

theorem crowdedObjects_content :
    payloadOrDefault "b" (crowdedObjects (stateObjectKey "b")).content = crowdedPayload := rfl

theorem mem_crowdedKeys :
    key ∈ crowdedPayload.completionItems.keys ↔
      ∃ n < completionSideMapCeiling, itemKey (crowdedObject n) (some "v") = key := by
  simp [crowdedPayload, crowdedItems, Dict.keys]

theorem new_not_stored : itemKey "new" (some "v") ∉ crowdedPayload.completionItems.keys := by
  rw [mem_crowdedKeys]
  rintro ⟨n, _, same⟩
  have member : 'n' ∈ (itemKey (crowdedObject n) (some "v")).toList := by
    rw [same]
    decide
  simp [itemKey, crowdedObject] at member

theorem crowded_not_fits : ¬ FitsCeiling oneRowReport crowdedPayload := by
  rintro (small | covered)
  · have stored : crowdedPayload.completionItems.keys.toFinset.card = completionSideMapCeiling := by
      rw [List.toFinset_card_of_nodup (Dict.keys_nodup _), Dict.length_keys]
      simp [crowdedPayload, crowdedItems, Dict.size]
    have fresh : itemKey "new" (some "v") ∉ crowdedPayload.completionItems.keys.toFinset := by
      rw [List.mem_toFinset]
      exact new_not_stored
    have grown := Finset.card_insert_of_notMem fresh
    rw [stored] at grown
    have shape : crowdedPayload.completionItems.keys.toFinset ∪
        (oneRowReport.entries.map rowKey).toFinset =
          insert (itemKey "new" (some "v")) crowdedPayload.completionItems.keys.toFinset := by
      ext key
      simp [oneRowReport, rowKey, or_comm]
    rw [shape, grown] at small
    omega
  · have first : itemKey (crowdedObject 0) (some "v") ∈ crowdedPayload.completionItems.keys :=
      mem_crowdedKeys.mpr ⟨0, by simp [completionSideMapCeiling], rfl⟩
    have same := covered _ first
    revert same
    decide

theorem items_of_crowded : ∀ key ∈ crowdedPayload.completionItems.keys, separator ∈ key.toList := by
  intro key stored
  obtain ⟨n, _, rfl⟩ := mem_crowdedKeys.mp stored
  exact separator_mem_itemKey _ _

/-- A second report of an object that is stored already. -/
def knownRowReport : BopsCompletionReport := ⟨5, [⟨crowdedObject 1, some "v", some "failed"⟩]⟩

theorem known_fits : FitsCeiling knownRowReport crowdedPayload := by
  have known : itemKey (crowdedObject 1) (some "v") ∈ crowdedPayload.completionItems.keys :=
    mem_crowdedKeys.mpr ⟨1, by simp [completionSideMapCeiling], rfl⟩
  have listed : (knownRowReport.entries.map rowKey).toFinset ⊆
      crowdedPayload.completionItems.keys.toFinset := by
    intro key member
    obtain rfl : key = itemKey (crowdedObject 1) (some "v") := by
      simpa [knownRowReport, rowKey] using member
    exact List.mem_toFinset.mpr known
  refine .inl ?_
  rw [Finset.union_eq_left.mpr listed, List.toFinset_card_of_nodup (Dict.keys_nodup _),
    Dict.length_keys]
  simp [crowdedPayload, crowdedItems, Dict.size]

/-- With the ceiling reached, a report of a stored object is merged in one put of the state
object, and a report of a new one is not. -/
theorem merge_atomic_at_ceiling :
    AtomicOn crowdedObjects "b" knownRowReport "b" "job-2" 3 none ∧
      ¬ AtomicOn crowdedObjects "b" oneRowReport "b" "job-2" 3 none := by
  have valid : ValidReport knownRowReport := by simp [ValidReport, knownRowReport]
  have valid' : ValidReport oneRowReport := by simp [ValidReport, oneRowReport]
  have plain : separator ∉ "b".toList := by decide
  exact ⟨(merge_atomic_iff_fits crowdedObjects "b" knownRowReport "b" "job-2" 3 none valid).1
      known_fits, fun atomic =>
    crowded_not_fits (((merge_atomic_iff_fits crowdedObjects "b" oneRowReport "b" "job-2"
      3 none valid').2 plain
      items_of_crowded).mp atomic)⟩

/-- With the ceiling reached, one more object makes the put miss the state object. -/
theorem merge_not_atomic_when_crowded :
    ¬ ∀ objects bucket report configId jobId createdAt timestamps, ValidReport report →
      AtomicOn objects bucket report configId jobId createdAt timestamps := by
  intro always
  have atomic := always crowdedObjects "b" oneRowReport "b" "job-1" 3 none
    (by simp [ValidReport, oneRowReport])
  apply crowded_not_fits
  rw [← crowdedObjects_content]
  exact fits_of_atomic (by simp [ValidReport, oneRowReport]) (by decide) items_of_crowded atomic

end Crowded
end ReplicateOnTag.StateStore

import ReplicateOnTag.Adapters.MergeOrder
import ReplicateOnTag.Orchestrator.PublishPhase
import ReplicateOnTag.Orchestrator.RunSteps

/-! What the steps of a run do to the items and the processed job ids: a merge
of a job that was not processed before, or nothing. -/
namespace ReplicateOnTag.Orchestrator
open StateStore

/-- The job an item's outcome comes from. -/
def contextJob (bucket : String) (item : TrackedObject) : Option String :=
  (item.configs.get? bucket).map ConfigContext.jobId

def processedJobIds (bucket : String) (stored : Option Payload) : List String :=
  (payloadOrDefault bucket stored).completionProcessedJobIds

section Steps
variable {settings : Settings} {env : RunEnv} {found stored : Option Payload}

/-- A merge that reaches the object evicts nothing. -/
theorem merge_evicts_none (plain : separator ∉ settings.bucketName.toList)
    (keys : ∀ key ∈ (itemsOf settings.bucketName stored).keys, separator ∈ key.toList)
    (applied : (StateOp.mergeCompletionReport report configId jobId createdAt timestamps).apply
      settings.bucketName stored = some after) :
    (boundedItems (mergeContext settings.bucketName report configId jobId createdAt timestamps
      (payloadOrDefault settings.bucketName stored)) report
        (payloadOrDefault settings.bucketName stored)).2 =
        [] := by
  obtain ⟨valid, _⟩ := merge_applied applied
  by_contra evicts
  have elsewhere := shadowedKey_ne plain evicts (evicted_are_items _ _ keys)
  have computed := merge_requests settings.bucketName configId jobId createdAt
    timestamps valid stored
  simp only [StateOp.apply, StateOp.program, ConditionalStore.Update.atomically, StateOp.compute,
    computed, Option.bind_some, if_neg elsewhere] at applied
  cases applied

theorem merge_evicts_nothing (plain : separator ∉ settings.bucketName.toList)
    (keys : ∀ key ∈ (itemsOf settings.bucketName stored).keys, separator ∈ key.toList)
    (applied : (StateOp.mergeCompletionReport report configId jobId createdAt timestamps).apply
      settings.bucketName stored = some after) :
    ∀ key ∈ (itemsOf settings.bucketName stored).keys, key ∈ after.completionItems.keys := by
  have none := merge_evicts_none plain keys applied
  obtain ⟨_, same⟩ := merge_applied applied
  generalize mergeContext settings.bucketName report configId jobId createdAt timestamps
    (payloadOrDefault settings.bucketName stored) = ctx at same none
  intro key listed
  have merged := (mem_keys_merged ctx report (payloadOrDefault settings.bucketName stored) key).mpr
    (.inr listed)
  rw [same]
  obtain ⟨item, present⟩ := Dict.mem_keys_iff.mp merged
  refine Dict.mem_keys_iff.mpr ⟨item, ?_⟩
  simp only [boundedItems, evictSideMapAboveCeiling] at none
  simp only [mergedBody, boundedItems, evictSideMapAboveCeiling, none, List.not_mem_nil,
    not_false_eq_true, decide_true, Dict.get?_filter, present]
  rfl

theorem itemsOf_frame {op : StateOp} (applied : op.apply bucket stored = some after)
    (foreign : PayloadKey.completionItems ∉ op.ownedKeys) : itemsOf bucket (some after) =
      itemsOf bucket stored :=
  Eq.symm (StateOp.frame applied foreign)

theorem processedIds_frame {op : StateOp} (applied : op.apply bucket stored = some after)
    (foreign : PayloadKey.completionProcessedJobIds ∉ op.ownedKeys) :
    processedJobIds bucket (some after) = processedJobIds bucket stored :=
  Eq.symm (StateOp.frame applied foreign)

theorem MergesRecorded.unprocessed
    (merges : MergesRecorded settings env found stored report jobId createdAt) :
    jobId ∉ processedJobIds settings.bucketName stored := by
  have unmerged := merges.unmerged
  cases stored with
  | none => exact List.not_mem_nil
  | some payload => simpa [completionJobExists, processedJobIds, payloadOrDefault] using unmerged

/-- A step of a run is a merge of an unprocessed job, or leaves the items and
the processed ids alone. -/
theorem step_cases (permitted : RunStep settings env chosen found stored op)
    (applied : op.apply settings.bucketName stored = some after) :
    (∃ report jobId createdAt, op =
        .mergeCompletionReport report settings.bucketName jobId createdAt none ∧
      jobId ∉ processedJobIds settings.bucketName stored) ∨
      (itemsOf settings.bucketName (some after) = itemsOf settings.bucketName stored ∧
        processedJobIds settings.bucketName (some after) =
          processedJobIds settings.bucketName stored) := by
  by_cases foreign : PayloadKey.completionItems ∈ op.ownedKeys
  · cases op with
    | mergeCompletionReport report configId jobId createdAt timestamps =>
      obtain ⟨rfl, rfl, merges⟩ := permitted
      exact .inl ⟨report, jobId, createdAt, rfl, merges.unprocessed⟩
    | deleteCompletionItems => exact permitted.elim
    | _ => simp [StateOp.ownedKeys, StateOp.checkpointKeys] at foreign
  · refine .inr ⟨itemsOf_frame applied foreign, processedIds_frame applied fun owned => foreign ?_⟩
    cases op with
    | mergeCompletionReport => simp [StateOp.ownedKeys]
    | _ => simp [StateOp.ownedKeys, StateOp.checkpointKeys] at owned

/-- What a merge leaves: items of before, and items with the outcome of its job. -/
theorem merge_items
    (applied : (StateOp.mergeCompletionReport report bucket jobId createdAt none).apply bucket
      stored = some after) :
    (∀ key item, (itemsOf bucket (some after)).get? key = some item →
      (itemsOf bucket stored).get? key = some item ∨
        separator ∈ key.toList ∧ contextJob bucket item = some jobId) ∧
    ∀ other, other ∈ processedJobIds bucket (some after) ↔ other = jobId ∨
      other ∈ processedJobIds bucket stored := by
  obtain ⟨_, rfl⟩ := merge_applied applied
  constructor
  · intro key item found
    have own : ∀ (row : ReportRow) (item : TrackedObject), contextJob bucket (resolve
        (mergeContext bucket report bucket jobId createdAt none
          (payloadOrDefault bucket stored)) row item) =
          some jobId := by
      intro row item
      simp only [contextJob, resolve, mergeContext, Dict.get?_insert_self, Option.map_some]
    refine mergedItems_all (fun key item => (itemsOf bucket stored).get? key = some item ∨
      separator ∈ key.toList ∧ contextJob bucket item = some jobId) (fun _ _ => .inl) ?_ ?_ key item
      (mergedBody_items_sub found)
    · exact fun row _ => .inr ⟨separator_mem_itemKey _ _, own row _⟩
    · exact fun row _ item _ => .inr ⟨separator_mem_itemKey _ _, own row item⟩
  · intro other
    simp [processedJobIds, payloadOrDefault, mergedBody, mergeContext]

end Steps
end ReplicateOnTag.Orchestrator

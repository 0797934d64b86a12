import ReplicateOnTag.Core.CompletionTracker
import ReplicateOnTag.Orchestrator.Environment
import Mathlib.Data.List.Flatten

/-! The publish phase that follows a run: ready items are reported in batches,
and those of delivered batches leave the state object. -/
namespace ReplicateOnTag.Orchestrator
open StateStore CompletionTracker

/-- The replies a publish phase meets; batches are counted from zero. -/
structure PublishEnv where
  now : Instant
  readsItems : Bool
  readsScanState : Bool
  readsCheckpoint : Bool
  groupBytes : GroupKey → List TrackedObject → Nat
  publishes : Nat → Bool
  deletes : WriteReply

/-- Every call succeeds and a group takes one byte. -/
def PublishEnv.smooth (now : Instant) : PublishEnv :=
  { now
    readsItems := true
    readsScanState := true
    readsCheckpoint := true
    groupBytes := fun _ _ => 1
    publishes := fun _ => true
    deletes := .served }

structure PublishReport where
  batches : List (List Listed)
  delivered : List (List Listed)
  stored : Option Payload

def completionItemsOf (stored : Option Payload) : Dict String TrackedObject :=
  (stored.map Payload.completionItems).getD .empty

def scanStateOf (stored : Option Payload) : Dict String ScanState :=
  (stored.map Payload.completionScanState).getD .empty

/-- Items as they are published, under their stored keys. -/
def publishableItems (items : Dict String TrackedObject)
    (scanStateByConfig : Dict String ScanState) :
    List Listed :=
  (items.mapValues fun _ item => resolveLegacyItem item).entries.filter fun entry =>
    shouldPublish entry.2 scanStateByConfig

def deliveredBatches (publishes : Nat → Bool) (batches : List (List Listed)) : List (List Listed) :=
  (batches.zipIdx.filter fun numbered => publishes numbered.2).map Prod.fst

def deliveredKeys (delivered : List (List Listed)) : List String := delivered.flatten.map Prod.fst

/-- The delete that follows the publishes; its failure is logged and swallowed. -/
def deletePublished (settings : Settings) (env : PublishEnv) (itemKeys : List String)
    (stored : Option Payload) : Option Payload :=
  if itemKeys.isEmpty || !env.readsCheckpoint ||
      (getCheckpoint env.now settings.bucketName stored).isNone then stored
  else
    match env.deletes with
    | .refused => stored
    | .served | .lost => some (deleteCompletionItems settings.bucketName itemKeys stored)

/-- `_run_completion_tracking_interval` for one bucket. -/
def publishPhase (settings : Settings) (env : PublishEnv)
    (stored : Option Payload) : PublishReport :=
  if !settings.completionTracking || !env.readsItems then ⟨[], [], stored⟩
  else
    let scanState := if env.readsScanState then scanStateOf stored else .empty
    let batches :=
      chunkItemsForReport env.groupBytes (publishableItems (completionItemsOf stored) scanState)
    let delivered := deliveredBatches env.publishes batches
    ⟨batches, delivered, deletePublished settings env (deliveredKeys delivered) stored⟩

section Phase
variable {settings : Settings} {env : PublishEnv} {stored : Option Payload}

theorem deletePublished_cases (settings : Settings) (env : PublishEnv) (itemKeys : List String)
    (stored : Option Payload) :
    deletePublished settings env itemKeys stored = stored ∨
      deletePublished settings env itemKeys stored =
        some (deleteCompletionItems settings.bucketName itemKeys stored) := by
  rw [deletePublished]
  split
  · exact .inl rfl
  · cases env.deletes with
    | refused => exact .inl rfl
    | served | lost => exact .inr rfl

theorem publishPhase_stored (settings : Settings) (env : PublishEnv) (stored : Option Payload) :
    (publishPhase settings env stored).stored = stored ∨
      (publishPhase settings env stored).stored =
        some (deleteCompletionItems settings.bucketName
          (deliveredKeys (publishPhase settings env stored).delivered) stored) := by
  rw [publishPhase]
  split
  · exact .inl rfl
  · exact deletePublished_cases settings env _ stored

/-- The phase writes nothing but the delete of what it delivered. -/
theorem publishPhase_evolves (settings : Settings) (env : PublishEnv) (stored : Option Payload) :
    Evolves settings.bucketName
      (fun op => op = .deleteCompletionItems
        (deliveredKeys (publishPhase settings env stored).delivered))
      stored (publishPhase settings env stored).stored := by
  rcases publishPhase_stored settings env stored with same | deleted
  · rw [same]
    exact .refl _
  · rw [deleted]
    exact .next (.refl _) rfl rfl

theorem mem_publishableItems {items : Dict String TrackedObject}
    {scanState : Dict String ScanState} :
    (key, item) ∈ publishableItems items scanState ↔
      ∃ stored, items.get? key = some stored ∧ item = resolveLegacyItem stored ∧
        shouldPublish item scanState := by
  simp only [publishableItems, List.mem_filter, Dict.mem_entries_iff, Dict.get?_mapValues,
    Option.map_eq_some_iff]
  constructor
  · rintro ⟨⟨found, present, rfl⟩, ready⟩
    exact ⟨found, present, rfl, ready⟩
  · rintro ⟨found, present, rfl, ready⟩
    exact ⟨⟨found, present, rfl⟩, ready⟩

theorem deliveredBatches_sublist (publishes : Nat → Bool) (batches : List (List Listed)) :
    (deliveredBatches publishes batches).Sublist batches := by
  have kept : (deliveredBatches publishes batches).Sublist (batches.zipIdx.map Prod.fst) :=
    (List.filter_sublist).map Prod.fst
  rwa [List.zipIdx_map_fst] at kept

/-- The batches hold every ready item once. -/
theorem batches_perm (reads : settings.completionTracking = true ∧ env.readsItems = true ∧
    env.readsScanState = true) :
    (publishPhase settings env stored).batches.flatten.Perm
      (publishableItems (completionItemsOf stored) (scanStateOf stored)) := by
  obtain ⟨tracks, items, scan⟩ := reads
  simp only [publishPhase, tracks, items, scan, Bool.not_true, Bool.or_self, Bool.false_eq_true,
    if_false, if_true]
  exact chunkItemsForReport_perm _ _

/-- What is delivered was stored, and ready as the phase read the scan state. -/
theorem delivered_stored
    (member : (key, item) ∈ (publishPhase settings env stored).delivered.flatten) :
    ∃ found, (completionItemsOf stored).get? key = some found ∧ item = resolveLegacyItem found := by
  simp only [publishPhase] at member
  split at member
  · cases member
  · obtain ⟨batch, listed, inside⟩ := List.mem_flatten.mp member
    have batched := (deliveredBatches_sublist _ _).mem listed
    have ready := (chunkItemsForReport_perm _ _).mem_iff.mp
      (List.mem_flatten.mpr ⟨batch, batched, inside⟩)
    obtain ⟨found, present, same, _⟩ := mem_publishableItems.mp ready
    exact ⟨found, present, same⟩

/-- No key is in two places of the batches of one phase. -/
theorem batchKeys_nodup (settings : Settings) (env : PublishEnv) (stored : Option Payload) :
    ((publishPhase settings env stored).batches.flatten.map Prod.fst).Nodup := by
  simp only [publishPhase]
  split
  · exact List.nodup_nil
  · refine ((chunkItemsForReport_perm _ _).map Prod.fst).nodup_iff.mpr ?_
    exact (Dict.keys_nodup _).sublist (List.filter_sublist.map Prod.fst)

theorem delivered_eq (settings : Settings) (env : PublishEnv) (stored : Option Payload) :
    (publishPhase settings env stored).delivered =
      deliveredBatches env.publishes (publishPhase settings env stored).batches := by
  simp only [publishPhase]
  split <;> rfl

/-- No key is delivered twice by one phase. -/
theorem deliveredKeys_nodup (settings : Settings) (env : PublishEnv) (stored : Option Payload) :
    (deliveredKeys (publishPhase settings env stored).delivered).Nodup := by
  rw [deliveredKeys, delivered_eq]
  exact ((deliveredBatches_sublist _ _).flatten.map Prod.fst).nodup
    (batchKeys_nodup settings env stored)

theorem mem_deliveredBatches {publishes : Nat → Bool} {batches : List (List Listed)} :
    batch ∈ deliveredBatches publishes batches ↔
      ∃ number, batches[number]? = some batch ∧ publishes number = true := by
  simp only [deliveredBatches, List.mem_map, List.mem_filter, Prod.exists,
    List.mem_zipIdx_iff_getElem?]
  constructor
  · rintro ⟨found, number, ⟨placed, published⟩, rfl⟩
    exact ⟨number, placed, published⟩
  · rintro ⟨number, placed, published⟩
    exact ⟨batch, number, ⟨placed, published⟩, rfl⟩

/-- The keys of a batch that was not published are not delivered. -/
theorem failed_not_delivered
    (placed : (publishPhase settings env stored).batches[number]? = some batch)
    (failed : env.publishes number = false) (member : entry ∈ batch) :
    entry.1 ∉ deliveredKeys (publishPhase settings env stored).delivered := by
  rw [deliveredKeys, delivered_eq]
  intro listed
  obtain ⟨other, flat, same⟩ := List.mem_map.mp listed
  obtain ⟨otherBatch, delivered, inside⟩ := List.mem_flatten.mp flat
  obtain ⟨otherNumber, otherPlaced, published⟩ := mem_deliveredBatches.mp delivered
  have apart := batchKeys_nodup settings env stored
  rw [List.map_flatten, List.nodup_flatten] at apart
  have disjoint := List.pairwise_iff_getElem.mp apart.2
  simp only [List.getElem_map, List.length_map] at disjoint
  obtain ⟨bound, rfl⟩ := List.getElem?_eq_some_iff.mp placed
  obtain ⟨otherBound, rfl⟩ := List.getElem?_eq_some_iff.mp otherPlaced
  have here : entry.1 ∈ ((publishPhase settings env stored).batches[number]).map Prod.fst :=
    List.mem_map_of_mem member
  have there : entry.1 ∈ ((publishPhase settings env stored).batches[otherNumber]).map Prod.fst :=
    same ▸ List.mem_map_of_mem inside
  rcases lt_trichotomy number otherNumber with before | rfl | after
  · exact disjoint _ _ bound otherBound before here there
  · cases failed.symm.trans published
  · exact disjoint _ _ otherBound bound after there here

end Phase

section Items
variable {settings : Settings} {env : PublishEnv} {stored : Option Payload}

def itemsOf (bucket : String) (stored : Option Payload) : Dict String TrackedObject :=
  (payloadOrDefault bucket stored).completionItems

theorem completionItemsOf_eq (bucket : String) (stored : Option Payload) :
    completionItemsOf stored = itemsOf bucket stored := by
  cases stored <;> rfl

theorem get?_deleteCompletionItems (bucket : String) (itemKeys : List String)
    (stored : Option Payload)
    (key : String) :
    (itemsOf bucket (some (deleteCompletionItems bucket itemKeys stored))).get? key =
      if key ∈ itemKeys then none else (itemsOf bucket stored).get? key := by
  simp only [itemsOf, payloadOrDefault, Option.getD_some, deleteCompletionItems, Dict.get?_filter]
  split
  · rename_i listed
    cases (stored.getD (.ofCheckpoint (defaultState bucket))).completionItems.get? key <;>
      simp [Option.filter, listed]
  · rename_i absent
    cases (stored.getD (.ofCheckpoint (defaultState bucket))).completionItems.get? key <;>
      simp [Option.filter, absent]

/-- Items that are not delivered stay as they are. -/
theorem publishPhase_keeps
    (absent : key ∉ deliveredKeys (publishPhase settings env stored).delivered) :
    (itemsOf settings.bucketName (publishPhase settings env stored).stored).get? key =
      (itemsOf settings.bucketName stored).get? key := by
  rcases publishPhase_stored settings env stored with same | deleted
  · rw [same]
  · rw [deleted, get?_deleteCompletionItems, if_neg absent]

/-- The delete that follows the publishes succeeds. -/
structure DeleteSucceeds (settings : Settings) (env : PublishEnv)
    (stored : Option Payload) : Prop where
  reads : env.readsCheckpoint = true
  readable : (getCheckpoint env.now settings.bucketName stored).isSome
  served : env.deletes = .served

theorem publishPhase_deletes (succeeds : DeleteSucceeds settings env stored)
    (listed : key ∈ deliveredKeys (publishPhase settings env stored).delivered) :
    (itemsOf settings.bucketName (publishPhase settings env stored).stored).get? key = none := by
  have deleted : (publishPhase settings env stored).stored =
      some (deleteCompletionItems settings.bucketName
        (deliveredKeys (publishPhase settings env stored).delivered) stored) := by
    simp only [publishPhase] at listed ⊢
    split at listed
    · cases listed
    · rename_i runs
      rw [if_neg runs, deletePublished, succeeds.reads, succeeds.served]
      have some := List.isEmpty_eq_false_iff_exists_mem.mpr ⟨key, listed⟩
      obtain ⟨state, read⟩ := Option.isSome_iff_exists.mp succeeds.readable
      simp [some, read]
  rw [deleted, get?_deleteCompletionItems, if_pos listed]

end Items
end ReplicateOnTag.Orchestrator

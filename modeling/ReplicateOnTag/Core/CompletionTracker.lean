import ReplicateOnTag.Core.Models
import ReplicateOnTag.Library.Grouping
import ReplicateOnTag.Library.GreedyPacking
import Mathlib.Data.List.Sort

/-! Publication of tracked objects: which of them are ready, and how they are
split into reports, whatever a group of them costs. -/
namespace ReplicateOnTag.CompletionTracker

/-- `_LEGACY_OUTCOMES`. -/
def legacyOutcomes : List String := ["PENDING", "GONE", "EXPIRED"]

def isLegacyItem (obj : TrackedObject) : Bool :=
  obj.state ≠ .resolved || obj.replicationOutcome.any fun outcome => outcome ∈ legacyOutcomes

def resolveLegacyItem (obj : TrackedObject) : TrackedObject :=
  if isLegacyItem obj then
    { obj with
      state := .resolved
      resolutionMethod := some "legacy_1_0_1_state"
      replicationOutcome := some "UNKNOWN" }
  else obj

def quiescenceCheck (manifestGeneratedAt : Instant) (scanState : Option ScanState) : Bool :=
  match scanState with
  | none => false
  | some scan => manifestGeneratedAt < scan.lastScanAt && scan.lastScanMatchCount = 0

def shouldPublish (obj : TrackedObject) (scanStateByConfig : Dict String ScanState) : Bool :=
  obj.state = .resolved && obj.configs.entries.all fun (configId, ctx) =>
    quiescenceCheck ctx.manifestGeneratedAt (scanStateByConfig.get? configId)

/-- `_GroupKey`. -/
abbrev GroupKey := String × List String × List String

def groupKey (obj : TrackedObject) : GroupKey :=
  (obj.sourceBucket, obj.matchedRules.insertionSort (· ≤ ·), obj.destinations.insertionSort (· ≤ ·))

/-- An object in memory: the key it was stored under stands for its identity. -/
abbrev Listed := String × TrackedObject

def addToGroup (grouped : Dict GroupKey (List Listed))
    (obj : Listed) : Dict GroupKey (List Listed) :=
  grouped.insert (groupKey obj.2) ((grouped.get? (groupKey obj.2)).getD [] ++ [obj])

/-- `_grouped_by_key`. -/
def groupedByKey (items : List Listed) : Dict GroupKey (List Listed) :=
  items.foldl addToGroup .empty

structure Chunks where
  batches : List (List Listed)
  current : List Listed
  currentBytes : Nat

def addGroup (groupBytes : GroupKey → List TrackedObject → Nat)
    (maxGroupBytes : Nat) (chunks : Chunks)
    (group : GroupKey × List Listed) : Chunks :=
  let bytes := groupBytes group.1 (group.2.map Prod.snd)
  if !chunks.current.isEmpty && maxGroupBytes < chunks.currentBytes + bytes then
    ⟨chunks.batches ++ [chunks.current], group.2, bytes⟩
  else ⟨chunks.batches, chunks.current ++ group.2, chunks.currentBytes + bytes⟩

/-- `_REPORT_GROUP_BUDGET_BYTES`. -/
def reportGroupBudgetBytes : Nat := 240000

/-- The batches of one report, given what each group's serialization takes. -/
def chunkItemsForReport (groupBytes : GroupKey → List TrackedObject → Nat) (items : List Listed) :
    List (List Listed) :=
  let chunks := (groupedByKey items).entries.foldl
    (addGroup groupBytes reportGroupBudgetBytes) ⟨[], [], 0⟩
  if chunks.current.isEmpty then chunks.batches else chunks.batches ++ [chunks.current]

/-- `chunk_items_for_report` under any budget. -/
def chunkItemsWithin (groupBytes : GroupKey → List TrackedObject → Nat) (maxGroupBytes : Nat)
    (items : List Listed) :
    List (List Listed) :=
  let chunks := (groupedByKey items).entries.foldl (addGroup groupBytes maxGroupBytes) ⟨[], [], 0⟩
  if chunks.current.isEmpty then chunks.batches else chunks.batches ++ [chunks.current]

section Publication

theorem quiescenceCheck_iff :
    quiescenceCheck manifestGeneratedAt scanState ↔
      ∃ scan, scanState = some scan ∧ manifestGeneratedAt < scan.lastScanAt ∧
        scan.lastScanMatchCount = 0 := by
  cases scanState <;> simp [quiescenceCheck]

theorem shouldPublish_iff :
    shouldPublish obj scanStateByConfig ↔
      obj.state = .resolved ∧ ∀ configId ctx, obj.configs.get? configId = some ctx →
        ∃ scan, scanStateByConfig.get? configId = some scan ∧
          ctx.manifestGeneratedAt < scan.lastScanAt ∧ scan.lastScanMatchCount = 0 := by
  simp only [shouldPublish, Bool.and_eq_true, decide_eq_true_eq, List.all_eq_true, Prod.forall,
    quiescenceCheck_iff, Dict.mem_entries_iff]

@[simp] theorem resolveLegacyItem_configs (obj : TrackedObject) :
    (resolveLegacyItem obj).configs = obj.configs := by
  rw [resolveLegacyItem]
  split <;> rfl

end Publication

section Chunking
open GreedyPacking
variable {groupBytes : GroupKey → List TrackedObject → Nat}

theorem chunkItemsForReport_eq (groupBytes : GroupKey → List TrackedObject → Nat)
    (items : List Listed) :
    chunkItemsForReport groupBytes items =
      chunkItemsWithin groupBytes reportGroupBudgetBytes items := rfl

/-- What the group costs in its report. -/
def groupCost (groupBytes : GroupKey → List TrackedObject → Nat)
    (group : GroupKey × List Listed) : Nat :=
  groupBytes group.1 (group.2.map Prod.snd)

def itemsOf (groups : List (GroupKey × List Listed)) : List Listed := groups.flatMap Prod.snd

/-- The chunks hold the items of the packed groups, and their price. -/
structure Represents (groupBytes : GroupKey → List TrackedObject → Nat) (chunks : Chunks)
    (packing : Packing (GroupKey × List Listed)) : Prop where
  batches : chunks.batches = packing.closed.map itemsOf
  current : chunks.current = itemsOf packing.current
  bytes : chunks.currentBytes = total (groupCost groupBytes) packing.current
  occupied : ∀ group ∈ packing.current, group.2 ≠ []

theorem Represents.isEmpty_iff (represents : Represents groupBytes chunks packing) :
    chunks.current.isEmpty ↔ packing.current = [] := by
  rw [represents.current, List.isEmpty_iff, itemsOf, List.flatMap_eq_nil_iff]
  constructor
  · intro none
    refine List.eq_nil_iff_forall_not_mem.mpr fun group member => ?_
    exact represents.occupied group member (none group member)
  · intro none group member
    exact absurd (none ▸ member) List.not_mem_nil

theorem Represents.closing (represents : Represents groupBytes chunks packing) :
    (if chunks.current.isEmpty then chunks.batches else chunks.batches ++ [chunks.current]) =
      packing.batches.map itemsOf := by
  rw [Packing.batches]
  by_cases none : packing.current = []
  · rw [if_pos (represents.isEmpty_iff.mpr none), if_pos none, represents.batches]
  · rw [if_neg fun empty => none (represents.isEmpty_iff.mp empty), if_neg none, represents.batches,
      represents.current, List.map_append, List.map_singleton]

theorem represents_addGroup (represents : Represents groupBytes chunks packing)
    {group : GroupKey × List Listed}
    (occupied : group.2 ≠ []) : Represents groupBytes (addGroup groupBytes limit chunks group)
      (place (groupCost groupBytes) limit packing group) := by
  have full : (!chunks.current.isEmpty &&
      limit < chunks.currentBytes + groupCost groupBytes group) = true ↔
      packing.current ≠ [] ∧ limit < total (groupCost groupBytes) packing.current +
        groupCost groupBytes group := by
    rw [Bool.and_eq_true, Bool.not_eq_true', ← Bool.not_eq_true, represents.isEmpty_iff,
      represents.bytes, decide_eq_true_eq]
  have cost : groupBytes group.1 (group.2.map Prod.snd) = groupCost groupBytes group := rfl
  simp only [addGroup, place, cost, full]
  split
  · constructor
    · simp only [represents.batches, represents.current, List.map_append, List.map_cons,
        List.map_nil]
    · simp only [itemsOf, List.flatMap_cons, List.flatMap_nil, List.append_nil]
    · rw [total_singleton]
    · intro other member
      rwa [List.mem_singleton.mp member]
  · constructor
    · exact represents.batches
    · simp only [represents.current, itemsOf, List.flatMap_append, List.flatMap_cons,
        List.flatMap_nil, List.append_nil]
    · rw [total_append, total_singleton, represents.bytes]
    · intro other member
      rcases List.mem_append.mp member with old | new
      · exact represents.occupied other old
      · rwa [List.mem_singleton.mp new]

/-- The batches are those of the packed groups. -/
theorem chunkItemsWithin_eq (groupBytes : GroupKey → List TrackedObject → Nat) (limit : Nat)
    (items : List Listed) :
    chunkItemsWithin groupBytes limit items =
      (pack (groupCost groupBytes) limit (groupedByKey items).entries).map itemsOf := by
  have whole := Grouping.whole_grouped (fun obj : Listed => groupKey obj.2) items
  have placed : ∀ (groups : List (GroupKey × List Listed)) (chunks packing),
      (∀ group ∈ groups, group.2 ≠ []) → Represents groupBytes chunks packing →
        Represents groupBytes (groups.foldl (addGroup groupBytes limit) chunks)
          (groups.foldl (place (groupCost groupBytes) limit) packing) := by
    intro groups
    induction groups with
    | nil => exact fun _ _ _ represents => represents
    | cons group rest ih =>
      intro chunks packing occupied represents
      exact ih _ _ (fun other member => occupied other (List.mem_cons_of_mem _ member))
        (represents_addGroup represents (occupied group List.mem_cons_self))
  have represents := placed _ ⟨[], [], 0⟩ ⟨[], []⟩ whole.occupied ⟨rfl, rfl, rfl, by simp⟩
  exact represents.closing

theorem flatten_itemsOf (batches : List (List (GroupKey × List Listed))) :
    (batches.map itemsOf).flatten = itemsOf batches.flatten := by
  induction batches with
  | nil => rfl
  | cons batch rest ih =>
    simp only [itemsOf] at ih
    simp only [List.map_cons, List.flatten_cons, itemsOf, List.flatMap_append, ih]

theorem flatten_chunkItemsWithin (groupBytes : GroupKey → List TrackedObject → Nat) (limit : Nat)
    (items : List Listed) :
    (chunkItemsWithin groupBytes limit items).flatten = itemsOf (groupedByKey items).entries := by
  rw [chunkItemsWithin_eq, flatten_itemsOf, flatten_pack]

theorem chunkItemsWithin_perm (groupBytes : GroupKey → List TrackedObject → Nat) (limit : Nat)
    (items : List Listed) :
    (chunkItemsWithin groupBytes limit items).flatten.Perm items := by
  rw [flatten_chunkItemsWithin, itemsOf, List.flatMap_def]
  exact Grouping.grouped_perm (fun obj : Listed => groupKey obj.2) items

/-- Whatever groups cost, every object lands in exactly one batch. -/
theorem chunkItemsForReport_perm (groupBytes : GroupKey → List TrackedObject → Nat)
    (items : List Listed) :
    (chunkItemsForReport groupBytes items).flatten.Perm items := by
  rw [chunkItemsForReport_eq]
  exact chunkItemsWithin_perm groupBytes reportGroupBudgetBytes items

end Chunking
end ReplicateOnTag.CompletionTracker

import ReplicateOnTag.Core.CompletionReport

/-! The batches of a report hold every object once and whole groups only, and the
text of each batch's groups is no longer than what its groups were priced at. -/
namespace ReplicateOnTag.CompletionTracker
open GreedyPacking

/-- What splitting the objects into batches must keep. -/
structure Batched (isoformat : Instant → String) (maxGroupBytes : Nat) (items : List Listed)
    (batches : List (List Listed)) : Prop where
  regrouped : batches.flatten = (items.map fun obj => groupKey obj.2).eraseDups.flatMap fun key =>
    items.filter fun obj => groupKey obj.2 = key
  once : batches.flatten.Perm items
  occupied : ∀ batch ∈ batches, batch ≠ []
  unsplit : batches.Pairwise fun first second =>
    ∀ one ∈ first, ∀ other ∈ second, groupKey one.2 ≠ groupKey other.2
  groups : batches.flatMap (buildGroups isoformat) = buildGroups isoformat items
  priced : ∀ batch ∈ batches,
    pricedTotal isoformat batch ≤ maxGroupBytes ∨ (buildGroups isoformat batch).length = 1

/-- What the report of a batch says of it, and how long its groups are in the message. -/
structure Reported (isoformat : Instant → String) (batch : List Listed)
    (report : CompletionReport) : Prop where
  message : ∃ before, report.message = before ++ groupsSection report.groups ++ "\n\x7d"
  length : (groupsSection report.groups).length ≤ pricedTotal isoformat batch +
    (groupsSection []).length
  itemCount : report.itemCount = batch.length ∧
    report.itemCount = (report.groups.map Group.count).sum
  outcomes : ∀ outcome, countOf report.outcomeCounts outcome =
    (report.groups.map fun group => countOf group.outcomeCounts outcome).sum
  occurring : ∀ outcome, outcome ∈ report.outcomeCounts.keys ↔
    ∃ group ∈ report.groups, outcome ∈ group.outcomeCounts.keys

section Batches
variable {isoformat : Instant → String} {items : List Listed}

theorem groupedByKey_entries (items : List Listed) : (groupedByKey items).entries =
    (items.map fun obj => groupKey obj.2).eraseDups.map fun key =>
    (key, items.filter fun obj => groupKey obj.2 = key) := by
  exact Grouping.entries_grouped (fun obj : Listed => groupKey obj.2) items

theorem whole_groupedByKey (items : List Listed) :
    Grouping.Whole (fun obj : Listed => groupKey obj.2) (groupedByKey items).entries :=
  Grouping.whole_grouped _ _

/-- A batch falls into the groups that were packed for it. -/
theorem groupedByKey_itemsOf {groups : List (GroupKey × List Listed)}
    (packed : groups ∈ pack cost limit (groupedByKey items).entries) :
    (groupedByKey (itemsOf groups)).entries = groups :=
  ((whole_groupedByKey items).sublist (sublist_of_mem_pack packed)).grouped_flatMap

theorem flatMap_groups (price : GroupKey → List TrackedObject → Nat) (limit : Nat)
    (items : List Listed) :
    (chunkItemsWithin price limit items).flatMap (fun batch => (groupedByKey batch).entries) =
      (groupedByKey items).entries := by
  have each : (pack (groupCost price) limit (groupedByKey items).entries).map
      (fun groups => (groupedByKey (itemsOf groups)).entries) =
        (pack (groupCost price) limit (groupedByKey items).entries).map id :=
    List.map_congr_left fun groups packed => groupedByKey_itemsOf packed
  rw [chunkItemsWithin_eq, List.flatMap_map, List.flatMap_def, each, List.map_id, flatten_pack]

/-- Objects of different groups have different keys. -/
theorem pairwise_groups (items : List Listed) :
    (groupedByKey items).entries.Pairwise fun first second =>
    ∀ one ∈ first.2, ∀ other ∈ second.2, groupKey one.2 ≠ groupKey other.2 := by
  have whole := whole_groupedByKey items
  refine (List.pairwise_map.mp whole.distinct).imp_of_mem ?_
  intro first second mine theirs differ one listed other listed' same
  have own : groupKey one.2 = first.1 := whole.own first mine one listed
  have own' : groupKey other.2 = second.1 := whole.own second theirs other listed'
  exact differ (own.symm.trans (same.trans own'))

theorem length_buildGroups (isoformat : Instant → String) (items : List Listed) :
    (buildGroups isoformat items).length = (groupedByKey items).entries.length := List.length_map _

theorem batched_chunkItemsWithin (isoformat : Instant → String) (maxGroupBytes : Nat)
    (items : List Listed) :
    Batched isoformat maxGroupBytes items
      (chunkItemsWithin (groupPrice isoformat) maxGroupBytes items) := by
  constructor
  · rw [flatten_chunkItemsWithin, itemsOf, groupedByKey_entries, List.flatMap_map]
  · exact chunkItemsWithin_perm _ _ _
  · intro batch member none
    rw [chunkItemsWithin_eq] at member
    obtain ⟨groups, packed, own⟩ := List.mem_map.mp member
    have same := groupedByKey_itemsOf packed
    rw [own, none] at same
    exact (mem_pack packed).1 same.symm
  · rw [chunkItemsWithin_eq, List.pairwise_map]
    refine (pairwise_pack (pairwise_groups items)).imp ?_
    intro first second apart one listed other listed'
    obtain ⟨mine, held, inside⟩ := List.mem_flatMap.mp listed
    obtain ⟨theirs, held', inside'⟩ := List.mem_flatMap.mp listed'
    exact apart mine held theirs held' one inside other inside'
  · have each : buildGroups isoformat = fun batch => (groupedByKey batch).entries.map fun group =>
        buildGroup isoformat group.1 (group.2.map Prod.snd) := rfl
    rw [each, ← List.map_flatMap, flatMap_groups]
  · intro batch member
    rw [chunkItemsWithin_eq] at member
    obtain ⟨groups, packed, rfl⟩ := List.mem_map.mp member
    rw [pricedTotal, length_buildGroups, buildGroups, groupedByKey_itemsOf packed, List.map_map]
    rcases (mem_pack packed).2 with within | ⟨group, rfl⟩
    · exact .inl within
    · exact .inr rfl

end Batches

section Reports

theorem countP_itemsOf (p : Listed → Bool) (groups : List (GroupKey × List Listed)) :
    (itemsOf groups).countP p = (groups.map fun group => group.2.countP p).sum := by
  rw [itemsOf, List.countP_flatMap]
  rfl

theorem length_itemsOf (groups : List (GroupKey × List Listed)) :
    (itemsOf groups).length = (groups.map fun group => group.2.length).sum := by
  rw [itemsOf, List.length_flatMap]

theorem perm_itemsOf_groupedByKey (items : List Listed) :
    (itemsOf (groupedByKey items).entries).Perm items := by
  rw [itemsOf, List.flatMap_def]
  exact Grouping.grouped_perm (fun obj : Listed => groupKey obj.2) items

theorem countOf_outcomeCounts (items : List Listed) (outcome : Option String) :
    countOf (outcomeCounts (items.map Prod.snd)) outcome =
      items.countP fun obj => obj.2.replicationOutcome = outcome := by
  rw [countOf, outcomeCounts, Grouping.getD_tally, List.countP_map]
  rfl

theorem mem_keys_outcomeCounts (items : List Listed) (outcome : Option String) :
    outcome ∈ (outcomeCounts (items.map Prod.snd)).keys ↔
      ∃ obj ∈ items, obj.2.replicationOutcome = outcome := by
  rw [outcomeCounts, Grouping.mem_keys_tally, List.map_map, List.mem_map]
  rfl

/-- The report of a batch counts what its groups count, and its groups take no
more than their price. -/
theorem reported_buildCompletionReport (isoformat : Instant → String) (batch : List Listed)
    (sourceBucket : String)
    (outstandingJobs : Option Nat) (submissionDeferred : Bool) :
    Reported isoformat batch (buildCompletionReport isoformat sourceBucket batch outstandingJobs
      submissionDeferred) := by
  have perm := perm_itemsOf_groupedByKey batch
  constructor
  · exact message_eq _
  · exact length_groupsSection_le _
  · refine ⟨rfl, ?_⟩
    have length := perm.length_eq.symm.trans (length_itemsOf _)
    simpa only [buildCompletionReport, buildGroups, List.map_map, Function.comp_def, buildGroup,
      List.length_map] using length
  · intro outcome
    have counts := perm.countP_eq fun obj => obj.2.replicationOutcome = outcome
    rw [countP_itemsOf] at counts
    simpa only [buildCompletionReport, buildGroups, List.map_map, Function.comp_def, buildGroup,
      countOf_outcomeCounts] using counts.symm
  · intro outcome
    simp only [buildCompletionReport, buildGroups, List.mem_map, exists_exists_and_eq_and,
      buildGroup, mem_keys_outcomeCounts]
    simp only [← perm.mem_iff, itemsOf, List.mem_flatMap]
    constructor
    · rintro ⟨obj, ⟨group, listed, inside⟩, own⟩
      exact ⟨group, listed, obj, inside, own⟩
    · rintro ⟨group, listed, obj, inside, own⟩
      exact ⟨obj, ⟨group, listed, inside⟩, own⟩

/-- Under any budget, no object is lost or repeated, no group is split, and what
was priced is what the message needs. -/
theorem chunks_fit_report (isoformat : Instant → String) (maxGroupBytes : Nat)
    (items : List Listed) :
    let batches := chunkItemsWithin (groupPrice isoformat) maxGroupBytes items
    Batched isoformat maxGroupBytes items batches ∧
      ∀ batch ∈ batches, ∀ sourceBucket outstandingJobs submissionDeferred,
        Reported isoformat batch
          (buildCompletionReport isoformat sourceBucket batch outstandingJobs submissionDeferred) :=
  ⟨batched_chunkItemsWithin isoformat maxGroupBytes items,
    fun batch _ => reported_buildCompletionReport isoformat batch⟩

end Reports
end ReplicateOnTag.CompletionTracker

import ReplicateOnTag.Library.OldestFirst
import ReplicateOnTag.Adapters.SideMaps

/-! What the ceiling on a side map evicts, and what a call that stores
enrichment keeps of it. -/
namespace ReplicateOnTag.StateStore
open OldestFirst

section Eviction

theorem evictedKeys_eq (protectedKeys : List String) (excess : Nat) (keys : List String) :
    evictedKeys protectedKeys excess keys = oldest protectedKeys excess keys := by
  induction keys generalizing excess with
  | nil => cases excess <;> simp [evictedKeys]
  | cons key rest ih =>
    cases excess with
    | zero => simp [evictedKeys]
    | succ excess =>
      by_cases kept : key ∈ protectedKeys
      · simp only [evictedKeys, kept, if_true, ih, oldest_spared kept]
      · simp only [evictedKeys, kept, if_false, ih, oldest_gone kept]

/-- The loop over the map is the filter by its oldest keys. -/
theorem evictSideMapAboveCeiling_eq_evict (entries : Dict String ν) (ceiling : Nat)
    (protectedKeys : List String) :
    evictSideMapAboveCeiling entries ceiling protectedKeys =
      evict entries ceiling protectedKeys := by
  simp only [evict_eq, evictSideMapAboveCeiling, evictedKeys_eq, without]

/-- Eviction runs over the oldest unprotected entries until the map fits, and
leaves every other entry as it stands. -/
theorem eviction_oldest_first (entries : Dict String ν) (ceiling : Nat)
    (protectedKeys : List String) :
    let after := evictSideMapAboveCeiling entries ceiling protectedKeys
    after = evict entries ceiling protectedKeys ∧
    after.1.size ≤ max ceiling (entries.keys.filter fun key => key ∈ protectedKeys).length ∧
    after.2 = (entries.keys.filter fun key => key ∉ protectedKeys).take (entries.size - ceiling) ∧
    (∀ key ∈ protectedKeys, key ∉ after.2) ∧
    after.1.entries = entries.entries.filter fun entry => entry.1 ∉ after.2 := by
  have loop := evictSideMapAboveCeiling_eq_evict entries ceiling protectedKeys
  have evicted : (evictSideMapAboveCeiling entries ceiling protectedKeys).2 =
      oldest protectedKeys (entries.size - ceiling) entries.keys := by rw [loop, evict_eq]
  refine ⟨loop, ?_, evicted, ?_, rfl⟩
  · rw [loop]
    exact size_evict_le entries ceiling protectedKeys
  · intro key kept gone
    rw [evicted] at gone
    exact not_spared gone kept

end Eviction

section Storing
variable {keep : ν → Bool} {stored : Dict String ν} {given : Dict (String × String) ν}

/-- New entries stand behind the stored ones, and their keys are remembered. -/
structure Extends (stored : Dict String ν) (sideMap : Dict String ν × List String)
    (room : Nat) : Prop where
  entries : ∃ new, sideMap.1.entries = stored.entries ++ new ∧ sideMap.2 = new.map Prod.fst
  few : sideMap.2.length ≤ room

section Adding
variable {current : Dict String ν} {objectKey version : String} {value : ν}

theorem addEntry_present (written : List String)
    (present : current.contains (sideMapKey objectKey (some version)) = true) :
    addEntry keep (current, written) ((objectKey, version), value) =
      (current, written) := if_pos present

theorem addEntry_empty (written : List String) (empty : keep value = false) :
    addEntry keep (current, written) ((objectKey, version), value) = (current, written) := by
  simp [addEntry, empty]

theorem addEntry_new (written : List String)
    (absent : current.contains (sideMapKey objectKey (some version)) = false)
    (kept : keep value = true) :
    addEntry keep (current, written) ((objectKey, version), value) =
      (current.insert (sideMapKey objectKey (some version)) value,
        written ++ [sideMapKey objectKey (some version)]) := by
  simp [addEntry, absent, kept]

theorem not_contains_iff {key : String} : current.contains key = false ↔ key ∉ current.keys := by
  rw [Dict.contains, Option.isSome_eq_false_iff, Option.isNone_iff_eq_none, Dict.get?_eq_none_iff]

theorem size_insert_new {key : String} (absent : key ∉ current.keys) :
    (current.insert key value).size = current.size + 1 :=
  (congrArg List.length (Dict.upsert_of_not_mem absent)).trans List.length_append

end Adding

theorem Extends.next (extended : Extends stored sideMap room) (keep : ν → Bool)
    (entry : (String × String) × ν) :
    Extends stored (addEntry keep sideMap entry) (room + 1) := by
  obtain ⟨current, written⟩ := sideMap
  obtain ⟨⟨objectKey, version⟩, value⟩ := entry
  obtain ⟨⟨new, entries, keys⟩, few⟩ := extended
  dsimp only at entries keys few
  cases present : current.contains (sideMapKey objectKey (some version)) with
  | true =>
    rw [addEntry_present written present]
    exact ⟨⟨new, entries, keys⟩, Nat.le_succ_of_le few⟩
  | false =>
    cases kept : keep value with
    | false =>
      rw [addEntry_empty written kept]
      exact ⟨⟨new, entries, keys⟩, Nat.le_succ_of_le few⟩
    | true =>
      rw [addEntry_new written present kept]
      refine ⟨⟨new ++ [(sideMapKey objectKey (some version), value)], ?_, ?_⟩, ?_⟩
      · refine (Dict.upsert_of_not_mem (not_contains_iff.mp present)).trans ?_
        rw [entries, List.append_assoc]
      · simpa using keys
      · simpa using few

theorem extends_foldl (keep : ν → Bool) (entries : List ((String × String) × ν))
    (extended : Extends stored sideMap room) :
    Extends stored (entries.foldl (addEntry keep) sideMap) (room + entries.length) := by
  induction entries generalizing sideMap room with
  | nil => exact extended
  | cons entry rest ih =>
    have later := ih (extended.next keep entry)
    simpa only [List.foldl_cons, List.length_cons, Nat.add_assoc, Nat.add_comm 1] using later

theorem extends_written (keep : ν → Bool) (stored : Dict String ν)
    (given : Dict (String × String) ν) :
    Extends stored (given.entries.foldl (addEntry keep) (stored, [])) given.size := by
  have start : Extends stored (stored, []) 0 := ⟨⟨[], (List.append_nil _).symm, rfl⟩, le_refl 0⟩
  have whole := extends_foldl keep given.entries start
  rwa [Nat.zero_add] at whole

/-- Nothing but stored entries can be evicted, from the oldest on. -/
theorem Extends.oldest_eq (extended : Extends stored sideMap room) (excess : Nat) :
    oldest sideMap.2 excess sideMap.1.keys = stored.keys.take excess := by
  obtain ⟨⟨new, entries, keys⟩, _⟩ := extended
  have split : sideMap.1.keys = stored.keys ++ sideMap.2 := by
    simp only [Dict.keys, entries, keys, List.map_append]
  have apart : ∀ key ∈ stored.keys, key ∉ sideMap.2 := by
    have once := sideMap.1.keys_nodup
    rw [split] at once
    exact fun key old new => (List.nodup_append.mp once).2.2 key old key new rfl
  have kept : (sideMap.2.filter fun key => key ∉ sideMap.2) = [] :=
    List.filter_eq_nil_iff.mpr fun key member => by simp [member]
  have old : (stored.keys.filter fun key => key ∉ sideMap.2) = stored.keys :=
    List.filter_eq_self.mpr fun key member => decide_eq_true (apart key member)
  rw [oldest, split, List.filter_append, old, kept, List.append_nil]

/-- By how many entries the new ones take the map above the ceiling. -/
def excess (keep : ν → Bool) (stored : Dict String ν) (given : Dict (String × String) ν) : Nat :=
  (writtenEntries keep stored given).size - completionSideMapCeiling

theorem addEntries_eq (keep : ν → Bool) (stored : Dict String ν)
    (given : Dict (String × String) ν) :
    addEntries keep stored given.entries =
      without (stored.keys.take (excess keep stored given)) (writtenEntries keep stored given) := by
  have extended := extends_written keep stored given
  simp only [addEntries, evictSideMapAboveCeiling_eq_evict, evict_eq, extended.oldest_eq, excess,
    writtenEntries]

/-- What a call leaves of the map it adds its entries to. An entry it names is
there, unless it is one of the oldest that were stored before. -/
structure KeepsButOldest (keep : ν → Bool) (stored : Dict String ν)
    (given : Dict (String × String) ν)
    (after : Dict String ν) : Prop where
  present : ∀ entry ∈ given.entries, keep entry.2 →
    (sideMapKey entry.1.1 (some entry.1.2) ∈ after.keys ↔
      sideMapKey entry.1.1 (some entry.1.2) ∉ stored.keys.take (excess keep stored given))
  unchanged : ∀ key value, stored.get? key = some value → key ∈ after.keys →
    after.get? key = some value
  bounded : after.size ≤ completionSideMapCeiling

/-- The entries of a call stay whatever was stored before. -/
structure KeepsAll (keep : ν → Bool) (stored : Dict String ν) (given : Dict (String × String) ν)
    (after : Dict String ν) : Prop where
  present : ∀ entry ∈ given.entries, keep entry.2 →
    sideMapKey entry.1.1 (some entry.1.2) ∈ after.keys
  unchanged : ∀ key value, stored.get? key = some value → key ∈ after.keys →
    after.get? key = some value
  bounded : after.size ≤ completionSideMapCeiling

theorem addEntries_keepsButOldest (few : given.size ≤ completionSideMapCeiling) :
    KeepsButOldest keep stored given (addEntries keep stored given.entries) := by
  have extended := extends_written keep stored given
  constructor
  · intro entry member kept
    have written : sideMapKey entry.1.1 (some entry.1.2) ∈
        (writtenEntries keep stored given).keys :=
      mem_keys_writtenEntries.mpr (.inr ⟨entry, member, rfl, kept⟩)
    simp only [addEntries_eq, keys_without, List.mem_filter, written, true_and, decide_eq_true_eq]
  · intro key value old survives
    have written : (writtenEntries keep stored given).get? key = some value := by
      simp only [writtenEntries, get?_foldl_addEntry, old, Option.some_or]
    simp only [addEntries_eq, keys_without, List.mem_filter, decide_eq_true_eq] at survives
    simp only [addEntries_eq, without, Dict.get?_filter, written, Option.filter_some, survives.2,
      not_false_eq_true, decide_true, if_true]
  · have size := size_evict_le (writtenEntries keep stored given) completionSideMapCeiling
      (given.entries.foldl (addEntry keep) (stored, [])).2
    have spared : ((writtenEntries keep stored given).keys.filter fun key =>
        key ∈ (given.entries.foldl (addEntry keep) (stored, [])).2).length ≤ given.size := by
      refine le_trans ?_ extended.few
      refine (List.subperm_of_subset ((Dict.keys_nodup _).filter _) fun key member => ?_).length_le
      exact of_decide_eq_true (List.mem_filter.mp member).2
    rw [addEntries, evictSideMapAboveCeiling_eq_evict]
    exact size.trans (max_le (le_refl _) (spared.trans few))

/-- An entry among the oldest goes, also when the call names it. -/
theorem not_keepsAll_of_oldest (few : given.size ≤ completionSideMapCeiling)
    (member : entry ∈ given.entries)
    (kept : keep entry.2)
    (old : sideMapKey entry.1.1 (some entry.1.2) ∈ stored.keys.take (excess keep stored given)) :
    ¬ KeepsAll keep stored given (addEntries keep stored given.entries) := by
  intro all
  exact ((addEntries_keepsButOldest few).present entry member kept).mp
    (all.present entry member kept) old

theorem storeCompletionTimestamps_timestamps (sourceBucket : String) (timestamps : Timestamps)
    (routing : Option Routing) (stored : Option Payload) :
    (storeCompletionTimestamps sourceBucket timestamps routing stored).completionTimestamps =
      addEntries hasInstant (payloadOrDefault sourceBucket stored).completionTimestamps
        timestamps.entries := rfl

/-- A call with no more objects than the ceiling keeps both maps within it. An
object it names keeps its entry, unless the entry was stored before and is one
of the oldest, as many as the new entries are too many. -/
theorem stored_enrichment_kept (sourceBucket : String) (timestamps : Timestamps)
    (routing : Option Routing)
    (stored : Option Payload) (fewTimestamps : timestamps.size ≤ completionSideMapCeiling)
    (fewRoutes : (routing.getD .empty).size ≤ completionSideMapCeiling) :
    let before := payloadOrDefault sourceBucket stored
    let after := storeCompletionTimestamps sourceBucket timestamps routing stored
    KeepsButOldest hasInstant before.completionTimestamps timestamps after.completionTimestamps ∧
      KeepsButOldest hasRoute before.completionRouting (sortedRouting (routing.getD .empty))
        after.completionRouting := by
  have sorted : (sortedRouting (routing.getD .empty)).size ≤ completionSideMapCeiling := by
    simpa only [sortedRouting, Dict.mapValues, Dict.size, List.length_map] using fewRoutes
  exact ⟨addEntries_keepsButOldest fewTimestamps, addEntries_keepsButOldest sorted⟩

end Storing

section Crowded

/-- As many stored timestamps as the ceiling allows. -/
def crowdedTimestamps : Dict String (Option Instant × Option Instant) where
  entries := (List.range completionSideMapCeiling).map fun n =>
    (itemKey (crowdedObject n) (some "v"), (some (n : Int), none))
  distinct := by
    rw [List.map_map]
    exact List.nodup_range.map crowdedKey_injective

def crowdedEnrichment : Payload :=
    { Payload.ofCheckpoint ⟨"b", Watermark.toWatermark 1, none, []⟩ with
  completionTimestamps := crowdedTimestamps }

theorem crowdedEnrichment_stored :
    (payloadOrDefault "b" (some crowdedEnrichment)).completionTimestamps = crowdedTimestamps := rfl

/-- The object stored first is tagged again, along with a new one. -/
def retagged : Timestamps :=
  (Dict.empty.insert (crowdedObject 0, "v") (some 5, none)).insert ("new", "v") (some 5, none)

theorem few_retagged : retagged.size ≤ completionSideMapCeiling := by
  have two : retagged.size = 2 := by decide
  simp [two, completionSideMapCeiling]

theorem crowdedTimestamps_keys :
    crowdedTimestamps.keys = (List.range completionSideMapCeiling).map fun n =>
      itemKey (crowdedObject n) (some "v") := by
  simp only [crowdedTimestamps, Dict.keys, List.map_map, Function.comp_def]

theorem crowdedTimestamps_oldest : crowdedTimestamps.keys.take 1 =
    [itemKey (crowdedObject 0) (some "v")] := by
  have some : min 1 completionSideMapCeiling = 1 := by simp [completionSideMapCeiling]
  rw [crowdedTimestamps_keys, ← List.map_take, List.take_range, some]
  rfl

theorem crowdedTimestamps_size : crowdedTimestamps.size = completionSideMapCeiling := by
  simp [crowdedTimestamps, Dict.size]

theorem crowded_first : itemKey (crowdedObject 0) (some "v") ∈ crowdedTimestamps.keys :=
  List.mem_of_mem_take (i := 1) (by simp [crowdedTimestamps_oldest])

theorem crowded_new : itemKey "new" (some "v") ∉ crowdedTimestamps.keys := by
  rw [crowdedTimestamps_keys, List.mem_map]
  rintro ⟨n, _, same⟩
  have member : 'n' ∈ (itemKey (crowdedObject n) (some "v")).toList := by
    rw [same]
    decide
  simp [itemKey, crowdedObject] at member

theorem sideMapKey_v (objectKey : String) : sideMapKey objectKey (some "v") =
    itemKey objectKey (some "v") := by
  have real : RealVersion (some "v") := ⟨by decide, by decide⟩
  rw [sideMapKey, versionOrNone_real real]

theorem contains_crowded_first :
    crowdedTimestamps.contains (itemKey (crowdedObject 0) (some "v")) = true := by
  rw [Dict.contains, Option.isSome_iff_exists, ← Dict.mem_keys_iff]
  exact crowded_first

theorem crowded_written : writtenEntries hasInstant crowdedTimestamps retagged =
    crowdedTimestamps.insert (itemKey "new" (some "v")) (some 5, none) := by
  have entries : retagged.entries =
      [((crowdedObject 0, "v"), (some 5, none)), (("new", "v"), (some 5, none))] := by decide
  have first : crowdedTimestamps.contains (sideMapKey (crowdedObject 0) (some "v")) = true := by
    rw [sideMapKey_v]
    exact contains_crowded_first
  have second : crowdedTimestamps.contains (sideMapKey "new" (some "v")) = false := by
    rw [sideMapKey_v]
    exact not_contains_iff.mpr crowded_new
  rw [writtenEntries, entries, List.foldl_cons, addEntry_present [] first, List.foldl_cons,
    addEntry_new [] second rfl,
    sideMapKey_v, List.foldl_nil]

/-- Of the two objects only the new one adds an entry. -/
theorem crowded_excess : excess hasInstant crowdedTimestamps retagged = 1 := by
  rw [excess, crowded_written, size_insert_new crowded_new, crowdedTimestamps_size,
    Nat.add_sub_cancel_left]

/-- On a full map the new object gets its entry, in place of the oldest. -/
theorem stored_enrichment_kept_crowded :
    let routing : Routing := Dict.empty.insert ("new", "v") (["rule"], ["target"])
    let after := storeCompletionTimestamps "b" retagged (some routing) (some crowdedEnrichment)
    itemKey "new" (some "v") ∈ after.completionTimestamps.keys ∧
      itemKey (crowdedObject 0) (some "v") ∉ after.completionTimestamps.keys ∧
      after.completionTimestamps.size ≤ completionSideMapCeiling ∧
      itemKey "new" (some "v") ∈ after.completionRouting.keys := by
  intro routing after
  have one : routing.size = 1 := by decide
  have fewRoutes : routing.size ≤ completionSideMapCeiling := by
    simp [one, completionSideMapCeiling]
  obtain ⟨timestamps, routes⟩ :=
    stored_enrichment_kept "b" retagged (some routing) (some crowdedEnrichment)
      few_retagged fewRoutes
  rw [crowdedEnrichment_stored] at timestamps
  have first := timestamps.present ((crowdedObject 0, "v"), (some 5, none)) (by decide) rfl
  have new := timestamps.present (("new", "v"), (some 5, none)) (by decide) rfl
  have route := routes.present (("new", "v"), (["rule"], ["target"])) (by decide) rfl
  dsimp only at first new route
  rw [sideMapKey_v, crowded_excess, crowdedTimestamps_oldest, List.mem_singleton] at first new
  rw [sideMapKey_v] at route
  refine ⟨new.mpr fun same => ?_, fun kept => first.mp kept rfl, timestamps.bounded, route.mpr ?_⟩
  · exact crowded_new (same ▸ crowded_first)
  · exact List.not_mem_nil ∘ List.mem_of_mem_take

/-- On a full map the object stored first loses its entry in the call that names it. -/
theorem retagged_object_evicted :
    ¬ ∀ sourceBucket timestamps routing stored, timestamps.size ≤ completionSideMapCeiling →
      (routing.getD .empty).size ≤ completionSideMapCeiling →
      KeepsAll hasInstant (payloadOrDefault sourceBucket stored).completionTimestamps timestamps
        (storeCompletionTimestamps sourceBucket timestamps routing stored).completionTimestamps ∧
      KeepsAll hasRoute (payloadOrDefault sourceBucket stored).completionRouting
        (sortedRouting (routing.getD .empty))
        (storeCompletionTimestamps sourceBucket timestamps routing stored).completionRouting := by
  intro always
  have named : ((crowdedObject 0, "v"), (some 5, none)) ∈ retagged.entries := by decide
  have all := (always "b" retagged none (some crowdedEnrichment) few_retagged (Nat.zero_le _)).1
  rw [storeCompletionTimestamps_timestamps, crowdedEnrichment_stored] at all
  refine not_keepsAll_of_oldest few_retagged named rfl ?_ all
  rw [crowded_excess, crowdedTimestamps_oldest, sideMapKey_v]
  exact List.mem_singleton_self _

end Crowded
end ReplicateOnTag.StateStore

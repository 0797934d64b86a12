import ReplicateOnTag.Adapters.SideMaps
import ReplicateOnTag.Orchestrator.ItemSteps

/-! The enrichment a state object holds for object versions: complete wherever
it is filed, taken over by the items a run creates, and kept by every write of
a run below the ceiling. -/
namespace ReplicateOnTag.Orchestrator
open StateStore ManifestGenerator

/-- An item that names its rules, its destinations, and when it was tagged. -/
structure Enriched (item : TrackedObject) : Prop where
  rules : item.matchedRules ≠ []
  tagged : item.taggedAt.isSome
  destinations : item.destinations ≠ []

def instantsOf (bucket : String)
    (stored : Option Payload) : Dict String (Option Instant × Option Instant) :=
  (payloadOrDefault bucket stored).completionTimestamps

def routesOf (bucket : String)
    (stored : Option Payload) : Dict String (List String × List String) :=
  (payloadOrDefault bucket stored).completionRouting

/-- Both maps hold an entry under the key. -/
structure Filed (bucket : String) (stored : Option Payload) (key : String) : Prop where
  instants : ((instantsOf bucket stored).get? key).isSome
  routes : ((routesOf bucket stored).get? key).isSome

/-- No entry of the maps and no item is incomplete. -/
structure Furnished (bucket : String) (stored : Option Payload) : Prop where
  instants : ∀ key entry, (instantsOf bucket stored).get? key = some entry → entry.1.isSome
  routes : ∀ key entry, (routesOf bucket stored).get? key = some entry → entry.1 ≠ [] ∧ entry.2 ≠ []
  keys : ∀ key ∈ (itemsOf bucket stored).keys, separator ∈ key.toList
  items : ∀ key item, (itemsOf bucket stored).get? key = some item → Enriched item

/-- What a run computes for the objects it matched. -/
def runTimestamps (settings : Settings) (selected : Selected) : Timestamps :=
  getTimestamps (matchAndAccumulate selected.dedupedOps settings.rules) settings.bucketName

def runRouting (settings : Settings) (selected : Selected) : Routing :=
  getRouting (matchAndAccumulate selected.dedupedOps settings.rules) settings.bucketName

/-- A report that a run which finds the object may merge. -/
def MayMerge (settings : Settings) (env : RunEnv) (found : Option Payload) (jobId : String)
    (report : BopsCompletionReport) : Prop :=
  (recordFor settings.bucketName found jobId).isSome ∧
    jobId ∉ processedJobIds settings.bucketName found ∧
    ∃ job, viewJob env jobId = .terminal job ∧ completionReportOf env jobId job = some report

/-- How far a run has changed the object it found. -/
structure Carries (settings : Settings) (chosen : Option Selected)
    (found object : Option Payload) : Prop where
  furnished : Furnished settings.bucketName object
  processed : ∀ jobId ∈ processedJobIds settings.bucketName found,
    jobId ∈ processedJobIds settings.bucketName object
  filed : ∀ key, Filed settings.bucketName found key → Filed settings.bucketName object key
  instants : ∀ selected, chosen = some selected →
    Within hasInstant (instantsOf settings.bucketName found)
    (runTimestamps settings selected) (instantsOf settings.bucketName object)
  routes : ∀ selected, chosen = some selected → Within hasRoute (routesOf settings.bucketName found)
    (sortedRouting (runRouting settings selected)) (routesOf settings.bucketName object)

theorem carries_found (furnished : Furnished settings.bucketName found) :
    Carries settings chosen found found :=
  ⟨furnished, fun _ listed => listed, fun _ filed => filed, fun _ _ =>
    within_base, fun _ _ => within_base⟩

section Steps
variable {settings : Settings} {env : RunEnv} {chosen : Option Selected}
  {found object : Option Payload}
  {after : Payload} {op : StateOp}

/-- Below the ceiling the enrichment of what a run matches fits both maps. -/
def FitsMaps (settings : Settings) (chosen : Option Selected) (found : Option Payload) : Prop :=
  ∀ selected, chosen = some selected →
    StaysBelow (payloadOrDefault settings.bucketName found) (runTimestamps settings selected)
      (runRouting settings selected)

/-- The rows a run may merge are of real versions whose enrichment is filed. -/
def RowsFiled (settings : Settings) (env : RunEnv) (found : Option Payload) : Prop :=
  ∀ jobId report, MayMerge settings env found jobId report → ∀ row ∈ report.entries,
    RealVersion row.versionId ∧ Filed settings.bucketName found (rowKey row)

theorem readSideMapEntry_real {sideMap : Dict String ν} (real : RealVersion versionId)
    (filed : (sideMap.get? (itemKey objectKey versionId)).isSome) :
    readSideMapEntry sideMap objectKey versionId = sideMap.get? (itemKey objectKey versionId) := by
  obtain ⟨entry, found⟩ := Option.isSome_iff_exists.mp filed
  rw [readSideMapEntry, sideMapKey, versionOrNone_real real, found]

theorem mergedBody_maps {ctx : MergeContext} {payload : Payload}
    (none : (boundedItems ctx report payload).2 = []) :
    (mergedBody ctx report payload).completionTimestamps = payload.completionTimestamps ∧
      (mergedBody ctx report payload).completionRouting = payload.completionRouting := by
  have all : ∀ {ν : Type} (d : Dict String ν),
      d.filter (fun key _ => key ∉ ([] : List String)) = d := by
    intro ν d
    exact Dict.ext (List.filter_eq_self.mpr fun _ _ => by simp)
  simp only [mergedBody, none, List.flatMap_nil]
  exact ⟨all _, all _⟩

theorem merge_maps (plain : separator ∉ settings.bucketName.toList)
    (furnished : Furnished settings.bucketName object)
    (applied : (StateOp.mergeCompletionReport report configId jobId createdAt timestamps).apply
      settings.bucketName object = some after) :
    instantsOf settings.bucketName (some after) = instantsOf settings.bucketName object ∧
      routesOf settings.bucketName (some after) = routesOf settings.bucketName object := by
  have none := merge_evicts_none plain furnished.keys applied
  obtain ⟨_, rfl⟩ := merge_applied applied
  exact mergedBody_maps none

/-- A merge gives every item it creates the enrichment filed for it. -/
theorem merge_items_enriched (furnished : Furnished settings.bucketName object)
    (rows : ∀ row ∈ report.entries, RealVersion row.versionId ∧
      Filed settings.bucketName object (rowKey row))
    (applied : (StateOp.mergeCompletionReport report settings.bucketName jobId createdAt none).apply
      settings.bucketName object = some after) :
    ∀ key item, (itemsOf settings.bucketName (some after)).get? key =
      some item → Enriched item := by
  obtain ⟨_, rfl⟩ := merge_applied applied
  intro key item found
  refine mergedItems_all (fun _ item => Enriched item) furnished.items ?_ ?_ key item
    (mergedBody_items_sub found)
  · intro row listed
    obtain ⟨real, filed⟩ := rows row listed
    obtain ⟨instants, timed⟩ := Option.isSome_iff_exists.mp filed.instants
    obtain ⟨route, routed⟩ := Option.isSome_iff_exists.mp filed.routes
    have instantsRead : readSideMapEntry
        (payloadOrDefault settings.bucketName object).completionTimestamps
        row.objectKey row.versionId = some instants :=
          (readSideMapEntry_real real filed.instants).trans timed
    have routeRead : readSideMapEntry
        (payloadOrDefault settings.bucketName object).completionRouting
        row.objectKey row.versionId = some route :=
          (readSideMapEntry_real real filed.routes).trans routed
    obtain ⟨rules, destinations⟩ := furnished.routes _ route routed
    constructor
    · simp only [resolve, freshItem, mergeContext, routeRead]
      exact rules
    · simp only [resolve, freshItem, enrichment, suppliedTimestamp, mergeContext, instantsRead]
      exact furnished.instants _ instants timed
    · simp only [resolve, freshItem, mergeContext, routeRead]
      exact destinations
  · intro row _ item enriched
    exact ⟨enriched.rules, enriched.tagged, enriched.destinations⟩

/-- The four maps a step of a run that neither merges nor stores enrichment leaves alone. -/
structure SameEnrichment (bucket : String) (first second : Option Payload) : Prop where
  items : itemsOf bucket second = itemsOf bucket first
  processed : processedJobIds bucket second = processedJobIds bucket first
  instants : instantsOf bucket second = instantsOf bucket first
  routes : routesOf bucket second = routesOf bucket first

theorem enrichment_cases (permitted : RunStep settings env chosen found object op)
    (applied : op.apply settings.bucketName object = some after) :
    (∃ report jobId createdAt,
      op = .mergeCompletionReport report settings.bucketName jobId createdAt none ∧
      MergesRecorded settings env found object report jobId createdAt) ∨
    (∃ selected, chosen = some selected ∧ after = storeCompletionTimestamps settings.bucketName
      (runTimestamps settings selected) (some (runRouting settings selected)) object) ∨
    SameEnrichment settings.bucketName object (some after) := by
  by_cases foreign : PayloadKey.completionTimestamps ∈ op.ownedKeys
  · cases op with
    | mergeCompletionReport report configId jobId createdAt timestamps =>
      obtain ⟨rfl, rfl, merges⟩ := permitted
      exact .inl ⟨report, jobId, createdAt, rfl, merges⟩
    | storeCompletionTimestamps timestamps routing =>
      obtain ⟨selected, same, rfl, rfl⟩ := permitted
      cases applied
      exact .inr (.inl ⟨selected, same, rfl⟩)
    | deleteCompletionItems => exact permitted.elim
    | _ => simp [StateOp.ownedKeys, StateOp.checkpointKeys] at foreign
  · have others : ∀ key ∈ [PayloadKey.completionItems,
        .completionProcessedJobIds, .completionRouting],
        key ∉ op.ownedKeys := by
      intro key listed owned
      apply foreign
      cases op <;> simp [StateOp.ownedKeys, StateOp.checkpointKeys] at owned listed ⊢ <;>
        rcases listed with rfl | rfl | rfl <;> simp at owned
    exact .inr (.inr ⟨itemsOf_frame applied (others _ (by simp)),
      processedIds_frame applied (others _ (by simp)),
      Eq.symm (StateOp.frame applied foreign),
      Eq.symm (StateOp.frame applied (others .completionRouting (by simp)))⟩)

/-- Storing the enrichment of a run keeps what is filed and files nothing incomplete. -/
theorem carries_store (named : ∀ rule ∈ settings.rules, rule.destinationBucketArn ≠ "")
    (fits : FitsMaps settings (some selected) found)
    (carries : Carries settings (some selected) found object) :
    Carries settings (some selected) found (some (storeCompletionTimestamps settings.bucketName
      (runTimestamps settings selected) (some (runRouting settings selected)) object)) := by
  obtain ⟨below, belowRoutes⟩ := fits selected rfl
  have instants := carries.instants selected rfl
  have routes := carries.routes selected rfl
  have complete := complete_matchAndAccumulate selected.dedupedOps named
  constructor
  case furnished =>
    refine ⟨addEntries_all _ carries.furnished.instants (getTimestamps_complete complete), ?_,
      carries.furnished.keys, carries.furnished.items⟩
    refine addEntries_all _ carries.furnished.routes ?_
    rintro ⟨key, route⟩ member
    obtain ⟨⟨key, given⟩, listed, same⟩ := List.mem_map.mp member
    obtain ⟨rfl, rfl⟩ := Prod.mk.inj same
    obtain ⟨rules, destinations⟩ := getRouting_complete complete _ listed
    exact ⟨sorted_ne_nil rules, sorted_ne_nil destinations⟩
  case processed => exact carries.processed
  case filed =>
    intro key filed
    have before := carries.filed key filed
    exact ⟨isSome_addEntries (instants.below below) (.inl before.instants),
      isSome_addEntries (routes.below belowRoutes) (.inl before.routes)⟩
  case instants =>
    rintro _ ⟨⟩
    exact instants.stored below
  case routes =>
    rintro _ ⟨⟩
    exact routes.stored belowRoutes

theorem Carries.of_same (carries : Carries settings chosen found object)
    (same : SameEnrichment settings.bucketName object later) :
    Carries settings chosen found later := by
  obtain ⟨⟨timed, routed, keys, items⟩, processed, filed, instants, routes⟩ := carries
  refine ⟨⟨same.instants ▸ timed, same.routes ▸ routed, same.items ▸ keys, same.items ▸ items⟩,
    same.processed ▸ processed, fun key before =>
      ?_, same.instants ▸ instants, same.routes ▸ routes⟩
  exact ⟨same.instants ▸ (filed key before).instants, same.routes ▸ (filed key before).routes⟩

/-- What one step of a run preserves. -/
theorem carries_step (plain : separator ∉ settings.bucketName.toList)
    (named : ∀ rule ∈ settings.rules, rule.destinationBucketArn ≠ "")
    (fits : FitsMaps settings chosen found) (rows : RowsFiled settings env found)
    (carries : Carries settings chosen found object)
    (permitted : RunStep settings env chosen found object op)
    (applied : op.apply settings.bucketName object = some after) :
    Carries settings chosen found (some after) := by
  rcases enrichment_cases permitted applied with
    ⟨report, jobId, createdAt, rfl, merges⟩ | ⟨selected, rfl, rfl⟩ | same
  · obtain ⟨job, viewed, _, readable⟩ := merges.described
    have mayMerge : MayMerge settings env found jobId report :=
      ⟨merges.recorded, fun listed => merges.unprocessed (carries.processed jobId listed),
        job, viewed, readable⟩
    have filed : ∀ row ∈ report.entries, RealVersion row.versionId ∧
        Filed settings.bucketName object (rowKey row) := by
      intro row listed
      obtain ⟨real, before⟩ := rows jobId report mayMerge row listed
      exact ⟨real, carries.filed _ before⟩
    obtain ⟨instants, routes⟩ := merge_maps plain carries.furnished applied
    obtain ⟨items, ids⟩ := merge_items applied
    have enriched := merge_items_enriched carries.furnished filed applied
    obtain ⟨⟨timed, routed, keys, _⟩, processed, kept, within, withinRoutes⟩ := carries
    refine ⟨⟨instants ▸ timed, routes ▸ routed, fun key listed => ?_, enriched⟩,
      fun other listed => (ids other).mpr (.inr (processed other listed)), fun key before => ?_,
      instants ▸ within, routes ▸ withinRoutes⟩
    · obtain ⟨item, present⟩ := Dict.mem_keys_iff.mp listed
      rcases items key item present with old | ⟨shaped, _⟩
      · exact keys key (Dict.mem_keys_iff.mpr ⟨item, old⟩)
      · exact shaped
    · exact ⟨instants ▸ (kept key before).instants, routes ▸ (kept key before).routes⟩
  · exact carries_store named fits carries
  · exact carries.of_same same

theorem carries_steps (plain : separator ∉ settings.bucketName.toList)
    (named : ∀ rule ∈ settings.rules, rule.destinationBucketArn ≠ "")
    (fits : FitsMaps settings chosen found) (rows : RowsFiled settings env found)
    (carries : Carries settings chosen found object)
    (path : Steps settings.bucketName (RunStep settings env chosen found) object last) :
    Carries settings chosen found last :=
  path.preserves (Carries settings chosen found)
    (fun _ _ _ permitted applied carries =>
      carries_step plain named fits rows carries permitted applied) carries

/-- What is filed when a run stores its enrichment is filed when it ends. -/
theorem filed_steps (plain : separator ∉ settings.bucketName.toList)
    (named : ∀ rule ∈ settings.rules, rule.destinationBucketArn ≠ "")
    (fits : FitsMaps settings chosen found) (rows : RowsFiled settings env found)
    (carries : Carries settings chosen found object) (filed : Filed settings.bucketName object key)
    (path : Steps settings.bucketName (RunStep settings env chosen found) object last) :
    Filed settings.bucketName last key := by
  have kept := path.preserves
    (fun later => Carries settings chosen found later ∧
      Filed settings.bucketName later key) ?_ ⟨carries, filed⟩
  · exact kept.2
  · rintro stored op after permitted applied ⟨carries, filed⟩
    refine ⟨carries_step plain named fits rows carries permitted applied, ?_⟩
    rcases enrichment_cases permitted applied with
      ⟨report, jobId, createdAt, rfl, merges⟩ | ⟨selected, rfl, rfl⟩ | same
    · obtain ⟨instants, routes⟩ := merge_maps plain carries.furnished applied
      exact ⟨instants ▸ filed.instants, routes ▸ filed.routes⟩
    · obtain ⟨below, belowRoutes⟩ := fits selected rfl
      exact ⟨isSome_addEntries ((carries.instants selected rfl).below below) (.inl filed.instants),
        isSome_addEntries ((carries.routes selected rfl).below belowRoutes) (.inl filed.routes)⟩
    · exact ⟨same.instants ▸ filed.instants, same.routes ▸ filed.routes⟩

end Steps
end ReplicateOnTag.Orchestrator

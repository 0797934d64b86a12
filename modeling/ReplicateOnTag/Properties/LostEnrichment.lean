import ReplicateOnTag.Library.Awaiting
import ReplicateOnTag.Orchestrator.Enrichment
import ReplicateOnTag.Orchestrator.Timeline
import ReplicateOnTag.Properties.UniformQuiescence

/-! When the enrichment of an object version is still there for the job whose
report needs it: publishing the item of one job removes what a second job on the
same version was going to read. -/
namespace ReplicateOnTag.Orchestrator
open StateStore ManifestGenerator Awaiting

/-- The matched rules a run computed for an object version. -/
def computedRules (settings : Settings) (ran : Ran) (objectKey : String)
    (versionId : Option String) :
    List String :=
  match (ran.report settings).selected with
  | none => []
  | some selected =>
      (((runRouting settings selected).get? (transportKey objectKey versionId)).map
        Prod.fst).getD []

/-- A run submitted the job and computed rules for the object version. -/
def MatchedForJob (settings : Settings) (past : List Moment) (jobId objectKey : String)
    (versionId : Option String) : Prop :=
  ∃ ran ∈ runs past, ((ran.report settings).submission.map fun submission =>
    submission.record.jobId) =
    some jobId ∧ computedRules settings ran objectKey versionId ≠ []

/-- Items with the outcome of a job whose run matched them are enriched. -/
def EnrichmentSurvives (settings : Settings) (past : List Moment)
    (stored : Option Payload) : Prop :=
  ∀ objectKey versionId item jobId,
    (itemsOf settings.bucketName stored).get? (itemKey objectKey versionId) = some item →
    contextJob settings.bucketName item = some jobId →
    MatchedForJob settings past jobId objectKey versionId → Enriched item

/-- Writes are served, the side maps stay below their ceiling, and a report
names the rows of its job's manifest. -/
structure RunsRegularly (settings : Settings) (past : List Moment) (env : RunEnv)
    (found : Option Payload) :
    Prop where
  served : ∀ site, env.writes site = .served
  below : FitsMaps settings (runBucket settings env found).selected found
  rows : ∀ jobId report, MayMerge settings env found jobId report → ∀ row ∈ report.entries,
    RealVersion row.versionId ∧ MatchedForJob settings past jobId row.objectKey row.versionId

def RegularEvent (settings : Settings) (past : List Moment) (event : Event)
    (found : Option Payload) : Prop :=
  ∀ env, event = .run env → RunsRegularly settings past env found

/-- The event is a run that computed rules for the object version. -/
def Computes (settings : Settings) (objectKey : String) (versionId : Option String)
    (moment : Moment) : Prop :=
  ∃ ran, moment.ran = some ran ∧ computedRules settings ran objectKey versionId ≠ []

/-- The item of the object version is removed. -/
def Removes (settings : Settings) (objectKey : String) (versionId : Option String)
    (moment : Moment) : Prop :=
  itemKey objectKey versionId ∈ (itemsOf settings.bucketName moment.found).keys ∧
    itemKey objectKey versionId ∉
      (itemsOf settings.bucketName (moment.event.after settings moment.found)).keys

/-- The item of the version was removed, and no run has matched it since. -/
def Orphaned (settings : Settings) (past : List Moment) (objectKey : String)
    (versionId : Option String) : Prop :=
  Lost (Computes settings objectKey versionId) (Removes settings objectKey versionId) past

/-- No report that the event may merge names an orphaned version. -/
def NamesNoOrphan (settings : Settings) (past : List Moment) (event : Event)
    (found : Option Payload) : Prop :=
  ∀ env, event = .run env → ∀ jobId report, MayMerge settings env found jobId report →
    ∀ row ∈ report.entries, ¬ Orphaned settings past row.objectKey row.versionId

section Filing
variable {settings : Settings} {env : RunEnv} {found : Option Payload}

theorem sideMapKey_transport (real : RealVersion versionId) :
    sideMapKey objectKey (some (versionId.getD "")) = itemKey objectKey versionId := by
  cases versionId with
  | none => rfl
  | some version => rw [Option.getD_some, sideMapKey, versionOrNone_real real]

/-- A run files what it computed for a version in both maps. -/
theorem filed_run (plain : separator ∉ settings.bucketName.toList)
    (named : ∀ rule ∈ settings.rules, rule.destinationBucketArn ≠ "")
    (furnished : Furnished settings.bucketName found) (served : ∀ site, env.writes site = .served)
    (fits : FitsMaps settings (runBucket settings env found).selected found)
    (rows : RowsFiled settings env found) (real : RealVersion versionId)
    (computes : computedRules settings ⟨env, found⟩ objectKey versionId ≠ []) :
    Filed settings.bucketName (runBucket settings env found).stored
      (itemKey objectKey versionId) := by
  simp only [computedRules, Ran.report] at computes
  cases chose : (runBucket settings env found).selected with
  | none => simp [chose] at computes
  | some selected =>
    simp only [chose] at computes
    rw [chose] at fits
    cases routed : (runRouting settings selected).get? (transportKey objectKey versionId) with
    | none => simp [routed] at computes
    | some route =>
      have rules : route.1 ≠ [] := by simpa [routed] using computes
      have listed := Dict.mem_entries_ofList (Dict.mem_entries_iff.mpr routed)
      obtain ⟨row, member, same⟩ := List.mem_map.mp listed
      have matched : bucketEntries (matchAndAccumulate selected.dedupedOps settings.rules)
          settings.bucketName ≠ [] := List.ne_nil_of_mem member
      have timed : transportKey objectKey versionId ∈ (runTimestamps settings selected).keys := by
        rw [runTimestamps, getTimestamps, Dict.mem_keys_ofList, List.map_map]
        exact List.mem_map.mpr ⟨row, member, congrArg Prod.fst same⟩
      obtain ⟨instants, given⟩ := Dict.mem_keys_iff.mp timed
      obtain ⟨middle, _, _, ⟨rfl, ⟨⟩⟩, before, after⟩ := runBucket_stamped served chose matched
      have carries := carries_steps plain named fits rows (carries_found furnished) before
      have stored := carries_store named fits carries
      obtain ⟨below, belowRoutes⟩ := fits selected rfl
      have complete := complete_matchAndAccumulate selected.dedupedOps named
      refine filed_steps plain named fits rows stored ⟨?_, ?_⟩ after
      · refine isSome_addEntries ((carries.instants selected rfl).below below) (.inr ⟨_,
          Dict.mem_entries_iff.mpr given, sideMapKey_transport real, ?_⟩)
        have tagged := getTimestamps_complete complete _ (Dict.mem_entries_iff.mpr given)
        simp [hasInstant, tagged]
      · refine isSome_addEntries ((carries.routes selected rfl).below belowRoutes) (.inr ⟨_,
          List.mem_map.mpr ⟨_, Dict.mem_entries_iff.mpr routed, rfl⟩,
            sideMapKey_transport real, ?_⟩)
        simp only [hasRoute, sortedRoute, Bool.or_eq_true, Bool.not_eq_true',
          List.isEmpty_eq_false_iff]
        exact .inl (sorted_ne_nil rules)

end Filing

section Reachability
variable {settings : Settings} {past : List Moment} {stored : Option Payload}

/-- What is stored is complete, and a version that was matched since its item
was last removed has its enrichment. -/
structure Supplied (settings : Settings) (past : List Moment) (stored : Option Payload) : Prop where
  furnished : Furnished settings.bucketName stored
  held : ∀ objectKey versionId, RealVersion versionId →
    Held (Computes settings objectKey versionId) (Removes settings objectKey versionId) past →
    Filed settings.bucketName stored (itemKey objectKey versionId)

theorem supplied_deployed (deployed : Deployed settings stored) : Supplied settings [] stored := by
  have none := itemsOf_deployed deployed
  have maps : instantsOf settings.bucketName stored = .empty ∧
      routesOf settings.bucketName stored = .empty := by
    rcases deployed with rfl | ⟨now, rfl⟩
    · exact ⟨rfl, rfl⟩
    · exact ⟨rfl, rfl⟩
  constructor
  · constructor
    · intro key entry found
      rw [maps.1, Dict.get?_empty] at found
      cases found
    · intro key entry found
      rw [maps.2, Dict.get?_empty] at found
      cases found
    · intro key listed
      rw [none] at listed
      exact absurd listed List.not_mem_nil
    · intro key item found
      rw [none, Dict.get?_empty] at found
      cases found
  · intro objectKey versionId _ held
    exact absurd held not_held_nil

theorem computes_of_matched (matched : MatchedForJob settings past jobId objectKey versionId) :
    ∃ moment ∈ past, Computes settings objectKey versionId moment := by
  obtain ⟨ran, listed, _, computed⟩ := matched
  obtain ⟨moment, member, own⟩ := List.mem_filterMap.mp listed
  exact ⟨moment, member, ran, own, computed⟩

theorem rowsFiled_of_supplied (supplied : Supplied settings past stored)
    (regular : RunsRegularly settings past env stored)
    (spared : NamesNoOrphan settings past (.run env) stored) : RowsFiled settings env stored := by
  intro jobId report mayMerge row listed
  obtain ⟨real, matched⟩ := regular.rows jobId report mayMerge row listed
  have orphaned := spared env rfl jobId report mayMerge row listed
  exact ⟨real, supplied.held _ _ real (held_of_not_lost (computes_of_matched matched) orphaned)⟩

theorem supplied_run (plain : separator ∉ settings.bucketName.toList)
    (named : ∀ rule ∈ settings.rules, rule.destinationBucketArn ≠ "")
    (supplied : Supplied settings past stored) (regular : RunsRegularly settings past env stored)
    (spared : NamesNoOrphan settings past (.run env) stored) :
    Supplied settings (past ++ [⟨.run env, stored⟩]) (runBucket settings env stored).stored := by
  have rows := rowsFiled_of_supplied supplied regular spared
  have carries := carries_steps plain named regular.below rows (carries_found supplied.furnished)
    (runBucket_steps settings env stored)
  refine ⟨carries.furnished, fun objectKey versionId real held => ?_⟩
  rcases held_next.mp held with ⟨_, ⟨⟩, computed⟩ | ⟨before, _⟩
  · exact filed_run plain named supplied.furnished regular.served regular.below rows real computed
  · exact carries.filed _ (supplied.held objectKey versionId real before)

/-- Deleting items removes the enrichment of those items and of no other version. -/
theorem filed_delete (real : RealVersion versionId)
    (filed : Filed bucket stored (itemKey objectKey versionId))
    (spared : itemKey objectKey versionId ∉ itemKeys) :
    Filed bucket (some (deleteCompletionItems bucket itemKeys stored))
      (itemKey objectKey versionId) := by
  have kept : itemKey objectKey versionId ∉ itemKeys.flatMap sideMapKeyVariants := by
    intro listed
    obtain ⟨key, member, variant⟩ := List.mem_flatMap.mp listed
    rcases sideMapKeyVariants_cases variant with same | ⟨other, legacy⟩
    · exact spared (same ▸ member)
    · exact real_ne_legacy real legacy
  obtain ⟨⟨instants, timed⟩, route, routed⟩ :=
    And.intro (Option.isSome_iff_exists.mp filed.instants)
      (Option.isSome_iff_exists.mp filed.routes)
  constructor
  · simp only [instantsOf, payloadOrDefault, Option.getD_some, deleteCompletionItems,
      Dict.get?_filter] at timed ⊢
    simp [timed, kept]
  · simp only [routesOf, payloadOrDefault, Option.getD_some, deleteCompletionItems,
      Dict.get?_filter] at routed ⊢
    simp [routed, kept]

theorem furnished_delete (furnished : Furnished bucket stored) (itemKeys : List String) :
    Furnished bucket (some (deleteCompletionItems bucket itemKeys stored)) := by
  have sub : ∀ {ν : Type} (d : Dict String ν) (p : String → ν → Bool) (key : String) (value : ν),
      (d.filter p).get? key = some value → d.get? key = some value := by
    intro ν d p key value found
    rw [Dict.get?_filter] at found
    exact (Option.filter_eq_some_iff.mp found).1
  refine ⟨fun key entry found => furnished.instants key entry (sub _ _ _ _ found),
    fun key entry found => furnished.routes key entry (sub _ _ _ _ found), fun key listed => ?_,
    fun key item found => furnished.items key item (sub _ _ _ _ found)⟩
  obtain ⟨item, found⟩ := Dict.mem_keys_iff.mp listed
  exact furnished.keys key (Dict.mem_keys_iff.mpr ⟨item, sub _ _ _ _ found⟩)

theorem supplied_publish (env : PublishEnv) (supplied : Supplied settings past stored) :
    Supplied settings (past ++ [⟨.publish env, stored⟩])
      (publishPhase settings env stored).stored := by
  have removes : ∀ key ∈ deliveredKeys (publishPhase settings env stored).delivered,
      key ∈ (itemsOf settings.bucketName stored).keys := by
    intro key listed
    obtain ⟨⟨_, item⟩, flat, rfl⟩ := List.mem_map.mp listed
    obtain ⟨before, present, _⟩ := delivered_stored flat
    exact Dict.mem_keys_iff.mpr ⟨before, completionItemsOf_eq settings.bucketName stored ▸ present⟩
  have held : ∀ objectKey versionId, Held (Computes settings objectKey versionId)
      (Removes settings objectKey versionId) (past ++ [⟨.publish env, stored⟩]) →
        Held (Computes settings objectKey versionId) (Removes settings objectKey versionId) past ∧
          ¬ Removes settings objectKey versionId ⟨.publish env, stored⟩ := by
    intro objectKey versionId held
    rcases held_next.mp held with ⟨_, ⟨⟩, _⟩ | kept
    exact kept
  rcases publishPhase_stored settings env stored with same | deleted
  · rw [same]
    exact ⟨supplied.furnished, fun _ _ real later => supplied.held _ _ real (held _ _ later).1⟩
  · rw [deleted]
    refine ⟨furnished_delete supplied.furnished _, fun objectKey versionId real later => ?_⟩
    obtain ⟨before, kept⟩ := held objectKey versionId later
    refine filed_delete real (supplied.held _ _ real before) fun listed =>
      kept ⟨removes _ listed, ?_⟩
    simp only [Event.after]
    rw [deleted, ← Dict.get?_eq_none_iff, get?_deleteCompletionItems, if_pos listed]

theorem supplied_alerted (jobId : String) (supplied : Supplied settings past stored) :
    Supplied settings (past ++ [⟨.alerted jobId, stored⟩])
      (some (addAlertedConfig settings.bucketName jobId stored)) := by
  refine ⟨⟨supplied.furnished.instants, supplied.furnished.routes, supplied.furnished.keys,
    supplied.furnished.items⟩, fun objectKey versionId real held => ?_⟩
  rcases held_next.mp held with ⟨_, ⟨⟩, _⟩ | ⟨before, _⟩
  obtain ⟨instants, routes⟩ := supplied.held objectKey versionId real before
  exact ⟨instants, routes⟩

theorem timeline_supplied (plain : separator ∉ settings.bucketName.toList)
    (named : ∀ rule ∈ settings.rules, rule.destinationBucketArn ≠ "")
    (path : Timeline settings (Deployed settings) (fun past event found =>
      RegularEvent settings past event found ∧
        NamesNoOrphan settings past event found) past stored) :
    Supplied settings past stored := by
  induction path with
  | start deployed => exact supplied_deployed deployed
  | @next past stored event path permitted ih =>
    cases event with
    | run env => exact supplied_run plain named ih (permitted.1 env rfl) permitted.2
    | publish env => exact supplied_publish env ih
    | alerted jobId => exact supplied_alerted jobId ih

/-- While no report names a version whose item was removed after the last run
that matched it, every item is enriched. -/
theorem enrichment_survives (plain : separator ∉ settings.bucketName.toList)
    (named : ∀ rule ∈ settings.rules, rule.destinationBucketArn ≠ "")
    (path : Timeline settings (Deployed settings) (fun past event found =>
      RegularEvent settings past event found ∧
        NamesNoOrphan settings past event found) past stored) :
    EnrichmentSurvives settings past stored := by
  intro objectKey versionId item jobId found _ _
  exact (timeline_supplied plain named path).furnished.items _ item found

end Reachability

section Sample
open Settings

instance : Decidable (FitsMaps settings chosen found) :=
  decidable_of_iff (∀ selected ∈ chosen,
      BelowCeiling hasInstant (instantsOf settings.bucketName found)
        (runTimestamps settings selected) ∧
        BelowCeiling hasRoute (routesOf settings.bucketName found)
          (sortedRouting (runRouting settings selected)))
    ⟨fun fits selected chose => ⟨(fits selected chose).1, (fits selected chose).2⟩,
      fun fits selected chose => ⟨(fits selected chose).1, (fits selected chose).2⟩⟩

instance : Decidable (MatchedForJob settings past jobId objectKey versionId) :=
  inferInstanceAs (Decidable (∃ ran ∈ runs past, _ ∧ _))

instance : Decidable (Removes settings objectKey versionId moment) :=
  inferInstanceAs (Decidable (_ ∧ _))

def paired : Settings := { tracked with maxConcurrentJobs := 2, concurrencyPositive := Nat.two_pos }

def antReport : BopsCompletionReport := ⟨55, [⟨"ant", none, some "succeeded"⟩]⟩

/-- A run that finds some jobs complete and their reports ready. -/
def pairedRun (now : Instant) (journal : Journal) (complete : List String)
    (reply : CreateReply) : RunEnv :=
  { RunEnv.smooth now journal (fun jobId => some
      (if jobId ∈ complete then ⟨"Complete", some 1, some 0,
        some (if jobId = "job-1" then 25 else 45), none⟩
      else .plain "Active")) reply with
    completionReport := fun jobId => if jobId ∈ complete then some antReport else none }

/-- The object is tagged again, with one tag more. -/
def retagged : JournalRow :=
  { photosRow "ant" "yes" 35 with objectTags := some (Dict.ofList
    [("keep", "yes"), ("owner", "lab")]) }

/-- Two jobs on one version, the first of them reported. -/
def twoJobs : List Event :=
  [.run (pairedRun 20 [photosRow "ant" "yes" 15] [] (.created "job-1")),
    .run (pairedRun 40 [photosRow "ant" "yes" 15, retagged] [] (.created "job-2")),
    .run (pairedRun 60 [] ["job-1"] (.rejected .service))]

/-- The first outcome is published before the second job is reported. -/
def overlapping : List Event :=
  twoJobs ++ [.publish (.smooth 70), .run (pairedRun 80 [] ["job-1", "job-2"] (.rejected .service))]

def photosSeeded : Option Payload := some (seedCheckpoint "photos" 10)

theorem regular_pairedRun {past : List Moment} {found : Option Payload}
    (below : FitsMaps paired (runBucket paired (pairedRun now journal complete reply)
      found).selected found)
    (matched : ∀ jobId ∈ complete, jobId ∉ processedJobIds "photos" found →
      MatchedForJob paired past jobId "ant" none) :
    RegularEvent paired past (.run (pairedRun now journal complete reply)) found := by
  rintro _ ⟨⟩
  refine ⟨fun _ => rfl, below, ?_⟩
  rintro jobId report ⟨_, unprocessed, job, _, read⟩ row listed
  rw [completionReportOf] at read
  split at read
  · split at read
    · obtain ⟨_, _, rfl⟩ := Option.map_eq_some_iff.mp read
      cases listed
    · simp only [pairedRun] at read
      split at read
      · rename_i done
        cases read
        cases List.mem_singleton.mp listed
        exact ⟨⟨nofun, nofun⟩, matched jobId done unprocessed⟩
      · cases read
  · cases read

theorem spared_pairedRun {past : List Moment} {found : Option Payload}
    (kept : ∀ moment ∈ past, ∀ key ∈ (itemsOf "photos" moment.found).keys,
      key ∈ (itemsOf "photos" (moment.event.after paired moment.found)).keys) :
    NamesNoOrphan paired past (.run (pairedRun now journal complete reply)) found := by
  rintro env _ jobId report _ row _ orphaned
  obtain ⟨moment, member, removes⟩ := orphaned.lost
  exact removes.2 (kept moment member _ removes.1)

theorem twoJobs_regular : Allows paired (RegularEvent paired) twoJobs [] photosSeeded := by
  refine ⟨regular_pairedRun (by decide +kernel) (by decide +kernel),
    regular_pairedRun (by decide +kernel) (by decide +kernel),
    regular_pairedRun (by decide +kernel) (by decide +kernel), trivial⟩

theorem overlapping_regular : Allows paired (RegularEvent paired) overlapping [] photosSeeded := by
  obtain ⟨first, second, third, _⟩ := twoJobs_regular
  exact ⟨first, second, third, nofun,
    regular_pairedRun (by decide +kernel) (by decide +kernel), trivial⟩

/-- The item of the first report is enriched while its job is the one reported. -/
theorem enrichment_survives_two_jobs :
    EnrichmentSurvives paired (happen paired twoJobs [] photosSeeded).1
      (happen paired twoJobs [] photosSeeded).2 := by
  obtain ⟨first, second, third, _⟩ := twoJobs_regular
  refine enrichment_survives (by decide) (by decide)
    (timeline_happen paired twoJobs (.start (.inr ⟨10, rfl⟩))
    ⟨⟨first, spared_pairedRun fun _ listed => absurd listed List.not_mem_nil⟩,
      ⟨second, spared_pairedRun (by decide +kernel)⟩,
        ⟨third, spared_pairedRun (by decide +kernel)⟩, trivial⟩)

/-- Publishing the first outcome leaves nothing for the second report. -/
theorem enrichment_lost :
    ¬ ∀ settings past stored, separator ∉ settings.bucketName.toList →
      (∀ rule ∈ settings.rules, rule.destinationBucketArn ≠ "") →
      Timeline settings (Deployed settings) (RegularEvent settings) past stored →
      EnrichmentSurvives settings past stored := by
  intro survives
  have kept := survives paired _ _ (by decide) (by decide)
    (timeline_happen paired overlapping (.start (.inr ⟨10, rfl⟩)) overlapping_regular)
  have bare : ((itemsOf "photos" (happen paired overlapping [] photosSeeded).2).get?
      (itemKey "ant" none)).map
      (fun item => (contextJob "photos" item, item.matchedRules)) =
        some (some "job-2", []) := by decide +kernel
  obtain ⟨item, present, same⟩ := Option.map_eq_some_iff.mp bare
  obtain ⟨job, rules⟩ := Prod.mk.inj same
  have enriched := kept "ant" none item "job-2" present job (by decide +kernel)
  exact enriched.rules rules

end Sample
end ReplicateOnTag.Orchestrator

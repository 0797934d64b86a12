import ReplicateOnTag.Orchestrator.ItemSteps
import ReplicateOnTag.Properties.UniformQuiescence

/-! What publishing loses and repeats: an item leaves when its batch was
delivered, and no outcome of a job is delivered twice. -/
namespace ReplicateOnTag.Orchestrator
open StateStore

/-- The outcomes in batches that were published, in order. -/
def deliveries (settings : Settings) (past : List Moment) : List (String × Option String) :=
  past.flatMap fun moment =>
    match moment.event with
    | .publish env => (publishPhase settings env moment.found).delivered.flatten.map fun entry =>
        (entry.1, contextJob settings.bucketName entry.2)
    | _ => []

/-- Items leave only when delivered, those of failed batches stay as they are,
and a job whose report was merged changes no item again. -/
structure LosesNothing (settings : Settings) (moment : Moment) : Prop where
  left : ∀ key ∈ (itemsOf settings.bucketName moment.found).keys,
    key ∉ (itemsOf settings.bucketName (moment.event.after settings moment.found)).keys →
    ∃ env, moment.event = .publish env ∧
      key ∈ deliveredKeys (publishPhase settings env moment.found).delivered
  failed : ∀ env, moment.event = .publish env → ∀ number batch,
    (publishPhase settings env moment.found).batches[number]? = some batch →
      env.publishes number = false →
    ∀ entry ∈ batch, (itemsOf settings.bucketName
      (moment.event.after settings moment.found)).get? entry.1 =
      (itemsOf settings.bucketName moment.found).get? entry.1
  merged : ∀ jobId ∈ processedJobIds settings.bucketName moment.found, ∀ key item,
    (itemsOf settings.bucketName (moment.event.after settings moment.found)).get? key = some item →
    contextJob settings.bucketName item = some jobId →
    (itemsOf settings.bucketName moment.found).get? key = some item

section Steps
variable {settings : Settings} {env : RunEnv} {found stored : Option Payload}

/-- Items are filed under item keys, each with the outcome of a processed job
that was not delivered. -/
structure Stocked (bucket : String) (delivered : List (String × Option String))
    (stored : Option Payload) :
    Prop where
  keys : ∀ key ∈ (itemsOf bucket stored).keys, separator ∈ key.toList
  processed : ∀ key item, (itemsOf bucket stored).get? key = some item →
    ∃ jobId ∈ processedJobIds bucket stored, contextJob bucket item = some jobId
  old : ∀ entry ∈ delivered, ∃ jobId ∈ processedJobIds bucket stored, entry.2 = some jobId
  fresh : ∀ key item, (itemsOf bucket stored).get? key = some item →
    (key, contextJob bucket item) ∉ delivered

theorem stocked_step (stocked : Stocked settings.bucketName delivered stored)
    (permitted : RunStep settings env chosen found stored op)
    (applied : op.apply settings.bucketName stored = some after) :
    Stocked settings.bucketName delivered (some after) := by
  rcases step_cases permitted applied with ⟨report, jobId, createdAt, rfl, unmerged⟩ | ⟨items, ids⟩
  · obtain ⟨items, ids⟩ := merge_items applied
    have kept : ∀ other ∈ processedJobIds settings.bucketName stored,
        other ∈ processedJobIds settings.bucketName (some after) := fun other listed =>
      (ids other).mpr (.inr listed)
    refine ⟨fun key listed => ?_, fun key item present => ?_, fun entry listed => ?_,
      fun key item present listed => ?_⟩
    · obtain ⟨item, present⟩ := Dict.mem_keys_iff.mp listed
      rcases items key item present with old | ⟨shaped, _⟩
      · exact stocked.keys key (Dict.mem_keys_iff.mpr ⟨item, old⟩)
      · exact shaped
    · rcases items key item present with old | ⟨_, own⟩
      · obtain ⟨other, listed, own⟩ := stocked.processed key item old
        exact ⟨other, kept other listed, own⟩
      · exact ⟨jobId, (ids jobId).mpr (.inl rfl), own⟩
    · obtain ⟨other, known, own⟩ := stocked.old entry listed
      exact ⟨other, kept other known, own⟩
    · rcases items key item present with old | ⟨_, own⟩
      · exact stocked.fresh key item old listed
      · obtain ⟨other, known, same⟩ := stocked.old _ listed
        rw [own, Option.some.injEq] at same
        exact unmerged (same ▸ known)
  · obtain ⟨keys, processed, old, fresh⟩ := stocked
    exact ⟨items ▸ keys, by rw [items, ids]; exact processed, by rw [ids]; exact old, items ▸ fresh⟩

theorem stocked_run (stocked : Stocked settings.bucketName delivered found) :
    Stocked settings.bucketName delivered (runBucket settings env found).stored :=
  (runBucket_steps settings env found).preserves (Stocked settings.bucketName delivered)
    (fun _ _ _ permitted applied stocked => stocked_step stocked permitted applied) stocked

/-- A run keeps every item, and no item changes to the outcome of a processed job. -/
theorem run_losesNothing (plain : separator ∉ settings.bucketName.toList)
    (stocked : Stocked settings.bucketName delivered found) :
    LosesNothing settings ⟨.run env, found⟩ := by
  have kept := (runBucket_steps settings env found).preserves
    (fun object => Stocked settings.bucketName delivered object ∧
      (∀ key ∈ (itemsOf settings.bucketName found).keys,
        key ∈ (itemsOf settings.bucketName object).keys) ∧
      ∀ jobId ∈ processedJobIds settings.bucketName found,
        jobId ∈ processedJobIds settings.bucketName object ∧
        ∀ key item, (itemsOf settings.bucketName object).get? key = some item →
          contextJob settings.bucketName item = some jobId →
            (itemsOf settings.bucketName found).get? key = some item) ?_
    ⟨stocked, fun _ listed => listed, fun _ known => ⟨known, fun _ _ present _ => present⟩⟩
  · refine ⟨fun key listed gone => absurd (kept.2.1 key listed) gone, nofun,
      fun jobId known key item => ?_⟩
    exact (kept.2.2 jobId known).2 key item
  · rintro object op after permitted applied ⟨stocked, keys, merged⟩
    refine ⟨stocked_step stocked permitted applied, fun key listed => ?_, fun jobId known => ?_⟩
    · rcases step_cases permitted applied with ⟨report, jobId, createdAt, rfl, _⟩ | ⟨items, _⟩
      · exact merge_evicts_nothing plain stocked.keys applied key (keys key listed)
      · exact items ▸ keys key listed
    · obtain ⟨still, before⟩ := merged jobId known
      rcases step_cases permitted applied with ⟨report, other, createdAt, rfl,
        unmerged⟩ | ⟨items, ids⟩
      · obtain ⟨items, ids⟩ := merge_items applied
        refine ⟨(ids jobId).mpr (.inr still), fun key item present own => ?_⟩
        rcases items key item present with old | ⟨_, merges⟩
        · exact before key item old own
        · rw [own, Option.some.injEq] at merges
          exact absurd (merges ▸ still) unmerged
      · rw [items, ids]
        exact ⟨still, before⟩

end Steps

section Publishing
variable {settings : Settings} {found stored after : Option Payload} {bucket : String}
  {delivered : List (String × Option String)}

theorem Stocked.sub (stocked : Stocked bucket delivered stored)
    (items : ∀ key item, (itemsOf bucket after).get? key = some item →
      (itemsOf bucket stored).get? key = some item)
    (ids : processedJobIds bucket after = processedJobIds bucket stored) :
    Stocked bucket delivered after := by
  refine ⟨fun key listed => ?_, fun key item present => ?_, ids ▸ stocked.old,
    fun key item present => ?_⟩
  · obtain ⟨item, present⟩ := Dict.mem_keys_iff.mp listed
    exact stocked.keys key (Dict.mem_keys_iff.mpr ⟨item, items key item present⟩)
  · exact ids ▸ stocked.processed key item (items key item present)
  · exact stocked.fresh key item (items key item present)

/-- A phase leaves some of the items, as they are. -/
theorem publishPhase_sub (env : PublishEnv) (key : String) (item : TrackedObject)
    (present : (itemsOf settings.bucketName (publishPhase settings env stored).stored).get? key =
      some item) :
    (itemsOf settings.bucketName stored).get? key = some item := by
  rcases publishPhase_stored settings env stored with same | deleted
  · exact same ▸ present
  · rw [deleted, get?_deleteCompletionItems] at present
    split at present
    · cases present
    · exact present

theorem publishPhase_processedIds (env : PublishEnv) :
    processedJobIds settings.bucketName (publishPhase settings env stored).stored =
      processedJobIds settings.bucketName stored :=
  Eq.symm (publish_frame env .completionProcessedJobIds (by simp [StateOp.ownedKeys]))

/-- Publishing and deleting moves what was delivered from the stock to the past. -/
theorem stocked_publish (env : PublishEnv) (stocked : Stocked settings.bucketName delivered stored)
    (succeeds : DeleteSucceeds settings env stored) :
    Stocked settings.bucketName
      (delivered ++ (publishPhase settings env stored).delivered.flatten.map fun entry =>
        (entry.1, contextJob settings.bucketName entry.2))
      (publishPhase settings env stored).stored := by
  have kept := stocked.sub (publishPhase_sub env) (publishPhase_processedIds env)
  refine ⟨kept.keys, kept.processed, fun entry listed => ?_, fun key item present listed => ?_⟩
  · rcases List.mem_append.mp listed with old | new
    · exact kept.old entry old
    · obtain ⟨⟨key, item⟩, flat, rfl⟩ := List.mem_map.mp new
      obtain ⟨before, present, rfl⟩ := delivered_stored flat
      rw [publishPhase_processedIds]
      simp only [contextJob, CompletionTracker.resolveLegacyItem_configs]
      exact stocked.processed key before (completionItemsOf_eq settings.bucketName stored ▸ present)
  · rcases List.mem_append.mp listed with old | new
    · exact kept.fresh key item present old
    · obtain ⟨entry, flat, same⟩ := List.mem_map.mp new
      have listed : key ∈ deliveredKeys (publishPhase settings env stored).delivered :=
        List.mem_map.mpr ⟨entry, flat, (Prod.mk.inj same).1⟩
      rw [publishPhase_deletes succeeds listed] at present
      cases present

/-- What a phase delivers was not delivered before, and only once. -/
theorem nodup_publish (env : PublishEnv) (stocked : Stocked settings.bucketName delivered stored)
    (once : delivered.Nodup) :
    (delivered ++ (publishPhase settings env stored).delivered.flatten.map fun entry =>
      (entry.1, contextJob settings.bucketName entry.2)).Nodup := by
  refine once.append ?_ fun entry old new => ?_
  · have keys := deliveredKeys_nodup settings env stored
    refine List.Nodup.of_map Prod.fst ?_
    rw [List.map_map]
    exact keys
  · obtain ⟨⟨key, item⟩, flat, rfl⟩ := List.mem_map.mp new
    obtain ⟨before, present, rfl⟩ := delivered_stored flat
    simp only [contextJob, CompletionTracker.resolveLegacyItem_configs] at old
    exact stocked.fresh key before (completionItemsOf_eq settings.bucketName stored ▸ present) old

theorem publish_losesNothing (env : PublishEnv) : LosesNothing settings ⟨.publish env, found⟩ := by
  refine ⟨fun key listed gone => ⟨env, rfl, ?_⟩, ?_, fun jobId _ key item present _ => ?_⟩
  · by_contra absent
    rw [Dict.mem_keys_iff] at listed gone
    exact gone (publishPhase_keeps absent ▸ listed)
  · rintro _ ⟨⟩ number batch placed failed entry member
    exact publishPhase_keeps (failed_not_delivered placed failed member)
  · exact publishPhase_sub env key item present

theorem alerted_items (jobId : String) :
    itemsOf settings.bucketName (Event.after settings stored (.alerted jobId)) =
      itemsOf settings.bucketName stored :=
  Eq.symm (alerted_frame jobId .completionItems (by simp [StateOp.ownedKeys]))

theorem stocked_alerted (jobId : String) (stocked : Stocked settings.bucketName delivered stored) :
    Stocked settings.bucketName delivered (Event.after settings stored (.alerted jobId)) := by
  refine stocked.sub (fun key item present => ?_) ?_
  · rwa [alerted_items] at present
  · exact Eq.symm (alerted_frame jobId .completionProcessedJobIds (by simp [StateOp.ownedKeys]))

theorem alerted_losesNothing (jobId : String) : LosesNothing settings ⟨.alerted jobId, found⟩ := by
  refine ⟨fun key listed gone => ?_, nofun, fun _ _ key item present _ => ?_⟩
  · rw [alerted_items] at gone
    exact absurd listed gone
  · rwa [alerted_items] at present

end Publishing

section Reachability
variable {settings : Settings} {past : List Moment} {stored : Option Payload}

theorem stocked_deployed (deployed : Deployed settings stored) :
    Stocked settings.bucketName [] stored := by
  have none := itemsOf_deployed deployed
  constructor
  · intro key listed
    rw [none] at listed
    exact absurd listed List.not_mem_nil
  · intro key item found
    rw [none, Dict.get?_empty] at found
    cases found
  · intro entry listed
    exact absurd listed List.not_mem_nil
  · intro key item _ listed
    exact absurd listed List.not_mem_nil

/-- Some deliveries may still be stored, yet nothing else can be lost. -/
theorem timeline_losesNothing (plain : separator ∉ settings.bucketName.toList)
    (path : Timeline settings (Deployed settings) (fun _ _ _ => True) past stored) :
    Stocked settings.bucketName [] stored ∧ ∀ moment ∈ past, LosesNothing settings moment := by
  induction path with
  | start deployed => exact ⟨stocked_deployed deployed, fun _ listed =>
      absurd listed List.not_mem_nil⟩
  | @next past stored event path _ ih =>
    obtain ⟨stocked, before⟩ := ih
    have extend : LosesNothing settings ⟨event, stored⟩ →
        ∀ moment ∈ past ++ [⟨event, stored⟩], LosesNothing settings moment := by
      intro last moment listed
      rcases List.mem_append.mp listed with old | new
      · exact before moment old
      · exact List.mem_singleton.mp new ▸ last
    cases event with
    | run env => exact ⟨stocked_run stocked, extend (run_losesNothing plain stocked)⟩
    | publish env =>
      exact ⟨stocked.sub (publishPhase_sub env) (publishPhase_processedIds env),
        extend (publish_losesNothing env)⟩
    | alerted jobId =>
      exact ⟨stocked_alerted jobId stocked, extend (alerted_losesNothing jobId)⟩

/-- The deletes of the past succeeded. -/
def DeletesSucceed (settings : Settings) (past : List Moment) : Prop :=
  ∀ moment ∈ past, ∀ env, moment.event = .publish env → DeleteSucceeds settings env moment.found

theorem deliveries_append (event : Event) (stored : Option Payload) :
    deliveries settings (past ++ [⟨event, stored⟩]) =
      deliveries settings past ++ deliveries settings [⟨event, stored⟩] := by
  rw [deliveries, List.flatMap_append]
  rfl

theorem timeline_stocked
    (path : Timeline settings (Deployed settings) (fun _ _ _ => True) past stored)
    (deletes : DeletesSucceed settings past) :
    Stocked settings.bucketName (deliveries settings past) stored ∧
      (deliveries settings past).Nodup := by
  induction path with
  | start deployed => exact ⟨stocked_deployed deployed, List.nodup_nil⟩
  | @next past stored event path _ ih =>
    obtain ⟨stocked, once⟩ := ih fun moment listed => deletes moment (List.mem_append_left _ listed)
    rw [deliveries_append]
    cases event with
    | run env =>
      have none : deliveries settings [⟨.run env, stored⟩] = [] := rfl
      rw [none, List.append_nil]
      exact ⟨stocked_run stocked, once⟩
    | publish env =>
      have new : deliveries settings [⟨.publish env, stored⟩] =
          (publishPhase settings env stored).delivered.flatten.map fun entry =>
            (entry.1, contextJob settings.bucketName entry.2) := by
        simp [deliveries]
      rw [new]
      exact ⟨stocked_publish env stocked (deletes ⟨.publish env, stored⟩ (by simp) env rfl),
        nodup_publish env stocked once⟩
    | alerted jobId =>
      have none : deliveries settings [⟨.alerted jobId, stored⟩] = [] := rfl
      rw [none, List.append_nil]
      exact ⟨stocked_alerted jobId stocked, once⟩

/-- Over any sequence of runs and publish phases an item leaves only when its
batch was delivered, failed batches stay, a processed job is not merged again,
and while deletes succeed no outcome of a job is delivered twice. -/
theorem publish_loses_and_repeats_nothing (plain : separator ∉ settings.bucketName.toList)
    (path : Timeline settings (Deployed settings) (fun _ _ _ => True) past stored) :
    (∀ moment ∈ past, LosesNothing settings moment) ∧
      (DeletesSucceed settings past → (deliveries settings past).Nodup) :=
  ⟨(timeline_losesNothing plain path).2, fun deletes => (timeline_stocked path deletes).2⟩

end Reachability

section Sample
open Settings

def published : List Moment × Option Payload :=
  happen tracked [.run antRun, .run antReportRun, .run beeReportRun, .publish (.smooth 70),
    .publish (.smooth 80)] []
    (some (seedCheckpoint "photos" 10))

/-- The second of two phases finds nothing to repeat. -/
theorem publish_loses_and_repeats_nothing_ant :
    (∀ moment ∈ published.1, LosesNothing tracked moment) ∧
    (deliveries tracked published.1).Nodup := by
  have path : Timeline tracked (Deployed tracked) (fun _ _ _ => True) published.1 published.2 :=
    timeline_happen tracked _ (.start (.inr ⟨10, rfl⟩)) ⟨trivial, trivial, trivial,
      trivial, trivial, trivial⟩
  have kept := publish_loses_and_repeats_nothing (by decide) path
  refine ⟨kept.1, kept.2 ?_⟩
  intro moment listed env event
  simp only [published, happen, List.nil_append, List.cons_append, List.mem_cons, List.not_mem_nil,
    or_false]
    at listed
  rcases listed with rfl | rfl | rfl | rfl | rfl
  · cases event
  · cases event
  · cases event
  all_goals
    cases event
    exact ⟨rfl, by decide +kernel, rfl⟩

example : deliveries tracked published.1 =
    [(itemKey "ant" none, some "job-1"), (itemKey "bee" none, some "job-2")] := by decide +kernel

end Sample
end ReplicateOnTag.Orchestrator

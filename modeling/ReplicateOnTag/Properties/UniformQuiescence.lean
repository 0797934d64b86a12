import ReplicateOnTag.Adapters.MergeOrder
import ReplicateOnTag.Orchestrator.RunSteps
import ReplicateOnTag.Orchestrator.Timeline
import ReplicateOnTag.Properties.ScanCount

/-! Which items of a bucket may be published: all of them, or none. -/
namespace ReplicateOnTag.Orchestrator
open StateStore CompletionTracker ManifestGenerator

def scanOf (bucket : String) (stored : Option Payload) : Option ScanState :=
  (payloadOrDefault bucket stored).completionScanState.get? bucket

/-- Scan writes succeed, and the scan of a run is later than the creation of
every job submitted before. `creation` is what Batch Operations reports. -/
structure Clocked (settings : Settings) (creation : String → Instant)
    (past : List Moment) (env : RunEnv) :
    Prop where
  scans : env.writes .scan = .served
  follows : ∀ jobId ∈ submittedJobs settings past, creation jobId < env.now
  reported : ∀ jobId job createdAt, env.describeJob jobId = some job →
    job.creationTime = some createdAt →
    createdAt = creation jobId
  named : ∀ jobId, env.createJob = .created jobId → jobId ≠ ""

def ClockedEvent (settings : Settings) (creation : String → Instant)
    (past : List Moment) (event : Event)
    (_ : Option Payload) : Prop :=
  ∀ env, event = .run env → Clocked settings creation past env

/-- A resolved item whose one context is that of a submitted job. -/
def OfJob (settings : Settings) (creation : String → Instant) (jobs : List String)
    (item : TrackedObject) :
    Prop :=
  item.state = .resolved ∧ ∃ context, item.configs.entries = [(settings.bucketName, context)] ∧
    ∃ jobId ∈ jobs, context.manifestGeneratedAt = creation jobId

/-- A scan that counted nothing is later than the creation of every job, and
each item belongs to a job. -/
structure Settled (settings : Settings) (creation : String → Instant) (past : List Moment)
    (stored : Option Payload) : Prop where
  known : Known settings past stored
  items : ∀ key item, (itemsOf settings.bucketName stored).get? key = some item →
    settings.completionTracking = true ∧ OfJob settings creation (submittedJobs settings past) item
  scan : settings.completionTracking = true →
    ∀ scan, scanOf settings.bucketName stored = some scan →
    scan.lastScanMatchCount = 0 → ∀ jobId ∈ submittedJobs settings past,
      creation jobId < scan.lastScanAt

section Run
variable {settings : Settings} {env : RunEnv} {creation : String → Instant} {past : List Moment}
  {stored : Option Payload}

/-- A run leaves the scan of an earlier one, or its own. -/
theorem runBucket_scanOf (settings : Settings) (env : RunEnv) (stored : Option Payload) :
    scanOf settings.bucketName (runBucket settings env stored).stored =
      scanOf settings.bucketName stored ∨
      ∃ count, scanOf settings.bucketName (runBucket settings env stored).stored =
        some ⟨env.now, count⟩ := by
  refine (runBucket_steps settings env stored).preserves
    (fun object => scanOf settings.bucketName object = scanOf settings.bucketName stored ∨
      ∃ count, scanOf settings.bucketName object = some ⟨env.now, count⟩) ?_ (.inl rfl)
  intro object op after permitted applied either
  by_cases foreign : PayloadKey.completionScanState ∈ op.ownedKeys
  · cases op with
    | recordScanResult configId scanAt count =>
      obtain ⟨rfl, rfl⟩ := permitted
      cases applied
      exact .inr ⟨count, Dict.get?_insert_self ..⟩
    | _ => simp [StateOp.ownedKeys, StateOp.checkpointKeys] at foreign
  · have same : (payloadOrDefault settings.bucketName object).completionScanState =
        after.completionScanState := StateOp.frame applied foreign
    have kept : scanOf settings.bucketName (some after) = scanOf settings.bucketName object := by
      rw [scanOf, scanOf, same]
      rfl
    rwa [kept]

theorem resolve_ofJob {ctx : MergeContext} (config : ctx.replicationConfigId = settings.bucketName)
    (created : jobId ∈ jobs ∧ ctx.jobCreatedAt = creation jobId) {item : TrackedObject}
    (plain : item.configs = .empty ∨ ∃ context, item.configs.entries =
      [(settings.bucketName, context)])
    (row : ReportRow) : OfJob settings creation jobs (resolve ctx row item) := by
  refine ⟨rfl, ⟨ctx.replicationConfigId, ctx.jobId, ctx.jobCreatedAt, true⟩, ?_, jobId, created⟩
  simp only [resolve, Dict.insert, config]
  rcases plain with empty | ⟨context, only⟩
  · rw [empty]
    rfl
  · rw [only]
    simp [Dict.upsert]

/-- Items after a run belong to jobs that were submitted before it. -/
theorem runBucket_ofJob (settled : Settled settings creation past stored)
    (clocked : Clocked settings creation past env) : ∀ key item,
    (itemsOf settings.bucketName (runBucket settings env stored).stored).get? key = some item →
      settings.completionTracking = true ∧
        OfJob settings creation (submittedJobs settings past) item := by
  refine (runBucket_steps settings env stored).preserves
    (fun object => ∀ key item, (itemsOf settings.bucketName object).get? key = some item →
      settings.completionTracking = true ∧
        OfJob settings creation (submittedJobs settings past) item)
    ?_ settled.items
  intro object op after permitted applied holds
  by_cases foreign : PayloadKey.completionItems ∈ op.ownedKeys
  · cases op with
    | mergeCompletionReport report configId jobId createdAt timestamps =>
      obtain ⟨rfl, rfl, merges⟩ := permitted
      obtain ⟨_, rfl⟩ := merge_applied applied
      obtain ⟨job, viewed, created, _⟩ := merges.described
      have described : env.describeJob jobId = some job := by
        rw [viewJob] at viewed
        split at viewed
        · cases viewed
        · rename_i reply
          split at viewed <;> cases viewed
          exact reply
      have ranked := And.intro (settled.known jobId merges.recorded)
        (clocked.reported jobId job createdAt described created)
      intro key item found
      refine mergedItems_all (fun _ item => settings.completionTracking = true ∧
        OfJob settings creation (submittedJobs settings past) item) holds ?_ ?_ key item
        (mergedBody_items_sub found)
      · exact fun row _ => ⟨merges.tracking, resolve_ofJob rfl ranked (.inl rfl) row⟩
      · rintro row _ item ⟨_, _, context, only, _⟩
        exact ⟨merges.tracking, resolve_ofJob rfl ranked (.inr ⟨context, only⟩) row⟩
    | deleteCompletionItems => exact permitted.elim
    | _ => simp [StateOp.ownedKeys, StateOp.checkpointKeys] at foreign
  · have same : (payloadOrDefault settings.bucketName object).completionItems =
        after.completionItems :=
      StateOp.frame applied foreign
    intro key item found
    exact holds key item (by rw [itemsOf, same]; exact found)

theorem leasedManifestAndSubmit_scanned
    (found : (leasedManifestAndSubmit settings env selected window counter low stored).outcome =
      some outcome) :
    (leasedManifestAndSubmit settings env selected window counter low stored).scan.isSome := by
  simp only [leasedManifestAndSubmit] at found ⊢
  split at found
  · cases found
  rename_i busy
  rw [if_neg busy]
  generalize storeTimestamps settings env
    (matchAndAccumulate selected.dedupedOps settings.rules) stored =
    stamped at found ⊢
  generalize matchAndAccumulate selected.dedupedOps settings.rules = entries at found ⊢
  have scans : ∀ manifest, (buildManifest settings env entries window stamped).manifest =
      some manifest →
      (buildManifest settings env entries window stamped).scan.isSome := by
    intro manifest written
    simp only [buildManifest] at written ⊢
    split at written
    · cases written
    · rename_i queried
      rw [if_neg queried]
      split at written <;> rfl
  cases written : (buildManifest settings env entries window stamped).manifest with
  | none => simp [written] at found
  | some manifest =>
    simp only [written] at found ⊢
    split <;> exact scans manifest written

/-- A run that submits has recorded a scan that counted something. -/
theorem submission_scan (tracking : settings.completionTracking = true)
    (landed : env.writes .scan ≠ .refused)
    (submitted : (runBucket settings env stored).submission = some submission) :
    ∃ count ≠ 0, lastScanMatchCount settings.bucketName (runBucket settings env stored).stored =
      some count := by
  obtain ⟨prep, checkpoint, window, _, _, reads, ran, ⟨submits⟩⟩ := submission_shape submitted
  rw [ran] at submitted ⊢
  simp only at submitted ⊢
  have scanned : (runSelected settings env prep checkpoint window
      (selectEligible settings window.ops checkpoint) prep.stored).scan.isSome := by
    simp only [runSelected, submits.candidate] at submitted ⊢
    split at submitted
    · cases submitted
    · rename_i acquired
      rw [if_neg acquired, concludeRun_scan]
      cases found : (leasedManifestAndSubmit settings env
          (selectEligible settings window.ops checkpoint)
          window prep.plan.consecutiveFailures checkpoint.lastProcessedWatermark
          (write settings env .acquire (.acquireLease env.now (newLease env submits.candidateHwm))
            prep.stored).stored).outcome with
      | none => simp [concludeRun, found] at submitted
      | some outcome => exact leasedManifestAndSubmit_scanned found
  obtain ⟨count, found⟩ := Option.isSome_iff_exists.mp scanned
  refine ⟨count, ?_, runSelected_landed tracking landed found⟩
  have produces : ProducesMatch settings checkpoint window := by
    have filtered := submits.filtered
    simp only [keptEntries] at filtered
    split at filtered
    · rename_i matched
      exact (hasAccumulatedEntries_iff _ _).mpr matched
    · cases filtered
  rcases runSelected_scan dedupedOps_of_no_candidate found with ⟨idle, _⟩ | ⟨_, counted⟩
  · rw [submits.candidate] at idle
    cases idle
  · exact counted ▸ counted_of_producesMatch reads produces

theorem settled_run (settled : Settled settings creation past stored)
    (clocked : Clocked settings creation past env) :
    Settled settings creation (past ++ [⟨.run env, stored⟩])
      (runBucket settings env stored).stored := by
  have known := known_after_run settled.known clocked.named
  have items := runBucket_ofJob settled clocked
  cases submitted : (runBucket settings env stored).submission with
  | none =>
    have jobs := @submittedJobs_unsubmitted settings past stored env submitted
    refine ⟨known, fun key item found => jobs ▸ items key item found,
      fun tracking scan found zero => ?_⟩
    rw [jobs]
    rcases runBucket_scanOf settings env stored with same | ⟨count, own⟩
    · exact settled.scan tracking scan (same ▸ found) zero
    · rw [own, Option.some.injEq] at found
      rw [← found]
      exact clocked.follows
  | some submission =>
    refine ⟨known, fun key item found => ?_, fun tracking scan found zero => ?_⟩
    · obtain ⟨tracking, resolved, context, only, jobId, listed, created⟩ := items key item found
      refine ⟨tracking, resolved, context, only, jobId, ?_, created⟩
      rw [submittedJobs_submitted submitted]
      exact List.mem_append_left _ listed
    · obtain ⟨count, positive, recorded⟩ :=
        submission_scan tracking (by simp [clocked.scans]) submitted
      have counted : (scanOf settings.bucketName (runBucket settings env stored).stored).map
          ScanState.lastScanMatchCount = some count := recorded
      rw [found, Option.map_some, Option.some.injEq, zero] at counted
      exact absurd counted.symm positive

end Run

section Reachability
variable {settings : Settings} {creation : String → Instant} {past : List Moment}
  {stored : Option Payload}

theorem settled_publish (env : PublishEnv) (settled : Settled settings creation past stored) :
    Settled settings creation (past ++ [⟨.publish env, stored⟩])
      (publishPhase settings env stored).stored := by
  have jobs : submittedJobs settings (past ++ [⟨.publish env, stored⟩]) =
      submittedJobs settings past :=
    submittedJobs_of_runs (runs_publish past env stored)
  have scan : (payloadOrDefault settings.bucketName stored).completionScanState =
      (payloadOrDefault settings.bucketName
        (publishPhase settings env stored).stored).completionScanState :=
    publish_frame env .completionScanState (by simp [StateOp.ownedKeys])
  refine ⟨known_after_frame settled.known
    (publish_frame env .submissionRecords (by simp [StateOp.ownedKeys]))
    (runs_publish past env stored), fun key item found => ?_, fun tracking state found => ?_⟩
  · rw [jobs]
    rcases publishPhase_stored settings env stored with same | deleted
    · exact settled.items key item (same ▸ found)
    · rw [deleted, get?_deleteCompletionItems] at found
      split at found
      · cases found
      · exact settled.items key item found
  · rw [jobs]
    rw [scanOf, ← scan] at found
    exact settled.scan tracking state found

theorem settled_alerted (jobId : String) (settled : Settled settings creation past stored) :
    Settled settings creation (past ++ [⟨.alerted jobId, stored⟩])
      (some (addAlertedConfig settings.bucketName jobId stored)) := by
  have jobs : submittedJobs settings (past ++ [⟨.alerted jobId, stored⟩]) =
      submittedJobs settings past :=
    submittedJobs_of_runs (runs_alerted past jobId stored)
  refine ⟨known_after_frame settled.known
    (alerted_frame jobId .submissionRecords (by simp [StateOp.ownedKeys]))
    (runs_alerted past jobId stored), ?_, ?_⟩
  · rw [jobs]
    exact settled.items
  · rw [jobs]
    exact settled.scan

theorem timeline_settled
    (path : Timeline settings (Deployed settings) (ClockedEvent settings creation) past stored) :
    Settled settings creation past stored := by
  induction path with
  | start deployed =>
    refine ⟨known_deployed deployed, fun key item found => ?_, fun _ scan found => ?_⟩ <;>
      rcases deployed with rfl | ⟨now, rfl⟩ <;> cases found
  | @next past stored event path permitted ih =>
    cases event with
    | run env => exact settled_run ih (permitted env rfl)
    | publish env => exact settled_publish env ih
    | alerted jobId => exact settled_alerted jobId ih

theorem Settled.shouldPublish_iff (settled : Settled settings creation past stored)
    (found : (itemsOf settings.bucketName stored).get? key = some item) :
    shouldPublish item (payloadOrDefault settings.bucketName stored).completionScanState ↔
      ∃ scan, scanOf settings.bucketName stored = some scan ∧ scan.lastScanMatchCount = 0 := by
  obtain ⟨tracking, resolved, context, only, jobId, listed, created⟩ := settled.items key item found
  have held : item.configs.get? settings.bucketName = some context :=
    Dict.mem_entries_iff.mp (only ▸ List.mem_singleton.mpr rfl)
  rw [CompletionTracker.shouldPublish_iff]
  constructor
  · rintro ⟨_, quiet⟩
    obtain ⟨scan, recorded, _, zero⟩ := quiet _ _ held
    exact ⟨scan, recorded, zero⟩
  · rintro ⟨scan, recorded, zero⟩
    refine ⟨resolved, fun configId other stored => ?_⟩
    have member := Dict.mem_entries_iff.mpr stored
    rw [only, List.mem_singleton, Prod.mk.injEq] at member
    obtain ⟨rfl, rfl⟩ := member
    exact ⟨scan, recorded, created ▸ settled.scan tracking scan recorded zero jobId listed, zero⟩

/-- In every reachable state all stored items may be published, or none may. -/
theorem quiescence_uniform
    (path : Timeline settings (Deployed settings) (ClockedEvent settings creation) past stored) :
    (∀ key item, (completionItemsOf stored).get? key = some item →
      shouldPublish item (scanStateOf stored) = true) ∨
    (∀ key item, (completionItemsOf stored).get? key = some item →
      shouldPublish item (scanStateOf stored) = false) := by
  have settled := timeline_settled path
  have scans : scanStateOf stored =
      (payloadOrDefault settings.bucketName stored).completionScanState := by
    cases stored <;> rfl
  rw [completionItemsOf_eq settings.bucketName, scans]
  by_cases quiet : ∃ scan, scanOf settings.bucketName stored = some scan ∧
    scan.lastScanMatchCount = 0
  · exact .inl fun key item found => (settled.shouldPublish_iff found).mpr quiet
  · exact .inr fun key item found =>
      Bool.eq_false_iff.mpr fun ready => quiet ((settled.shouldPublish_iff found).mp ready)

end Reachability

section Sample
open Settings

/-- When the two jobs were created. -/
def twoCreations (jobId : String) : Instant := if jobId = "job-1" then 25 else 45

/-- A job that has replicated its only object. -/
def completedJob (jobId : String) : Option JobDescription :=
  some ⟨"Complete", some 1, some 0, some (twoCreations jobId), none⟩

def antRun : RunEnv := .smooth 20 [photosRow "ant" "yes" 15] (fun _ => none) (.created "job-1")

/-- The report of the first job is read, and a second job is submitted. -/
def antReportRun : RunEnv :=
  { RunEnv.smooth 40 [photosRow "ant" "yes" 15, photosRow "bee" "yes" 30] completedJob
      (.created "job-2") with
    completionReport := fun _ => some ⟨35, [⟨"ant", none, some "succeeded"⟩]⟩ }

/-- The report of the second job is read, and nothing matches any more. -/
def beeReportRun : RunEnv :=
  { RunEnv.smooth 60 [] completedJob (.rejected .service) with
    completionReport := fun _ => some ⟨55, [⟨"bee", none, some "succeeded"⟩]⟩ }

def reported : List Moment × Option Payload :=
  happen tracked [.run antRun, .run antReportRun, .run beeReportRun] []
    (some (seedCheckpoint "photos" 10))

theorem timeline_reported :
    Timeline tracked (Deployed tracked) (ClockedEvent tracked twoCreations)
      reported.1 reported.2 := by
  refine timeline_happen tracked _ (.start (.inr ⟨10, rfl⟩)) ⟨?_, ?_, ?_, trivial⟩
  · rintro env ⟨⟩
    exact ⟨rfl, nofun, nofun, by rintro _ ⟨⟩; decide⟩
  · rintro env ⟨⟩
    refine ⟨rfl, by decide +kernel, ?_, by rintro _ ⟨⟩; decide⟩
    rintro _ job createdAt ⟨⟩ ⟨⟩
    rfl
  · rintro env ⟨⟩
    refine ⟨rfl, by decide +kernel, ?_, nofun⟩
    rintro _ job createdAt ⟨⟩ ⟨⟩
    rfl

/-- A quiet scan after both jobs were created releases the items of both. -/
theorem quiescence_uniform_reported :
    (completionItemsOf reported.2).keys = [itemKey "ant" none, itemKey "bee" none] ∧
      ∀ key item, (completionItemsOf reported.2).get? key = some item →
        shouldPublish item (scanStateOf reported.2) = true := by
  have ant : ((completionItemsOf reported.2).get? (itemKey "ant" none)).map
      (fun item => shouldPublish item (scanStateOf reported.2)) = some true := by decide +kernel
  obtain ⟨item, found, ready⟩ := Option.map_eq_some_iff.mp ant
  refine ⟨by decide +kernel, (quiescence_uniform timeline_reported).resolve_right fun none => ?_⟩
  exact Bool.noConfusion (ready.symm.trans (none _ item found))

end Sample
end ReplicateOnTag.Orchestrator

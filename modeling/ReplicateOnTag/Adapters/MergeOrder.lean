import ReplicateOnTag.Library.LastWriterWins
import ReplicateOnTag.Adapters.ItemKeys
import ReplicateOnTag.Adapters.MergeReport
import ReplicateOnTag.Adapters.StateOp
import Mathlib.Data.Int.ConditionallyCompleteOrder
import Mathlib.Order.ConditionallyCompleteLattice.Basic
import Mathlib.Data.Prod.Lex

/-! Merging the reports of several jobs is a register for each object version in
which the job with the latest creation time and id wins. -/
namespace ReplicateOnTag.StateStore
open LastWriterWins

section Applied

/-- A merge that reaches the object is the merged body of a valid report. -/
theorem merge_applied {bucket configId jobId : String} {report : BopsCompletionReport}
    {createdAt : Instant} {timestamps : Option Timestamps} {stored : Option Payload}
    (applied : (StateOp.mergeCompletionReport report configId jobId createdAt
      timestamps).apply bucket stored =
      some after) :
    ValidReport report ∧
      after = mergedBody (mergeContext bucket report configId jobId createdAt timestamps
        (payloadOrDefault bucket stored)) report (payloadOrDefault bucket stored) := by
  simp only [StateOp.apply, StateOp.program, ConditionalStore.Update.atomically, StateOp.compute,
    Option.bind_eq_some_iff] at applied
  obtain ⟨request, computed, sent⟩ := applied
  simp only [mergeCompletionReport] at computed
  split at computed
  · rename_i valid
    cases computed
    split at sent
    · exact ⟨valid, (Option.some.inj sent).symm⟩
    · cases sent
  · cases computed

theorem get?_mergeRow_or (ctx : MergeContext) (items : Dict String TrackedObject) (row : ReportRow)
    (key : String) :
    (mergeRow ctx items row).get? key = items.get? key ∨
      key = rowKey row ∧ (mergeRow ctx items row).get? key =
        some (resolve ctx row ((items.get? key).getD (freshItem ctx row))) := by
  simp only [mergeRow]
  split
  · exact .inl rfl
  · by_cases own : key = itemKey row.objectKey row.versionId
    · subst own
      exact .inr ⟨rfl, Dict.get?_insert_self ..⟩
    · exact .inl (Dict.get?_insert_of_ne own)

/-- What holds of the stored items and of every item a row creates or updates
holds of the merged items. -/
theorem mergedItems_all {ctx : MergeContext} {report : BopsCompletionReport} {payload : Payload}
    (holds : String → TrackedObject → Prop)
    (old : ∀ key item, payload.completionItems.get? key = some item → holds key item)
    (created : ∀ row ∈ report.entries, holds (rowKey row) (resolve ctx row (freshItem ctx row)))
    (updated : ∀ row ∈ report.entries, ∀ item, holds (rowKey row) item →
      holds (rowKey row) (resolve ctx row item)) :
    ∀ key item, (mergedItems ctx report payload).get? key = some item → holds key item := by
  have rows : ∀ rows : List ReportRow, (∀ row ∈ rows, row ∈ report.entries) →
      ∀ key item, (rows.foldl (mergeRow ctx) payload.completionItems).get? key = some item →
        holds key item := by
    intro rows
    induction rows using List.reverseRecOn with
    | nil => exact fun _ => old
    | append_singleton rest row ih =>
      intro listed key item found
      have earlier := ih fun other member => listed other (List.mem_append_left _ member)
      have member := listed row (by simp)
      rw [List.foldl_append, List.foldl_cons, List.foldl_nil] at found
      rcases get?_mergeRow_or ctx (rest.foldl (mergeRow ctx) payload.completionItems) row key with
        same | ⟨rfl, written⟩
      · exact earlier key item (same ▸ found)
      · rw [written, Option.some.injEq] at found
        rw [← found]
        cases before : (rest.foldl (mergeRow ctx) payload.completionItems).get? (rowKey row) with
        | none => exact created row member
        | some item => exact updated row member item (earlier _ item before)
  exact rows report.entries fun _ member => member

/-- The ceiling only removes items. -/
theorem mergedBody_items_sub {ctx : MergeContext}
    {report : BopsCompletionReport} {payload : Payload}
    (found : (mergedBody ctx report payload).completionItems.get? key = some item) :
    (mergedItems ctx report payload).get? key = some item := by
  simp only [mergedBody, boundedItems, evictSideMapAboveCeiling, Dict.get?_filter] at found
  exact (Option.filter_eq_some_iff.mp found).1

end Applied

/-- One call of `merge_completion_report`, as the run makes it. -/
structure JobReport where
  report : BopsCompletionReport
  jobId : String
  createdAt : Instant
  deriving DecidableEq

abbrev JobRank := Instant ×ₗ String

def JobReport.rank (job : JobReport) : JobRank := toLex (job.createdAt, job.jobId)

/-- The object after a call; one that raises leaves it alone. -/
def mergeJob (bucket configId : String) (stored : Option Payload)
    (job : JobReport) : Option Payload :=
  ((StateOp.mergeCompletionReport job.report configId job.jobId job.createdAt
    none).apply bucket stored).or
    stored

def mergeJobs (bucket configId : String) (stored : Option Payload)
    (jobs : List JobReport) : Option Payload :=
  jobs.foldl (mergeJob bucket configId) stored

/-- The job context an item holds. -/
def contextRank (configId : String) (item : Option TrackedObject) : WithBot JobRank :=
  match item.bind fun item => item.configs.get? configId with
  | none => ⊥
  | some context => WithBot.some (toLex (context.manifestGeneratedAt, context.jobId))

abbrev jobContext (bucket configId : String) (origin : Payload) (job : JobReport) : MergeContext :=
  mergeContext bucket job.report configId job.jobId job.createdAt none origin

/-- A row of a job's report as an update of its item. -/
def update (bucket configId : String) (origin : Payload) (hit : JobReport × ReportRow)
    (item : Option TrackedObject) : Option TrackedObject :=
  let ctx := jobContext bucket configId origin hit.1
  some (resolve ctx hit.2 (item.getD (freshItem ctx hit.2)))

/-- The rows of the reports that are about one item. -/
def hits (jobs : List JobReport) (key : String) : List (JobReport × ReportRow) :=
  jobs.flatMap fun job => (job.report.entries.filter fun row =>
    rowKey row = key).map fun row => (job, row)

section Updates
variable {bucket configId : String} {origin : Payload} {jobs : List JobReport} {key : String}

theorem mem_hits : hit ∈ hits jobs key ↔
    hit.1 ∈ jobs ∧ hit.2 ∈ hit.1.report.entries ∧ rowKey hit.2 = key := by
  obtain ⟨job, row⟩ := hit
  simp [hits]

/-- An item is kept when its context outranks the job. -/
theorem superseded_iff (job : JobReport) (item : TrackedObject) :
    (item.configs.get? configId).any (supersededBy (jobContext bucket configId origin job)) = true ↔
      ¬ contextRank configId (some item) ≤ job.rank := by
  rw [contextRank, Option.bind_some, not_le]
  cases item.configs.get? configId with
  | none => simp
  | some context =>
    rw [Option.any_some, WithBot.coe_lt_coe, JobReport.rank, Prod.Lex.toLex_lt_toLex]
    simp only [supersededBy, jobContext, mergeContext, Bool.or_eq_true, Bool.and_eq_true]
    exact or_congr decide_eq_true_iff (and_congr decide_eq_true_iff decide_eq_true_iff)

/-- One row keeps, creates or overwrites the item under its key. -/
theorem get?_mergeRow (job : JobReport) (items : Dict String TrackedObject)
    (row : ReportRow) (key : String) :
    (mergeRow (jobContext bucket configId origin job) items row).get? key =
      if rowKey row = key then
        step (contextRank configId) (fun hit => hit.1.rank) (update bucket configId origin)
          (items.get? key) (job, row)
      else items.get? key := by
  have named : itemKey row.objectKey row.versionId = rowKey row := rfl
  have config : (jobContext bucket configId origin job).replicationConfigId = configId := rfl
  simp only [mergeRow, named, config]
  by_cases own : rowKey row = key
  · subst own
    rw [if_pos rfl, step]
    cases found : items.get? (rowKey row) with
    | none =>
      have empty : (freshItem (jobContext bucket configId origin job) row).configs.get?
        configId = none := rfl
      have unranked : contextRank configId none ≤ job.rank := bot_le
      rw [if_pos unranked, Option.getD_none, empty]
      exact Dict.get?_insert_self ..
    | some item =>
      rw [Option.getD_some]
      by_cases outranked : contextRank configId (some item) ≤ job.rank
      · rw [if_pos outranked, if_neg fun superseded =>
          (superseded_iff job item).mp superseded outranked]
        exact Dict.get?_insert_self ..
      · rw [if_neg outranked, if_pos ((superseded_iff job item).mpr outranked), found]
  · rw [if_neg own]
    split
    · rfl
    · exact Dict.get?_insert_of_ne (Ne.symm own)

theorem get?_mergeRows (job : JobReport) (rows : List ReportRow) (items : Dict String TrackedObject)
    (key : String) :
    (rows.foldl (mergeRow (jobContext bucket configId origin job)) items).get? key =
      ((rows.filter fun row => rowKey row = key).map fun row => (job, row)).foldl
        (step (contextRank configId) (fun hit => hit.1.rank) (update bucket configId origin))
        (items.get? key) := by
  induction rows generalizing items with
  | nil => rfl
  | cons row rest ih =>
    rw [List.foldl_cons, ih, get?_mergeRow, List.filter_cons]
    by_cases own : rowKey row = key
    · simp [own]
    · simp [own]

/-- Rows under one key are about one object version. -/
theorem hits_identity (plain : ∀ job ∈ jobs, ∀ row ∈ job.report.entries, PlainVersion row.versionId)
    (first : hit ∈ hits jobs key) (second : other ∈ hits jobs key) :
    hit.2.identity = other.2.identity := by
  obtain ⟨member, listed, own⟩ := mem_hits.mp first
  obtain ⟨otherMember, otherListed, otherOwn⟩ := mem_hits.mp second
  obtain ⟨keys, versions⟩ :=
    itemKey_injective (plain _ member _ listed) (plain _ otherMember _ otherListed)
    (own.trans otherOwn.symm)
  exact Prod.ext keys versions

theorem update_update (config : ctx.replicationConfigId = earlier.replicationConfigId)
    (row before : ReportRow) (item : TrackedObject) :
    resolve ctx row (resolve earlier before item) = resolve ctx row item := by
  have twice : (item.configs.insert earlier.replicationConfigId
      ⟨earlier.replicationConfigId, earlier.jobId, earlier.jobCreatedAt, true⟩).insert
        ctx.replicationConfigId ⟨ctx.replicationConfigId, ctx.jobId, ctx.jobCreatedAt, true⟩ =
      item.configs.insert ctx.replicationConfigId
        ⟨ctx.replicationConfigId, ctx.jobId, ctx.jobCreatedAt, true⟩ := by
    rw [← config, Dict.insert_insert]
  simp only [resolve, twice]

/-- The rows about one item overwrite each other by the rank of their jobs. -/
theorem hits_overwrite (bucket configId : String) (origin : Payload)
    (valid : ∀ job ∈ jobs, ValidReport job.report)
    (plain : ∀ job ∈ jobs, ∀ row ∈ job.report.entries, PlainVersion row.versionId)
    (distinct : ∀ job ∈ jobs, ∀ other ∈ jobs, job.rank = other.rank → job = other) (key : String) :
    Overwrites (contextRank configId) (fun hit => hit.1.rank) (update bucket configId origin)
      (hits jobs key) where
  ranked hit _ item := by
    simp [contextRank, update, resolve, jobContext, mergeContext, JobReport.rank]
  absorbs hit member earlier before item := by
    obtain ⟨keys, versions⟩ := Prod.mk.inj (hits_identity plain member before)
    have same : freshItem (jobContext bucket configId origin earlier.1) earlier.2 =
        freshItem (jobContext bucket configId origin hit.1) hit.2 := by
      simp only [freshItem, enrichment, suppliedTimestamp, jobContext, mergeContext, keys, versions,
        Option.bind_none]
    simp only [update, Option.getD_some]
    rw [update_update (by rfl), same]
  distinct hit member other also same := by
    obtain ⟨listed, rows, _⟩ := mem_hits.mp member
    obtain ⟨otherListed, otherRows, _⟩ := mem_hits.mp also
    have job := distinct _ listed _ otherListed same
    refine Prod.ext job ?_
    refine List.inj_on_of_nodup_map (valid _ listed) rows (job ▸ otherRows) ?_
    exact hits_identity plain member also

end Updates

section Sequence
variable {bucket configId : String} {origin payload : Payload} {stored : Option Payload}
  {jobs done : List JobReport} {job : JobReport}

/-- Everything the reports and the stored items name fits the ceiling together. -/
def WithinCeiling (bucket : String) (stored : Option Payload) (jobs : List JobReport) : Prop :=
  ((payloadOrDefault bucket stored).completionItems.keys.toFinset ∪
    (jobs.flatMap fun job => job.report.entries.map rowKey).toFinset).card ≤
      completionSideMapCeiling

theorem filter_all (d : Dict κ ν) : (d.filter fun _ _ => true) = d := Dict.ext (List.filter_true _)

/-- A call that evicts nothing merges the items, marks the job, and keeps the rest. -/
theorem mergeJob_fits (valid : ValidReport job.report)
    (fits : FitsCeiling job.report (payloadOrDefault bucket stored)) :
    mergeJob bucket configId stored job =
      (let payload := payloadOrDefault bucket stored
      let ctx := jobContext bucket configId payload job
      some { payload with
        completionItems := mergedItems ctx job.report payload
        completionProcessedJobIds := payload.completionProcessedJobIds.insert job.jobId }) := by
  have computed := merge_requests bucket configId job.jobId job.createdAt none valid stored
  simp only [(bounded_evicts_nothing_iff _ _).mpr fits, shadowedKey_nil] at computed
  simp only [mergeJob, StateOp.apply, StateOp.program, ConditionalStore.Update.atomically,
    StateOp.compute, computed, Option.bind_some, if_true, Option.some_or, mergedBody]
  have none : (boundedItems
      (jobContext bucket configId (payloadOrDefault bucket stored) job) job.report
      (payloadOrDefault bucket stored)).2 = [] := (bounded_evicts_nothing_iff _ _).mpr fits
  have items : (boundedItems
      (jobContext bucket configId (payloadOrDefault bucket stored) job) job.report
      (payloadOrDefault bucket stored)).1 =
        mergedItems (jobContext bucket configId (payloadOrDefault bucket stored) job) job.report
          (payloadOrDefault bucket stored) := by
    simp only [boundedItems, evictSideMapAboveCeiling] at none ⊢
    simp only [none, List.not_mem_nil, not_false_eq_true, decide_true, filter_all]
  simp only [none, items, List.flatMap_nil, List.not_mem_nil, not_false_eq_true, decide_true,
    filter_all]
  rfl

/-- What a sequence of calls has made of the object it started from. -/
structure Merged (bucket configId : String) (origin : Payload)
    (done : List JobReport) (payload : Payload) :
    Prop where
  timestamps : payload.completionTimestamps = origin.completionTimestamps
  routing : payload.completionRouting = origin.completionRouting
  items : ∀ key, payload.completionItems.get? key =
    (hits done key).foldl (step (contextRank configId) (fun hit => hit.1.rank)
      (update bucket configId origin)) (origin.completionItems.get? key)
  keys : ∀ key, key ∈ payload.completionItems.keys ↔
    key ∈ origin.completionItems.keys ∨ key ∈ done.flatMap fun job => job.report.entries.map rowKey
  processed : ∀ jobId, jobId ∈ payload.completionProcessedJobIds ↔
    jobId ∈ origin.completionProcessedJobIds ∨ jobId ∈ done.map JobReport.jobId

theorem Merged.next (merged : Merged bucket configId origin done payload) (job : JobReport) :
    Merged bucket configId origin (done ++ [job])
      { payload with
        completionItems := mergedItems (jobContext bucket configId payload job) job.report payload
        completionProcessedJobIds := payload.completionProcessedJobIds.insert job.jobId } := by
  have context : jobContext bucket configId payload job =
      jobContext bucket configId origin job := by
    simp only [jobContext, mergeContext, merged.timestamps, merged.routing]
  refine ⟨merged.timestamps, merged.routing, fun key => ?_, fun key => ?_, fun jobId => ?_⟩
  · rw [context, mergedItems, get?_mergeRows, merged.items key, hits, hits, List.flatMap_append,
      List.foldl_append]
    simp
  · rw [mem_keys_merged, merged.keys key, List.flatMap_append]
    simp only [List.mem_append, List.flatMap_cons, List.flatMap_nil, List.append_nil]
    tauto
  · rw [List.mem_insert_iff, merged.processed, List.map_append]
    simp only [List.mem_append, List.map_cons, List.map_nil, List.mem_singleton]
    tauto

theorem Merged.fits (merged : Merged bucket configId origin done payload)
    (within : WithinCeiling bucket (some origin) jobs)
    (sub : ∀ other ∈ done ++ [job], other ∈ jobs) :
    FitsCeiling job.report payload := by
  refine .inl (le_trans (Finset.card_le_card ?_) within)
  intro key member
  simp only [Finset.mem_union, List.mem_toFinset] at member ⊢
  rcases member with held | fresh
  · rcases (merged.keys key).mp held with old | new
    · exact .inl old
    · obtain ⟨other, listed, rows⟩ := List.mem_flatMap.mp new
      exact .inr (List.mem_flatMap.mpr ⟨other, sub other (List.mem_append_left _ listed), rows⟩)
  · exact .inr (List.mem_flatMap.mpr ⟨job, sub job (by simp), fresh⟩)

theorem merged_mergeJobs (configId : String) (stored : Option Payload)
    (valid : ∀ job ∈ jobs, ValidReport job.report) (within : WithinCeiling bucket stored jobs) :
    Merged bucket configId (payloadOrDefault bucket stored) jobs
      (payloadOrDefault bucket (mergeJobs bucket configId stored jobs)) := by
  have prefixes : ∀ done, (∀ job ∈ done, job ∈ jobs) →
      Merged bucket configId (payloadOrDefault bucket stored) done
        (payloadOrDefault bucket (mergeJobs bucket configId stored done)) := by
    intro done
    induction done using List.reverseRecOn with
    | nil => exact fun _ => ⟨rfl, rfl, fun _ => rfl, by simp [mergeJobs], by simp [mergeJobs]⟩
    | append_singleton rest job ih =>
      intro sub
      have earlier := ih fun job member => sub job (List.mem_append_left _ member)
      have fits := earlier.fits within sub
      rw [mergeJobs, List.foldl_append, List.foldl_cons, List.foldl_nil]
      rw [mergeJobs] at earlier fits
      rw [mergeJob_fits (valid job (sub job (by simp))) fits]
      exact earlier.next job
  exact prefixes jobs fun _ member => member

end Sequence

section Outcomes
variable {bucket configId : String} {stored : Option Payload}

/-- After the calls, the item of an object version comes from the report of the
highest ranked job that covers it, unless the stored context outranks them all;
an item no report covers is as stored. -/
structure ResolvedBest (bucket configId : String) (stored : Option Payload) (jobs : List JobReport)
    (after : Option Payload) : Prop where
  covered : ∀ job ∈ jobs, ∀ row ∈ job.report.entries,
    (∀ other ∈ jobs, rowKey row ∈ other.report.entries.map rowKey → other.rank ≤ job.rank) →
    ∃ item, (payloadOrDefault bucket after).completionItems.get? (rowKey row) = some item ∧
      if contextRank configId ((payloadOrDefault bucket stored).completionItems.get? (rowKey row)) ≤
        job.rank
      then item.replicationOutcome = some (outcomeFromReportRow row) ∧
        item.resolvedAt = some job.report.createdAt ∧
        item.configs.get? configId = some ⟨configId, job.jobId, job.createdAt, true⟩
      else (payloadOrDefault bucket stored).completionItems.get? (rowKey row) = some item
  uncovered : ∀ key, (∀ job ∈ jobs, key ∉ job.report.entries.map rowKey) →
    (payloadOrDefault bucket after).completionItems.get? key =
      (payloadOrDefault bucket stored).completionItems.get? key

theorem resolvedBest_mergeJobs {jobs : List JobReport} (configId : String) (stored : Option Payload)
    (valid : ∀ job ∈ jobs, ValidReport job.report)
    (plain : ∀ job ∈ jobs, ∀ row ∈ job.report.entries, PlainVersion row.versionId)
    (distinct : ∀ job ∈ jobs, ∀ other ∈ jobs, job.rank = other.rank → job = other)
    (within : WithinCeiling bucket stored jobs) :
    ResolvedBest bucket configId stored jobs (mergeJobs bucket configId stored jobs) := by
  have merged := merged_mergeJobs configId stored valid within
  refine ⟨fun job member row listed highest => ?_, fun key absent => ?_⟩
  · have hit : (job, row) ∈ hits jobs (rowKey row) := mem_hits.mpr ⟨member, listed, rfl⟩
    rw [merged.items, foldl_top (hits_overwrite bucket configId _ valid plain distinct _) hit
      fun other also => highest other.1 (mem_hits.mp also).1
        (List.mem_map.mpr ⟨other.2, (mem_hits.mp also).2⟩)]
    rw [step]
    split
    · exact ⟨_, rfl, rfl, rfl, Dict.get?_insert_self ..⟩
    · rename_i outranked
      cases held : (payloadOrDefault bucket stored).completionItems.get? (rowKey row) with
      | none =>
        rw [held] at outranked
        exact absurd bot_le outranked
      | some item => exact ⟨item, rfl, rfl⟩
  · have none : hits jobs key = [] := List.eq_nil_iff_forall_not_mem.mpr fun hit member => by
      obtain ⟨listed, rows, own⟩ := mem_hits.mp member
      exact absent hit.1 listed (own ▸ List.mem_map_of_mem rows)
    rw [merged.items, none, List.foldl_nil]

/-- In whatever order and however often the reports of some jobs are merged, the
items and the processed jobs are the same, and each item is the best one. -/
theorem merges_order_independent (bucket configId : String) (stored : Option Payload)
    (first second : List JobReport) (valid : ∀ job ∈ first, ValidReport job.report)
    (plain : ∀ job ∈ first, ∀ row ∈ job.report.entries, PlainVersion row.versionId)
    (distinct : ∀ job ∈ first, ∀ other ∈ first, job.rank = other.rank → job = other)
    (within : WithinCeiling bucket stored first) (same : ∀ job, job ∈ first ↔ job ∈ second) :
    (∀ key,
      (payloadOrDefault bucket (mergeJobs bucket configId stored first)).completionItems.get? key =
        (payloadOrDefault bucket
          (mergeJobs bucket configId stored second)).completionItems.get? key) ∧
    (∀ jobId, jobId ∈ (payloadOrDefault bucket
        (mergeJobs bucket configId stored first)).completionProcessedJobIds ↔
      jobId ∈ (payloadOrDefault bucket
        (mergeJobs bucket configId stored second)).completionProcessedJobIds) ∧
    ResolvedBest bucket configId stored first (mergeJobs bucket configId stored first) := by
  have validSecond : ∀ job ∈ second, ValidReport job.report := fun job member =>
    valid job ((same job).mpr member)
  have withinSecond : WithinCeiling bucket stored second := by
    refine le_trans (Finset.card_le_card ?_) within
    intro key member
    simpa only [Finset.mem_union, List.mem_toFinset, List.mem_flatMap, same] using member
  have left := merged_mergeJobs configId stored valid within
  have right := merged_mergeJobs configId stored validSecond withinSecond
  refine ⟨fun key => ?_, fun jobId =>
    ?_, resolvedBest_mergeJobs configId stored valid plain distinct within⟩
  · rw [left.items, right.items]
    refine foldl_eq_of_same (hits_overwrite bucket configId _ valid plain distinct
      key) (fun hit => ?_) _
    rw [mem_hits, mem_hits, same]
  · rw [left.processed, right.processed]
    simp only [List.mem_map, same]

end Outcomes

section Sample

def earlyJob : JobReport :=
  ⟨⟨5, [⟨"ant", none, some "failed"⟩, ⟨"bee", some "v1", some "succeeded"⟩]⟩, "job-1", 3⟩

def lateJob : JobReport := ⟨⟨4, [⟨"ant", none, some "succeeded"⟩]⟩, "job-2", 4⟩

theorem within_of_few (few : ((payloadOrDefault bucket stored).completionItems.keys.toFinset ∪
    (jobs.flatMap fun job => job.report.entries.map rowKey).toFinset).card ≤ 2) :
    WithinCeiling bucket stored jobs := by
  rw [WithinCeiling, completionSideMapCeiling]
  omega

/-- Two jobs cover one object; the later one wins although it is merged first. -/
theorem merges_order_independent_pair :
    (payloadOrDefault "b" (mergeJobs "b" "b" none [lateJob, earlyJob])).completionItems.get?
        (itemKey "ant" none) =
      (payloadOrDefault "b"
        (mergeJobs "b" "b" none [earlyJob, lateJob, earlyJob])).completionItems.get?
        (itemKey "ant" none) ∧
    ∃ item, (payloadOrDefault "b" (mergeJobs "b" "b" none [lateJob, earlyJob])).completionItems.get?
        (itemKey "ant" none) = some item ∧ item.replicationOutcome = some "COMPLETE" := by
  have both := merges_order_independent "b" "b" none [lateJob, earlyJob]
    [earlyJob, lateJob, earlyJob]
    (by unfold ValidReport; decide) (by decide) (by decide)
      (within_of_few (by decide)) (by simp [or_comm])
  obtain ⟨item, found, outcome⟩ :=
    both.2.2.covered lateJob (by simp) ⟨"ant", none, some "succeeded"⟩
    (by decide) (by decide)
  exact ⟨both.1 _, item, found, outcome.1⟩

end Sample
end ReplicateOnTag.StateStore

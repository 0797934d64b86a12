import ReplicateOnTag.Orchestrator.PersistedWindow

/-! From a manifest that keeps an entry to the checkpoint its release persists:
the refs of the job are those of its entries, and the watermark passes every
eligible operation of the run. -/
namespace ReplicateOnTag.Orchestrator
open StateStore JournalDedup CheckpointLogic ManifestGenerator

/-- The kept entries of the manifest built from what was read. -/
def keptOf (settings : Settings) (ops : List TaggingOperation) (checkpoint : CheckpointState)
    (deleted : List (String × Option String)) : Option (List ManifestEntry) :=
  filterDeletedEntries (finalize
    (matchAndAccumulate (selectEligible settings ops checkpoint).dedupedOps
    settings.rules) settings.bucketName).entries deleted

/-- What a job over the kept entries records and how far its release moves the
watermark, whatever object the release finds. -/
structure RecordsAndAdvances (settings : Settings) (ops : List TaggingOperation)
    (checkpoint : CheckpointState)
    (keptTriples : List (String × String × Option String)) : Prop where
  sourced : ∀ triple ∈ keptTriples,
    ∃ op ∈ (selectEligible settings ops checkpoint).dedupedOps, op.triple = triple
  refs_ne_nil : buildSubmittedRefs
    (selectEligible settings ops checkpoint).dedupedOps keptTriples ≠ []
  recorded : ∀ op ∈ (selectEligible settings ops checkpoint).dedupedOps, op.triple ∈ keptTriples →
    ⟨op.logicalOperationId, op.watermark⟩ ∈
      buildSubmittedRefs (selectEligible settings ops checkpoint).dedupedOps keptTriples
  advances : ∃ candidateHwm,
    (selectEligible settings ops checkpoint).candidateHwm = some candidateHwm ∧
    (∀ op ∈ (selectEligibleOperations ops checkpoint settings.lookback).eligible,
      op.watermark ≤ candidateHwm) ∧
    ∀ now stored released, (StateOp.releaseLease now
        (some (buildSubmittedRefs (selectEligible settings ops checkpoint).dedupedOps keptTriples))
        settings.lookback (some candidateHwm)).apply settings.bucketName stored = some released →
      candidateHwm ≤ released.lastProcessedWatermark

section Advance
variable {settings : Settings} {ops : List TaggingOperation} {checkpoint : CheckpointState}

/-- Every kept entry comes from an operation that was selected. -/
theorem keptOf_sourced (kept : keptOf settings ops checkpoint deleted = some entries)
    (member : entry ∈ entries) :
    ∃ op ∈ (selectEligible settings ops checkpoint).dedupedOps, op.triple = entry.triple := by
  obtain ⟨op, listed, _, triple⟩ := finalize_sound ((filterDeletedEntries_some kept).2 entry member)
  exact ⟨op, listed, triple.symm⟩

theorem buildSubmittedRefs_ne_nil (member : op ∈ ops) (kept : op.triple ∈ keptTriples) :
    buildSubmittedRefs ops keptTriples ≠ [] :=
  List.ne_nil_of_mem (mem_buildSubmittedRefs.mpr ⟨op, member, kept, rfl⟩)

/-- A release that carries refs persists at least its candidate. -/
theorem candidate_le_released (submitted : refs ≠ [])
    (released : (StateOp.releaseLease now (some refs) lookback
      (some candidateHwm)).apply bucket stored =
      some after) : candidateHwm ≤ after.lastProcessedWatermark := by
  have watermark : after.lastProcessedWatermark =
      advancedWatermark (payloadOrDefault bucket stored).lastProcessedWatermark refs
        (some candidateHwm) :=
    (advances_release submitted released).watermark
  rw [watermark]
  exact candidate_le_advancedWatermark

/-- A job whose manifest keeps an entry always records a ref for what it
submits and moves the checkpoint past everything that was eligible. -/
theorem submitted_job_advances (settings : Settings) (ops : List TaggingOperation)
    (checkpoint : CheckpointState)
    (kept : keptOf settings ops checkpoint deleted = some entries) :
    RecordsAndAdvances settings ops checkpoint (entries.map ManifestEntry.triple) := by
  obtain ⟨entry, member⟩ := List.exists_mem_of_ne_nil _ (filterDeletedEntries_some kept).1
  obtain ⟨op, listed, triple⟩ := keptOf_sourced kept member
  have reached : op.triple ∈ entries.map ManifestEntry.triple := by
    rw [triple]
    exact List.mem_map_of_mem member
  have refs := buildSubmittedRefs_ne_nil listed reached
  constructor
  · intro triple keptTriple
    obtain ⟨entry, member, rfl⟩ := List.mem_map.mp keptTriple
    exact keptOf_sourced kept member
  · exact refs
  · intro op listed keptTriple
    exact mem_buildSubmittedRefs.mpr ⟨op, listed, keptTriple, rfl⟩
  · have eligible := (mem_dedupedOps.mp listed).1
    cases candidate : (selectEligible settings ops checkpoint).candidateHwm with
    | none =>
      rw [selectEligible_candidate, maxWatermark_eq_none_iff] at candidate
      rw [candidate] at eligible
      cases eligible
    | some candidateHwm =>
      refine ⟨candidateHwm, rfl, ?_, ?_⟩
      · intro op member
        exact le_maxWatermark candidate member
      · intro now stored released applied
        exact candidate_le_released refs applied

/-- In a run: the release of a submitted job that reaches the object leaves a
watermark past everything the run found eligible. -/
theorem submitted_run_advances {env : RunEnv} {stored : Option Payload}
    (submitted : (runBucket settings env stored).submission = some submission)
    (served : env.writes .release = .served) :
    ∃ checkpoint window, (runBucket settings env stored).window = some window ∧
      submission.refs ≠ [] ∧
      ∀ op ∈ (selectEligibleOperations window.ops checkpoint settings.lookback).eligible,
        op.watermark ≤
          (payloadOrDefault settings.bucketName
            (runBucket settings env stored).stored).lastProcessedWatermark := by
  obtain ⟨prep, checkpoint, window, prepares, ready, _, same, ⟨submits⟩⟩ :=
    submission_shape submitted
  refine ⟨checkpoint, window, by rw [same], submits.refs_ne_nil, ?_⟩
  have settled := prepares.evolves ready
  have readable : Readable env.now settings.bucketName prep.stored :=
    readable_evolves settled (fun _ => isQuietOp_report) (readable_of_getCheckpoint prepares.found)
  have advances := submits.advances served readable
  intro op member
  rw [same, advances.watermark]
  exact (le_maxWatermark submits.candidate member).trans candidate_le_advancedWatermark

end Advance

section Sample
open Settings Watermark

/-- One operation for each way past the manifest: archived, unmatched, and
with its version deleted; two tag states of one version are kept. -/
def mixedOps : List TaggingOperation :=
  [photosOp "ant" "yes" 11,
    { photosOp "ant" "yes" 12 with resultingTagSet := some (Dict.ofList
      [("keep", "yes"), ("owner", "lab")]) },
    { photosOp "bee" "yes" 13 with storageClass := some "GLACIER" }, photosOp "cat" "no" 14,
    { photosOp "dog" "yes" 15 with operationVersion := some "v1" }]

theorem submitted_job_advances_mixed :
    keptOf photos mixedOps ⟨"photos", toWatermark 10, none, []⟩ [("dog", some "v1")] =
        some [⟨"photos", "ant", none⟩] ∧
      RecordsAndAdvances photos mixedOps ⟨"photos", toWatermark 10, none, []⟩
        [("photos", "ant", none)] := by
  have kept : keptOf photos mixedOps ⟨"photos", toWatermark 10, none, []⟩ [("dog", some "v1")] =
      some [⟨"photos", "ant", none⟩] := by decide +kernel
  exact ⟨kept, submitted_job_advances photos mixedOps _ kept⟩

end Sample
end ReplicateOnTag.Orchestrator

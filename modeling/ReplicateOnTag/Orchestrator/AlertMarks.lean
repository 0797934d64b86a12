import ReplicateOnTag.Orchestrator.ItemSteps
import ReplicateOnTag.Orchestrator.RecoveryFlags
import ReplicateOnTag.Orchestrator.RunPuts

/-! What the writes of a bucket do to the marks of escalated jobs, and the order in
which a run makes the ones that matter: it clears a mark only behind the merge of
that job, and files the record of its own job once. -/
namespace ReplicateOnTag.Orchestrator
open StateStore HeldToken Contention

section Operations
variable {bucket jobId : String} {stored : Option Payload} {after : Payload} {op : StateOp}

theorem mem_alertedConfigs (bucket : String) :
    jobId ∈ alertedConfigs stored ↔
      jobId ∈ (payloadOrDefault bucket stored).completionReportAlertedConfigs := by
  cases stored <;> rfl

/-- A job that is processed stays processed. -/
theorem processed_stays (applied : op.apply bucket stored = some after)
    (processed : jobId ∈ processedJobIds bucket stored) :
    jobId ∈ processedJobIds bucket (some after) := by
  by_cases foreign : PayloadKey.completionProcessedJobIds ∈ op.ownedKeys
  · cases op with
    | mergeCompletionReport =>
      obtain ⟨_, rfl⟩ := merge_applied applied
      simpa [processedJobIds, payloadOrDefault, mergedBody] using Or.inr processed
    | _ => simp [StateOp.ownedKeys, StateOp.checkpointKeys] at foreign
  · rw [processedIds_frame applied foreign]
    exact processed

theorem merge_processes
    (applied : (StateOp.mergeCompletionReport report configId jobId createdAt
      timestamps).apply bucket stored =
      some after) : jobId ∈ processedJobIds bucket (some after) := by
  obtain ⟨_, rfl⟩ := merge_applied applied
  simp [processedJobIds, payloadOrDefault, mergedBody, mergeContext]

/-- Only the record of a new job is filed anew. -/
theorem record_before (applied : op.apply bucket stored = some after)
    (filed : ∀ submission terminal tracking limit,
      op = .recordSubmission submission terminal tracking limit →
      submission.jobId ≠ "" ∧ submission.jobId ≠ jobId)
    (present : (recordFor bucket (some after) jobId).isSome) :
    (recordFor bucket stored jobId).isSome := by
  by_cases foreign : PayloadKey.submissionRecords ∈ op.ownedKeys
  · cases op with
    | recordSubmission submission terminal tracking limit =>
      obtain ⟨named, other⟩ := filed submission terminal tracking limit rfl
      simp only [StateOp.apply, StateOp.program, ConditionalStore.Update.atomically,
        StateOp.compute] at applied
      split at applied
      · rename_i own
        cases applied
        rw [recordFor_recordSubmission named, own] at present
        obtain ⟨record, kept⟩ := Option.isSome_iff_exists.mp present
        rcases retainedRecords_sound kept with ⟨same, _⟩ | ⟨_, old⟩
        · exact absurd same.symm other
        · exact Option.isSome_of_eq_some old
      · cases applied
    | disableBucket reason now =>
      cases applied
      rw [recordFor_disableBucket] at present
      cases present
    | markReportDiagnosed marked diagnosed scored =>
      cases applied
      rwa [recordFor_markReportDiagnosed, Option.isSome_map] at present
    | _ => simp [StateOp.ownedKeys, StateOp.checkpointKeys] at foreign
  · rwa [recordFor_of_agrees (StateOp.frame applied foreign)] at present

/-- A mark is dropped when it is cleared, or with the record of its job. -/
theorem mark_stays (applied : op.apply bucket stored = some after)
    (mark : jobId ∈ alertedConfigs stored)
    (uncleared : op ≠ .clearAlertedConfig jobId)
    (named : ∀ submission terminal tracking limit,
      op = .recordSubmission submission terminal tracking limit →
      submission.jobId ≠ "") :
    jobId ∈ alertedConfigs (some after) ∨ recordFor bucket (some after) jobId = none := by
  rw [mem_alertedConfigs bucket] at mark
  by_cases foreign : PayloadKey.completionReportAlertedConfigs ∈ op.ownedKeys
  · cases op with
    | recordSubmission submission terminal tracking limit =>
      have other := named submission terminal tracking limit rfl
      simp only [StateOp.apply, StateOp.program, ConditionalStore.Update.atomically,
        StateOp.compute] at applied
      split at applied
      · rename_i own
        cases applied
        rw [recordFor_recordSubmission other]
        by_cases kept : jobId ∈ (retainedRecords
          (payloadOrDefault submission.sourceBucket stored) submission terminal
          tracking limit).keys
        · refine .inl (List.mem_filter.mpr ⟨own ▸ mark, ?_⟩)
          simp [kept]
        · exact .inr (Dict.get?_eq_none_iff.mpr kept)
      · cases applied
    | disableBucket reason now =>
      cases applied
      exact .inr recordFor_disableBucket
    | addAlertedConfig other =>
      cases applied
      exact .inl (List.mem_insert_of_mem mark)
    | clearAlertedConfig other =>
      cases applied
      refine .inl (List.mem_filter.mpr ⟨mark, decide_eq_true ?_⟩)
      rintro rfl
      exact uncleared rfl
    | _ => simp [StateOp.ownedKeys, StateOp.checkpointKeys] at foreign
  · refine .inl ?_
    have same : (payloadOrDefault bucket stored).completionReportAlertedConfigs =
        (payloadOrDefault bucket (some after)).completionReportAlertedConfigs :=
          StateOp.frame applied foreign
    rw [mem_alertedConfigs bucket, ← same]
    exact mark

end Operations

/-- What a run has done that matters to the marks. -/
structure AlertPhase where
  merged : List String
  filed : Bool

namespace AlertPhase

def next (phase : AlertPhase) (op : StateOp) (fate : Fate) : AlertPhase :=
  match op, fate with
  | .mergeCompletionReport _ _ jobId _ _, .answered =>
      { phase with merged := jobId :: phase.merged }
  | .recordSubmission .., _ => { phase with filed := true }
  | _, _ => phase

/-- Nothing is entered or left here: runs may overlap as they like. -/
def phases : Phases StateOp AlertPhase where
  start := ⟨[], false⟩
  next := next
  entered _ := False
  left _ := False
  outside := id
  entered_next := id
  left_next := id
  entered_refused := id
  left_refused := id

end AlertPhase

/-- What a run may put, by what it has done. -/
def MayPut (env : RunEnv) (phase : AlertPhase) : StateOp → Prop
  | .recordSubmission submission .. => phase.filed = false ∧
      env.createJob = .created submission.jobId
  | .clearAlertedConfig jobId => jobId ∈ phase.merged
  | _ => True

section Obeying
variable {settings : Settings} {env : RunEnv} {phase : AlertPhase}

theorem plain_obeys {client : RunClient β} {post : β → Prop} (puts : Puts IsPlainOp post client) :
    Obeys AlertPhase.phases (MayPut env) (fun last result => last = phase ∧
      post result) phase client := by
  refine puts.obeys ?_ ?_
  · intro op plain
    cases op <;> first | exact plain.elim | trivial
  · intro op fate plain
    cases op <;> first | exact plain.elim | rfl

theorem plain_bind {client : RunClient β} {next : β → RunClient γ} {middle : β → Prop}
    {post : AlertPhase → γ → Prop} (first : Puts IsPlainOp middle client)
    (rest : ∀ result, middle result →
      Obeys AlertPhase.phases (MayPut env) post phase (next result)) :
    Obeys AlertPhase.phases (MayPut env) post phase (client.bind next) := by
  refine Obeys.bind ((plain_obeys first).mono ?_)
  rintro last result ⟨rfl, reached⟩
  exact rest result reached

/-- A mark is cleared behind the merge of its job, and nowhere else. -/
theorem settleReport_obeys (rec : SubmissionRecord) (merged : List String) (filed : Bool) :
    Obeys AlertPhase.phases (MayPut env) (fun last _ => last.filed = filed) ⟨merged, filed⟩
      (RunClient.settleReport settings env rec) := by
  have cleared : Obeys AlertPhase.phases (MayPut env) (fun last (_ : Unit) => last.filed = filed)
      ⟨rec.jobId :: merged, filed⟩ (RunClient.clearAlert env rec.jobId) := by
    rw [RunClient.clearAlert]
    split
    · intro stored
      dsimp only
      split
      · exact ⟨List.mem_cons_self, fun _ => ⟨rfl, fun _ => rfl, fun _ => rfl⟩⟩
      · rfl
    · rfl
  have merges (job : JobDescription) :
      Obeys AlertPhase.phases (MayPut env) (fun last (_ : Unit) => last.filed = filed)
      ⟨merged, filed⟩ (RunClient.mergeReport settings env rec.jobId job) := by
    rw [RunClient.mergeReport]
    split
    · exact Obeys.bind ⟨trivial, fun _ => ⟨rfl, fun _ => cleared, fun _ => rfl⟩⟩
    · rfl
  have settles (job : JobDescription) :
      Obeys AlertPhase.phases (MayPut env) (fun last (_ : Unit) =>
        last.filed = filed) ⟨merged, filed⟩
        (RunClient.onJobTerminal settings env rec.jobId job) := by
    rw [RunClient.onJobTerminal]
    split
    · rfl
    · intro stored
      dsimp only
      split
      · rfl
      · exact merges job
  rw [RunClient.settleReport]
  split
  · rename_i job _
    refine Obeys.bind ((settles job).mono ?_)
    rintro ⟨merged, _⟩ _ rfl
    exact (plain_obeys (diagnoseReport_puts rec job)).mono fun last _ ends =>
      congrArg AlertPhase.filed ends.1
  · rfl

theorem describePriorJobs_obeys (prior : List SubmissionRecord) (check : JobCheck)
    (merged : List String) :
    Obeys AlertPhase.phases (MayPut env) (fun last _ => last.filed = false) ⟨merged, false⟩
      (RunClient.describePriorJobs settings env prior check) := by
  induction prior generalizing check merged with
  | nil => rfl
  | cons rec rest ih =>
    rw [RunClient.describePriorJobs]
    split
    · exact ih check merged
    · refine Obeys.bind ((settleReport_obeys rec merged false).mono ?_)
      rintro ⟨later, _⟩ _ rfl
      exact ih _ later

theorem prepareStateAndRecovery_obeys (state : CheckpointState) (merged : List String) :
    Obeys AlertPhase.phases (MayPut env) (fun last _ => last.filed = false) ⟨merged, false⟩
      (RunClient.prepareStateAndRecovery settings env state) := by
  refine plain_bind priorSubmissions_puts ?_
  intro prior _
  refine Obeys.bind ((describePriorJobs_obeys prior .empty merged).mono ?_)
  rintro ⟨later, _⟩ check rfl
  dsimp only
  split
  · refine plain_bind (applyRecoveryPlan_puts _ _) ?_
    intro chosen _
    cases chosen with
    | none => exact plain_bind (commitRecoveryScored_puts _) fun _ _ => rfl
    | some rolledBack => rfl
  · rfl

/-- The record that is filed is that of the job just created. -/
theorem concludeRun_obeys (check : JobCheck) (outcome : Option SubmissionOutcome) (released : Bool)
    (files : ∀ found, outcome = some found → FilesCreated env found) (merged : List String) :
    Obeys AlertPhase.phases (MayPut env) (fun _ _ => True) ⟨merged, false⟩
      (RunClient.concludeRun settings env check outcome released) := by
  cases outcome with
  | none => trivial
  | some outcome =>
    have scored (phase : AlertPhase) : Obeys AlertPhase.phases (MayPut env) (fun _ _ => True) phase
        (if outcome.succeeded then RunClient.commitRecoveryScored env check.newlyScoredJobIds
          else return () : RunClient Unit) := by
      split
      · exact (plain_obeys (commitRecoveryScored_puts _)).mono fun _ _ _ => trivial
      · trivial
    cases released with
    | false => exact scored _
    | true =>
      simp only [RunClient.concludeRun, if_true]
      cases filed : outcome.lastSubmission with
      | none => exact scored _
      | some submission =>
        refine Obeys.bind ⟨⟨rfl, files outcome rfl submission filed⟩, fun _ => ?_⟩
        exact ⟨scored _, fun _ => scored _, fun _ => scored _⟩

theorem runSelected_obeysMarks (prep : RunClient.Prepared) (checkpoint : CheckpointState)
    (window : JournalWindow)
    (selected : Selected) (merged : List String) :
    Obeys AlertPhase.phases (MayPut env) (fun _ _ => True) ⟨merged, false⟩
      (RunClient.runSelected settings env prep checkpoint window selected) := by
  have body : Puts IsPlainOp (Hands settings env selected window)
      (RunClient.leasedManifestAndSubmit settings env selected window prep.plan.consecutiveFailures
        checkpoint.lastProcessedWatermark) := leasedManifestAndSubmit_puts _ _ _ _
  simp only [RunClient.runSelected]
  cases selected.candidateHwm with
  | none => exact plain_bind body fun leased hands => concludeRun_obeys _ _ _ hands.files merged
  | some candidateHwm =>
    refine Obeys.bind ⟨trivial, fun _ => ⟨trivial, fun _ => ?_, fun _ => trivial⟩⟩
    refine plain_bind body fun leased hands => Obeys.bind ⟨trivial, fun _ => ?_⟩
    exact ⟨concludeRun_obeys _ _ _ hands.files merged, fun _ =>
      concludeRun_obeys _ _ _ hands.files merged,
      fun _ => concludeRun_obeys _ _ _ hands.files merged⟩

/-- A run keeps the order, whoever else writes and whatever it reads. -/
theorem runBucket_obeysMarks (settings : Settings) (env : RunEnv) :
    OpeningObeys AlertPhase.phases (fun (_ : Option Payload) => MayPut env)
      (RunClient.runBucket settings env) := by
  rw [RunClient.runBucket]
  split
  · trivial
  · intro stored
    dsimp only
    split
    · trivial
    · intro held
      dsimp only
      cases getCheckpoint env.now settings.bucketName held with
      | none => trivial
      | some state =>
        refine Obeys.bind ((prepareStateAndRecovery_obeys state []).mono ?_)
        rintro ⟨merged, _⟩ prep rfl
        cases prep.checkpoint with
        | none => trivial
        | some checkpoint =>
          dsimp only
          split
          · trivial
          · refine plain_bind (readJournalWindow_puts _) ?_
            intro read _
            cases read with
            | none => trivial
            | some window => exact runSelected_obeysMarks prep checkpoint window _ merged

end Obeying
end ReplicateOnTag.Orchestrator

import ReplicateOnTag.Library.Contention
import ReplicateOnTag.Orchestrator.RunClient

/-! What the parts of a run may put, whatever they read and whatever becomes of
their puts. -/
namespace ReplicateOnTag.Orchestrator
open StateStore HeldToken Contention ManifestGenerator

/-- Writes that touch no checkpoint, no record of a new job, no report and no alert. -/
def IsPlainOp : StateOp → Prop
  | .putCheckpoint _ | .acquireLease .. | .releaseLease .. | .recordSubmission
      .. | .mergeCompletionReport ..
  | .clearAlertedConfig _ => False
  | _ => True

/-- Writes that leave the checkpoint and its lease alone. -/
def SparesLease : StateOp → Prop
  | .putCheckpoint _ | .acquireLease .. | .releaseLease .. => False
  | _ => True

theorem sparesLease_of_plain {op : StateOp} (plain : IsPlainOp op) : SparesLease op := by
  cases op <;> first | exact plain.elim | trivial

variable {settings : Settings} {env : RunEnv} {may : StateOp → Prop}

theorem write_puts (site : WriteSite) {op : StateOp} (permitted : may op) :
    Puts may (fun _ => True) (RunClient.write env site op) :=
  ⟨permitted, fun _ _ => trivial⟩

theorem writeBestEffort_puts (site : WriteSite) {op : StateOp} (permitted : may op) :
    Puts may (fun _ => True) (RunClient.writeBestEffort env site op) :=
  ⟨permitted, fun _ _ => trivial⟩

section Reports

theorem clearAlert_puts (jobId : String) (permitted : may (.clearAlertedConfig jobId)) :
    Puts may (fun _ => True) (RunClient.clearAlert env jobId) := by
  rw [RunClient.clearAlert]
  split
  · intro stored
    dsimp only
    split
    · exact writeBestEffort_puts _ permitted
    · trivial
  · trivial

theorem diagnoseReport_puts (rec : SubmissionRecord) (job : JobDescription) :
    Puts IsPlainOp (fun _ => True) (RunClient.diagnoseReport env rec job) := by
  rw [RunClient.diagnoseReport]
  split
  · exact writeBestEffort_puts _ trivial
  · trivial

theorem settleReport_puts (rec : SubmissionRecord) :
    Puts SparesLease (fun _ => True) (RunClient.settleReport settings env rec) := by
  have merges (job : JobDescription) :
      Puts SparesLease (fun _ => True) (RunClient.mergeReport settings env rec.jobId job) := by
    rw [RunClient.mergeReport]
    split
    · refine (write_puts _ (by trivial)).bind ?_
      intro merged _
      cases merged with
      | true => exact clearAlert_puts _ trivial
      | false => trivial
    · trivial
  rw [RunClient.settleReport]
  split
  · rename_i job _
    have settles : Puts SparesLease (fun _ => True)
        (RunClient.onJobTerminal settings env rec.jobId job) := by
      rw [RunClient.onJobTerminal]
      split
      · trivial
      · intro stored
        dsimp only
        split
        · trivial
        · exact merges job
    exact settles.bind fun _ _ => (diagnoseReport_puts rec job).mono fun _ => sparesLease_of_plain
  · trivial

theorem commitRecoveryScored_puts (jobIds : List String) :
    Puts IsPlainOp (fun _ => True) (RunClient.commitRecoveryScored env jobIds) := by
  induction jobIds with
  | nil => trivial
  | cons jobId rest ih => exact (writeBestEffort_puts _ (by trivial)).bind fun _ _ => ih

theorem priorSubmissions_puts : Puts may (fun _ => True) (RunClient.priorSubmissions env) := by
  rw [RunClient.priorSubmissions]
  split
  · exact fun _ => trivial
  · trivial

/-- The checkpoint the run goes on with, if any, follows from the check of its jobs. -/
theorem applyRecoveryPlan_puts (plan : JobRecovery.RecoveryPlan) (state : CheckpointState) :
    Puts IsPlainOp (fun _ => True) (RunClient.applyRecoveryPlan env plan state) := by
  rw [RunClient.applyRecoveryPlan]
  split
  · exact (writeBestEffort_puts _ (by trivial)).bind fun _ _ => trivial
  · trivial
  · trivial

end Reports

section Window

theorem escalateJournalUnavailable_puts :
    Puts IsPlainOp (fun _ => True) (RunClient.escalateJournalUnavailable settings env) := by
  have due : Puts IsPlainOp (fun _ => True) (RunClient.journalAlertDue settings env) := by
    rw [RunClient.journalAlertDue]
    split
    · exact fun _ => trivial
    · trivial
  refine due.bind ?_
  intro due _
  split
  · exact writeBestEffort_puts _ trivial
  · trivial

/-- The window a run goes on with is the one its queries give, whatever it reads in the object. -/
theorem readJournalWindow_puts (watermark : Watermark) :
    Puts IsPlainOp
      (fun read => ∀ window, read = some window →
        (readJournalWindow settings env watermark none).1 = some window)
      (RunClient.readJournalWindow settings env watermark) := by
  simp only [RunClient.readJournalWindow, readJournalWindow]
  split
  · exact nofun
  · cases sinceTimestamp settings env watermark with
    | none => exact nofun
    | some range =>
      cases env.queries .journal with
      | true => exact fun _ read => read
      | false =>
        cases env.journalUnavailable with
        | false => exact nofun
        | true => exact escalateJournalUnavailable_puts.bind fun _ _ => nofun

end Window

section Lease

theorem recordScan_puts (count : Nat) :
    Puts IsPlainOp (fun _ => True) (RunClient.recordScan settings env count) := by
  rw [RunClient.recordScan]
  split
  · exact writeBestEffort_puts _ trivial
  · trivial

theorem storeTimestamps_puts (entries : Entries) :
    Puts IsPlainOp (fun _ => True) (RunClient.storeTimestamps settings env entries) := by
  simp only [RunClient.storeTimestamps]
  split
  · trivial
  · exact writeBestEffort_puts _ trivial

theorem buildManifest_puts (entries : Entries) (window : JournalWindow) :
    Puts IsPlainOp
      (fun built => ∀ manifest, built = some manifest →
        keptEntries settings env entries window.since = some manifest.entries)
      (RunClient.buildManifest settings env entries window) := by
  rw [RunClient.buildManifest]
  split
  · exact nofun
  · refine (recordScan_puts _).bind ?_
    intro _ _
    cases kept : keptEntries settings env entries window.since with
    | none => exact nofun
    | some entries =>
      cases env.manifestKey with
      | none => exact nofun
      | some key => exact fun _ written => by cases written; rfl

theorem escalateSubmissionFailure_puts :
    Puts IsPlainOp (fun _ => True) (RunClient.escalateSubmissionFailure settings env) := by
  have judged (streak : Nat) : Puts IsPlainOp (fun _ => True)
      (if streak < settings.maxBatchJobFailures then return false
        else do
          RunClient.disable env (submissionDisableReason settings.bucketName streak)
          return true : RunClient Bool) := by
    split
    · trivial
    · exact (writeBestEffort_puts _ (by trivial)).bind fun _ _ => trivial
  exact ⟨trivial, fun ok stored => judged _⟩

/-- A record is that of the job just created. -/
def FilesCreated (env : RunEnv) (outcome : SubmissionOutcome) : Prop :=
  ∀ submission, outcome.lastSubmission = some submission → env.createJob = .created submission.jobId

theorem submitJob_puts (manifest : WrittenManifest) (counter : Nat) (low : Watermark)
    (candidate : Option Watermark) :
    Puts IsPlainOp (FilesCreated env)
      (RunClient.submitJob settings env manifest counter low candidate) := by
  simp only [RunClient.submitJob, submitBatchJob]
  by_cases empty : manifest.objectCount = 0
  · simp only [if_pos empty]
    exact nofun
  · simp only [if_neg empty]
    cases created : env.createJob with
    | created jobId =>
      refine (writeBestEffort_puts _ (by trivial)).bind ?_
      rintro _ _ _ ⟨⟩
      exact created
    | rejected failureClass | lost jobId failureClass =>
      dsimp only
      split
      · exact escalateSubmissionFailure_puts.bind fun _ _ => nofun
      · exact nofun

/-- What the lease body hands on: a job's record, and either no refs or those the
selection offers. -/
structure Hands (settings : Settings) (env : RunEnv) (selected : Selected) (window : JournalWindow)
    (leased : RunClient.Leased) : Prop where
  files : ∀ outcome, leased.outcome = some outcome → FilesCreated env outcome
  refs : leased.submittedRefs = none ∨ ∃ kept,
    keptEntries settings env (matchAndAccumulate selected.dedupedOps settings.rules)
      window.since = some kept ∧
      leased.submittedRefs =
        some (JournalDedup.buildSubmittedRefs selected.dedupedOps (kept.map ManifestEntry.triple))

theorem leasedManifestAndSubmit_puts (selected : Selected) (window : JournalWindow)
    (counter : Nat) (low : Watermark) :
    Puts IsPlainOp (Hands settings env selected window)
      (RunClient.leasedManifestAndSubmit settings env selected window counter low) := by
  simp only [RunClient.leasedManifestAndSubmit]
  split
  · exact (recordScan_puts 0).bind fun _ _ => ⟨nofun, .inl rfl⟩
  · refine (storeTimestamps_puts _).bind fun _ _ => (buildManifest_puts _ _).bind ?_
    intro built written
    cases built with
    | none => exact ⟨nofun, .inl rfl⟩
    | some manifest =>
      refine (submitJob_puts manifest counter low _).bind ?_
      intro outcome files
      split
      · exact ⟨nofun, .inl rfl⟩
      · refine ⟨fun _ same => by cases same; exact files, ?_⟩
        dsimp only
        split
        · exact .inr ⟨_, written manifest rfl, rfl⟩
        · exact .inl rfl

end Lease
end ReplicateOnTag.Orchestrator

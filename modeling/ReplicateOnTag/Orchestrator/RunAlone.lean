import ReplicateOnTag.Orchestrator.RunClient

/-! A run that no other party writes beside, and whose answers are all
delivered, is the run of one call: every part of the client ends with the
result and the object of the function it stands for. -/
namespace ReplicateOnTag.Orchestrator.RunClient
open StateStore JobRecovery HeldToken

/-- Alone on a current token, the client ends with this result and this object,
and its token is current still. -/
structure Yields (bucket : String) (client : RunClient β) (stored : Option Payload)
    (ending : β × Option Payload) : Prop where
  returns : (client.alone (StateOp.program bucket) stored true).result = ending.1
  leaves : (client.alone (StateOp.program bucket) stored true).stored = ending.2
  holds : (client.alone (StateOp.program bucket) stored true).current = true

namespace Yields
variable {bucket : String}

theorem done (result : β) (stored : Option Payload) :
    Yields bucket (.done result) stored (result, stored) :=
  ⟨rfl, rfl, rfl⟩

theorem look {next : Option Payload → RunClient β}
    (later : Yields bucket (next stored) stored ending) :
    Yields bucket (.look next) stored ending :=
  ⟨later.returns, later.leaves, later.holds⟩

theorem bind {client : RunClient β} {next : β → RunClient γ}
    (first : Yields bucket client stored middle)
    (later : Yields bucket (next middle.1) middle.2 ending) :
    Yields bucket (client.bind next) stored ending := by
  constructor
  · rw [alone_bind, first.returns, first.leaves, first.holds]
    exact later.returns
  · rw [alone_bind, first.returns, first.leaves, first.holds]
    exact later.leaves
  · rw [alone_bind, first.returns, first.leaves, first.holds]
    exact later.holds

end Yields

section Refines
variable {settings : Settings} {env : RunEnv} (unlost : ∀ site, env.writes site ≠ .lost)
include unlost

/-- A put on the current token is the write of the run. -/
theorem put_yields (site : WriteSite) (op : StateOp) {next : Bool → Option Payload → RunClient β}
    (later : Yields settings.bucketName
      (next (Orchestrator.write settings env site op stored).ok stored)
      (Orchestrator.write settings env site op stored).stored ending) :
    Yields settings.bucketName (.put op (env.writes site).transport next) stored ending := by
  have alone : (Client.put op (env.writes site).transport next).alone
        (StateOp.program settings.bucketName) stored true =
      ((next (Orchestrator.write settings env site op stored).ok stored).alone
        (StateOp.program settings.bucketName)
          (Orchestrator.write settings env site op stored).stored
        true).following (if (Orchestrator.write settings env site op stored).ok
          then [op] else []) := by
    rw [Client.alone, Orchestrator.write, StateOp.apply]
    cases reply : env.writes site with
    | served =>
      cases applied : (StateOp.program settings.bucketName op).atomically stored with
      | none => simp [WriteReply.transport, Outcome.following]
      | some body => simp [WriteReply.transport, Outcome.following]
    | refused =>
      cases applied : (StateOp.program settings.bucketName op).atomically stored with
      | none => simp [WriteReply.transport, Outcome.following]
      | some body => simp [WriteReply.transport, Outcome.following]
    | lost => exact absurd reply (unlost site)
  constructor
  · rw [alone]
    exact later.returns
  · rw [alone]
    exact later.leaves
  · rw [alone]
    exact later.holds

theorem write_yields (site : WriteSite) (op : StateOp) (stored : Option Payload) :
    Yields settings.bucketName (write env site op) stored
      ((Orchestrator.write settings env site op stored).ok,
        (Orchestrator.write settings env site op stored).stored) :=
  put_yields unlost site op (.done _ _)

theorem writeBestEffort_yields (site : WriteSite) (op : StateOp) (stored : Option Payload) :
    Yields settings.bucketName (writeBestEffort env site op) stored
      ((), Orchestrator.writeBestEffort settings env site op stored) :=
  put_yields unlost site op (.done _ _)

theorem clearAlert_yields (jobId : String) (stored : Option Payload) :
    Yields settings.bucketName (clearAlert env jobId) stored
      ((), Orchestrator.clearAlert settings env jobId stored) := by
  rw [clearAlert, Orchestrator.clearAlert]
  cases read : env.reads (.alertedConfigs jobId) with
  | false => exact .done () stored
  | true =>
    refine .look ?_
    by_cases alerted : jobId ∈ alertedConfigs stored
    · simpa [alerted] using writeBestEffort_yields unlost _ _ stored
    · simpa [alerted] using Yields.done () stored

theorem mergeReport_yields (jobId : String) (job : JobDescription) (stored : Option Payload)
    (tracked : settings.completionTracking = true) (read : env.reads (.completionJob jobId) = true)
    (fresh : completionJobExists stored jobId = false) :
    Yields settings.bucketName (mergeReport settings env jobId job) stored
      ((), Orchestrator.onJobTerminal settings env jobId job stored) := by
  simp only [mergeReport, Orchestrator.onJobTerminal, tracked, read, fresh]
  cases completionReportOf env jobId job with
  | none => exact .done () stored
  | some report =>
    cases job.creationTime with
    | none => exact .done () stored
    | some createdAt =>
      refine (write_yields unlost _ _ stored).bind ?_
      dsimp only [Bool.not_true, Bool.or_self, Bool.false_eq_true, if_false]
      split
      · exact clearAlert_yields unlost jobId _
      · exact .done () _

theorem onJobTerminal_yields (jobId : String) (job : JobDescription) (stored : Option Payload) :
    Yields settings.bucketName (onJobTerminal settings env jobId job) stored
      ((), Orchestrator.onJobTerminal settings env jobId job stored) := by
  rw [onJobTerminal]
  split
  · rename_i skipped
    rw [Orchestrator.onJobTerminal, if_pos skipped]
    exact .done () stored
  · rename_i entered
    refine .look ?_
    simp only [Bool.or_eq_true, Bool.not_eq_true', not_or, Bool.not_eq_false] at entered
    by_cases merged : completionJobExists stored jobId = true
    · simpa [Orchestrator.onJobTerminal, entered, merged] using Yields.done () stored
    · simp only [merged, Bool.false_eq_true, if_false]
      exact mergeReport_yields unlost jobId job stored entered.1 entered.2 (by simpa using merged)

theorem settleReport_yields (rec : SubmissionRecord) (stored : Option Payload) :
    Yields settings.bucketName (settleReport settings env rec) stored
      ((), Orchestrator.settleReport settings env rec stored) := by
  cases viewed : viewJob env rec.jobId with
  | terminal job =>
    simp only [settleReport, Orchestrator.settleReport, viewed]
    refine (onJobTerminal_yields unlost rec.jobId job stored).bind ?_
    rw [diagnoseReport, Orchestrator.diagnoseReport]
    split
    · exact writeBestEffort_yields unlost _ _ _
    · exact .done () _
  | undescribable | running =>
    simp only [settleReport, Orchestrator.settleReport, viewed]
    exact .done () stored

theorem describePriorJobs_yields (prior : List SubmissionRecord) (check : JobCheck)
    (stored : Option Payload) :
    Yields settings.bucketName (describePriorJobs settings env prior check) stored
      (prior.foldl (checkJob settings env) (check, stored)) := by
  induction prior generalizing check stored with
  | nil => exact .done check stored
  | cons rec rest ih =>
    rw [describePriorJobs, List.foldl_cons, checkJob]
    split
    · exact ih check stored
    · exact (settleReport_yields unlost rec stored).bind (ih _ _)

theorem commitRecoveryScored_yields (jobIds : List String) (stored : Option Payload) :
    Yields settings.bucketName (commitRecoveryScored env jobIds) stored
      ((), Orchestrator.commitRecoveryScored settings env jobIds stored) := by
  induction jobIds generalizing stored with
  | nil => exact .done () stored
  | cons jobId rest ih => exact (writeBestEffort_yields unlost _ _ stored).bind (ih _)

theorem applyRecoveryPlan_yields (plan : RecoveryPlan) (state : CheckpointState)
    (stored : Option Payload) :
    Yields settings.bucketName (applyRecoveryPlan env plan state) stored
      (Orchestrator.applyRecoveryPlan settings env plan state stored) := by
  rw [applyRecoveryPlan, Orchestrator.applyRecoveryPlan]
  cases plan.disableReason with
  | some reason => exact (writeBestEffort_yields unlost _ _ stored).bind (.done none _)
  | none =>
    cases plan.rollbackTo with
    | some target => exact .done _ stored
    | none => exact .done _ stored

omit unlost in
theorem priorSubmissions_yields (bucket : String) (stored : Option Payload) :
    Yields bucket (priorSubmissions env) stored
      (Orchestrator.priorSubmissions env stored, stored) := by
  rw [priorSubmissions, Orchestrator.priorSubmissions]
  cases env.reads .submissionRecords with
  | false => exact .done _ stored
  | true => exact .look (.done _ stored)

/-- What the run learns before it reads the journal. -/
abbrev preparedOf (prep : Preparation) : Prepared × Option Payload :=
  (⟨prep.check, prep.plan, prep.checkpoint⟩, prep.stored)

theorem prepareStateAndRecovery_yields (read : env.reads .checkpoint = true)
    (found : getCheckpoint env.now settings.bucketName stored = some state) :
    ∃ prep, Orchestrator.prepareStateAndRecovery settings env stored = some prep ∧
      Yields settings.bucketName (prepareStateAndRecovery settings env state) stored
        (preparedOf prep) := by
  obtain ⟨check, settled, loop⟩ : ∃ check settled, Orchestrator.describePriorJobs settings env
      (Orchestrator.priorSubmissions env stored) stored = (check, settled) := ⟨_, _, rfl⟩
  have described := @describePriorJobs_yields settings env unlost
    (Orchestrator.priorSubmissions env stored) .empty stored
  rw [← Orchestrator.describePriorJobs, loop] at described
  simp only [Orchestrator.prepareStateAndRecovery, read, found, loop, Bool.not_true,
    Bool.false_eq_true, if_false, recoveryPlan]
  by_cases failed : check.anyCheckFailed = true
  · simp only [failed, if_true]
    have applied := @applyRecoveryPlan_yields settings env unlost (planRecovery
      (Orchestrator.priorSubmissions env stored) check.outcomes settings.bucketName
      settings.maxBatchJobFailures) state settled
    split
    · rename_i after breached
      rw [breached] at applied
      refine ⟨_, rfl, (priorSubmissions_yields _ stored).bind (described.bind ?_)⟩
      simp only [failed, if_true]
      exact applied.bind ((commitRecoveryScored_yields unlost _ after).bind (.done _ _))
    · rename_i rolledBack after recovered
      rw [recovered] at applied
      refine ⟨_, rfl, (priorSubmissions_yields _ stored).bind (described.bind ?_)⟩
      simp only [failed, if_true]
      exact applied.bind (.done _ after)
  · simp only [failed, Bool.false_eq_true, if_false]
    refine ⟨_, rfl, (priorSubmissions_yields _ stored).bind (described.bind ?_)⟩
    simp only [failed, Bool.false_eq_true, if_false]
    exact .done _ settled

theorem escalateJournalUnavailable_yields (stored : Option Payload) :
    Yields settings.bucketName (escalateJournalUnavailable settings env) stored
      ((), Orchestrator.escalateJournalUnavailable settings env stored) := by
  have due : Yields settings.bucketName (journalAlertDue settings env) stored
      (!env.reads .journalAlert || journalUnavailableAlertDue settings env stored, stored) := by
    rw [journalAlertDue]
    cases env.reads .journalAlert with
    | false => exact .done true stored
    | true => exact .look (.done _ stored)
  refine due.bind ?_
  simp only [Orchestrator.escalateJournalUnavailable]
  split
  · exact writeBestEffort_yields unlost _ _ stored
  · exact .done () stored

theorem readJournalWindow_yields (watermark : Watermark) (stored : Option Payload) :
    Yields settings.bucketName (readJournalWindow settings env watermark) stored
      (Orchestrator.readJournalWindow settings env watermark stored) := by
  simp only [readJournalWindow, Orchestrator.readJournalWindow]
  split
  · exact .done none stored
  · cases sinceTimestamp settings env watermark with
    | none => exact .done none stored
    | some range =>
      cases env.queries .journal with
      | true => exact .done _ stored
      | false =>
        cases env.journalUnavailable with
        | false => exact .done none stored
        | true => exact (escalateJournalUnavailable_yields unlost stored).bind (.done none _)

theorem recordScan_yields (count : Nat) (stored : Option Payload) :
    Yields settings.bucketName (recordScan settings env count) stored
      ((), Orchestrator.recordScan settings env count stored) := by
  rw [recordScan, Orchestrator.recordScan]
  split
  · exact writeBestEffort_yields unlost _ _ stored
  · exact .done () stored

theorem storeTimestamps_yields (entries : ManifestGenerator.Entries) (stored : Option Payload) :
    Yields settings.bucketName (storeTimestamps settings env entries) stored
      ((), Orchestrator.storeTimestamps settings env entries stored) := by
  simp only [storeTimestamps, Orchestrator.storeTimestamps]
  split
  · exact .done () stored
  · exact writeBestEffort_yields unlost _ _ stored

abbrev builtOf (built : ManifestBuild) : Option WrittenManifest × Option Payload :=
  (built.manifest, built.stored)

theorem buildManifest_yields (entries : ManifestGenerator.Entries) (window : JournalWindow)
    (stored : Option Payload) :
    Yields settings.bucketName (buildManifest settings env entries window) stored
      (builtOf (Orchestrator.buildManifest settings env entries window stored)) := by
  simp only [buildManifest, Orchestrator.buildManifest]
  split
  · exact .done none stored
  · refine (recordScan_yields unlost _ stored).bind ?_
    cases keptEntries settings env entries window.since with
    | none => exact .done none _
    | some kept =>
      cases env.manifestKey with
      | none => exact .done none _
      | some key => exact .done _ _

theorem escalateSubmissionFailure_yields (stored : Option Payload) :
    Yields settings.bucketName (escalateSubmissionFailure settings env) stored
      (Orchestrator.escalateSubmissionFailure settings env stored) := by
  refine put_yields unlost _ _ ?_
  simp only [Orchestrator.escalateSubmissionFailure]
  split
  · split
    · exact .done false _
    · exact (writeBestEffort_yields unlost _ _ _).bind (.done true _)
  · split
    · exact .done false _
    · exact (writeBestEffort_yields unlost _ _ _).bind (.done true _)

theorem submitJob_yields (manifest : WrittenManifest) (counter : Nat) (low : Watermark)
    (candidate : Option Watermark) (stored : Option Payload) :
    Yields settings.bucketName (submitJob settings env manifest counter low candidate) stored
      (Orchestrator.submitJob settings env manifest counter low candidate stored) := by
  simp only [submitJob, Orchestrator.submitJob]
  cases (submitBatchJob env manifest.objectCount).jobId with
  | some jobId => exact (writeBestEffort_yields unlost _ _ stored).bind (.done _ _)
  | none =>
    dsimp only
    split
    · exact (escalateSubmissionFailure_yields unlost stored).bind (.done _ _)
    · exact .done _ stored

abbrev leasedOf (body : LeaseBody) : Leased × Option Payload :=
  (⟨body.outcome, body.submittedRefs⟩, body.stored)

theorem leasedManifestAndSubmit_yields (selected : Selected)
    (window : JournalWindow) (counter : Nat)
    (low : Watermark) (stored : Option Payload) :
    Yields settings.bucketName
      (leasedManifestAndSubmit settings env selected window counter low) stored
      (leasedOf (Orchestrator.leasedManifestAndSubmit settings env selected window
        counter low stored)) := by
  simp only [leasedManifestAndSubmit, Orchestrator.leasedManifestAndSubmit]
  split
  · exact (recordScan_yields unlost 0 stored).bind (.done _ _)
  · generalize ManifestGenerator.matchAndAccumulate selected.dedupedOps settings.rules = entries
    have built := @buildManifest_yields settings env unlost entries window
      (Orchestrator.storeTimestamps settings env entries stored)
    refine (storeTimestamps_yields unlost entries stored).bind (built.bind ?_)
    obtain ⟨manifest, scan, after⟩ := Orchestrator.buildManifest settings env entries window
      (Orchestrator.storeTimestamps settings env entries stored)
    cases manifest with
    | none => exact .done _ after
    | some manifest =>
      have submitted := @submitJob_yields settings env unlost manifest counter low
        selected.candidateHwm after
      refine submitted.bind ?_
      dsimp only
      split
      · exact .done _ _
      · exact .done _ _

theorem persistSubmission_yields (last : Option SubmissionRecord) (terminal : List String)
    (stored : Option Payload) :
    Yields settings.bucketName (persistSubmission settings env last terminal) stored
      ((), Orchestrator.persistSubmission settings env last terminal stored) := by
  cases last with
  | none => exact .done () stored
  | some submission => exact writeBestEffort_yields unlost _ _ stored

theorem concludeRun_yields (check : JobCheck) (body : LeaseBody) (released : Write) :
    Yields settings.bucketName
      (concludeRun settings env check body.outcome released.ok) released.stored
      ((), (Orchestrator.concludeRun settings env check body released).stored) := by
  simp only [concludeRun, Orchestrator.concludeRun]
  cases body.outcome with
  | none => exact .done () _
  | some outcome =>
    obtain ⟨after, ok⟩ := released
    have persisted := @persistSubmission_yields settings env unlost outcome.lastSubmission
      check.terminalJobIds after
    cases succeeded : outcome.succeeded with
    | true =>
      simp only [succeeded, if_true]
      cases ok with
      | true => exact persisted.bind (commitRecoveryScored_yields unlost _ _)
      | false => exact commitRecoveryScored_yields unlost _ after
    | false =>
      simp only [succeeded, Bool.false_eq_true, if_false]
      cases ok with
      | true => exact persisted.bind (.done () _)
      | false => exact .done () after

theorem runSelected_yields (prep : Preparation) (checkpoint : CheckpointState)
    (window : JournalWindow) (selected : Selected) (stored : Option Payload) :
    Yields settings.bucketName
      (runSelected settings env (preparedOf prep).1 checkpoint window selected) stored
      ((), (Orchestrator.runSelected settings env prep checkpoint window
        selected stored).stored) := by
  simp only [runSelected, Orchestrator.runSelected]
  cases selected.candidateHwm with
  | none =>
    exact (leasedManifestAndSubmit_yields unlost selected window _ _ stored).bind
      (concludeRun_yields unlost prep.check _ ⟨_, false⟩)
  | some candidateHwm =>
    have acquired := @write_yields settings env unlost .acquire
      (.acquireLease env.now (newLease env candidateHwm)) stored
    refine acquired.bind ?_
    dsimp only
    generalize Orchestrator.write settings env .acquire
      (.acquireLease env.now (newLease env candidateHwm)) stored = lease
    obtain ⟨after, ok⟩ := lease
    cases ok with
    | false => exact .done () after
    | true =>
      have leased := @leasedManifestAndSubmit_yields settings env unlost selected window
        prep.plan.consecutiveFailures checkpoint.lastProcessedWatermark after
      refine leased.bind ?_
      dsimp only [Bool.not_true, Bool.false_eq_true, if_false]
      generalize Orchestrator.leasedManifestAndSubmit settings env selected window
        prep.plan.consecutiveFailures checkpoint.lastProcessedWatermark after = body
      exact (write_yields unlost .release _ body.stored).bind
        (concludeRun_yields unlost prep.check body _)

theorem processBucket_yields (found : getCheckpoint env.now settings.bucketName stored = some state)
    (read : env.reads .checkpoint = true) (starts : env.starts = true) :
    Yields settings.bucketName (processBucket settings env state) stored
      ((), (Orchestrator.processBucket settings env stored).stored) := by
  obtain ⟨prep, prepared, yields⟩ := prepareStateAndRecovery_yields unlost read found
  simp only [Orchestrator.processBucket, starts, prepared, Bool.not_true, Bool.false_eq_true,
    if_false]
  refine yields.bind ?_
  obtain ⟨check, plan, found, checkpoint, settled⟩ := prep
  cases checkpoint with
  | none => exact .done () settled
  | some checkpoint =>
    dsimp only [preparedOf]
    by_cases full : settings.maxConcurrentJobs ≤ check.outstanding.length
    · rw [if_pos full, if_pos full]
      exact .done () settled
    · rw [if_neg full, if_neg full]
      refine (readJournalWindow_yields unlost _ settled).bind ?_
      obtain ⟨window, after⟩ := Orchestrator.readJournalWindow settings env
        checkpoint.lastProcessedWatermark settled
      cases window with
      | none => exact .done () after
      | some window =>
        exact runSelected_yields unlost ⟨check, plan, found, some checkpoint,
          settled⟩ checkpoint window
          (selectEligible settings window.ops checkpoint) after

/-- Alone, with every answer delivered, the client is the run. -/
theorem runBucket_alone (stored : Option Payload) :
    ((runBucket settings env).alone (StateOp.program settings.bucketName) stored).stored =
      (Orchestrator.runBucket settings env stored).stored := by
  rw [runBucket, Orchestrator.runBucket]
  cases disableRead : env.reads .disableState with
  | false => rfl
  | true =>
    cases disabled : (getDisableState stored).disabled with
    | true => simp [Opening.alone, disabled, RunReport.skipped]
    | false =>
      cases starts : env.starts with
      | false => simp [Opening.alone, starts, Orchestrator.processBucket, RunReport.skipped]
      | true =>
        cases read : env.reads .checkpoint with
        | false =>
          simp [Opening.alone, starts, read, Orchestrator.processBucket,
            Orchestrator.prepareStateAndRecovery, RunReport.skipped]
        | true =>
          simp only [Opening.alone, disabled, Bool.not_true, Bool.or_self,
            Bool.false_eq_true, if_false]
          cases found : getCheckpoint env.now settings.bucketName stored with
          | none =>
            simp [Client.alone, starts, read, found, Orchestrator.processBucket,
              Orchestrator.prepareStateAndRecovery, RunReport.skipped]
          | some state => exact (processBucket_yields unlost found read starts).leaves

end Refines
end ReplicateOnTag.Orchestrator.RunClient

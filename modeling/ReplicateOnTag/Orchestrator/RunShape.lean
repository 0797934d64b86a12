import ReplicateOnTag.Orchestrator.ProcessBucket

/-! Inversion of a run: the shapes it can have, and for each what led to it and
which operations reached the state object. -/
namespace ReplicateOnTag.Orchestrator
open StateStore ManifestGenerator

section Preparation
variable {settings : Settings} {env : RunEnv} {stored : Option Payload} {prep : Preparation}

/-- The object after the loop over prior jobs. -/
def settledObject (settings : Settings) (env : RunEnv) (stored : Option Payload) : Option Payload :=
  (describePriorJobs settings env (priorSubmissions env stored) stored).2

/-- The checkpoint a run goes on with, by the branches of the recovery plan. -/
inductive Recovery (prep : Preparation) : CheckpointState → Prop where
  | unchanged (untouched : prep.check.anyCheckFailed = true → prep.plan.rollbackTo = none) :
      Recovery prep prep.found
  | rolledBack (failed : prep.check.anyCheckFailed = true)
      (planned : prep.plan.rollbackTo = some target) : Recovery prep (rollback target prep.found)

structure Prepares (settings : Settings) (env : RunEnv) (stored : Option Payload)
    (prep : Preparation) : Prop where
  found : getCheckpoint env.now settings.bucketName stored = some prep.found
  check : prep.check = (describePriorJobs settings env (priorSubmissions env stored) stored).1
  plan : prep.plan = recoveryPlan settings env stored
  breached : prep.checkpoint = none →
    ∃ reason, prep.check.anyCheckFailed = true ∧ prep.plan.disableReason = some reason ∧
      prep.stored = commitRecoveryScored settings env prep.check.newlyScoredJobIds
        (disable settings env reason (settledObject settings env stored))
  ready : ∀ checkpoint, prep.checkpoint = some checkpoint →
    Recovery prep checkpoint ∧ prep.stored = settledObject settings env stored

theorem prepares_of (prepared : prepareStateAndRecovery settings env stored = some prep) :
    Prepares settings env stored prep := by
  simp only [prepareStateAndRecovery] at prepared
  split at prepared
  · cases prepared
  split at prepared
  · cases prepared
  rename_i state found
  by_cases failed : (describePriorJobs settings env (priorSubmissions env stored)
    stored).1.anyCheckFailed
  · simp only [failed, if_true, applyRecoveryPlan] at prepared
    cases disabled : (recoveryPlan settings env stored).disableReason with
    | some reason =>
      simp only [disabled] at prepared
      cases prepared
      exact ⟨found, rfl, rfl, fun _ => ⟨reason, failed, disabled, rfl⟩, nofun⟩
    | none =>
      cases planned : (recoveryPlan settings env stored).rollbackTo with
      | some target =>
        simp only [disabled, planned] at prepared
        cases prepared
        refine ⟨found, rfl, rfl, nofun, ?_⟩
        intro checkpoint ready
        cases ready
        exact ⟨.rolledBack failed planned, rfl⟩
      | none =>
        simp only [disabled, planned] at prepared
        cases prepared
        refine ⟨found, rfl, rfl, nofun, ?_⟩
        intro checkpoint ready
        cases ready
        exact ⟨.unchanged fun _ => planned, rfl⟩
  · simp only [failed, Bool.false_eq_true, if_false] at prepared
    cases prepared
    refine ⟨found, rfl, rfl, nofun, ?_⟩
    intro checkpoint ready
    cases ready
    exact ⟨.unchanged fun other => absurd other failed, rfl⟩

theorem settledObject_evolves (settings : Settings) (env : RunEnv) (stored : Option Payload) :
    Evolves settings.bucketName IsReportOp stored (settledObject settings env stored) :=
  describePriorJobs_evolves settings env _ stored

/-- What the preparation of a run that goes on has written. -/
theorem Prepares.evolves (prepares : Prepares settings env stored prep)
    (ready : prep.checkpoint = some checkpoint) :
    Evolves settings.bucketName IsReportOp stored prep.stored := by
  rw [(prepares.ready checkpoint ready).2]
  exact settledObject_evolves settings env stored

theorem newlyScored_eq (prepares : Prepares settings env stored prep) :
    prep.check.newlyScoredJobIds = prep.check.outcomes.map JobRecovery.JobOutcome.jobId := by
  rw [prepares.check]
  exact describePriorJobs_newlyScored _ _

end Preparation

section Leased
variable {settings : Settings} {env : RunEnv} {prep : Preparation} {checkpoint : CheckpointState}
  {window : JournalWindow} {selected : Selected} {stored : Option Payload}

/-- What may reach the object in a selected run that submits nothing. -/
def IsUnsubmittedOp : StateOp → Prop
  | .acquireLease .. => True
  | .releaseLease _ refs _ _ => refs = none
  | op => IsBodyOp op

theorem isUnsubmittedOp_of_body {op : StateOp} (body : IsBodyOp op) : IsUnsubmittedOp op := by
  cases op <;> first | exact body | cases body

/-- Everything that happened in a run that submitted a job. -/
structure Submits (settings : Settings) (env : RunEnv) (prep : Preparation)
    (checkpoint : CheckpointState) (window : JournalWindow) (selected : Selected)
    (stored : Option Payload) (run : LeasedRun) (submission : Submission) where
  candidateHwm : Watermark
  jobId : String
  manifestKey : String
  kept : List ManifestEntry
  leased : Option Payload
  body : Option Payload
  candidate : selected.candidateHwm = some candidateHwm
  created : env.createJob = .created jobId
  filtered : keptEntries settings env (matchAndAccumulate selected.dedupedOps settings.rules)
    window.since = some kept
  record : submission.record = submissionRecord settings env jobId manifestKey
    prep.plan.consecutiveFailures checkpoint.lastProcessedWatermark (some candidateHwm)
  refs : submission.refs =
    JournalDedup.buildSubmittedRefs selected.dedupedOps (kept.map ManifestEntry.triple)
  acquired : (StateOp.acquireLease env.now (newLease env candidateHwm)).apply settings.bucketName
    stored = leased
  held : leased.isSome
  evolves : Evolves settings.bucketName IsBodyOp leased body
  committed : run.committed = prep.check.newlyScoredJobIds
  concluded : run.stored = commitRecoveryScored settings env prep.check.newlyScoredJobIds
    (let released := write settings env .release
      (.releaseLease env.now (some submission.refs) settings.lookback (some candidateHwm)) body
    if released.ok then
      persistSubmission settings env (some submission.record)
        prep.check.terminalJobIds released.stored
    else released.stored)

theorem submitJob_created
    (submitted : (submitJob settings env manifest counter low candidate stored).1.succeeded =
      true) :
    ∃ jobId, env.createJob = .created jobId ∧
      submitJob settings env manifest counter low candidate stored =
        (⟨true, some (submissionRecord settings env jobId manifest.key counter low candidate),
          false⟩,
          writeBestEffort settings env .clearStreak
            (.clearSubmissionFailureStreak settings.bucketName) stored) := by
  simp only [submitJob, submitBatchJob] at submitted ⊢
  by_cases empty : manifest.objectCount = 0
  · simp [empty] at submitted
  · simp only [if_neg empty] at submitted ⊢
    cases reply : env.createJob with
    | created jobId => exact ⟨jobId, rfl, rfl⟩
    | rejected failureClass | lost jobId failureClass =>
      simp only [reply] at submitted
      split at submitted <;> cases submitted

theorem submitJob_unsubmitted
    (failed : (submitJob settings env manifest counter low candidate stored).1.succeeded = false) :
    (submitJob settings env manifest counter low candidate stored).1.lastSubmission = none := by
  simp only [submitJob] at failed ⊢
  split
  · rename_i jobId created
    rw [created] at failed
    cases failed
  · split <;> rfl

/-- An outcome of the lease body comes from a manifest that was written. -/
theorem leasedManifestAndSubmit_outcome
    (found : (leasedManifestAndSubmit settings env selected window counter low stored).outcome =
      some outcome) :
    ∃ kept key before,
      keptEntries settings env (matchAndAccumulate selected.dedupedOps
        settings.rules) window.since =
        some kept ∧
      env.manifestKey = some key ∧
      Evolves settings.bucketName IsBodyOp stored before ∧
      outcome =
        (submitJob settings env ⟨key, kept⟩ counter low selected.candidateHwm before).1 ∧
      (leasedManifestAndSubmit settings env selected window counter low stored).stored =
        (submitJob settings env ⟨key, kept⟩ counter low selected.candidateHwm before).2 ∧
      (leasedManifestAndSubmit settings env selected window counter low stored).submittedRefs =
        if outcome.succeeded then
          some (JournalDedup.buildSubmittedRefs selected.dedupedOps (kept.map ManifestEntry.triple))
        else none := by
  simp only [leasedManifestAndSubmit] at found ⊢
  generalize matchAndAccumulate selected.dedupedOps settings.rules = entries at found ⊢
  split at found
  · cases found
  rename_i busy
  rw [if_neg busy]
  have stamped := storeTimestamps_evolves settings env entries stored
  generalize storeTimestamps settings env entries stored = stamp at found stamped ⊢
  have evolves := stamped.trans (buildManifest_evolves settings env entries window stamp)
  generalize written : buildManifest settings env entries window stamp = built at found evolves ⊢
  cases finished : built.manifest with
  | none => simp [finished] at found
  | some manifest =>
    simp only [finished] at found ⊢
    split at found
    · cases found
    rename_i enabled
    rw [if_neg enabled]
    cases found
    have shape : ∃ kept key, keptEntries settings env entries window.since = some kept ∧
        env.manifestKey = some key ∧ manifest = ⟨key, kept⟩ := by
      rw [← written] at finished
      simp only [buildManifest] at finished
      split at finished
      · cases finished
      split at finished
      · rename_i kept key filtered keyed
        cases finished
        exact ⟨kept, key, filtered, keyed, rfl⟩
      · cases finished
    obtain ⟨kept, key, filtered, keyed, rfl⟩ := shape
    exact ⟨kept, key, built.stored, filtered, keyed, evolves, rfl, rfl, rfl⟩

theorem leasedManifestAndSubmit_refs
    (absent : (leasedManifestAndSubmit settings env selected window counter low stored).outcome =
      none) :
    (leasedManifestAndSubmit settings env selected window counter low stored).submittedRefs =
      none := by
  simp only [leasedManifestAndSubmit] at absent ⊢
  split at absent
  · rename_i idle
    rw [if_pos idle]
  · rename_i busy
    rw [if_neg busy]
    split
    · rfl
    · rename_i manifest written
      simp only [written] at absent
      split at absent
      · rename_i disabled
        rw [if_pos disabled]
      · cases absent

/-- Without a candidate the body records an idle scan and nothing else. -/
theorem leasedManifestAndSubmit_idle (idle : selected.candidateHwm = none)
    (empty : selected.dedupedOps = []) :
    leasedManifestAndSubmit settings env selected window counter low stored =
      ⟨none, none, some 0, recordScan settings env 0 stored⟩ := by
  have quiet : hasAccumulatedEntries (matchAndAccumulate selected.dedupedOps settings.rules)
      settings.bucketName = false := by
    rw [empty]
    rfl
  simp only [leasedManifestAndSubmit, quiet, idle, Option.isNone_none, Bool.not_false,
    Bool.and_self, if_true]

/-- A run that reports a submission acquired the lease, created the job, and
offered its refs to the release. -/
theorem runSelected_submits (idle : selected.candidateHwm = none → selected.dedupedOps = [])
    (found : (runSelected settings env prep checkpoint window selected stored).submission =
      some submission) :
    Nonempty (Submits settings env prep checkpoint window selected stored
      (runSelected settings env prep checkpoint window selected stored) submission) := by
  cases candidate : selected.candidateHwm with
  | none =>
    simp only [runSelected, candidate, leasedManifestAndSubmit_idle candidate (idle candidate),
      concludeRun] at found
    cases found
  | some candidateHwm =>
    simp only [runSelected, candidate] at found ⊢
    generalize acquire : write settings env .acquire
      (.acquireLease env.now (newLease env candidateHwm)) stored = acquired at found ⊢
    cases held : acquired.ok with
    | false => simp [held] at found
    | true =>
      simp only [held, Bool.not_true, Bool.false_eq_true, if_false] at found ⊢
      obtain ⟨leased, applied, _, same⟩ := write_ok (acquire ▸ held)
      rw [acquire] at same
      rw [same] at found ⊢
      have evolves := leasedManifestAndSubmit_evolves settings env selected window
        prep.plan.consecutiveFailures checkpoint.lastProcessedWatermark (some leased)
      generalize ran : leasedManifestAndSubmit settings env selected window
        prep.plan.consecutiveFailures checkpoint.lastProcessedWatermark (some leased) = body
        at found evolves ⊢
      cases outcome : body.outcome with
      | none => simp [concludeRun, outcome] at found
      | some result =>
        obtain ⟨kept, key, before, filtered, keyed, _, resulted, _, refs⟩ :=
          leasedManifestAndSubmit_outcome (ran ▸ outcome)
        cases succeeded : result.succeeded with
        | false => simp [concludeRun, outcome, succeeded] at found
        | true =>
          obtain ⟨jobId, created, shape⟩ := submitJob_created (resulted ▸ succeeded)
          rw [shape] at resulted
          rw [ran, succeeded, if_pos rfl] at refs
          have record : result.lastSubmission = some _ :=
            congrArg SubmissionOutcome.lastSubmission resulted
          rw [candidate] at record
          simp only [concludeRun, outcome, succeeded, if_true, record, refs, Option.map_some,
            Option.getD_some, Option.some.injEq] at found ⊢
          exact ⟨{
            candidateHwm, jobId, manifestKey := key, kept, leased :=
              some leased, body := body.stored
            candidate := candidate
            created, filtered, record := congrArg Submission.record found.symm
            refs := congrArg Submission.refs found.symm
            acquired := applied, held := rfl, evolves, committed := rfl
            concluded := by rw [← found] }⟩

/-- An outcome carries a record exactly when it succeeded. -/
theorem leasedManifestAndSubmit_record
    (found : (leasedManifestAndSubmit settings env selected window counter low stored).outcome =
      some outcome) : outcome.lastSubmission = none ↔ outcome.succeeded = false := by
  obtain ⟨kept, key, before, _, _, _, rfl, _⟩ := leasedManifestAndSubmit_outcome found
  cases succeeded : (submitJob settings env ⟨key, kept⟩ counter low selected.candidateHwm
      before).1.succeeded with
  | true =>
    obtain ⟨jobId, _, shape⟩ := submitJob_created succeeded
    simp [shape]
  | false => simp [submitJob_unsubmitted succeeded]

theorem concludeRun_unsubmitted {check : JobCheck} {body : LeaseBody} {released : Write}
    (records : ∀ outcome, body.outcome = some outcome →
      (outcome.lastSubmission = none ↔ outcome.succeeded = false))
    (absent : (concludeRun settings env check body released).submission = none) :
    (concludeRun settings env check body released).stored = released.stored ∧
      (concludeRun settings env check body released).committed = [] ∧
      ∀ outcome, body.outcome = some outcome → outcome.succeeded = false := by
  cases found : body.outcome with
  | none => simp [concludeRun, found]
  | some outcome =>
    have record := records outcome found
    cases succeeded : outcome.succeeded with
    | true =>
      simp only [concludeRun, found, succeeded, if_true, Option.map_eq_none_iff] at absent
      rw [record.mp absent] at succeeded
      cases succeeded
    | false => simp [concludeRun, found, succeeded, record.mpr succeeded, persistSubmission]

/-- A selected run that reports no submission commits no flag, and its release
carries no refs. -/
theorem runSelected_unsubmitted
    (absent : (runSelected settings env prep checkpoint window selected stored).submission = none) :
    Evolves settings.bucketName IsUnsubmittedOp stored
        (runSelected settings env prep checkpoint window selected stored).stored ∧
      (runSelected settings env prep checkpoint window selected stored).committed = [] := by
  have body : ∀ object, Evolves settings.bucketName IsUnsubmittedOp object
      (leasedManifestAndSubmit settings env selected window prep.plan.consecutiveFailures
        checkpoint.lastProcessedWatermark object).stored := fun object =>
    (leasedManifestAndSubmit_evolves settings env selected window _ _ object).mono
      fun _ => isUnsubmittedOp_of_body
  cases candidate : selected.candidateHwm with
  | none =>
    simp only [runSelected, candidate] at absent ⊢
    obtain ⟨same, committed, _⟩ :=
      concludeRun_unsubmitted (fun _ => leasedManifestAndSubmit_record) absent
    rw [same]
    exact ⟨body stored, committed⟩
  | some candidateHwm =>
    simp only [runSelected, candidate] at absent ⊢
    have acquired : Evolves settings.bucketName IsUnsubmittedOp stored
        (write settings env .acquire
          (.acquireLease env.now (newLease env candidateHwm)) stored).stored :=
      write_evolves trivial
    split
    · exact ⟨acquired, rfl⟩
    · rename_i held
      rw [if_neg held] at absent
      obtain ⟨same, committed, failed⟩ :=
        concludeRun_unsubmitted (fun _ => leasedManifestAndSubmit_record) absent
      rw [same]
      refine ⟨(acquired.trans (body _)).trans (write_evolves ?_), committed⟩
      generalize (write settings env .acquire (.acquireLease env.now (newLease env candidateHwm))
        stored).stored = leased at failed
      cases found : (leasedManifestAndSubmit settings env selected window
          prep.plan.consecutiveFailures checkpoint.lastProcessedWatermark leased).outcome with
      | none => exact leasedManifestAndSubmit_refs found
      | some outcome =>
        obtain ⟨_, _, _, _, _, _, _, _, refs⟩ := leasedManifestAndSubmit_outcome found
        rw [failed outcome found] at refs
        exact refs

theorem keptEntries_some (filtered : keptEntries settings env entries since = some kept) :
    kept ≠ [] ∧ ∀ entry ∈ kept, entry ∈ (finalize entries settings.bucketName).entries := by
  simp only [keptEntries] at filtered
  split at filtered
  · exact filterDeletedEntries_some filtered
  · cases filtered

/-- A submitted job always has a ref: every kept entry comes from an operation
that was selected. -/
theorem Submits.refs_ne_nil {run : LeasedRun} {submission : Submission}
    (submits : Submits settings env prep checkpoint window selected stored run submission) :
    submission.refs ≠ [] := by
  obtain ⟨some, entries⟩ := keptEntries_some submits.filtered
  obtain ⟨entry, member⟩ := List.exists_mem_of_ne_nil _ some
  obtain ⟨op, listed, _, triple⟩ := finalize_sound (entries entry member)
  have ref : (⟨op.logicalOperationId, op.watermark⟩ : ProcessedRef) ∈ submission.refs := by
    rw [submits.refs]
    exact JournalDedup.mem_buildSubmittedRefs.mpr
      ⟨op, listed, triple ▸ List.mem_map_of_mem member, rfl⟩
  exact List.ne_nil_of_mem ref

/-- A ref is that of a selected operation, at or below the candidate. -/
theorem Submits.ref_of_selected {run : LeasedRun} {submission : Submission}
    {ops : List TaggingOperation}
    (submits : Submits settings env prep checkpoint window
      (selectEligible settings ops checkpoint) stored
      run submission) (member : ref ∈ submission.refs) :
    ref.watermark ≤ submits.candidateHwm ∧
      ∃ op ∈ (selectEligible settings ops checkpoint).dedupedOps,
        ref = ⟨op.logicalOperationId, op.watermark⟩ := by
  rw [submits.refs] at member
  obtain ⟨op, listed, _, rfl⟩ := JournalDedup.mem_buildSubmittedRefs.mp member
  exact ⟨dedupedOps_le_candidate submits.candidate listed, op, listed, rfl⟩

end Leased

section Shapes
variable {settings : Settings} {env : RunEnv} {stored : Option Payload}

/-- The shapes of a run, by how far it comes. -/
inductive RunShape (settings : Settings) (env : RunEnv)
    (stored : Option Payload) : RunReport → Prop where
  | skipped : RunShape settings env stored (.skipped stored)
  | breached (prepares : Prepares settings env stored prep) (tripped : prep.checkpoint = none) :
      RunShape settings env stored
        ⟨some prep, none, none, none, none, prep.check.newlyScoredJobIds, prep.stored⟩
  | unread (prepares : Prepares settings env stored prep)
      (ready : prep.checkpoint = some checkpoint)
      (evolves : Evolves settings.bucketName IsJournalAlert prep.stored after) :
      RunShape settings env stored ⟨some prep, none, none, none, none, [], after⟩
  | selected (prepares : Prepares settings env stored prep)
      (ready : prep.checkpoint = some checkpoint)
      (reads : ReadsWindow settings env checkpoint.lastProcessedWatermark window) :
      RunShape settings env stored
        (let selected := selectEligible settings window.ops checkpoint
        let run := runSelected settings env prep checkpoint window selected prep.stored
        ⟨some prep, some window, some selected, run.scan, run.submission,
          run.committed, run.stored⟩)

theorem processBucket_shape (settings : Settings) (env : RunEnv) (stored : Option Payload) :
    RunShape settings env stored (processBucket settings env stored) := by
  rw [processBucket]
  split
  · exact .skipped
  cases prepared : prepareStateAndRecovery settings env stored with
  | none => exact .skipped
  | some prep =>
    have prepares := prepares_of prepared
    simp only
    cases ready : prep.checkpoint with
    | none => exact .breached prepares ready
    | some checkpoint =>
      simp only
      split
      · exact .unread prepares ready (.refl _)
      have evolves :=
        readJournalWindow_evolves settings env checkpoint.lastProcessedWatermark prep.stored
      split
      · rename_i after read
        rw [read] at evolves
        exact .unread prepares ready evolves
      · rename_i window after read
        obtain ⟨reads, rfl⟩ := readJournalWindow_some read
        exact .selected prepares ready reads

theorem runBucket_shape (settings : Settings) (env : RunEnv) (stored : Option Payload) :
    RunShape settings env stored (runBucket settings env stored) := by
  rw [runBucket]
  split
  · exact .skipped
  · exact processBucket_shape settings env stored

theorem prepares_of_preparation
    (prepared : (runBucket settings env stored).preparation = some prep) :
    Prepares settings env stored prep := by
  have shape := runBucket_shape settings env stored
  generalize runBucket settings env stored = report at shape prepared
  cases shape with
  | skipped => cases prepared
  | breached prepares | unread prepares | selected prepares =>
    cases prepared
    exact prepares

/-- A run commits the flags of all it newly scored, or none. -/
theorem committed_eq (committed : jobId ∈ (runBucket settings env stored).committed) :
    ∃ prep, (runBucket settings env stored).preparation = some prep ∧
      (runBucket settings env stored).committed = prep.check.newlyScoredJobIds := by
  have shape := runBucket_shape settings env stored
  generalize runBucket settings env stored = report at shape committed ⊢
  cases shape with
  | skipped | unread => cases committed
  | breached => exact ⟨_, rfl, rfl⟩
  | @selected prep checkpoint window prepares ready reads =>
    refine ⟨prep, rfl, ?_⟩
    simp only at committed ⊢
    cases submitted : (runSelected settings env prep checkpoint window
        (selectEligible settings window.ops checkpoint) prep.stored).submission with
    | none =>
      rw [(runSelected_unsubmitted submitted).2] at committed
      cases committed
    | some submission =>
      obtain ⟨submits⟩ := runSelected_submits dedupedOps_of_no_candidate submitted
      exact submits.committed

/-- Only a bucket that is not disabled is looked at. -/
theorem enabled_of_prepared (prepared : (runBucket settings env stored).preparation.isSome) :
    (payloadOrDefault settings.bucketName stored).disabled = false := by
  rw [runBucket] at prepared
  split at prepared
  · cases prepared
  · rename_i runs
    cases stored with
    | none => rfl
    | some payload =>
      cases disabled : payload.disabled with
      | false => exact disabled
      | true => simp [getDisableState, disabled] at runs

/-- A run that read a window selected from it on its checkpoint. -/
theorem window_shape (read : (runBucket settings env stored).window = some window)
    (worked : (runBucket settings env stored).checkpoint = some checkpoint) :
    ∃ prep, Prepares settings env stored prep ∧ prep.checkpoint = some checkpoint ∧
      ReadsWindow settings env checkpoint.lastProcessedWatermark window ∧
      (let selected := selectEligible settings window.ops checkpoint
      let run := runSelected settings env prep checkpoint window selected prep.stored
      runBucket settings env stored =
        ⟨some prep, some window, some selected, run.scan, run.submission,
          run.committed, run.stored⟩) := by
  have shape := runBucket_shape settings env stored
  generalize ran : runBucket settings env stored = report at shape read worked ⊢
  cases shape with
  | skipped | breached | unread => cases read
  | selected prepares ready reads =>
    cases read
    cases (show _ = some checkpoint from worked).symm.trans ready
    exact ⟨_, prepares, ready, reads, rfl⟩

/-- A run that submitted a job read a window and went through its lease. -/
theorem submission_shape (found : (runBucket settings env stored).submission = some submission) :
    ∃ prep checkpoint window, Prepares settings env stored prep ∧
      prep.checkpoint = some checkpoint ∧
      ReadsWindow settings env checkpoint.lastProcessedWatermark window ∧
      (let selected := selectEligible settings window.ops checkpoint
      let run := runSelected settings env prep checkpoint window selected prep.stored
      runBucket settings env stored =
          ⟨some prep, some window, some selected, run.scan, run.submission,
            run.committed, run.stored⟩ ∧
        Nonempty (Submits settings env prep checkpoint window selected prep.stored
          run submission)) := by
  have shape := runBucket_shape settings env stored
  generalize ran : runBucket settings env stored = report at shape found ⊢
  cases shape with
  | skipped | breached | unread => cases found
  | selected prepares ready reads =>
    exact ⟨_, _, _, prepares, ready, reads, rfl,
      runSelected_submits dedupedOps_of_no_candidate found⟩

/-- A bucket at its limit submits nothing. -/
theorem outstanding_lt_of_submission
    (submitted : (runBucket settings env stored).submission = some submission)
    (prepared : (runBucket settings env stored).preparation = some prep) :
    prep.check.outstanding.length < settings.maxConcurrentJobs := by
  rw [runBucket] at submitted prepared
  split at submitted
  · cases submitted
  rename_i runs
  rw [if_neg runs] at prepared
  rw [processBucket] at submitted prepared
  split at submitted
  · cases submitted
  rename_i starts
  rw [if_neg starts] at prepared
  cases ready : prepareStateAndRecovery settings env stored with
  | none => simp [ready, RunReport.skipped] at prepared
  | some found =>
    simp only [ready] at submitted prepared
    cases worked : found.checkpoint with
    | none => simp [worked] at submitted
    | some checkpoint =>
      simp only [worked] at submitted prepared
      split at submitted
      · cases submitted
      · rename_i below
        rw [if_neg below] at prepared
        split at prepared <;> cases prepared <;> exact not_le.mp below

/-- Only a submission or a tripped breaker commits scored flags. -/
theorem committed_shape (committed : jobId ∈ (runBucket settings env stored).committed)
    (calm : (runBucket settings env stored).tripped = false) :
    ∃ submission, (runBucket settings env stored).submission = some submission := by
  have shape := runBucket_shape settings env stored
  generalize ran : runBucket settings env stored = report at shape committed calm ⊢
  cases shape with
  | skipped | unread => cases committed
  | breached prepares none => simp [RunReport.tripped, none] at calm
  | selected prepares ready reads =>
    rw [← Option.ne_none_iff_exists']
    intro absent
    have none := (runSelected_unsubmitted absent).2
    simp only [none] at committed
    cases committed

/-- A breaker that trips leaves the object after the disable and the flags. -/
theorem tripped_shape (tripped : (runBucket settings env stored).tripped) :
    ∃ prep reason, Prepares settings env stored prep ∧ prep.plan.disableReason = some reason ∧
      runBucket settings env stored =
        ⟨some prep, none, none, none, none, prep.check.newlyScoredJobIds,
          commitRecoveryScored settings env prep.check.newlyScoredJobIds
            (disable settings env reason (settledObject settings env stored))⟩ := by
  have shape := runBucket_shape settings env stored
  generalize ran : runBucket settings env stored = report at shape tripped ⊢
  cases shape with
  | skipped => simp [RunReport.tripped, RunReport.skipped] at tripped
  | breached prepares none =>
    obtain ⟨reason, _, disabled, stores⟩ := prepares.breached none
    exact ⟨_, reason, prepares, disabled, by rw [stores]⟩
  | unread prepares ready => simp [RunReport.tripped, ready] at tripped
  | selected prepares ready => simp [RunReport.tripped, ready] at tripped

theorem submission_fields
    (submitted : (runBucket settings env stored).submission = some submission) :
    ∃ prep, (runBucket settings env stored).preparation = some prep ∧
      submission.record.consecutiveFailures = prep.plan.consecutiveFailures ∧
      submission.record.submittedAt = env.now ∧
      env.createJob = .created submission.record.jobId := by
  obtain ⟨prep, checkpoint, window, _, _, _, ran, ⟨submits⟩⟩ := submission_shape submitted
  rw [ran, submits.record]
  exact ⟨prep, rfl, rfl, rfl, submits.created⟩

end Shapes
end ReplicateOnTag.Orchestrator

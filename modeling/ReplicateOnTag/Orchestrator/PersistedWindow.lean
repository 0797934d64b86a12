import ReplicateOnTag.Orchestrator.RunShape

/-! What a run leaves of the stored watermark and window: only the release of a
submitted job changes them. -/
namespace ReplicateOnTag.Orchestrator
open StateStore CheckpointLogic Watermark

section Quiet

/-- Operations that neither record refs nor file a record. -/
def IsQuietOp : StateOp → Prop
  | .putCheckpoint _ | .recordSubmission .. => False
  | .releaseLease _ refs _ _ => refs = none
  | _ => True

theorem isQuietOp_report {op : StateOp} (report : IsReportOp op) : IsQuietOp op := by
  cases op <;> trivial

theorem isQuietOp_scoring {op : StateOp} (scoring : IsScoringOp jobIds op) : IsQuietOp op := by
  cases op <;> trivial

theorem isQuietOp_unsubmitted {op : StateOp} (unsubmitted : IsUnsubmittedOp op) : IsQuietOp op := by
  cases op <;> trivial

/-- What a run without a submission may write, by the flags it commits. -/
def IsRunOp (committed : List String) : StateOp → Prop
  | .markReportDiagnosed jobId _ scored => scored = true → jobId ∈ committed
  | op => IsQuietOp op

theorem isQuietOp_run {op : StateOp} (run : IsRunOp committed op) : IsQuietOp op := by
  cases op <;> first | exact run | trivial

theorem isRunOp_report {op : StateOp} (report : IsReportOp op) : IsRunOp committed op := by
  cases op with
  | markReportDiagnosed jobId diagnosed scored =>
    intro flagged
    cases report.symm.trans flagged
  | _ => exact isQuietOp_report report

theorem isRunOp_scoring {op : StateOp} (scoring : IsScoringOp committed op) :
    IsRunOp committed op := by
  cases op with
  | markReportDiagnosed => exact fun _ => scoring.1
  | _ => exact isQuietOp_scoring scoring

theorem isRunOp_alert {op : StateOp} (alert : IsJournalAlert op) : IsRunOp committed op := by
  cases op <;> trivial

theorem isRunOp_unsubmitted {op : StateOp} (unsubmitted : IsUnsubmittedOp op) :
    IsRunOp committed op := by
  cases op <;> trivial

/-- Both objects hold the same watermark and the same window. -/
structure KeepsWindow (bucket : String) (before after : Option Payload) : Prop where
  watermark : (payloadOrDefault bucket after).lastProcessedWatermark =
    (payloadOrDefault bucket before).lastProcessedWatermark
  window : (payloadOrDefault bucket after).processedWindow =
    (payloadOrDefault bucket before).processedWindow

theorem KeepsWindow.trans (first : KeepsWindow bucket a b) (second : KeepsWindow bucket b c) :
    KeepsWindow bucket a c :=
  ⟨second.watermark.trans first.watermark, second.window.trans first.window⟩

theorem keepsWindow_frame {op : StateOp} (applied : op.apply bucket stored = some after)
    (watermark : PayloadKey.lastProcessedWatermark ∉ op.ownedKeys)
    (window : PayloadKey.processedWindow ∉ op.ownedKeys) : KeepsWindow bucket stored (some after) :=
  ⟨Eq.symm (StateOp.frame applied watermark), Eq.symm (StateOp.frame applied window)⟩

theorem keepsWindow_quiet (quiet : IsQuietOp op) (applied : op.apply bucket stored = some after) :
    KeepsWindow bucket stored (some after) := by
  cases op with
  | putCheckpoint | recordSubmission => exact quiet.elim
  | acquireLease now lease =>
    obtain ⟨state, read, rfl⟩ := StateOp.apply_acquireLease applied
    obtain ⟨_, watermark, window⟩ := getCheckpoint_fields read
    exact ⟨watermark, window⟩
  | releaseLease now refs lookback candidate =>
    cases quiet
    obtain ⟨state, read, rfl⟩ := StateOp.apply_releaseLease applied
    obtain ⟨_, watermark, window⟩ := getCheckpoint_fields read
    exact ⟨watermark, window⟩
  | _ => exact keepsWindow_frame applied (by simp [StateOp.ownedKeys]) (by simp [StateOp.ownedKeys])

theorem keepsWindow_evolves (path : Evolves bucket allowed stored after)
    (quiet : ∀ op, allowed op → IsQuietOp op) : KeepsWindow bucket stored after := by
  induction path with
  | refl => exact ⟨rfl, rfl⟩
  | next _ member applied ih => exact ih.trans (keepsWindow_quiet (quiet _ member) applied)

end Quiet

section Submitting
variable {settings : Settings} {env : RunEnv} {prep : Preparation} {checkpoint : CheckpointState}
  {window : JournalWindow} {selected : Selected} {stored : Option Payload} {run : LeasedRun}
  {submission : Submission}

/-- The watermark and window of a release that carries refs. -/
structure Advances (bucket : String) (lookback : Lookback) (refs : List ProcessedRef)
    (candidateHwm : Watermark) (before after : Option Payload) : Prop where
  watermark : (payloadOrDefault bucket after).lastProcessedWatermark =
    advancedWatermark (payloadOrDefault bucket before).lastProcessedWatermark
      refs (some candidateHwm)
  window : (payloadOrDefault bucket after).processedWindow =
    pruneWindow ((payloadOrDefault bucket before).processedWindow ++ refs)
      (subtract (payloadOrDefault bucket after).lastProcessedWatermark lookback)

theorem advances_release (submitted : refs ≠ [])
    (applied : (StateOp.releaseLease now (some refs) lookback
      (some candidateHwm)).apply bucket before =
      some after) : Advances bucket lookback refs candidateHwm before (some after) := by
  obtain ⟨state, read, rfl⟩ := StateOp.apply_releaseLease applied
  obtain ⟨_, watermark, window⟩ := getCheckpoint_fields read
  rw [advanceCheckpoint_submitted submitted, watermark, window]
  exact ⟨rfl, rfl⟩

theorem Advances.before (advances : Advances bucket lookback refs candidateHwm middle after)
    (keeps : KeepsWindow bucket first middle) :
    Advances bucket lookback refs candidateHwm first after :=
  ⟨keeps.watermark ▸ advances.watermark, keeps.window ▸ advances.window⟩

theorem Advances.after (advances : Advances bucket lookback refs candidateHwm first middle)
    (keeps : KeepsWindow bucket middle last) :
    Advances bucket lookback refs candidateHwm first last :=
  ⟨keeps.watermark.trans advances.watermark,
    keeps.window.trans (keeps.watermark ▸ advances.window)⟩

theorem keepsWindow_persist (settings : Settings) (env : RunEnv) (record : Option SubmissionRecord)
    (terminalJobIds : List String) (stored : Option Payload) :
    KeepsWindow settings.bucketName stored
      (persistSubmission settings env record terminalJobIds stored) := by
  simp only [persistSubmission]
  cases record with
  | none => exact ⟨rfl, rfl⟩
  | some submission =>
    simp only [writeBestEffort]
    rcases write_cases settings env .persist (.recordSubmission submission terminalJobIds
      settings.completionTracking (some settings.maxConcurrentJobs)) stored with ⟨same,
        _⟩ | ⟨_, applied, same⟩
    · rw [same]
      exact ⟨rfl, rfl⟩
    · rw [same]
      exact keepsWindow_frame applied (by simp [StateOp.ownedKeys]) (by simp [StateOp.ownedKeys])

/-- Up to the release the lease is acquired, then the body writes. -/
theorem Submits.until_release
    (submits : Submits settings env prep checkpoint window selected stored run submission) :
    Evolves settings.bucketName IsUnsubmittedOp stored submits.body := by
  obtain ⟨leased, held⟩ := Option.isSome_iff_exists.mp submits.held
  have acquires : IsUnsubmittedOp (.acquireLease env.now (newLease env submits.candidateHwm)) :=
    trivial
  have acquired := Evolves.next (.refl stored) acquires (submits.acquired.trans held)
  have body := submits.evolves.mono fun _ => isUnsubmittedOp_of_body
  rw [held] at body
  exact acquired.trans body

/-- The window up to the release, and from it to the end of the run. -/
theorem Submits.keeps_until_release
    (submits : Submits settings env prep checkpoint window selected stored run submission) :
    KeepsWindow settings.bucketName stored submits.body :=
  keepsWindow_evolves submits.until_release fun _ => isQuietOp_unsubmitted

theorem Submits.keeps_after_release
    (submits : Submits settings env prep checkpoint window selected stored run submission) :
    KeepsWindow settings.bucketName
      (write settings env .release (.releaseLease env.now (some submission.refs) settings.lookback
        (some submits.candidateHwm)) submits.body).stored run.stored := by
  rw [submits.concluded]
  refine KeepsWindow.trans ?_ (keepsWindow_evolves (commitRecoveryScored_evolves settings env _ _)
    fun _ => isQuietOp_scoring)
  simp only
  split
  · exact keepsWindow_persist settings env _ _ _
  · exact ⟨rfl, rfl⟩

/-- A submitting run advances the window by its refs, or its release was
refused and nothing moves. -/
theorem Submits.persisted
    (submits : Submits settings env prep checkpoint window selected stored run submission) :
    KeepsWindow settings.bucketName stored run.stored ∨
      Advances settings.bucketName settings.lookback submission.refs submits.candidateHwm stored
        run.stored := by
  have later := submits.keeps_after_release
  rcases write_cases settings env .release (.releaseLease env.now (some submission.refs)
    settings.lookback (some submits.candidateHwm)) submits.body with ⟨same, _⟩ | ⟨_, applied, same⟩
  · rw [same] at later
    exact .inl (submits.keeps_until_release.trans later)
  · rw [same] at later
    exact .inr (((advances_release submits.refs_ne_nil applied).before
      submits.keeps_until_release).after later)

end Submitting

section Readability

/-- A state read succeeds: the watermark is plausible and the object is the bucket's. -/
def Readable (now : Instant) (bucket : String) (stored : Option Payload) : Prop :=
  isPlausible (payloadOrDefault bucket stored).lastProcessedWatermark now ∧
    (payloadOrDefault bucket stored).sourceBucket = bucket

theorem getCheckpoint_isSome_iff : (getCheckpoint now bucket stored).isSome ↔
    Readable now bucket stored := by
  cases stored with
  | none =>
    have sound : isPlausible epoch now := decide_eq_true (epoch_le _)
    simpa [getCheckpoint, Readable, payloadOrDefault, Payload.ofCheckpoint,
      defaultState] using sound
  | some payload =>
    have shape : payloadOrDefault bucket (some payload) = payload := rfl
    by_cases sound : isPlausible payload.lastProcessedWatermark now = true
    · simp only [getCheckpoint, deserialize, Readable, shape, sound, if_true, true_and,
        Option.isSome_filter, Option.any_some, decide_eq_true_eq]
      rfl
    · simp [getCheckpoint, deserialize, Readable, shape, sound]

theorem readable_of_getCheckpoint (read : getCheckpoint now bucket stored = some state) :
    Readable now bucket stored :=
  getCheckpoint_isSome_iff.mp (by rw [read]; rfl)

theorem acquireLease_applies (readable : Readable now bucket stored) (lease : Lease) :
    ∃ state : CheckpointState, (StateOp.acquireLease now lease).apply bucket stored =
      some (StateStore.putCheckpoint { state with lease := some lease } stored) := by
  obtain ⟨state, read⟩ := Option.isSome_iff_exists.mp (getCheckpoint_isSome_iff.mpr readable)
  refine ⟨state, ?_⟩
  simp only [StateOp.apply, StateOp.program, ConditionalStore.Update.atomically, StateOp.compute,
    StateStore.acquireLease, read]
  rfl

theorem readable_quiet (quiet : IsQuietOp op) (applied : op.apply bucket stored = some after)
    (readable : Readable now bucket stored) : Readable now bucket (some after) := by
  have keeps := keepsWindow_quiet quiet applied
  refine ⟨keeps.watermark ▸ readable.1, ?_⟩
  cases op with
  | putCheckpoint | recordSubmission => exact quiet.elim
  | acquireLease now lease =>
    obtain ⟨state, read, rfl⟩ := StateOp.apply_acquireLease applied
    exact (getCheckpoint_fields read).1
  | releaseLease now refs lookback candidate =>
    obtain ⟨state, read, rfl⟩ := StateOp.apply_releaseLease applied
    exact StateOp.advanceCheckpoint_sourceBucket.trans (getCheckpoint_fields read).1
  | _ =>
    have same : (payloadOrDefault bucket stored).Agrees after .sourceBucket :=
      StateOp.frame applied (by simp [StateOp.ownedKeys])
    exact Eq.trans (Eq.symm same) readable.2

theorem readable_evolves (path : Evolves bucket allowed stored after)
    (quiet : ∀ op, allowed op → IsQuietOp op) (readable : Readable now bucket stored) :
    Readable now bucket after :=
  path.preserves (Readable now bucket) (fun op _ _ member applied =>
    readable_quiet (quiet op member) applied)
    readable

end Readability

section Served
variable {settings : Settings} {env : RunEnv} {prep : Preparation} {checkpoint : CheckpointState}
  {window : JournalWindow} {selected : Selected} {stored : Option Payload} {run : LeasedRun}
  {submission : Submission}

/-- A release can be applied as long as the object can be read. -/
theorem Submits.release_applies
    (submits : Submits settings env prep checkpoint window selected stored run submission)
    (readable : Readable env.now settings.bucketName stored) :
    ∃ after, (StateOp.releaseLease env.now (some submission.refs) settings.lookback
      (some submits.candidateHwm)).apply settings.bucketName submits.body = some after := by
  have body := readable_evolves submits.until_release (fun _ => isQuietOp_unsubmitted) readable
  obtain ⟨state, read⟩ := Option.isSome_iff_exists.mp (getCheckpoint_isSome_iff.mpr body)
  simp only [StateOp.apply, StateOp.program, ConditionalStore.Update.atomically, StateOp.compute,
    StateStore.releaseLease, read]
  exact ⟨_, rfl⟩

/-- The release of a run whose writes are served reaches the object. -/
theorem Submits.advances
    (submits : Submits settings env prep checkpoint window selected stored run submission)
    (served : env.writes .release = .served)
    (readable : Readable env.now settings.bucketName stored) :
    Advances settings.bucketName settings.lookback submission.refs submits.candidateHwm stored
      run.stored := by
  obtain ⟨after, applied⟩ := submits.release_applies readable
  have later := submits.keeps_after_release
  rw [write_served applied served] at later
  exact ((advances_release submits.refs_ne_nil applied).before
    submits.keeps_until_release).after later

/-- With a manifest to submit and every call succeeding, the body submits it. -/
theorem leasedManifestAndSubmit_served (counter : Nat) (low : Watermark)
    (served : env.queries .preflight = true)
    (created : env.createJob = .created jobId) (keyed : env.manifestKey = some key)
    (filtered : keptEntries settings env
      (ManifestGenerator.matchAndAccumulate selected.dedupedOps settings.rules)
        window.since = some kept)
    (candidate : selected.candidateHwm = some candidateHwm) (object : Option Payload) :
    ∃ outcome, (leasedManifestAndSubmit settings env selected window counter low object).outcome =
      some outcome ∧ outcome.succeeded = true ∧ outcome.lastSubmission.isSome := by
  have some : kept.length ≠ 0 := fun none =>
    (keptEntries_some filtered).1 (List.length_eq_zero_iff.mp none)
  simp only [leasedManifestAndSubmit, candidate, Option.isNone_some, Bool.and_false,
    Bool.false_eq_true, if_false, buildManifest, served, Bool.not_true, filtered, keyed, submitJob,
    submitBatchJob, WrittenManifest.objectCount, created, if_neg some]
  exact ⟨_, rfl, rfl, rfl⟩

theorem runSelected_served (prep : Preparation) (checkpoint : CheckpointState) (serves : env.Serves)
    (readable : Readable env.now settings.bucketName stored)
    (created : env.createJob = .created jobId) (keyed : env.manifestKey = some key)
    (filtered : keptEntries settings env
      (ManifestGenerator.matchAndAccumulate selected.dedupedOps settings.rules)
        window.since = some kept)
    (candidate : selected.candidateHwm = some candidateHwm) :
    (runSelected settings env prep checkpoint window selected stored).submission.isSome := by
  obtain ⟨state, acquired⟩ := acquireLease_applies readable (newLease env candidateHwm)
  simp only [runSelected, candidate, write_served acquired (serves.writes .acquire), Bool.not_true,
    Bool.false_eq_true, if_false]
  obtain ⟨outcome, found, succeeded, record⟩ :=
    leasedManifestAndSubmit_served prep.plan.consecutiveFailures checkpoint.lastProcessedWatermark
      (serves.queries .preflight) created keyed filtered candidate
      (some (StateStore.putCheckpoint
        { state with lease := some (newLease env candidateHwm) } stored))
  simp only [concludeRun, found, succeeded, if_true, Option.isSome_map]
  exact record

end Served

section Runs
variable {settings : Settings} {env : RunEnv} {stored : Option Payload}

/-- A run that submits nothing writes nothing but quiet operations, and sets
only the flags it commits. -/
theorem runBucket_unsubmitted (absent : (runBucket settings env stored).submission = none) :
    Evolves settings.bucketName (IsRunOp (runBucket settings env stored).committed) stored
      (runBucket settings env stored).stored := by
  have shape := runBucket_shape settings env stored
  generalize runBucket settings env stored = report at shape absent ⊢
  cases shape with
  | skipped => exact .refl _
  | @breached prep prepares tripped =>
    obtain ⟨reason, _, _, stores⟩ := prepares.breached tripped
    have disabled : Evolves settings.bucketName (IsRunOp prep.check.newlyScoredJobIds)
        (settledObject settings env stored)
        (disable settings env reason (settledObject settings env stored)) := write_evolves trivial
    have settled : Evolves settings.bucketName (IsRunOp prep.check.newlyScoredJobIds) stored
        (settledObject settings env stored) :=
      (settledObject_evolves settings env stored).mono fun _ => isRunOp_report
    simp only [stores]
    exact (settled.trans disabled).trans
      ((commitRecoveryScored_evolves settings env _ _).mono fun _ => isRunOp_scoring)
  | unread prepares ready evolves =>
    exact ((prepares.evolves ready).mono fun _ => isRunOp_report).trans
      (evolves.mono fun _ => isRunOp_alert)
  | selected prepares ready reads =>
    have path := (runSelected_unsubmitted absent).1
    exact ((prepares.evolves ready).mono fun _ => isRunOp_report).trans
      (path.mono fun _ => isRunOp_unsubmitted)

/-- A run leaves the watermark and window alone, or advances them by what it submitted. -/
theorem runBucket_persisted (settings : Settings) (env : RunEnv) (stored : Option Payload) :
    KeepsWindow settings.bucketName stored (runBucket settings env stored).stored ∨
      ∃ submission candidateHwm, (runBucket settings env stored).submission = some submission ∧
        Advances settings.bucketName settings.lookback submission.refs candidateHwm stored
          (runBucket settings env stored).stored := by
  cases submitted : (runBucket settings env stored).submission with
  | none =>
    exact .inl (keepsWindow_evolves (runBucket_unsubmitted submitted) fun _ => isQuietOp_run)
  | some submission =>
    obtain ⟨prep, checkpoint, window, prepares, ready, _, ran, ⟨submits⟩⟩ :=
      submission_shape submitted
    have settled := keepsWindow_evolves (prepares.evolves ready) fun _ => isQuietOp_report
    rw [ran]
    rcases submits.persisted with keeps | advances
    · exact .inl (settled.trans keeps)
    · exact .inr ⟨submission, submits.candidateHwm, rfl, advances.before settled⟩

theorem watermark_le_runBucket (settings : Settings) (env : RunEnv) (stored : Option Payload) :
    watermarkOf settings.bucketName stored ≤
      watermarkOf settings.bucketName (runBucket settings env stored).stored := by
  rcases runBucket_persisted settings env stored with keeps | ⟨_, _, _, advances⟩
  · exact keeps.watermark.ge
  · simp only [watermarkOf]
    rw [advances.watermark]
    exact le_advancedWatermark _ _ _

end Runs
end ReplicateOnTag.Orchestrator

import ReplicateOnTag.Orchestrator.RunClient

/-! What a run makes of the suppression list of the completion-report alerts.
It reads the list to decide whether to clear an entry, and nothing else of what
it writes depends on it. -/
namespace ReplicateOnTag.Orchestrator
open StateStore HeldToken Watermark

/-- The object with an empty suppression list. -/
def unalerted (bucket : String) (stored : Option Payload) : Payload :=
  { payloadOrDefault bucket stored with completionReportAlertedConfigs := [] }

/-- Both objects hold the same under every key but the suppression list. -/
def SameButAlerts (bucket : String) (first second : Option Payload) : Prop :=
  unalerted bucket first = unalerted bucket second

/-- The writes that only touch the suppression list. -/
def IsAlertOp : StateOp → Prop
  | .addAlertedConfig _ => True
  | .clearAlertedConfig _ => True
  | _ => False

section Contents
variable {bucket : String} {first second : Option Payload}

theorem getCheckpoint_unalerted (now : Instant) (bucket : String) (stored : Option Payload) :
    getCheckpoint now bucket (some (unalerted bucket stored)) =
      getCheckpoint now bucket stored := by
  cases stored with
  | some payload => rfl
  | none =>
    have trusted : isPlausible epoch now = true := decide_eq_true (epoch_le _)
    simp [getCheckpoint, deserialize, unalerted, payloadOrDefault, Payload.ofCheckpoint,
      defaultState, trusted, Payload.checkpoint, deserializeLease]

theorem getCheckpoint_same (same : SameButAlerts bucket first second) (now : Instant) :
    getCheckpoint now bucket first = getCheckpoint now bucket second := by
  rw [← getCheckpoint_unalerted now bucket first, same, getCheckpoint_unalerted]

theorem putCheckpoint_unalerted (own : state.sourceBucket = bucket) (stored : Option Payload) :
    unalerted bucket (some (putCheckpoint state stored)) =
      unalerted bucket (some (putCheckpoint state (some (unalerted bucket stored)))) := by
  subst own
  rfl

/-- No operation's other keys depend on the suppression list. -/
theorem apply_unalerted (op : StateOp) (stored : Option Payload) :
    (op.apply bucket stored).map (fun payload => unalerted bucket (some payload)) =
      (op.apply bucket (some (unalerted bucket stored))).map
        fun payload => unalerted bucket (some payload) := by
  cases op with
  | putCheckpoint state =>
    simp only [StateOp.apply, StateOp.program, ConditionalStore.Update.atomically, StateOp.compute]
    split
    · rename_i own
      exact congrArg some (putCheckpoint_unalerted own stored)
    · rfl
  | acquireLease now lease =>
    simp only [StateOp.apply, StateOp.program, ConditionalStore.Update.atomically, StateOp.compute,
      StateStore.acquireLease, getCheckpoint_unalerted]
    cases found : getCheckpoint now bucket stored with
    | none => rfl
    | some state =>
      exact congrArg some (@putCheckpoint_unalerted bucket { state with lease := some lease }
        (getCheckpoint_fields found).1 stored)
  | releaseLease now refs lookback candidate =>
    simp only [StateOp.apply, StateOp.program, ConditionalStore.Update.atomically, StateOp.compute,
      StateStore.releaseLease, getCheckpoint_unalerted]
    cases found : getCheckpoint now bucket stored with
    | none => rfl
    | some state =>
      exact congrArg some (putCheckpoint_unalerted
        (StateOp.advanceCheckpoint_sourceBucket.trans (getCheckpoint_fields found).1) stored)
  | recordSubmission submission terminal tracking limit =>
    simp only [StateOp.apply, StateOp.program, ConditionalStore.Update.atomically, StateOp.compute]
    split
    · rename_i own
      subst own
      rfl
    · rfl
  | mergeCompletionReport report configId jobId createdAt timestamps =>
    by_cases distinct : (report.entries.map ReportRow.identity).Nodup
    · simp only [StateOp.apply, StateOp.program, ConditionalStore.Update.atomically,
        StateOp.compute, StateStore.mergeCompletionReport, if_pos distinct, Option.bind_some]
      have key : boundedItems (mergeContext bucket report configId jobId createdAt timestamps
            (payloadOrDefault bucket (some (unalerted bucket stored)))) report
            (payloadOrDefault bucket (some (unalerted bucket stored))) =
          boundedItems (mergeContext bucket report configId jobId createdAt timestamps
            (payloadOrDefault bucket stored)) report (payloadOrDefault bucket stored) := rfl
      rw [key]
      split
      · rfl
      · rfl
    · simp only [StateOp.apply, StateOp.program, ConditionalStore.Update.atomically,
        StateOp.compute, StateStore.mergeCompletionReport, if_neg distinct, Option.bind_none]
  | disableBucket | storeCompletionTimestamps | deleteCompletionItems | addAlertedConfig
  | clearAlertedConfig | recordScanResult | incrementSubmissionFailureStreak
  | clearSubmissionFailureStreak | recordJournalUnavailableAlert | markReportDiagnosed => rfl

theorem apply_same {op : StateOp} (same : SameButAlerts bucket first second)
    (applied : op.apply bucket first = some after) :
    ∃ other, op.apply bucket second = some other ∧
      SameButAlerts bucket (some after) (some other) := by
  have left := @apply_unalerted bucket op first
  rw [same, ← apply_unalerted op second, applied] at left
  cases found : op.apply bucket second with
  | none => simp [found] at left
  | some other => exact ⟨other, rfl, by simpa [found, SameButAlerts] using left⟩

theorem alert_same {op : StateOp} (alert : IsAlertOp op)
    (applied : op.apply bucket stored = some after) :
    SameButAlerts bucket stored (some after) := by
  cases op with
  | addAlertedConfig | clearAlertedConfig =>
    cases applied
    rfl
  | _ => cases alert

theorem agrees_of_same (same : SameButAlerts bucket first second)
    (other : key ≠ .completionReportAlertedConfigs) :
    (payloadOrDefault bucket first).Agrees (payloadOrDefault bucket second) key := by
  have each {stored : Option Payload} :
      (payloadOrDefault bucket stored).Agrees (unalerted bucket stored) key := by
    cases key <;> first | rfl | exact absurd rfl other
  have right : (unalerted bucket second).Agrees (payloadOrDefault bucket second) key := by
    cases key <;> first | rfl | exact absurd rfl other
  exact agrees_trans (same ▸ each) right

theorem disabled_same (same : SameButAlerts bucket first second) :
    (getDisableState first).disabled = (getDisableState second).disabled := by
  have each (stored : Option Payload) : (getDisableState stored).disabled =
      (unalerted bucket stored).disabled := by
    cases stored with
    | none => rfl
    | some payload =>
      rw [getDisableState]
      cases flag : payload.disabled with
      | true => simp [unalerted, payloadOrDefault, flag]
      | false => simp [unalerted, payloadOrDefault, flag]
  rw [each, each, same]

theorem records_same (same : SameButAlerts bucket first second) :
    getSubmissionRecords first = getSubmissionRecords second := by
  have each (stored : Option Payload) :
      getSubmissionRecords stored = submissionRecordsByJobId (unalerted bucket stored) := by
    cases stored <;> rfl
  rw [each, each, same]

theorem completionJobExists_same (same : SameButAlerts bucket first second) (jobId : String) :
    completionJobExists first jobId = completionJobExists second jobId := by
  have each (stored : Option Payload) : completionJobExists stored jobId =
      decide (jobId ∈ (unalerted bucket stored).completionProcessedJobIds) := by
    cases stored <;> rfl
  rw [each, each, same]

theorem journalAlertDue_same {settings : Settings} (env : RunEnv)
    (same : SameButAlerts settings.bucketName first second) :
    journalUnavailableAlertDue settings env first =
      journalUnavailableAlertDue settings env second := by
  have each (stored : Option Payload) : journalUnavailableAlertDue settings env stored =
      journalUnavailableAlertDue settings env (some (unalerted settings.bucketName stored)) := by
    cases stored <;> rfl
  rw [each first, each second, same]

theorem streak_same (same : SameButAlerts bucket first second) (name : String) :
    (incrementSubmissionFailureStreak bucket name first).1 =
      (incrementSubmissionFailureStreak bucket name second).1 :=
  congrArg (fun payload => (payload.submissionFailureStreaks.get? name).getD 0 + 1) same

end Contents

section Run
open RunClient
variable {settings : Settings} {env : RunEnv}

/-- A client that does not depend on the suppression list, but for the entries it clears. -/
abbrev Blind (bucket : String) (client : RunClient β) : Prop :=
  Alike (SameButAlerts bucket) IsAlertOp client client

theorem write_blind (bucket : String) (site : WriteSite) (op : StateOp) :
    Blind bucket (RunClient.write env site op) :=
  .put fun ok _ _ _ => .done ok

theorem writeBestEffort_blind (bucket : String) (site : WriteSite) (op : StateOp) :
    Blind bucket (RunClient.writeBestEffort env site op) :=
  .put fun _ _ _ _ => .done ()

theorem transport_answered {reply : WriteReply} (answered : reply ≠ .lost) :
    reply.transport ≠ .unanswered := by
  cases reply with
  | served | refused => exact nofun
  | lost => exact absurd rfl answered

theorem clearAlert_blind (bucket jobId : String)
    (answered : env.writes (.clearAlerted jobId) ≠ .lost) :
    Blind bucket (RunClient.clearAlert env jobId) := by
  rw [RunClient.clearAlert]
  split
  · refine .look ?_
    intro first second _
    by_cases left : jobId ∈ alertedConfigs first
    · rw [if_pos left]
      by_cases right : jobId ∈ alertedConfigs second
      · rw [if_pos right]
        exact writeBestEffort_blind bucket _ _
      · rw [if_neg right]
        exact .left trivial (transport_answered answered) fun _ _ => .done ()
    · rw [if_neg left]
      by_cases right : jobId ∈ alertedConfigs second
      · rw [if_pos right]
        exact .right trivial (transport_answered answered) fun _ _ => .done ()
      · rw [if_neg right]
        exact .done ()
  · exact .done ()

section Jobs
variable (answered : ∀ jobId, env.writes (.clearAlerted jobId) ≠ .lost)
include answered

theorem mergeReport_blind (bucket jobId : String) (job : JobDescription) :
    Blind bucket (RunClient.mergeReport settings env jobId job) := by
  rw [RunClient.mergeReport]
  cases completionReportOf env jobId job with
  | none => exact .done ()
  | some report =>
    cases job.creationTime with
    | none => exact .done ()
    | some createdAt =>
      refine (write_blind bucket _ _).bind ?_
      intro merged
      cases merged with
      | true => exact clearAlert_blind bucket jobId (answered jobId)
      | false => exact .done ()

theorem settleReport_blind (bucket : String) (rec : SubmissionRecord) :
    Blind bucket (RunClient.settleReport settings env rec) := by
  rw [RunClient.settleReport]
  cases viewJob env rec.jobId with
  | terminal job =>
    refine Alike.bind ?_ ?_
    · rw [RunClient.onJobTerminal]
      split
      · exact .done ()
      · refine .look ?_
        intro first second same
        rw [completionJobExists_same same]
        split
        · exact .done ()
        · exact mergeReport_blind answered bucket rec.jobId job
    · intro _
      rw [RunClient.diagnoseReport]
      split
      · exact writeBestEffort_blind bucket _ _
      · exact .done ()
  | undescribable | running => exact .done ()

theorem describePriorJobs_blind (bucket : String)
    (prior : List SubmissionRecord) (check : JobCheck) :
    Blind bucket (RunClient.describePriorJobs settings env prior check) := by
  induction prior generalizing check with
  | nil => exact .done check
  | cons rec rest ih =>
    rw [RunClient.describePriorJobs]
    split
    · exact ih check
    · refine (settleReport_blind answered bucket rec).bind ?_
      intro _
      exact ih _

end Jobs

theorem commitRecoveryScored_blind (bucket : String) (jobIds : List String) :
    Blind bucket (RunClient.commitRecoveryScored env jobIds) := by
  induction jobIds with
  | nil => exact .done ()
  | cons jobId rest ih => exact (writeBestEffort_blind bucket _ _).bind fun _ => ih

theorem prepareStateAndRecovery_blind (answered : ∀ jobId, env.writes (.clearAlerted jobId) ≠ .lost)
    (bucket : String) (state : CheckpointState) :
    Blind bucket (RunClient.prepareStateAndRecovery settings env state) := by
  have prior : Blind bucket (RunClient.priorSubmissions env) := by
    rw [RunClient.priorSubmissions]
    split
    · refine .look ?_
      intro first second same
      rw [records_same same]
      exact .done _
    · exact .done []
  refine prior.bind ?_
  intro submissions
  refine (describePriorJobs_blind answered bucket submissions .empty).bind ?_
  intro check
  dsimp only
  split
  · have applied : Blind bucket
        (RunClient.applyRecoveryPlan env (JobRecovery.planRecovery submissions
        check.outcomes settings.bucketName settings.maxBatchJobFailures) state) := by
      rw [RunClient.applyRecoveryPlan]
      split
      · exact (writeBestEffort_blind bucket _ _).bind fun _ => .done none
      · exact .done _
      · exact .done _
    refine applied.bind ?_
    intro checkpoint
    cases checkpoint with
    | none => exact (commitRecoveryScored_blind bucket _).bind fun _ => .done _
    | some rolledBack => exact .done _
  · exact .done _

theorem readJournalWindow_blind (watermark : Watermark) :
    Blind settings.bucketName (RunClient.readJournalWindow settings env watermark) := by
  have escalated : Blind settings.bucketName
      (RunClient.escalateJournalUnavailable settings env) := by
    refine Alike.bind ?_ ?_
    · rw [RunClient.journalAlertDue]
      split
      · refine .look ?_
        intro first second same
        rw [journalAlertDue_same env same]
        exact .done _
      · exact .done true
    · intro due
      split
      · exact writeBestEffort_blind _ _ _
      · exact .done ()
  simp only [RunClient.readJournalWindow]
  split
  · exact .done none
  · cases sinceTimestamp settings env watermark with
    | none => exact .done none
    | some range =>
      cases env.queries .journal with
      | true => exact .done _
      | false =>
        cases env.journalUnavailable with
        | false => exact .done none
        | true => exact escalated.bind fun _ => .done none

theorem submitJob_blind (manifest : WrittenManifest) (counter : Nat) (low : Watermark)
    (candidate : Option Watermark) :
    Blind settings.bucketName
      (RunClient.submitJob settings env manifest counter low candidate) := by
  have judged (streak : Nat) : Blind settings.bucketName
      (if streak < settings.maxBatchJobFailures then return false
        else do
          RunClient.disable env (submissionDisableReason settings.bucketName streak)
          return true) := by
    split
    · exact .done false
    · exact (writeBestEffort_blind _ _ _).bind fun _ => .done true
  simp only [RunClient.submitJob]
  split
  · exact (writeBestEffort_blind _ _ _).bind fun _ => .done _
  · split
    · refine Alike.bind (.put ?_) fun _ => .done _
      intro ok first second same
      rw [streak_same same]
      exact judged _
    · exact .done _

theorem leasedManifestAndSubmit_blind (selected : Selected) (window : JournalWindow) (counter : Nat)
    (low : Watermark) :
    Blind settings.bucketName
      (RunClient.leasedManifestAndSubmit settings env selected window counter low) := by
  have scanned (count : Nat) :
      Blind settings.bucketName (RunClient.recordScan settings env count) := by
    rw [RunClient.recordScan]
    split
    · exact writeBestEffort_blind _ _ _
    · exact .done ()
  have stamped (entries : ManifestGenerator.Entries) :
      Blind settings.bucketName (RunClient.storeTimestamps settings env entries) := by
    simp only [RunClient.storeTimestamps]
    split
    · exact .done ()
    · exact writeBestEffort_blind _ _ _
  have built (entries : ManifestGenerator.Entries) :
      Blind settings.bucketName (RunClient.buildManifest settings env entries window) := by
    rw [RunClient.buildManifest]
    split
    · exact .done none
    · refine (scanned _).bind ?_
      intro _
      split
      · exact .done _
      · exact .done none
  simp only [RunClient.leasedManifestAndSubmit]
  split
  · exact (scanned 0).bind fun _ => .done _
  · refine (stamped _).bind fun _ => (built _).bind ?_
    intro manifest
    cases manifest with
    | none => exact .done _
    | some manifest =>
      refine (submitJob_blind manifest counter low selected.candidateHwm).bind ?_
      intro outcome
      split
      · exact .done _
      · exact .done _

theorem concludeRun_blind (bucket : String) (check : JobCheck) (outcome : Option SubmissionOutcome)
    (released : Bool) : Blind bucket
      (RunClient.concludeRun settings env check outcome released) := by
  cases outcome with
  | none => exact .done ()
  | some outcome =>
    have scored : Blind bucket
        (if outcome.succeeded then RunClient.commitRecoveryScored env check.newlyScoredJobIds
          else return ()) := by
      split
      · exact commitRecoveryScored_blind bucket _
      · exact .done ()
    cases released with
    | false => exact scored
    | true =>
      refine Alike.bind ?_ fun _ => scored
      cases outcome.lastSubmission with
      | none => exact .done ()
      | some submission => exact writeBestEffort_blind bucket _ _

theorem runSelected_blind (prep : Prepared) (checkpoint : CheckpointState) (window : JournalWindow)
    (selected : Selected) :
    Blind settings.bucketName
      (RunClient.runSelected settings env prep checkpoint window selected) := by
  simp only [RunClient.runSelected]
  cases selected.candidateHwm with
  | none =>
    refine (leasedManifestAndSubmit_blind selected window _ _).bind ?_
    intro leased
    exact concludeRun_blind _ _ _ _
  | some candidateHwm =>
    refine (write_blind _ _ _).bind ?_
    intro acquired
    cases acquired with
    | false => exact .done ()
    | true =>
      refine (leasedManifestAndSubmit_blind selected window _ _).bind ?_
      intro leased
      refine (write_blind _ _ _).bind ?_
      intro released
      exact concludeRun_blind _ _ _ _

theorem runBucket_blind (answered : ∀ jobId, env.writes (.clearAlerted jobId) ≠ .lost) :
    AlikeOpening (SameButAlerts settings.bucketName) IsAlertOp (RunClient.runBucket settings env)
      (RunClient.runBucket settings env) := by
  rw [RunClient.runBucket]
  split
  · exact .quit ()
  · refine .look ?_
    intro first second same
    rw [disabled_same same]
    split
    · exact .quit ()
    · refine .hold ?_
      intro first second same
      rw [getCheckpoint_same same]
      cases getCheckpoint env.now settings.bucketName second with
      | none => exact .done ()
      | some state =>
        refine (prepareStateAndRecovery_blind answered _ state).bind ?_
        intro prep
        cases prep.checkpoint with
        | none => exact .done ()
        | some checkpoint =>
          dsimp only
          split
          · exact .done ()
          · refine (readJournalWindow_blind checkpoint.lastProcessedWatermark).bind ?_
            intro window
            cases window with
            | none => exact .done ()
            | some window => exact runSelected_blind prep checkpoint window _

end Run
end ReplicateOnTag.Orchestrator

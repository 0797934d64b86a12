import ReplicateOnTag.Adapters.RecordLookup
import ReplicateOnTag.Orchestrator.PersistedWindow

/-! Every write of a run with the arguments the run gives it, and the object it
meets. What all of them preserve, a run preserves. -/
namespace ReplicateOnTag.Orchestrator
open StateStore ManifestGenerator

/-- The object changes by operations that are each allowed on the object they meet. -/
inductive Steps (bucket : String) (allowed : Option Payload → StateOp → Prop) :
    Option Payload → Option Payload → Prop where
  | refl (stored : Option Payload) : Steps bucket allowed stored stored
  | next : Steps bucket allowed first middle → allowed middle op →
      op.apply bucket middle = some last →
      Steps bucket allowed first (some last)

namespace Steps
variable {bucket : String} {allowed weaker : Option Payload → StateOp → Prop}

theorem trans (first : Steps bucket allowed a b) (second : Steps bucket allowed b c) :
    Steps bucket allowed a c := by
  induction second with
  | refl => exact first
  | next _ permitted applied ih => exact .next ih permitted applied

theorem preserves (invariant : Option Payload → Prop) (path : Steps bucket allowed a b)
    (each : ∀ stored op after, allowed stored op → op.apply bucket stored = some after →
      invariant stored → invariant (some after)) (start : invariant a) : invariant b := by
  induction path with
  | refl => exact start
  | next _ permitted applied ih => exact each _ _ _ permitted applied ih

end Steps

theorem Evolves.steps {each : StateOp → Prop} (path : Evolves bucket each a b)
    (imp : ∀ stored op, each op → allowed stored op) : Steps bucket allowed a b := by
  induction path with
  | refl => exact .refl _
  | next _ member applied ih => exact .next ih (imp _ _ member) applied

theorem write_steps {settings : Settings} {env : RunEnv} {site : WriteSite}
    (permitted : allowed stored op) :
    Steps settings.bucketName allowed stored (write settings env site op stored).stored := by
  rcases write_cases settings env site op stored with ⟨same, _⟩ | ⟨after, applied, same⟩
  · rw [same]
    exact .refl _
  · rw [same]
    exact .next (.refl _) permitted applied

/-- A run merges the report of a recorded job it finds terminal, once. -/
structure MergesRecorded (settings : Settings) (env : RunEnv) (found stored : Option Payload)
    (report : BopsCompletionReport) (jobId : String) (createdAt : Instant) : Prop where
  tracking : settings.completionTracking = true
  recorded : (recordFor settings.bucketName found jobId).isSome
  unmerged : completionJobExists stored jobId = false
  described : ∃ job, viewJob env jobId = .terminal job ∧ job.creationTime = some createdAt ∧
    completionReportOf env jobId job = some report

/-- The enrichment of the objects a run matched. -/
structure Enriches (settings : Settings) (selected : Selected) (timestamps : Timestamps)
    (routing : Option Routing) : Prop where
  timestamps : timestamps =
    getTimestamps (matchAndAccumulate selected.dedupedOps settings.rules) settings.bucketName
  routing : routing =
    some (getRouting (matchAndAccumulate selected.dedupedOps settings.rules) settings.bucketName)

/-- What a run that found one object may do to the object as it stands. -/
def RunStep (settings : Settings) (env : RunEnv) (selected : Option Selected)
    (found stored : Option Payload) : StateOp → Prop
  | .mergeCompletionReport report configId jobId createdAt timestamps =>
      configId = settings.bucketName ∧ timestamps = none ∧
        MergesRecorded settings env found stored report jobId createdAt
  | .storeCompletionTimestamps timestamps routing =>
      ∃ chosen, selected = some chosen ∧ Enriches settings chosen timestamps routing
  | .recordScanResult configId scanAt _ => configId = settings.bucketName ∧ scanAt = env.now
  | .putCheckpoint _ | .deleteCompletionItems _ | .addAlertedConfig _ => False
  | _ => True

section Phases
variable {settings : Settings} {env : RunEnv} {found stored : Option Payload}

theorem runStep_scoring {op : StateOp} (scoring : IsScoringOp jobIds op) :
    RunStep settings env chosen found stored op := by
  cases op <;> trivial

theorem runStep_submit {op : StateOp} (submit : IsSubmitOp op) :
    RunStep settings env chosen found stored op := by
  cases op <;> trivial

theorem runStep_alert {op : StateOp} (alert : IsJournalAlert op) :
    RunStep settings env chosen found stored op := by
  cases op <;> trivial

theorem onJobTerminal_steps (recorded : (recordFor settings.bucketName found jobId).isSome)
    (viewed : viewJob env jobId = .terminal job) :
    Steps settings.bucketName (RunStep settings env chosen found) stored
      (onJobTerminal settings env jobId job stored) := by
  rw [onJobTerminal]
  split
  · exact .refl _
  rename_i open_
  split
  · exact .refl _
  rename_i unmerged
  split
  · rename_i report createdAt readable created
    have tracking : settings.completionTracking = true := by
      cases tracks : settings.completionTracking with
      | true => rfl
      | false => simp [tracks] at open_
    have permitted : RunStep settings env chosen found stored
        (.mergeCompletionReport report settings.bucketName jobId createdAt none) :=
      ⟨rfl, rfl, tracking, recorded, Bool.eq_false_iff.mpr unmerged, job, viewed, created, readable⟩
    have merged : Steps settings.bucketName (RunStep settings env chosen found) stored
        (write settings env (.merge jobId)
          (.mergeCompletionReport report settings.bucketName jobId createdAt none) stored).stored :=
      write_steps permitted
    simp only
    split
    · refine merged.trans ?_
      rw [clearAlert]
      split
      · exact write_steps trivial
      · exact .refl _
    · exact merged
  · exact .refl _

theorem settleReport_steps (recorded : (recordFor settings.bucketName found rec.jobId).isSome) :
    Steps settings.bucketName (RunStep settings env chosen found) stored
      (settleReport settings env rec stored) := by
  rw [settleReport]
  split
  · rename_i job viewed
    refine (onJobTerminal_steps recorded viewed).trans ?_
    rw [diagnoseReport]
    split
    · exact write_steps trivial
    · exact .refl _
  · exact .refl _

theorem settledObject_steps (settings : Settings) (env : RunEnv) (chosen : Option Selected)
    (found : Option Payload) :
    Steps settings.bucketName (RunStep settings env chosen found) found
      (settledObject settings env found) := by
  have each : ∀ rec ∈ priorSubmissions env found,
      (recordFor settings.bucketName found rec.jobId).isSome := by
    intro rec member
    rw [priorSubmissions] at member
    split at member
    · obtain ⟨jobId, stored⟩ := mem_getSubmissionRecords.mp member
      obtain ⟨rfl, _⟩ := recordFor_jobId stored
      exact Option.isSome_of_eq_some stored
    · cases member
  have loop : ∀ (prior : List SubmissionRecord) (check : JobCheck) (stored : Option Payload),
      (∀ rec ∈ prior, (recordFor settings.bucketName found rec.jobId).isSome) →
      Steps settings.bucketName (RunStep settings env chosen found) stored
        (prior.foldl (checkJob settings env) (check, stored)).2 := by
    intro prior
    induction prior with
    | nil => exact fun _ stored _ => .refl stored
    | cons rec rest ih =>
      intro check stored recorded
      have later : ∀ other ∈ rest, (recordFor settings.bucketName found other.jobId).isSome :=
        fun other member => recorded other (List.mem_cons_of_mem _ member)
      rw [List.foldl_cons, checkJob]
      split
      · exact ih check stored later
      · exact (settleReport_steps (recorded rec List.mem_cons_self)).trans (ih _ _ later)
  exact loop _ _ _ each

theorem recordScan_steps (settings : Settings) (env : RunEnv) (count : Nat)
    (stored : Option Payload) :
    Steps settings.bucketName (RunStep settings env chosen found) stored
      (recordScan settings env count stored) := by
  rw [recordScan]
  split
  · exact write_steps ⟨rfl, rfl⟩
  · exact .refl _

/-- The lease body stores the enrichment first. -/
theorem leasedManifestAndSubmit_stamped (settings : Settings) (env : RunEnv) (selected : Selected)
    (window : JournalWindow) (counter : Nat) (low : Watermark) (chosen : Option Selected)
    (found stored : Option Payload)
    (busy : ¬ (!hasAccumulatedEntries (matchAndAccumulate selected.dedupedOps settings.rules)
      settings.bucketName &&
      selected.candidateHwm.isNone) = true) :
    Steps settings.bucketName (RunStep settings env chosen found)
      (storeTimestamps settings env (matchAndAccumulate selected.dedupedOps settings.rules) stored)
      (leasedManifestAndSubmit settings env selected window counter low stored).stored := by
  simp only [leasedManifestAndSubmit]
  rw [if_neg busy]
  generalize storeTimestamps settings env
    (matchAndAccumulate selected.dedupedOps settings.rules) stored = middle
  generalize matchAndAccumulate selected.dedupedOps settings.rules = entries
  have built : Steps settings.bucketName (RunStep settings env chosen found) middle
      (buildManifest settings env entries window middle).stored := by
    simp only [buildManifest]
    split
    · exact .refl _
    · split <;> exact recordScan_steps settings env _ middle
  split
  · exact built
  · rename_i manifest _
    have submitted := built.trans ((submitJob_evolves settings env manifest counter low
      selected.candidateHwm _).steps fun _ _ => runStep_submit)
    split <;> exact submitted

theorem storeTimestamps_steps (settings : Settings) (env : RunEnv) (selected : Selected)
    (found stored : Option Payload) :
    Steps settings.bucketName (RunStep settings env (some selected) found) stored
      (storeTimestamps settings env
        (matchAndAccumulate selected.dedupedOps settings.rules) stored) := by
  simp only [storeTimestamps]
  split
  · exact .refl _
  · exact write_steps ⟨selected, rfl, rfl, rfl⟩

theorem leasedManifestAndSubmit_steps (settings : Settings) (env : RunEnv) (selected : Selected)
    (window : JournalWindow) (counter : Nat) (low : Watermark) (found stored : Option Payload) :
    Steps settings.bucketName (RunStep settings env (some selected) found) stored
      (leasedManifestAndSubmit settings env selected window counter low stored).stored := by
  by_cases idle : (!hasAccumulatedEntries (matchAndAccumulate selected.dedupedOps settings.rules)
      settings.bucketName && selected.candidateHwm.isNone) = true
  · simp only [leasedManifestAndSubmit]
    rw [if_pos idle]
    exact recordScan_steps settings env 0 stored
  · exact (storeTimestamps_steps settings env selected found stored).trans
      (leasedManifestAndSubmit_stamped settings env selected window counter low _ found stored idle)

theorem concludeRun_steps (settings : Settings) (env : RunEnv) (check : JobCheck) (body : LeaseBody)
    (released : Write) (chosen : Option Selected) (found : Option Payload) :
    Steps settings.bucketName (RunStep settings env chosen found) released.stored
      (concludeRun settings env check body released).stored := by
  have persisted : ∀ record, Steps settings.bucketName (RunStep settings env chosen found)
      released.stored (persistSubmission settings env record check.terminalJobIds
        released.stored) := by
    intro record
    cases record with
    | none => exact .refl _
    | some submission => exact write_steps trivial
  rw [concludeRun]
  split
  · exact .refl _
  · rename_i outcome _
    simp only
    split <;> split
    · exact (persisted _).trans
        ((commitRecoveryScored_evolves settings env _ _).steps fun _ _ => runStep_scoring)
    · exact (commitRecoveryScored_evolves settings env _ _).steps fun _ _ => runStep_scoring
    · exact persisted _
    · exact .refl _

theorem runSelected_steps (settings : Settings) (env : RunEnv) (prep : Preparation)
    (checkpoint : CheckpointState) (window : JournalWindow) (selected : Selected)
    (found stored : Option Payload) :
    Steps settings.bucketName (RunStep settings env (some selected) found) stored
      (runSelected settings env prep checkpoint window selected stored).stored := by
  have body := leasedManifestAndSubmit_steps settings env selected window
    prep.plan.consecutiveFailures
    checkpoint.lastProcessedWatermark found
  cases candidate : selected.candidateHwm with
  | none =>
    simp only [runSelected, candidate]
    exact (body stored).trans (concludeRun_steps settings env _ _ ⟨_, false⟩ _ found)
  | some candidateHwm =>
    simp only [runSelected, candidate]
    have acquired : Steps settings.bucketName (RunStep settings env (some selected) found) stored
        (write settings env .acquire
          (.acquireLease env.now (newLease env candidateHwm)) stored).stored :=
      write_steps trivial
    split
    · exact acquired
    · refine ((acquired.trans (body _)).trans ?_).trans
        (concludeRun_steps settings env _ _ _ _ found)
      exact write_steps trivial

/-- Everything a run writes, as one sequence of allowed steps. -/
theorem runBucket_steps (settings : Settings) (env : RunEnv) (found : Option Payload) :
    Steps settings.bucketName
      (RunStep settings env (runBucket settings env found).selected found) found
      (runBucket settings env found).stored := by
  have shape := runBucket_shape settings env found
  generalize runBucket settings env found = report at shape ⊢
  cases shape with
  | skipped => exact .refl _
  | @breached prep prepares tripped =>
    obtain ⟨reason, _, _, stores⟩ := prepares.breached tripped
    simp only [stores]
    have disabled : Steps settings.bucketName (RunStep settings env none found)
        (settledObject settings env found)
        (disable settings env reason (settledObject settings env found)) := write_steps trivial
    refine ((settledObject_steps settings env none found).trans disabled).trans ?_
    exact (commitRecoveryScored_evolves settings env _ _).steps fun _ _ => runStep_scoring
  | unread prepares ready evolves =>
    refine Steps.trans ?_ (evolves.steps fun _ _ => runStep_alert)
    rw [(prepares.ready _ ready).2]
    exact settledObject_steps settings env none found
  | selected prepares ready reads =>
    refine Steps.trans ?_ (runSelected_steps settings env _ _ _ _ found _)
    rw [(prepares.ready _ ready).2]
    exact settledObject_steps settings env _ found

theorem storeTimestamps_served (served : env.writes .timestamps = .served)
    (matched : bucketEntries entries settings.bucketName ≠ []) :
    storeTimestamps settings env entries stored =
      some (storeCompletionTimestamps settings.bucketName
      (getTimestamps entries settings.bucketName)
        (some (getRouting entries settings.bucketName)) stored) := by
  have filled : (getTimestamps entries settings.bucketName).entries ≠ [] := by
    obtain ⟨row, listed⟩ := List.exists_mem_of_ne_nil _ matched
    have filed : (row.1.2, row.2.versionId.getD "") ∈
        (getTimestamps entries settings.bucketName).keys := by
      rw [getTimestamps, Dict.mem_keys_ofList, List.map_map]
      exact List.mem_map.mpr ⟨row, listed, rfl⟩
    intro empty
    rw [Dict.keys, empty] at filed
    cases filed
  have applied : (StateOp.storeCompletionTimestamps (getTimestamps entries settings.bucketName)
      (some (getRouting entries settings.bucketName))).apply settings.bucketName stored =
        some (storeCompletionTimestamps settings.bucketName
          (getTimestamps entries settings.bucketName)
          (some (getRouting entries settings.bucketName)) stored) := rfl
  simp only [storeTimestamps, writeBestEffort, write_served applied served, List.isEmpty_iff,
    filled, Bool.and_eq_true, false_and, if_false]

/-- The lease body of a run with a candidate stores the enrichment of what it matched. -/
theorem runSelected_stamped (served : ∀ site, env.writes site = .served)
    (readable : Readable env.now settings.bucketName stored) (prep : Preparation)
    (checkpoint : CheckpointState) (window : JournalWindow) (found : Option Payload)
    (candidate : selected.candidateHwm = some candidateHwm)
    (matched : bucketEntries (matchAndAccumulate selected.dedupedOps settings.rules)
      settings.bucketName ≠ []) :
    ∃ middle timestamps routing, Enriches settings selected timestamps (some routing) ∧
      Steps settings.bucketName (RunStep settings env (some selected) found) stored middle ∧
      Steps settings.bucketName (RunStep settings env (some selected) found)
        (some (storeCompletionTimestamps settings.bucketName timestamps (some routing) middle))
        (runSelected settings env prep checkpoint window selected stored).stored := by
  obtain ⟨state, applied⟩ := acquireLease_applies readable (newLease env candidateHwm)
  have acquired : Steps settings.bucketName (RunStep settings env (some selected) found) stored
      (some (putCheckpoint { state with lease := some (newLease env candidateHwm) } stored)) :=
    @Steps.next _ _ _ _ (.acquireLease env.now (newLease env candidateHwm)) _
      (.refl stored) trivial applied
  simp only [runSelected, candidate, write_served applied (served .acquire), Bool.not_true,
    Bool.false_eq_true, if_false]
  refine ⟨_, _, _, ⟨rfl, rfl⟩, acquired, ?_⟩
  have busy : ¬ (!hasAccumulatedEntries (matchAndAccumulate selected.dedupedOps settings.rules)
      settings.bucketName && selected.candidateHwm.isNone) = true := by simp [candidate]
  have body := leasedManifestAndSubmit_stamped settings env selected window
    prep.plan.consecutiveFailures
    checkpoint.lastProcessedWatermark (some selected) found
    (some (putCheckpoint { state with lease := some (newLease env candidateHwm) } stored)) busy
  rw [storeTimestamps_served (served .timestamps) matched] at body
  refine (body.trans ?_).trans (concludeRun_steps settings env _ _ _ _ found)
  exact write_steps trivial

/-- A run whose writes are served and that matched something stores its enrichment. -/
theorem runBucket_stamped (served : ∀ site, env.writes site = .served)
    (chose : (runBucket settings env found).selected = some selected)
    (matched : bucketEntries (matchAndAccumulate selected.dedupedOps settings.rules)
      settings.bucketName ≠ []) :
    ∃ middle timestamps routing, Enriches settings selected timestamps (some routing) ∧
      Steps settings.bucketName (RunStep settings env (some selected) found) found middle ∧
      Steps settings.bucketName (RunStep settings env (some selected) found)
        (some (storeCompletionTimestamps settings.bucketName timestamps (some routing) middle))
        (runBucket settings env found).stored := by
  have shape := runBucket_shape settings env found
  generalize runBucket settings env found = report at shape chose ⊢
  cases shape with
  | skipped | breached | unread => cases chose
  | @selected prep checkpoint window prepares ready reads =>
    cases chose
    have readable := readable_evolves (prepares.evolves ready) (fun _ => isQuietOp_report)
      (readable_of_getCheckpoint prepares.found)
    have settled := settledObject_steps settings env
      (some (selectEligible settings window.ops checkpoint)) found
    rw [← (prepares.ready checkpoint ready).2] at settled
    cases candidate : (selectEligible settings window.ops checkpoint).candidateHwm with
    | none =>
      rw [dedupedOps_of_no_candidate candidate] at matched
      exact absurd rfl matched
    | some candidateHwm =>
      obtain ⟨middle, timestamps, routing, enriches, before, after⟩ :=
        runSelected_stamped served readable prep checkpoint window found candidate matched
      exact ⟨middle, timestamps, routing, enriches, settled.trans before, after⟩

end Phases
end ReplicateOnTag.Orchestrator

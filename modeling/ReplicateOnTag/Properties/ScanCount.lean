import ReplicateOnTag.Orchestrator.History

/-! The scan result a run persists, against the matched objects of that run:
the count is taken over every row of the read window, the lookback tail and
what earlier runs submitted included, the objects from the eligible operations
only. -/
namespace ReplicateOnTag.Orchestrator
open StateStore AthenaJournal JournalDedup ManifestGenerator RuleMatcher

/-- `last_scan_match_count` of the bucket. -/
def lastScanMatchCount (bucket : String) (stored : Option Payload) : Option Nat :=
  ((payloadOrDefault bucket stored).completionScanState.get? bucket).map
    ScanState.lastScanMatchCount

section Recording
variable {settings : Settings} {env : RunEnv} {selected : Selected} {window : JournalWindow}

theorem lastScanMatchCount_of_agrees {first second : Option Payload}
    (same : (payloadOrDefault bucket first).Agrees (payloadOrDefault bucket second)
      .completionScanState) :
    lastScanMatchCount bucket second = lastScanMatchCount bucket first := by
  have equal : (payloadOrDefault bucket first).completionScanState =
      (payloadOrDefault bucket second).completionScanState := same
  rw [lastScanMatchCount, lastScanMatchCount, equal]

theorem lastScanMatchCount_evolves (path : Evolves bucket allowed first second)
    (foreign : ∀ op, allowed op → PayloadKey.completionScanState ∉ op.ownedKeys) :
    lastScanMatchCount bucket second = lastScanMatchCount bucket first :=
  lastScanMatchCount_of_agrees (path.frame foreign)

theorem scanState_foreign_of_submit {op : StateOp} (submit : IsSubmitOp op) :
    PayloadKey.completionScanState ∉ op.ownedKeys := by
  cases op <;> simp_all [IsSubmitOp, StateOp.ownedKeys]

theorem scanState_foreign_of_scoring {op : StateOp} (scoring : IsScoringOp jobIds op) :
    PayloadKey.completionScanState ∉ op.ownedKeys := by
  cases op <;> simp_all [IsScoringOp, StateOp.ownedKeys]

/-- A single write of an operation that does not own the scan state. -/
theorem lastScanMatchCount_write {op : StateOp}
    (foreign : PayloadKey.completionScanState ∉ op.ownedKeys)
    (site : WriteSite) (stored : Option Payload) :
    lastScanMatchCount settings.bucketName (write settings env site op stored).stored =
      lastScanMatchCount settings.bucketName stored :=
  lastScanMatchCount_of_agrees (write_frame settings env site op stored foreign)

theorem recordScan_landed (tracking : settings.completionTracking = true)
    (landed : env.writes .scan ≠ .refused) (count : Nat) (stored : Option Payload) :
    lastScanMatchCount settings.bucketName (recordScan settings env count stored) = some count := by
  have applied : (StateOp.recordScanResult settings.bucketName env.now
      count).apply settings.bucketName
      stored = some (recordScanResult settings.bucketName settings.bucketName
        env.now count stored) := rfl
  rw [recordScan, if_pos tracking, writeBestEffort, write_landed applied landed]
  simp [lastScanMatchCount, payloadOrDefault, recordScanResult]

theorem buildManifest_scan {entries : Entries}
    (found : (buildManifest settings env entries window stored).scan = some count) :
    count = preflightCount env.journal settings.bucketName settings.rules
      window.since window.upTo := by
  simp only [buildManifest] at found
  split at found
  · cases found
  · split at found <;> exact (Option.some.inj found).symm

/-- With a candidate the body hands on the preflight count. -/
theorem leasedManifestAndSubmit_scan (candidate : selected.candidateHwm = some candidateHwm)
    (found : (leasedManifestAndSubmit settings env selected window counter low stored).scan =
      some count) :
    count = preflightCount env.journal settings.bucketName settings.rules
      window.since window.upTo := by
  simp only [leasedManifestAndSubmit, candidate, Option.isNone_some, Bool.and_false,
    Bool.false_eq_true, if_false] at found
  split at found
  · exact buildManifest_scan found
  · split at found <;> exact buildManifest_scan found

theorem buildManifest_landed {entries : Entries} (tracking : settings.completionTracking = true)
    (landed : env.writes .scan ≠ .refused)
    (found : (buildManifest settings env entries window stored).scan = some count) :
    lastScanMatchCount settings.bucketName
      (buildManifest settings env entries window stored).stored =
      some count := by
  simp only [buildManifest] at found ⊢
  split at found
  · cases found
  · rename_i queried
    rw [if_neg queried]
    split at found <;>
    · cases found
      exact recordScan_landed tracking landed _ _

/-- What the body records stays recorded through the submission. -/
theorem leasedManifestAndSubmit_landed (tracking : settings.completionTracking = true)
    (landed : env.writes .scan ≠ .refused)
    (found : (leasedManifestAndSubmit settings env selected window counter low stored).scan =
      some count) :
    lastScanMatchCount settings.bucketName
      (leasedManifestAndSubmit settings env selected window counter low stored).stored =
        some count := by
  simp only [leasedManifestAndSubmit] at found ⊢
  split at found
  · rename_i idle
    rw [if_pos idle]
    cases found
    exact recordScan_landed tracking landed _ _
  · rename_i busy
    rw [if_neg busy]
    generalize storeTimestamps settings env (matchAndAccumulate selected.dedupedOps settings.rules)
      stored = stamped at found ⊢
    generalize matchAndAccumulate selected.dedupedOps settings.rules = entries at found ⊢
    have scanned := @buildManifest_landed settings env window stamped count entries tracking landed
    generalize buildManifest settings env entries window stamped = built at found scanned ⊢
    cases written : built.manifest with
    | none =>
      simp only [written] at found ⊢
      exact scanned found
    | some manifest =>
      simp only [written] at found ⊢
      have kept := lastScanMatchCount_evolves
        (submitJob_evolves settings env manifest counter low selected.candidateHwm built.stored)
        fun _ => scanState_foreign_of_submit
      split at found
      · rename_i disabled
        rw [if_pos disabled]
        exact kept.trans (scanned found)
      · rename_i enabled
        rw [if_neg enabled]
        exact kept.trans (scanned found)

theorem concludeRun_scan (settings : Settings) (env : RunEnv) (check : JobCheck) (body : LeaseBody)
    (released : Write) : (concludeRun settings env check body released).scan = body.scan := by
  rw [concludeRun]
  cases body.outcome with
  | none => rfl
  | some outcome => simp only; split <;> rfl

/-- Nothing after the body touches the scan state. -/
theorem concludeRun_landed (check : JobCheck) (body : LeaseBody) (released : Write) :
    lastScanMatchCount settings.bucketName (concludeRun settings env check body released).stored =
      lastScanMatchCount settings.bucketName released.stored := by
  have scored : ∀ object, lastScanMatchCount settings.bucketName
      (commitRecoveryScored settings env check.newlyScoredJobIds object) =
        lastScanMatchCount settings.bucketName object := fun object =>
    lastScanMatchCount_evolves (commitRecoveryScored_evolves settings env _ object)
      fun _ => scanState_foreign_of_scoring
  have persisted : ∀ record, lastScanMatchCount settings.bucketName
      (persistSubmission settings env record check.terminalJobIds released.stored) =
        lastScanMatchCount settings.bucketName released.stored := by
    intro record
    cases record with
    | none => rfl
    | some submission => exact lastScanMatchCount_write (by simp [StateOp.ownedKeys]) _ _
  rw [concludeRun]
  cases body.outcome with
  | none => rfl
  | some outcome =>
    simp only
    split <;> split <;> simp only [scored, persisted]

/-- The count of a run: idle without a candidate, else the preflight's. -/
theorem runSelected_scan (idle : selected.candidateHwm = none → selected.dedupedOps = [])
    (found : (runSelected settings env prep checkpoint window selected stored).scan = some count) :
    (selected.candidateHwm = none ∧ count = 0) ∨
      (selected.candidateHwm ≠ none ∧
        count = preflightCount env.journal settings.bucketName settings.rules window.since
          window.upTo) := by
  cases candidate : selected.candidateHwm with
  | none =>
    simp only [runSelected, candidate, concludeRun_scan,
      leasedManifestAndSubmit_idle candidate (idle candidate)] at found
    exact .inl ⟨rfl, (Option.some.inj found).symm⟩
  | some candidateHwm =>
    simp only [runSelected, candidate] at found
    split at found
    · cases found
    · rw [concludeRun_scan] at found
      exact .inr ⟨Option.some_ne_none _, leasedManifestAndSubmit_scan candidate found⟩

theorem runSelected_landed (tracking : settings.completionTracking = true)
    (landed : env.writes .scan ≠ .refused)
    (found : (runSelected settings env prep checkpoint window selected stored).scan = some count) :
    lastScanMatchCount settings.bucketName
      (runSelected settings env prep checkpoint window selected stored).stored = some count := by
  cases candidate : selected.candidateHwm with
  | none =>
    simp only [runSelected, candidate, concludeRun_scan, concludeRun_landed] at found ⊢
    exact leasedManifestAndSubmit_landed tracking landed found
  | some candidateHwm =>
    simp only [runSelected, candidate] at found ⊢
    split at found
    · cases found
    · rename_i acquired
      rw [concludeRun_scan] at found
      rw [if_neg acquired, concludeRun_landed, lastScanMatchCount_write (by
        simp [StateOp.ownedKeys, StateOp.checkpointKeys])]
      exact leasedManifestAndSubmit_landed tracking landed found

end Recording

section Agreement

/-- A run whose scan result reached the object. -/
structure RecordsScan (settings : Settings) (env : RunEnv) (stored : Option Payload)
    (checkpoint : CheckpointState) (window : JournalWindow) : Prop where
  tracking : settings.completionTracking = true
  landed : env.writes .scan ≠ .refused
  scanned : (runBucket settings env stored).scan.isSome
  worked : (runBucket settings env stored).checkpoint = some checkpoint
  read : (runBucket settings env stored).window = some window

/-- The eligible operations that are not archived produced a matched object. -/
def ProducesMatch (settings : Settings) (checkpoint : CheckpointState)
    (window : JournalWindow) : Prop :=
  hasAccumulatedEntries (matchAndAccumulate
    (selectEligible settings window.ops checkpoint).dedupedOps
    settings.rules) settings.bucketName = true

/-- The persisted count is zero exactly when no matched object was produced. -/
def ScanAgrees (settings : Settings) (report : RunReport) (checkpoint : CheckpointState)
    (window : JournalWindow) : Prop :=
  ∃ count, lastScanMatchCount settings.bucketName report.stored = some count ∧
    (count = 0 ↔ ¬ ProducesMatch settings checkpoint window)

/-- No row of the window satisfies a rule in the count's own terms. -/
def NothingCounted (settings : Settings) (env : RunEnv) (window : JournalWindow) : Prop :=
  ∀ row ∈ taggingRows env.journal settings.bucketName window.since window.upTo,
    rulePredicate settings.rules row = false

variable {settings : Settings} {env : RunEnv} {stored : Option Payload}
  {checkpoint : CheckpointState}
  {window : JournalWindow}

/-- A matched object comes from a row that the count includes. -/
theorem counted_of_producesMatch
    (reads : ReadsWindow settings env checkpoint.lastProcessedWatermark window)
    (produces : ProducesMatch settings checkpoint window) :
    preflightCount env.journal settings.bucketName settings.rules window.since window.upTo ≠ 0 := by
  have read : ∀ op ∈ (selectEligible settings window.ops checkpoint).dedupedOps,
      op ∈ (readJournal env.journal settings.bucketName window.since window.upTo).1 := by
    intro op member
    exact reads.ops ▸ (eligible_mem_ops (mem_dedupedOps.mp member).1).1
  obtain ⟨op, member, matching⟩ := (hasAccumulatedEntries_matchAndAccumulate
    fun op member => readJournal_sourceBucket (read op member)).mp produces
  obtain ⟨row, journaled, tagging, range, accepted⟩ := mem_readJournal.mp (read op member)
  intro zero
  have uncounted := preflightCount_eq_zero_iff.mp zero row
    (mem_taggingRows.mpr ⟨journaled, tagging, range⟩)
  rw [rulePredicate_of_matches tagging accepted matching] at uncounted
  cases uncounted

/-- The persisted scan count agrees with what the run found exactly when
nothing was eligible at all, something eligible matched, or no row of the whole
window satisfies a rule. -/
theorem scanAgrees_iff (records : RecordsScan settings env stored checkpoint window) :
    ScanAgrees settings (runBucket settings env stored) checkpoint window ↔
      (selectEligibleOperations window.ops checkpoint settings.lookback).eligible = [] ∨
        ProducesMatch settings checkpoint window ∨ NothingCounted settings env window := by
  obtain ⟨prep, prepares, ready, reads, ran⟩ := window_shape records.read records.worked
  obtain ⟨count, found⟩ := Option.isSome_iff_exists.mp records.scanned
  have landed : lastScanMatchCount settings.bucketName (runBucket settings env stored).stored =
      some count := by
    rw [ran] at found ⊢
    exact runSelected_landed records.tracking records.landed found
  rw [ran] at found
  have agrees : ScanAgrees settings (runBucket settings env stored) checkpoint window ↔
      (count = 0 ↔ ¬ ProducesMatch settings checkpoint window) := by
    simp only [ScanAgrees, landed, Option.some.injEq, exists_eq_left']
  have candidate := (maxWatermark_eq_none_iff
    (selectEligibleOperations window.ops checkpoint settings.lookback).eligible).symm
  rw [← selectEligible_candidate] at candidate
  rw [agrees, candidate]
  rcases runSelected_scan dedupedOps_of_no_candidate found with ⟨idle, zero⟩ | ⟨busy, counted⟩
  · have unmatched : ¬ ProducesMatch settings checkpoint window := by
      rw [ProducesMatch, dedupedOps_of_no_candidate idle]
      exact nofun
    exact ⟨fun _ => .inl idle, fun _ => ⟨fun _ => unmatched, fun _ => zero⟩⟩
  · have nothing : count = 0 ↔ NothingCounted settings env window := by
      rw [counted, preflightCount_eq_zero_iff, NothingCounted]
    have some : ProducesMatch settings checkpoint window → count ≠ 0 := fun produces =>
      counted ▸ counted_of_producesMatch reads produces
    constructor
    · intro iff
      by_cases produces : ProducesMatch settings checkpoint window
      · exact .inr (.inl produces)
      · exact .inr (.inr (nothing.mp (iff.mpr produces)))
    · rintro (idle | produces | empty)
      · exact absurd idle busy
      · exact ⟨fun zero => absurd zero (some produces), fun none => absurd produces none⟩
      · exact ⟨fun zero produces => some produces zero, fun _ => nothing.mpr empty⟩

end Agreement

section Sample
open Settings Watermark

def tracked : Settings := { photos with completionTracking := true }

/-- A first run submits the only matching row; a second finds a row that no
rule matches, with the first still in its lookback tail. -/
def matchingRun : RunEnv :=
  .smooth 12 [photosRow "ant" "yes" 11] (fun _ => none) (.created "job-1")

def unmatchedRun : RunEnv :=
  .smooth 20 [photosRow "ant" "yes" 11, photosRow "bee" "no" 13] (fun _ => some (.plain "Complete"))
    (.created "job-2")

def antSubmitted : Past × Option Payload :=
  replay tracked [matchingRun] .initial (some (seedCheckpoint "photos" 10))

def scanWindow (env : RunEnv) (since : Instant) (upTo : Option Watermark) : JournalWindow :=
  let read := readJournal env.journal "photos" (toWatermark since) upTo
  ⟨read.1, read.2, toWatermark since, upTo, false⟩

theorem scanAgrees_matching_run :
    ScanAgrees tracked (runBucket tracked matchingRun (some (seedCheckpoint "photos" 10)))
      (seedCheckpoint "photos" 10).checkpoint (scanWindow matchingRun 5 none) := by
  have records : RecordsScan tracked matchingRun (some (seedCheckpoint "photos" 10))
      (seedCheckpoint "photos" 10).checkpoint (scanWindow matchingRun 5 none) :=
    ⟨rfl, nofun, by decide +kernel, by decide +kernel, by decide +kernel⟩
  exact (scanAgrees_iff records).mpr (.inr (.inl (by unfold ProducesMatch; decide +kernel)))

/-- The row submitted earlier keeps the count positive in a run that matches
nothing new. -/
theorem scan_count_disagrees :
    ¬ ∀ settings past stored env checkpoint window, Reachable settings FreshJob past stored →
      RecordsScan settings env stored checkpoint window →
      ScanAgrees settings (runBucket settings env stored) checkpoint window := by
  intro agrees
  have path : Reachable tracked FreshJob antSubmitted.1 antSubmitted.2 :=
    reachable_replay tracked [matchingRun] (.seeded 10) (by decide +kernel)
  have records : RecordsScan tracked unmatchedRun antSubmitted.2
      (payloadOrDefault "photos" antSubmitted.2).checkpoint
      (scanWindow unmatchedRun 6 (some (toWatermark 13))) :=
    ⟨rfl, nofun, by decide +kernel, by decide +kernel, by decide +kernel⟩
  obtain ⟨count, persisted, zero⟩ := agrees tracked _ _ unmatchedRun _ _ path records
  have positive : lastScanMatchCount "photos"
      (runBucket tracked unmatchedRun antSubmitted.2).stored =
      some 1 := by decide +kernel
  have unmatched : hasAccumulatedEntries (matchAndAccumulate (selectEligible tracked
      (scanWindow unmatchedRun 6 (some (toWatermark 13))).ops
      (payloadOrDefault "photos" antSubmitted.2).checkpoint).dedupedOps tracked.rules)
        "photos" = false := by
    decide +kernel
  cases positive.symm.trans persisted
  have found := mt zero.mpr Nat.one_ne_zero
  exact found fun produces => Bool.false_ne_true (unmatched.symm.trans produces)

end Sample
end ReplicateOnTag.Orchestrator

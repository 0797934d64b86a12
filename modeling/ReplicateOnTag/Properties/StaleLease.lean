import ReplicateOnTag.Orchestrator.History

/-! What the lease of a run that died leaves to the next run. -/
namespace ReplicateOnTag.Orchestrator
open StateStore Watermark CheckpointLogic JournalDedup

/-- The run dies between a successful acquire and a successful release, with no
job submitted. -/
structure DiesLeased (settings : Settings) (env : RunEnv) (stored : Option Payload)
    (candidateHwm : Watermark) : Prop where
  selected : ∃ selected, (runBucket settings env stored).selected = some selected ∧
    selected.candidateHwm = some candidateHwm
  acquired : env.writes .acquire = .served
  unreleased : env.writes .release = .refused
  unsubmitted : (runBucket settings env stored).submission = none

/-- The run found the operation eligible in its window. -/
def EligibleIn (settings : Settings) (env : RunEnv) (stored : Option Payload)
    (op : TaggingOperation) :
    Prop :=
  ∃ window checkpoint, (runBucket settings env stored).window = some window ∧
    (runBucket settings env stored).checkpoint = some checkpoint ∧
    op ∈ (selectEligibleOperations window.ops checkpoint settings.lookback).eligible

def InJournal (settings : Settings) (journal : Journal) (op : TaggingOperation) : Prop :=
  op ∈ (AthenaJournal.readJournal journal settings.bucketName epoch none).1

instance : Decidable (InJournal settings journal op) :=
  inferInstanceAs (Decidable
    (op ∈ (AthenaJournal.readJournal journal settings.bucketName epoch none).1))

/-- Operations the dead run found eligible that the next run's journal still holds. -/
def LeftOver (settings : Settings) (env next : RunEnv) (stored : Option Payload)
    (op : TaggingOperation) : Prop :=
  EligibleIn settings env stored op ∧ InJournal settings next.journal op

section Lease
variable {settings : Settings} {env next : RunEnv} {stored : Option Payload}
  {checkpoint : CheckpointState}

theorem body_lease {after : Option Payload} (path : Evolves bucket IsBodyOp stored after) :
    (payloadOrDefault bucket stored).lease = (payloadOrDefault bucket after).lease := by
  have foreign : ∀ op, IsBodyOp op → PayloadKey.lease ∉ op.ownedKeys := by
    intro op body
    cases op <;> first | exact body.elim | simp [StateOp.ownedKeys]
  exact path.frame foreign

/-- The lease of a run that dies stays in the object. -/
theorem lease_left (dies : DiesLeased settings env stored candidateHwm) :
    (payloadOrDefault settings.bucketName (runBucket settings env stored).stored).lease =
      some (newLease env candidateHwm) := by
  obtain ⟨selected, chosen, candidate⟩ := dies.selected
  have absent := dies.unsubmitted
  have shape := runBucket_shape settings env stored
  generalize runBucket settings env stored = report at shape chosen absent ⊢
  cases shape with
  | skipped | breached | unread => cases chosen
  | @selected prep state window prepares ready reads =>
    cases chosen
    have readable := readable_evolves (prepares.evolves ready) (fun _ => isQuietOp_report)
      (readable_of_getCheckpoint prepares.found)
    simp only [runSelected, candidate] at absent ⊢
    obtain ⟨held, applied⟩ := acquireLease_applies readable (newLease env candidateHwm)
    have acquired := write_served applied dies.acquired
    simp only [acquired, Bool.not_true, Bool.false_eq_true, if_false] at absent ⊢
    obtain ⟨same, _, _⟩ := concludeRun_unsubmitted (fun _ => leasedManifestAndSubmit_record) absent
    have body := body_lease (leasedManifestAndSubmit_evolves settings env
      (selectEligible settings window.ops state) window prep.plan.consecutiveFailures
      state.lastProcessedWatermark
      (some (putCheckpoint { held with lease := some (newLease env candidateHwm) } prep.stored)))
    rw [same, write_refused dies.unreleased, ← body]
    rfl

/-- A rollback keeps the lease that was read. -/
theorem recovery_lease (recovery : Recovery prep checkpoint) : checkpoint.lease =
    prep.found.lease := by
  cases recovery <;> rfl

/-- What the next run makes of that lease. -/
theorem lease_read (dies : DiesLeased settings env stored candidateHwm)
    (worked : (runBucket settings next (runBucket settings env stored).stored).checkpoint =
      some checkpoint) :
    checkpoint.lease = deserializeLease next.now (some (newLease env candidateHwm)) := by
  obtain ⟨prep, prepared, ready⟩ := Option.bind_eq_some_iff.mp worked
  have prepares := prepares_of_preparation prepared
  rw [recovery_lease (prepares.ready checkpoint ready).1]
  have left := lease_left dies
  have found := prepares.found
  cases object : (runBucket settings env stored).stored with
  | none =>
    rw [object] at left
    cases left
  | some payload =>
    rw [object] at left found
    rw [(deserialize_eq_some (getCheckpoint_some found).1).2.2.2.2]
    exact congrArg (deserializeLease next.now) left

theorem le_candidate (dies : DiesLeased settings env stored candidateHwm)
    (eligible : EligibleIn settings env stored op) : op.watermark ≤ candidateHwm := by
  obtain ⟨selected, chosen, candidate⟩ := dies.selected
  obtain ⟨window, checkpoint, read, worked, member⟩ := eligible
  obtain ⟨prep, _, _, _, ran⟩ := window_shape read worked
  rw [ran, Option.some.injEq] at chosen
  rw [← chosen] at candidate
  exact le_maxWatermark (selectEligible_candidate ▸ candidate) member

/-- Without its lease the checkpoint is the one a released run would leave. -/
def unleased (state : CheckpointState) : CheckpointState := { state with lease := none }

/-- The stale lease holds back every operation the dead run found eligible,
unless its candidate reads as implausible. -/
theorem eligible_after_death_iff (dies : DiesLeased settings env stored candidateHwm)
    (worked : (runBucket settings next (runBucket settings env stored).stored).checkpoint =
      some checkpoint) (eligible : EligibleIn settings env stored op) :
    isEligible op checkpoint settings.lookback ↔
      isPlausible candidateHwm next.now = false ∧
        isEligible op (unleased checkpoint) settings.lookback := by
  have below := le_candidate dies eligible
  rw [isEligible_iff, isEligible_iff op (unleased checkpoint), lease_read dies worked]
  cases trusted : isPlausible candidateHwm next.now with
  | false =>
    have dropped : deserializeLease next.now (some (newLease env candidateHwm)) = none := by
      simp [deserializeLease, newLease, trusted]
    simp [dropped, unleased, processedIds]
  | true =>
    have kept : deserializeLease next.now (some (newLease env candidateHwm)) =
        some (newLease env candidateHwm) := by simp [deserializeLease, newLease, trusted]
    have held : leaseHolds (some (newLease env candidateHwm)) op.watermark = true := by
      simp [leaseHolds, newLease, below]
    simp [kept, held]

end Lease

section Sample
open Settings

/-- A run that dies right after it acquired its lease. -/
def dyingRun (row : JournalRow) : RunEnv :=
  { RunEnv.smooth 20 [row] (fun _ => none) (.rejected .timeout) with
    writes := fun site => if site = .acquire then .served else .refused }

def restart (row : JournalRow) : RunEnv := .smooth 30 [row] (fun _ => none) (.created "job-1")

def seeded : Option Payload := some (seedCheckpoint "photos" 10)

def left (row : JournalRow) : Option Payload := (runBucket photos (dyingRun row) seeded).stored

def candidateOf (row : JournalRow) : Watermark := toWatermark row.recordTimestamp

def antRow : JournalRow := photosRow "ant" "yes" 11

/-- A row dated more than a day ahead of both runs. -/
def aheadRow : JournalRow := photosRow "ant" "yes" (maxFutureSkew + 40)

def checkpointAfter (row : JournalRow) : CheckpointState :=
  ⟨"photos", toWatermark 10,
    deserializeLease 30 (some (newLease (dyingRun row) (candidateOf row))), []⟩

def windowOf (op : TaggingOperation) : JournalWindow := ⟨[op], [], toWatermark 5, none, false⟩

def seededCheckpoint : CheckpointState := ⟨"photos", toWatermark 10, none, []⟩

theorem dies_ant : DiesLeased photos (dyingRun antRow) seeded (candidateOf antRow) :=
  ⟨⟨_, rfl, by decide +kernel⟩, rfl, rfl, by decide +kernel⟩

theorem dies_ahead : DiesLeased photos (dyingRun aheadRow) seeded (candidateOf aheadRow) :=
  ⟨⟨_, rfl, by decide +kernel⟩, rfl, rfl, by decide +kernel⟩

end Sample
end ReplicateOnTag.Orchestrator

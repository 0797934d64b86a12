import ReplicateOnTag.Orchestrator.PersistedWindow
import ReplicateOnTag.Orchestrator.RunPuts

/-! A run as a contender for the state object: where it stands with its lease,
what it may write there, and the refs it offers to its release. -/
namespace ReplicateOnTag.Orchestrator
open StateStore HeldToken Contention ManifestGenerator

/-- A stranded lease was acquired by a put that was not answered. -/
inductive RunPhase where
  | idle
  | leased
  | stranded
  | released (submittedRefs : Option (List ProcessedRef))
  deriving DecidableEq

namespace RunPhase

def next (phase : RunPhase) (op : StateOp) (fate : Fate) : RunPhase :=
  match phase, op, fate with
  | .idle, .acquireLease .., .answered => .leased
  | .idle, .acquireLease .., .unanswered => .stranded
  | .leased, .releaseLease _ refs _ _, .answered => .released refs
  | .leased, .releaseLease _ refs _ _, .unanswered => .released refs
  | phase, _, _ => phase

def Left : RunPhase → Prop
  | .released _ => True
  | _ => False

@[simp] theorem next_refused (phase : RunPhase)
    (op : StateOp) : phase.next op .refused = phase := by
  cases phase <;> cases op <;> rfl

theorem next_ne_idle (entered : phase ≠ idle) (op : StateOp) (fate : Fate) :
    phase.next op fate ≠ idle := by
  cases phase with
  | idle => exact absurd rfl entered
  | leased => cases op <;> cases fate <;> simp [next]
  | stranded => simp [next]
  | released refs => simp [next]

/-- The lease section: entered when an acquire lands, left when a release does. -/
def phases : Phases StateOp RunPhase where
  start := .idle
  next := next
  entered phase := phase ≠ .idle
  left := Left
  outside := by simp
  entered_next entered := next_ne_idle entered _ _
  left_next {phase op fate} left := by
    cases phase with
    | released refs => exact left
    | idle | leased | stranded => exact left.elim
  entered_refused entered := by rwa [next_refused] at entered
  left_refused left := by rwa [next_refused] at left

end RunPhase

section Offers
variable (settings : Settings) (env : RunEnv) (held : Option Payload)

/-- What a run works on that takes its token on this content and rolls nothing back. -/
structure Chosen where
  checkpoint : CheckpointState
  window : JournalWindow
  selected : Selected

def chosen? : Option Chosen :=
  (getCheckpoint env.now settings.bucketName held).bind fun checkpoint =>
    (readJournalWindow settings env checkpoint.lastProcessedWatermark none).1.map fun window =>
      ⟨checkpoint, window, selectEligible settings window.ops checkpoint⟩

def candidate? : Option Watermark :=
  (chosen? settings env held).bind fun chosen => chosen.selected.candidateHwm

def Chosen.refs (chosen : Chosen) : List ProcessedRef :=
  match keptEntries settings env (matchAndAccumulate chosen.selected.dedupedOps settings.rules)
      chosen.window.since with
  | none => []
  | some kept => JournalDedup.buildSubmittedRefs chosen.selected.dedupedOps
      (kept.map ManifestEntry.triple)

/-- The refs of the job that the run creates, if it creates one. -/
def offeredRefs : List ProcessedRef :=
  match chosen? settings env held with
  | none => []
  | some chosen => chosen.refs settings env

/-- What a run may put in each phase. -/
def MayWrite (phase : RunPhase) : StateOp → Prop
  | .putCheckpoint _ => False
  | .acquireLease now lease =>
      phase = .idle ∧ now = env.now ∧
        ∃ candidate, candidate? settings env held = some candidate ∧ lease = newLease env candidate
  | .releaseLease now refs lookback candidate =>
      phase = .leased ∧ now = env.now ∧ lookback = settings.lookback ∧
        candidate = candidate? settings env held ∧
          (refs = none ∨ refs = some (offeredRefs settings env held))
  | _ => True

end Offers

section Obeying
variable {settings : Settings} {env : RunEnv} {held : Option Payload} {phase : RunPhase}

theorem mayWrite_spares {op : StateOp}
    (spares : SparesLease op) : MayWrite settings env held phase op := by
  cases op <;> first | exact spares.elim | trivial

theorem next_spares {op : StateOp} (spares : SparesLease op) (fate : Fate) :
    RunPhase.phases.next phase op fate = phase := by
  cases phase <;> cases op <;> first | exact spares.elim | rfl

/-- A part of a run that spares the lease leaves the rest in the phase it found. -/
theorem obeys_bind {client : RunClient β} {next : β → RunClient γ} {middle : β → Prop}
    {post : RunPhase → γ → Prop} (first : Puts SparesLease middle client)
    (rest : ∀ result, middle result →
      Obeys RunPhase.phases (MayWrite settings env held) post phase (next result)) :
    Obeys RunPhase.phases (MayWrite settings env held) post phase (client.bind next) := by
  refine Obeys.bind ((first.obeys (fun _ => mayWrite_spares) fun _ fate spares =>
    next_spares spares fate).mono ?_)
  rintro last result ⟨rfl, reached⟩
  exact rest result reached

/-- No job the run can describe has failed, so it has nothing to roll back. -/
def Unfailing (settings : Settings) (env : RunEnv) : Prop :=
  ∀ rec outcome, scoredOutcome settings env rec = some outcome →
    JobRecovery.isEffectiveFailure outcome = false

theorem note_unfailed (unfailing : Unfailing settings env) (passed : check.anyCheckFailed = false) :
    (JobCheck.note settings env check rec).anyCheckFailed = false := by
  simp only [JobCheck.anyCheckFailed, JobCheck.note, List.any_append, Bool.or_eq_false_iff]
  refine ⟨passed, ?_⟩
  cases scored : scoredOutcome settings env rec with
  | none => rfl
  | some outcome => simp [unfailing rec outcome scored]

theorem describePriorJobs_spares (unfailing : Unfailing settings env)
    (prior : List SubmissionRecord)
    (passed : check.anyCheckFailed = false) :
    Puts SparesLease (fun after => after.anyCheckFailed = false)
      (RunClient.describePriorJobs settings env prior check) := by
  induction prior generalizing check with
  | nil => exact passed
  | cons rec rest ih =>
    rw [RunClient.describePriorJobs]
    split
    · exact ih passed
    · exact (settleReport_puts rec).bind fun _ _ => ih (note_unfailed unfailing passed)

theorem prepareStateAndRecovery_spares (unfailing : Unfailing settings env)
    (state : CheckpointState) :
    Puts SparesLease (fun prep => prep.checkpoint = some state)
      (RunClient.prepareStateAndRecovery settings env state) := by
  refine priorSubmissions_puts.bind ?_
  intro prior _
  refine (describePriorJobs_spares unfailing prior rfl).bind ?_
  intro check passed
  simp only [passed, Bool.false_eq_true, if_false]
  exact rfl

theorem concludeRun_spares (check : JobCheck)
    (outcome : Option SubmissionOutcome) (released : Bool) :
    Puts SparesLease (fun _ => True)
      (RunClient.concludeRun settings env check outcome released) := by
  cases outcome with
  | none => trivial
  | some outcome =>
    have scored : Puts SparesLease (fun _ => True)
        (if outcome.succeeded then RunClient.commitRecoveryScored env check.newlyScoredJobIds
          else return () : RunClient Unit) := by
      split
      · exact (commitRecoveryScored_puts _).mono fun _ => sparesLease_of_plain
      · trivial
    have persists : Puts SparesLease (fun _ => True)
        (RunClient.persistSubmission settings env outcome.lastSubmission check.terminalJobIds) := by
      cases outcome.lastSubmission with
      | none => trivial
      | some submission => exact writeBestEffort_puts _ trivial
    cases released with
    | false => exact scored
    | true => exact persists.bind fun _ _ => scored

/-- A run that has chosen its operations acquires the lease for them and
releases it with their refs or with none. -/
theorem runSelected_obeys (prep : RunClient.Prepared)
    (chose : chosen? settings env held = some ⟨checkpoint, window, selected⟩) :
    Obeys RunPhase.phases (MayWrite settings env held) (fun _ _ => True) RunPhase.idle
      (RunClient.runSelected settings env prep checkpoint window selected) := by
  have candidate : candidate? settings env held = selected.candidateHwm := by
    rw [candidate?, chose, Option.bind_some]
  have body : Puts SparesLease (Hands settings env selected window)
      (RunClient.leasedManifestAndSubmit settings env selected window prep.plan.consecutiveFailures
        checkpoint.lastProcessedWatermark) :=
    (leasedManifestAndSubmit_puts _ _ _ _).mono fun _ => sparesLease_of_plain
  have concludes : ∀ phase outcome released,
      Obeys RunPhase.phases (MayWrite settings env held) (fun _ _ => True) phase
      (RunClient.concludeRun settings env prep.check outcome released) :=
        fun phase outcome released =>
    ((concludeRun_spares prep.check outcome released).obeys (fun _ => mayWrite_spares)
      fun _ fate spares => next_spares spares fate).mono fun _ _ _ => trivial
  simp only [RunClient.runSelected]
  cases found : selected.candidateHwm with
  | none => exact obeys_bind body fun leased _ => concludes _ _ _
  | some candidateHwm =>
    refine Obeys.bind ⟨⟨rfl, rfl, candidateHwm, candidate.trans found, rfl⟩, ?_⟩
    intro stored
    refine ⟨trivial, fun _ => ?_, fun _ => trivial⟩
    refine obeys_bind body ?_
    intro leased hands
    have offered : leased.submittedRefs = none ∨
        leased.submittedRefs = some (offeredRefs settings env held) := by
      refine hands.refs.imp_right ?_
      rintro ⟨kept, filtered, refs⟩
      simp only [offeredRefs, chose, Chosen.refs, filtered, refs]
    refine Obeys.bind ⟨⟨rfl, rfl, rfl, (candidate.trans found).symm, offered⟩, ?_⟩
    exact fun stored => ⟨concludes _ _ _, fun _ => concludes _ _ _, fun _ => concludes _ _ _⟩

/-- A run keeps to its protocol, whoever else writes and whatever it reads. -/
theorem runBucket_obeys (unfailing : Unfailing settings env) :
    OpeningObeys RunPhase.phases (MayWrite settings env) (RunClient.runBucket settings env) := by
  rw [RunClient.runBucket]
  split
  · trivial
  · intro stored
    dsimp only
    split
    · trivial
    · intro held
      dsimp only
      cases found : getCheckpoint env.now settings.bucketName held with
      | none => trivial
      | some state =>
        refine obeys_bind (prepareStateAndRecovery_spares unfailing state) ?_
        intro prep ready
        simp only [ready]
        split
        · trivial
        · refine obeys_bind ((readJournalWindow_puts _).mono fun _ => sparesLease_of_plain) ?_
          intro read window
          cases read with
          | none => trivial
          | some read =>
            refine runSelected_obeys prep ?_
            rw [chosen?, found, Option.bind_some, window read rfl, Option.map_some]

end Obeying

section Reports
variable {settings : Settings} {env : RunEnv} {stored : Option Payload}

end Reports
end ReplicateOnTag.Orchestrator

import ReplicateOnTag.Orchestrator.Submission

/-! One run of one bucket, from the disable check to the commit of the scored
flags, as a function of the state object and the replies it meets. -/
namespace ReplicateOnTag.Orchestrator
open StateStore

/-- A job the run created, with the refs its release reports. -/
structure Submission where
  record : SubmissionRecord
  refs : List ProcessedRef
  deriving DecidableEq

/-- How far a run came and the object it leaves behind. -/
structure RunReport where
  preparation : Option Preparation
  window : Option JournalWindow
  selected : Option Selected
  scan : Option Nat
  submission : Option Submission
  /-- Jobs whose `recovery_scored` flag the run went on to commit. -/
  committed : List String
  stored : Option Payload

namespace RunReport

def skipped (stored : Option Payload) : RunReport := ⟨none, none, none, none, none, [], stored⟩

/-- The outcomes the run scored. -/
def outcomes (report : RunReport) : List JobRecovery.JobOutcome :=
  (report.preparation.map fun prep => prep.check.outcomes).getD []

/-- The checkpoint the run worked on. -/
def checkpoint (report : RunReport) : Option CheckpointState :=
  report.preparation.bind Preparation.checkpoint

/-- Where the run rolled its watermark back to. -/
def rolledBackTo (report : RunReport) : Option Watermark :=
  report.preparation.bind fun prep =>
    if prep.check.anyCheckFailed && prep.checkpoint.isSome then prep.plan.rollbackTo else none

/-- `outstanding_jobs`: unknown when the run returned before its describe loop
did; a job the run submitted counts as outstanding too. -/
def outstandingJobs (report : RunReport) : Option Nat :=
  report.preparation.bind fun prep =>
    prep.checkpoint.map fun _ => prep.check.outstanding.length + report.submission.toList.length

/-- The terminal-job breaker tripped. -/
def tripped (report : RunReport) : Bool :=
  report.preparation.any fun prep => prep.checkpoint.isNone

end RunReport

structure LeasedRun where
  scan : Option Nat
  submission : Option Submission
  committed : List String
  stored : Option Payload

/-- What follows the lease scope: the record is persisted only past a clean
release, the scored flags are committed past any submission. -/
def concludeRun (settings : Settings) (env : RunEnv) (check : JobCheck) (body : LeaseBody)
    (released : Write) : LeasedRun :=
  match body.outcome with
  | none => ⟨body.scan, none, [], released.stored⟩
  | some outcome =>
      let persisted :=
        if released.ok then
          persistSubmission settings env outcome.lastSubmission check.terminalJobIds released.stored
        else released.stored
      if outcome.succeeded then
        ⟨body.scan,
          outcome.lastSubmission.map fun record => ⟨record, body.submittedRefs.getD []⟩,
          check.newlyScoredJobIds,
          commitRecoveryScored settings env check.newlyScoredJobIds persisted⟩
      else ⟨body.scan, none, [], persisted⟩

def newLease (env : RunEnv) (candidateHwm : Watermark) : Lease :=
  ⟨env.leaseId, candidateHwm, env.now, .inFlight⟩

/-- The lease scope around the body; without a candidate there is no lease. -/
def runSelected (settings : Settings) (env : RunEnv) (prep : Preparation)
    (checkpoint : CheckpointState)
    (window : JournalWindow) (selected : Selected) (stored : Option Payload) : LeasedRun :=
  let body := leasedManifestAndSubmit settings env selected window prep.plan.consecutiveFailures
    checkpoint.lastProcessedWatermark
  match selected.candidateHwm with
  | none => concludeRun settings env prep.check (body stored) ⟨(body stored).stored, false⟩
  | some candidateHwm =>
      let acquired :=
        write settings env .acquire (.acquireLease env.now (newLease env candidateHwm)) stored
      if !acquired.ok then ⟨none, none, [], acquired.stored⟩
      else
        let leased := body acquired.stored
        concludeRun settings env prep.check leased
          (write settings env .release
            (.releaseLease env.now leased.submittedRefs settings.lookback (some candidateHwm))
            leased.stored)

/-- `_process_bucket`. -/
def processBucket (settings : Settings) (env : RunEnv) (stored : Option Payload) : RunReport :=
  if !env.starts then .skipped stored
  else
    match prepareStateAndRecovery settings env stored with
    | none => .skipped stored
    | some prep =>
        match prep.checkpoint with
        | none => ⟨some prep, none, none, none, none, prep.check.newlyScoredJobIds, prep.stored⟩
        | some checkpoint =>
            if settings.maxConcurrentJobs ≤ prep.check.outstanding.length then
              ⟨some prep, none, none, none, none, [], prep.stored⟩
            else
              match readJournalWindow settings env
                checkpoint.lastProcessedWatermark prep.stored with
              | (none, after) => ⟨some prep, none, none, none, none, [], after⟩
              | (some window, after) =>
                  let selected := selectEligible settings window.ops checkpoint
                  let run := runSelected settings env prep checkpoint window selected after
                  ⟨some prep, some window, some selected, run.scan, run.submission, run.committed,
                    run.stored⟩

/-- A bucket that is disabled, or whose flag cannot be read, costs nothing. -/
def runBucket (settings : Settings) (env : RunEnv) (stored : Option Payload) : RunReport :=
  if !env.reads .disableState || (getDisableState stored).disabled then .skipped stored
  else processBucket settings env stored

end ReplicateOnTag.Orchestrator

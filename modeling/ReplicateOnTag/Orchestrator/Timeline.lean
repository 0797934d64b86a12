import ReplicateOnTag.Orchestrator.History
import ReplicateOnTag.Orchestrator.PublishPhase

/-! Everything that happens to one state object, in order: runs of the bucket,
publish phases, and alerts of the report checker. -/
namespace ReplicateOnTag.Orchestrator
open StateStore

inductive Event where
  | run (env : RunEnv)
  | publish (env : PublishEnv)
  | alerted (jobId : String)

def Event.after (settings : Settings) (stored : Option Payload) : Event → Option Payload
  | run env => (runBucket settings env stored).stored
  | publish env => (publishPhase settings env stored).stored
  | alerted jobId => some (addAlertedConfig settings.bucketName jobId stored)

/-- An event and the object it found. -/
structure Moment where
  event : Event
  found : Option Payload

/-- A run and the object it found. -/
structure Ran where
  env : RunEnv
  found : Option Payload

namespace Ran

def report (settings : Settings) (ran : Ran) : RunReport := runBucket settings ran.env ran.found

end Ran

def Moment.ran (moment : Moment) : Option Ran :=
  match moment.event with
  | .run env => some ⟨env, moment.found⟩
  | _ => none

/-- The runs among the moments, in order. -/
def runs (past : List Moment) : List Ran := past.filterMap Moment.ran

/-- The jobs submitted so far, in order. -/
def submittedJobs (settings : Settings) (past : List Moment) : List String :=
  (runs past).filterMap fun ran => (ran.report settings).submission.map fun submission =>
    submission.record.jobId

/-- Events from an `initial` object on, each of them `allowed` where it happens. -/
inductive Timeline (settings : Settings) (initial : Option Payload → Prop)
    (allowed : List Moment → Event → Option Payload → Prop) : List Moment →
      Option Payload → Prop where
  | start (begins : initial stored) : Timeline settings initial allowed [] stored
  | next (path : Timeline settings initial allowed past stored)
      (permitted : allowed past event stored) :
      Timeline settings initial allowed (past ++ [⟨event, stored⟩]) (event.after settings stored)

/-- A bucket that no run has seen: no object, or a seeded checkpoint. -/
def Deployed (settings : Settings) (stored : Option Payload) : Prop :=
  stored = none ∨ ∃ now, stored = some (seedCheckpoint settings.bucketName now)

theorem itemsOf_deployed (deployed : Deployed settings stored) :
    itemsOf settings.bucketName stored = .empty := by
  rcases deployed with rfl | ⟨now, rfl⟩
  · rfl
  · rfl

theorem Timeline.mono (path : Timeline settings initial allowed past stored)
    (imp : ∀ past event stored, allowed past event stored → weaker past event stored) :
    Timeline settings initial weaker past stored := by
  induction path with
  | start begins => exact .start begins
  | next _ permitted ih => exact .next ih (imp _ _ _ permitted)

section Runs

@[simp] theorem runs_nil : runs [] = [] := rfl

@[simp] theorem runs_run (past : List Moment) (env : RunEnv) (stored : Option Payload) :
    runs (past ++ [⟨.run env, stored⟩]) = runs past ++ [⟨env, stored⟩] := by
  simp [runs, Moment.ran]

@[simp] theorem runs_publish (past : List Moment) (env : PublishEnv) (stored : Option Payload) :
    runs (past ++ [⟨.publish env, stored⟩]) = runs past := by
  simp [runs, Moment.ran]

@[simp] theorem runs_alerted (past : List Moment) (jobId : String) (stored : Option Payload) :
    runs (past ++ [⟨.alerted jobId, stored⟩]) = runs past := by
  simp [runs, Moment.ran]

end Runs

section Jobs
variable {settings : Settings} {past : List Moment} {stored : Option Payload} {env : RunEnv}

theorem submittedJobs_unsubmitted (absent : (runBucket settings env stored).submission = none) :
    submittedJobs settings (past ++ [⟨.run env, stored⟩]) = submittedJobs settings past := by
  simp [submittedJobs, Ran.report, absent]

theorem submittedJobs_submitted
    (submitted : (runBucket settings env stored).submission = some submission) :
    submittedJobs settings (past ++ [⟨.run env, stored⟩]) =
      submittedJobs settings past ++ [submission.record.jobId] := by
  simp [submittedJobs, Ran.report, submitted]

theorem submittedJobs_of_runs (same : runs later = runs past) :
    submittedJobs settings later = submittedJobs settings past := by
  rw [submittedJobs, same, submittedJobs]

/-- Each job the bucket holds a record of was submitted by a run. -/
def Known (settings : Settings) (past : List Moment) (stored : Option Payload) : Prop :=
  ∀ jobId, (recordFor settings.bucketName stored jobId).isSome → jobId ∈ submittedJobs settings past

theorem known_after_run (known : Known settings past stored)
    (named : ∀ jobId, env.createJob = .created jobId → jobId ≠ "") :
    Known settings (past ++ [⟨.run env, stored⟩]) (runBucket settings env stored).stored := by
  intro jobId present
  obtain ⟨record, found⟩ := Option.isSome_iff_exists.mp present
  obtain ⟨_, _, _, origin⟩ := runBucket_record named found
  cases submitted : (runBucket settings env stored).submission with
  | none =>
    rw [submittedJobs_unsubmitted submitted]
    rcases origin with ⟨submission, other, _⟩ | ⟨old, before, _⟩
    · cases submitted.symm.trans other
    · exact known jobId (Option.isSome_of_eq_some before)
  | some submission =>
    rw [submittedJobs_submitted submitted, List.mem_append, List.mem_singleton]
    rcases origin with ⟨other, same, rfl, _⟩ | ⟨old, before, _⟩
    · rw [submitted] at same
      exact .inr (congrArg (·.record.jobId) (Option.some.inj same).symm)
    · exact .inl (known jobId (Option.isSome_of_eq_some before))

theorem known_after_frame (known : Known settings past stored)
    (same : (payloadOrDefault settings.bucketName stored).Agrees
      (payloadOrDefault settings.bucketName after) .submissionRecords)
    (unmoved : runs later = runs past) :
    Known settings later after := by
  intro jobId present
  rw [submittedJobs_of_runs unmoved]
  exact known jobId (recordFor_of_agrees same ▸ present)

theorem known_deployed (deployed : Deployed settings stored) : Known settings [] stored := by
  intro jobId present
  rcases deployed with rfl | ⟨now, rfl⟩ <;> cases present

end Jobs

section Frames
variable {settings : Settings} {stored : Option Payload}

/-- What the publish phase and the checker write besides items and enrichment. -/
theorem publish_frame (env : PublishEnv) (key : PayloadKey)
    (foreign : ∀ keys, key ∉ (StateOp.deleteCompletionItems keys).ownedKeys) :
    (payloadOrDefault settings.bucketName stored).Agrees
      (payloadOrDefault settings.bucketName (publishPhase settings env stored).stored) key := by
  refine (publishPhase_evolves settings env stored).frame ?_
  rintro op rfl
  exact foreign _

theorem alerted_frame (jobId : String) (key : PayloadKey)
    (foreign : key ∉ (StateOp.addAlertedConfig jobId).ownedKeys) :
    (payloadOrDefault settings.bucketName stored).Agrees
      (payloadOrDefault settings.bucketName
        (some (addAlertedConfig settings.bucketName jobId stored)))
      key := by
  have applied : (StateOp.addAlertedConfig jobId).apply settings.bucketName stored =
      some (addAlertedConfig settings.bucketName jobId stored) := rfl
  exact StateOp.frame applied foreign

end Frames

section Replay
variable (settings : Settings)

/-- Events in order, each on the object the one before it left. -/
def happen : List Event → List Moment → Option Payload → List Moment × Option Payload
  | [], past, stored => (past, stored)
  | event :: rest, past, stored =>
      happen rest (past ++ [⟨event, stored⟩]) (event.after settings stored)

def Allows (allowed : List Moment → Event → Option Payload → Prop) :
    List Event → List Moment → Option Payload → Prop
  | [], _, _ => True
  | event :: rest, past, stored =>
      allowed past event stored ∧
        Allows allowed rest (past ++ [⟨event, stored⟩]) (event.after settings stored)

theorem timeline_happen (events : List Event) (path : Timeline settings initial allowed past stored)
    (permitted : Allows settings allowed events past stored) :
    Timeline settings initial allowed (happen settings events past stored).1
      (happen settings events past stored).2 := by
  induction events generalizing past stored with
  | nil => exact path
  | cons event rest ih => exact ih (.next path permitted.1) permitted.2

end Replay
end ReplicateOnTag.Orchestrator

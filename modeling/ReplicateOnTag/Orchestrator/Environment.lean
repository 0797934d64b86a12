import ReplicateOnTag.Adapters.StateOp
import ReplicateOnTag.Adapters.Journal
import ReplicateOnTag.Core.RowBudget

/-! What one run of a bucket meets: its settings, the replies of the services
it calls, and its writes to the state object. A crash is a run whose later
calls all fail. One instant stands for every clock reading of the run. -/
namespace ReplicateOnTag.Orchestrator
open StateStore

/-- Per-bucket configuration after the clamps of `run_interval`. -/
structure Settings where
  bucketName : String
  rules : List DerivedReplicationRule
  lookback : Lookback
  journalReadRowCap : Nat
  maxBatchJobFailures : Nat
  maxConcurrentJobs : Nat
  completionTracking : Bool
  alertsJournalUnavailable : Bool
  rowCapAccepted : RowBudget.minJournalReadRowCap ≤ journalReadRowCap
  failuresPositive : 0 < maxBatchJobFailures
  concurrencyPositive : 0 < maxConcurrentJobs

namespace Settings

/-- One rule on one tag, the smallest row cap, and a breaker that trips at once. -/
def photos : Settings :=
  { bucketName := "photos"
    rules := [⟨"photos", "photos", "archive", Dict.ofList [("keep", "yes")],
      "arn:aws:s3:::copies", none⟩]
    lookback := 5
    journalReadRowCap := 2
    maxBatchJobFailures := 1
    maxConcurrentJobs := 1
    completionTracking := false
    alertsJournalUnavailable := false
    rowCapAccepted := by decide
    failuresPositive := by decide
    concurrencyPositive := by decide }

/-- A tagging row of that bucket; the rule matches the value `yes`. -/
def photosRow (key keep : String) (instant : Instant) : JournalRow :=
  { bucket := "photos"
    key
    versionId := none
    recordType := .updateMetadata
    objectTags := some (Dict.ofList [("keep", keep)])
    sequenceNumber := "1"
    recordTimestamp := instant
    lastModifiedDate := none
    storageClass := none
    isDeleteMarker := none }

/-- The operation such a row is read as. -/
def photosOp (key keep : String) (instant : Instant) : TaggingOperation :=
  { sourceBucket := "photos"
    objectKey := key
    resultingTagSet := some (Dict.ofList [("keep", keep)])
    sequenceNumber := "1"
    eventTime := instant
    operationVersion := none
    lastModified := none
    storageClass := none }

end Settings

/-- What `DescribeJob` returns of a job. -/
structure JobDescription where
  status : String
  tasksSucceeded : Option Nat
  tasksFailed : Option Nat
  creationTime : Option Instant
  terminationDate : Option Instant
  deriving DecidableEq

/-- A description that counts no tasks. -/
def JobDescription.plain (status : String) : JobDescription := ⟨status, none, none, none, none⟩

/-- What becomes of a `CreateJob` call. -/
inductive CreateReply where
  | created (jobId : String)
  | rejected (failureClass : FailureClass)
  /-- The job was created, but the call failed on the way back. -/
  | lost (jobId : String) (failureClass : FailureClass)
  deriving DecidableEq

namespace CreateReply

/-- The job that the call created, whether or not its caller learns of it. -/
def jobId : CreateReply → Option String
  | .created jobId | .lost jobId _ => some jobId
  | .rejected _ => none

/-- The reply had it reached the caller. -/
def heard : CreateReply → CreateReply
  | .lost jobId _ => .created jobId
  | reply => reply

/-- No job was created behind the caller's back. -/
def IsHeard : CreateReply → Prop
  | .lost .. => False
  | _ => True

end CreateReply

inductive Query where
  | tailCount
  | tailFloor
  | boundary
  | journal
  | preflight
  | permanentDeletes
  deriving DecidableEq

inductive StoreRead where
  | disableState
  | checkpoint
  | submissionRecords
  | completionJob (jobId : String)
  | alertedConfigs (jobId : String)
  | journalAlert
  deriving DecidableEq

/-- The places of a run that write the state object. -/
inductive WriteSite where
  | merge (jobId : String)
  | clearAlerted (jobId : String)
  | diagnosed (jobId : String)
  | scored (jobId : String)
  | disable
  | journalAlert
  | acquire
  | release
  | timestamps
  | scan
  | clearStreak
  | incrementStreak
  | persist
  deriving DecidableEq

/-- A write that is lost has reached the object although its caller saw an error. -/
inductive WriteReply where
  | served
  | refused
  | lost
  deriving DecidableEq

structure RunEnv where
  now : Instant
  journal : Journal
  /-- Clients were created and the bucket has a tag-scoped rule. -/
  starts : Bool
  reads : StoreRead → Bool
  queries : Query → Bool
  describeJob : String → Option JobDescription
  completionReport : String → Option BopsCompletionReport
  manifestKey : Option String
  createJob : CreateReply
  journalUnavailable : Bool
  alertDelivered : Bool
  leaseId : String
  writes : WriteSite → WriteReply

namespace RunEnv

/-- Every read, query and write of the run succeeds. -/
structure Serves (env : RunEnv) : Prop where
  reads : ∀ read, env.reads read = true
  queries : ∀ query, env.queries query = true
  writes : ∀ site, env.writes site = .served

/-- A run without completion reports whose calls all succeed. -/
def smooth (now : Instant) (journal : Journal) (describeJob : String → Option JobDescription)
    (createJob : CreateReply) : RunEnv :=
  { now
    journal
    starts := true
    reads := fun _ => true
    queries := fun _ => true
    describeJob
    completionReport := fun _ => none
    manifestKey := some "manifests/run.csv"
    createJob
    journalUnavailable := false
    alertDelivered := true
    leaseId := "lease"
    writes := fun _ => .served }

theorem smooth_serves (now : Instant) (journal : Journal)
    (describeJob : String → Option JobDescription) (createJob : CreateReply) :
    (smooth now journal describeJob createJob).Serves :=
  ⟨fun _ => rfl, fun _ => rfl, fun _ => rfl⟩

end RunEnv

/-- The object after a write, and whether the caller saw it succeed. -/
structure Write where
  stored : Option Payload
  ok : Bool

def write (settings : Settings) (env : RunEnv) (site : WriteSite) (op : StateOp)
    (stored : Option Payload) : Write :=
  match op.apply settings.bucketName stored with
  | none => ⟨stored, false⟩
  | some after =>
      match env.writes site with
      | .served => ⟨some after, true⟩
      | .refused => ⟨stored, false⟩
      | .lost => ⟨some after, false⟩

/-- A write whose failure is logged and swallowed. -/
def writeBestEffort (settings : Settings) (env : RunEnv) (site : WriteSite) (op : StateOp)
    (stored : Option Payload) : Option Payload :=
  (write settings env site op stored).stored

/-- The object changes by operations that are all `allowed`. -/
inductive Evolves (bucket : String) (allowed : StateOp → Prop) : Option Payload →
    Option Payload → Prop where
  | refl (stored : Option Payload) : Evolves bucket allowed stored stored
  | next : Evolves bucket allowed first middle → allowed op → op.apply bucket middle = some last →
      Evolves bucket allowed first (some last)

namespace Evolves
variable {bucket : String} {allowed weaker : StateOp → Prop}

theorem trans (first : Evolves bucket allowed a b) (second : Evolves bucket allowed b c) :
    Evolves bucket allowed a c := by
  induction second with
  | refl => exact first
  | next _ member applied ih => exact .next ih member applied

theorem mono (path : Evolves bucket allowed a b) (imp : ∀ op, allowed op → weaker op) :
    Evolves bucket weaker a b := by
  induction path with
  | refl => exact .refl _
  | next _ member applied ih => exact .next ih (imp _ member) applied

/-- What every allowed operation preserves holds after all of them. -/
theorem preserves (invariant : Option Payload → Prop) (path : Evolves bucket allowed a b)
    (each : ∀ op stored after, allowed op → op.apply bucket stored = some after →
      invariant stored → invariant (some after)) (start : invariant a) : invariant b := by
  induction path with
  | refl => exact start
  | next _ member applied ih => exact each _ _ _ member applied ih

/-- A key that no allowed operation owns keeps its value. -/
theorem frame (path : Evolves bucket allowed a b)
    (foreign : ∀ op, allowed op → key ∉ op.ownedKeys) :
    (payloadOrDefault bucket a).Agrees (payloadOrDefault bucket b) key := by
  induction path with
  | refl => exact agrees_refl _ key
  | next _ member applied ih => exact agrees_trans ih (StateOp.frame applied (foreign _ member))

end Evolves

section Writes
variable {settings : Settings} {env : RunEnv} {site : WriteSite} {op : StateOp}
  {stored : Option Payload}

theorem write_evolves (member : allowed op) :
    Evolves settings.bucketName allowed stored (write settings env site op stored).stored := by
  rw [write]
  cases applied : op.apply settings.bucketName stored with
  | none => exact .refl _
  | some after =>
    cases env.writes site with
    | served | lost => exact .next (.refl _) member applied
    | refused => exact .refl _

/-- A key that the operation does not own keeps its value, however the write ends. -/
theorem write_frame (settings : Settings) (env : RunEnv) (site : WriteSite) (op : StateOp)
    (stored : Option Payload) (foreign : key ∉ op.ownedKeys) :
    (payloadOrDefault settings.bucketName stored).Agrees
      (payloadOrDefault settings.bucketName (write settings env site op stored).stored) key := by
  have path : Evolves settings.bucketName (fun other => other = op) stored
      (write settings env site op stored).stored := write_evolves rfl
  exact path.frame fun other same => same ▸ foreign

theorem write_ok (succeeded : (write settings env site op stored).ok = true) :
    ∃ after, op.apply settings.bucketName stored = some after ∧ env.writes site = .served ∧
      (write settings env site op stored).stored = some after := by
  rw [write] at succeeded ⊢
  cases applied : op.apply settings.bucketName stored with
  | none => simp [applied] at succeeded
  | some after =>
    cases reply : env.writes site with
    | served => exact ⟨after, rfl, rfl, by simp⟩
    | refused | lost => simp [applied, reply] at succeeded

theorem write_served (applied : op.apply settings.bucketName stored = some after)
    (reply : env.writes site = .served) :
    write settings env site op stored = ⟨some after, true⟩ := by
  simp only [write, applied, reply]

/-- A write that is not refused reaches the object, whatever its caller sees. -/
theorem write_landed (applied : op.apply settings.bucketName stored = some after)
    (landed : env.writes site ≠ .refused) :
    (write settings env site op stored).stored = some after := by
  simp only [write, applied]
  cases reply : env.writes site with
  | served | lost => rfl
  | refused => exact absurd reply landed

theorem write_refused (refused : env.writes site = .refused) :
    (write settings env site op stored).stored = stored := by
  simp only [write, refused]
  split <;> rfl

/-- A write fails and leaves the object alone, or applies its operation. -/
theorem write_cases (settings : Settings) (env : RunEnv) (site : WriteSite) (op : StateOp)
    (stored : Option Payload) :
    ((write settings env site op stored).stored = stored ∧
        (write settings env site op stored).ok = false) ∨
      ∃ after, op.apply settings.bucketName stored = some after ∧
        (write settings env site op stored).stored = some after := by
  rw [write]
  cases applied : op.apply settings.bucketName stored with
  | none => exact .inl ⟨rfl, rfl⟩
  | some after =>
    cases env.writes site with
    | served | lost => exact .inr ⟨after, rfl, rfl⟩
    | refused => exact .inl ⟨rfl, rfl⟩

end Writes
end ReplicateOnTag.Orchestrator

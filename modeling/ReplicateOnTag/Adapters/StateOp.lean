import ReplicateOnTag.Library.ConditionalStore
import ReplicateOnTag.Adapters.SubmissionRecords
import ReplicateOnTag.Adapters.CompletionState

/-! Every mutator of the state object as one operation of a conditional store,
the top-level keys it owns, and what concurrent writers cannot do to each other. -/
namespace ReplicateOnTag.StateStore
open ConditionalStore Watermark

inductive StateOp where
  | putCheckpoint (state : CheckpointState)
  | acquireLease (now : Instant) (lease : Lease)
  | releaseLease (now : Instant) (submittedRefs : Option (List ProcessedRef)) (lookback : Lookback)
      (candidateMaxWatermark : Option Watermark)
  | recordSubmission (submission : SubmissionRecord) (terminalJobIds : List String)
      (completionTrackingEnabled : Bool) (maxConcurrentJobs : Option Nat)
  | disableBucket (reason : String) (now : Instant)
  | mergeCompletionReport (report : BopsCompletionReport) (replicationConfigId jobId : String)
      (jobCreatedAt : Instant) (timestamps : Option Timestamps)
  | storeCompletionTimestamps (timestamps : Timestamps) (routing : Option Routing)
  | deleteCompletionItems (itemKeys : List String)
  | addAlertedConfig (configId : String)
  | clearAlertedConfig (configId : String)
  | recordScanResult (configId : String) (scanAt : Instant) (matchCount : Nat)
  | incrementSubmissionFailureStreak (bucketName : String)
  | clearSubmissionFailureStreak (bucketName : String)
  | recordJournalUnavailableAlert (bucketName : String) (now : Instant)
  | markReportDiagnosed (jobId : String) (reportDiagnosed recoveryScored : Bool)
  deriving DecidableEq

namespace StateOp

def checkpointKeys : List PayloadKey :=
  [.sourceBucket, .lastProcessedWatermark, .lease, .processedWindow]

def ownedKeys : StateOp → List PayloadKey
  | putCheckpoint .. | acquireLease .. | releaseLease .. => checkpointKeys
  | recordSubmission .. => [.submissionRecords, .submissionRecord, .completionReportAlertedConfigs]
  | disableBucket .. =>
      [.disabled, .disabledReason, .disabledAt, .submissionRecords, .submissionRecord,
        .completionReportAlertedConfigs]
  | mergeCompletionReport .. =>
      [.completionItems, .completionTimestamps, .completionRouting, .completionProcessedJobIds]
  | storeCompletionTimestamps .. => [.completionTimestamps, .completionRouting]
  | deleteCompletionItems .. => [.completionItems, .completionTimestamps, .completionRouting]
  | addAlertedConfig .. | clearAlertedConfig .. => [.completionReportAlertedConfigs]
  | recordScanResult .. => [.completionScanState]
  | incrementSubmissionFailureStreak .. | clearSubmissionFailureStreak .. =>
      [.submissionFailureStreaks]
  | recordJournalUnavailableAlert .. => [.journalUnavailableAlerts]
  | markReportDiagnosed .. => [.submissionRecords]

/-- The body an operation puts on the bucket's own object, from its first and
last read; a put sent to another key does not write this object. -/
def compute (sourceBucket : String) (op : StateOp) (first last : Option Payload) : Option Payload :=
  match op with
  | putCheckpoint state =>
      if state.sourceBucket = sourceBucket then some (StateStore.putCheckpoint state last) else none
  | acquireLease now lease => StateStore.acquireLease now sourceBucket lease first last
  | releaseLease now refs lookback candidate =>
      StateStore.releaseLease now sourceBucket refs lookback candidate first last
  | recordSubmission submission terminal tracking limit =>
      if submission.sourceBucket = sourceBucket then
        some (StateStore.recordSubmission submission terminal tracking limit last)
      else none
  | disableBucket reason now => some (StateStore.disableBucket sourceBucket reason now last)
  | mergeCompletionReport report configId jobId createdAt timestamps =>
      (StateStore.mergeCompletionReport sourceBucket report configId jobId createdAt timestamps
        last).bind fun request =>
          if request.key = stateObjectKey sourceBucket then some request.body else none
  | storeCompletionTimestamps timestamps routing =>
      some (StateStore.storeCompletionTimestamps sourceBucket timestamps routing last)
  | deleteCompletionItems itemKeys =>
      some (StateStore.deleteCompletionItems sourceBucket itemKeys last)
  | addAlertedConfig configId => some (StateStore.addAlertedConfig sourceBucket configId last)
  | clearAlertedConfig configId => some (StateStore.clearAlertedConfig sourceBucket configId last)
  | recordScanResult configId scanAt matchCount =>
      some (StateStore.recordScanResult sourceBucket configId scanAt matchCount last)
  | incrementSubmissionFailureStreak bucketName =>
      some (StateStore.incrementSubmissionFailureStreak sourceBucket bucketName last).2
  | clearSubmissionFailureStreak bucketName =>
      some (StateStore.clearSubmissionFailureStreak sourceBucket bucketName last)
  | recordJournalUnavailableAlert bucketName now =>
      some (StateStore.recordJournalUnavailableAlert sourceBucket bucketName now last)
  | markReportDiagnosed jobId diagnosed scored =>
      some (StateStore.markReportDiagnosed sourceBucket jobId diagnosed scored last)

def rereads : StateOp → Bool
  | acquireLease .. | releaseLease .. => true
  | _ => false

/-- The alert mutators condition on their own read when given no token. -/
def adopts : StateOp → Bool
  | addAlertedConfig .. | clearAlertedConfig .. => true
  | _ => false

def program (sourceBucket : String) (op : StateOp) : Update Payload :=
  { rereads := op.rereads
    adopts := op.adopts
    compute := op.compute sourceBucket
    adoptsSingle := by
      intro adopting
      cases op <;> first | rfl | cases adopting }

/-- The operation as one step on the stored content. -/
def apply (sourceBucket : String) (op : StateOp) (stored : Option Payload) : Option Payload :=
  (program sourceBucket op).atomically stored

/-- Both lease operations overlay a checkpoint on the payload they replace. -/
theorem apply_putCheckpoint (applied : (putCheckpoint state).apply bucket stored = some after) :
    state.sourceBucket = bucket ∧ after = StateStore.putCheckpoint state stored := by
  simp only [apply, program, Update.atomically, compute] at applied
  split at applied
  · rename_i own
    exact ⟨own, (Option.some.inj applied).symm⟩
  · cases applied

theorem apply_acquireLease (applied : (acquireLease now lease).apply bucket stored = some after) :
    ∃ state, getCheckpoint now bucket stored = some state ∧
      after = StateStore.putCheckpoint { state with lease := some lease } stored := by
  simp only [apply, program, Update.atomically, compute, StateStore.acquireLease,
    Option.bind_eq_bind, Option.bind_eq_some_iff, Option.pure_def, Option.some.injEq] at applied
  obtain ⟨state, read, rfl⟩ := applied
  exact ⟨state, read, rfl⟩

theorem apply_releaseLease
    (applied : (releaseLease now refs lookback candidate).apply bucket stored = some after) :
    ∃ state, getCheckpoint now bucket stored = some state ∧
      after = StateStore.putCheckpoint
        (CheckpointLogic.advanceCheckpoint state refs lookback candidate) stored := by
  simp only [apply, program, Update.atomically, compute, StateStore.releaseLease,
    Option.bind_eq_bind, Option.bind_eq_some_iff, Option.pure_def, Option.some.injEq] at applied
  obtain ⟨state, read, rfl⟩ := applied
  exact ⟨state, read, rfl⟩

theorem putCheckpoint_frame (own : state.sourceBucket = bucket) (foreign : key ∉ checkpointKeys) :
    (payloadOrDefault bucket stored).Agrees (StateStore.putCheckpoint state stored) key := by
  subst own
  cases key <;> first | rfl | simp [checkpointKeys] at foreign

theorem advanceCheckpoint_sourceBucket :
    (CheckpointLogic.advanceCheckpoint state refs lookback candidate).sourceBucket =
      state.sourceBucket := by
  rw [CheckpointLogic.advanceCheckpoint]
  split <;> rfl

theorem mergeCompletionReport_frame
    (computed : StateStore.mergeCompletionReport bucket report configId jobId createdAt timestamps
      stored = some request)
    (foreign : key ∉ ownedKeys
      (.mergeCompletionReport report configId jobId createdAt timestamps)) :
    (payloadOrDefault bucket stored).Agrees request.body key := by
  simp only [StateStore.mergeCompletionReport] at computed
  split at computed
  · rw [Option.some.injEq] at computed
    rw [← computed]
    cases key <;> first | rfl | simp [ownedKeys] at foreign
  · cases computed

/-- An operation leaves every top-level key it does not own as it found it. -/
theorem frame {op : StateOp} (applied : op.apply bucket stored = some after)
    (foreign : key ∉ op.ownedKeys) :
    (payloadOrDefault bucket stored).Agrees after key := by
  cases op with
  | putCheckpoint state =>
    obtain ⟨own, rfl⟩ := apply_putCheckpoint applied
    exact putCheckpoint_frame own foreign
  | acquireLease now lease =>
    obtain ⟨state, read, rfl⟩ := apply_acquireLease applied
    exact putCheckpoint_frame (getCheckpoint_fields read).1 foreign
  | releaseLease now refs lookback candidate =>
    obtain ⟨state, read, rfl⟩ := apply_releaseLease applied
    exact putCheckpoint_frame
      (advanceCheckpoint_sourceBucket.trans (getCheckpoint_fields read).1) foreign
  | recordSubmission submission terminal tracking limit =>
    simp only [apply, program, Update.atomically, compute] at applied
    split at applied
    · rename_i own
      subst own
      cases applied
      cases key <;> first | rfl | simp [ownedKeys] at foreign
    · cases applied
  | mergeCompletionReport report configId jobId createdAt timestamps =>
    simp only [apply, program, Update.atomically, compute, Option.bind_eq_some_iff] at applied
    obtain ⟨request, computed, sent⟩ := applied
    split at sent
    · cases sent
      exact mergeCompletionReport_frame computed foreign
    · cases sent
  | disableBucket | storeCompletionTimestamps | deleteCompletionItems | addAlertedConfig
  | clearAlertedConfig | recordScanResult | incrementSubmissionFailureStreak
  | clearSubmissionFailureStreak | recordJournalUnavailableAlert | markReportDiagnosed =>
    cases applied
    cases key <;> first | rfl | simp [ownedKeys] at foreign

/-- Nothing but a caller's own checkpoint put moves the watermark back. -/
theorem watermark_monotone {op : StateOp} (applied : op.apply bucket stored = some after)
    (derived : ∀ state, op ≠ .putCheckpoint state) :
    (payloadOrDefault bucket stored).lastProcessedWatermark ≤ after.lastProcessedWatermark := by
  cases op with
  | putCheckpoint state => exact absurd rfl (derived state)
  | acquireLease now lease =>
    obtain ⟨state, read, rfl⟩ := apply_acquireLease applied
    exact (getCheckpoint_fields read).2.1.ge
  | releaseLease now refs lookback candidate =>
    obtain ⟨state, read, rfl⟩ := apply_releaseLease applied
    rw [← (getCheckpoint_fields read).2.1]
    exact CheckpointLogic.advanceCheckpoint_monotone state refs lookback candidate
  | _ =>
    have same : (payloadOrDefault bucket stored).Agrees after .lastProcessedWatermark :=
      frame applied (by simp [ownedKeys])
    exact le_of_eq same

end StateOp

/-- The watermark an object stands for; an absent object is at the epoch. -/
def watermarkOf (bucket : String) (stored : Option Payload) : Watermark :=
  (payloadOrDefault bucket stored).lastProcessedWatermark

theorem agrees_refl (payload : Payload) (key : PayloadKey) : payload.Agrees payload key := by
  cases key <;> rfl

theorem agrees_trans {first second third : Payload} (left : first.Agrees second key)
    (right : second.Agrees third key) : first.Agrees third key := by
  cases key <;> exact Eq.trans left right

theorem written_applied (started : AllConsistent first)
    (path : Reaches (StateOp.program bucket) first written last) :
    ∀ entry ∈ written, entry.op.apply bucket entry.before = some entry.after := by
  induction path with
  | refl => simp
  | next path step ih =>
    intro entry member
    rcases List.mem_append.mp member with old | new
    · exact ih entry old
    · exact (written_atomically (consistent_reaches started path) step new).2.2

/-- Over any interleaving of any number of writers, from any reachable point: a
write changes only the keys its operation owns, a key that no operation owns
keeps its value throughout, and the watermark never moves back. -/
theorem no_lost_update (bucket : String) (initial : Register Payload)
    (earlier : Reaches (StateOp.program bucket) (idle initial) done middle)
    (later : Reaches (StateOp.program bucket) middle written last) :
    (∀ entry ∈ written, ∀ key ∉ entry.op.ownedKeys,
      (payloadOrDefault bucket entry.before).Agrees entry.after key) ∧
    (∀ key, (∀ entry ∈ written, key ∉ entry.op.ownedKeys) →
      (payloadOrDefault bucket middle.register.content).Agrees
        (payloadOrDefault bucket last.register.content) key) ∧
    ((∀ entry ∈ written, ∀ state, entry.op ≠ .putCheckpoint state) →
      watermarkOf bucket middle.register.content ≤ watermarkOf bucket last.register.content) := by
  have started := consistent_reaches (idle_consistent initial) earlier
  have applied := written_applied started later
  refine ⟨fun entry member key foreign => (applied entry member) |> (StateOp.frame · foreign),
    fun key foreign => ?_, fun derived => ?_⟩
  · exact reaches_preserves
      (fun a b => (payloadOrDefault bucket a).Agrees (payloadOrDefault bucket b) key)
      (fun _ => agrees_refl _ key) agrees_trans started later
      fun entry member apply => StateOp.frame apply (foreign entry member)
  · exact reaches_preserves (fun a b => watermarkOf bucket a ≤ watermarkOf bucket b)
      (fun _ => le_rfl) le_trans started later
      fun entry member apply => StateOp.watermark_monotone apply (derived entry member)

/-- A disabled bucket with a processed operation, a processed job and a key of someone else. -/
def occupiedObject : Payload :=
  { Payload.ofCheckpoint ⟨"b", toWatermark 10, none, [⟨"op-1", toWatermark 10⟩]⟩ with
    disabled := true
    completionProcessedJobIds := ["job-0"]
    others := Dict.ofList [("note", "kept")] }

def crossingRelease : StateOp :=
  .releaseLease 20 (some [⟨"op-2", toWatermark 15⟩]) 5 (some (toWatermark 15))

def crossingAlert : StateOp := .addAlertedConfig "job-1"

/-- A run is about to release its lease and the checker to add an alert; both have read the
object. -/
def crossing : List (Move StateOp) :=
  [.start 0 1 crossingRelease, .read 0, .start 1 1 crossingAlert, .read 1, .read 0]

/-- The release lands, the alert is refused, and lands on a second attempt. -/
def crossed : List (Move StateOp) := [.put 0, .abandon 1, .start 1 2 crossingAlert, .read 1, .put 1]

/-- The second put on one token is refused; both writes are kept in the end, and so
is what neither of them owns. -/
theorem no_lost_update_crossing : ∃ middle written last,
    moves (StateOp.program "b") (idle ⟨[occupiedObject]⟩) crossing = some ([], middle) ∧
    moves (StateOp.program "b") middle crossed = some (written, last) ∧
    moves (StateOp.program "b") middle [.put 0, .put 1] = none ∧
    written.map Written.op = [crossingRelease, crossingAlert] ∧
    (∀ entry ∈ written, entry.op = crossingAlert →
      (payloadOrDefault "b" entry.before).Agrees entry.after .lastProcessedWatermark) ∧
    (∀ key ∈ [PayloadKey.disabled, .completionProcessedJobIds, .other "note"],
      (payloadOrDefault "b" middle.register.content).Agrees
        (payloadOrDefault "b" last.register.content) key) ∧
    watermarkOf "b" middle.register.content ≤ watermarkOf "b" last.register.content := by
  have checked : ((moves (StateOp.program "b") (idle ⟨[occupiedObject]⟩) crossing).bind fun first =>
      (moves (StateOp.program "b") first.2 crossed).map fun second =>
        (first.1.map Written.op, (moves (StateOp.program "b") first.2 [.put 0, .put 1]).isNone,
          second.1.map Written.op)) =
            some ([], true, [crossingRelease, crossingAlert]) := by decide +kernel
  obtain ⟨⟨nothing, middle⟩, began, rest⟩ := Option.bind_eq_some_iff.mp checked
  obtain ⟨⟨written, last⟩, ran, same⟩ := Option.map_eq_some_iff.mp rest
  simp only [Prod.mk.injEq, List.map_eq_nil_iff, Option.isNone_iff_eq_none] at same
  obtain ⟨rfl, stale, ops⟩ := same
  have settled := no_lost_update "b" ⟨[occupiedObject]⟩ (reaches_moves began) (reaches_moves ran)
  have listed : ∀ entry ∈ written, entry.op = crossingRelease ∨ entry.op = crossingAlert := by
    intro entry member
    have own := List.mem_map_of_mem (f := Written.op) member
    rw [ops] at own
    simpa using own
  refine ⟨middle, written, last, began, ran, stale, ops, fun entry member same =>
    ?_, fun key known => ?_, ?_⟩
  · exact settled.1 entry member .lastProcessedWatermark (by rw [same]; decide)
  · refine settled.2.1 key fun entry member => ?_
    have foreign : ∀ key ∈ [PayloadKey.disabled, .completionProcessedJobIds, .other "note"],
        key ∉ crossingRelease.ownedKeys ∧ key ∉ crossingAlert.ownedKeys := by decide
    rcases listed entry member with same | same
    · exact same ▸ (foreign key known).1
    · exact same ▸ (foreign key known).2
  · refine settled.2.2 fun entry member state => ?_
    rcases listed entry member with same | same
    · rw [same, crossingRelease]
      nofun
    · rw [same, crossingAlert]
      nofun

end ReplicateOnTag.StateStore

import ReplicateOnTag.Core.CheckpointLogic

/-! The state object of one bucket, one field for each top-level key it shares
between its writers. Keys the solution does not know are kept as text. -/
namespace ReplicateOnTag
open Watermark

/-- A value under `submission_records`: a record, or something that does not deserialize. -/
inductive StoredRecord where
  | readable (record : SubmissionRecord)
  | unreadable
  deriving DecidableEq

structure Payload where
  sourceBucket : String
  lastProcessedWatermark : Watermark
  lease : Option Lease
  processedWindow : List ProcessedRef
  disabled : Bool
  disabledReason : Option String
  disabledAt : Option Instant
  submissionRecords : Dict String StoredRecord
  /-- The singular record of an earlier schema. -/
  submissionRecord : Option SubmissionRecord
  completionItems : Dict String TrackedObject
  completionTimestamps : Dict String (Option Instant × Option Instant)
  completionRouting : Dict String (List String × List String)
  completionProcessedJobIds : List String
  completionScanState : Dict String ScanState
  completionReportAlertedConfigs : List String
  submissionFailureStreaks : Dict String Nat
  journalUnavailableAlerts : Dict String Instant
  others : Dict String String
  deriving DecidableEq

inductive PayloadKey where
  | sourceBucket
  | lastProcessedWatermark
  | lease
  | processedWindow
  | disabled
  | disabledReason
  | disabledAt
  | submissionRecords
  | submissionRecord
  | completionItems
  | completionTimestamps
  | completionRouting
  | completionProcessedJobIds
  | completionScanState
  | completionReportAlertedConfigs
  | submissionFailureStreaks
  | journalUnavailableAlerts
  | other (name : String)
  deriving DecidableEq

namespace Payload

/-- Both payloads hold the same value under the key. -/
def Agrees (first second : Payload) : PayloadKey → Prop
  | .sourceBucket => first.sourceBucket = second.sourceBucket
  | .lastProcessedWatermark => first.lastProcessedWatermark = second.lastProcessedWatermark
  | .lease => first.lease = second.lease
  | .processedWindow => first.processedWindow = second.processedWindow
  | .disabled => first.disabled = second.disabled
  | .disabledReason => first.disabledReason = second.disabledReason
  | .disabledAt => first.disabledAt = second.disabledAt
  | .submissionRecords => first.submissionRecords = second.submissionRecords
  | .submissionRecord => first.submissionRecord = second.submissionRecord
  | .completionItems => first.completionItems = second.completionItems
  | .completionTimestamps => first.completionTimestamps = second.completionTimestamps
  | .completionRouting => first.completionRouting = second.completionRouting
  | .completionProcessedJobIds => first.completionProcessedJobIds = second.completionProcessedJobIds
  | .completionScanState => first.completionScanState = second.completionScanState
  | .completionReportAlertedConfigs =>
      first.completionReportAlertedConfigs = second.completionReportAlertedConfigs
  | .submissionFailureStreaks => first.submissionFailureStreaks = second.submissionFailureStreaks
  | .journalUnavailableAlerts => first.journalUnavailableAlerts = second.journalUnavailableAlerts
  | .other name => first.others.get? name = second.others.get? name

def checkpoint (payload : Payload) : CheckpointState :=
  ⟨payload.sourceBucket, payload.lastProcessedWatermark, payload.lease, payload.processedWindow⟩

/-- The object's fields when only the checkpoint keys are present. -/
def ofCheckpoint (state : CheckpointState) : Payload :=
  { sourceBucket := state.sourceBucket
    lastProcessedWatermark := state.lastProcessedWatermark
    lease := state.lease
    processedWindow := state.processedWindow
    disabled := false
    disabledReason := none
    disabledAt := none
    submissionRecords := .empty
    submissionRecord := none
    completionItems := .empty
    completionTimestamps := .empty
    completionRouting := .empty
    completionProcessedJobIds := []
    completionScanState := .empty
    completionReportAlertedConfigs := []
    submissionFailureStreaks := .empty
    journalUnavailableAlerts := .empty
    others := .empty }

end Payload

namespace StateStore

/-- `_default_state`. -/
def defaultState (sourceBucket : String) : CheckpointState := ⟨sourceBucket, epoch, none, []⟩

def stateObjectKey (sourceBucket : String) : String := "state/" ++ sourceBucket ++ ".json"

/-- The stored payload, or the one every mutator starts from when there is none. -/
def payloadOrDefault (sourceBucket : String) (stored : Option Payload) : Payload :=
  stored.getD (.ofCheckpoint (defaultState sourceBucket))

/-- A lease whose candidate is implausibly late reads as no lease. -/
def deserializeLease (now : Instant) (lease : Option Lease) : Option Lease :=
  lease.filter fun held => isPlausible held.candidateMaxWatermark now

/-- `deserialize`: an implausible watermark is an error. -/
def deserialize (now : Instant) (payload : Payload) : Option CheckpointState :=
  if isPlausible payload.lastProcessedWatermark now then
    some { payload.checkpoint with lease := deserializeLease now payload.lease }
  else none

/-- `get_checkpoint` on the content that was read; `none` is an error. -/
def getCheckpoint (now : Instant) (sourceBucket : String) (stored : Option Payload) :
    Option CheckpointState :=
  match stored with
  | none => some (defaultState sourceBucket)
  | some payload => (deserialize now payload).filter fun state => state.sourceBucket = sourceBucket

/-- `get_disable_state`. -/
def getDisableState (stored : Option Payload) : BucketDisableState :=
  match stored with
  | none => ⟨false, "", none⟩
  | some payload =>
      if payload.disabled then ⟨true, payload.disabledReason.getD "", payload.disabledAt⟩
      else ⟨false, "", none⟩

theorem deserialize_eq_some (read : deserialize now payload = some state) :
    isPlausible payload.lastProcessedWatermark now ∧ state.sourceBucket = payload.sourceBucket ∧
      state.lastProcessedWatermark = payload.lastProcessedWatermark ∧
      state.processedWindow = payload.processedWindow ∧
      state.lease = deserializeLease now payload.lease := by
  rw [deserialize] at read
  split at read
  · rename_i trusted
    cases read
    exact ⟨trusted, rfl, rfl, rfl, rfl⟩
  · cases read

theorem getCheckpoint_some (read : getCheckpoint now bucket (some payload) = some state) :
    deserialize now payload = some state ∧ state.sourceBucket = bucket := by
  simpa only [getCheckpoint, Option.filter_eq_some_iff, decide_eq_true_eq] using read

/-- A checkpoint that was read carries the watermark and window of the payload. -/
theorem getCheckpoint_fields (read : getCheckpoint now bucket stored = some state) :
    state.sourceBucket = bucket ∧
      state.lastProcessedWatermark = (payloadOrDefault bucket stored).lastProcessedWatermark ∧
      state.processedWindow = (payloadOrDefault bucket stored).processedWindow := by
  cases stored with
  | none =>
    cases read
    exact ⟨rfl, rfl, rfl⟩
  | some payload =>
    obtain ⟨parsed, own⟩ := getCheckpoint_some read
    obtain ⟨_, _, watermark, window, _⟩ := deserialize_eq_some parsed
    exact ⟨own, watermark, window⟩

end StateStore
end ReplicateOnTag

import ReplicateOnTag.Core.CheckpointLogic
import ReplicateOnTag.Core.WatermarkText
import ReplicateOnTag.Library.FirstFailure
import ReplicateOnTag.Library.JsonValue

/-! The persisted form of the checkpoint, its lease and the submission records.
Watermarks are text here, and a time keeps its offset; `readTime` stands for
`datetime.fromisoformat`, and `now` is the UTC time of the read. -/
namespace ReplicateOnTag.CheckpointSerializer
open CivilTime
open IsoTime
open WatermarkText
open Json
open FirstFailure (bind_eq_ok map_eq_ok)

section Records

structure Lease where
  leaseId : String
  candidateMaxWatermark : String
  acquiredAt : Datetime
  status : LeaseStatus
  deriving DecidableEq

structure ProcessedRef where
  logicalOperationId : String
  watermark : String
  deriving DecidableEq

structure CheckpointState where
  sourceBucket : String
  lastProcessedWatermark : String
  lease : Option Lease
  processedWindow : List ProcessedRef
  deriving DecidableEq

structure SubmissionRecord where
  replicationConfigId : String
  sourceBucket : String
  jobId : String
  manifestKey : String
  submittedAt : Datetime
  status : SubmissionStatus
  watermarkLow : String
  watermarkHigh : String
  consecutiveFailures : Int
  reportDiagnosed : Bool
  recoveryScored : Bool
  deriving DecidableEq

def leaseStatusValue : LeaseStatus → String
  | .inFlight => "IN_FLIGHT"

def leaseStatuses : List LeaseStatus := [.inFlight]

def submissionStatusValue : SubmissionStatus → String
  | .submitted => "SUBMITTED"
  | .createFailed => "CREATE_FAILED"
  | .submitFailed => "SUBMIT_FAILED"
  | .skipped => "SKIPPED"

def submissionStatuses : List SubmissionStatus :=
  [.submitted, .createFailed, .submitFailed, .skipped]

end Records

section Encoding

/-- `_serialize_lease`. -/
def serializeLease (lease : Lease) : Json :=
  .object
    [("lease_id", .str lease.leaseId),
     ("candidate_max_watermark", .str lease.candidateMaxWatermark),
     ("acquired_at", .str (isoformat lease.acquiredAt)),
     ("status", .str (leaseStatusValue lease.status))]

def serializeRef (ref : ProcessedRef) : Json :=
  .object [("logical_operation_id", .str ref.logicalOperationId), ("watermark", .str ref.watermark)]

/-- `_serialize_window`. -/
def serializeWindow (window : List ProcessedRef) : Json := .list (window.map serializeRef)

def serializeSubmissionRecord (rec_ : SubmissionRecord) : Json :=
  .object
    [("replication_config_id", .str rec_.replicationConfigId),
     ("source_bucket", .str rec_.sourceBucket),
     ("job_id", .str rec_.jobId),
     ("manifest_key", .str rec_.manifestKey),
     ("submitted_at", .str (isoformat rec_.submittedAt)),
     ("status", .str (submissionStatusValue rec_.status)),
     ("watermark_low", .str rec_.watermarkLow),
     ("watermark_high", .str rec_.watermarkHigh),
     ("consecutive_failures", .int rec_.consecutiveFailures),
     ("report_diagnosed", .bool rec_.reportDiagnosed),
     ("recovery_scored", .bool rec_.recoveryScored)]

def leaseField (lease : Option Lease) : Json :=
  match lease with
  | none => .null
  | some held => serializeLease held

/-- The four keys of the checkpoint. -/
def statePayload (state : CheckpointState) : Members :=
  [("source_bucket", .str state.sourceBucket),
   ("last_processed_watermark", .str state.lastProcessedWatermark),
   ("lease", leaseField state.lease),
   ("processed_window", serializeWindow state.processedWindow)]

def serialize (state : CheckpointState) : String := dumps (.object (statePayload state))

end Encoding

section Decoding

variable (readTime : String → Option Datetime) (now : Civil)

/-- The `try` block of `_deserialize_lease`, whose errors are all caught. -/
def leaseFields (members : Members) : Except DecodeError (Json × Json × Datetime × LeaseStatus) :=
  (item members "lease_id").bind fun leaseId =>
    (item members "candidate_max_watermark").bind fun candidate =>
      ((item members "acquired_at").bind (time readTime "acquired_at")).bind fun acquiredAt =>
        ((item members "status").bind
            (enumeration "LeaseStatus" leaseStatusValue leaseStatuses)).map fun status =>
          (leaseId, candidate, acquiredAt, status)

/-- Only the bound on the candidate can raise, where `now` has no next day. -/
def leaseOf (leaseId candidate : Json) (acquiredAt : Datetime) (status : LeaseStatus) :
    Except DecodeError (Option Lease) :=
  match leaseId, candidate with
  | .str leaseId, .str candidate =>
      match isPlausibleWatermark candidate now with
      | none => .error .overflowError
      | some false => .ok none
      | some true =>
          .ok (some { leaseId, candidateMaxWatermark := candidate, acquiredAt, status })
  | _, _ => .ok none

/-- `_deserialize_lease`. -/
def deserializeLease : Json → Except DecodeError (Option Lease)
  | .object members =>
      match leaseFields readTime members with
      | .error _ => .ok none
      | .ok (leaseId, candidate, acquiredAt, status) =>
          leaseOf now leaseId candidate acquiredAt status
  | _ => .ok none

def deserializeRef : Json → Except DecodeError ProcessedRef
  | .object members =>
      (item members "logical_operation_id").bind fun lid =>
        (item members "watermark").bind fun wm =>
          match lid, wm with
          | .str lid, .str wm => .ok ⟨lid, wm⟩
          | _, _ => .error (.valueError "processed_window entry fields must be strings")
  | entry => .error (.valueError
      ("processed_window entry must be an object, got " ++ typeName entry))

/-- `_deserialize_window`. -/
def deserializeWindow : Json → Except DecodeError (List ProcessedRef)
  | .null => .ok []
  | .list entries => decodeEach deserializeRef entries
  | data => .error (.valueError ("processed_window must be a list, got " ++ typeName data))

def requireString (field : String) : Json → Except DecodeError String
  | .str text => .ok text
  | value => .error (.valueError (field ++ " must be a string, got " ++ typeName value))

def requirePlausible (watermark : String) : Except DecodeError String :=
  match isPlausibleWatermark watermark now with
  | none => .error .overflowError
  | some false => .error (.refused
      "last_processed_watermark is not a plausible canonical watermark" watermark)
  | some true => .ok watermark

/-- A lease that is absent or `null` is none. -/
def deserializeLeaseField (data : Json) : Except DecodeError (Option Lease) :=
  match data with
  | .null => .ok none
  | data => deserializeLease readTime now data

/-- The part of `deserialize` behind `json.loads`. -/
def deserializePayload (payload : Json) : Except DecodeError CheckpointState :=
  match payload with
  | .object members =>
      ((item members "source_bucket").bind (requireString "source_bucket")).bind fun sourceBucket =>
        ((item members "last_processed_watermark").bind
            (requireString "last_processed_watermark")).bind fun text =>
          (requirePlausible now text).bind fun watermark =>
            (deserializeLeaseField readTime now (get members "lease")).bind fun lease =>
              (deserializeWindow (get members "processed_window")).map fun window =>
                { sourceBucket, lastProcessedWatermark := watermark, lease,
                  processedWindow := window }
  | payload => .error (.valueError
      ("checkpoint state must be a JSON object, got " ++ typeName payload))

def deserialize (data : String) : Except DecodeError CheckpointState :=
  match loads data with
  | none => .error .jsonDecodeError
  | some payload => deserializePayload readTime now payload

def deserializeSubmissionRecord : Json → Except DecodeError SubmissionRecord
  | .object members =>
      ((item members "replication_config_id").bind (string "replication_config_id")).bind
        fun replicationConfigId =>
      ((item members "source_bucket").bind (string "source_bucket")).bind fun sourceBucket =>
      ((item members "job_id").bind (string "job_id")).bind fun jobId =>
      ((item members "manifest_key").bind (string "manifest_key")).bind fun manifestKey =>
      ((item members "submitted_at").bind (time readTime "submitted_at")).bind fun submittedAt =>
      ((item members "status").bind
        (enumeration "SubmissionStatus" submissionStatusValue submissionStatuses)).bind
        fun status =>
      (string "watermark_low" (getOr members "watermark_low" (.str ""))).bind fun watermarkLow =>
      (string "watermark_high" (getOr members "watermark_high" (.str ""))).bind fun watermarkHigh =>
      (integer "consecutive_failures" (getOr members "consecutive_failures" (.int 0))).map
        fun consecutiveFailures =>
        { replicationConfigId, sourceBucket, jobId, manifestKey, submittedAt, status,
          watermarkLow, watermarkHigh,
          consecutiveFailures
          reportDiagnosed := truthy (getOr members "report_diagnosed" (.bool false))
          recoveryScored := truthy (getOr members "recovery_scored" (.bool false)) }
  | _ => .error (.typeError "submission_record")

def deserializeSubmissionRecords (payload : Members) :
    Except DecodeError (Dict String SubmissionRecord) :=
  match get payload "submission_records" with
  | .null => .ok Dict.empty
  | .object raw => decodeDict (fun _ => deserializeSubmissionRecord readTime) raw
  | raw => .error (.valueError ("submission_records must be a JSON object, got " ++ typeName raw))

end Decoding

section RoundTrip

variable {readTime : String → Option Datetime}
  (inverse : ∀ dt, readTime (isoformat dt) = some dt) {now : Civil}

theorem enumeration_leaseStatus (status : LeaseStatus) :
    enumeration "LeaseStatus" leaseStatusValue leaseStatuses
      (.str (leaseStatusValue status)) = .ok status := by
  cases status with
  | inFlight => simp [enumeration, leaseStatuses]

theorem enumeration_submissionStatus (status : SubmissionStatus) :
    enumeration "SubmissionStatus" submissionStatusValue submissionStatuses
      (.str (submissionStatusValue status)) =
      .ok status := by
  cases status <;> simp [enumeration, submissionStatuses, submissionStatusValue]

include inverse in
theorem time_isoformat (field : String)
    (dt : Datetime) : time readTime field (.str (isoformat dt)) = .ok dt := by
  rw [time, inverse]

include inverse in
theorem deserializeLease_serializeLease {lease : Lease}
    (credible : isPlausibleWatermark lease.candidateMaxWatermark now = some true) :
    deserializeLease readTime now (serializeLease lease) = .ok (some lease) := by
  have fields : leaseFields readTime
      [("lease_id", .str lease.leaseId),
       ("candidate_max_watermark", .str lease.candidateMaxWatermark),
       ("acquired_at", .str (isoformat lease.acquiredAt)),
         ("status", .str (leaseStatusValue lease.status))] =
      .ok (.str lease.leaseId, .str lease.candidateMaxWatermark,
        lease.acquiredAt, lease.status) := by
    simp [leaseFields, item, List.lookup_cons, Except.bind, Except.map, time_isoformat inverse,
      enumeration_leaseStatus]
  rw [serializeLease, deserializeLease, fields]
  dsimp only
  rw [leaseOf, credible]

include inverse in
theorem deserializeLeaseField_leaseField {lease : Option Lease}
    (credible : ∀ held, lease = some held →
      isPlausibleWatermark held.candidateMaxWatermark now = some true) :
    deserializeLeaseField readTime now (leaseField lease) = .ok lease := by
  cases lease with
  | none => rfl
  | some held => exact deserializeLease_serializeLease inverse (credible held rfl)

theorem deserializeRef_serializeRef (ref : ProcessedRef) :
    deserializeRef (serializeRef ref) = .ok ref := by
  simp [serializeRef, deserializeRef, item, List.lookup_cons, Except.bind]

theorem deserializeWindow_serializeWindow (window : List ProcessedRef) :
    deserializeWindow (serializeWindow window) = .ok window :=
      decodeEach_map deserializeRef_serializeRef window

include inverse in
theorem deserializeSubmissionRecord_serialize (rec_ : SubmissionRecord) :
    deserializeSubmissionRecord readTime (serializeSubmissionRecord rec_) = .ok rec_ := by
  simp [serializeSubmissionRecord, deserializeSubmissionRecord, item, getOr, List.lookup_cons,
    Except.bind, Except.map, string, integer, toInt, truthy, time_isoformat inverse,
    enumeration_submissionStatus]

theorem exact_serializeLease (lease : Lease) : Exact (serializeLease lease) := by
  apply exact_object
  · simp
  · simp [Exact]

theorem exact_leaseField (lease : Option Lease) : Exact (leaseField lease) := by
  cases lease with
  | none => trivial
  | some held => exact exact_serializeLease held

theorem exact_serializeWindow (window : List ProcessedRef) : Exact (serializeWindow window) := by
  apply exact_list
  intro value member
  obtain ⟨ref, _, rfl⟩ := List.mem_map.mp member
  apply exact_object
  · simp
  · simp [Exact]

theorem exact_serializeSubmissionRecord (rec_ : SubmissionRecord) :
    Exact (serializeSubmissionRecord rec_) := by
  apply exact_object
  · simp
  · simp [Exact]

theorem exact_statePayload (state : CheckpointState) : Exact (.object (statePayload state)) := by
  apply exact_object
  · simp [statePayload]
  · simp [statePayload, Exact, exact_leaseField, exact_serializeWindow]

/-- Reading depends on the four keys of the checkpoint only. -/
theorem deserializePayload_of_lookups {members : Members} {state : CheckpointState}
    (lookups : ∀ pair ∈ statePayload state, members.lookup pair.1 = some pair.2)
    (leaseRead : deserializeLeaseField readTime now (leaseField state.lease) = .ok state.lease)
    (credible : isPlausibleWatermark state.lastProcessedWatermark now = some true) :
    deserializePayload readTime now (.object members) = .ok state := by
  simp only [statePayload, List.forall_mem_cons] at lookups
  obtain ⟨bucket, watermark, lease, window, _⟩ := lookups
  simp only [deserializePayload, item, Json.get, bucket, watermark, lease, window, Except.bind,
    requireString,
    requirePlausible, credible, Option.getD_some, leaseRead,
      deserializeWindow_serializeWindow, Except.map]

end RoundTrip

section Acceptance

variable {readTime : String → Option Datetime} {now : Civil}

theorem isPlausible_of_leaseOf {leaseId candidate : Json} {acquiredAt : Datetime}
    {status : LeaseStatus} {held : Lease}
    (read : leaseOf now leaseId candidate acquiredAt status = .ok (some held)) :
    isPlausibleWatermark held.candidateMaxWatermark now = some true := by
  rw [leaseOf.eq_def] at read
  split at read
  · split at read
    · cases read
    · cases read
    · rename_i credible
      cases read
      exact credible
  · cases read

/-- A lease that is honoured carries a plausible candidate. -/
theorem isPlausible_of_lease {data : Json} {held : Lease}
    (read : deserializeLeaseField readTime now data = .ok (some held)) :
    isPlausibleWatermark held.candidateMaxWatermark now = some true := by
  rw [deserializeLeaseField.eq_def] at read
  split at read
  · cases read
  · rw [deserializeLease.eq_def] at read
    split at read
    · split at read
      · cases read
      · exact isPlausible_of_leaseOf read
    · cases read

theorem requirePlausible_eq_ok {text watermark : String}
    (read : requirePlausible now text = .ok watermark) :
    isPlausibleWatermark watermark now = some true := by
  rw [requirePlausible] at read
  split at read
  · cases read
  · cases read
  · rename_i credible
    cases read
    exact credible

/-- What `deserialize` accepts is plausible at the time of the read. -/
theorem isPlausible_of_deserialize {text : String} {state : CheckpointState}
    (read : deserialize readTime now text = .ok state) :
    isPlausibleWatermark state.lastProcessedWatermark now = some true ∧
      ∀ held, state.lease = some held →
        isPlausibleWatermark held.candidateMaxWatermark now = some true := by
  rw [deserialize] at read
  split at read
  · cases read
  · rw [deserializePayload.eq_def] at read
    split at read
    · simp only [bind_eq_ok, map_eq_ok] at read
      obtain ⟨bucket, _, watermark, _, accepted, credible, lease, leaseRead, window, _, rfl⟩ := read
      refine ⟨requirePlausible_eq_ok credible, ?_⟩
      rintro held rfl
      exact isPlausible_of_lease leaseRead
    · cases read

theorem leaseOf_ok {limit : Civil} (ahead : now.add Watermark.maxFutureSkew = some limit)
    (leaseId candidate : Json)
    (acquiredAt : Datetime) (status : LeaseStatus) :
    ∃ lease, leaseOf now leaseId candidate acquiredAt status = .ok lease := by
  rw [leaseOf.eq_def]
  split
  · rw [isPlausibleWatermark_eq ahead]
    split
    · rename_i none
      cases none
    · exact ⟨none, rfl⟩
    · exact ⟨_, rfl⟩
  · exact ⟨none, rfl⟩

/-- Where `now` has a next day, no value under `lease` raises. -/
theorem deserializeLeaseField_ok {limit : Civil}
    (ahead : now.add Watermark.maxFutureSkew = some limit) (data : Json) :
    ∃ lease, deserializeLeaseField readTime now data = .ok lease := by
  rw [deserializeLeaseField.eq_def]
  split
  · exact ⟨none, rfl⟩
  · rw [deserializeLease.eq_def]
    split
    · split
      · exact ⟨none, rfl⟩
      · exact leaseOf_ok ahead _ _ _ _
    · exact ⟨none, rfl⟩

/-- A lease that reads decides nothing but the lease of the state. -/
theorem deserializePayload_eq_map {members other : Members}
    (same : ∀ key, key ≠ "lease" → members.lookup key = other.lookup key)
    {lease lease' : Option Lease}
    (read : deserializeLeaseField readTime now (Json.get members "lease") = .ok lease)
    (read' : deserializeLeaseField readTime now (Json.get other "lease") = .ok lease') :
    deserializePayload readTime now (.object members) =
      (deserializePayload readTime now (.object other)).map fun state =>
        { state with lease := lease } := by
  have bucket : item members "source_bucket" = item other "source_bucket" := by
    rw [item, item, same _ (by simp)]
  have watermark : item members "last_processed_watermark" =
      item other "last_processed_watermark" := by
    rw [item, item, same _ (by simp)]
  have window : Json.get members "processed_window" = Json.get other "processed_window" := by
    rw [Json.get, Json.get, same _ (by simp)]
  rw [deserializePayload, deserializePayload, bucket, watermark, window, read, read']
  cases (item other "source_bucket").bind (requireString "source_bucket") with
  | error first => rfl
  | ok sourceBucket =>
    cases (item other "last_processed_watermark").bind
      (requireString "last_processed_watermark") with
    | error first => rfl
    | ok text =>
      cases accepted : requirePlausible now text with
      | error first => simp only [Except.bind, Except.map, accepted]
      | ok last =>
        simp only [Except.bind, accepted]
        cases deserializeWindow (Json.get other "processed_window") with
        | error first => rfl
        | ok refs => rfl

end Acceptance
end ReplicateOnTag.CheckpointSerializer

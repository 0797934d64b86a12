import ReplicateOnTag.Core.CheckpointSerializer
import ReplicateOnTag.Core.CompletionSerializer

/-! The one JSON object that all state writers share. A writer replaces the
values of its own top-level keys; a reader looks at the keys of one writer. -/
namespace ReplicateOnTag.SharedPayload
open CivilTime
open IsoTime
open WatermarkText
open CheckpointSerializer
open CompletionSerializer
open Json

section Writers

/-- The writers, each with the value it puts into the payload. -/
inductive Write where
  | checkpoint (state : CheckpointSerializer.CheckpointState)
  | submissionRecords (records : Dict String CheckpointSerializer.SubmissionRecord)
  | completionItems (items : Dict String CompletionSerializer.TrackedObject)
  | processedJobIds (ids : List String)
  | scanState (scanState : Dict String CompletionSerializer.ScanState)

inductive Owner where
  | checkpoint
  | submissionRecords
  | completionItems
  | processedJobIds
  | scanState
  deriving DecidableEq

def Owner.keys : Owner → List String
  | checkpoint => ["source_bucket", "last_processed_watermark", "lease", "processed_window"]
  | submissionRecords => ["submission_records"]
  | completionItems => ["completion_items"]
  | processedJobIds => ["completion_processed_job_ids"]
  | scanState => ["completion_scan_state"]

def Write.owner : Write → Owner
  | checkpoint _ => .checkpoint
  | submissionRecords _ => .submissionRecords
  | completionItems _ => .completionItems
  | processedJobIds _ => .processedJobIds
  | scanState _ => .scanState

/-- `payload.update(fields)`. -/
def update (payload fields : Members) : Members :=
  fields.foldl (fun payload pair => Json.set payload pair.1 pair.2) payload

/-- `payload.update(json.loads(serialize(state)))` of `put_checkpoint`. -/
def overlay (payload : Members) (state : CheckpointSerializer.CheckpointState) : Members :=
  match loads (serialize state) with
  | some (.object fields) => update payload fields
  | _ => payload

def serializeSubmissionRecords
    (records : Dict String CheckpointSerializer.SubmissionRecord) : Json :=
  .object (records.mapValues fun _ rec_ => serializeSubmissionRecord rec_).entries

def Write.apply (payload : Members) : Write → Members
  | checkpoint state => overlay payload state
  | submissionRecords records =>
      Json.set payload "submission_records" (serializeSubmissionRecords records)
  | completionItems items => Json.set payload "completion_items" (serializeCompletionItems items)
  | processedJobIds ids => Json.set payload "completion_processed_job_ids"
      (serializeProcessedJobIds ids)
  | scanState states => Json.set payload "completion_scan_state" (serializeScanState states)

def applyAll (writes : List Write) (payload : Members) : Members := writes.foldl Write.apply payload

end Writers

section Fields

/-- The keys a write sets, with their values. -/
def Write.fields : Write → Members
  | checkpoint state => statePayload state
  | submissionRecords records => [("submission_records", serializeSubmissionRecords records)]
  | completionItems items => [("completion_items", serializeCompletionItems items)]
  | processedJobIds ids => [("completion_processed_job_ids", serializeProcessedJobIds ids)]
  | scanState states => [("completion_scan_state", serializeScanState states)]

theorem Write.keys_fields (write : Write) : write.fields.map Prod.fst = write.owner.keys := by
  cases write <;> rfl

theorem Owner.nodup_keys (owner : Owner) : owner.keys.Nodup := by
  cases owner <;> simp [Owner.keys]

/-- No key has two owners. -/
theorem Owner.eq_of_mem_keys {first second : Owner} {key : String} (mine : key ∈ first.keys)
    (theirs : key ∈ second.keys) : first = second := by
  cases first <;> cases second
    <;> simp only [Owner.keys, List.mem_cons, List.not_mem_nil, or_false] at mine theirs <;>
    first
      | rfl
      | (subst mine; simp at theirs)
      | (subst theirs; simp at mine)

theorem overlay_eq (payload : Members) (state : CheckpointSerializer.CheckpointState) :
    overlay payload state = update payload (statePayload state) := by
  rw [overlay, serialize, loads_dumps _ (exact_statePayload state)]

theorem Write.apply_eq (write : Write)
    (payload : Members) : write.apply payload = update payload write.fields := by
  cases write with
  | checkpoint state => exact overlay_eq payload state
  | _ => rfl

theorem exact_fields (write : Write) : ∀ pair ∈ write.fields, Exact pair.2 := by
  cases write with
  | checkpoint state =>
    have whole := exact_statePayload state
    rw [Exact] at whole
    exact (exactMembers_iff _).mp whole.2
  | submissionRecords records =>
    have whole : Exact (serializeSubmissionRecords records) :=
      exact_mapValues exact_serializeSubmissionRecord records
    simpa [Write.fields] using whole
  | completionItems items => simpa [Write.fields] using exact_serializeCompletionItems items
  | processedJobIds ids => simpa [Write.fields] using exact_serializeProcessedJobIds ids
  | scanState states => simpa [Write.fields] using exact_serializeScanState states

theorem exact_update {payload fields : Members} (whole : Exact (.object payload))
    (exact_ : ∀ pair ∈ fields, Exact pair.2) : Exact (.object (update payload fields)) := by
  induction fields generalizing payload with
  | nil => exact whole
  | cons pair rest ih =>
    rw [List.forall_mem_cons] at exact_
    rw [Exact] at whole
    exact ih ⟨Dict.upsert_distinct pair.1 pair.2 whole.1, exact_upsert whole.2 exact_.1⟩ exact_.2

theorem exact_applyAll {payload : Members} (whole : Exact (.object payload)) (writes : List Write) :
    Exact (.object (applyAll writes payload)) := by
  induction writes generalizing payload with
  | nil => exact whole
  | cons write rest ih =>
    apply ih
    rw [write.apply_eq]
    exact exact_update whole (exact_fields write)

theorem lookup_update_of_not_mem {fields : Members} {key : String}
    (other : key ∉ fields.map Prod.fst)
    (payload : Members) : (update payload fields).lookup key = payload.lookup key := by
  induction fields generalizing payload with
  | nil => rfl
  | cons pair rest ih =>
    rw [List.map_cons, List.mem_cons, not_or] at other
    have later := ih other.2 (Json.set payload pair.1 pair.2)
    rw [Json.lookup_set, if_neg other.1] at later
    exact later

theorem lookup_update_of_mem {fields : Members} (distinct : (fields.map Prod.fst).Nodup)
    {pair : String × Json}
    (member : pair ∈ fields) (payload : Members) :
    (update payload fields).lookup pair.1 = some pair.2 := by
  induction fields generalizing payload with
  | nil => cases member
  | cons first rest ih =>
    rw [List.map_cons, List.nodup_cons] at distinct
    rcases List.mem_cons.mp member with rfl | later
    · have kept := lookup_update_of_not_mem distinct.1 (Json.set payload pair.1 pair.2)
      rw [Json.lookup_set, if_pos rfl] at kept
      exact kept
    · exact ih distinct.2 later (Json.set payload first.1 first.2)

theorem Write.nodup_fields (write : Write) : (write.fields.map Prod.fst).Nodup := by
  rw [write.keys_fields]
  exact write.owner.nodup_keys

theorem exact_object_fields (write : Write) : Exact (.object write.fields) :=
  exact_object write.nodup_fields (exact_fields write)

theorem lookup_fields {write : Write} {pair : String × Json} (field : pair ∈ write.fields) :
    write.fields.lookup pair.1 = some pair.2 := by
  have found := lookup_update_of_mem write.nodup_fields field []
  have same : update [] write.fields = write.fields :=
    Dict.foldl_upsert_of_nodup write.fields [] write.nodup_fields
  rwa [same] at found

/-- A write leaves the keys of every other owner as they are. -/
theorem lookup_apply_of_owner_ne {write : Write} {owner : Owner}
    (other : write.owner ≠ owner) {key : String}
    (own : key ∈ owner.keys) (payload : Members) : (write.apply payload).lookup key =
      payload.lookup key := by
  rw [write.apply_eq]
  apply lookup_update_of_not_mem
  rw [write.keys_fields]
  exact fun theirs => other (Owner.eq_of_mem_keys theirs own)

theorem lookup_applyAll_of_owner_ne {writes : List Write} {owner : Owner}
    (others : ∀ write ∈ writes, write.owner ≠ owner) {key : String}
    (own : key ∈ owner.keys) (payload : Members) :
    (applyAll writes payload).lookup key = payload.lookup key := by
  induction writes generalizing payload with
  | nil => rfl
  | cons write rest ih =>
    rw [List.forall_mem_cons] at others
    exact (ih others.2 (write.apply payload)).trans (lookup_apply_of_owner_ne others.1 own payload)

/-- What a write has put under its keys stays there while others write. -/
theorem lookup_applyAll_last {writes later : List Write} {write : Write}
    (others : ∀ other ∈ later, other.owner ≠ write.owner) {pair : String × Json}
    (field : pair ∈ write.fields)
    (payload : Members) : (applyAll (writes ++ write :: later) payload).lookup
      pair.1 = some pair.2 := by
  have own : pair.1 ∈ write.owner.keys := by
    rw [← write.keys_fields]
    exact List.mem_map_of_mem field
  rw [applyAll, List.foldl_append, List.foldl_cons]
  refine (lookup_applyAll_of_owner_ne others own _).trans ?_
  rw [write.apply_eq]
  exact lookup_update_of_mem write.nodup_fields field _

end Fields

section Readers

variable (readTime : String → Option Datetime) (now : Civil)

/-- The reader of one owner returns the same for both payloads; the checkpoint
is read from the text of the payload. -/
def Agree (first second : Members) : Owner → Prop
  | .checkpoint =>
      deserialize readTime now (dumps (.object first)) =
        deserialize readTime now (dumps (.object second))
  | .submissionRecords => deserializeSubmissionRecords readTime first =
      deserializeSubmissionRecords readTime second
  | .completionItems => deserializeCompletionItems readTime first =
      deserializeCompletionItems readTime second
  | .processedJobIds => deserializeProcessedJobIds first = deserializeProcessedJobIds second
  | .scanState => deserializeScanState readTime first = deserializeScanState readTime second

/-- The reader returns the value that was written. -/
def Returns (payload : Members) : Write → Prop
  | .checkpoint state => deserialize readTime now (dumps (.object payload)) = .ok state
  | .submissionRecords records => deserializeSubmissionRecords readTime payload = .ok records
  | .completionItems items => deserializeCompletionItems readTime payload = .ok items
  | .processedJobIds ids => deserializeProcessedJobIds payload = .ok ids.toFinset
  | .scanState states => deserializeScanState readTime payload = .ok states

/-- A state whose watermark and candidate are plausible at the time of the read. -/
def PlausibleState (state : CheckpointSerializer.CheckpointState) : Prop :=
  isPlausibleWatermark state.lastProcessedWatermark now = some true ∧
    ∀ held, state.lease = some held →
      isPlausibleWatermark held.candidateMaxWatermark now = some true

def Plausible : Write → Prop
  | .checkpoint state => PlausibleState now state
  | _ => True

variable {readTime now}

theorem deserialize_dumps {payload : Members} (whole : Exact (.object payload)) :
    deserialize readTime now (dumps (.object payload)) =
      deserializePayload readTime now (.object payload) := by
  rw [deserialize, loads_dumps _ whole]

theorem get_congr {first second : Members} {key : String}
    (same : first.lookup key = second.lookup key) :
    Json.get first key = Json.get second key := by
  rw [Json.get, Json.get, same]

theorem agree_of_lookups {first second : Members} (whole : Exact (.object first))
    (whole' : Exact (.object second))
    {owner : Owner} (same : ∀ key ∈ owner.keys, first.lookup key = second.lookup key) :
    Agree readTime now first second owner := by
  cases owner with
  | checkpoint =>
    simp only [Owner.keys, List.forall_mem_cons] at same
    obtain ⟨bucket, watermark, lease, window, _⟩ := same
    rw [Agree, deserialize_dumps whole, deserialize_dumps whole']
    simp only [deserializePayload, item, Json.get, bucket, watermark, lease, window]
  | submissionRecords =>
    have own := get_congr (same "submission_records" List.mem_cons_self)
    rw [Agree, deserializeSubmissionRecords, deserializeSubmissionRecords, own]
  | completionItems =>
    have own := get_congr (same "completion_items" List.mem_cons_self)
    rw [Agree, deserializeCompletionItems, deserializeCompletionItems, own]
  | processedJobIds =>
    have own := get_congr (same "completion_processed_job_ids" List.mem_cons_self)
    rw [Agree, deserializeProcessedJobIds, deserializeProcessedJobIds, own]
  | scanState =>
    have own := get_congr (same "completion_scan_state" List.mem_cons_self)
    rw [Agree, deserializeScanState, deserializeScanState, own]

theorem get_of_lookup {payload : Members} {key : String} {value : Json}
    (found : payload.lookup key = some value) :
    Json.get payload key = value := by
  rw [Json.get, found, Option.getD_some]

theorem returns_of_lookups (inverse : ∀ dt, readTime (isoformat dt) = some dt) {payload : Members}
    (whole : Exact (.object payload)) {write : Write} (credible : Plausible now write)
    (stored : ∀ pair ∈ write.fields, payload.lookup pair.1 = some pair.2) :
    Returns readTime now payload write := by
  cases write with
  | checkpoint state =>
    rw [Returns, deserialize_dumps whole]
    exact deserializePayload_of_lookups stored
      (deserializeLeaseField_leaseField inverse credible.2) credible.1
  | submissionRecords records =>
    have own := get_of_lookup (stored _ List.mem_cons_self)
    rw [Returns, deserializeSubmissionRecords, own]
    exact decodeDict_mapValues (fun _ rec_ =>
      deserializeSubmissionRecord_serialize inverse rec_) records
  | completionItems items =>
    have own := get_of_lookup (stored _ List.mem_cons_self)
    rw [Returns, deserializeCompletionItems, own]
    exact decodeDict_mapValues (fun key obj =>
      deserializeTrackedObject_serialize inverse key obj) items
  | processedJobIds ids =>
    have own := get_of_lookup (stored _ List.mem_cons_self)
    rw [Returns, deserializeProcessedJobIds, own]
    exact congrArg (Except.map List.toFinset) (decodeEach_jobId ids)
  | scanState states =>
    have own := get_of_lookup (stored _ List.mem_cons_self)
    rw [Returns, deserializeScanState, own]
    exact decodeDict_mapValues (fun key state =>
      deserializeScanEntry_serialize inverse key state) states

/-- A write is read back whatever other writers do after it. -/
theorem returns_applyAll (inverse : ∀ dt, readTime (isoformat dt) = some dt) {payload : Members}
    (whole : Exact (.object payload)) {writes later : List Write} {write : Write}
    (credible : Plausible now write)
    (others : ∀ other ∈ later, other.owner ≠ write.owner) :
    Returns readTime now (applyAll (writes ++ write :: later) payload) write :=
  returns_of_lookups inverse (exact_applyAll whole _) credible
    fun _ field => lookup_applyAll_last others field payload

/-- The writers leave every reader's result unchanged but their own. -/
theorem agree_applyAll {payload : Members} (whole : Exact (.object payload))
    {writes : List Write} {owner : Owner}
    (others : ∀ write ∈ writes, write.owner ≠ owner) :
    Agree readTime now (applyAll writes payload) payload owner :=
  agree_of_lookups (exact_applyAll whole writes) whole fun _ own =>
    lookup_applyAll_of_owner_ne others own payload

end Readers
end ReplicateOnTag.SharedPayload

import ReplicateOnTag.Core.Models
import ReplicateOnTag.Library.JsonValue
import ReplicateOnTag.Library.IsoTime

/-! The persisted form of the completion-tracking state: tracked objects, the
job ids already merged, and the scan state of each configuration. A field the
source reads without a check is an error here if it is not of its type. -/
namespace ReplicateOnTag.CompletionSerializer
open IsoTime
open Json

section Records

structure ConfigContext where
  replicationConfigId : String
  jobId : String
  manifestGeneratedAt : Datetime
  bopsConfirmed : Bool

structure TrackedObject where
  sourceBucket : String
  objectKey : String
  versionId : Option String
  configs : Dict String ConfigContext
  state : CompletionState
  resolvedAt : Option Datetime
  resolutionMethod : Option String
  replicationOutcome : Option String
  taggedAt : Option Datetime
  lastModified : Option Datetime
  matchedRules : Finset String
  destinations : Finset String

structure ScanState where
  lastScanAt : Datetime
  lastScanMatchCount : Int

def completionStateValue : CompletionState → String
  | .pending => "PENDING"
  | .resolved => "RESOLVED"

def completionStates : List CompletionState := [.pending, .resolved]

end Records

section Encoding

def timeField (dt : Datetime) : Json := .str (isoformat dt)

def orNull (field : Option Json) : Json := field.getD .null

/-- The key is left out without a value. -/
def optionalTime (key : String) (dt : Option Datetime) : Members :=
  match dt with
  | none => []
  | some dt => [(key, timeField dt)]

/-- A sorted list, left out when empty. -/
def optionalSet (key : String) (texts : Finset String) : Members :=
  if texts = ∅ then [] else [(key, .list (texts.sort.map .str))]

/-- `_serialize_config_context`. -/
def serializeConfigContext (ctx : ConfigContext) : Json :=
  .object
    [("replication_config_id", .str ctx.replicationConfigId),
     ("job_id", .str ctx.jobId),
     ("manifest_generated_at", timeField ctx.manifestGeneratedAt),
     ("bops_confirmed", .bool ctx.bopsConfirmed)]

def requiredFields (obj : TrackedObject) : Members :=
  [("source_bucket", .str obj.sourceBucket),
   ("object_key", .str obj.objectKey),
   ("version_id", orNull (obj.versionId.map .str)),
   ("state", .str (completionStateValue obj.state)),
   ("resolved_at", orNull (obj.resolvedAt.map timeField)),
   ("resolution_method", orNull (obj.resolutionMethod.map .str)),
   ("replication_outcome", orNull (obj.replicationOutcome.map .str)),
   ("configs", .object (obj.configs.mapValues fun _ ctx => serializeConfigContext ctx).entries)]

def trackedFields (obj : TrackedObject) : Members :=
  requiredFields obj ++ optionalTime "tagged_at" obj.taggedAt ++
    optionalTime "last_modified" obj.lastModified ++
    optionalSet "matched_rules" obj.matchedRules ++ optionalSet "destinations" obj.destinations

/-- `_serialize_tracked_object`. -/
def serializeTrackedObject (obj : TrackedObject) : Json := .object (trackedFields obj)

def serializeCompletionItems (items : Dict String TrackedObject) : Json :=
  .object (items.mapValues fun _ obj => serializeTrackedObject obj).entries

/-- `list(ids)`, in the order that the set is listed in. -/
def serializeProcessedJobIds (ids : List String) : Json := .list (ids.map .str)

def serializeScanEntry (state : ScanState) : Json :=
  .object [("last_scan_at", timeField state.lastScanAt),
    ("last_scan_match_count", .int state.lastScanMatchCount)]

def serializeScanState (scanState : Dict String ScanState) : Json :=
  .object (scanState.mapValues fun _ state => serializeScanEntry state).entries

end Encoding

section Decoding

variable (readTime : String → Option Datetime)

/-- `_deserialize_config_context`. -/
def deserializeConfigContext : Json → Except DecodeError ConfigContext
  | .object members =>
      ((item members "replication_config_id").bind (string "replication_config_id")).bind
        fun replicationConfigId =>
      ((item members "job_id").bind (string "job_id")).bind fun jobId =>
      ((item members "manifest_generated_at").bind (time readTime "manifest_generated_at")).map
        fun manifestGeneratedAt =>
          { replicationConfigId, jobId, manifestGeneratedAt
            bopsConfirmed := truthy (getOr members "bops_confirmed" (.bool false)) }
  | _ => .error (.typeError "configs")

def deserializeConfigs (itemKey : String) : Json → Except DecodeError (Dict String ConfigContext)
  | .object configsRaw => decodeDict (fun _ => deserializeConfigContext readTime) configsRaw
  | configsRaw => .error (.refused ("configs must be a JSON object, got " ++
      typeName configsRaw) itemKey)

/-- `_deserialize_tracked_object`. -/
def deserializeTrackedObject (itemKey : String) : Json → Except DecodeError TrackedObject
  | .object members =>
      (deserializeConfigs readTime itemKey (Json.get members "configs")).bind fun configs =>
      (timeOrNone readTime "resolved_at" (Json.get members "resolved_at")).bind fun resolvedAt =>
      (timeOrNone readTime "tagged_at" (Json.get members "tagged_at")).bind fun taggedAt =>
      (timeOrNone readTime "last_modified"
        (Json.get members "last_modified")).bind fun lastModified =>
      ((item members "source_bucket").bind (string "source_bucket")).bind fun sourceBucket =>
      ((item members "object_key").bind (string "object_key")).bind fun objectKey =>
      (stringOrNone "version_id" (Json.get members "version_id")).bind fun versionId =>
      ((item members "state").bind
        (enumeration "CompletionState" completionStateValue completionStates)).bind
        fun state =>
      (stringOrNone "resolution_method" (Json.get members "resolution_method")).bind
        fun resolutionMethod =>
      (stringOrNone "replication_outcome" (Json.get members "replication_outcome")).bind
        fun replicationOutcome =>
      (frozenset "matched_rules" (Json.get members "matched_rules")).bind fun matchedRules =>
      (frozenset "destinations" (Json.get members "destinations")).map fun destinations =>
        { sourceBucket, objectKey, versionId, configs, state, resolvedAt,
          resolutionMethod, replicationOutcome,
          taggedAt, lastModified, matchedRules, destinations }
  | _ => .error (.typeError itemKey)

def deserializeCompletionItems (payload : Members) :
    Except DecodeError (Dict String TrackedObject) :=
  match Json.get payload "completion_items" with
  | .null => .ok Dict.empty
  | .object raw => decodeDict (deserializeTrackedObject readTime) raw
  | raw => .error (.valueError ("completion_items must be a JSON object, got " ++ typeName raw))

def jobId : Json → Except DecodeError String
  | .str id => .ok id
  | entry => .error (.valueError
      ("completion_processed_job_ids entries must be strings, got " ++ typeName entry))

def deserializeProcessedJobIds (payload : Members) : Except DecodeError (Finset String) :=
  match Json.get payload "completion_processed_job_ids" with
  | .null => .ok ∅
  | .list raw => (decodeEach jobId raw).map List.toFinset
  | raw => .error (.valueError
      ("completion_processed_job_ids must be a JSON list, got " ++ typeName raw))

def deserializeScanEntry (configId : String) : Json → Except DecodeError ScanState
  | .object data =>
      ((item data "last_scan_at").bind (time readTime "last_scan_at")).bind fun lastScanAt =>
        ((item data "last_scan_match_count").bind (integer "last_scan_match_count")).map
          fun lastScanMatchCount =>
          { lastScanAt, lastScanMatchCount }
  | data => .error (.refused ("completion_scan_state must be a JSON object, got " ++
      typeName data) configId)

def deserializeScanState (payload : Members) : Except DecodeError (Dict String ScanState) :=
  match Json.get payload "completion_scan_state" with
  | .null => .ok Dict.empty
  | .object raw => decodeDict (deserializeScanEntry readTime) raw
  | raw => .error (.valueError
      ("completion_scan_state must be a JSON object, got " ++ typeName raw))

end Decoding

section RoundTrip

variable {readTime : String → Option Datetime} (inverse : ∀ dt, readTime (isoformat dt) = some dt)

theorem enumeration_completionState (state : CompletionState) :
    enumeration "CompletionState" completionStateValue completionStates
      (.str (completionStateValue state)) =
      .ok state := by
  cases state <;> simp [enumeration, completionStates, completionStateValue]

theorem stringOrNone_orNull (field : String) (text : Option String) :
    stringOrNone field (orNull (text.map .str)) = .ok text := by
  cases text with
  | none => rfl
  | some text => rfl

include inverse in
theorem time_timeField (field : String)
    (dt : Datetime) : time readTime field (timeField dt) = .ok dt := by
  rw [timeField, time, inverse]

include inverse in
theorem timeOrNone_orNull (field : String) (dt : Option Datetime) :
    timeOrNone readTime field (orNull (dt.map timeField)) = .ok dt := by
  cases dt with
  | none => rfl
  | some dt => exact congrArg (Except.map some) (time_timeField inverse field dt)

def setField (texts : Finset String) : Option Json :=
  if texts = ∅ then none else some (.list (texts.sort.map .str))

theorem lookup_optionalTime (key other : String) (dt : Option Datetime) :
    (optionalTime key dt).lookup other = if other = key then dt.map timeField else none := by
  cases dt with
  | none => simp [optionalTime]
  | some dt =>
    by_cases same : other = key
    · simp [optionalTime, same]
    · have differs : (other == key) = false := beq_eq_false_iff_ne.mpr same
      simp [optionalTime, same, List.lookup_cons, differs]

theorem lookup_optionalSet (key other : String) (texts : Finset String) :
    (optionalSet key texts).lookup other = if other = key then setField texts else none := by
  rw [optionalSet, setField]
  by_cases empty : texts = ∅
  · simp [empty]
  · by_cases same : other = key
    · simp [empty, same]
    · have differs : (other == key) = false := beq_eq_false_iff_ne.mpr same
      simp [empty, same, List.lookup_cons, differs]

theorem frozenset_setField (field : String) (texts : Finset String) :
    frozenset field (orNull (setField texts)) = .ok texts := by
  rw [setField]
  by_cases empty : texts = ∅
  · rw [if_pos empty, empty]
    rfl
  · rw [if_neg empty, orNull, Option.getD_some, frozenset_strings, Finset.sort_toFinset]

include inverse in
theorem deserializeConfigContext_serialize (ctx : ConfigContext) :
    deserializeConfigContext readTime (serializeConfigContext ctx) = .ok ctx := by
  simp [serializeConfigContext, deserializeConfigContext, item, getOr, List.lookup_cons,
    Except.bind, Except.map, string, truthy, time_timeField inverse]

include inverse in
theorem deserializeConfigs_serialize (itemKey : String) (configs : Dict String ConfigContext) :
    deserializeConfigs readTime itemKey
      (.object (configs.mapValues fun _ ctx => serializeConfigContext ctx).entries) =
      .ok configs :=
  decodeDict_mapValues (fun _ ctx => deserializeConfigContext_serialize inverse ctx) configs

theorem get_trackedFields (obj : TrackedObject) :
    Json.get (trackedFields obj) "tagged_at" = orNull (obj.taggedAt.map timeField) ∧
      Json.get (trackedFields obj) "last_modified" = orNull (obj.lastModified.map timeField) ∧
      Json.get (trackedFields obj) "matched_rules" = orNull (setField obj.matchedRules) ∧
      Json.get (trackedFields obj) "destinations" = orNull (setField obj.destinations) := by
  simp [Json.get, trackedFields, requiredFields, List.lookup_append, List.lookup_cons,
    lookup_optionalTime, lookup_optionalSet, orNull]

/-- A key that is always written is found with its value, whatever else is left out. -/
theorem lookup_trackedFields (obj : TrackedObject) {key : String} {value : Json}
    (required : (requiredFields obj).lookup key = some value) :
    (trackedFields obj).lookup key = some value := by
  simp only [trackedFields, List.lookup_append, required, Option.some_or]

include inverse in
theorem deserializeTrackedObject_serialize (itemKey : String) (obj : TrackedObject) :
    deserializeTrackedObject readTime itemKey (serializeTrackedObject obj) = .ok obj := by
  obtain ⟨tagged, modified, rules, destinations⟩ := get_trackedFields obj
  have bucket : (trackedFields obj).lookup "source_bucket" = some (.str obj.sourceBucket) :=
    lookup_trackedFields obj (by simp [requiredFields])
  have objectKey : (trackedFields obj).lookup "object_key" = some (.str obj.objectKey) :=
    lookup_trackedFields obj (by simp [requiredFields, List.lookup_cons])
  have version : (trackedFields obj).lookup "version_id" = some (orNull (obj.versionId.map .str)) :=
    lookup_trackedFields obj (by simp [requiredFields, List.lookup_cons])
  have state : (trackedFields obj).lookup "state" = some (.str (completionStateValue obj.state)) :=
    lookup_trackedFields obj (by simp [requiredFields, List.lookup_cons])
  have resolved : (trackedFields obj).lookup "resolved_at" =
      some (orNull (obj.resolvedAt.map timeField)) :=
    lookup_trackedFields obj (by simp [requiredFields, List.lookup_cons])
  have method : (trackedFields obj).lookup "resolution_method" =
      some (orNull (obj.resolutionMethod.map .str)) :=
    lookup_trackedFields obj (by simp [requiredFields, List.lookup_cons])
  have outcome : (trackedFields obj).lookup "replication_outcome" =
      some (orNull (obj.replicationOutcome.map .str)) :=
    lookup_trackedFields obj (by simp [requiredFields, List.lookup_cons])
  have configs : (trackedFields obj).lookup "configs" =
      some (.object (obj.configs.mapValues fun _ ctx => serializeConfigContext ctx).entries) :=
    lookup_trackedFields obj (by simp [requiredFields, List.lookup_cons])
  rw [serializeTrackedObject, deserializeTrackedObject, tagged, modified, rules, destinations]
  simp only [Json.get, item, bucket, objectKey, version, state, resolved, method, outcome, configs,
    Option.getD_some,
    deserializeConfigs_serialize inverse, timeOrNone_orNull inverse,
      stringOrNone_orNull, frozenset_setField,
    enumeration_completionState, string, Except.bind, Except.map]

theorem decodeEach_jobId (ids : List String) : decodeEach jobId (ids.map .str) = .ok ids := by
  apply decodeEach_map
  intro id
  rfl

include inverse in
theorem deserializeScanEntry_serialize (configId : String) (state : ScanState) :
    deserializeScanEntry readTime configId (serializeScanEntry state) = .ok state := by
  simp [serializeScanEntry, deserializeScanEntry, item, List.lookup_cons, Except.bind, Except.map,
    integer, toInt, time_timeField inverse]

end RoundTrip

section Readable

theorem exact_orNull_str (text : Option String) : Exact (orNull (text.map .str)) := by
  cases text with
  | none => trivial
  | some text => trivial

theorem exact_orNull_time (dt : Option Datetime) : Exact (orNull (dt.map timeField)) := by
  cases dt with
  | none => trivial
  | some dt => trivial

theorem exact_serializeConfigContext (ctx : ConfigContext) :
    Exact (serializeConfigContext ctx) := by
  apply exact_object
  · simp
  · simp [Exact, timeField]

theorem keys_optionalTime (key : String) (dt : Option Datetime) :
    ((optionalTime key dt).map Prod.fst).Sublist [key] := by
  cases dt with
  | none => exact List.nil_sublist _
  | some dt => exact List.Sublist.refl _

theorem keys_optionalSet (key : String) (texts : Finset String) :
    ((optionalSet key texts).map Prod.fst).Sublist [key] := by
  rw [optionalSet]
  split
  · exact List.nil_sublist _
  · exact List.Sublist.refl _

theorem keys_trackedFields (obj : TrackedObject) : ((trackedFields obj).map Prod.fst).Nodup := by
  have all : ((requiredFields obj).map Prod.fst ++ ["tagged_at"] ++
      ["last_modified"] ++ ["matched_rules"] ++
      ["destinations"]).Nodup := by simp [requiredFields]
  refine List.Nodup.sublist ?_ all
  rw [trackedFields, List.map_append, List.map_append, List.map_append, List.map_append]
  exact ((((List.Sublist.refl _).append (keys_optionalTime _ _)).append
    (keys_optionalTime _ _)).append
    (keys_optionalSet _ _)).append (keys_optionalSet _ _)

theorem exact_requiredFields (obj : TrackedObject) : ∀ pair ∈ requiredFields obj, Exact pair.2 := by
  simp only [requiredFields, List.forall_mem_cons]
  exact ⟨trivial, trivial, exact_orNull_str _, trivial, exact_orNull_time _,
    exact_orNull_str _, exact_orNull_str _,
    exact_mapValues exact_serializeConfigContext _, fun _ none => absurd none List.not_mem_nil⟩

theorem exact_optionalTime (key : String)
    (dt : Option Datetime) : ∀ pair ∈ optionalTime key dt, Exact pair.2 := by
  cases dt with
  | none => exact fun _ none => absurd none List.not_mem_nil
  | some dt =>
    intro pair member
    rw [List.mem_singleton.mp member]
    trivial

theorem exact_strings (texts : List String) : Exact (.list (texts.map .str)) := by
  apply exact_list
  intro value member
  obtain ⟨text, _, rfl⟩ := List.mem_map.mp member
  trivial

theorem exact_optionalSet (key : String)
    (texts : Finset String) : ∀ pair ∈ optionalSet key texts, Exact pair.2 := by
  rw [optionalSet]
  split
  · exact fun _ none => absurd none List.not_mem_nil
  · intro pair member
    rw [List.mem_singleton.mp member]
    exact exact_strings _

theorem exact_serializeTrackedObject (obj : TrackedObject) :
    Exact (serializeTrackedObject obj) := by
  apply exact_object (keys_trackedFields obj)
  simp only [trackedFields, List.forall_mem_append]
  exact ⟨⟨⟨⟨exact_requiredFields obj, exact_optionalTime _ _⟩, exact_optionalTime _ _⟩,
    exact_optionalSet _ _⟩,
    exact_optionalSet _ _⟩

theorem exact_serializeCompletionItems (items : Dict String TrackedObject) :
    Exact (serializeCompletionItems items) := exact_mapValues exact_serializeTrackedObject items

theorem exact_serializeProcessedJobIds (ids : List String) :
    Exact (serializeProcessedJobIds ids) := exact_strings ids

theorem exact_serializeScanEntry (state : ScanState) : Exact (serializeScanEntry state) := by
  apply exact_object
  · simp
  · simp [Exact, timeField]

theorem exact_serializeScanState (scanState : Dict String ScanState) :
    Exact (serializeScanState scanState) :=
  exact_mapValues exact_serializeScanEntry scanState

end Readable
end ReplicateOnTag.CompletionSerializer

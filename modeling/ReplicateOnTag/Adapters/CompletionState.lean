import ReplicateOnTag.Library.WhiteSpace
import ReplicateOnTag.Adapters.Payload

/-! Completion-tracking mutators of the state store. `merge_completion_report`
names the S3 key its put is sent to, as its loops leave it. -/
namespace ReplicateOnTag.StateStore

/-- One task of a validated completion report. -/
structure ReportRow where
  objectKey : String
  versionId : Option String
  taskStatus : Option String
  deriving DecidableEq

def ReportRow.identity (row : ReportRow) : String × Option String := (row.objectKey, row.versionId)

structure BopsCompletionReport where
  createdAt : Instant
  entries : List ReportRow
  deriving DecidableEq

/-- A conditional put: the key it is sent to and its body. -/
structure PutRequest where
  key : String
  body : Payload

/-- `COMPLETION_SIDE_MAP_CEILING`. -/
@[irreducible] def completionSideMapCeiling : Nat := 10000

def nullVersionSentinel : String := "\x01"

def itemKey (objectKey : String) (versionId : Option String) : String :=
  objectKey ++ "\x00" ++ versionId.getD nullVersionSentinel

/-- `version_id or None`. -/
def versionOrNone (versionId : Option String) : Option String :=
  versionId.filter fun version => version ≠ ""

def sideMapKey (objectKey : String) (versionId : Option String) : String :=
  itemKey objectKey (versionOrNone versionId)

/-- `_read_side_map_entry`; the older form of a null version is looked up second. -/
def readSideMapEntry (sideMap : Dict String ν) (objectKey : String) (versionId : Option String) :
    Option ν :=
  match sideMap.get? (sideMapKey objectKey versionId) with
  | some entry => some entry
  | none =>
      if versionOrNone versionId = none then sideMap.get? (itemKey objectKey (some "")) else none

def sideMapKeyVariants (key : String) : List String :=
  match key.toList.reverse with
  | '\x01' :: '\x00' :: rest => [key, String.ofList ('\x00' :: rest).reverse]
  | _ => [key]

/-- Unprotected keys in insertion order, as many as exceed the ceiling. -/
def evictedKeys (protectedKeys : List String) : Nat → List String → List String
  | 0, _ => []
  | _, [] => []
  | excess + 1, key :: rest =>
      if key ∈ protectedKeys then evictedKeys protectedKeys (excess + 1) rest
      else key :: evictedKeys protectedKeys excess rest

/-- `_evict_side_map_above_ceiling`. -/
def evictSideMapAboveCeiling (entries : Dict String ν) (ceiling : Nat)
    (protectedKeys : List String) : Dict String ν × List String :=
  let evicted := evictedKeys protectedKeys (entries.size - ceiling) entries.keys
  (entries.filter fun key _ => key ∉ evicted, evicted)

/-- `(status or "").strip().lower()`, as far as comparison with the two outcomes can tell. -/
def normalizedStatus (status : Option String) : String :=
  String.ofList ((WhiteSpace.strip (status.getD "").toList).map Char.toLower)

def outcomeFromReportRow (row : ReportRow) : String :=
  if normalizedStatus row.taskStatus = "succeeded" then "COMPLETE"
  else if normalizedStatus row.taskStatus = "failed" then "FAILED"
  else "UNKNOWN"

abbrev Timestamps := Dict (String × String) (Option Instant × Option Instant)
abbrev Routing := Dict (String × String) (List String × List String)

structure MergeContext where
  sourceBucket : String
  createdAt : Instant
  replicationConfigId : String
  jobId : String
  jobCreatedAt : Instant
  timestamps : Option Timestamps
  storedTimestamps : Dict String (Option Instant × Option Instant)
  storedRouting : Dict String (List String × List String)

def suppliedTimestamp (ctx : MergeContext) (row : ReportRow) : Option Instant × Option Instant :=
  ((ctx.timestamps.bind fun given => given.get? (row.objectKey, row.versionId.getD ""))).getD
    (none, none)

/-- The enrichment of an item created from a report row. -/
def enrichment (ctx : MergeContext) (row : ReportRow) : Option Instant × Option Instant :=
  match suppliedTimestamp ctx row with
  | (none, none) => (readSideMapEntry ctx.storedTimestamps row.objectKey
      row.versionId).getD (none, none)
  | given => given

def freshItem (ctx : MergeContext) (row : ReportRow) : TrackedObject :=
  let instants := enrichment ctx row
  let routing := (readSideMapEntry ctx.storedRouting row.objectKey row.versionId).getD ([], [])
  { sourceBucket := ctx.sourceBucket
    objectKey := row.objectKey
    versionId := row.versionId
    configs := .empty
    state := .pending
    resolvedAt := none
    resolutionMethod := none
    replicationOutcome := none
    taggedAt := instants.1
    lastModified := instants.2
    matchedRules := routing.1
    destinations := routing.2 }

/-- The stored context belongs to a later job than the one being merged. -/
def supersededBy (ctx : MergeContext) (context : ConfigContext) : Bool :=
  ctx.jobCreatedAt < context.manifestGeneratedAt ||
    (ctx.jobCreatedAt = context.manifestGeneratedAt && ctx.jobId < context.jobId)

def resolve (ctx : MergeContext) (row : ReportRow) (item : TrackedObject) : TrackedObject :=
  { item with
    configs := item.configs.insert ctx.replicationConfigId
      ⟨ctx.replicationConfigId, ctx.jobId, ctx.jobCreatedAt, true⟩
    state := .resolved
    resolvedAt := some ctx.createdAt
    resolutionMethod := some "bops_completion_report"
    replicationOutcome := some (outcomeFromReportRow row) }

def mergeRow (ctx : MergeContext) (items : Dict String TrackedObject) (row : ReportRow) :
    Dict String TrackedObject :=
  let key := itemKey row.objectKey row.versionId
  let item := (items.get? key).getD (freshItem ctx row)
  if (item.configs.get? ctx.replicationConfigId).any (supersededBy ctx) then items
  else items.insert key (resolve ctx row item)

/-- The last key the eviction loop assigns to the variable that held the object key. -/
def shadowedKey (sourceBucket : String) (evicted : List String) : String :=
  match evicted.getLast? with
  | none => stateObjectKey sourceBucket
  | some last => (sideMapKeyVariants last).getLast?.getD last

def rowKey (row : ReportRow) : String := itemKey row.objectKey row.versionId

/-- The merge context of one call on a payload. -/
def mergeContext (sourceBucket : String) (report : BopsCompletionReport)
    (replicationConfigId jobId : String) (jobCreatedAt : Instant) (timestamps : Option Timestamps)
    (payload : Payload) : MergeContext :=
  { sourceBucket, createdAt := report.createdAt, replicationConfigId, jobId,
    jobCreatedAt, timestamps
    storedTimestamps := payload.completionTimestamps
    storedRouting := payload.completionRouting }

def mergedItems (ctx : MergeContext) (report : BopsCompletionReport) (payload : Payload) :
    Dict String TrackedObject :=
  report.entries.foldl (mergeRow ctx) payload.completionItems

/-- The merged items within the ceiling and the keys evicted for it. -/
def boundedItems (ctx : MergeContext) (report : BopsCompletionReport) (payload : Payload) :
    Dict String TrackedObject × List String :=
  evictSideMapAboveCeiling (mergedItems ctx report payload) completionSideMapCeiling
    (report.entries.map rowKey)

def mergedBody (ctx : MergeContext) (report : BopsCompletionReport) (payload : Payload) : Payload :=
  let bounded := boundedItems ctx report payload
  let orphaned := bounded.2.flatMap sideMapKeyVariants
  { payload with
    completionTimestamps := payload.completionTimestamps.filter fun key _ => key ∉ orphaned
    completionRouting := payload.completionRouting.filter fun key _ => key ∉ orphaned
    completionItems := bounded.1
    completionProcessedJobIds := payload.completionProcessedJobIds.insert ctx.jobId }

def mergeCompletionReport (sourceBucket : String) (report : BopsCompletionReport)
    (replicationConfigId jobId : String) (jobCreatedAt : Instant) (timestamps : Option Timestamps)
    (stored : Option Payload) : Option PutRequest :=
  let payload := payloadOrDefault sourceBucket stored
  let ctx := mergeContext sourceBucket report replicationConfigId jobId
    jobCreatedAt timestamps payload
  if (report.entries.map ReportRow.identity).Nodup then
    some ⟨shadowedKey sourceBucket (boundedItems ctx report payload).2,
      mergedBody ctx report payload⟩
  else none

section Enrichment

/-- Adds an entry for an object not in the map yet, and remembers that it did. -/
def addEntry (keep : ν → Bool) (sideMap : Dict String ν × List String)
    (entry : (String × String) × ν) : Dict String ν × List String :=
  let key := sideMapKey entry.1.1 (some entry.1.2)
  if sideMap.1.contains key then sideMap
  else if keep entry.2 then (sideMap.1.insert key entry.2, sideMap.2 ++ [key])
  else sideMap

def addEntries (keep : ν → Bool) (stored : Dict String ν) (given : List ((String × String) × ν)) :
    Dict String ν :=
  let written := given.foldl (addEntry keep) (stored, [])
  (evictSideMapAboveCeiling written.1 completionSideMapCeiling written.2).1

def hasInstant (instants : Option Instant × Option Instant) : Bool :=
  instants.1.isSome || instants.2.isSome

def hasRoute (route : List String × List String) : Bool := !route.1.isEmpty || !route.2.isEmpty

def sortedRoute (route : List String × List String) : List String × List String :=
  (route.1.insertionSort (· ≤ ·), route.2.insertionSort (· ≤ ·))

def storeCompletionTimestamps (sourceBucket : String) (timestamps : Timestamps)
    (routing : Option Routing) (stored : Option Payload) : Payload :=
  let payload := payloadOrDefault sourceBucket stored
  { payload with
    completionTimestamps := addEntries hasInstant payload.completionTimestamps timestamps.entries
    completionRouting := addEntries hasRoute payload.completionRouting
      ((routing.getD .empty).mapValues fun _ route => sortedRoute route).entries }

def deleteCompletionItems (sourceBucket : String) (itemKeys : List String)
    (stored : Option Payload) :
    Payload :=
  let payload := payloadOrDefault sourceBucket stored
  let orphaned := itemKeys.flatMap sideMapKeyVariants
  { payload with
    completionItems := payload.completionItems.filter fun key _ => key ∉ itemKeys
    completionTimestamps := payload.completionTimestamps.filter fun key _ => key ∉ orphaned
    completionRouting := payload.completionRouting.filter fun key _ => key ∉ orphaned }

end Enrichment

section Alerts

def addAlertedConfig (sourceBucket configId : String) (stored : Option Payload) : Payload :=
  let payload := payloadOrDefault sourceBucket stored
  { payload with
    completionReportAlertedConfigs := payload.completionReportAlertedConfigs.insert configId }

def clearAlertedConfig (sourceBucket configId : String) (stored : Option Payload) : Payload :=
  let payload := payloadOrDefault sourceBucket stored
  { payload with
    completionReportAlertedConfigs :=
      payload.completionReportAlertedConfigs.filter fun entry => entry ≠ configId }

def recordScanResult (sourceBucket configId : String) (scanAt : Instant) (matchCount : Nat)
    (stored : Option Payload) : Payload :=
  let payload := payloadOrDefault sourceBucket stored
  { payload with
    completionScanState := payload.completionScanState.insert configId ⟨scanAt, matchCount⟩ }

end Alerts
end ReplicateOnTag.StateStore

import ReplicateOnTag.Adapters.EventTime
import ReplicateOnTag.Adapters.JournalQueries
import ReplicateOnTag.Library.JsonValue

/-! How the readers of the journal talk to Athena: a query is started, polled
until it ends, and its result is read page after page. Waiting between two polls
and log lines are left out. -/
namespace ReplicateOnTag.JournalSession
open AthenaJournal JournalQueries CivilTime EventTime

section Client

/-- A `ClientError` with the code that its response has. -/
structure ClientError where
  code : Option String
  text : String
  deriving DecidableEq

structure Request where
  queryString : List Char
  workGroup : String
  outputLocation : String

/-- The data of a row; one without a `VarCharValue` is null. -/
abbrev ResultRow := List (Option String)

/-- What `get_query_results` answers, to each token after the one before. -/
inductive Pages where
  | last (rows : List ResultRow)
  | more (rows : List ResultRow) (nextToken : String) (next : Pages)
  | failed (error : ClientError)

/-- A query that was started. -/
structure Execution where
  queryExecutionId : String
  /-- The state that each poll is answered with. -/
  state : Nat → Except ClientError String
  stateChangeReason : Option String
  results : Pages

/-- `start_query_execution`. -/
abbrev Athena := Request → Except ClientError Execution

/-- What the code raises. -/
inductive Raised where
  | clientError (error : ClientError)
  | valueError (text : String)
  | overflowError (text : String)
  | runtimeError (text : String)

def Raised.text : Raised → String
  | .clientError error => error.text
  | .valueError text | .overflowError text | .runtimeError text => text

/-- The texts of `repr`, of a `JSONDecodeError`, and of a time that cannot be read. -/
structure Wording where
  repr : String → String
  decodeError : String → String
  badWatermark : String

end Client

section Polling

/-- `_POLL_INTERVAL_SECONDS`. -/
def pollIntervalSeconds : Nat := 2

/-- `_MAX_POLL_ATTEMPTS`. -/
def maxPollAttempts : Nat := 300

def poll (wording : Wording) (execution : Execution) : Nat → Nat → Except Raised String
  | 0, _ =>
      .error (.valueError ("Athena query " ++ wording.repr execution.queryExecutionId ++
        " did not complete within " ++
        toString (maxPollAttempts * pollIntervalSeconds) ++ " seconds"))
  | left + 1, asked =>
      match execution.state asked with
      | .error error => .error (.clientError error)
      | .ok state =>
          if state ∈ ["SUCCEEDED", "FAILED", "CANCELLED"] then .ok state
            else poll wording execution left (asked + 1)

/-- `_poll_query`. -/
def pollQuery (wording : Wording) (execution : Execution) : Except Raised String :=
  poll wording execution maxPollAttempts 0

/-- `_get_query_failure_reason`; no reason is one that is absent or that cannot be asked for. -/
def getQueryFailureReason (execution : Execution) : String :=
  execution.stateChangeReason.getD "unknown reason"

def lower (text : String) : String := String.ofList (text.toList.map Char.toLower)

end Polling

section Results

def rowTexts (row : ResultRow) : List String := row.map fun datum => datum.getD ""

/-- The rows up to the end, or up to a page that fails. -/
def laterRows : Pages → List (List String) × Option ClientError
  | .last rows => (rows.map rowTexts, none)
  | .more rows nextToken next =>
      if nextToken = "" then (rows.map rowTexts, none)
      else (rows.map rowTexts ++ (laterRows next).1, (laterRows next).2)
  | .failed error => ([], some error)

/-- `_iter_result_rows`: the first page begins with a header. -/
def iterResultRows : Pages → List (List String) × Option ClientError
  | .last rows => laterRows (.last (rows.drop 1))
  | .more rows nextToken next => laterRows (.more (rows.drop 1) nextToken next)
  | .failed error => ([], some error)

/-- `_run_scalar_query`. -/
def runScalarQuery (wording : Wording) (athena : Athena)
    (request : Request) : Except Raised (Option String) :=
  match athena request with
  | .error error => .error (.clientError error)
  | .ok execution =>
      match pollQuery wording execution with
      | .error raised => .error raised
      | .ok state =>
          if state ≠ "SUCCEEDED" then
            .error (.valueError ("Athena query " ++ wording.repr execution.queryExecutionId ++
              " " ++ lower state ++ ": " ++
              getQueryFailureReason execution))
          else
            match iterResultRows execution.results with
            | (row :: _, _) => .ok row.head?
            | ([], some error) => .error (.clientError error)
            | ([], none) => .ok none

end Results

section Scalars
variable (wording : Wording) (athena : Athena) (bucketName workGroup outputLocation : String)

/-- `to_watermark`, which raises an `OverflowError` where it gives nothing. -/
def toCanonical (parsed : Civil) : Except Raised String :=
  (WatermarkText.toWatermark ⟨parsed, some IsoTime.utc⟩).elim
    (.error (.overflowError "date value out of range")) .ok

/-- A time stamp of a result as a canonical watermark. -/
def readTimestamp (query raw : String) : Except Raised String :=
  match parseEventTime raw with
  | none =>
      .error (.valueError (query ++
        " query returned an unparseable record_timestamp: " ++ wording.repr raw))
  | some parsed => toCanonical parsed

def readTimestampOrNone (query : String) : Option String → Except Raised (Option String)
  | none => .ok none
  | some raw => (readTimestamp wording query raw).map some

/-- A query whose text cannot be built is not run. -/
def runText (queryString : Option (List Char)) : Except Raised (Option String) :=
  match queryString with
  | none => .error (.valueError wording.badWatermark)
  | some queryString => runScalarQuery wording athena ⟨queryString, workGroup, outputLocation⟩

/-- `find_row_count_boundary`. -/
def findRowCountBoundary (sinceTimestamp : Option String)
    (rowCap : Int) : Except Raised (Option String) :=
  if rowCap ≤ 0 then .error
    (.valueError ("row_cap must be a positive integer, got " ++ toString rowCap))
  else
    (runText wording athena workGroup outputLocation
      (buildBoundaryQuery (bucketNamespace bucketName) bucketName sinceTimestamp rowCap.toNat)).bind
        (readTimestampOrNone wording "Boundary")

/-- `int(raw_value)` of a value that is there. -/
def readCount (raw : Option String) : Except Raised Int :=
  let text := raw.getD ""
  if text = "" then
    .error (.valueError ("Tail count query for bucket " ++ wording.repr bucketName ++
      " returned no value"))
  else
    match Json.readInt text.toList with
    | none => .error (.valueError
        ("Tail count query returned an unparseable count: " ++ wording.repr text))
    | some count => .ok count

/-- `find_tail_row_count`. -/
def findTailRowCount (windowStart watermark : String) : Except Raised Int :=
  (runText wording athena workGroup outputLocation
    (buildTailCountQuery (bucketNamespace bucketName) bucketName windowStart watermark)).bind
      (readCount wording bucketName)

/-- `find_tail_floor`. -/
def findTailFloor (windowStart watermark : String)
    (tailAllowance : Int) : Except Raised (Option String) :=
  if tailAllowance ≤ 0 then
    .error (.valueError ("tail_allowance must be a positive integer, got " ++
      toString tailAllowance))
  else
    (runText wording athena workGroup outputLocation
      (buildTailFloorQuery (bucketNamespace bucketName) bucketName windowStart watermark
        tailAllowance.toNat)).bind
        (readTimestampOrNone wording "Tail floor")

end Scalars

section Rows

/-- A `TaggingOperation` as it is read: its tags are any JSON object. -/
structure ReadOperation where
  sourceBucket : String
  objectKey : String
  resultingTagSet : Json.Members
  sequenceNumber : String
  eventTime : Civil
  operationVersion : Option String
  lastModified : Option Civil
  storageClass : Option String

/-- The tags of `resulting_tags`, or what is wrong with them. -/
def readTags (wording : Wording) (raw : String) : Except String Json.Members :=
  match Json.loads raw with
  | none => .error (wording.decodeError raw)
  | some (.object members) => .ok members
  | some _ => .error "resulting_tags is not a JSON object"

/-- `_parse_row`. The record type is not looked at. -/
def parseRow (wording : Wording) (row : List String)
    (bucketName : String) : Except JournalReadError ReadOperation :=
  match row with
  | rowBucket :: key :: versionId :: _ :: resultingTagsRaw :: sequenceNumber ::
        eventTimeRaw :: optional =>
      let bucket := if rowBucket = "" then bucketName else rowBucket
      let refuse (cause : String) : Except JournalReadError ReadOperation :=
        .error ⟨bucket, cause, false, orNone (some sequenceNumber), orNone (some key), false⟩
      if key = "" then refuse "missing object key in journal record"
      else if resultingTagsRaw = "" then
        refuse ("missing or inaccessible resulting_tags for key " ++ redactObjectKey key ++
          " (possible tag-read permission issue)")
      else
        match readTags wording resultingTagsRaw with
        | .error problem => refuse ("invalid resulting_tags JSON for key " ++
            redactObjectKey key ++ ": " ++ problem)
        | .ok resultingTags =>
            if resultingTags = [] then refuse
              ("empty resulting_tags for key " ++ redactObjectKey key)
            else
              match parseEventTime eventTimeRaw with
              | none =>
                  refuse ("unparseable event_time " ++ wording.repr eventTimeRaw ++
                    " for key " ++ redactObjectKey key)
              | some eventTime =>
                  .ok
                    { sourceBucket := bucket
                      objectKey := key
                      resultingTagSet := resultingTags
                      sequenceNumber := sequenceNumber
                      eventTime := eventTime
                      operationVersion := orNone (some versionId)
                      lastModified := optional[0]?.bind parseEventTime
                      storageClass := orNone optional[1]? }
  | short =>
      .error ⟨bucketName, "malformed row: expected at least 7 columns, got " ++
        toString short.length, false, none, none,
        false⟩

/-- `_JOURNAL_UNAVAILABLE_MARKERS`. -/
def journalUnavailableMarkers : List String :=
  ["table_not_found", "schema_not_found", "database_not_found",
    "entitynotfoundexception", "does not exist"]

/-- `_is_journal_unavailable_reason`. -/
def isJournalUnavailableReason (reason : String) : Bool :=
  journalUnavailableMarkers.any fun marker =>
    (lower reason).toList.tails.any fun rest => marker.toList.isPrefixOf rest

def fatal (bucketName cause : String) (isJournalUnavailable : Bool) : List ReadOperation ×
    List JournalReadError :=
  ([], [⟨bucketName, cause, true, none, none, isJournalUnavailable⟩])

def rejection : Except JournalReadError ReadOperation → Option JournalReadError
  | .ok _ => none
  | .error error => some error

/-- The rows of a query that succeeded. -/
def readRows (wording : Wording) (execution : Execution) (bucketName : String) :
    List ReadOperation × List JournalReadError :=
  match iterResultRows execution.results with
  | (_, some error) =>
      fatal bucketName ("Athena get_query_results failed for query " ++
        wording.repr execution.queryExecutionId ++ " (" ++
        error.code.getD "UnknownError" ++ "): " ++ error.text) false
  | (rows, none) =>
      (rows.filterMap fun row => (parseRow wording row bucketName).toOption,
        rows.filterMap fun row => rejection (parseRow wording row bucketName))

/-- What becomes of a query once it was started. -/
def readExecution (wording : Wording) (execution : Execution) (bucketName : String) :
    List ReadOperation × List JournalReadError :=
  match pollQuery wording execution with
  | .error (.clientError error) =>
      fatal bucketName ("Athena get_query_execution failed for query " ++
        wording.repr execution.queryExecutionId ++ " (" ++
        error.code.getD "UnknownError" ++ "): " ++ error.text) false
  | .error error => fatal bucketName error.text false
  | .ok state =>
      if state = "FAILED" ∨ state = "CANCELLED" then
        fatal bucketName ("Athena query " ++
          wording.repr execution.queryExecutionId ++ " " ++ lower state ++
          " for bucket " ++ wording.repr bucketName ++ ": " ++ getQueryFailureReason execution)
          (isJournalUnavailableReason (getQueryFailureReason execution))
      else readRows wording execution bucketName

/-- `read_journal`. -/
def readJournal (wording : Wording) (athena : Athena) (bucketName workGroup outputLocation : String)
    (sinceTimestamp untilTimestamp : Option String) :
    Except Raised (List ReadOperation × List JournalReadError) :=
  match buildQuery (bucketNamespace bucketName) bucketName sinceTimestamp untilTimestamp with
  | none => .error (.valueError wording.badWatermark)
  | some queryString =>
      match athena ⟨queryString, workGroup, outputLocation⟩ with
      | .error error =>
          .ok (fatal bucketName ("Athena start_query_execution failed for bucket " ++
            wording.repr bucketName ++ " (" ++
            error.code.getD "UnknownError" ++ "): " ++ error.text)
              (isJournalUnavailableReason error.text))
      | .ok execution => .ok (readExecution wording execution bucketName)

end Rows

section Lists
variable (wording : Wording) (athena : Athena) (bucketName workGroup outputLocation : String)

/-- All rows of a result, or a `RuntimeError` of the component. -/
def fetchRows (component : String) (queryString : List Char) : Except Raised (List (List String)) :=
  let raised (cause detail : String) : Except Raised (List (List String)) :=
    .error (.runtimeError (component ++ " " ++ cause ++ " for " ++
      wording.repr bucketName ++ ": " ++ detail))
  match athena ⟨queryString, workGroup, outputLocation⟩ with
  | .error error => raised "start_query failed" error.text
  | .ok execution =>
      match pollQuery wording execution with
      | .error error => raised "poll failed" error.text
      | .ok state =>
          if state = "FAILED" ∨ state = "CANCELLED" then
            raised ("query " ++ lower state) (getQueryFailureReason execution)
          else
            match iterResultRows execution.results with
            | (_, some error) => raised "result fetch failed" error.text
            | (rows, none) => .ok rows

/-- `int(rows[0][0])`, or zero where there is no number. -/
def firstCount (rows : List (List String)) : Int :=
  ((rows.head?.bind List.head?).bind fun text => Json.readInt text.toList).getD 0

/-- `preflight_count`. -/
def preflightCount (rules : List DerivedReplicationRule)
    (sinceTimestamp untilTimestamp : Option String) :
    Except Raised Int :=
  match preflightQuery (bucketNamespace bucketName) bucketName rules
    sinceTimestamp untilTimestamp with
  | none => .error (.valueError wording.badWatermark)
  | some queryString =>
      (fetchRows wording athena bucketName workGroup outputLocation "Preflight_Counter"
        queryString).map firstCount

/-- The pair that a row stands for, if it has a key. -/
def deletedPair : List String → Option (String × Option String)
  | key :: versionId :: _ => if key = "" then none else some (key, orNone (some versionId))
  | _ => none

/-- `read_permanent_deletes`. -/
def readPermanentDeletes (sinceWindowStart : Option String) :
    Except Raised (Finset (String × Option String)) :=
  match permanentDeletesQuery (bucketNamespace bucketName) bucketName sinceWindowStart with
  | none => .error (.valueError wording.badWatermark)
  | some queryString =>
      (fetchRows wording athena bucketName workGroup outputLocation "Permanent_Delete_Reader"
          queryString).map fun rows =>
        (rows.filterMap deletedPair).toFinset

end Lists
end ReplicateOnTag.JournalSession

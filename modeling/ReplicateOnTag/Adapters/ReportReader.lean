import ReplicateOnTag.Library.ByteText
import ReplicateOnTag.Library.Csv
import ReplicateOnTag.Library.FirstFailure
import ReplicateOnTag.Library.JsonValue
import ReplicateOnTag.Library.Md5
import ReplicateOnTag.Library.UnicodeDigits
import ReplicateOnTag.Library.WhiteSpace
import ReplicateOnTag.Core.WatermarkText
import ReplicateOnTag.Core.ManifestCsv
import ReplicateOnTag.Adapters.CompletionState

/-! The manifest-led reading of a completion report from the state bucket. A value
is returned or an error raised, under the messages of the source. -/
namespace ReplicateOnTag.ReportReader
open FirstFailure IsoTime ManifestCsv PercentEncoding

/-- What `GetObject` and the reading of its body lead to. -/
inductive GetReply where
  | body (bytes : List UInt8)
  /-- A `ClientError` with the code of its response. -/
  | clientError (code : Option String)
  /-- A response without a body that can be read. -/
  | noBody
  /-- A body that is not `bytes`. -/
  | notBytes
  | raises (exception : String)

/-- What a read depends on outside the code: the objects of the state bucket, and
the `datetime.fromisoformat` of the runtime, where `none` is a `ValueError`. -/
structure Source where
  getObject : String → GetReply
  fromisoformat : String → Option Datetime

inductive ReportError where
  | valueError (message : String)
  /-- `CompletionReportNotReady`. -/
  | notReady (message : String)
  /-- `CompletionReportMalformed`. -/
  | malformed (message : String)
  | clientError (code : Option String)
  | raised (exception : String)
  | unicodeDecodeError
  | csvError
  /-- The `ValueError` of `int` on digits that are no decimals. -/
  | invalidLiteral (digits : List Char)
  | runtimeError (message : String)

/-- A task of a job with all columns the reader keeps. -/
structure ReportEntry where
  sourceBucket : String
  objectKey : String
  versionId : Option String
  errorCode : Option String
  taskStatus : Option String
  httpStatusCode : Option String
  resultMessage : Option String
  deriving DecidableEq

def ReportEntry.row (entry : ReportEntry) : StateStore.ReportRow :=
  ⟨entry.objectKey, entry.versionId, entry.taskStatus⟩

/-- `BopsCompletionReport`. -/
structure Report where
  createdAt : Instant
  entries : List ReportEntry

def Report.summary (report : Report) : StateStore.BopsCompletionReport :=
  ⟨report.createdAt, report.entries.map ReportEntry.row⟩

section Objects

def notFoundCodes : List String := ["404", "NoSuchKey", "NotFound"]

/-- `_get_object_body`. -/
def getObjectBody (source : Source) (key : String) : Except ReportError (List UInt8) :=
  match source.getObject key with
  | .body bytes => .ok bytes
  | .clientError code =>
      if code.any (· ∈ notFoundCodes)
        then .error (.notReady ("report object is not available: " ++ key))
      else .error (.clientError code)
  | .noBody => .error (.malformed ("report object has no readable body: " ++ key))
  | .notBytes => .error (.malformed ("report object body is not bytes: " ++ key))
  | .raises exception => .error (.raised exception)

/-- `_manifest_key`. -/
def manifestKey (reportPrefix jobId : String) : String :=
  reportPrefix ++ "/job-" ++ jobId ++ "/manifest.json"

end Objects

section Checksums

def hexdigest (body : List UInt8) : String := String.ofList (ByteText.hex (Md5.digest body))

def base64digest (body : List UInt8) : String :=
  String.ofList (ByteText.b64encode (Md5.digest body))

/-- `_is_valid_md5_checksum`. -/
def isValidMd5Checksum (checksum : String) : Bool :=
  if checksum.toList.length = Md5.digestSize * 2 then (ByteText.fromhex checksum.toList).isSome
  else (ByteText.b64decode checksum.toList).any fun decoded => decoded.length = Md5.digestSize

/-- `_verify_md5`. -/
def verifyMd5 (body : List UInt8) (expectedChecksum key : String) : Except ReportError Unit :=
  let digest := Md5.digest body
  let actualChecksum :=
    if expectedChecksum.toList.length = digest.length * 2 then hexdigest body else base64digest body
  require (actualChecksum = expectedChecksum)
    (.malformed ("report result checksum does not match: " ++ key))

end Checksums

section Manifest
open Json (Members get)

def reportFormat : String := "Report_CSV_20180820"

def reportSchema : List String :=
  ["Bucket", "Key", "VersionId", "TaskStatus", "ErrorCode", "HTTPStatusCode", "ResultMessage"]

/-- `_parse_manifest`. -/
def parseManifest (body : List UInt8) : Except ReportError Members :=
  match (decodeStrict body).bind fun text => Json.loads (String.ofList text) with
  | none => .error (.malformed "report manifest is not valid JSON")
  | some (.object manifest) => .ok manifest
  | some _ => .error (.malformed "report manifest must be an object")

def isText (expected : String) : Json → Bool
  | .str text => text = expected
  | _ => false

def schemaColumns (schema : String) : List String :=
  (schema.toList.splitOn ',').map fun part => String.ofList (WhiteSpace.strip part)

def checkSchema (manifest : Members) : Except ReportError Unit :=
  match get manifest "ReportSchema" with
  | .str schema =>
      require (schemaColumns schema = reportSchema)
        (.malformed "report manifest has an unsupported schema")
  | _ => .error (.malformed "report manifest has an unsupported schema")

/-- `creation_date.replace("Z", "+00:00")`. -/
def withoutZulu (date : String) : String :=
  String.ofList (date.toList.flatMap fun c => if c = 'Z' then "+00:00".toList else [c])

/-- A creation date with a time zone, as the instant it names. -/
def creationDate (source : Source) (manifest : Members) : Except ReportError Instant :=
  match get manifest "ReportCreationDate" with
  | .str date =>
      match source.fromisoformat (withoutZulu date) with
      | none => .error (.malformed "report manifest has an invalid creation date")
      | some createdAt =>
          if createdAt.offset = none then
            .error (.malformed "report manifest creation date has no timezone")
          else .ok (WatermarkText.utcInstant createdAt)
  | _ => .error (.malformed "report manifest has no creation date")

def listedResults (manifest : Members) : Except ReportError (List Json) :=
  match get manifest "Results" with
  | .list results => .ok results
  | _ => .error (.malformed "report manifest has no results list")

/-- An entry of `validated_results`. -/
structure ResultDescriptor where
  key : String
  md5Checksum : String
  keyed : key ≠ ""
  checked : isValidMd5Checksum md5Checksum = true

def validateResult : Json → Except ReportError ResultDescriptor
  | .object result =>
      match get result "Key" with
      | .str key =>
          if unkeyed : key = "" then .error (.malformed "report result has no object key")
          else
            match get result "MD5Checksum" with
            | .str checksum =>
                if checked : isValidMd5Checksum checksum then .ok ⟨key, checksum, unkeyed, checked⟩
                else .error (.malformed "report result has an invalid MD5 checksum")
            | _ => .error (.malformed "report result has no MD5 checksum")
      | _ => .error (.malformed "report result has no object key")
  | _ => .error (.malformed "report manifest contains an invalid result descriptor")

/-- `_validate_manifest`. -/
def validateManifest (source : Source) (manifest : Members) :
    Except ReportError (Instant × List ResultDescriptor) :=
  (require (isText reportFormat (get manifest "Format"))
    (.malformed "report manifest has an unsupported format")).bind fun _ =>
  (checkSchema manifest).bind fun _ =>
  (creationDate source manifest).bind fun createdAt =>
  (listedResults manifest).bind fun results =>
  (each validateResult results).map fun validated => (createdAt, validated)

end Manifest

section Rows

/-- `_looks_like_http_status`. -/
def looksLikeHttpStatus (value : String) : Except ReportError Bool :=
  let candidate := WhiteSpace.strip value.toList
  if candidate.length = 3 ∧ candidate.all UnicodeDigits.isDigit then
    match UnicodeDigits.readDecimal candidate with
    | none => .error (.invalidLiteral candidate)
    | some status => .ok (100 ≤ status && status ≤ 599)
  else .ok false

/-- `_resolve_status_and_error`; the first column is looked at only when the
second looks like a status. -/
def resolveStatusAndError (first second : String) : Except ReportError (String × String) :=
  (looksLikeHttpStatus second).bind fun secondLooks =>
    if secondLooks then
      (looksLikeHttpStatus first).map fun firstLooks =>
        if firstLooks then (first, second) else (second, first)
    else .ok (first, second)

/-- The seven columns of a row. -/
structure Row where
  bucket : Csv.Field
  encodedKey : Csv.Field
  versionIdRaw : Csv.Field
  taskStatus : Csv.Field
  first : Csv.Field
  second : Csv.Field
  resultMessage : Csv.Field

def Row.columns (row : Row) : List Csv.Field :=
  [row.bucket, row.encodedKey, row.versionIdRaw, row.taskStatus, row.first,
    row.second, row.resultMessage]

/-- The row under the other order of the status and the error column. -/
def Row.swapped (row : Row) : Row := { row with first := row.second, second := row.first }

def nonempty (text : String) : Option String := if text = "" then none else some text

def Row.entry (row : Row) (httpStatus errorCode : String) : ReportEntry where
  sourceBucket := String.ofList row.bucket
  objectKey := unquote (String.ofList row.encodedKey)
  versionId := normalizeVersionId (String.ofList row.versionIdRaw)
  errorCode := nonempty errorCode
  taskStatus := nonempty (String.ofList row.taskStatus)
  httpStatusCode := nonempty httpStatus
  resultMessage := nonempty (String.ofList row.resultMessage)

def malformedRow : ReportError := .malformed "report contains a malformed row"

def parseRow : List Csv.Field → Except ReportError ReportEntry
  | [bucket, encodedKey, versionIdRaw, taskStatus, first, second, resultMessage] =>
      if bucket = [] ∨ encodedKey = [] then .error malformedRow
      else
        (resolveStatusAndError (String.ofList first) (String.ofList second)).map fun resolved =>
          Row.entry ⟨bucket, encodedKey, versionIdRaw, taskStatus, first, second, resultMessage⟩
            resolved.1 resolved.2
  | _ => .error malformedRow

/-- `csv.field_size_limit()`. -/
@[irreducible] def fieldSizeLimit : Nat := 131072

/-- `_parse_report_csv`; the rows before an error of the reader are parsed first. -/
def parseReportCsv (csvText : List Char) : Except ReportError (List ReportEntry) :=
  let (rows, whole) := Csv.records fieldSizeLimit csvText
  (each parseRow (rows.filter (· ≠ []))).bind fun entries =>
    if whole then .ok entries else .error .csvError

end Rows

section Reading

def identity (entry : ReportEntry) : String × String × Option String :=
  (entry.sourceBucket, entry.objectKey, entry.versionId)

/-- One pass of the loop over the result descriptors. -/
def readResult (source : Source)
    (result : ResultDescriptor) : Except ReportError (List ReportEntry) :=
  (getObjectBody source result.key).bind fun body =>
  (verifyMd5 body result.md5Checksum result.key).bind fun _ =>
    match decodeStrict body with
    | none => .error .unicodeDecodeError
    | some csvText => parseReportCsv csvText

/-- `read_bops_completion_report`. -/
def readBopsCompletionReport (source : Source) (reportPrefix jobId : String)
    (expectedRowCount : Int) :
    Except ReportError Report :=
  (require (0 ≤ expectedRowCount) (.valueError "expected_row_count must not be negative")).bind
    fun _ =>
  (getObjectBody source (manifestKey reportPrefix jobId)).bind fun body =>
  (parseManifest body).bind fun manifest =>
  (validateManifest source manifest).bind fun (createdAt, results) =>
  (each (readResult source) results).bind fun tables =>
    let entries := tables.flatten
    (require ((entries.length : Int) = expectedRowCount)
      (.malformed s!"report contains {entries.length} rows; expected {expectedRowCount}")).bind
        fun _ =>
    (require ((entries.map identity).toFinset.card = entries.length)
      (.malformed "report contains duplicate object identities")).map fun _ => ⟨createdAt, entries⟩

end Reading
end ReplicateOnTag.ReportReader

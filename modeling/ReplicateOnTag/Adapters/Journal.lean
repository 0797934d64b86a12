import ReplicateOnTag.Core.RuleMatcher
import ReplicateOnTag.Library.OrderStatistic
import Mathlib.Data.List.Sort
import Mathlib.Data.List.Dedup

/-! The S3 Metadata journal as a list of rows, with the queries that are run
against it. `record_timestamp` is never null; rows that tie on it are read in
the order of the list. -/
namespace ReplicateOnTag

inductive RecordType where
  | updateMetadata
  | delete
  | put
  | copy
  | restore
  | other (name : String)
  deriving DecidableEq

structure JournalRow where
  bucket : String
  key : String
  versionId : Option String
  recordType : RecordType
  objectTags : Option TagSet
  sequenceNumber : String
  recordTimestamp : Instant
  lastModifiedDate : Option Instant
  storageClass : Option String
  isDeleteMarker : Option Bool
  deriving DecidableEq

abbrev Journal := List JournalRow

namespace JournalRow

def watermark (row : JournalRow) : Watermark := Watermark.toWatermark row.recordTimestamp

end JournalRow

structure JournalReadError where
  bucket : String
  cause : String
  isFatal : Bool
  sequenceNumber : Option String
  objectKey : Option String
  isJournalUnavailable : Bool
  deriving DecidableEq

namespace AthenaJournal
open Watermark

/-- `text or None`. -/
def orNone (text : Option String) : Option String := text.filter fun value => value ≠ ""

def redactObjectKey (key : String) : String :=
  if key = "" then "<redacted-key empty>"
  else
    "<redacted-key sha256:" ++ String.ofList ((Sha256.hexdigest key).toList.take 12) ++ " len=" ++
      toString key.length ++ ">"

def rowError (bucket cause : String) (row : JournalRow) : JournalReadError :=
  ⟨bucket, cause, false, orNone (some row.sequenceNumber), orNone (some row.key), false⟩

/-- `_parse_row`. A row needs a key and a tag set that is present and not empty. -/
def parseRow (row : JournalRow) (bucketName : String) : Except JournalReadError TaggingOperation :=
  let bucket := if row.bucket = "" then bucketName else row.bucket
  if row.key = "" then .error (rowError bucket "missing object key in journal record" row)
  else
    match row.objectTags with
    | none =>
        .error (rowError bucket ("missing or inaccessible resulting_tags for key " ++
          redactObjectKey row.key ++ " (possible tag-read permission issue)") row)
    | some tags =>
        if tags.entries.isEmpty then
          .error (rowError bucket ("empty resulting_tags for key " ++ redactObjectKey row.key) row)
        else
          .ok
            { sourceBucket := bucket
              objectKey := row.key
              resultingTagSet := some tags
              sequenceNumber := row.sequenceNumber
              eventTime := row.recordTimestamp
              operationVersion := orNone row.versionId
              lastModified := row.lastModifiedDate
              storageClass := orNone row.storageClass }

section Queries
variable (journal : Journal) (bucketName : String)

/-- `bucket = '…' AND record_type = 'UPDATE_METADATA'`. -/
def isTaggingRecord (row : JournalRow) : Bool :=
  row.bucket = bucketName ∧ row.recordType = .updateMetadata

/-- Above `since`, which at the epoch is no bound, and not past `upTo`. -/
def inRange (since : Watermark) (upTo : Option Watermark) (row : JournalRow) : Bool :=
  since < row.watermark && upTo.all fun bound => row.watermark ≤ bound

def taggingRows (since : Watermark) (upTo : Option Watermark) : List JournalRow :=
  journal.filter fun row => isTaggingRecord bucketName row && inRange since upTo row

def timestamps (since : Watermark) (upTo : Option Watermark) : List Instant :=
  ((taggingRows journal bucketName since upTo).map JournalRow.recordTimestamp).insertionSort (· ≤ ·)

/-- `find_row_count_boundary`: the instant of the `rowCap`-th row above `since`. -/
def findRowCountBoundary (since : Watermark) (rowCap : Nat) : Option Watermark :=
  (timestamps journal bucketName since none)[rowCap - 1]?.map toWatermark

def findTailRowCount (windowStart watermark : Watermark) : Nat :=
  (taggingRows journal bucketName windowStart (some watermark)).length

/-- `find_tail_floor`: the instant of the row one past the allowance, counted
back from the watermark. -/
def findTailFloor (windowStart watermark : Watermark) (tailAllowance : Nat) : Option Watermark :=
  (timestamps journal bucketName windowStart
    (some watermark)).reverse[tailAllowance]?.map toWatermark

def parsed (result : Except JournalReadError TaggingOperation) : Option TaggingOperation :=
  match result with
  | .ok op => some op
  | .error _ => none

def rejected (result : Except JournalReadError TaggingOperation) : Option JournalReadError :=
  match result with
  | .ok _ => none
  | .error error => some error

/-- `read_journal` when its query succeeds. -/
def readJournal (since : Watermark) (upTo : Option Watermark) :
    List TaggingOperation × List JournalReadError :=
  let rows := (taggingRows journal bucketName since upTo).insertionSort
    fun first second => first.recordTimestamp ≤ second.recordTimestamp
  (rows.filterMap fun row => parsed (parseRow row bucketName),
    rows.filterMap fun row => rejected (parseRow row bucketName))

end Queries

section Preflight
variable (journal : Journal) (bucketName : String)

/-- The clause of `build_rule_predicate` for one rule; a null tag map satisfies
no tag equality. -/
def satisfiesRule (row : JournalRow) (rule : DerivedReplicationRule) : Bool :=
  (rule.tagFilter.entries.all fun entry =>
    (row.objectTags.bind fun tags => tags.get? entry.1) = some entry.2) &&
    match rule.keyPrefix with
    | none => true
    | some keyPrefix => RuleMatcher.startsWith row.key keyPrefix

def rulePredicate (rules : List DerivedReplicationRule) (row : JournalRow) : Bool :=
  rules.any (satisfiesRule row)

/-- `preflight_count`: distinct keys, over the rows that were read. -/
def preflightCount (rules : List DerivedReplicationRule) (since : Watermark)
    (upTo : Option Watermark) : Nat :=
  (((taggingRows journal bucketName since upTo).filter (rulePredicate rules)).map
    JournalRow.key).dedup.length

end Preflight

section Deletes
variable (journal : Journal) (bucketName : String)

/-- `PERMANENT_DELETE_SQL_PREDICATE`. -/
def isPermanentDelete (row : JournalRow) : Bool :=
  row.recordType = .delete && !row.isDeleteMarker.getD false

/-- A write of a new null version supersedes the one before it. -/
def supersedesNullVersion (row : JournalRow) : Bool :=
  (row.recordType = .put || row.recordType = .copy || row.recordType = .restore) &&
    row.versionId.isNone

/-- `read_permanent_deletes`: bounded below and open above. -/
def readPermanentDeletes (since : Watermark) : List (String × Option String) :=
  let rows := journal.filter fun row => row.bucket = bucketName &&
    since < row.watermark && row.key ≠ ""
  ((rows.filter isPermanentDelete).map fun row => (row.key, orNone row.versionId)) ++
    (rows.filter supersedesNullVersion).map fun row => (row.key, none)

end Deletes

section Reading
variable {journal : Journal} {bucketName : String}

theorem mem_taggingRows :
    row ∈ taggingRows journal bucketName since upTo ↔
      row ∈ journal ∧ isTaggingRecord bucketName row ∧ inRange since upTo row := by
  simp only [taggingRows, List.mem_filter, Bool.and_eq_true]

theorem inRange_iff :
    inRange since upTo row ↔ since < row.watermark ∧ ∀ bound, upTo = some bound →
      row.watermark ≤ bound := by
  cases upTo <;> simp [inRange]

/-- What a parsed operation keeps of its row. -/
theorem parseRow_ok (tagging : isTaggingRecord bucketName row)
    (accepted : parseRow row bucketName = .ok op) :
    op.sourceBucket = bucketName ∧ op.objectKey = row.key ∧ op.resultingTagSet = row.objectTags ∧
      op.watermark = row.watermark := by
  have own : row.bucket = bucketName := (of_decide_eq_true tagging).1
  rw [parseRow] at accepted
  simp only [own, ite_self] at accepted
  split at accepted
  · cases accepted
  · split at accepted
    · cases accepted
    · rename_i tags present
      split at accepted
      · cases accepted
      · cases accepted
        exact ⟨rfl, rfl, present.symm, rfl⟩

/-- Every operation read passes the checks that precede deduplication. -/
theorem parseRow_valid (accepted : parseRow row bucketName = .ok op) :
    op.objectKey ≠ "" ∧ ∃ tags, op.resultingTagSet = some tags ∧ tags.entries ≠ [] := by
  unfold parseRow at accepted
  simp only at accepted
  split at accepted
  · cases accepted
  · rename_i keyed
    split at accepted
    · cases accepted
    · rename_i tags _
      split at accepted
      · cases accepted
      · rename_i tagged
        cases accepted
        exact ⟨keyed, tags, rfl, fun empty => tagged (by simp [empty])⟩

theorem parsed_eq_some : parsed result = some op ↔ result = .ok op := by
  cases result <;> simp [parsed]

theorem mem_readJournal :
    op ∈ (readJournal journal bucketName since upTo).1 ↔
      ∃ row ∈ journal, isTaggingRecord bucketName row ∧ inRange since upTo row ∧
        parseRow row bucketName = .ok op := by
  simp only [readJournal, List.mem_filterMap, List.mem_insertionSort, mem_taggingRows,
    parsed_eq_some, and_assoc]

theorem readJournal_sourceBucket (read : op ∈ (readJournal journal bucketName since upTo).1) :
    op.sourceBucket = bucketName := by
  obtain ⟨row, _, tagging, _, accepted⟩ := mem_readJournal.mp read
  exact (parseRow_ok tagging accepted).1

/-- A read is the part of the whole journal inside its bounds. -/
theorem mem_readJournal_iff_range :
    op ∈ (readJournal journal bucketName since upTo).1 ↔
      op ∈ (readJournal journal bucketName epoch none).1 ∧ since < op.watermark ∧
        ∀ bound, upTo = some bound → op.watermark ≤ bound := by
  simp only [mem_readJournal, inRange_iff]
  constructor
  · rintro ⟨row, member, tagging, ⟨above, below⟩, accepted⟩
    have same := (parseRow_ok tagging accepted).2.2.2
    rw [same]
    exact ⟨⟨row, member, tagging, ⟨epoch_lt_toWatermark _, by simp⟩, accepted⟩, above, below⟩
  · rintro ⟨⟨row, member, tagging, _, accepted⟩, above, below⟩
    have same := (parseRow_ok tagging accepted).2.2.2
    rw [same] at above below
    exact ⟨row, member, tagging, ⟨above, below⟩, accepted⟩

end Reading

section Bounds
variable {journal : Journal} {bucketName : String}

theorem taggingRows_above {low high : Watermark} (le : low ≤ high) :
    taggingRows journal bucketName high upTo =
      (taggingRows journal bucketName low upTo).filter fun row => high < row.watermark := by
  rw [taggingRows, taggingRows, List.filter_filter]
  refine List.filter_congr fun row _ => ?_
  by_cases above : high < row.watermark
  · simp [inRange, above, lt_of_le_of_lt le above]
  · simp [inRange, above]

/-- A bound that moves to or past a row has fewer rows above it. -/
theorem taggingRows_shrink {low high : Watermark} (le : low ≤ high)
    (passed : row ∈ taggingRows journal bucketName low none) (below : row.watermark ≤ high) :
    (taggingRows journal bucketName high none).length <
    (taggingRows journal bucketName low none).length := by
  rw [taggingRows_above le, List.length_filter_lt_length_iff_exists]
  exact ⟨row, passed, by simpa using below⟩

theorem mem_timestamps (member : instant ∈ timestamps journal bucketName since upTo) :
    ∃ row ∈ taggingRows journal bucketName since upTo, row.recordTimestamp = instant :=
  List.mem_map.mp ((List.mem_insertionSort _).mp member)

/-- The boundary is the instant of a row above the bound it was anchored at. -/
theorem findRowCountBoundary_row
    (found : findRowCountBoundary journal bucketName since rowCap = some boundary) :
    ∃ row ∈ taggingRows journal bucketName since none, row.watermark = boundary := by
  rw [findRowCountBoundary] at found
  obtain ⟨instant, position, rfl⟩ := Option.map_eq_some_iff.mp found
  obtain ⟨row, member, same⟩ := mem_timestamps (List.mem_of_getElem? position)
  exact ⟨row, member, congrArg toWatermark same⟩

theorem lt_findRowCountBoundary
    (found : findRowCountBoundary journal bucketName since rowCap = some boundary) :
    since < boundary := by
  obtain ⟨row, member, rfl⟩ := findRowCountBoundary_row found
  exact (inRange_iff.mp (mem_taggingRows.mp member).2.2).1

theorem findTailFloor_range
    (found : findTailFloor journal bucketName windowStart watermark allowance = some bound) :
    windowStart < bound ∧ bound ≤ watermark := by
  rw [findTailFloor] at found
  obtain ⟨instant, position, rfl⟩ := Option.map_eq_some_iff.mp found
  obtain ⟨row, member, rfl⟩ := mem_timestamps (List.mem_reverse.mp (List.mem_of_getElem? position))
  have range := inRange_iff.mp (mem_taggingRows.mp member).2.2
  exact ⟨range.1, range.2 watermark rfl⟩

theorem findRowCountBoundary_eq : findRowCountBoundary journal bucketName since rowCap =
    (OrderStatistic.fromLeast
      ((taggingRows journal bucketName since none).map JournalRow.recordTimestamp)
      (rowCap - 1)).map toWatermark := rfl

theorem findTailFloor_eq : findTailFloor journal bucketName windowStart watermark allowance =
    (OrderStatistic.fromGreatest ((taggingRows journal bucketName windowStart (some watermark)).map
      JournalRow.recordTimestamp) allowance).map toWatermark := rfl

/-- Fewer rows than the cap lie below the boundary. -/
theorem count_below_boundary
    (found : findRowCountBoundary journal bucketName since rowCap = some boundary) :
    ((taggingRows journal bucketName since none).filter fun row =>
      row.watermark < boundary).length ≤
      rowCap - 1 := by
  rw [findRowCountBoundary_eq] at found
  obtain ⟨instant, ranked, rfl⟩ := Option.map_eq_some_iff.mp found
  have count := OrderStatistic.count_below_fromLeast ranked
  rw [List.filter_map, List.length_map] at count
  simpa only [Function.comp_def, JournalRow.watermark, toWatermark_lt_toWatermark] using count

/-- No more tail rows than the allowance lie above its floor. -/
theorem count_above_floor
    (found : findTailFloor journal bucketName windowStart watermark allowance = some bound) :
    ((taggingRows journal bucketName windowStart (some watermark)).filter
      fun row => bound < row.watermark).length ≤ allowance := by
  rw [findTailFloor_eq] at found
  obtain ⟨instant, ranked, rfl⟩ := Option.map_eq_some_iff.mp found
  have count := OrderStatistic.count_above_fromGreatest ranked
  rw [List.filter_map, List.length_map] at count
  simpa only [Function.comp_def, JournalRow.watermark, toWatermark_lt_toWatermark] using count

/-- Without a floor the whole tail fits the allowance. -/
theorem tail_fits
    (absent : findTailFloor journal bucketName windowStart watermark allowance = none) :
    findTailRowCount journal bucketName windowStart watermark ≤ allowance := by
  rw [findTailFloor_eq, Option.map_eq_none_iff] at absent
  have count := OrderStatistic.length_le_of_fromGreatest_none absent
  rwa [List.length_map] at count

end Bounds

section Counting
variable {journal : Journal} {bucketName : String}

/-- Nothing is counted exactly when no row of the range satisfies a rule. -/
theorem preflightCount_eq_zero_iff :
    preflightCount journal bucketName rules since upTo = 0 ↔
      ∀ row ∈ taggingRows journal bucketName since upTo, rulePredicate rules row = false := by
  rw [preflightCount, List.length_eq_zero_iff, List.dedup_eq_nil, List.map_eq_nil_iff,
    List.filter_eq_nil_iff]
  simp only [Bool.not_eq_true]

/-- A rule that the matcher satisfies is satisfied by the row's SQL clause. -/
theorem rulePredicate_of_matches (tagging : isTaggingRecord bucketName row)
    (accepted : parseRow row bucketName = .ok op) (matching : RuleMatcher.Matches rules op) :
    rulePredicate rules row := by
  obtain ⟨_, key, tags, _⟩ := parseRow_ok tagging accepted
  obtain ⟨tagSet, present, rule, member, _, satisfied⟩ := matching
  rw [tags] at present
  rw [key] at satisfied
  refine List.any_eq_true.mpr ⟨rule, member, ?_⟩
  rw [RuleMatcher.ruleSatisfies] at satisfied
  rw [satisfiesRule]
  simp only [present, Option.bind_some]
  cases prefixed : rule.keyPrefix <;> simpa [prefixed] using satisfied

end Counting
end AthenaJournal
end ReplicateOnTag

import ReplicateOnTag.Adapters.EventTime
import ReplicateOnTag.Adapters.JournalQueries

/-! The journal as a table, and what the queries of its readers come out as. -/
namespace ReplicateOnTag.JournalAnswers
open SqlQuery AthenaJournal JournalQueries CivilTime Watermark
open WatermarkText (fixedWidthYear)

section Table

/-- A value of a row or of a result. -/
inductive Cell where
  | text (value : Option String)
  | tags (value : Option TagSet)
  | json (value : Option TagSet)
  | moment (value : Option Instant)
  | flag (value : Option Bool)
  | count (value : Nat)
  deriving DecidableEq

def Cell.asText : Cell → Option (Option (List Char))
  | .text value => some (value.map String.toList)
  | _ => none

def Cell.asMap : Cell → Option (Option (List Char → Option (List Char)))
  | .tags value => some (value.map fun tags key =>
      (tags.get? (String.ofList key)).map String.toList)
  | _ => none

def Cell.asMoment : Cell → Option (Option Instant)
  | .moment value => some value
  | _ => none

def Cell.asFlag : Cell → Option (Option Bool)
  | .flag value => some value
  | _ => none

def recordTypeName : RecordType → String
  | .updateMetadata => "UPDATE_METADATA"
  | .delete => "DELETE"
  | .put => "PUT"
  | .copy => "COPY"
  | .restore => "RESTORE"
  | .other name => name

def columns (row : JournalRow) : List (List Char × Cell) :=
  [("bucket".toList, .text (some row.bucket)), ("key".toList, .text (some row.key)),
    ("version_id".toList, .text row.versionId),
      ("record_type".toList, .text (some (recordTypeName row.recordType))),
    ("object_tags".toList, .tags row.objectTags),
      ("sequence_number".toList, .text (some row.sequenceNumber)),
    ("record_timestamp".toList, .moment (some row.recordTimestamp)),
    ("last_modified_date".toList, .moment row.lastModifiedDate),
      ("storage_class".toList, .text row.storageClass),
    ("is_delete_marker".toList, .flag row.isDeleteMarker)]

def column (row : JournalRow) (name : List Char) : Option Cell := (columns row).lookup name

def cast (type : List Char) : Cell → Option Cell
  | .tags value => if type = "JSON".toList then some (.json value) else none
  | _ => none

def null (type : List Char) : Option Cell :=
  if type = "VARCHAR".toList then some (.text none) else none

/-- `timestamp '%Y-%m-%d %H:%M:%S.%f'`, a time of UTC. -/
def readMoment (text : List Char) : Option Instant :=
  (EventTime.readStamp ⟨' ', true, []⟩ text).map Civil.instant

def engine : Engine JournalRow Cell Instant where
  row row := { text := fun name => (column row name).bind Cell.asText
               map := fun name => (column row name).bind Cell.asMap }
  moment row name := (column row name).bind Cell.asMoment
  flag row name := (column row name).bind Cell.asFlag
  cell := column
  cast := cast
  null := null
  count := .count
  readMoment := readMoment

end Table

section Conditions
variable {row : JournalRow}

/-- No other type of record has one of the names that the queries look for. -/
def Named (row : JournalRow) : Prop :=
  ∀ name, row.recordType = .other name →
    name ∉ ["UPDATE_METADATA", "DELETE", "PUT", "COPY", "RESTORE"]

theorem recordTypeName_eq_iff (named : Named row) (type : RecordType)
    (member : type ∈ [RecordType.updateMetadata, .delete, .put, .copy, .restore]) :
    recordTypeName row.recordType = recordTypeName type ↔ row.recordType = type := by
  refine ⟨fun same => ?_, congrArg recordTypeName⟩
  simp only [List.mem_cons, List.not_mem_nil, or_false] at member
  cases own : row.recordType with
  | other name =>
    rw [own] at same
    have absent := named name own
    rcases member with rfl | rfl | rfl | rfl | rfl <;>
      exact absurd (show name ∈ _ by rw [show name = _ from same]; decide) absent
  | _ =>
    rw [own] at same
    rcases member with rfl | rfl | rfl | rfl | rfl <;> first | rfl | exact absurd same (by decide)

theorem eval_textIs (row : JournalRow) (name value : String) {text : String}
    (found : column row name.toList = some (.text (some text))) :
    (textIs name value).eval engine row = some (.ofBool (text = value)) := by
  have same : decide (text.toList = value.toList) = decide (text = value) :=
    decide_eq_decide.mpr String.toList_inj
  have own : (Sql.Operand.column name.toList).value (engine.row row) = some (some text.toList) :=
    congrArg (Option.bind · Cell.asText) found
  rw [textIs, Condition.eval, Sql.eval, own, Option.map_some]
  exact congrArg (fun holds => some (Sql.Truth.ofBool holds)) same

theorem decides_tagging (named : Named row) (bucketName : String) :
    DecidesAll engine row [textIs "bucket" bucketName, textIs "record_type" "UPDATE_METADATA"]
      (isTaggingRecord bucketName row) := by
  have type := recordTypeName_eq_iff named .updateMetadata (by decide)
  have bucket := decidesAll_single (eval_textIs row "bucket" bucketName rfl)
    Sql.Truth.ofBool_eq_true_iff
  have tagging := decidesAll_single (eval_textIs row "record_type" "UPDATE_METADATA" rfl)
    Sql.Truth.ofBool_eq_true_iff
  rw [decide_eq_true_eq] at bucket tagging
  rw [isTaggingRecord, decide_eq_true_eq, ← type]
  exact bucket.append tagging

/-- The text of a time in a year of four digits is what it is shown as. -/
theorem literalText_eq {civil : Civil} (wide : fixedWidthYear ≤ civil.date.year) :
    literalText civil = EventTime.stampText ' '
      ('.' :: Decimal.pad 6 civil.clock.microsecond) civil := by
  rw [literalText, WatermarkText.year_text wide, EventTime.stampText]

theorem readMoment_literalText {civil : Civil} (wide : fixedWidthYear ≤ civil.date.year) :
    readMoment (literalText civil) = some civil.instant := by
  have shape := EventTime.Fraction.digits 6 civil.clock.microsecond (by decide) (by decide)
    civil.clock.microsecondInRange (Nat.mul_one _).symm
  have read : EventTime.readStamp ⟨' ', true, []⟩
      (EventTime.stampText ' ' (('.' :: Decimal.pad 6 civil.clock.microsecond) ++ []) civil) = _ :=
    EventTime.readStamp_shape shape (.inl rfl) (by decide) (.inl rfl) (by decide)
  rw [List.append_nil] at read
  rw [readMoment, literalText_eq wide, read]
  rfl

/-- The bounds of a query stand for times in years of four digits. -/
def Wide (bound : Option Civil) : Prop := ∀ civil ∈ bound, fixedWidthYear ≤ civil.date.year

def sinceMark (lower : Option Civil) : Watermark :=
  (lower.map fun civil => toWatermark civil.instant).getD epoch

def upToMark (upper : Option Civil) : Option Watermark :=
  upper.map fun civil => toWatermark civil.instant

theorem eval_above {civil : Civil} (wide : fixedWidthYear ≤ civil.date.year) :
    (Condition.above recordTimestamp (literalText civil)).eval engine row =
      some (.ofBool (civil.instant < row.recordTimestamp)) := by
  have own : engine.moment row recordTimestamp = some (some row.recordTimestamp) := rfl
  have bound : engine.readMoment (literalText civil) = some civil.instant :=
    readMoment_literalText wide
  rw [Condition.eval, own, Option.bind_some, bound]
  rfl

theorem eval_notPast {civil : Civil} (wide : fixedWidthYear ≤ civil.date.year) :
    (Condition.notPast recordTimestamp (literalText civil)).eval engine row =
      some (.ofBool (row.recordTimestamp ≤ civil.instant)) := by
  have own : engine.moment row recordTimestamp = some (some row.recordTimestamp) := rfl
  have bound : engine.readMoment (literalText civil) = some civil.instant :=
    readMoment_literalText wide
  rw [Condition.eval, own, Option.bind_some, bound]
  rfl

theorem decides_bounds {lower upper : Option Civil} (wide : Wide lower)
    (wide' : Wide upper) (row : JournalRow) :
    DecidesAll engine row (boundConditions (lower.map literalText) (upper.map literalText))
      (inRange (sinceMark lower) (upToMark upper) row) := by
  have above : DecidesAll engine row
      ((lower.map literalText).map (Condition.above recordTimestamp)).toList
      (sinceMark lower < row.watermark) := by
    cases lower with
    | none => exact decidesAll_nil (epoch_lt_toWatermark _) row
    | some civil =>
      have means : civil.instant < row.recordTimestamp ↔ sinceMark (some civil) < row.watermark :=
        toWatermark_lt_toWatermark.symm
      exact decidesAll_single (eval_above (wide civil rfl))
        (Sql.Truth.ofBool_eq_true_iff.trans (decide_eq_true_iff.trans means))
  have notPast : DecidesAll engine row
      ((upper.map literalText).map (Condition.notPast recordTimestamp)).toList
      (∀ bound, upToMark upper = some bound → row.watermark ≤ bound) := by
    cases upper with
    | none => exact decidesAll_nil nofun row
    | some civil =>
      have means : row.recordTimestamp ≤ civil.instant ↔
          ∀ bound, upToMark (some civil) = some bound → row.watermark ≤ bound := by
        simp [upToMark, JournalRow.watermark]
      exact decidesAll_single (eval_notPast (wide' civil rfl))
        (Sql.Truth.ofBool_eq_true_iff.trans (decide_eq_true_iff.trans means))
  rw [inRange_iff]
  exact above.append notPast

theorem decides_window {lower upper : Option Civil} (named : Named row)
    (wide : Wide lower) (wide' : Wide upper)
    (bucketName : String) :
    DecidesAll engine row (windowConditions bucketName (lower.map literalText)
      (upper.map literalText))
      (isTaggingRecord bucketName row && inRange (sinceMark lower) (upToMark upper) row) := by
  rw [Bool.and_eq_true]
  exact (decides_tagging named bucketName).append (decides_bounds wide wide' row)

theorem decides_rules (row : JournalRow) (rules : List DerivedReplicationRule) :
    DecidesAll engine row [.plain (Preflight.rulesTest rules)] (rulePredicate rules row) := by
  have extends_ : Extends (Preflight.rowColumns row) (engine.row row) := by
    constructor
    · intro name value found
      obtain ⟨rfl, rfl⟩ : name = "key".toList ∧ value = some row.key.toList := by
        simp only [Preflight.rowColumns] at found
        split at found
        · exact ⟨‹_›, (Option.some.inj found).symm⟩
        · cases found
      rfl
    · intro name value found
      simp only [Preflight.rowColumns] at found
      split at found
      · subst name
        exact found
      · cases found
  obtain ⟨truth, evaluates, means⟩ := Preflight.decides_rulesTest row rules
  have own : (Condition.plain (Preflight.rulesTest rules)).eval engine row = some truth :=
    extends_.eval evaluates
  exact decidesAll_single own means

end Conditions
section Answering
variable {catalog : Catalog JournalRow} {journal : Journal} {bucketName : String}
  {lower upper : Option Civil}

theorem records_window (stored : catalog (journalPath bucketName) = some journal)
    (named : ∀ row ∈ journal, Named row)
    (wide : Wide lower) (wide' : Wide upper) (output : Output) :
    Core.records engine catalog
      ⟨output, journalPath bucketName,
        windowConditions bucketName (lower.map literalText) (upper.map literalText)⟩ =
        some (taggingRows journal bucketName (sinceMark lower) (upToMark upper)) := by
  rw [Core.records, stored, Option.bind_some]
  exact selected_eq _ journal fun row member =>
    decides_window (named row member) wide wide' bucketName

section Ordering

def inOrder (descending : Bool) (rows : List JournalRow) : List JournalRow :=
  rows.insertionSort fun first second =>
    precedes descending (some first.recordTimestamp) (some second.recordTimestamp)

theorem arrange_inOrder (descending : Bool) (rows : List JournalRow) :
    arrange engine (some ⟨recordTimestamp, descending⟩) rows = some (inOrder descending rows) :=
  arrange_eq rows fun _ => rfl

theorem inOrder_false (rows : List JournalRow) :
    inOrder false rows = rows.insertionSort fun first second =>
      first.recordTimestamp ≤ second.recordTimestamp :=
  insertionSort_congr (fun first second => by simp [precedes]) rows

/-- The instant at a rank, from the oldest or from the newest. -/
def ranked (descending : Bool) (instants : List Instant) (rank : Nat) : Option Instant :=
  if descending then OrderStatistic.fromGreatest instants rank
    else OrderStatistic.fromLeast instants rank

theorem ranked_inOrder (descending : Bool) (rows : List JournalRow) (rank : Nat) :
    ((inOrder descending rows).map JournalRow.recordTimestamp)[rank]? =
      ranked descending (rows.map JournalRow.recordTimestamp) rank := by
  cases descending with
  | false =>
    have mapped := List.map_insertionSort (fun first second : JournalRow =>
      first.recordTimestamp ≤ second.recordTimestamp) (· ≤ ·) JournalRow.recordTimestamp rows
        fun _ _ _ _ => Iff.rfl
    rw [inOrder_false, mapped]
    rfl
  | true =>
    have mapped := List.map_insertionSort (fun first second : JournalRow =>
      precedes true (some first.recordTimestamp) (some second.recordTimestamp)) (· ≥ ·)
        JournalRow.recordTimestamp rows
      fun _ _ _ _ => by simp [precedes]
    rw [inOrder, mapped, OrderStatistic.insertionSort_ge]
    rfl

end Ordering

/-- A row of the result that `read_journal` asks for. -/
def resultRow (row : JournalRow) : List Cell :=
  [.text (some row.bucket), .text (some row.key), .text row.versionId,
    .text (some (recordTypeName row.recordType)),
    .json row.objectTags, .text (some row.sequenceNumber), .moment (some row.recordTimestamp),
    .moment row.lastModifiedDate, .text row.storageClass]

theorem answer_window (stored : catalog (journalPath bucketName) = some journal)
    (named : ∀ row ∈ journal, Named row)
    (wide : Wide lower) (wide' : Wide upper) :
    (windowQuery bucketName (lower.map literalText) (upper.map literalText)).answer engine catalog =
      some ((inOrder false (taggingRows journal bucketName (sinceMark lower) (upToMark upper))).map
        resultRow) := by
  have shown : ∀ row, cells engine rowItems row = some (resultRow row) := fun _ => rfl
  rw [windowQuery, Query.answer, records_window stored named wide wide', Option.bind_some,
    arrange_inOrder, Option.bind_some, Output.rows, mapM_eq_map _ fun row _ => shown row]
  rfl

theorem answer_rank (stored : catalog (journalPath bucketName) = some journal)
    (named : ∀ row ∈ journal, Named row)
    (wide : Wide lower) (wide' : Wide upper) (descending : Bool) (rank : Nat) :
    (rankQuery bucketName (lower.map literalText) (upper.map literalText) descending
      rank).answer engine catalog =
      some ((ranked descending ((taggingRows journal bucketName
        (sinceMark lower) (upToMark upper)).map
        JournalRow.recordTimestamp) rank).toList.map fun instant => [.moment (some instant)]) := by
  have shown : ∀ row, cells engine [.column recordTimestamp] row =
      some [.moment (some row.recordTimestamp)] :=
    fun _ => rfl
  rw [rankQuery, Query.answer, records_window stored named wide wide', Option.bind_some,
    arrange_inOrder, Option.bind_some, Output.rows, mapM_eq_map _ fun row _ => shown row,
    ← ranked_inOrder]
  rw [Option.map_some, Option.map_some, if_neg Bool.false_ne_true, page, List.take_one,
    List.head?_drop, List.getElem?_map, List.getElem?_map]
  cases (inOrder descending _)[rank]? <;> rfl

theorem answer_count (stored : catalog (journalPath bucketName) = some journal)
    (named : ∀ row ∈ journal, Named row)
    (wide : Wide lower) (wide' : Wide upper) :
    (countQuery bucketName (lower.map literalText) (upper.map literalText)).answer engine catalog =
      some [[.count (taggingRows journal bucketName (sinceMark lower)
        (upToMark upper)).length]] := by
  rw [countQuery, Query.answer, records_window stored named wide wide']
  rfl

theorem answer_candidates (stored : catalog (journalPath bucketName) = some journal)
    (named : ∀ row ∈ journal, Named row) (wide : Wide lower) (wide' : Wide upper)
    (rules : List DerivedReplicationRule) :
    (candidatesQuery bucketName rules (lower.map literalText)
      (upper.map literalText)).answer engine catalog =
      some [[.count (preflightCount journal bucketName rules (sinceMark lower)
        (upToMark upper))]] := by
  have records : Core.records engine catalog ⟨.countDistinct "key".toList, journalPath bucketName,
      windowConditions bucketName (lower.map literalText) (upper.map literalText) ++
        [.plain (Preflight.rulesTest rules)]⟩ =
          some ((taggingRows journal bucketName (sinceMark lower) (upToMark upper)).filter
            (rulePredicate rules)) := by
    rw [Core.records, stored, Option.bind_some, taggingRows, List.filter_filter]
    refine selected_eq _ journal fun row member => ?_
    rw [Bool.and_eq_true, and_comm]
    exact (decides_window (named row member) wide wide' bucketName).append (decides_rules row rules)
  have keys : ∀ row : JournalRow, (engine.row row).text "key".toList =
    some (some row.key.toList) := fun _ => rfl
  rw [candidatesQuery, Query.answer, records, Option.bind_some, arrange, Option.bind_some,
    Output.rows,
    mapM_eq_map _ fun row _ => keys row, Option.map_some, Option.map_some,
      List.filterMap_map, preflightCount]
  have distinct (rows : List JournalRow) :
      (rows.filterMap fun row => some row.key.toList).dedup.length =
      (rows.map JournalRow.key).dedup.length := by
    have mapped : (rows.filterMap fun row => some row.key.toList) =
        (rows.map JournalRow.key).map String.toList := by
      rw [List.map_map]
      exact congrFun List.filterMap_eq_map rows
    rw [mapped, List.dedup_map_of_injective fun _ _ => String.toList_injective, List.length_map]
  exact congrArg (fun n => some [[Cell.count n]]) (distinct _)

/-- Above the bound, and of the bucket. -/
def isRecent (bucketName : String) (lower : Option Civil) (row : JournalRow) : Bool :=
  row.bucket = bucketName && sinceMark lower < row.watermark

theorem decides_recent (wide : Wide lower) (row : JournalRow) (bucketName : String)
    (own : DecidesAll engine row conditions holds) :
    DecidesAll engine row (textIs "bucket" bucketName ::
      (conditions ++ boundConditions (lower.map literalText) none))
      (isRecent bucketName lower row ∧ holds) := by
  have bucket := decidesAll_single (eval_textIs row "bucket" bucketName rfl)
    Sql.Truth.ofBool_eq_true_iff
  have bounds := decides_bounds wide (show Wide none from nofun) row
  rw [decide_eq_true_eq] at bucket
  have means : isRecent bucketName lower row ∧ holds ↔
      row.bucket = bucketName ∧ holds ∧ inRange (sinceMark lower) (upToMark none) row := by
    simp [isRecent, inRange, upToMark]
    tauto
  rw [means]
  exact bucket.append (own.append bounds)

theorem decides_permanentDelete (named : Named row) :
    DecidesAll engine row [textIs "record_type" "DELETE",
      .flagIs "is_delete_marker".toList false false]
      (isPermanentDelete row) := by
  have type := recordTypeName_eq_iff named .delete (by decide)
  have deleted := decidesAll_single (eval_textIs row "record_type" "DELETE" rfl)
    Sql.Truth.ofBool_eq_true_iff
  have evaluates : (Condition.flagIs "is_delete_marker".toList false false).eval engine row =
      some (.ofBool (row.isDeleteMarker.getD false = false)) := rfl
  have marked := decidesAll_single evaluates Sql.Truth.ofBool_eq_true_iff
  rw [decide_eq_true_eq] at deleted marked
  rw [isPermanentDelete, Bool.and_eq_true, decide_eq_true_eq, Bool.not_eq_true', ← type]
  exact deleted.append marked

theorem decides_supersedes (named : Named row) :
    DecidesAll engine row [.oneOf "record_type".toList
      ["PUT".toList, "COPY".toList, "RESTORE".toList],
      .isNull "version_id".toList] (supersedesNullVersion row) := by
  have evaluates : (Condition.oneOf "record_type".toList ["PUT".toList, "COPY".toList,
      "RESTORE".toList]).eval engine row =
      some (.ofBool ((recordTypeName row.recordType).toList ∈
        ["PUT".toList, "COPY".toList, "RESTORE".toList])) := rfl
  have written := decidesAll_single evaluates Sql.Truth.ofBool_eq_true_iff
  have null : (Condition.isNull "version_id".toList).eval engine row =
      some (.ofBool row.versionId.isNone) := by
    have own : (engine.row row).text "version_id".toList =
      some (row.versionId.map String.toList) := rfl
    rw [Condition.eval, own, Option.map_some, Option.isNone_map]
  have versioned := decidesAll_single null Sql.Truth.ofBool_eq_true_iff
  have put := recordTypeName_eq_iff named .put (by decide)
  have copy := recordTypeName_eq_iff named .copy (by decide)
  have restore := recordTypeName_eq_iff named .restore (by decide)
  simp only [decide_eq_true_eq, List.mem_cons, List.not_mem_nil, or_false,
    String.toList_inj] at written
  rw [supersedesNullVersion, Bool.and_eq_true]
  simp only [Bool.or_eq_true, decide_eq_true_eq, ← put, ← copy, ← restore, or_assoc]
  exact written.append versioned

/-- The rows of either part of the result that `read_permanent_deletes` asks for. -/
def deleteRow (row : JournalRow) : List Cell := [.text (some row.key), .text row.versionId]

def supersedeRow (row : JournalRow) : List Cell := [.text (some row.key), .text none]

theorem rows_recent (stored : catalog (journalPath bucketName) = some journal) (items : List Item)
    {holds : JournalRow → Bool} {result : JournalRow → List Cell}
    (each : ∀ row ∈ journal, DecidesAll engine row conditions
      (isRecent bucketName lower row ∧ holds row))
    (shown : ∀ row, cells engine items row = some (result row)) :
    Core.rows engine catalog ⟨.columns true items, journalPath bucketName, conditions⟩ =
      some ((journal.filter fun row => isRecent bucketName lower row &&
        holds row).map result).dedup := by
  have kept := selected_eq (fun row => isRecent bucketName lower row && holds row)
      journal fun row member => by
    rw [Bool.and_eq_true]
    exact each row member
  rw [Core.rows, Core.records, stored, Option.bind_some, kept, Option.bind_some, Output.rows,
    mapM_eq_map _ fun row _ => shown row]
  rfl

/-- The rows of the result are the versions that a recent record deletes or supersedes. -/
def ListsDeletes (journal : Journal) (bucketName : String) (lower : Option Civil)
    (rows : List (List Cell)) : Prop :=
  ∀ cells, cells ∈ rows ↔ ∃ row ∈ journal, isRecent bucketName lower row ∧
    (isPermanentDelete row ∧ deleteRow row = cells ∨ supersedesNullVersion row ∧
      supersedeRow row = cells)

theorem answer_deletes (stored : catalog (journalPath bucketName) = some journal)
    (named : ∀ row ∈ journal, Named row)
    (wide : Wide lower) : ∃ rows,
      (deletesQuery bucketName (lower.map literalText)).answer engine catalog = some rows ∧
      ListsDeletes journal bucketName lower rows := by
  have shown : ∀ row, cells engine [.column "key".toList, .column "version_id".toList] row =
      some (deleteRow row) :=
    fun _ => rfl
  have shown' : ∀ row, cells engine [.column "key".toList, .castNull "VARCHAR".toList] row =
      some (supersedeRow row) :=
    fun _ => rfl
  have deletes := rows_recent stored _
    (fun row member => decides_recent wide row bucketName
      (decides_permanentDelete (named row member))) shown
  have supersedes := rows_recent stored _
    (fun row member => decides_recent wide row bucketName
      (decides_supersedes (named row member))) shown'
  have both := congrArg (Option.map fun rows : List (List (List Cell)) => rows.flatten.dedup)
    (mapM_pair deletes supersedes)
  refine ⟨_, both, fun cells => ?_⟩
  simp only [List.mem_dedup, List.flatten_cons, List.flatten_nil, List.append_nil, List.mem_append,
    List.mem_map, List.mem_filter, Bool.and_eq_true]
  grind

end Answering
end ReplicateOnTag.JournalAnswers

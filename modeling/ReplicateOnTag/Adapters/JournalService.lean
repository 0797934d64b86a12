import ReplicateOnTag.Adapters.JournalBounds
import ReplicateOnTag.Adapters.JournalSession
import ReplicateOnTag.Library.JsonLayout

/-! What a service that runs the queries is taken to do: it answers them from the
tables, shows each value in a text of its own, and hands the rows out in pages.
What is read of such an answer is what was shown. -/
namespace ReplicateOnTag.JournalSession
open SqlQuery JournalAnswers JournalQueries CivilTime EventTime Watermark
open WatermarkText (fixedWidthYear)

section Service

def tagMembers (tags : TagSet) : Json.Members :=
  (tags.mapValues fun _ value => Json.str value).entries

/-- How the service shows a value in a result. -/
inductive Prints : Cell → Option String → Prop where
  | null : Prints (.text none) none
  | text (value : String) : Prints (.text (some value)) (some value)
  | noTags : Prints (.json none) none
  | json (layout : Json.Layout) (tags : TagSet) :
      Prints (.json (some tags)) (some (Json.layText layout (.object (tagMembers tags))))
  | never : Prints (.moment none) none
  | moment {civil : Civil} {text : List Char} (shows_ : Shows civil text) :
      Prints (.moment (some civil.instant)) (some (String.ofList text))
  | count (n : Nat) : Prints (.count n) (some (String.ofList (Nat.toDigits 10 n)))

/-- The pages hold the rows in their order, unless one of them fails. -/
inductive Continues : List ResultRow → Pages → Prop where
  | last : Continues rows (.last rows)
  | more (given : nextToken ≠ "") (rest : Continues later next) :
      Continues (rows ++ later) (.more rows nextToken next)
  | failed : Continues rows (.failed error)

/-- A header comes before the rows. -/
inductive Delivers : List ResultRow → Pages → Prop where
  | last : Delivers rows (.last (header :: rows))
  | more (given : nextToken ≠ "") (rest : Continues later next) :
      Delivers (rows ++ later) (.more (header :: rows) nextToken next)
  | failed : Delivers rows (.failed error)

/-- A query that succeeds is answered from the tables. -/
def Serves (athena : Athena) (catalog : Catalog JournalRow) : Prop :=
  ∀ request execution, athena request = .ok execution →
    ∀ asked, execution.state asked = .ok "SUCCEEDED" →
    ∃ rows printed, Answers engine catalog request.queryString rows ∧
      List.Forall₂ (List.Forall₂ Prints) rows printed ∧ Delivers printed execution.results

/-- The query is started, ends within the polls, and no page of its result fails. -/
def Undisturbed (wording : Wording) (athena : Athena) (request : Request) : Prop :=
  ∃ execution, athena request = .ok execution ∧ pollQuery wording execution = .ok "SUCCEEDED" ∧
    (iterResultRows execution.results).2 = none

end Service

section Sessions
variable {wording : Wording} {athena : Athena} {catalog : Catalog JournalRow} {request : Request}

theorem poll_ok (done : poll wording execution left asked = .ok state) :
    (∃ at_, execution.state at_ = .ok state) ∧ state ∈ ["SUCCEEDED", "FAILED", "CANCELLED"] := by
  induction left generalizing asked with
  | zero => cases done
  | succ left ih =>
    rw [poll] at done
    cases answer : execution.state asked with
    | error error =>
      rw [answer] at done
      cases done
    | ok own =>
      rw [answer] at done
      dsimp only at done
      split at done
      · cases done
        exact ⟨⟨asked, answer⟩, ‹_›⟩
      · exact ih done

/-- The rows that are seen are the first ones, and all of them if no page fails. -/
theorem laterRows_continues (continues : Continues rows pages) :
    (laterRows pages).1 <+: rows.map rowTexts ∧
    ((laterRows pages).2 = none → (laterRows pages).1 = rows.map rowTexts) := by
  induction continues with
  | last => exact ⟨List.prefix_rfl, fun _ => rfl⟩
  | more given rest ih =>
    rw [laterRows, if_neg given, List.map_append]
    exact ⟨(List.prefix_append_right_inj _).mpr ih.1, fun whole => by rw [ih.2 whole]⟩
  | failed => exact ⟨List.nil_prefix, nofun⟩

theorem iterResultRows_delivers (delivers : Delivers rows pages) :
    (iterResultRows pages).1 <+: rows.map rowTexts ∧
    ((iterResultRows pages).2 = none → (iterResultRows pages).1 = rows.map rowTexts) := by
  cases delivers with
  | last => exact laterRows_continues .last
  | more given rest => exact laterRows_continues (.more given rest)
  | failed => exact ⟨List.nil_prefix, nofun⟩

/-- A reader that raises was disturbed, and what it returns otherwise is good. -/
def Faithful (wording : Wording) (athena : Athena) (request : Request)
    (result : Except Raised α) (good : α → Prop) :
    Prop :=
  match result with
  | .error _ => ¬ Undisturbed wording athena request
  | .ok found => good found

theorem Faithful.mono {result : Except Raised α}
    (faithful : Faithful wording athena request result good)
    (weaker : ∀ found, good found → fine found) : Faithful wording athena request result fine := by
  cases result with
  | error raised => exact faithful
  | ok found => exact weaker found faithful

/-- What comes after a faithful reader has only its good results to read. -/
theorem Faithful.bind {result : Except Raised α} {next : α → Except Raised β}
    (faithful : Faithful wording athena request result good)
    (reads : ∀ found, good found → ∃ value, next found = .ok value ∧ fine value) :
    Faithful wording athena request (result.bind next) fine := by
  cases result with
  | error raised => exact faithful
  | ok found =>
    obtain ⟨value, read, holds⟩ := reads found faithful
    rw [Except.bind, read]
    exact holds

/-- A query of which a reader can be faithful to every answer. -/
def Answered (catalog : Catalog JournalRow) (request : Request)
    (texts : List (List String)) : Prop :=
  ∃ rows printed, Answers engine catalog request.queryString rows ∧
    List.Forall₂ (List.Forall₂ Prints) rows printed ∧
    texts = printed.map rowTexts

theorem not_undisturbed (refused : athena request = .error error) :
    ¬ Undisturbed wording athena request := by
  rintro ⟨execution, started, _⟩
  rw [refused] at started
  cases started

theorem undisturbed_iff (wording : Wording) (started : athena request = .ok execution) :
    Undisturbed wording athena request ↔ pollQuery wording execution = .ok "SUCCEEDED" ∧
      (iterResultRows execution.results).2 = none := by
  constructor
  · rintro ⟨own, started', ended⟩
    rw [started] at started'
    cases started'
    exact ended
  · exact fun ended => ⟨execution, started, ended⟩

/-- What is seen of a query that succeeds is the beginning of its answer. -/
theorem answered_of_succeeded (serves : Serves athena catalog)
    (started : athena request = .ok execution)
    (polled : pollQuery wording execution = .ok "SUCCEEDED") : ∃ texts,
      Answered catalog request texts ∧
      (iterResultRows execution.results).1 <+: texts ∧
      ((iterResultRows execution.results).2 = none →
        (iterResultRows execution.results).1 = texts) := by
  obtain ⟨⟨asked, answer⟩, _⟩ := poll_ok polled
  obtain ⟨rows, printed, answers, prints, delivers⟩ := serves request execution started asked answer
  exact ⟨_, ⟨rows, printed, answers, prints, rfl⟩, iterResultRows_delivers delivers⟩

/-- What can become of a request: it was disturbed, or its answer was seen. -/
inductive Session (wording : Wording) (athena : Athena) (catalog : Catalog JournalRow)
    (request : Request) : Prop where
  | refused (started : athena request = .error error)
      (disturbed : ¬ Undisturbed wording athena request)
  | unended (started : athena request = .ok execution)
      (polled : pollQuery wording execution = .error raised)
      (disturbed : ¬ Undisturbed wording athena request)
  | failed (started : athena request = .ok execution)
      (polled : pollQuery wording execution = .ok state)
      (failed : state = "FAILED" ∨ state = "CANCELLED")
      (disturbed : ¬ Undisturbed wording athena request)
  | cut (started : athena request = .ok execution)
      (polled : pollQuery wording execution = .ok "SUCCEEDED")
      (read : iterResultRows execution.results = (seen, some error))
      (answered : Answered catalog request texts)
      (begins : seen <+: texts) (disturbed : ¬ Undisturbed wording athena request)
  | whole (started : athena request = .ok execution)
      (polled : pollQuery wording execution = .ok "SUCCEEDED")
      (read : iterResultRows execution.results = (texts, none))
      (answered : Answered catalog request texts)

theorem session (serves : Serves athena catalog) (wording : Wording) (request : Request) :
    Session wording athena catalog request := by
  cases started : athena request with
  | error error => exact .refused started (not_undisturbed started)
  | ok execution =>
    have undisturbed := undisturbed_iff wording started
    cases polled : pollQuery wording execution with
    | error raised =>
      rw [polled] at undisturbed
      exact .unended started polled fun own => nomatch (undisturbed.mp own).1
    | ok state =>
      rw [polled] at undisturbed
      by_cases failed : state = "FAILED" ∨ state = "CANCELLED"
      · refine .failed started polled failed fun own => ?_
        obtain rfl := Except.ok.inj (undisturbed.mp own).1
        exact absurd failed (by decide)
      · -- a poll ends in one of three states only
        have listed := (poll_ok polled).2
        simp only [List.mem_cons, List.not_mem_nil, or_false, failed] at listed
        subst listed
        obtain ⟨texts, answered, begins, whole⟩ := answered_of_succeeded serves started polled
        rcases read : iterResultRows execution.results with ⟨seen, _ | error⟩
          <;> rw [read] at begins whole undisturbed
        · rw [← whole rfl] at answered
          exact .whole started polled read answered
        · exact .cut started polled read answered begins fun own => nomatch (undisturbed.mp own).2

theorem not_succeeded (failed : state = "FAILED" ∨ state = "CANCELLED") : state ≠ "SUCCEEDED" := by
  rcases failed with rfl | rfl <;> decide

theorem runScalarQuery_faithful (serves : Serves athena catalog) :
    Faithful wording athena request (runScalarQuery wording athena request) fun raw =>
      ∃ texts, Answered catalog request texts ∧ raw = texts.head?.bind List.head? := by
  rw [runScalarQuery]
  cases session serves wording request with
  | refused started disturbed =>
    rw [started]
    exact disturbed
  | unended started polled disturbed =>
    simp only [started, polled]
    exact disturbed
  | failed started polled failed disturbed =>
    simp only [started, polled, if_pos (not_succeeded failed)]
    exact disturbed
  | @cut execution seen error texts started polled read answered begins disturbed =>
    simp only [started, polled, read, ne_eq, not_true_eq_false, if_false]
    -- one row that was seen is enough, whatever page fails later
    cases seen with
    | nil => exact disturbed
    | cons row seen =>
      obtain ⟨rest, rfl⟩ := begins
      exact ⟨_, answered, rfl⟩
  | @whole execution texts started polled read answered =>
    simp only [started, polled, read, ne_eq, not_true_eq_false, if_false]
    cases texts with
    | nil => exact ⟨_, answered, rfl⟩
    | cons row texts => exact ⟨_, answered, rfl⟩

/-- All rows of an answer are fetched. -/
theorem fetchRows_faithful (serves : Serves athena catalog) (bucketName component : String) :
    Faithful wording athena request
      (fetchRows wording athena bucketName request.workGroup request.outputLocation
        component request.queryString)
      (Answered catalog request) := by
  rw [fetchRows]
  cases session serves wording request with
  | refused started disturbed =>
    simp only [started]
    exact disturbed
  | unended started polled disturbed =>
    simp only [started, polled]
    exact disturbed
  | failed started polled failed disturbed =>
    simp only [started, polled, if_pos failed]
    exact disturbed
  | cut started polled read answered begins disturbed =>
    simp only [started, polled, read, String.reduceEq, or_self, if_false]
    exact disturbed
  | whole started polled read answered =>
    simp only [started, polled, read, String.reduceEq, or_self, if_false]
    exact answered

end Sessions

section Answered
variable {athena : Athena} {catalog : Catalog JournalRow} {request : Request}
  {journal : Journal} {bucketName : String}

/-- A record that the queries can tell apart, dated in a year of four digits. -/
structure Recorded (row : JournalRow) : Prop where
  named : Named row
  dated : ∃ civil : Civil, fixedWidthYear ≤ civil.date.year ∧ civil.instant = row.recordTimestamp

/-- An answer is that of the query on some order of the journal. -/
theorem Answered.order (answered : Answered catalog request texts)
    (parsed : parse request.queryString = some query)
    (stored : catalog (journalPath bucketName) = some journal) :
    ∃ arranged order rows printed, arranged (journalPath bucketName) =
      some order ∧ order.Perm journal ∧
      query.answer engine arranged = some rows ∧ List.Forall₂ (List.Forall₂ Prints) rows printed ∧
      texts = printed.map rowTexts := by
  obtain ⟨rows, printed, answers, prints, same⟩ := answered
  obtain ⟨arranged, order, own, perm, answer⟩ := answers.arranged parsed stored
  exact ⟨arranged, order, rows, printed, own, perm, answer, prints, same⟩

theorem named_of_perm {order : Journal} (perm : order.Perm journal)
    (recorded : ∀ row ∈ journal, Recorded row) :
    ∀ row ∈ order, Named row := fun row member => (recorded row (perm.mem_iff.mp member)).named

theorem Prints.eq_of_count (prints : Prints (.count n) shown) :
    shown = some (String.ofList (Nat.toDigits 10 n)) := by
  cases prints with
  | count => rfl

theorem texts_count (prints : List.Forall₂ (List.Forall₂ Prints) [[.count n]] printed) :
    (printed.map rowTexts) = [[String.ofList (Nat.toDigits 10 n)]] := by
  obtain ⟨row, rest, shown, none_, rfl⟩ := List.forall₂_cons_left_iff.mp prints
  obtain ⟨cell, cells, value, none__, rfl⟩ := List.forall₂_cons_left_iff.mp shown
  rw [List.forall₂_nil_left_iff.mp none_, List.forall₂_nil_left_iff.mp none__, value.eq_of_count]
  simp only [List.map_cons, List.map_nil, rowTexts, Option.getD_some]

theorem Prints.eq_of_moment (prints : Prints (.moment (some instant)) shown) :
    ∃ (civil : Civil) (text : List Char), civil.instant = instant ∧ Shows civil text ∧
      shown = some (String.ofList text) := by
  cases prints with
  | moment shows_ => exact ⟨_, _, rfl, shows_, rfl⟩

/-- The only value of a result that holds a time stamp, or nothing. -/
theorem texts_moment {found : Option Instant}
    (prints : List.Forall₂ (List.Forall₂ Prints) (found.toList.map fun instant =>
      [.moment (some instant)]) printed) :
    (found = none ∧ (printed.map rowTexts).head?.bind List.head? = none) ∨
      ∃ (civil : Civil) (text : List Char), found = some civil.instant ∧ Shows civil text ∧
        (printed.map rowTexts).head?.bind List.head? = some (String.ofList text) := by
  cases found with
  | none =>
    cases prints
    exact .inl ⟨rfl, rfl⟩
  | some instant =>
    obtain ⟨row, rest, shown, none_, rfl⟩ := List.forall₂_cons_left_iff.mp prints
    obtain ⟨cell, cells, value, none__, rfl⟩ := List.forall₂_cons_left_iff.mp shown
    obtain ⟨civil, text, rfl, shows_, rfl⟩ := value.eq_of_moment
    exact .inr ⟨civil, text, rfl, shows_, rfl⟩

theorem toCanonical_eq (civil : Civil) : toCanonical civil =
    .ok (WatermarkText.strftime civil) := by
  rw [toCanonical, WatermarkText.toWatermark_utc, Option.elim_some]

theorem readTimestamp_shows (wording : Wording) (query : String) (shows_ : Shows civil text) :
    readTimestamp wording query (String.ofList text) = .ok (WatermarkText.strftime civil) := by
  rw [readTimestamp, parseEventTime_shows shows_]
  exact toCanonical_eq civil

/-- A time stamp is read as the watermark it stands for. -/
theorem readTimestampOrNone_shows {found : Option Instant} (wording : Wording) (query : String)
    (dated : ∀ instant ∈ found, ∃ civil : Civil, fixedWidthYear ≤ civil.date.year ∧
      civil.instant = instant)
    (prints : List.Forall₂ (List.Forall₂ Prints) (found.toList.map fun instant =>
      [.moment (some instant)]) printed) :
    ∃ watermark, readTimestampOrNone wording query
      ((printed.map rowTexts).head?.bind List.head?) = .ok watermark ∧
      watermark.map WatermarkText.meaning = found.map toWatermark ∧ Canonical watermark := by
  rcases texts_moment prints with ⟨rfl, none_⟩ | ⟨civil, text, rfl, shows_, some_⟩
  · rw [none_]
    exact ⟨none, rfl, rfl, nofun⟩
  · obtain ⟨own, wide, same⟩ := dated _ rfl
    obtain rfl := Civil.instant_injective same
    refine ⟨some (WatermarkText.strftime own), ?_, ?_, canonical_strftime wide⟩
    · rw [some_, readTimestampOrNone, readTimestamp_shows wording query shows_, Except.map]
    · rw [Option.map_some, Option.map_some, WatermarkText.meaning_strftime wide]

end Answered

section Rows

def textMember : String × Json → Option (String × String)
  | (key, .str text) => some (key, text)
  | _ => none

/-- The tags of an object whose members are all texts. -/
def tagSet (members : Json.Members) : Option TagSet := (members.mapM textMember).map Dict.ofList

/-- The operation that was read, if its tags are texts. -/
def ReadOperation.operation (read : ReadOperation) : Option TaggingOperation :=
  (tagSet read.resultingTagSet).map fun tags =>
    { sourceBucket := read.sourceBucket
      objectKey := read.objectKey
      resultingTagSet := some tags
      sequenceNumber := read.sequenceNumber
      eventTime := read.eventTime.instant
      operationVersion := read.operationVersion
      lastModified := read.lastModified.map Civil.instant
      storageClass := read.storageClass }

theorem tagSet_tagMembers (tags : TagSet) : tagSet (tagMembers tags) = some tags := by
  have each (entries : List (String × String)) :
      (entries.map fun entry => (entry.1, Json.str entry.2)).mapM textMember = some entries := by
    induction entries with
    | nil => rfl
    | cons entry entries ih =>
      rw [List.map_cons, List.mapM_cons, ih]
      rfl
  have members : tagMembers tags = tags.entries.map fun entry => (entry.1, Json.str entry.2) := rfl
  rw [tagSet, members, each, Option.map_some, Dict.ofList_entries]

theorem loads_tags (layout : Json.Layout) (tags : TagSet) :
    Json.loads (Json.layText layout (.object (tagMembers tags))) =
      some (.object (tagMembers tags)) := by
  have texts : ∀ text, Json.Exact (Json.str text) := fun text => by simp only [Json.Exact]
  exact Json.loads_layText layout _ (Json.exact_mapValues texts tags)

theorem layText_ne_empty (layout : Json.Layout) (tags : TagSet) :
    Json.layText layout (.object (tagMembers tags)) ≠ "" := by
  intro empty
  have read := loads_tags layout tags
  rw [empty] at read
  cases read

theorem Prints.eq_of_text (prints : Prints (.text value) shown) : shown = value := by
  cases prints <;> rfl

theorem Prints.modified (prints : Prints (.moment value) shown) :
    (parseEventTime (shown.getD "")).map Civil.instant = value := by
  cases prints with
  | never => rfl
  | moment shows_ => rw [Option.getD_some, parseEventTime_shows shows_, Option.map_some]

theorem orNone_getD (value : Option String) :
    AthenaJournal.orNone (some (value.getD "")) = AthenaJournal.orNone value := by
  cases value with
  | none => rfl
  | some value => rfl

/-- The texts of a row that stands for a record. -/
theorem texts_resultRow (prints : List.Forall₂ Prints (resultRow row) printed) :
    ∃ shownTags civil eventText shownModified, Prints (.json row.objectTags) shownTags ∧
      civil.instant = row.recordTimestamp ∧ Shows civil eventText ∧
      Prints (.moment row.lastModifiedDate) shownModified ∧
      rowTexts printed = [row.bucket, row.key, row.versionId.getD "", recordTypeName row.recordType,
        shownTags.getD "", row.sequenceNumber, String.ofList eventText, shownModified.getD "",
        row.storageClass.getD ""] := by
  simp only [resultRow, List.forall₂_cons_left_iff, List.forall₂_nil_left_iff] at prints
  obtain ⟨bucket, _, isBucket,
    ⟨key, _, isKey, ⟨version, _, isVersion, ⟨type, _, isType, ⟨tags, _, isTags,
    ⟨sequence, _, isSequence,
      ⟨event, _, isEvent, ⟨modified, _, isModified, ⟨storage, _, isStorage, rfl, rfl⟩, rfl⟩,
      rfl⟩, rfl⟩, rfl⟩, rfl⟩, rfl⟩, rfl⟩, rfl⟩ := prints
  obtain ⟨civil, eventText, same, shows_, rfl⟩ := isEvent.eq_of_moment
  obtain rfl := isBucket.eq_of_text
  obtain rfl := isKey.eq_of_text
  obtain rfl := isVersion.eq_of_text
  obtain rfl := isType.eq_of_text
  obtain rfl := isSequence.eq_of_text
  obtain rfl := isStorage.eq_of_text
  exact ⟨tags, civil, eventText, modified, isTags, same, shows_, isModified, rfl⟩

/-- A row is read as the record that it shows. -/
theorem parseRow_printed (wording : Wording) (bucketName : String)
    (prints : List.Forall₂ Prints (resultRow row) printed) :
    match AthenaJournal.parseRow row bucketName with
    | .ok op => ∃ read, parseRow wording (rowTexts printed) bucketName = .ok read ∧
        read.operation = some op
    | .error error => parseRow wording (rowTexts printed) bucketName = .error error := by
  obtain ⟨shownTags, civil, eventText, shownModified, isTags, same, shows_, isModified, texts⟩ :=
    texts_resultRow prints
  rw [texts, AthenaJournal.parseRow, parseRow]
  dsimp only
  by_cases keyed : row.key = ""
  · rw [if_pos keyed, if_pos keyed]
    rfl
  rw [if_neg keyed, if_neg keyed]
  generalize tagged : row.objectTags = objectTags at isTags ⊢
  cases isTags with
  | noTags => rfl
  | json layout tags =>
    have read : readTags wording (Json.layText layout (.object (tagMembers tags))) =
        .ok (tagMembers tags) := by
      rw [readTags, loads_tags]
    have empty : tagMembers tags = [] ↔ tags.entries.isEmpty := by
      rw [List.isEmpty_iff]
      exact List.map_eq_nil_iff
    dsimp only
    rw [Option.getD_some, if_neg (layText_ne_empty layout tags), read]
    dsimp only
    by_cases untagged : tags.entries.isEmpty
    · rw [if_pos untagged, if_pos (empty.mpr untagged)]
      rfl
    · rw [if_neg untagged, if_neg (mt empty.mp untagged), parseEventTime_shows shows_]
      refine ⟨_, rfl, ?_⟩
      have modified := isModified.modified
      rw [ReadOperation.operation, tagSet_tagMembers, Option.map_some]
      simp only [List.getElem?_cons_zero, List.getElem?_cons_succ, Option.bind_some, modified, same,
        orNone_getD]

/-- The rows of a result give the operations and the errors of their records. -/
theorem parseRows_printed (wording : Wording) (bucketName : String) {rows : List JournalRow}
    (prints : List.Forall₂ (List.Forall₂ Prints) (rows.map resultRow) printed) :
    ((printed.map rowTexts).filterMap fun row => (parseRow wording row bucketName).toOption).map
        ReadOperation.operation =
      (rows.filterMap fun row =>
        AthenaJournal.parsed (AthenaJournal.parseRow row bucketName)).map some ∧
    ((printed.map rowTexts).filterMap fun row => rejection (parseRow wording row bucketName)) =
      rows.filterMap fun row => AthenaJournal.rejected (AthenaJournal.parseRow row bucketName) := by
  induction rows generalizing printed with
  | nil =>
    cases prints
    exact ⟨rfl, rfl⟩
  | cons row rows ih =>
    obtain ⟨shown, rest, first, others, rfl⟩ := List.forall₂_cons_left_iff.mp prints
    have own := parseRow_printed wording bucketName first
    obtain ⟨operations, errors⟩ := ih others
    rw [List.map_cons, List.filterMap_cons, List.filterMap_cons, List.filterMap_cons,
      List.filterMap_cons]
    cases result : AthenaJournal.parseRow row bucketName with
    | error error =>
      rw [result] at own
      rw [own]
      exact ⟨operations, congrArg (error :: ·) errors⟩
    | ok op =>
      rw [result] at own
      obtain ⟨read, parsed, same⟩ := own
      rw [parsed]
      exact ⟨congrArg₂ (· :: ·) same operations, errors⟩

end Rows

end ReplicateOnTag.JournalSession

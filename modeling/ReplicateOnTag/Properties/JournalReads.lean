import ReplicateOnTag.Adapters.JournalService
import ReplicateOnTag.Core.JobRecovery
import ReplicateOnTag.Properties.ConfigGrammar
import ReplicateOnTag.Properties.PoisonedState

/-! What is read of the journal through Athena is the journal's own: each reader
that is not told of a failure returns what the queries of the journal give. -/
namespace ReplicateOnTag.JournalSession
open SqlQuery JournalAnswers JournalQueries CivilTime EventTime Watermark
open WatermarkText (fixedWidthYear)

section Readers
variable {wording : Wording} {athena : Athena} {catalog : Catalog JournalRow} {journal : Journal}
  {bucketName workGroup outputLocation : String} {lower upper : Option Civil}

theorem plainName_accepted (accepted : ConfigLoader.AcceptedName bucketName) :
    PlainName bucketName := by
  have other : ¬ ConfigLoader.NameChar '"' := by
    rw [ConfigLoader.NameChar, ConfigLoader.Alphanumeric, ConfigLoader.Lower]
    decide
  rcases (ConfigLoader.acceptedName_iff bucketName).mp accepted with ⟨_,
    shape | ⟨base, split, shape⟩⟩
  · exact fun member => other (shape.letters _ member)
  · rw [PlainName, split, List.mem_append, List.mem_singleton]
    rintro (member | newline)
    · exact other (shape.letters _ member)
    · cases newline

theorem scalar_faithful (serves : Serves athena catalog)
    (stored : catalog (journalPath bucketName) = some journal)
    (parsed : parse queryString = some query) :
    Faithful wording athena ⟨queryString, workGroup, outputLocation⟩
      (runText wording athena workGroup outputLocation (some queryString)) fun raw =>
        ∃ arranged order rows printed, arranged (journalPath bucketName) =
          some order ∧ order.Perm journal ∧
          query.answer engine arranged = some rows ∧
          List.Forall₂ (List.Forall₂ Prints) rows printed ∧
          raw = (printed.map rowTexts).head?.bind List.head? := by
  refine (runScalarQuery_faithful serves).mono ?_
  rintro raw ⟨texts, answered, rfl⟩
  obtain ⟨arranged, order, rows, printed, own, perm, answer, prints, rfl⟩ :=
    answered.order parsed stored
  exact ⟨arranged, order, rows, printed, own, perm, answer, prints, rfl⟩

theorem taggingRows_perm {order : Journal} (perm : order.Perm journal) (since : Watermark)
    (upTo : Option Watermark) :
    (AthenaJournal.taggingRows order bucketName since upTo).Perm
      (AthenaJournal.taggingRows journal bucketName since upTo) := perm.filter _

theorem ranked_perm {first second : List Instant} (perm : first.Perm second)
    (descending : Bool) (rank : Nat) :
    ranked descending first rank = ranked descending second rank := by
  rw [ranked, ranked, OrderStatistic.fromGreatest, OrderStatistic.fromGreatest,
    OrderStatistic.fromLeast, OrderStatistic.fromLeast, OrderStatistic.ascending_perm perm]

theorem mem_of_ranked {instants : List Instant}
    (found : ranked descending instants rank = some instant) :
    instant ∈ instants := by
  rw [ranked, OrderStatistic.fromGreatest, OrderStatistic.fromLeast] at found
  split at found
  · exact (List.mem_insertionSort _).mp (List.mem_reverse.mp (List.mem_of_getElem? found))
  · exact (List.mem_insertionSort _).mp (List.mem_of_getElem? found)

/-- The time stamp at a rank of a window is found as its watermark. -/
theorem rank_faithful (serves : Serves athena catalog)
    (stored : catalog (journalPath bucketName) = some journal)
    (recorded : ∀ row ∈ journal, Recorded row) (wide : Wide lower) (wide' : Wide upper)
    (parsed : parse queryString =
      some (rankQuery bucketName (lower.map literalText) (upper.map literalText) descending rank))
    (name : String) :
    Faithful wording athena ⟨queryString, workGroup, outputLocation⟩
      ((runText wording athena workGroup outputLocation (some queryString)).bind
        (readTimestampOrNone wording name))
      fun watermark => watermark.map WatermarkText.meaning =
        (ranked descending ((AthenaJournal.taggingRows journal bucketName
          (sinceMark lower) (upToMark upper)).map
          JournalRow.recordTimestamp) rank).map toWatermark ∧ Canonical watermark := by
  refine (scalar_faithful serves stored parsed).bind ?_
  rintro raw ⟨arranged, order, rows, printed, own, perm, answer, prints, rfl⟩
  rw [answer_rank own (named_of_perm perm recorded) wide wide', Option.some.injEq] at answer
  have windowed : (AthenaJournal.taggingRows order bucketName (sinceMark lower)
      (upToMark upper)).Perm
      (AthenaJournal.taggingRows journal bucketName (sinceMark lower) (upToMark upper)) :=
        taggingRows_perm perm _ _
  have same := ranked_perm (windowed.map JournalRow.recordTimestamp) descending rank
  rw [same] at answer
  subst answer
  refine readTimestampOrNone_shows wording name (fun instant found => ?_) prints
  obtain ⟨row, member, rfl⟩ := List.mem_map.mp (mem_of_ranked found)
  exact (recorded row (AthenaJournal.mem_taggingRows.mp member).1).dated

/-- The literal of a bound, if there is one. -/
def literals (bound : Option String) : Option (List Char) := bound.bind toAthenaTimestampLiteral

theorem literals_some {civil : Civil} (wide : fixedWidthYear ≤ civil.date.year) :
    literals (some (WatermarkText.strftime civil)) = some (literalText civil) :=
      toAthenaTimestampLiteral_strftime wide

theorem literals_strftime (wide : Wide lower) :
    literals (lower.map WatermarkText.strftime) = lower.map literalText := by
  cases lower with
  | none => rfl
  | some civil => exact literals_some (wide civil rfl)

/-- The text that was built is one that the service reads as the query that is meant. -/
structure Sends (text : Option (List Char)) (meant : Query) (queryString : List Char) : Prop where
  built : text = some queryString
  parsed : parse queryString = some meant

theorem exists_sends {text : Option (List Char)} (parsed : text.map parse = some (some meant)) :
    ∃ queryString, Sends text meant queryString := by
  obtain ⟨queryString, built, own⟩ := Option.map_eq_some_iff.mp parsed
  exact ⟨queryString, built, own⟩

/-- Whoever sends the query that is meant is told of a failure, or reads what is good. -/
def Reads (wording : Wording) (athena : Athena) (workGroup outputLocation : String)
    (text : Option (List Char))
    (meant : Query) (result : Except Raised α) (good : α → Prop) : Prop :=
  ∃ queryString, Sends text meant queryString ∧
    Faithful wording athena ⟨queryString, workGroup, outputLocation⟩ result good

theorem findRowCountBoundary_reads (serves : Serves athena catalog)
    (stored : catalog (journalPath bucketName) = some journal)
    (recorded : ∀ row ∈ journal, Recorded row)
    (plain : PlainName bucketName) (canonical : Canonical since) {rowCap : Int} (pos : 0 < rowCap) :
    Reads wording athena workGroup outputLocation
      (buildBoundaryQuery (bucketNamespace bucketName) bucketName since rowCap.toNat)
      (rankQuery bucketName (literals since) none false (rowCap.toNat - 1))
      (findRowCountBoundary wording athena bucketName workGroup outputLocation since
        rowCap) fun boundary =>
        boundary.map WatermarkText.meaning =
          AthenaJournal.findRowCountBoundary journal bucketName (mark since) rowCap.toNat ∧
            Canonical boundary := by
  obtain ⟨lower, wide, rfl⟩ := canonical.civil
  obtain ⟨queryString, sends⟩ := exists_sends (parse_buildBoundaryQuery plain wide rowCap.toNat)
  rw [literals_strftime wide]
  refine ⟨queryString, sends, ?_⟩
  rw [findRowCountBoundary, if_neg (not_le.mpr pos), sends.built,
    AthenaJournal.findRowCountBoundary_eq, mark_strftime wide]
  exact rank_faithful serves stored recorded wide (show Wide none from nofun)
    sends.parsed "Boundary"

theorem findTailFloor_reads (serves : Serves athena catalog)
    (stored : catalog (journalPath bucketName) = some journal)
    (recorded : ∀ row ∈ journal, Recorded row)
    (plain : PlainName bucketName) (canonical : Canonical (some windowStart))
    (canonical' : Canonical (some watermark))
    {tailAllowance : Int} (pos : 0 < tailAllowance) :
    Reads wording athena workGroup outputLocation
      (buildTailFloorQuery (bucketNamespace bucketName) bucketName windowStart
        watermark tailAllowance.toNat)
      (rankQuery bucketName (literals (some windowStart)) (literals (some watermark))
        true tailAllowance.toNat)
      (findTailFloor wording athena bucketName workGroup outputLocation windowStart watermark
        tailAllowance) fun floor =>
        floor.map WatermarkText.meaning = AthenaJournal.findTailFloor journal bucketName
          (WatermarkText.meaning windowStart)
            (WatermarkText.meaning watermark) tailAllowance.toNat ∧ Canonical floor := by
  obtain ⟨start, wide, rfl⟩ := canonical.time
  obtain ⟨stop, wide', rfl⟩ := canonical'.time
  obtain ⟨queryString, sends⟩ :=
    exists_sends (parse_buildTailFloorQuery plain wide wide' tailAllowance.toNat)
  rw [literals_some wide, literals_some wide']
  refine ⟨queryString, sends, ?_⟩
  rw [findTailFloor, if_neg (not_le.mpr pos), sends.built, AthenaJournal.findTailFloor_eq,
    WatermarkText.meaning_strftime wide, WatermarkText.meaning_strftime wide']
  exact rank_faithful serves stored recorded (wide_some wide) (wide_some wide')
    sends.parsed "Tail floor"

theorem readCount_digits (wording : Wording) (bucketName : String) (n : Nat) :
    readCount wording bucketName (some (String.ofList (Nat.toDigits 10 n))) = .ok (n : Int) := by
  have some_ : String.ofList (Nat.toDigits 10 n) ≠ "" := by
    intro empty
    have same := congrArg String.toList empty
    rw [String.toList_ofList] at same
    exact Nat.toDigits_ne_nil same
  rw [readCount, Option.getD_some, if_neg some_, String.toList_ofList, Json.readInt_toDigits]

theorem findTailRowCount_reads (serves : Serves athena catalog)
    (stored : catalog (journalPath bucketName) = some journal)
    (recorded : ∀ row ∈ journal, Recorded row)
    (plain : PlainName bucketName) (canonical : Canonical (some windowStart))
    (canonical' : Canonical (some watermark)) :
    Reads wording athena workGroup outputLocation
      (buildTailCountQuery (bucketNamespace bucketName) bucketName windowStart watermark)
      (countQuery bucketName (literals (some windowStart)) (literals (some watermark)))
      (findTailRowCount wording athena bucketName workGroup outputLocation windowStart
        watermark) fun count =>
        count = AthenaJournal.findTailRowCount journal bucketName
          (WatermarkText.meaning windowStart)
          (WatermarkText.meaning watermark) := by
  obtain ⟨start, wide, rfl⟩ := canonical.time
  obtain ⟨stop, wide', rfl⟩ := canonical'.time
  obtain ⟨queryString, sends⟩ := exists_sends (parse_buildTailCountQuery plain wide wide')
  rw [literals_some wide, literals_some wide']
  refine ⟨queryString, sends, ?_⟩
  rw [findTailRowCount, sends.built]
  refine (scalar_faithful serves stored sends.parsed).bind ?_
  rintro raw ⟨arranged, order, rows, printed, own, perm, answer, prints, rfl⟩
  have counted := answer_count own (named_of_perm perm recorded) (wide_some wide) (wide_some wide')
  rw [Option.map_some, Option.map_some, answer, Option.some.injEq] at counted
  subst counted
  rw [texts_count prints, WatermarkText.meaning_strftime wide, WatermarkText.meaning_strftime wide']
  exact ⟨_, readCount_digits wording bucketName _,
    congrArg Int.ofNat (taggingRows_perm perm _ _).length_eq⟩

theorem list_faithful (serves : Serves athena catalog)
    (stored : catalog (journalPath bucketName) = some journal)
    (parsed : parse queryString = some query) (component : String) :
    Faithful wording athena ⟨queryString, workGroup, outputLocation⟩
      (fetchRows wording athena bucketName workGroup outputLocation component
        queryString) fun texts =>
        ∃ arranged order rows printed, arranged (journalPath bucketName) =
          some order ∧ order.Perm journal ∧
          query.answer engine arranged = some rows ∧
          List.Forall₂ (List.Forall₂ Prints) rows printed ∧
          texts = printed.map rowTexts := by
  have fetched : Faithful wording athena ⟨queryString, workGroup, outputLocation⟩ _ _ :=
    fetchRows_faithful serves bucketName component
  exact fetched.mono fun texts answered => answered.order parsed stored

theorem Faithful.map {result : Except Raised α} {next : α → β}
    (faithful : Faithful wording athena request result good)
    (reads : ∀ found, good found → fine (next found)) :
    Faithful wording athena request (result.map next) fine := by
  cases result with
  | error raised => exact faithful
  | ok found => exact reads found faithful

theorem preflightCount_perm {order : Journal} (perm : order.Perm journal)
    (rules : List DerivedReplicationRule)
    (since : Watermark) (upTo : Option Watermark) :
    AthenaJournal.preflightCount order bucketName rules since upTo =
      AthenaJournal.preflightCount journal bucketName rules since upTo :=
  ((((taggingRows_perm perm since upTo).filter _).map _).dedup).length_eq

theorem preflightCount_reads (serves : Serves athena catalog)
    (stored : catalog (journalPath bucketName) = some journal)
    (recorded : ∀ row ∈ journal, Recorded row)
    (plain : PlainName bucketName) (rules : List DerivedReplicationRule)
    (canonical : Canonical since)
    (canonical' : Canonical upTo) :
    Reads wording athena workGroup outputLocation
      (preflightQuery (bucketNamespace bucketName) bucketName rules since upTo)
      (candidatesQuery bucketName rules (literals since) (literals upTo))
      (preflightCount wording athena bucketName workGroup outputLocation rules
        since upTo) fun count =>
        count = AthenaJournal.preflightCount journal bucketName rules (mark since)
          (upTo.map WatermarkText.meaning) := by
  obtain ⟨lower, wide, rfl⟩ := canonical.civil
  obtain ⟨upper, wide', rfl⟩ := canonical'.civil
  obtain ⟨queryString, sends⟩ := exists_sends (parse_preflightQuery plain wide wide' rules)
  rw [literals_strftime wide, literals_strftime wide']
  refine ⟨queryString, sends, ?_⟩
  rw [preflightCount, sends.built, mark_strftime wide, map_meaning wide']
  refine (list_faithful serves stored sends.parsed "Preflight_Counter").map ?_
  rintro texts ⟨arranged, order, rows, printed, own, perm, answer, prints, rfl⟩
  rw [answer_candidates own (named_of_perm perm recorded) wide wide', preflightCount_perm perm,
    Option.some.injEq]
    at answer
  subst answer
  rw [texts_count prints, firstCount]
  simp only [List.head?_cons, Option.bind_some, String.toList_ofList, Json.readInt_toDigits,
    Option.getD_some]

/-- The pair that a row of the result stands for. -/
def cellPair : List Cell → Option (String × Option String)
  | [.text (some key), .text versionId] => if key = "" then none
      else some (key, AthenaJournal.orNone versionId)
  | _ => none

theorem deletedPair_printed {key : String} {versionId : Option String}
    (prints : List.Forall₂ Prints [.text (some key), .text versionId] printed) :
    deletedPair (rowTexts printed) = cellPair [.text (some key), .text versionId] := by
  simp only [List.forall₂_cons_left_iff, List.forall₂_nil_left_iff] at prints
  obtain ⟨shown, _, isKey, ⟨version, _, isVersion, rfl, rfl⟩, rfl⟩ := prints
  obtain rfl := isKey.eq_of_text
  obtain rfl := isVersion.eq_of_text
  rw [cellPair, ← orNone_getD]
  rfl

theorem pairs_printed (prints : List.Forall₂ (List.Forall₂ Prints) rows printed)
    (shape : ∀ cells ∈ rows, ∃ key versionId, cells = [.text (some key), .text versionId]) :
    (printed.map rowTexts).filterMap deletedPair = rows.filterMap cellPair := by
  induction prints with
  | nil => rfl
  | cons first rest ih =>
    obtain ⟨key, versionId, rfl⟩ := shape _ List.mem_cons_self
    rw [List.map_cons, List.filterMap_cons, List.filterMap_cons, deletedPair_printed first,
      ih fun cells member => shape cells (List.mem_cons_of_mem _ member)]

theorem shape_of_listsDeletes (lists : ListsDeletes order bucketName lower rows) :
    ∀ cells ∈ rows, ∃ key versionId, cells = [.text (some key), .text versionId] := by
  intro cells member
  obtain ⟨row, _, _, ⟨_, rfl⟩ | ⟨_, rfl⟩⟩ := (lists cells).mp member
  · exact ⟨row.key, row.versionId, rfl⟩
  · exact ⟨row.key, none, rfl⟩

theorem mem_pairs_iff (lists : ListsDeletes order bucketName lower rows) (perm : order.Perm journal)
    (pair : String × Option String) : pair ∈ rows.filterMap cellPair ↔
      pair ∈ AthenaJournal.readPermanentDeletes journal bucketName (sinceMark lower) := by
  have deleted (row : JournalRow) : cellPair (deleteRow row) =
      if row.key = "" then none else some (row.key, AthenaJournal.orNone row.versionId) := rfl
  have superseded (row : JournalRow) : cellPair (supersedeRow row) =
      if row.key = "" then none else some (row.key, none) := rfl
  rw [List.mem_filterMap, AthenaJournal.readPermanentDeletes, List.mem_append]
  simp only [lists _, List.mem_map, List.mem_filter, perm.mem_iff, isRecent, Bool.and_eq_true,
    decide_eq_true_eq]
  constructor
  · rintro ⟨cells, ⟨row, member, recent, ⟨kind, rfl⟩ | ⟨kind, rfl⟩⟩, found⟩
    · rw [deleted] at found
      split at found
      · cases found
      · exact .inl ⟨row, ⟨⟨member, recent, ‹_›⟩, kind⟩, Option.some.inj found⟩
    · rw [superseded] at found
      split at found
      · cases found
      · exact .inr ⟨row, ⟨⟨member, recent, ‹_›⟩, kind⟩, Option.some.inj found⟩
  · rintro (⟨row, ⟨⟨member, recent, keyed⟩, kind⟩, rfl⟩ | ⟨row,
      ⟨⟨member, recent, keyed⟩, kind⟩, rfl⟩)
    · exact ⟨_, ⟨row, member, recent, .inl ⟨kind, rfl⟩⟩, (deleted row).trans (if_neg keyed)⟩
    · exact ⟨_, ⟨row, member, recent, .inr ⟨kind, rfl⟩⟩, (superseded row).trans (if_neg keyed)⟩

theorem readPermanentDeletes_reads (serves : Serves athena catalog)
    (stored : catalog (journalPath bucketName) = some journal)
    (recorded : ∀ row ∈ journal, Recorded row)
    (plain : PlainName bucketName) (canonical : Canonical since) :
    Reads wording athena workGroup outputLocation
      (permanentDeletesQuery (bucketNamespace bucketName) bucketName since)
      (deletesQuery bucketName (literals since))
      (readPermanentDeletes wording athena bucketName workGroup outputLocation since) fun pairs =>
        pairs = (AthenaJournal.readPermanentDeletes journal bucketName (mark since)).toFinset := by
  obtain ⟨lower, wide, rfl⟩ := canonical.civil
  obtain ⟨queryString, sends⟩ := exists_sends (parse_permanentDeletesQuery plain wide)
  rw [literals_strftime wide]
  refine ⟨queryString, sends, ?_⟩
  rw [readPermanentDeletes, sends.built, mark_strftime wide]
  refine (list_faithful serves stored sends.parsed "Permanent_Delete_Reader").map ?_
  rintro texts ⟨arranged, order, rows, printed, own, perm, answer, prints, rfl⟩
  obtain ⟨expected, answer', lists⟩ := answer_deletes own (named_of_perm perm recorded) wide
  rw [answer, Option.some.injEq] at answer'
  subst answer'
  ext pair
  rw [pairs_printed prints (shape_of_listsDeletes lists), List.mem_toFinset, List.mem_toFinset]
  exact mem_pairs_iff lists perm pair

/-- The operations and the errors of a window of the journal, in some order of the records
that tie. -/
def HoldsWindow (journal : Journal) (bucketName : String) (since : Watermark)
    (upTo : Option Watermark)
    (result : List ReadOperation × List JournalReadError) : Prop :=
  ∃ order, order.Perm journal ∧
    result.1.map ReadOperation.operation =
      (AthenaJournal.readJournal order bucketName since upTo).1.map some ∧
    result.2 = (AthenaJournal.readJournal order bucketName since upTo).2

/-- One fatal error, and nothing that was read. -/
def IsFatal (result : List ReadOperation × List JournalReadError) : Prop :=
  result.1 = [] ∧ ∃ error, result.2 = [error] ∧ error.isFatal

theorem isFatal_fatal (bucketName cause : String)
    (unavailable : Bool) : IsFatal (fatal bucketName cause unavailable) :=
  ⟨rfl, _, rfl, rfl⟩

theorem holdsWindow_of_answered (stored : catalog (journalPath bucketName) = some journal)
    (recorded : ∀ row ∈ journal, Recorded row) (wide : Wide lower) (wide' : Wide upper)
    (answered : Answered catalog request texts)
    (parsed : parse request.queryString =
      some (windowQuery bucketName (lower.map literalText) (upper.map literalText)))
    (wording : Wording) : HoldsWindow journal bucketName (sinceMark lower) (upToMark upper)
      (texts.filterMap fun row => (parseRow wording row bucketName).toOption,
        texts.filterMap fun row => rejection (parseRow wording row bucketName)) := by
  obtain ⟨arranged, order, rows, printed, own, perm, answer, prints, rfl⟩ :=
    answered.order parsed stored
  rw [answer_window own (named_of_perm perm recorded) wide wide', Option.some.injEq] at answer
  subst answer
  obtain ⟨operations, errors⟩ := parseRows_printed wording bucketName prints
  rw [inOrder_false] at operations errors
  exact ⟨order, perm, operations, errors⟩

theorem readJournal_reads (serves : Serves athena catalog)
    (stored : catalog (journalPath bucketName) = some journal)
    (recorded : ∀ row ∈ journal, Recorded row)
    (plain : PlainName bucketName) (canonical : Canonical since) (canonical' : Canonical upTo) :
    ∃ queryString result, Sends (buildQuery (bucketNamespace bucketName) bucketName since upTo)
        (windowQuery bucketName (literals since) (literals upTo)) queryString ∧
      readJournal wording athena bucketName workGroup outputLocation since upTo = .ok result ∧
      (IsFatal result ∧ ¬ Undisturbed wording athena ⟨queryString, workGroup, outputLocation⟩ ∨
        HoldsWindow journal bucketName (mark since) (upTo.map WatermarkText.meaning) result) := by
  obtain ⟨lower, wide, rfl⟩ := canonical.civil
  obtain ⟨upper, wide', rfl⟩ := canonical'.civil
  obtain ⟨queryString, sends⟩ := exists_sends (parse_buildQuery plain wide wide')
  rw [literals_strftime wide, literals_strftime wide', readJournal, sends.built, mark_strftime wide,
    map_meaning wide']
  have parsed : Sends (some queryString) _ queryString := ⟨rfl, sends.parsed⟩
  refine ⟨queryString, ?_⟩
  cases session serves wording ⟨queryString, workGroup, outputLocation⟩ with
  | refused started disturbed =>
    simp only [started]
    exact ⟨_, parsed, rfl, .inl ⟨isFatal_fatal _ _ _, disturbed⟩⟩
  | @unended execution raised started polled disturbed =>
    simp only [started, readExecution, polled]
    cases raised <;> exact ⟨_, parsed, rfl, .inl ⟨isFatal_fatal _ _ _, disturbed⟩⟩
  | failed started polled failed disturbed =>
    simp only [started, readExecution, polled, if_pos failed]
    exact ⟨_, parsed, rfl, .inl ⟨isFatal_fatal _ _ _, disturbed⟩⟩
  | cut started polled read answered begins disturbed =>
    simp only [started, readExecution, polled, readRows, read, String.reduceEq, or_self, if_false]
    exact ⟨_, parsed, rfl, .inl ⟨isFatal_fatal _ _ _, disturbed⟩⟩
  | whole started polled read answered =>
    simp only [started, readExecution, polled, readRows, read, String.reduceEq, or_self, if_false]
    exact ⟨_, parsed, rfl, .inr
      (holdsWindow_of_answered stored recorded wide wide' answered sends.parsed wording)⟩

/-- The readers refine the queries of the journal: what each returns is what its
query gives there, and it fails only where the service did. -/
structure Refines (wording : Wording) (athena : Athena) (journal : Journal)
    (bucketName workGroup outputLocation : String) : Prop where
  window : ∀ since upTo, Canonical since → Canonical upTo →
    ∃ queryString result, Sends (buildQuery (bucketNamespace bucketName) bucketName since upTo)
        (windowQuery bucketName (literals since) (literals upTo)) queryString ∧
      readJournal wording athena bucketName workGroup outputLocation since upTo = .ok result ∧
      (IsFatal result ∧ ¬ Undisturbed wording athena ⟨queryString, workGroup, outputLocation⟩ ∨
        HoldsWindow journal bucketName (mark since) (upTo.map WatermarkText.meaning) result)
  boundary : ∀ since rowCap, Canonical since → 0 < rowCap →
    Reads wording athena workGroup outputLocation
      (buildBoundaryQuery (bucketNamespace bucketName) bucketName since rowCap.toNat)
      (rankQuery bucketName (literals since) none false (rowCap.toNat - 1))
      (findRowCountBoundary wording athena bucketName workGroup outputLocation
          since rowCap) fun found =>
        found.map WatermarkText.meaning =
          AthenaJournal.findRowCountBoundary journal bucketName (mark since)
            rowCap.toNat ∧ Canonical found
  tailCount : ∀ windowStart watermark, Canonical (some windowStart) → Canonical (some watermark) →
    Reads wording athena workGroup outputLocation
      (buildTailCountQuery (bucketNamespace bucketName) bucketName windowStart watermark)
      (countQuery bucketName (literals (some windowStart)) (literals (some watermark)))
      (findTailRowCount wording athena bucketName workGroup outputLocation windowStart
          watermark) fun count =>
        count = AthenaJournal.findTailRowCount journal bucketName
          (WatermarkText.meaning windowStart)
          (WatermarkText.meaning watermark)
  tailFloor : ∀ windowStart watermark tailAllowance, Canonical (some windowStart) →
    Canonical (some watermark) →
    0 < tailAllowance →
    Reads wording athena workGroup outputLocation
      (buildTailFloorQuery (bucketNamespace bucketName) bucketName windowStart
        watermark tailAllowance.toNat)
      (rankQuery bucketName (literals (some windowStart)) (literals (some watermark))
        true tailAllowance.toNat)
      (findTailFloor wording athena bucketName workGroup outputLocation windowStart watermark
          tailAllowance) fun floor =>
        floor.map WatermarkText.meaning = AthenaJournal.findTailFloor journal bucketName
          (WatermarkText.meaning windowStart) (WatermarkText.meaning watermark)
            tailAllowance.toNat ∧ Canonical floor
  candidates : ∀ rules since upTo, Canonical since → Canonical upTo →
    Reads wording athena workGroup outputLocation
      (preflightQuery (bucketNamespace bucketName) bucketName rules since upTo)
      (candidatesQuery bucketName rules (literals since) (literals upTo))
      (preflightCount wording athena bucketName workGroup outputLocation rules
          since upTo) fun count =>
        count = AthenaJournal.preflightCount journal bucketName rules (mark since)
          (upTo.map WatermarkText.meaning)
  deletes : ∀ since, Canonical since →
    Reads wording athena workGroup outputLocation
      (permanentDeletesQuery (bucketNamespace bucketName) bucketName since)
      (deletesQuery bucketName (literals since))
      (readPermanentDeletes wording athena bucketName workGroup outputLocation since) fun pairs =>
        pairs = (AthenaJournal.readPermanentDeletes journal bucketName (mark since)).toFinset

/-- Whatever the service answers, in pages and in any order of the table, the
readers see the journal. -/
theorem readers_refine_journal (serves : Serves athena catalog)
    (stored : catalog (journalPath bucketName) = some journal)
    (recorded : ∀ row ∈ journal, Recorded row)
    (accepted : ConfigLoader.AcceptedName bucketName) (wording : Wording)
    (workGroup outputLocation : String) :
    Refines wording athena journal bucketName workGroup outputLocation := by
  have plain := plainName_accepted accepted
  constructor
  case window => exact fun since upTo canonical canonical' =>
    readJournal_reads serves stored recorded plain canonical canonical'
  case boundary => exact fun since rowCap canonical pos =>
    findRowCountBoundary_reads serves stored recorded plain canonical pos
  case tailCount => exact fun windowStart watermark canonical canonical' =>
    findTailRowCount_reads serves stored recorded plain canonical canonical'
  case tailFloor => exact fun windowStart watermark tailAllowance canonical canonical' pos =>
    findTailFloor_reads serves stored recorded plain canonical canonical' pos
  case candidates => exact fun rules since upTo canonical canonical' =>
    preflightCount_reads serves stored recorded plain rules canonical canonical'
  case deletes => exact fun since canonical =>
    readPermanentDeletes_reads serves stored recorded plain canonical

end Readers

section Sample

/-- The text of a value as a service may show it; other values are never asked for. -/
def printCell : Cell → Option (Option String)
  | .text value => some value
  | .json none => some none
  | .json (some tags) => some (some (Json.layText Json.rawIndented (.object (tagMembers tags))))
  | .moment none => some none
  | .moment (some instant) => (Civil.ofInstant instant).map fun civil =>
      some (String.ofList (stampText ' ' (('.' :: Decimal.pad 6 civil.clock.microsecond) ++
        [' ', 'U', 'T', 'C']) civil))
  | .count n => some (some (String.ofList (Nat.toDigits 10 n)))
  | .tags _ | .flag _ => none

theorem prints_printCell {cell : Cell} {shown : Option String}
    (printed : printCell cell = some shown) :
    Prints cell shown := by
  cases cell with
  | text value =>
    cases printed
    cases shown <;> constructor
  | json value =>
    cases value with
    | none =>
      cases printed
      exact .noTags
    | some tags =>
      cases printed
      exact .json Json.rawIndented tags
  | moment value =>
    cases value with
    | none =>
      cases printed
      exact .never
    | some instant =>
      obtain ⟨civil, own, rfl⟩ := Option.map_eq_some_iff.mp printed
      rw [← Civil.instant_of_ofInstant own]
      have shape := Fraction.digits 6 civil.clock.microsecond (by decide) (by decide)
        civil.clock.microsecondInRange
        (Nat.mul_one _).symm
      exact .moment ⟨' ', _, _, List.mem_cons_self, shape, rfl⟩
  | count n =>
    cases printed
    exact .count n
  | tags value => cases printed
  | flag value => cases printed

theorem forall₂_of_mapM {f : α → Option β} {related : α → β → Prop}
    {items : List α} {results : List β}
    (mapped : items.mapM f = some results)
    (each : ∀ item result, f item = some result → related item result) :
    List.Forall₂ related items results := by
  induction items generalizing results with
  | nil =>
    cases mapped
    exact .nil
  | cons item items ih =>
    rw [List.mapM_cons] at mapped
    obtain ⟨result, own, rest⟩ := Option.bind_eq_some_iff.mp mapped
    obtain ⟨others, later, same⟩ := Option.bind_eq_some_iff.mp rest
    cases same
    exact .cons (each item result own) (ih later)

def printRows (rows : List (List Cell)) : Option (List ResultRow) :=
  rows.mapM fun cells => cells.mapM printCell

/-- A service that answers at once, and refuses what it cannot answer. -/
def service (catalog : Catalog JournalRow) : Athena := fun request =>
  match ((parse request.queryString).bind fun query =>
    query.answer engine catalog).bind printRows with
  | none => .error ⟨some "InvalidRequestException", "line 1:1: mismatched input"⟩
  | some printed => .ok ⟨"5c1f", fun _ => .ok "SUCCEEDED", none, .last ([] :: printed)⟩

theorem serves_service (catalog : Catalog JournalRow) : Serves (service catalog) catalog := by
  intro request execution started asked _
  rw [service] at started
  cases found : ((parse request.queryString).bind fun query =>
    query.answer engine catalog).bind printRows with
  | none =>
    rw [found] at started
    cases started
  | some printed =>
    rw [found] at started
    cases started
    obtain ⟨rows, answered, shown⟩ := Option.bind_eq_some_iff.mp found
    obtain ⟨query, parsed, answer⟩ := Option.bind_eq_some_iff.mp answered
    refine ⟨rows, printed, ⟨query, catalog, parsed, fun path => ?_, answer⟩, ?_, .last⟩
    · cases catalog path with
      | none => exact .none
      | some table => exact .some (List.Perm.refl table)
    · exact forall₂_of_mapM shown fun cells texts own =>
        forall₂_of_mapM own fun cell text => prints_printCell

def novemberRow (key : String) (recordType : RecordType) : JournalRow where
  bucket := "photos"
  key := key
  versionId := some "v1"
  recordType := recordType
  objectTags := some (Dict.ofList [("keep", "yes")])
  sequenceNumber := "1"
  recordTimestamp := StateText.midNovember.instant
  lastModifiedDate := none
  storageClass := some "STANDARD"
  isDeleteMarker := some false

/-- An object that was tagged, and one that is gone. -/
def novemberJournal : Journal := [novemberRow "ant" .updateMetadata, novemberRow "bee" .delete]

def novemberTables : Catalog JournalRow := fun path =>
  if path = journalPath "photos" then some novemberJournal else none

def plainWording : Wording :=
  ⟨JobRecovery.reprName, fun _ => "Expecting value: line 1 column 1 (char 0)",
    "time data does not match format"⟩

theorem recorded_november : ∀ row ∈ novemberJournal, Recorded row := by
  have dated : ∃ civil : Civil, fixedWidthYear ≤ civil.date.year ∧
      civil.instant = StateText.midNovember.instant :=
    ⟨StateText.midNovember, by decide, rfl⟩
  intro row member
  simp only [novemberJournal, List.mem_cons, List.not_mem_nil, or_false] at member
  rcases member with rfl | rfl
  · exact ⟨nofun, dated⟩
  · exact ⟨nofun, dated⟩

theorem readers_refine_journal_november :
    Serves (service novemberTables) novemberTables ∧ novemberTables (journalPath "photos") =
      some novemberJournal ∧
      Refines plainWording (service novemberTables) novemberJournal "photos" "primary"
        "s3://state/athena-results/" := by
  have stored : novemberTables (journalPath "photos") = some novemberJournal := if_pos rfl
  have accepted : ConfigLoader.isValidS3BucketName "photos" = true := by decide
  exact ⟨serves_service novemberTables, stored,
    readers_refine_journal (serves_service novemberTables) stored recorded_november
      accepted plainWording _ _⟩

/-- The texts are parsed, answered, shown and read back. -/
example : ((findTailRowCount plainWording (service novemberTables) "photos" "primary" "s3://state/"
    "2024-11-15T00:00:00.000000Z" "2024-11-17T00:00:00.000000Z").toOption,
    (findRowCountBoundary plainWording (service novemberTables) "photos" "primary"
      "s3://state/" none 1).toOption,
    (readPermanentDeletes plainWording (service novemberTables) "photos" "primary"
      "s3://state/" none).toOption) =
      (some 1, some (some "2024-11-16T00:00:00.000000Z"), some {("bee", some "v1")}) := by
        decide +kernel

end Sample

end ReplicateOnTag.JournalSession

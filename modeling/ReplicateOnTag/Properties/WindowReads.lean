import ReplicateOnTag.Orchestrator.Submission
import ReplicateOnTag.Orchestrator.WindowSession
import ReplicateOnTag.Properties.JournalReads

/-! The window that a run reads through the service is one that the run model
reads of the journal: what holds of every run of the model holds of it. -/
namespace ReplicateOnTag.WindowSession
open JournalSession JournalAnswers JournalQueries Watermark
open Orchestrator (Settings RunEnv Query)
open SqlQuery (Catalog)
open WatermarkText (isCanonicalWatermark meaning)

section Bounds
variable {wording : Wording} {athena : Athena} {catalog : Catalog JournalRow}
  {journal : Journal} {settings : Settings}
  {workGroup outputLocation checkpoint windowStart : String}

/-- The query that is meant was sent, and did not get its answer. -/
def Unanswered (wording : Wording) (athena : Athena) (workGroup outputLocation : String)
    (text : Option (List Char))
    (meant : SqlQuery.Query) : Prop :=
  ∃ queryString, Sends text meant queryString ∧
    ¬ Undisturbed wording athena ⟨queryString, workGroup, outputLocation⟩

theorem reads_cases {result : Except Raised α} {text : Option (List Char)}
    (reads : Reads wording athena workGroup outputLocation text meant result good) :
    (∃ found, result = .ok found ∧ good found) ∨
      (∃ raised, result = .error raised) ∧
        Unanswered wording athena workGroup outputLocation text meant := by
  obtain ⟨queryString, sends, faithful⟩ := reads
  cases result with
  | error raised => exact .inr ⟨⟨raised, rfl⟩, queryString, sends, faithful⟩
  | ok found => exact .inl ⟨found, rfl, faithful⟩

/-- A run that has found how far up it reads. -/
structure Bounded (wording : Wording) (athena : Athena) (settings : Settings)
    (workGroup outputLocation checkpoint windowStart : String) (tail : Int × Bool)
    (split : RowBudget.Split)
    (journalUntil : Option String) : Prop where
  counted : countLookbackTail wording athena settings workGroup outputLocation
    checkpoint windowStart = tail
  divided : RowBudget.splitRowBudget settings.journalReadRowCap tail.1.toNat = split
  bounded : findRowCountBoundary wording athena settings.bucketName workGroup outputLocation
    (given (some checkpoint))
    split.newRowBudget = .ok journalUntil
  advances : ¬ (journalUntil.any fun bound => bound ≤ checkpoint) = true

/-- What the run asks for when it comes to a query: the text that it builds, and
the query that the text is to be. -/
inductive Asks (wording : Wording) (athena : Athena) (settings : Settings)
    (workGroup outputLocation checkpoint windowStart : String) : Query → Option (List Char) →
      SqlQuery.Query → Prop where
  | tailCount (later : checkpoint ≠ "") (apart : windowStart ≠ checkpoint) :
      Asks wording athena settings workGroup outputLocation checkpoint windowStart .tailCount
        (buildTailCountQuery (bucketNamespace settings.bucketName) settings.bucketName
          windowStart checkpoint)
        (countQuery settings.bucketName (literals (some windowStart)) (literals (some checkpoint)))
  | boundary
      (counted : countLookbackTail wording athena settings workGroup outputLocation
        checkpoint windowStart = tail)
      (divided : RowBudget.splitRowBudget settings.journalReadRowCap tail.1.toNat = split) :
      Asks wording athena settings workGroup outputLocation checkpoint windowStart .boundary
        (buildBoundaryQuery (bucketNamespace settings.bucketName) settings.bucketName
          (given (some checkpoint))
          split.newRowBudget)
        (rankQuery settings.bucketName (literals (given (some checkpoint))) none false
          (split.newRowBudget - 1))
  | tailFloor
      (bounded : Bounded wording athena settings workGroup outputLocation checkpoint windowStart
        tail split journalUntil)
      (exceeds : split.tailAllowance < tail.1 ∨ tail.2 = true) (allowed : split.tailAllowance ≠ 0) :
      Asks wording athena settings workGroup outputLocation checkpoint windowStart .tailFloor
        (buildTailFloorQuery (bucketNamespace settings.bucketName) settings.bucketName
          windowStart checkpoint
          split.tailAllowance)
        (rankQuery settings.bucketName (literals (some windowStart))
          (literals (some checkpoint)) true
          split.tailAllowance)
  | journal
      (bounded : Bounded wording athena settings workGroup outputLocation checkpoint windowStart
        tail split journalUntil)
      (floored : sinceTimestamp wording athena settings workGroup outputLocation
        checkpoint windowStart tail
        split.tailAllowance = some since) :
      Asks wording athena settings workGroup outputLocation checkpoint windowStart .journal
        (buildQuery (bucketNamespace settings.bucketName) settings.bucketName
          (given (some since.1)) journalUntil)
        (windowQuery settings.bucketName (literals (given (some since.1))) (literals journalUntil))
  | preflight {read : Window}
      (found : readFrom wording athena settings workGroup outputLocation checkpoint
        windowStart = .ok (.window read)) :
      Asks wording athena settings workGroup outputLocation checkpoint windowStart .preflight
        (preflightQuery (bucketNamespace settings.bucketName) settings.bucketName settings.rules
          (given (some read.sinceTimestamp)) read.journalUntil)
        (candidatesQuery settings.bucketName settings.rules
          (literals (given (some read.sinceTimestamp)))
          (literals read.journalUntil))
  | permanentDeletes {read : Window}
      (found : readFrom wording athena settings workGroup outputLocation checkpoint
        windowStart = .ok (.window read)) :
      Asks wording athena settings workGroup outputLocation checkpoint windowStart .permanentDeletes
        (permanentDeletesQuery (bucketNamespace settings.bucketName) settings.bucketName
          (given (some read.sinceTimestamp)))
        (deletesQuery settings.bucketName (literals (given (some read.sinceTimestamp))))

/-- The run sent this query of its own, and did not get its answer. -/
def Disturbed (wording : Wording) (athena : Athena) (settings : Settings)
    (workGroup outputLocation checkpoint windowStart : String) (query : Query) : Prop :=
  ∃ text meant, Asks wording athena settings workGroup outputLocation checkpoint
    windowStart query text meant ∧
    Unanswered wording athena workGroup outputLocation text meant

/-- A canonical watermark that is not the epoch is one that a query may be bounded by. -/
theorem canonical_some {text : String} (canonical : isCanonicalWatermark text) (later : text ≠ "") :
    Canonical (some text) := by
  rintro _ ⟨⟩
  exact ⟨canonical, later⟩

theorem canonical_given {text : String} (canonical : isCanonicalWatermark text) :
    Canonical (given (some text)) := by
  intro own member
  obtain ⟨same, later⟩ := Option.filter_eq_some_iff.mp member
  obtain rfl := Option.some.inj same
  exact ⟨canonical, of_decide_eq_true later⟩

theorem mark_given {text : String} : mark (given (some text)) = meaning text := by
  by_cases first : text = ""
  · subst first
    rfl
  · rw [given, Option.filter_some, if_pos (decide_eq_true first)]
    rfl

theorem meaning_inj {first second : String} (canonical : isCanonicalWatermark first)
    (canonical' : isCanonicalWatermark second) : first = second ↔
      meaning first = meaning second := by
  rw [le_antisymm_iff, le_antisymm_iff, WatermarkText.le_iff_meaning_le canonical canonical',
    WatermarkText.le_iff_meaning_le canonical' canonical]

/-- Only the epoch is before every time. -/
theorem start_ne_empty
    (start : WatermarkText.subtract checkpoint settings.lookback = some windowStart)
    (later : checkpoint ≠ "") : windowStart ≠ "" := by
  have later_ : checkpoint ≠ WatermarkText.epochWatermark := later
  rw [WatermarkText.subtract, if_neg later_] at start
  obtain ⟨parsed, _, start⟩ := Option.bind_eq_some_iff.mp start
  obtain ⟨earlier, _, start⟩ := Option.bind_eq_some_iff.mp start
  rw [WatermarkText.toWatermark_utc, Option.some.injEq] at start
  exact start ▸ WatermarkText.strftime_ne_epoch earlier

/-- The service of a run, and the journal of its bucket behind it. -/
structure Behind (athena : Athena) (catalog : Catalog JournalRow) (journal : Journal)
    (bucketName : String) : Prop where
  serves : Serves athena catalog
  stored : catalog (journalPath bucketName) = some journal
  recorded : ∀ row ∈ journal, Recorded row
  plain : PlainName bucketName

/-- The tail that is counted is that of the run model. -/
theorem countLookbackTail_refines (wording : Wording) (workGroup outputLocation : String)
    (behind : Behind athena catalog journal settings.bucketName)
    (canonical : isCanonicalWatermark checkpoint) (canonical' : isCanonicalWatermark windowStart)
    (start : WatermarkText.subtract checkpoint settings.lookback = some windowStart) :
    ∃ counted : Bool,
      (counted = false → Disturbed wording athena settings workGroup outputLocation checkpoint
        windowStart .tailCount) ∧
      ∀ env : RunEnv, env.journal.Perm journal → env.queries .tailCount = counted →
        countLookbackTail wording athena settings workGroup outputLocation checkpoint windowStart =
          (((Orchestrator.countLookbackTail settings env (meaning checkpoint)).1 : Int),
            (Orchestrator.countLookbackTail settings env (meaning checkpoint)).2) := by
  have first : checkpoint = "" ↔ meaning checkpoint = epoch :=
    WatermarkText.meaning_eq_epoch_iff canonical
  have empty : windowStart = checkpoint ↔ meaning windowStart = meaning checkpoint :=
    meaning_inj canonical' canonical
  have skips : (decide (meaning checkpoint = epoch) ||
      decide (meaning windowStart = meaning checkpoint)) = true ↔
      checkpoint = "" ∨ windowStart = checkpoint := by
    rw [Bool.or_eq_true, decide_eq_true_eq, decide_eq_true_eq, first, empty]
  have own : Orchestrator.windowStart settings (meaning checkpoint) = meaning windowStart :=
    (WatermarkText.meaning_subtract canonical start canonical').symm
  by_cases skip : checkpoint = "" ∨ windowStart = checkpoint
  · refine ⟨true, nofun, fun env _ _ => ?_⟩
    rw [countLookbackTail, if_pos skip, Orchestrator.countLookbackTail, own,
      if_pos (skips.mpr skip)]
    rfl
  · obtain ⟨later, apart⟩ := not_or.mp skip
    have reads : Reads wording athena workGroup outputLocation _ _
        (findTailRowCount wording athena settings.bucketName workGroup outputLocation
          windowStart checkpoint) _ :=
      findTailRowCount_reads behind.serves behind.stored behind.recorded behind.plain
        (canonical_some canonical' (start_ne_empty start later)) (canonical_some canonical later)
    rcases reads_cases reads with ⟨count, same, value⟩ | ⟨⟨raised, same⟩, unanswered⟩
    · refine ⟨true, nofun, fun env perm asked => ?_⟩
      have equal : AthenaJournal.findTailRowCount env.journal
          settings.bucketName (meaning windowStart)
          (meaning checkpoint) = AthenaJournal.findTailRowCount journal
            settings.bucketName (meaning windowStart)
          (meaning checkpoint) := (taggingRows_perm perm _ _).length_eq
      rw [countLookbackTail, if_neg skip, same, Orchestrator.countLookbackTail]
      dsimp only
      rw [own, if_neg (mt skips.mp skip), asked, if_pos rfl, equal, value]
    · refine ⟨false, fun _ => ⟨_, _, .tailCount later apart, unanswered⟩, fun env _ asked => ?_⟩
      rw [countLookbackTail, if_neg skip, same, Orchestrator.countLookbackTail]
      dsimp only
      rw [own, if_neg (mt skips.mp skip), asked, if_neg Bool.false_ne_true]

theorem boundary_refines (wording : Wording) (workGroup outputLocation : String)
    (behind : Behind athena catalog journal settings.bucketName)
    (canonical : isCanonicalWatermark checkpoint) {rowCap : Nat} (pos : 0 < rowCap) :
    (∃ journalUntil, findRowCountBoundary wording athena settings.bucketName
        workGroup outputLocation
        (given (some checkpoint)) rowCap = .ok journalUntil ∧ Canonical journalUntil ∧
        ∀ order : Journal, order.Perm journal →
          AthenaJournal.findRowCountBoundary order settings.bucketName
          (meaning checkpoint) rowCap = journalUntil.map meaning) ∨
      (∃ raised, findRowCountBoundary wording athena settings.bucketName workGroup outputLocation
        (given (some checkpoint)) rowCap = .error raised) ∧
        Unanswered wording athena workGroup outputLocation
          (buildBoundaryQuery (bucketNamespace settings.bucketName) settings.bucketName
            (given (some checkpoint)) rowCap)
          (rankQuery settings.bucketName (literals (given (some checkpoint))) none
            false (rowCap - 1)) := by
  have reads : Reads wording athena workGroup outputLocation _ _
      (findRowCountBoundary wording athena
      settings.bucketName workGroup outputLocation (given (some checkpoint)) rowCap) _ :=
    findRowCountBoundary_reads behind.serves behind.stored behind.recorded behind.plain
      (canonical_given canonical)
      (Int.natCast_pos.mpr pos)
  rw [Int.toNat_natCast] at reads
  rcases reads_cases reads with ⟨journalUntil, same, value, wide⟩ | failed
  · refine .inl ⟨journalUntil, same, wide, fun order perm => ?_⟩
    rw [value, mark_given, AthenaJournal.findRowCountBoundary_eq,
      AthenaJournal.findRowCountBoundary_eq]
    exact congrArg (Option.map toWatermark)
      (ranked_perm ((taggingRows_perm perm _ _).map _) false _)
  · exact .inr failed

theorem tailFloor_refines (wording : Wording) (workGroup outputLocation : String)
    (behind : Behind athena catalog journal settings.bucketName)
    (canonical : Canonical (some windowStart))
    (canonical' : Canonical (some checkpoint)) {allowance : Nat}
    (pos : 0 < allowance) :
    (∃ floorBound, findTailFloor wording athena settings.bucketName workGroup outputLocation
        windowStart checkpoint
        allowance = .ok floorBound ∧ Canonical floorBound ∧
        ∀ order : Journal, order.Perm journal →
          AthenaJournal.findTailFloor order settings.bucketName
          (meaning windowStart) (meaning checkpoint) allowance = floorBound.map meaning) ∨
      (∃ raised, findTailFloor wording athena settings.bucketName workGroup outputLocation
        windowStart checkpoint
        allowance = .error raised) ∧
        Unanswered wording athena workGroup outputLocation
          (buildTailFloorQuery (bucketNamespace settings.bucketName) settings.bucketName
            windowStart checkpoint allowance)
          (rankQuery settings.bucketName (literals (some windowStart))
            (literals (some checkpoint)) true allowance) := by
  have reads : Reads wording athena workGroup outputLocation _ _
      (findTailFloor wording athena settings.bucketName
      workGroup outputLocation windowStart checkpoint allowance) _ :=
    findTailFloor_reads behind.serves behind.stored behind.recorded
      behind.plain canonical canonical'
      (Int.natCast_pos.mpr pos)
  rw [Int.toNat_natCast] at reads
  rcases reads_cases reads with ⟨floorBound, same, value, wide⟩ | failed
  · refine .inl ⟨floorBound, same, wide, fun order perm => ?_⟩
    rw [value, AthenaJournal.findTailFloor_eq, AthenaJournal.findTailFloor_eq]
    exact congrArg (Option.map toWatermark) (ranked_perm ((taggingRows_perm perm _ _).map _) true _)
  · exact .inr failed

/-- The lower bound of the read is that of the run model. -/
theorem sinceTimestamp_refines (wording : Wording) (workGroup outputLocation : String)
    (behind : Behind athena catalog journal settings.bucketName)
    (canonical : isCanonicalWatermark checkpoint) (canonical' : isCanonicalWatermark windowStart)
    (start : WatermarkText.subtract checkpoint settings.lookback = some windowStart)
    (tail : Nat × Bool) (allowance : Nat)
    (first : checkpoint = "" → tail = (0, false))
    (asks : (allowance : Int) < (tail.1 : Int) ∨ tail.2 = true → allowance ≠ 0 →
      Asks wording athena settings workGroup outputLocation checkpoint windowStart .tailFloor
        (buildTailFloorQuery (bucketNamespace settings.bucketName) settings.bucketName
          windowStart checkpoint allowance)
        (rankQuery settings.bucketName (literals (some windowStart))
          (literals (some checkpoint)) true allowance)) :
    ∃ floored : Bool,
      (floored = false → Disturbed wording athena settings workGroup outputLocation checkpoint
        windowStart .tailFloor) ∧
      (∀ since ∈ sinceTimestamp wording athena settings workGroup outputLocation
        checkpoint windowStart
        ((tail.1 : Int), tail.2) allowance, isCanonicalWatermark since.1) ∧
      ∀ env : RunEnv, env.journal.Perm journal → env.queries .tailFloor = floored →
        Orchestrator.countLookbackTail settings env (meaning checkpoint) = tail →
        (Orchestrator.rowBudget settings env (meaning checkpoint)).tailAllowance = allowance →
        Orchestrator.sinceTimestamp settings env (meaning checkpoint) =
          (sinceTimestamp wording athena settings workGroup outputLocation checkpoint windowStart
            ((tail.1 : Int), tail.2) allowance).map fun since => (meaning since.1, since.2) := by
  have own : Orchestrator.windowStart settings (meaning checkpoint) = meaning windowStart :=
    (WatermarkText.meaning_subtract canonical start canonical').symm
  have integers : (allowance : Int) < (tail.1 : Int) ∨ tail.2 = true ↔
      allowance < tail.1 ∨ tail.2 = true := by
    rw [Int.ofNat_lt]
  have tests : (decide (allowance < tail.1) || tail.2) = true ↔
      allowance < tail.1 ∨ tail.2 = true := by
    rw [Bool.or_eq_true, decide_eq_true_eq]
  by_cases exceeds : allowance < tail.1 ∨ tail.2 = true
  case neg =>
    rw [sinceTimestamp, if_neg (mt integers.mp exceeds)]
    refine ⟨true, fun lost => Bool.noConfusion lost, ?_, fun env _ _ counted budget => ?_⟩
    · rintro _ ⟨⟩
      exact canonical'
    · rw [Orchestrator.sinceTimestamp]
      rw [counted, budget, if_neg (mt tests.mp exceeds), own, Option.map_some]
  case pos =>
    have later : checkpoint ≠ "" := by
      intro empty
      rw [first empty] at exceeds
      exact exceeds.elim (Nat.not_lt_zero _) Bool.false_ne_true
    rw [sinceTimestamp, if_pos (integers.mpr exceeds), raiseTailFloor]
    by_cases zero : allowance = 0
    · rw [if_pos zero]
      refine ⟨true, fun lost => Bool.noConfusion lost, fun since member =>
        absurd member (Option.not_mem_none since),
        fun env _ _ counted budget => ?_⟩
      rw [Orchestrator.sinceTimestamp, Orchestrator.raiseTailFloor]
      rw [counted, budget, if_pos (tests.mpr exceeds), if_pos zero, Option.map_none]
    · rw [if_neg zero]
      have located := tailFloor_refines wording workGroup outputLocation behind
        (canonical_some canonical' (start_ne_empty start later)) (canonical_some canonical later)
          (Nat.pos_of_ne_zero zero)
      rcases located with ⟨floorBound, same, wide, value⟩ | ⟨⟨raised, same⟩, unanswered⟩
      · rw [same]
        refine ⟨true, fun lost => Bool.noConfusion lost, ?_,
          fun env perm asked counted budget => ?_⟩
        · cases floorBound with
          | none =>
            rintro _ ⟨⟩
            exact canonical'
          | some bound =>
            rintro _ ⟨⟩
            exact (wide bound rfl).1
        · rw [Orchestrator.sinceTimestamp, Orchestrator.raiseTailFloor]
          rw [counted, budget, if_pos (tests.mpr exceeds), if_neg zero, asked, own, value _ perm]
          cases floorBound <;> rfl
      · rw [same]
        refine ⟨false, fun _ => ⟨_, _, asks (integers.mpr exceeds) zero, unanswered⟩,
          fun since member => absurd member (Option.not_mem_none since),
          fun env _ asked counted budget => ?_⟩
        rw [Orchestrator.sinceTimestamp, Orchestrator.raiseTailFloor]
        dsimp only
        rw [counted, budget, if_pos (tests.mpr exceeds), if_neg zero, asked]
        rfl

/-- No record is a fatal error. -/
theorem not_fatal {order : Journal} {bucketName : String} {since : Watermark}
    {upTo : Option Watermark} :
    (AthenaJournal.readJournal order bucketName since upTo).2.filter
      JournalReadError.isFatal = [] := by
  rw [List.filter_eq_nil_iff]
  intro error member
  obtain ⟨row, _, rejected⟩ := List.mem_filterMap.mp member
  rw [AthenaJournal.parseRow] at rejected
  split at rejected
  · cases rejected
    exact Bool.false_ne_true
  · split at rejected
    · cases rejected
      exact Bool.false_ne_true
    · split at rejected
      · cases rejected
        exact Bool.false_ne_true
      · cases rejected

/-- What is read between two bounds is what the run model reads of some order of the journal. -/
theorem readBetween_refines (wording : Wording) (workGroup outputLocation : String)
    (behind : Behind athena catalog journal settings.bucketName) {since : String × Bool}
    (canonical : isCanonicalWatermark since.1) (canonical' : Canonical journalUntil) :
    ∃ outcome order served unavailable,
      readBetween wording athena settings workGroup outputLocation since
        journalUntil = .ok outcome ∧
        order.Perm journal ∧
        (served = false → Unanswered wording athena workGroup outputLocation
          (buildQuery (bucketNamespace settings.bucketName) settings.bucketName
            (given (some since.1)) journalUntil)
          (windowQuery settings.bucketName (literals (given (some since.1)))
            (literals journalUntil))) ∧
        match outcome with
        | .skipped => served = false ∧ unavailable = false
        | .unavailable _ => served = false ∧ unavailable = true
        | .window read => served = true ∧ read.sinceTimestamp = since.1 ∧
            read.tailShortened = since.2 ∧
            read.journalUntil = journalUntil ∧
            read.ops.map ReadOperation.operation =
              (AthenaJournal.readJournal order settings.bucketName
              (meaning since.1) (journalUntil.map meaning)).1.map some ∧
            read.journalErrors = (AthenaJournal.readJournal order settings.bucketName
              (meaning since.1) (journalUntil.map meaning)).2 := by
  have reads : ∃ queryString result, Sends _ _ queryString ∧
      readJournal wording athena settings.bucketName workGroup
      outputLocation (given (some since.1)) journalUntil = .ok result ∧ _ :=
    readJournal_reads behind.serves behind.stored behind.recorded behind.plain
      (canonical_given canonical) canonical'
  obtain ⟨queryString, ⟨ops, errors⟩, sends, same,
    ⟨⟨_, error, listed, fatal⟩, disturbed⟩ | ⟨order, perm, operations, skips⟩⟩ := reads
  · obtain rfl := listed
    have kept : [error].filter JournalReadError.isFatal = [error] := List.filter_cons_of_pos fatal
    rw [readBetween, same, Except.map]
    dsimp only
    rw [kept, if_neg (List.cons_ne_nil _ _)]
    cases missing : error.isJournalUnavailable with
    | false =>
      have found : [error].find? JournalReadError.isJournalUnavailable = none := by simp [missing]
      rw [found]
      exact ⟨_, journal, false, false, rfl, List.Perm.refl journal, fun _ =>
        ⟨queryString, sends, disturbed⟩, rfl, rfl⟩
    | true =>
      have found : [error].find? JournalReadError.isJournalUnavailable = some error :=
        List.find?_cons_of_pos missing
      rw [found]
      exact ⟨_, journal, false, true, rfl, List.Perm.refl journal, fun _ =>
        ⟨queryString, sends, disturbed⟩, rfl, rfl⟩
  · rw [mark_given] at operations skips
    obtain rfl := skips
    rw [readBetween, same, Except.map]
    dsimp only
    rw [not_fatal, if_pos rfl]
    exact ⟨_, order, true, false, rfl, perm, nofun, rfl, rfl, rfl, rfl, operations, rfl⟩

/-- The candidates of a window are counted as the run model counts them. -/
theorem candidates_refine (wording : Wording) (workGroup outputLocation : String)
    (behind : Behind athena catalog journal settings.bucketName)
    (rules : List DerivedReplicationRule)
    (canonical : Canonical since) (canonical' : Canonical upTo) :
    ∃ estimated : Bool,
      (estimated = false → Unanswered wording athena workGroup outputLocation
        (preflightQuery (bucketNamespace settings.bucketName) settings.bucketName rules since upTo)
        (candidatesQuery settings.bucketName rules (literals since) (literals upTo))) ∧
      ∀ order : Journal, order.Perm journal →
      (preflightCount wording athena settings.bucketName workGroup outputLocation rules
        since upTo).toOption =
        if estimated then
          some (AthenaJournal.preflightCount order settings.bucketName rules (mark since)
            (upTo.map meaning) : Int)
        else none := by
  have reads : Reads wording athena workGroup outputLocation _ _
      (preflightCount wording athena settings.bucketName workGroup outputLocation
        rules since upTo) _ :=
    preflightCount_reads behind.serves behind.stored behind.recorded behind.plain
      rules canonical canonical'
  rcases reads_cases reads with ⟨count, same, rfl⟩ | ⟨⟨raised, same⟩, unanswered⟩
  · refine ⟨true, nofun, fun order perm => ?_⟩
    rw [same, if_pos rfl, preflightCount_perm perm]
    rfl
  · refine ⟨false, fun _ => unanswered, fun order _ => ?_⟩
    rw [same]
    rfl

/-- The deleted versions are those of the run model, and none where they cannot be read. -/
theorem deletes_refine (wording : Wording) (workGroup outputLocation : String)
    (behind : Behind athena catalog journal settings.bucketName) (canonical : Canonical since) :
    ∃ deleted : Bool,
      (deleted = false → Unanswered wording athena workGroup outputLocation
        (permanentDeletesQuery (bucketNamespace settings.bucketName) settings.bucketName since)
        (deletesQuery settings.bucketName (literals since))) ∧
      ∀ order : Journal, order.Perm journal →
      (readPermanentDeletes wording athena settings.bucketName workGroup outputLocation
        since).toOption.getD ∅ =
        (if deleted then AthenaJournal.readPermanentDeletes order settings.bucketName (mark since)
          else []).toFinset := by
  have reads : Reads wording athena workGroup outputLocation _ _
      (readPermanentDeletes wording athena settings.bucketName workGroup outputLocation since) _ :=
    readPermanentDeletes_reads behind.serves behind.stored behind.recorded behind.plain canonical
  rcases reads_cases reads with ⟨pairs, same, rfl⟩ | ⟨⟨raised, same⟩, unanswered⟩
  · refine ⟨true, nofun, fun order perm => ?_⟩
    rw [same, if_pos rfl]
    ext pair
    simp only [Except.toOption, Option.getD_some, AthenaJournal.readPermanentDeletes,
      List.mem_toFinset, List.mem_append, List.mem_map, List.mem_filter, perm.mem_iff]
  · refine ⟨false, fun _ => unanswered, fun order _ => ?_⟩
    rw [same]
    rfl

/-- The outcome is what the run model comes to in the environment. -/
def Mirrors (settings : Settings) (env : RunEnv) (payload : Option Payload)
    (checkpoint : String) : Outcome → Prop
  | .skipped => Orchestrator.readJournalWindow settings env (meaning checkpoint)
      payload = (none, payload)
  | .unavailable _ => Orchestrator.readJournalWindow settings env (meaning checkpoint) payload =
      (none, Orchestrator.escalateJournalUnavailable settings env payload)
  | .window read => ∃ ops, read.ops.map ReadOperation.operation = ops.map some ∧
      Orchestrator.readJournalWindow settings env (meaning checkpoint) payload =
        (some ⟨ops, read.journalErrors, meaning read.sinceTimestamp,
          read.journalUntil.map meaning, read.tailShortened⟩,
          payload)

/-- How the queries of a run went. -/
def queriesOf (counted bounded floored served estimated deleted : Bool) : Query → Bool
  | .tailCount => counted
  | .boundary => bounded
  | .tailFloor => floored
  | .journal => served
  | .preflight => estimated
  | .permanentDeletes => deleted

/-- A run whose queries go as told, on an order of the journal. -/
def runWith (env : RunEnv) (order : Journal) (queries : Query → Bool)
    (unavailable : Bool) : RunEnv :=
  { env with
    journal := order
    queries := queries
    journalUnavailable := unavailable }

/-- A run of the model that reads of its journal what a run reads through the service. -/
structure ReadsAlike (wording : Wording) (athena : Athena) (settings : Settings)
    (workGroup outputLocation : String)
    (payload : Option Payload) (checkpoint : String) (outcome : Outcome) (env : RunEnv) : Prop where
  window : Mirrors settings env payload checkpoint outcome
  candidates : ∀ read, outcome = .window read →
    (preflightCount wording athena settings.bucketName workGroup outputLocation settings.rules
        (given (some read.sinceTimestamp)) read.journalUntil).toOption =
      if env.queries .preflight then
        some (AthenaJournal.preflightCount env.journal settings.bucketName settings.rules
          (meaning read.sinceTimestamp)
          (read.journalUntil.map meaning) : Int)
      else none
  deletes : ∀ read, outcome = .window read →
    (readPermanentDeletes wording athena settings.bucketName workGroup outputLocation
        (given (some read.sinceTimestamp))).toOption.getD ∅ =
      (Orchestrator.permanentDeletes settings env (meaning read.sinceTimestamp)).toFinset

/-- A run that skips its bucket asks for nothing more. -/
theorem ReadsAlike.of_skipped {env : RunEnv}
    (mirrors : Mirrors settings env payload checkpoint .skipped) :
    ReadsAlike wording athena settings workGroup outputLocation payload checkpoint .skipped env :=
  ⟨mirrors, nofun, nofun⟩

theorem advances_iff (canonical : isCanonicalWatermark checkpoint) (wide : Canonical journalUntil) :
    (journalUntil.map meaning).any (fun bound => bound ≤ meaning checkpoint) =
      journalUntil.any fun bound => bound ≤ checkpoint := by
  cases journalUntil with
  | none => rfl
  | some bound =>
    exact decide_eq_decide.mpr (WatermarkText.le_iff_meaning_le (wide bound rfl).1 canonical).symm

/-- What becomes of a run, given the lower bound of its read. -/
def windowAt (settings : Settings) (env : RunEnv) (upTo : Option Watermark)
    (payload : Option Payload) :
    Option (Watermark × Bool) → Option Orchestrator.JournalWindow × Option Payload
  | none => (none, payload)
  | some (since, shortened) =>
      if !env.queries .journal then
        (none, if env.journalUnavailable then Orchestrator.escalateJournalUnavailable settings
          env payload else payload)
      else
        (some ⟨(AthenaJournal.readJournal env.journal settings.bucketName since upTo).1,
          (AthenaJournal.readJournal env.journal settings.bucketName since upTo).2, since,
            upTo, shortened⟩, payload)

/-- A run whose boundary was found and lies above its watermark. -/
theorem readJournalWindow_bounded {env : RunEnv} {watermark : Watermark} {upTo : Option Watermark}
    (bounded : env.queries .boundary = true)
    (found : Orchestrator.journalUntil settings env watermark = upTo)
    (advances : upTo.any (fun bound => bound ≤ watermark) = false) (payload : Option Payload) :
    Orchestrator.readJournalWindow settings env watermark payload =
      windowAt settings env upTo payload (Orchestrator.sinceTimestamp settings env watermark) := by
  rw [Orchestrator.readJournalWindow, found, bounded, advances]
  cases Orchestrator.sinceTimestamp settings env watermark <;> rfl

/-- A run that reads between the bounds of a window reads it alike, and what it asks for
afterwards. -/
theorem readBetween_alike (wording : Wording) (workGroup outputLocation : String)
    (behind : Behind athena catalog journal settings.bucketName) {since : String × Bool}
    (canonical : isCanonicalWatermark since.1) (wide : Canonical journalUntil)
    (asks : Asks wording athena settings workGroup outputLocation checkpoint windowStart .journal
      (buildQuery (bucketNamespace settings.bucketName) settings.bucketName
        (given (some since.1)) journalUntil)
      (windowQuery settings.bucketName (literals (given (some since.1))) (literals journalUntil)))
    (goesOn : readFrom wording athena settings workGroup outputLocation checkpoint windowStart =
      readBetween wording athena settings workGroup outputLocation since journalUntil)
    (windows : ∀ order served estimated deleted unavailable, order.Perm journal →
      Orchestrator.readJournalWindow settings
        (runWith env order (queriesOf counted true floored served estimated deleted) unavailable)
          (meaning checkpoint)
        payload = windowAt settings
          (runWith env order (queriesOf counted true floored served estimated deleted) unavailable)
          (journalUntil.map meaning) payload (some (meaning since.1, since.2))) :
    ∃ outcome order served estimated deleted unavailable,
      readBetween wording athena settings workGroup outputLocation since
        journalUntil = .ok outcome ∧
        order.Perm journal ∧
        (served = false →
          Disturbed wording athena settings workGroup outputLocation checkpoint
            windowStart .journal) ∧
        (estimated = false →
          Disturbed wording athena settings workGroup outputLocation checkpoint
            windowStart .preflight) ∧
        (deleted = false →
          Disturbed wording athena settings workGroup outputLocation checkpoint
            windowStart .permanentDeletes) ∧
        ReadsAlike wording athena settings workGroup outputLocation payload checkpoint outcome
          (runWith env order (queriesOf counted true floored served estimated
            deleted) unavailable) := by
  obtain ⟨outcome, order, served, unavailable, read, perm, unanswered, shape⟩ :=
    readBetween_refines wording workGroup outputLocation behind canonical wide
  have readLost (failed : served = false) :
      Disturbed wording athena settings workGroup outputLocation checkpoint windowStart .journal :=
    ⟨_, _, asks, unanswered failed⟩
  cases outcome with
  | skipped =>
    obtain ⟨rfl, rfl⟩ := shape
    exact ⟨_, order, false, true, true, false, read, perm, readLost, nofun, nofun,
      .of_skipped (windows order false true true false perm)⟩
  | unavailable cause =>
    obtain ⟨rfl, rfl⟩ := shape
    exact ⟨_, order, false, true, true, true, read, perm, readLost, nofun, nofun,
      windows order false true true true perm, nofun, nofun⟩
  | window found =>
    obtain ⟨rfl, sinceSame, shortened, upToSame, operations, errors⟩ := shape
    rw [← sinceSame] at canonical operations errors
    rw [← upToSame] at wide operations errors
    obtain ⟨estimated, estimateLost, estimates⟩ :=
      candidates_refine wording workGroup outputLocation behind
      settings.rules (canonical_given canonical) wide
    obtain ⟨deleted, deleteLost, deletes⟩ := deletes_refine wording workGroup outputLocation behind
      (canonical_given canonical)
    have window := windows order true estimated deleted unavailable perm
    rw [← sinceSame, ← upToSame, ← shortened] at window
    have asked := goesOn.trans read
    refine ⟨_, order, true, estimated, deleted, unavailable, read, perm, nofun,
      fun failed => ⟨_, _, .preflight asked, estimateLost failed⟩,
      fun failed => ⟨_, _, .permanentDeletes asked, deleteLost failed⟩, ⟨_, operations, ?_⟩, ?_, ?_⟩
    · rw [errors]
      exact window
    · rintro _ ⟨⟩
      rw [estimates order perm, mark_given]
      rfl
    · rintro _ ⟨⟩
      rw [deletes order perm, mark_given]
      rfl

/-- The run model counts one tail, whatever order the journal is in. -/
theorem exists_tail (wording : Wording) (workGroup outputLocation : String)
    (behind : Behind athena catalog journal settings.bucketName)
    (canonical : isCanonicalWatermark checkpoint)
    (canonical' : isCanonicalWatermark windowStart)
    (start : WatermarkText.subtract checkpoint settings.lookback = some windowStart)
    (env : RunEnv) :
    ∃ (counted : Bool) (tail : Nat × Bool),
      (counted = false → Disturbed wording athena settings workGroup outputLocation checkpoint
        windowStart .tailCount) ∧
      (checkpoint = "" → tail = (0, false)) ∧
      countLookbackTail wording athena settings workGroup outputLocation checkpoint windowStart =
        ((tail.1 : Int), tail.2) ∧
      ∀ own : RunEnv, own.journal.Perm journal → own.queries .tailCount = counted →
        Orchestrator.countLookbackTail settings own (meaning checkpoint) = tail := by
  obtain ⟨counted, lost, counts⟩ :=
    countLookbackTail_refines wording workGroup outputLocation behind canonical canonical' start
  have text := counts { env with journal := journal, queries := fun _ => counted }
    (List.Perm.refl journal) rfl
  refine ⟨counted, _, lost, fun empty => ?_, text, fun own perm asked => ?_⟩
  · have ⟨rows, assumed⟩ := Prod.mk.inj (text.symm.trans (if_pos (Or.inl empty)))
    exact Prod.ext (Int.ofNat.inj rows) assumed
  · have ⟨rows, assumed⟩ := Prod.mk.inj ((counts own perm asked).symm.trans text)
    exact Prod.ext (Int.ofNat.inj rows) assumed

theorem lost_cases {lost : Query → Prop} (countLost : counted = false → lost .tailCount)
    (boundLost : bounded = false → lost .boundary) (floorLost : floored = false → lost .tailFloor)
    (readLost : served = false → lost .journal) (estimateLost : estimated = false → lost .preflight)
    (deleteLost : deleted = false → lost .permanentDeletes) (query : Query)
    (failed : queriesOf counted bounded floored served estimated deleted query =
      false) : lost query := by
  cases query with
  | tailCount => exact countLost failed
  | boundary => exact boundLost failed
  | tailFloor => exact floorLost failed
  | journal => exact readLost failed
  | preflight => exact estimateLost failed
  | permanentDeletes => exact deleteLost failed

/-- A run that has found how far up it reads goes on from its lower bound. -/
theorem Bounded.goesOn
    (bounded : Bounded wording athena settings workGroup outputLocation checkpoint windowStart
      tail split journalUntil)
    (counts : 0 ≤ tail.1) : readFrom wording athena settings workGroup outputLocation
      checkpoint windowStart =
      (sinceTimestamp wording athena settings workGroup outputLocation checkpoint windowStart tail
        split.tailAllowance).elim (.ok .skipped) fun since =>
          readBetween wording athena settings workGroup outputLocation since journalUntil := by
  rw [readFrom, bounded.counted, if_neg counts.not_gt, bounded.divided, bounded.bounded]
  dsimp only
  rw [if_neg bounded.advances]
  cases sinceTimestamp wording athena settings workGroup outputLocation checkpoint windowStart
    tail split.tailAllowance
    <;> rfl

theorem readFrom_refines (wording : Wording) (workGroup outputLocation : String)
    (behind : Behind athena catalog journal settings.bucketName)
    (canonical : isCanonicalWatermark checkpoint)
    (canonical' : isCanonicalWatermark windowStart)
    (start : WatermarkText.subtract checkpoint settings.lookback = some windowStart) (env : RunEnv)
    (payload : Option Payload) :
    ∃ outcome order queries unavailable,
      readFrom wording athena settings workGroup outputLocation checkpoint
        windowStart = .ok outcome ∧
        order.Perm journal ∧
        (∀ query, queries query = false →
          Disturbed wording athena settings workGroup outputLocation checkpoint windowStart query) ∧
        ReadsAlike wording athena settings workGroup outputLocation payload checkpoint outcome
          (runWith env order queries unavailable) := by
  obtain ⟨counted, tail, countLost, first, text, tails⟩ :=
    exists_tail wording workGroup outputLocation behind canonical canonical' start env
  generalize divided : RowBudget.splitRowBudget settings.journalReadRowCap tail.1 = split
  have budgets {own : RunEnv} (perm : own.journal.Perm journal)
    (asked : own.queries .tailCount = counted) :
      Orchestrator.rowBudget settings own (meaning checkpoint) = split := by
    rw [Orchestrator.rowBudget, tails own perm asked, divided]
  have divided' : RowBudget.splitRowBudget settings.journalReadRowCap ((tail.1 : Int),
      tail.2).1.toNat = split := by
    rw [Int.toNat_natCast, divided]
  have counts : 0 ≤ (tail.1 : Int) := Int.natCast_nonneg tail.1
  have positive : 0 < split.newRowBudget :=
    divided ▸ (RowBudget.splitRowBudget_bounds
      (Nat.lt_of_lt_of_le Nat.zero_lt_two settings.rowCapAccepted)).2
  rcases boundary_refines wording workGroup outputLocation behind canonical positive with
    ⟨journalUntil, bound, wide, value⟩ | ⟨⟨raised, failed⟩, unanswered⟩
  case inr =>
    rw [readFrom, text]
    dsimp only
    rw [if_neg counts.not_gt, Int.toNat_natCast, divided, failed]
    exact ⟨_, journal, queriesOf counted false true true true true, false, rfl,
      List.Perm.refl journal,
      lost_cases countLost (fun _ => ⟨_, _, .boundary text divided', unanswered⟩)
        nofun nofun nofun nofun,
      .of_skipped rfl⟩
  have upTo {own : RunEnv} (perm : own.journal.Perm journal)
    (asked : own.queries .tailCount = counted) :
      Orchestrator.journalUntil settings own (meaning checkpoint) = journalUntil.map meaning := by
    rw [Orchestrator.journalUntil, budgets perm asked]
    exact value own.journal perm
  by_cases blocked : (journalUntil.any fun bound => bound ≤ checkpoint) = true
  case pos =>
    rw [readFrom, text]
    dsimp only
    rw [if_neg counts.not_gt, Int.toNat_natCast, divided, bound]
    dsimp only
    rw [if_pos blocked]
    refine ⟨_, journal, queriesOf counted true true true true true, false, rfl,
      List.Perm.refl journal,
      lost_cases countLost nofun nofun nofun nofun nofun, .of_skipped ?_⟩
    rw [Mirrors, Orchestrator.readJournalWindow]
    dsimp only
    rw [upTo (List.Perm.refl journal) rfl, advances_iff canonical wide, blocked]
    rfl
  have bounded : Bounded wording athena settings workGroup outputLocation checkpoint windowStart
      ((tail.1 : Int), tail.2) split journalUntil := ⟨text, divided', bound, blocked⟩
  have goesOn := bounded.goesOn counts
  have advances := (advances_iff canonical wide).trans (Bool.eq_false_iff.mpr blocked)
  obtain ⟨floored, floorLost, canonicals, sinces⟩ :=
    sinceTimestamp_refines wording workGroup outputLocation behind
    canonical canonical' start tail split.tailAllowance first (.tailFloor bounded)
  have since_ {own : RunEnv} (perm : own.journal.Perm journal)
    (asked : own.queries .tailCount = counted)
      (asked' : own.queries .tailFloor = floored) :=
    sinces own perm asked' (tails own perm asked)
      (congrArg RowBudget.Split.tailAllowance (budgets perm asked))
  cases low : sinceTimestamp wording athena settings workGroup outputLocation checkpoint windowStart
    ((tail.1 : Int), tail.2) split.tailAllowance with
  | none =>
    rw [low] at goesOn since_
    refine ⟨_, journal, queriesOf counted true floored true true true, false, goesOn,
      List.Perm.refl journal,
      lost_cases countLost nofun floorLost nofun nofun nofun, .of_skipped ?_⟩
    rw [Mirrors, readJournalWindow_bounded rfl (upTo (List.Perm.refl journal) rfl) advances,
      since_ (List.Perm.refl journal) rfl rfl]
    rfl
  | some since =>
    rw [low] at goesOn since_
    have windows (order : Journal) (served estimated deleted unavailable : Bool)
      (perm : order.Perm journal) :=
      (readJournalWindow_bounded rfl (upTo perm rfl) advances payload).trans
        (congrArg (windowAt settings
          (runWith env order (queriesOf counted true floored served estimated deleted) unavailable)
          (journalUntil.map meaning) payload) (since_ perm rfl rfl))
    obtain ⟨outcome, order, served, estimated, deleted, unavailable, read, perm, readLost,
      estimateLost, deleteLost,
      alike⟩ := readBetween_alike wording workGroup outputLocation behind
        (canonicals since low) wide
        (.journal bounded low) goesOn windows
    exact ⟨outcome, order, queriesOf counted true floored served estimated deleted, unavailable,
      goesOn.trans read, perm,
      lost_cases countLost nofun floorLost readLost estimateLost deleteLost, alike⟩

end Bounds

section Sample

/-- The watermark of a run whose tail holds the row that was tagged. -/
def novemberMark : String := "2024-11-16T00:00:00.000000Z"

/-- The row that was tagged is in the tail, and nothing lies above the watermark. -/
example : (match readJournalWindow plainWording (service novemberTables) Settings.photos
    "primary" "s3://state/"
      novemberMark with
    | .ok (.window read) => some (read.ops.map ReadOperation.objectKey,
        read.sinceTimestamp, read.journalUntil)
    | _ => none) = some (["ant"], "2024-11-15T23:59:59.999995Z", none) := by decide +kernel

end Sample
end ReplicateOnTag.WindowSession

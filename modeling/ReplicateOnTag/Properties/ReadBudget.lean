import ReplicateOnTag.Orchestrator.JournalWindow

/-! The rows of a journal window that was read: the tail within its allowance,
the new rows within theirs, and always a new row when the journal has one. -/
namespace ReplicateOnTag.Orchestrator
open StateStore AthenaJournal Watermark

/-- The rows the window's query returns. -/
def rowsRead (settings : Settings) (env : RunEnv) (window : JournalWindow) : List JournalRow :=
  taggingRows env.journal settings.bucketName window.since window.upTo

/-- A tagging row of the bucket above the watermark. -/
def IsNewRow (settings : Settings) (env : RunEnv) (watermark : Watermark)
    (row : JournalRow) : Prop :=
  row ∈ env.journal ∧ isTaggingRecord settings.bucketName row ∧ watermark < row.watermark

structure WithinBudget (settings : Settings) (env : RunEnv) (watermark : Watermark)
    (window : JournalWindow) : Prop where
  /-- Every row read becomes an operation or an error, and nothing else does. -/
  materialized : window.ops.length + window.errors.length = (rowsRead settings env window).length
  tail : ((rowsRead settings env window).filter fun row => row.watermark ≤ watermark).length ≤
    (rowBudget settings env watermark).tailAllowance
  fresh : ∀ bound, window.upTo = some bound →
    ((rowsRead settings env window).filter
      fun row => watermark < row.watermark ∧ row.watermark < bound).length ≤
        (rowBudget settings env watermark).newRowBudget - 1
  cap : (rowBudget settings env watermark).tailAllowance +
    (rowBudget settings env watermark).newRowBudget ≤
    settings.journalReadRowCap
  ties : ∀ bound, window.upTo = some bound → ∀ row ∈ env.journal,
    isTaggingRecord settings.bucketName row → row.watermark = bound →
      row ∈ rowsRead settings env window
  advances : ∀ bound, window.upTo = some bound → watermark < bound
  progress : (∃ row, IsNewRow settings env watermark row) →
    ∃ row ∈ rowsRead settings env window, watermark < row.watermark
  uncapped : window.upTo = none → ∀ row, IsNewRow settings env watermark row →
    row ∈ rowsRead settings env window

section Counting
variable {settings : Settings} {env : RunEnv} {watermark : Watermark}

/-- The tail of the nominal window has the rows that were counted, unless the
count was assumed. -/
theorem tail_counted (measured : (countLookbackTail settings env watermark).2 = false) :
    (taggingRows env.journal settings.bucketName (windowStart settings watermark)
      (some watermark)).length =
      (countLookbackTail settings env watermark).1 := by
  have none : windowStart settings watermark = watermark ∨ watermark = epoch →
      taggingRows env.journal settings.bucketName (windowStart settings watermark)
        (some watermark) = [] := by
    intro empty
    have start : windowStart settings watermark = watermark := by
      rcases empty with same | rfl
      · exact same
      · exact subtract_epoch _
    rw [start, taggingRows, List.filter_eq_nil_iff]
    rintro row - selected
    obtain ⟨_, within⟩ := Bool.and_eq_true_iff.mp selected
    obtain ⟨above, below⟩ := inRange_iff.mp within
    exact absurd (below watermark rfl) (not_le.mpr above)
  simp only [countLookbackTail] at measured ⊢
  by_cases empty : watermark = epoch ∨ windowStart settings watermark = watermark
  · rw [if_pos (by simpa using empty), none empty.symm]
    rfl
  · rw [if_neg (by simpa using empty)] at measured ⊢
    by_cases counted : env.queries .tailCount = true
    · rw [if_pos counted]
      rfl
    · rw [if_neg counted] at measured
      cases measured

/-- However the lower bound was found, the tail above it fits the allowance. -/
theorem tail_within (found : sinceTimestamp settings env watermark = some (since, shortened)) :
    (taggingRows env.journal settings.bucketName since (some watermark)).length ≤
      (rowBudget settings env watermark).tailAllowance := by
  simp only [sinceTimestamp] at found
  split at found
  · simp only [raiseTailFloor] at found
    split at found
    · cases found
    split at found
    · cases found
    split at found
    · rename_i absent
      cases found
      exact tail_fits absent
    · rename_i bound located
      cases found
      rw [taggingRows_above (findTailFloor_range located).1.le]
      exact count_above_floor located
  · rename_i fits
    cases found
    simp only [Bool.or_eq_true, decide_eq_true_eq, not_or, not_lt, Bool.not_eq_true] at fits
    rw [tail_counted fits.2]
    exact fits.1

theorem length_readJournal (journal : Journal) (bucketName : String) (since : Watermark)
    (upTo : Option Watermark) :
    (readJournal journal bucketName since upTo).1.length +
    (readJournal journal bucketName since upTo).2.length =
      (taggingRows journal bucketName since upTo).length := by
  have split : ∀ rows : List JournalRow,
      (rows.filterMap fun row => parsed (parseRow row bucketName)).length +
      (rows.filterMap fun row => rejected (parseRow row bucketName)).length = rows.length := by
    intro rows
    induction rows with
    | nil => rfl
    | cons row rest ih =>
      rw [List.filterMap_cons, List.filterMap_cons, List.length_cons, ← ih]
      cases parseRow row bucketName with
      | ok op =>
        simp only [parsed, rejected, List.length_cons]
        omega
      | error error =>
        simp only [parsed, rejected, List.length_cons]
        omega
  rw [readJournal]
  simp only [split]
  exact List.length_insertionSort _ _

/-- A part of one read is no longer than another read that contains it. -/
theorem length_filter_taggingRows {holds : JournalRow → Bool}
    (contains : ∀ row, inRange since upTo row → holds row → inRange start (some bound) row) :
    ((taggingRows journal bucketName since upTo).filter holds).length ≤
      (taggingRows journal bucketName start (some bound)).length := by
  rw [taggingRows, taggingRows, List.filter_filter]
  refine (List.monotone_filter_right _ fun row selected => ?_).length_le
  simp only [Bool.and_eq_true] at selected ⊢
  obtain ⟨held, tagging, inside⟩ := selected
  exact ⟨tagging, contains row inside held⟩

end Counting

/-- A window that was read keeps to the row budget at both ends and has a new
row whenever the journal has one, however its tail was counted. -/
theorem window_within_budget
    (read : readJournalWindow settings env watermark stored = (some window, after)) :
    WithinBudget settings env watermark window := by
  obtain ⟨parts, _⟩ := readJournalWindow_parts read
  have below : window.since ≤ watermark := (sinceTimestamp_range parts.since).2
  have bounds := @RowBudget.splitRowBudget_bounds settings.journalReadRowCap
    (countLookbackTail settings env watermark).1 (Nat.zero_lt_of_lt settings.rowCapAccepted)
  have advances : ∀ bound, window.upTo = some bound → watermark < bound := by
    intro bound capped
    rw [parts.upTo] at capped
    exact lt_findRowCountBoundary capped
  have tied : ∀ bound, window.upTo = some bound → ∀ row ∈ env.journal,
      isTaggingRecord settings.bucketName row → row.watermark = bound →
        row ∈ rowsRead settings env window := by
    rintro _ capped row member tagging rfl
    refine mem_taggingRows.mpr ⟨member, tagging,
      inRange_iff.mpr ⟨below.trans_lt (advances _ capped), ?_⟩⟩
    rintro _ same
    rw [capped, Option.some.injEq] at same
    exact same.le
  have uncapped : window.upTo = none → ∀ row, IsNewRow settings env watermark row →
      row ∈ rowsRead settings env window := by
    rintro open_ row ⟨member, tagging, above⟩
    refine mem_taggingRows.mpr ⟨member, tagging, inRange_iff.mpr ⟨below.trans_lt above, ?_⟩⟩
    rw [open_]
    nofun
  constructor
  · rw [rowsRead, ← length_readJournal, parts.read]
  · refine le_trans (length_filter_taggingRows ?_) (tail_within parts.since)
    intro row inside old
    obtain ⟨above, _⟩ := inRange_iff.mp inside
    refine inRange_iff.mpr ⟨above, ?_⟩
    rintro _ ⟨⟩
    exact of_decide_eq_true old
  · intro bound capped
    have count := count_below_boundary (parts.upTo ▸ capped)
    rw [taggingRows, List.filter_filter] at count
    refine le_trans ?_ count
    rw [rowsRead, taggingRows, List.filter_filter]
    refine (List.monotone_filter_right _ fun row selected => ?_).length_le
    simp only [Bool.and_eq_true, decide_eq_true_eq] at selected ⊢
    obtain ⟨⟨fresh, inside⟩, tagging, _⟩ := selected
    exact ⟨inside, tagging, inRange_iff.mpr ⟨fresh, nofun⟩⟩
  · exact bounds.1
  · exact tied
  · exact advances
  · rintro ⟨row, fresh⟩
    cases capped : window.upTo with
    | none => exact ⟨row, uncapped capped row fresh, fresh.2.2⟩
    | some bound =>
      obtain ⟨last, listed, same⟩ := findRowCountBoundary_row (parts.upTo ▸ capped)
      obtain ⟨member, tagging, _⟩ := mem_taggingRows.mp listed
      refine ⟨last, tied bound capped last member tagging same, ?_⟩
      rw [same]
      exact advances bound capped
  · exact uncapped

section Sample
open Settings

/-- A tail of two rows and three new ones, two of which tie; the count query fails. -/
def uncounted : RunEnv :=
  { RunEnv.smooth 20 [photosRow "late" "yes" 9, photosRow "old" "yes" 7, photosRow "new" "no" 12,
      photosRow "tied" "yes" 12, photosRow "next" "yes" 14] (fun _ => none) (.created "job-1") with
    queries := fun query => query ≠ .tailCount }

theorem window_within_budget_uncounted :
    ∃ window, readJournalWindow photos uncounted (toWatermark 10) none = (some window, none) ∧
      window.since = toWatermark 7 ∧ window.upTo = some (toWatermark 12) ∧
        WithinBudget photos uncounted (toWatermark 10) window := by
  have read : ∃ window, readJournalWindow photos uncounted (toWatermark 10)
      none = (some window, none) ∧
      window.since = toWatermark 7 ∧ window.upTo = some (toWatermark 12) :=
    ⟨⟨_, _, toWatermark 7, some (toWatermark 12), true⟩, rfl, rfl, rfl⟩
  obtain ⟨window, read, since, upTo⟩ := read
  exact ⟨window, read, since, upTo, window_within_budget read⟩

end Sample
end ReplicateOnTag.Orchestrator

import ReplicateOnTag.Core.JournalDedup
import ReplicateOnTag.Orchestrator.Environment

/-! The journal read of one run: the lookback tail below the watermark and the
new rows above it, within the row budget, and the selection made from them. -/
namespace ReplicateOnTag.Orchestrator
open StateStore AthenaJournal Watermark

structure JournalWindow where
  ops : List TaggingOperation
  errors : List JournalReadError
  /-- Exclusive lower bound of the read. -/
  since : Watermark
  /-- Inclusive upper bound of a capped read. -/
  upTo : Option Watermark
  tailShortened : Bool
  deriving DecidableEq

section Bounds
variable (settings : Settings) (env : RunEnv) (checkpointWatermark : Watermark)

def windowStart : Watermark := subtract checkpointWatermark settings.lookback

/-- `_count_lookback_tail`: the tail's rows, and whether the number is assumed. -/
def countLookbackTail : Nat × Bool :=
  let start := windowStart settings checkpointWatermark
  if checkpointWatermark = epoch || start = checkpointWatermark then (0, false)
  else if env.queries .tailCount then
    (findTailRowCount env.journal settings.bucketName start checkpointWatermark, false)
  else (RowBudget.tailShare settings.journalReadRowCap, true)

def rowBudget : RowBudget.Split :=
  RowBudget.splitRowBudget settings.journalReadRowCap
    (countLookbackTail settings env checkpointWatermark).1

/-- The boundary is anchored at the watermark, not at the window start. -/
def journalUntil : Option Watermark :=
  findRowCountBoundary env.journal settings.bucketName checkpointWatermark
    (rowBudget settings env checkpointWatermark).newRowBudget

/-- `_raise_tail_floor`: none when no safe lower bound can be established. -/
def raiseTailFloor : Option (Watermark × Bool) :=
  let start := windowStart settings checkpointWatermark
  let allowance := (rowBudget settings env checkpointWatermark).tailAllowance
  if allowance = 0 then none
  else if !env.queries .tailFloor then none
  else
    match findTailFloor env.journal settings.bucketName start checkpointWatermark allowance with
    | none => some (start, false)
    | some bound => some (bound, true)

/-- The lower bound of the read, and whether the tail was shortened. -/
def sinceTimestamp : Option (Watermark × Bool) :=
  let tail := countLookbackTail settings env checkpointWatermark
  let allowance := (rowBudget settings env checkpointWatermark).tailAllowance
  if allowance < tail.1 || tail.2 then raiseTailFloor settings env checkpointWatermark
  else some (windowStart settings checkpointWatermark, false)

end Bounds

/-- `JOURNAL_UNAVAILABLE_REALERT_INTERVAL`: 24 hours. -/
def journalUnavailableRealertInterval : Int := 24 * 60 * 60 * 1000000

def journalUnavailableAlertDue (settings : Settings) (env : RunEnv)
    (stored : Option Payload) : Bool :=
  match stored.bind fun payload => payload.journalUnavailableAlerts.get? settings.bucketName with
  | none => true
  | some last => journalUnavailableRealertInterval ≤ env.now - last

/-- `_escalate_journal_unavailable`: suppression is recorded after delivery. -/
def escalateJournalUnavailable (settings : Settings) (env : RunEnv) (stored : Option Payload) :
    Option Payload :=
  let due := !env.reads .journalAlert || journalUnavailableAlertDue settings env stored
  if settings.alertsJournalUnavailable && due && env.alertDelivered then
    writeBestEffort settings env .journalAlert
      (.recordJournalUnavailableAlert settings.bucketName env.now) stored
  else stored

/-- `_read_journal_window`; no window when the bucket is skipped. -/
def readJournalWindow (settings : Settings) (env : RunEnv) (checkpointWatermark : Watermark)
    (stored : Option Payload) : Option JournalWindow × Option Payload :=
  let upTo := journalUntil settings env checkpointWatermark
  if !env.queries .boundary ||
    upTo.any (fun bound => bound ≤ checkpointWatermark) then (none, stored)
  else
    match sinceTimestamp settings env checkpointWatermark with
    | none => (none, stored)
    | some (since, shortened) =>
        if !env.queries .journal then
          (none,
            if env.journalUnavailable then escalateJournalUnavailable settings
              env stored else stored)
        else
          let (ops, errors) := readJournal env.journal settings.bucketName since upTo
          (some ⟨ops, errors, since, upTo, shortened⟩, stored)

/-- What `_select_eligible` hands on. The candidate covers archived operations too. -/
structure Selected where
  dedupedOps : List TaggingOperation
  archivedOps : List TaggingOperation
  candidateHwm : Option Watermark

def selectEligible (settings : Settings) (ops : List TaggingOperation) (state : CheckpointState) :
    Selected :=
  let selection := JournalDedup.selectEligibleOperations ops state settings.lookback
  let (kept, archived) := JournalDedup.filterArchivedOperations selection.eligible
  ⟨kept, archived, selection.candidateMaxWatermark⟩

section Window
variable {settings : Settings} {env : RunEnv} {watermark : Watermark}

theorem windowStart_le (settings : Settings) (watermark : Watermark) :
    windowStart settings watermark ≤ watermark :=
  subtract_le watermark settings.lookback

theorem sinceTimestamp_range
    (found : sinceTimestamp settings env watermark = some (since, shortened)) :
    windowStart settings watermark ≤ since ∧ since ≤ watermark := by
  have start := windowStart_le settings watermark
  simp only [sinceTimestamp] at found
  split at found
  · simp only [raiseTailFloor] at found
    split at found
    · cases found
    · split at found
      · cases found
      · split at found
        · cases found
          exact ⟨le_rfl, start⟩
        · rename_i bound located
          cases found
          exact ⟨(findTailFloor_range located).1.le, (findTailFloor_range located).2⟩
  · cases found
    exact ⟨le_rfl, start⟩

/-- Where a window that was read has its parts from. -/
structure WindowParts (settings : Settings) (env : RunEnv) (watermark : Watermark)
    (window : JournalWindow) : Prop where
  read : readJournal env.journal settings.bucketName window.since window.upTo =
    (window.ops, window.errors)
  upTo : window.upTo = journalUntil settings env watermark
  since : sinceTimestamp settings env watermark = some (window.since, window.tailShortened)
  queried : env.queries .boundary = true ∧ env.queries .journal = true

theorem readJournalWindow_parts
    (read : readJournalWindow settings env watermark stored = (some window, after)) :
    WindowParts settings env watermark window ∧ after = stored := by
  simp only [readJournalWindow] at read
  split at read
  · cases read
  · rename_i anchored
    split at read
    · cases read
    · rename_i since shortened found
      split at read
      · cases read
      · rename_i journal
        cases read
        have boundary : env.queries .boundary = true := by
          cases reply : env.queries .boundary with
          | true => rfl
          | false => simp [reply] at anchored
        exact ⟨⟨rfl, rfl, found, boundary, by simpa using journal⟩, rfl⟩

/-- Everything a window that was read says about its bounds. -/
structure ReadsWindow (settings : Settings) (env : RunEnv) (watermark : Watermark)
    (window : JournalWindow) : Prop where
  ops : window.ops = (readJournal env.journal settings.bucketName window.since window.upTo).1
  upTo : window.upTo = journalUntil settings env watermark
  start : windowStart settings watermark ≤ window.since
  since : window.since ≤ watermark
  queried : env.queries .boundary = true ∧ env.queries .journal = true

theorem readJournalWindow_some
    (read : readJournalWindow settings env watermark stored = (some window, after)) :
    ReadsWindow settings env watermark window ∧ after = stored := by
  obtain ⟨parts, same⟩ := readJournalWindow_parts read
  obtain ⟨start, below⟩ := sinceTimestamp_range parts.since
  exact ⟨⟨(congrArg Prod.fst parts.read).symm, parts.upTo, start, below, parts.queried⟩, same⟩

def IsJournalAlert : StateOp → Prop
  | .recordJournalUnavailableAlert .. => True
  | _ => False

theorem readJournalWindow_evolves (settings : Settings) (env : RunEnv) (watermark : Watermark)
    (stored : Option Payload) :
    Evolves settings.bucketName IsJournalAlert stored
      (readJournalWindow settings env watermark stored).2 := by
  simp only [readJournalWindow]
  split
  · exact .refl _
  split
  · exact .refl _
  split
  · split
    · rw [escalateJournalUnavailable]
      simp only
      split
      · exact write_evolves trivial
      · exact .refl _
    · exact .refl _
  · exact .refl _

end Window

section Selecting
variable {settings : Settings} {state : CheckpointState}
open JournalDedup CheckpointLogic

theorem selectEligible_candidate :
    (selectEligible settings ops state).candidateHwm =
      maxWatermark (selectEligibleOperations ops state settings.lookback).eligible := rfl

theorem mem_dedupedOps :
    op ∈ (selectEligible settings ops state).dedupedOps ↔
      op ∈ (selectEligibleOperations ops state settings.lookback).eligible ∧
        isArchivedOperation op = false := by
  simp [selectEligible, filterArchivedOperations, List.mem_filter]

theorem dedupedOps_le_candidate
    (found : (selectEligible settings ops state).candidateHwm = some value)
    (member : op ∈ (selectEligible settings ops state).dedupedOps) : op.watermark ≤ value :=
  le_maxWatermark (selectEligible_candidate ▸ found) (mem_dedupedOps.mp member).1

/-- Without a candidate nothing is eligible. -/
theorem dedupedOps_of_no_candidate
    (absent : (selectEligible settings ops state).candidateHwm = none) :
    (selectEligible settings ops state).dedupedOps = [] := by
  have none := (maxWatermark_eq_none_iff _).mp (selectEligible_candidate ▸ absent)
  simp [selectEligible, filterArchivedOperations, none]

end Selecting
end ReplicateOnTag.Orchestrator

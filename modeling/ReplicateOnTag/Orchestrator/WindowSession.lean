import ReplicateOnTag.Adapters.JournalSession
import ReplicateOnTag.Orchestrator.JournalWindow

/-! The journal read of one run as the service sees it: `_read_journal_window` on
watermark texts. Log lines are left out. -/
namespace ReplicateOnTag.WindowSession
open JournalSession Orchestrator

structure Window where
  ops : List ReadOperation
  journalErrors : List JournalReadError
  /-- Exclusive lower bound of the read. -/
  sinceTimestamp : String
  journalUntil : Option String
  tailShortened : Bool

/-- The bucket is skipped, perhaps because its journal is not there, or a window is read. -/
inductive Outcome where
  | skipped
  | unavailable (cause : String)
  | window (read : Window)

section Session
variable (wording : Wording) (athena : Athena) (settings : Settings)
  (workGroup outputLocation : String)

/-- `_count_lookback_tail`: the tail's rows, and whether the number is assumed. -/
def countLookbackTail (checkpointWatermark windowStart : String) : Int × Bool :=
  if checkpointWatermark = "" ∨ windowStart = checkpointWatermark then (0, false)
  else
    match findTailRowCount wording athena settings.bucketName workGroup outputLocation windowStart
      checkpointWatermark with
    | .ok tailRows => (tailRows, false)
    | .error _ => (RowBudget.tailShare settings.journalReadRowCap, true)

/-- `_raise_tail_floor`, with whether the bound was raised; nothing when none can be established. -/
def raiseTailFloor (checkpointWatermark windowStart : String)
    (tailAllowance : Nat) : Option (String × Bool) :=
  if tailAllowance = 0 then none
  else
    match findTailFloor wording athena settings.bucketName workGroup outputLocation
      windowStart checkpointWatermark
      tailAllowance with
    | .error _ => none
    | .ok none => some (windowStart, false)
    | .ok (some floorBound) => some (floorBound, true)

/-- The lower bound of the read, and whether the tail was shortened. -/
def sinceTimestamp (checkpointWatermark windowStart : String) (tail : Int × Bool)
    (tailAllowance : Nat) :
    Option (String × Bool) :=
  if tailAllowance < tail.1 ∨ tail.2 then
    raiseTailFloor wording athena settings workGroup outputLocation checkpointWatermark
      windowStart tailAllowance
  else some (windowStart, false)

/-- What is read between two bounds; a fatal error skips the bucket. -/
def readBetween (since : String × Bool) (journalUntil : Option String) : Except Raised Outcome :=
  (readJournal wording athena settings.bucketName workGroup outputLocation
    (JournalQueries.given (some since.1))
    journalUntil).map fun (ops, journalErrors) =>
      let fatalErrors := journalErrors.filter JournalReadError.isFatal
      if fatalErrors = [] then .window ⟨ops, journalErrors, since.1, journalUntil, since.2⟩
      else
        match fatalErrors.find? JournalReadError.isJournalUnavailable with
        | some unavailable => .unavailable unavailable.cause
        | none => .skipped

/-- The window above `windowStart`. The boundary is anchored at the watermark. -/
def readFrom (checkpointWatermark windowStart : String) : Except Raised Outcome :=
  let tail := countLookbackTail wording athena settings workGroup outputLocation
    checkpointWatermark windowStart
  let split := RowBudget.splitRowBudget settings.journalReadRowCap tail.1.toNat
  if tail.1 < 0 then .error
    (.valueError ("tail_rows must be non-negative, got " ++ toString tail.1))
  else
    match findRowCountBoundary wording athena settings.bucketName workGroup outputLocation
      (JournalQueries.given (some checkpointWatermark)) split.newRowBudget with
    | .error _ => .ok .skipped
    | .ok journalUntil =>
        if journalUntil.any fun bound => bound ≤ checkpointWatermark then .ok .skipped
        else
          match sinceTimestamp wording athena settings workGroup outputLocation
            checkpointWatermark windowStart tail
            split.tailAllowance with
          | none => .ok .skipped
          | some since => readBetween wording athena settings workGroup
              outputLocation since journalUntil

/-- `_read_journal_window`. A window start before the first year is an error of its own. -/
def readJournalWindow (checkpointWatermark : String) : Except Raised Outcome :=
  (WatermarkText.subtract checkpointWatermark settings.lookback).elim
    (.error (.overflowError "date value out of range"))
    (readFrom wording athena settings workGroup outputLocation checkpointWatermark)

end Session
end ReplicateOnTag.WindowSession

import ReplicateOnTag.Adapters.RecordLookup

/-! What one `record_submission` leaves of the submission records. A naive
`submitted_at` stands for its instant in UTC, which is how eviction reads it. -/
namespace ReplicateOnTag.StateStore

section Statement
variable (payload : Payload) (submission : SubmissionRecord)
  (terminalJobIds : List String) (tracking : Bool)

def readable? : StoredRecord → Option SubmissionRecord
  | .readable record => some record
  | .unreadable => none

/-- The record that stands for a job: of the readable entries with its id the last. -/
def lastReadable (jobId : String) : Option SubmissionRecord :=
  if jobId = "" then none
  else ((payload.submissionRecords.values.filterMap readable?).filter fun record =>
    record.jobId = jobId).getLast?

/-- The records before anything is evicted. -/
def unsettledRecords : Dict String SubmissionRecord :=
  pruneSettledRecords ((submissionRecordsByJobId payload).insert
    submission.jobId submission) payload
    submission.jobId terminalJobIds tracking

/-- Records taken one by one, and only while more than the ceiling remain. -/
structure EvictsFrom (records : Dict String SubmissionRecord) (keepJobId : String) (ceiling : Nat)
    (evicted : List (String × SubmissionRecord)) : Prop where
  stored : ∀ entry ∈ evicted, records.get? entry.1 = some entry.2
  spares : ∀ entry ∈ evicted, entry.1 ≠ keepJobId
  once : (evicted.map Prod.fst).Nodup
  needed : ∀ n < evicted.length, ceiling < records.size - n
  fits : records.size - evicted.length ≤ ceiling
  ordered : evicted.Pairwise (evictsBefore terminalJobIds)
  first : ∀ entry ∈ evicted, ∀ jobId record, records.get? jobId = some record → jobId ≠ keepJobId →
    (jobId, record) ∉ evicted → evictsBefore terminalJobIds entry (jobId, record)

/-- `evicted` is what fell to the ceiling; without a limit nothing does. -/
structure RetainsExactly (limit : Option Nat)
    (evicted : List (String × SubmissionRecord)) (written : Payload) :
    Prop where
  keyed : ∀ key value, written.submissionRecords.get? key = some value →
    ∃ record, value = .readable record ∧ record.jobId = key
  new : written.submissionRecords.get? submission.jobId = some (.readable submission)
  others : ∀ jobId, jobId ≠ submission.jobId → written.submissionRecords.get? jobId =
    ((lastReadable payload jobId).filter fun record =>
      !isSettled payload submission.jobId terminalJobIds tracking jobId record &&
        decide ((jobId, record) ∉ evicted)).map .readable
  unlimited : limit = none → evicted = []
  ceiling : ∀ bound, limit = some bound → EvictsFrom terminalJobIds
    (unsettledRecords payload submission terminalJobIds tracking)
      submission.jobId (bound + 20) evicted
  alerted : written.completionReportAlertedConfigs =
      payload.completionReportAlertedConfigs.filter fun jobId =>
    !((lastReadable payload jobId).isSome && (written.submissionRecords.get? jobId).isNone)

end Statement

section Loading

theorem get?_loadRecord (records : Dict String SubmissionRecord)
    (value : StoredRecord) (jobId : String)
    (named : jobId ≠ "") : (loadRecord records value).get? jobId =
      ((readable? value).filter fun record => record.jobId = jobId).or (records.get? jobId) := by
  cases value with
  | unreadable => rfl
  | readable record =>
    simp only [loadRecord, readable?]
    by_cases own : record.jobId = jobId
    · subst own
      rw [if_neg named, Dict.get?_insert_self, Option.filter_some, if_pos (decide_eq_true rfl),
        Option.some_or]
    · rw [Option.filter_some, decide_eq_false own, if_neg Bool.false_ne_true, Option.none_or]
      split
      · rfl
      · exact Dict.get?_insert_of_ne (Ne.symm own)

/-- Re-keying keeps of each job the last readable entry. -/
theorem get?_byJobId (payload : Payload) (jobId : String) :
    (submissionRecordsByJobId payload).get? jobId = lastReadable payload jobId := by
  rw [lastReadable]
  by_cases named : jobId = ""
  · rw [if_pos named]
    cases found : (submissionRecordsByJobId payload).get? jobId with
    | none => rfl
    | some record => exact absurd named (ownKeyed_byJobId payload jobId record found).2
  · rw [if_neg named, submissionRecordsByJobId]
    induction payload.submissionRecords.values using List.reverseRecOn with
    | nil => rfl
    | append_singleton earlier last ih =>
      rw [List.foldl_append, List.foldl_cons, List.foldl_nil, get?_loadRecord _ _ _ named, ih,
        List.filterMap_append, List.filter_append, List.getLast?_append]
      cases last with
      | unreadable => rfl
      | readable record =>
        by_cases own : record.jobId = jobId
        · simp [readable?, own]
        · simp [readable?, own, Option.filter_some]

end Loading

section Evicting
variable {records : Dict String SubmissionRecord} {keepJobId : String}
  {terminalJobIds : List String} {ceiling : Nat}

/-- The entries behind `evictedJobIds`. -/
def evictedEntries (records : Dict String SubmissionRecord) (keepJobId : String)
    (terminalJobIds : List String)
    (ceiling : Nat) : List (String × SubmissionRecord) :=
  ((records.entries.filter fun entry => entry.1 ≠ keepJobId).insertionSort
    (evictsBefore terminalJobIds)).take
    (records.size - ceiling)

theorem evictsFrom_entries (records : Dict String SubmissionRecord) (keepJobId : String)
    (terminalJobIds : List String) (positive : 0 < ceiling) :
    EvictsFrom terminalJobIds records keepJobId ceiling
      (evictedEntries records keepJobId terminalJobIds ceiling) := by
  have others := size_le_others records keepJobId
  rw [evictedEntries]
  generalize listed : records.entries.filter (fun entry =>
    entry.1 ≠ keepJobId) = candidates at others
  have order := List.pairwise_insertionSort (evictsBefore terminalJobIds) candidates
  have member : ∀ entry, entry ∈ candidates.insertionSort (evictsBefore terminalJobIds) ↔
      records.get? entry.1 = some entry.2 ∧ entry.1 ≠ keepJobId := by
    intro entry
    rw [List.mem_insertionSort, ← listed, List.mem_filter, decide_eq_true_eq]
    exact and_congr_left' Dict.mem_entries_iff
  have distinct : ((candidates.insertionSort
      (evictsBefore terminalJobIds)).map Prod.fst).Nodup := by
    refine ((List.perm_insertionSort (evictsBefore terminalJobIds) candidates).map _).nodup_iff.mpr
      ?_
    rw [← listed]
    exact Dict.filter_distinct records.distinct _
  have length := List.length_insertionSort (evictsBefore terminalJobIds) candidates
  generalize candidates.insertionSort (evictsBefore terminalJobIds) =
    sorted at order member distinct length
  have taken : (sorted.take (records.size - ceiling)).length =
      min (records.size - ceiling) sorted.length :=
    List.length_take
  constructor
  · intro entry evicted
    exact ((member entry).mp (List.mem_of_mem_take evicted)).1
  · intro entry evicted
    exact ((member entry).mp (List.mem_of_mem_take evicted)).2
  · exact distinct.sublist ((List.take_sublist _ _).map _)
  · intro n evicted
    omega
  · omega
  · exact order.sublist (List.take_sublist _ _)
  · intro entry evicted jobId record stored other spared
    have all := (member (jobId, record)).mpr ⟨stored, other⟩
    rw [← List.take_append_drop (records.size - ceiling) sorted] at all order
    have left := (List.mem_append.mp all).resolve_left spared
    exact (List.pairwise_append.mp order).2.2 entry evicted (jobId, record) left

/-- A stored record falls to the ceiling exactly when its job id does. -/
theorem mem_evictedJobIds (positive : 0 < ceiling) (stored : records.get? jobId = some record) :
    jobId ∈ evictedJobIds records keepJobId terminalJobIds ceiling ↔
      (jobId, record) ∈ evictedEntries records keepJobId terminalJobIds ceiling := by
  have evicts := evictsFrom_entries records keepJobId terminalJobIds positive
  constructor
  · intro evicted
    obtain ⟨⟨own, other⟩, taken, rfl⟩ := List.mem_map.mp evicted
    have same := evicts.stored _ taken
    rw [stored, Option.some.injEq] at same
    subst same
    exact taken
  · exact fun taken => List.mem_map.mpr ⟨_, taken, rfl⟩

end Evicting

section Writing
variable {payload : Payload} {submission : SubmissionRecord}
  {terminalJobIds : List String} {tracking : Bool}

theorem get?_unsettled (other : jobId ≠ submission.jobId) :
    (unsettledRecords payload submission terminalJobIds tracking).get? jobId =
      (lastReadable payload jobId).filter fun record =>
        !isSettled payload submission.jobId terminalJobIds tracking jobId record := by
  rw [unsettledRecords, pruneSettledRecords, Dict.get?_filter, Dict.get?_insert_of_ne other,
    get?_byJobId]

theorem ceiling_pos (bound : Nat) : 0 < submissionRecordCeiling bound := by
  rw [submissionRecordCeiling, submissionRecordCeilingHeadroom]
  omega

theorem retainedRecords_none : retainedRecords payload submission terminalJobIds tracking none =
    unsettledRecords payload submission terminalJobIds tracking := rfl

theorem retainedRecords_some
    (bound : Nat) : retainedRecords payload submission terminalJobIds tracking (some bound) =
    evictAboveCeiling (unsettledRecords payload submission terminalJobIds tracking)
      submission.jobId terminalJobIds
      (submissionRecordCeiling bound) := rfl

/-- What a limit leaves: what is stored and not evicted. -/
theorem get?_evictAboveCeiling (records : Dict String SubmissionRecord) (keepJobId : String)
    (positive : 0 < ceiling)
    (jobId : String) : (evictAboveCeiling records keepJobId terminalJobIds ceiling).get? jobId =
      (records.get? jobId).filter fun record =>
        decide ((jobId, record) ∉ evictedEntries records keepJobId terminalJobIds ceiling) := by
  simp only [evictAboveCeiling]
  rw [Dict.get?_filter]
  cases stored : records.get? jobId with
  | none => rfl
  | some record =>
    rw [Option.filter_some, Option.filter_some]
    simp only [mem_evictedJobIds positive stored]

def evictedUnder (payload : Payload) (submission : SubmissionRecord) (terminalJobIds : List String)
    (tracking : Bool) : Option Nat → List (String × SubmissionRecord)
  | none => []
  | some bound => evictedEntries
      (unsettledRecords payload submission terminalJobIds tracking) submission.jobId
      terminalJobIds (submissionRecordCeiling bound)

/-- Under any other key stands the job's record, if it neither settled nor was evicted. -/
theorem get?_retained (other : jobId ≠ submission.jobId) (limit : Option Nat) :
    (retainedRecords payload submission terminalJobIds tracking limit).get? jobId =
      (lastReadable payload jobId).filter fun record =>
        !isSettled payload submission.jobId terminalJobIds tracking jobId record &&
          decide ((jobId, record) ∉
            evictedUnder payload submission terminalJobIds tracking limit) := by
  cases limit with
  | none =>
    rw [retainedRecords_none, get?_unsettled other]
    simp only [evictedUnder, List.not_mem_nil, not_false_eq_true, decide_true, Bool.and_true]
  | some bound =>
    rw [retainedRecords_some, get?_evictAboveCeiling _ _ (ceiling_pos bound), get?_unsettled other,
      Option.filter_filter]
    rfl

end Writing

section Sample

def jobRecord (jobId : String) (low : Instant) : SubmissionRecord :=
  ⟨"photos", "photos", jobId, "manifests/run.csv", low, .submitted, Watermark.toWatermark low,
    Watermark.toWatermark (low + 5), 0, false, false⟩

/-- A bucket-keyed entry and a later one of the same job. -/
def twiceRecorded : Payload :=
  { Payload.ofCheckpoint (defaultState "photos") with
    submissionRecords := Dict.ofList [("photos", .readable (jobRecord "job-1" 10)),
      ("job-1", .readable (jobRecord "job-1" 20))] }

end Sample
end ReplicateOnTag.StateStore

import ReplicateOnTag.Adapters.StateOp

/-! What each state operation does to the submission record of one job. -/
namespace ReplicateOnTag.StateStore

def recordFor (bucket : String) (stored : Option Payload)
    (jobId : String) : Option SubmissionRecord :=
  (submissionRecordsByJobId (payloadOrDefault bucket stored)).get? jobId

/-- Records filed under their own non-empty job ids. -/
def OwnKeyed (records : Dict String SubmissionRecord) : Prop :=
  ∀ jobId record, records.get? jobId = some record → record.jobId = jobId ∧ jobId ≠ ""

theorem getSubmissionRecords_eq (bucket : String) (stored : Option Payload) :
    getSubmissionRecords stored = submissionRecordsByJobId (payloadOrDefault bucket stored) := by
  cases stored <;> rfl

theorem mem_getSubmissionRecords {bucket : String} {stored : Option Payload} :
    record ∈ (getSubmissionRecords stored).values ↔
      ∃ jobId, recordFor bucket stored jobId = some record := by
  rw [getSubmissionRecords_eq bucket, Dict.mem_values_iff]
  rfl

section Loading

theorem ownKeyed_load (owned : OwnKeyed records) (value : StoredRecord) :
    OwnKeyed (loadRecord records value) := by
  cases value with
  | unreadable => exact owned
  | readable record =>
    unfold loadRecord
    simp only
    split
    · exact owned
    · rename_i named
      intro jobId found stored
      rw [Dict.get?_insert] at stored
      split at stored
      · rename_i same
        cases stored
        exact ⟨same.symm, same ▸ named⟩
      · exact owned jobId found stored

theorem ownKeyed_byJobId (payload : Payload) : OwnKeyed (submissionRecordsByJobId payload) := by
  have fold : ∀ (values : List StoredRecord) (records : Dict String SubmissionRecord),
      OwnKeyed records → OwnKeyed (values.foldl loadRecord records) := by
    intro values
    induction values with
    | nil => exact fun _ owned => owned
    | cons value rest ih => exact fun records owned => ih _ (ownKeyed_load owned value)
  exact fold _ _ (fun _ _ stored => by simp at stored)

theorem recordFor_jobId (found : recordFor bucket stored jobId = some record) :
    record.jobId = jobId ∧ jobId ≠ "" :=
  ownKeyed_byJobId _ jobId record found

theorem get?_loadRecords (entries : List (String × StoredRecord)) (jobId : String)
    (records : Dict String SubmissionRecord) (distinct : (entries.map Prod.fst).Nodup)
    (keyed : ∀ entry ∈ entries, ∃ record, entry.2 = .readable record ∧ record.jobId = entry.1 ∧
      entry.1 ≠ "") :
    ((entries.map Prod.snd).foldl loadRecord records).get? jobId =
      match entries.lookup jobId with
      | some (.readable record) => some record
      | _ => records.get? jobId := by
  induction entries generalizing records with
  | nil => rfl
  | cons head rest ih =>
    obtain ⟨key, value⟩ := head
    obtain ⟨record, rfl, own, named⟩ := keyed (key, value) List.mem_cons_self
    simp only [List.map_cons, List.nodup_cons] at distinct
    have loaded : loadRecord records (.readable record) = records.insert key record := by
      simp only [loadRecord, own]
      exact if_neg named
    rw [List.map_cons, List.foldl_cons, loaded,
      ih _ distinct.2 fun entry member => keyed entry (List.mem_cons_of_mem _ member)]
    by_cases here : jobId = key
    · subst here
      have absent : rest.lookup jobId = none := by
        apply List.lookup_eq_none_iff.mpr
        intro entry member
        apply bne_iff_ne.mpr
        rintro rfl
        exact distinct.1 (List.mem_map_of_mem member)
      simp [absent]
    · have other : (jobId == key) = false := beq_eq_false_iff_ne.mpr here
      rw [List.lookup_cons, other, Dict.get?_insert_of_ne here]

/-- Flag writes commute with loading, under whatever keys the records are stored. -/
theorem get?_loadMarked {records marked : Dict String SubmissionRecord}
    (marks : ∀ jobId, marked.get? jobId = (records.get? jobId).map fun record =>
      if jobId = own then setFlags diagnosed scored record else record)
    (value : StoredRecord) (jobId : String) :
    (loadRecord marked (markStored own diagnosed scored value)).get? jobId =
      ((loadRecord records value).get? jobId).map fun record =>
        if jobId = own then setFlags diagnosed scored record else record := by
  cases value with
  | unreadable => exact marks jobId
  | readable record =>
    have kept : ∀ flagged : SubmissionRecord, flagged.jobId = record.jobId →
        (jobId = record.jobId → flagged =
          if jobId = own then setFlags diagnosed scored record else record) →
        (loadRecord marked (.readable flagged)).get? jobId =
          ((loadRecord records (.readable record)).get? jobId).map fun record =>
            if jobId = own then setFlags diagnosed scored record else record := by
      intro flagged same flags
      simp only [loadRecord, same]
      split
      · exact marks jobId
      · rw [Dict.get?_insert, Dict.get?_insert]
        split
        · rename_i here
          rw [Option.map_some, flags here]
        · exact marks jobId
    simp only [markStored]
    split
    · rename_i same
      exact kept _ rfl fun here => by rw [if_pos (here.trans same)]
    · rename_i other
      exact kept _ rfl fun here => by rw [if_neg fun own => other (here.symm.trans own)]

end Loading

section Retention
variable {payload : Payload} {submission : SubmissionRecord}

theorem keep_not_evicted (records : Dict String SubmissionRecord) (keepJobId : String)
    (terminalJobIds : List String) (ceiling : Nat) :
    keepJobId ∉ evictedJobIds records keepJobId terminalJobIds ceiling := by
  intro evicted
  obtain ⟨entry, taken, same⟩ := List.mem_map.mp evicted
  have member := (List.mem_insertionSort _).mp (List.mem_of_mem_take taken)
  exact of_decide_eq_true (List.mem_filter.mp member).2 same

/-- The new job's record is always kept. -/
theorem retainedRecords_own (payload : Payload) (submission : SubmissionRecord)
    (terminalJobIds : List String) (tracking : Bool) (limit : Option Nat) :
    (retainedRecords payload submission terminalJobIds tracking limit).get? submission.jobId =
      some submission := by
  have pruned : (pruneSettledRecords ((submissionRecordsByJobId payload).insert submission.jobId
      submission) payload submission.jobId terminalJobIds tracking).get? submission.jobId =
        some submission := by
    rw [pruneSettledRecords, Dict.get?_filter, Dict.get?_insert_self]
    simp [isSettled]
  simp only [retainedRecords]
  cases limit with
  | none => exact pruned
  | some limit =>
    simp only [evictAboveCeiling, Dict.get?_filter]
    rw [pruned]
    simp [Option.filter, keep_not_evicted]

/-- A record that is kept is the new one or was there before. -/
theorem retainedRecords_sound
    (kept : (retainedRecords payload submission terminalJobIds tracking limit).get?
      jobId = some record) :
    (jobId = submission.jobId ∧ record = submission) ∨
      (jobId ≠ submission.jobId ∧ (submissionRecordsByJobId payload).get? jobId = some record) := by
  have inserted : ((submissionRecordsByJobId payload).insert submission.jobId
      submission).get? jobId =
      some record := by
    simp only [retainedRecords] at kept
    cases limit with
    | none =>
      simp only [pruneSettledRecords, Dict.get?_filter, Option.filter_eq_some_iff] at kept
      exact kept.1
    | some limit =>
      simp only [evictAboveCeiling, pruneSettledRecords, Dict.get?_filter,
        Option.filter_eq_some_iff] at kept
      exact kept.1.1
  rw [Dict.get?_insert] at inserted
  split at inserted
  · rename_i same
    exact .inl ⟨same, (Option.some.inj inserted).symm⟩
  · rename_i other
    exact .inr ⟨other, inserted⟩

theorem retainedRecords_ownKeyed (named : submission.jobId ≠ "") :
    OwnKeyed (retainedRecords payload submission terminalJobIds tracking limit) := by
  intro jobId record kept
  rcases retainedRecords_sound kept with ⟨rfl, rfl⟩ | ⟨_, old⟩
  · exact ⟨rfl, named⟩
  · exact ownKeyed_byJobId _ jobId record old

end Retention

section Ceiling

/-- Entries that come last in the order are taken only when they are more than
what is left. -/
theorem not_taken_of_last {spared : α → Prop} [DecidablePred spared] {entries : List α}
    (ordered : entries.Pairwise fun first second => spared first → spared second)
    (room : n + (entries.filter spared).length ≤ entries.length) :
    ∀ entry ∈ entries.take n, ¬ spared entry := by
  induction entries generalizing n with
  | nil => simp
  | cons head rest ih =>
    obtain ⟨later, ordered⟩ := List.pairwise_cons.mp ordered
    cases n with
    | zero => simp
    | succ n =>
      by_cases last : spared head
      · have all : rest.filter spared = rest :=
          List.filter_eq_self.mpr fun entry member => decide_eq_true (later entry member last)
        rw [List.filter_cons, if_pos (decide_eq_true last), all] at room
        simp only [List.length_cons] at room
        omega
      · rw [List.filter_cons, if_neg (by simpa using last), List.length_cons] at room
        intro entry taken
        rcases List.mem_cons.mp (List.take_succ_cons ▸ taken) with rfl | rest
        · exact last
        · exact ih ordered (by omega) entry rest

theorem evictsBefore_spares {terminalJobIds : List String}
    {first second : String × SubmissionRecord}
    (before : evictsBefore terminalJobIds first second) (spared : first.1 ∉ terminalJobIds) :
    second.1 ∉ terminalJobIds := by
  rcases before with ⟨_, last⟩ | ⟨same, _⟩
  · exact last
  · exact fun terminal => spared (same.mpr terminal)

instance (terminalJobIds : List String) : Std.Total (evictsBefore terminalJobIds) where
  total first second := by
    simp only [evictsBefore]
    rcases le_total first.2.submittedAt second.2.submittedAt with older | newer <;> tauto

instance (terminalJobIds : List String) : IsTrans _ (evictsBefore terminalJobIds) where
  trans first second third := by
    simp only [evictsBefore]
    rintro (⟨terminal, spared⟩ | ⟨same, older⟩) (⟨next, last⟩ | ⟨other, later⟩)
    · exact absurd next spared
    · exact .inl ⟨terminal, fun third => spared (other.mpr third)⟩
    · exact .inl ⟨same.mpr next, last⟩
    · exact .inr ⟨same.trans other, older.trans later⟩

/-- A table has one entry at most under the kept id. -/
theorem size_le_others (records : Dict String SubmissionRecord) (keepJobId : String) :
    records.size ≤ (records.entries.filter fun entry => entry.1 ≠ keepJobId).length + 1 := by
  have once : (records.entries.filter fun entry => entry.1 = keepJobId).length ≤ 1 := by
    rw [← List.countP_eq_length_filter]
    have count := List.nodup_iff_count_le_one.mp records.distinct keepJobId
    rw [List.count, List.countP_map] at count
    simpa [Function.comp_def, beq_eq_decide] using count
  have split := @List.length_eq_length_filter_add _ records.entries fun entry => entry.1 ≠ keepJobId
  simp only [decide_not, Bool.not_not] at split ⊢
  rw [Dict.size]
  omega

/-- While fewer than the ceiling are running, only terminal jobs are evicted. -/
theorem terminal_of_evicted {records : Dict String SubmissionRecord}
    (few : (records.entries.filter fun entry =>
      entry.1 ≠ keepJobId ∧ entry.1 ∉ terminalJobIds).length < ceiling)
    (evicted : jobId ∈ evictedJobIds records keepJobId terminalJobIds ceiling) :
    jobId ∈ terminalJobIds := by
  by_contra spared
  obtain ⟨entry, taken, rfl⟩ := List.mem_map.mp evicted
  generalize others : records.entries.filter (fun entry =>
    entry.1 ≠ keepJobId) = candidates at taken
  have size := size_le_others records keepJobId
  have order := (List.pairwise_insertionSort (evictsBefore terminalJobIds) candidates).imp
    fun before => evictsBefore_spares before
  have same : ((candidates.insertionSort (evictsBefore terminalJobIds)).filter fun entry =>
      entry.1 ∉ terminalJobIds).length < ceiling := by
    rw [((List.perm_insertionSort _ candidates).filter _).length_eq, ← others, List.filter_filter]
    simpa [Bool.and_comm] using few
  refine not_taken_of_last order ?_ entry taken spared
  rw [List.length_insertionSort]
  rw [others] at size
  have evicts : 0 < records.size - ceiling := by
    by_contra none
    rw [Nat.eq_zero_of_not_pos none] at taken
    simp at taken
  omega

/-- A job that is not known to be terminal keeps its record. -/
theorem retainedRecords_running {payload : Payload} {submission : SubmissionRecord}
    (old : (submissionRecordsByJobId payload).get? jobId = some record)
    (other : jobId ≠ submission.jobId)
    (running : jobId ∉ terminalJobIds)
    (few : ((submissionRecordsByJobId payload).keys.filter fun other =>
      other ∉ terminalJobIds).length <
      submissionRecordCeiling bound) :
    (retainedRecords payload submission terminalJobIds tracking (some bound)).get?
      jobId = some record := by
  simp only [retainedRecords, evictAboveCeiling]
  generalize pruning : pruneSettledRecords
    ((submissionRecordsByJobId payload).insert submission.jobId
    submission) payload submission.jobId terminalJobIds tracking = pruned
  have kept : pruned.get? jobId = some record := by
    rw [← pruning, pruneSettledRecords, Dict.get?_filter, Dict.get?_insert_of_ne other, old]
    simp [isSettled, running]
  have fewer : (pruned.entries.filter fun entry =>
      entry.1 ≠ submission.jobId ∧ entry.1 ∉ terminalJobIds).length <
        submissionRecordCeiling bound := by
    refine lt_of_le_of_lt ?_ few
    rw [← List.length_map Prod.fst]
    refine (List.subperm_of_subset (Dict.filter_distinct pruned.distinct _) ?_).length_le
    intro key member
    obtain ⟨⟨key, value⟩, listed, rfl⟩ := List.mem_map.mp member
    obtain ⟨stored, spared⟩ := List.mem_filter.mp listed
    obtain ⟨own, spared⟩ := of_decide_eq_true spared
    have present := Dict.mem_entries_iff.mp stored
    rw [← pruning, pruneSettledRecords, Dict.get?_filter, Dict.get?_insert_of_ne own,
      Option.filter_eq_some_iff] at present
    exact List.mem_filter.mpr ⟨Dict.mem_keys_iff.mpr ⟨value, present.1⟩, decide_eq_true spared⟩
  rw [Dict.get?_filter, kept, Option.filter_some, if_pos]
  exact decide_eq_true fun evicted => running (terminal_of_evicted fewer evicted)

end Ceiling

section Operations
variable {bucket jobId : String} {stored : Option Payload}

theorem recordFor_of_records {payload : Payload} (records : Dict String SubmissionRecord)
    (owned : OwnKeyed records)
    (same : payload.submissionRecords = records.mapValues fun _ record => .readable record) :
    recordFor bucket (some payload) jobId = records.get? jobId := by
  have loaded := get?_loadRecords payload.submissionRecords.entries jobId .empty
    payload.submissionRecords.distinct fun entry member => by
      have stored : payload.submissionRecords.get? entry.1 = some entry.2 :=
        Dict.mem_entries_iff.mp member
      rw [same, Dict.get?_mapValues] at stored
      obtain ⟨record, kept, value⟩ := Option.map_eq_some_iff.mp stored
      exact ⟨record, value.symm, owned entry.1 record kept⟩
  have found : recordFor bucket (some payload) jobId =
      match payload.submissionRecords.get? jobId with
      | some (.readable record) => some record
      | _ => none := loaded
  rw [found, same, Dict.get?_mapValues]
  cases records.get? jobId <;> rfl

theorem recordFor_of_agrees {first second : Option Payload}
    (same : (payloadOrDefault bucket first).Agrees
      (payloadOrDefault bucket second) .submissionRecords) :
    recordFor bucket second jobId = recordFor bucket first jobId := by
  have records : (payloadOrDefault bucket first).submissionRecords =
      (payloadOrDefault bucket second).submissionRecords := same
  simp only [recordFor, submissionRecordsByJobId, records]

theorem recordFor_recordSubmission (named : submission.jobId ≠ "") :
    recordFor bucket (some (recordSubmission submission terminal tracking limit stored)) jobId =
      (retainedRecords (payloadOrDefault submission.sourceBucket stored)
        submission terminal tracking
        limit).get? jobId :=
  recordFor_of_records _ (retainedRecords_ownKeyed named) rfl

theorem recordFor_markReportDiagnosed :
    recordFor bucket (some (markReportDiagnosed bucket marked diagnosed scored stored)) jobId =
      (recordFor bucket stored jobId).map fun record =>
        if jobId = marked then setFlags diagnosed scored record else record := by
  have fold : ∀ (values : List StoredRecord) (records flagged : Dict String SubmissionRecord),
      (∀ jobId, flagged.get? jobId = (records.get? jobId).map fun record =>
        if jobId = marked then setFlags diagnosed scored record else record) →
      ((values.map (markStored marked diagnosed scored)).foldl loadRecord flagged).get? jobId =
        ((values.foldl loadRecord records).get? jobId).map fun record =>
          if jobId = marked then setFlags diagnosed scored record else record := by
    intro values
    induction values with
    | nil => exact fun _ _ marks => marks jobId
    | cons value rest ih => exact fun _ _ marks => ih _ _ (get?_loadMarked marks value)
  have values : (markReportDiagnosed bucket marked diagnosed scored
      stored).submissionRecords.values =
      (payloadOrDefault bucket stored).submissionRecords.values.map
        (markStored marked diagnosed scored) := by
    simp [markReportDiagnosed, Dict.values, Dict.mapValues]
  have start := fold (payloadOrDefault bucket stored).submissionRecords.values
    .empty .empty (by simp)
  rw [← values] at start
  exact start

theorem recordFor_disableBucket :
    recordFor bucket (some (disableBucket bucket reason now stored)) jobId = none := rfl

end Operations
end ReplicateOnTag.StateStore

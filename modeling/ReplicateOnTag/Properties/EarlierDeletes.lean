import ReplicateOnTag.Orchestrator.Submission
import ReplicateOnTag.Properties.ReportedRouting

/-! Which manifest entries the deleted-version filter may drop: the deletes are
read without regard to when the version was tagged. -/
namespace ReplicateOnTag.Orchestrator
open ManifestGenerator RuleMatcher AthenaJournal

section Removal

/-- A new null version is written, by a create or by a put of any kind. -/
def isNullVersionWrite (row : JournalRow) : Bool :=
  supersedesNullVersion row || row.recordType = .other "CREATE" && row.versionId.isNone

/-- The row ends the version: its permanent delete, or a new null version in its place. -/
def EndsVersion (row : JournalRow) (versionId : Option String) : Prop :=
  isPermanentDelete row ∧ orNone row.versionId = versionId ∨ versionId = none ∧
    isNullVersionWrite row

/-- The journal row is about the key of the entry. -/
def Concerns (bucket : String) (entry : ManifestEntry) (row : JournalRow) : Prop :=
  row.bucket = bucket ∧ row.key = entry.objectKey

/-- The version was ended after it was tagged. -/
def RemovedLater (journal : Journal) (bucket : String) (entry : ManifestEntry)
    (tagged : Instant) : Prop :=
  ∃ row ∈ journal, Concerns bucket entry row ∧ EndsVersion row entry.versionId ∧
    tagged < row.recordTimestamp

/-- The window holds a row that the query takes for the end of the version. -/
def ReadAsRemoved (journal : Journal) (bucket : String) (since : Watermark)
    (entry : ManifestEntry) : Prop :=
  ∃ row ∈ journal, Concerns bucket entry row ∧ since < row.watermark ∧ row.key ≠ "" ∧
    (isPermanentDelete row ∧ orNone row.versionId = entry.versionId ∨
      entry.versionId = none ∧ supersedesNullVersion row)

/-- The query answers, and everything that ended the version came before its tagging. -/
structure OnlyRemovedEarlier (settings : Settings) (env : RunEnv) (since : Watermark)
    (entry : ManifestEntry)
    (tagged : Instant) : Prop where
  answered : env.queries .permanentDeletes
  detected : ReadAsRemoved env.journal settings.bucketName since entry
  earlier : ∀ row ∈ env.journal, Concerns settings.bucketName entry row →
    EndsVersion row entry.versionId →
    row.recordTimestamp ≤ tagged

def Dropped (settings : Settings) (env : RunEnv) (entries : Entries) (since : Watermark)
    (entry : ManifestEntry) :
    Prop :=
  entry ∉ (keptEntries settings env entries since).getD []

def DroppedOnlyLater (settings : Settings) (env : RunEnv) (entries : Entries) (since : Watermark)
    (entry : ManifestEntry) (tagged : Instant) : Prop :=
  Dropped settings env entries since entry →
    RemovedLater env.journal settings.bucketName entry tagged

/-- The tagging operation that put the entry in the manifest. -/
def TaggedBy (rules : List DerivedReplicationRule) (ops : List TaggingOperation)
    (entry : ManifestEntry)
    (op : TaggingOperation) : Prop :=
  ops.find? (fun op => place op = (entry.sourceBucket, entry.objectKey) ∧
    Matches rules op) = some op

end Removal

section Filtering
variable {settings : Settings} {env : RunEnv} {since : Watermark} {entries : Entries}
  {entry : ManifestEntry}

theorem mem_readPermanentDeletes {journal : Journal} {bucket : String} :
    (entry.objectKey, entry.versionId) ∈ readPermanentDeletes journal bucket since ↔
      ReadAsRemoved journal bucket since entry := by
  simp only [readPermanentDeletes, List.mem_append, List.mem_map, List.mem_filter, Prod.mk.injEq,
    decide_eq_true_eq, Bool.and_eq_true, ReadAsRemoved, Concerns]
  constructor
  · rintro (⟨row, ⟨⟨listed, ⟨own, above⟩, named⟩, gone⟩, key, version⟩ |
      ⟨row, ⟨⟨listed, ⟨own, above⟩, named⟩, written⟩, key, null⟩)
    · exact ⟨row, listed, ⟨own, key⟩, above, named, .inl ⟨gone, version⟩⟩
    · exact ⟨row, listed, ⟨own, key⟩, above, named, .inr ⟨null.symm, written⟩⟩
  · rintro ⟨row, listed, ⟨own, key⟩, above, named, ⟨gone, version⟩ | ⟨null, written⟩⟩
    · exact .inl ⟨row, ⟨⟨listed, ⟨own, above⟩, named⟩, gone⟩, key, version⟩
    · exact .inr ⟨row, ⟨⟨listed, ⟨own, above⟩, named⟩, written⟩, key, null.symm⟩

theorem mem_permanentDeletes : (entry.objectKey, entry.versionId) ∈
    permanentDeletes settings env since ↔
    env.queries .permanentDeletes ∧ ReadAsRemoved env.journal settings.bucketName since entry := by
  rw [permanentDeletes]
  split
  · rename_i answered
    rw [mem_readPermanentDeletes]
    exact (and_iff_right answered).symm
  · rename_i failed
    exact iff_of_false List.not_mem_nil fun both => failed both.1

/-- An entry is dropped exactly when the window holds a row that is read as the
end of its version. -/
theorem dropped_iff (member : entry ∈ (finalize entries settings.bucketName).entries) :
    Dropped settings env entries since entry ↔
      env.queries .permanentDeletes ∧
        ReadAsRemoved env.journal settings.bucketName since entry := by
  have matched : (finalize entries settings.bucketName).hasMatches :=
    (finalize_hasMatches_iff _ _).mpr (List.ne_nil_of_mem member)
  simp only [Dropped, keptEntries, if_pos matched,
    mem_filterDeletedEntries_iff (finalize_nodup _ _), member, true_and, not_not,
    mem_permanentDeletes]

/-- A drop has a later cause, unless all that ended the version came before its tagging. -/
theorem droppedOnlyLater_iff
    (member : entry ∈ (finalize entries settings.bucketName).entries) (tagged : Instant) :
    DroppedOnlyLater settings env entries since entry tagged ↔
      ¬ OnlyRemovedEarlier settings env since entry tagged := by
  have later : RemovedLater env.journal settings.bucketName entry tagged ↔
      ¬ ∀ row ∈ env.journal, Concerns settings.bucketName entry row →
        EndsVersion row entry.versionId →
        row.recordTimestamp ≤ tagged := by
    simp only [RemovedLater, not_forall, not_le, exists_prop]
  rw [DroppedOnlyLater, dropped_iff member, later]
  constructor
  · intro caused only
    exact caused ⟨only.answered, only.detected⟩ only.earlier
  · intro other dropped earlier
    exact other ⟨dropped.1, dropped.2, earlier⟩

/-- For every journal and window start, an entry is dropped for a later event
only, exactly when its version was not merely removed before it was tagged. -/
theorem deleted_versions_later_iff {settings : Settings} {env : RunEnv}
    {since : Watermark} {entries : Entries}
    {ops : List TaggingOperation} (gathers : Gathers settings.rules ops entries)
    {entry : ManifestEntry}
    (member : entry ∈ (finalize entries settings.bucketName).entries) :
    ∃ op, TaggedBy settings.rules ops entry op ∧ op.operationVersion = entry.versionId ∧
      (DroppedOnlyLater settings env entries since entry op.eventTime ↔
        ¬ OnlyRemovedEarlier settings env since entry op.eventTime) := by
  obtain ⟨own, acc, stored, version⟩ := mem_finalize_entries.mp member
  have origin := (gathers.gathered (entry.sourceBucket, entry.objectKey)).origin
  rw [own, stored, Option.map_some] at origin
  obtain ⟨op, found, same⟩ := Option.map_eq_some_iff.mp origin
  refine ⟨op, ?_, (Origin.mk.inj same).1.trans version, droppedOnlyLater_iff member _⟩
  rw [TaggedBy, own]
  exact found

end Filtering

section Sample
open Settings

/-- An object without versions is deleted, written again and then tagged. -/
def recreated : Journal :=
  [{ photosRow "ant" "yes" 20 with
      recordType := .delete, objectTags := none, isDeleteMarker := some false },
    { photosRow "ant" "yes" 21 with recordType := .other "CREATE", objectTags := none },
    photosRow "ant" "yes" 22]

def recreatedRun : RunEnv := .smooth 30 recreated (fun _ => none) (.created "job")

def recreatedOps : List TaggingOperation := (readJournal recreated "photos" .epoch none).1

def recreatedEntry : ManifestEntry := ⟨"photos", "ant", none⟩

theorem mem_recreated :
    recreatedEntry ∈ (finalize (matchAndAccumulate recreatedOps photos.rules)
      photos.bucketName).entries := by
  decide +kernel

theorem deleted_versions_later_recreated :
    recreatedEntry ∈ (finalize (matchAndAccumulate recreatedOps photos.rules)
      photos.bucketName).entries ∧
      ∃ op, TaggedBy photos.rules recreatedOps recreatedEntry op ∧
        op.operationVersion = recreatedEntry.versionId ∧
        (DroppedOnlyLater photos recreatedRun
            (matchAndAccumulate recreatedOps photos.rules) .epoch recreatedEntry
            op.eventTime ↔
          ¬ OnlyRemovedEarlier photos recreatedRun .epoch recreatedEntry op.eventTime) :=
  ⟨mem_recreated, deleted_versions_later_iff
    (gathers_matchAndAccumulate recreatedOps photos.rules) mem_recreated⟩

/-- The object that was written again before it was tagged is dropped all the same. -/
theorem recreated_object_dropped :
    ¬ ∀ (settings : Settings) (env : RunEnv) (since : Watermark) (entries : Entries)
    (ops : List TaggingOperation), Gathers settings.rules ops entries →
      ∀ entry ∈ (finalize entries settings.bucketName).entries, ∀ op,
        TaggedBy settings.rules ops entry op →
        DroppedOnlyLater settings env entries since entry op.eventTime := by
  intro later
  have tagged : TaggedBy photos.rules recreatedOps recreatedEntry (photosOp "ant" "yes" 22) := by
    unfold TaggedBy
    decide +kernel
  have gone : Dropped photos recreatedRun (matchAndAccumulate recreatedOps photos.rules)
      .epoch recreatedEntry := by
    unfold Dropped
    decide +kernel
  obtain ⟨row, listed, _, _, after⟩ := later photos recreatedRun .epoch _ recreatedOps
    (gathers_matchAndAccumulate recreatedOps photos.rules) recreatedEntry
      mem_recreated _ tagged gone
  have before : ∀ row ∈ recreated, row.recordTimestamp ≤ 22 := by decide
  exact absurd after (not_lt.mpr (before row listed))

end Sample
end ReplicateOnTag.Orchestrator

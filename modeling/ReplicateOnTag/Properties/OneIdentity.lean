import ReplicateOnTag.Adapters.ReportEcho
import ReplicateOnTag.Adapters.SideMaps
import ReplicateOnTag.Core.ManifestGenerator

/-! One identity of an object version in the manifest, in the report, and in the
maps of the state object. -/
namespace ReplicateOnTag.BopsReport
open ManifestCsv ManifestGenerator StateStore PercentEncoding ReportReader

section Identity

/-- Enrichment of entries under their transport keys, as the generator hands it over. -/
def GivenFor (entries : List ManifestEntry) (given : Dict (String × String) ν) : Prop :=
  ∀ key ∈ given.keys, ∃ entry ∈ entries, key = transportKey entry.objectKey entry.versionId

/-- An item with the enrichment filed for its version. -/
structure Enriched (payload : Payload) (timestamps : Timestamps) (routing : Routing)
    (entry : ManifestEntry)
    (item : TrackedObject) : Prop where
  instants : (item.taggedAt, item.lastModified) =
    (filedEntry hasInstant payload.completionTimestamps timestamps
      entry.objectKey entry.versionId).getD
      (none, none)
  route : (item.matchedRules, item.destinations) =
    (filedEntry hasRoute payload.completionRouting (sortedRouting routing) entry.objectKey
      entry.versionId).getD ([], [])

/-- After the enrichment of the entries was stored, merging the report creates
every item that is new with the enrichment of its version. -/
def FindsEnrichment (entries : List ManifestEntry) (parsed : List ReportEntry) : Prop :=
  ∀ (bucket configId jobId : String) (createdAt jobCreatedAt : Instant) (stored : Option Payload)
    (timestamps : Timestamps) (routing : Routing),
    GivenFor entries timestamps → GivenFor entries routing →
    StaysBelow (payloadOrDefault bucket stored) timestamps routing →
    ∃ request, mergeCompletionReport bucket ⟨createdAt, parsed.map ReportEntry.row⟩
        configId jobId jobCreatedAt
        none (some (storeCompletionTimestamps bucket timestamps (some routing) stored)) =
          some request ∧
      ∀ entry ∈ entries,
        (payloadOrDefault bucket stored).completionItems.get?
          (itemKey entry.objectKey entry.versionId) = none →
        ∃ item, request.body.completionItems.get?
          (itemKey entry.objectKey entry.versionId) = some item ∧
          Enriched (payloadOrDefault bucket stored) timestamps routing entry item

def identity (entry : ManifestEntry) : String × Option String := (entry.objectKey, entry.versionId)

variable {entries : List ManifestEntry}

theorem plainTransport_of_given {given : Dict (String × String) ν}
    (plain : ∀ entry ∈ entries, PlainVersion entry.versionId)
    (own : GivenFor entries given) : PlainTransport given := by
  intro key listed
  obtain ⟨entry, member, rfl⟩ := own key listed
  cases version : entry.versionId with
  | none =>
    have null : PlainVersion (some "") := by decide
    exact null
  | some text =>
    rw [transportKey, Option.getD_some, ← version]
    exact plain entry member

/-- The generator hands over the enrichment of its own manifest. -/
theorem givenFor_bucketEntries (entries : Entries) (bucket : String)
    (value : (String × String) × Accumulated → ν) :
    GivenFor (finalize entries bucket).entries
      (Dict.ofList ((bucketEntries entries bucket).map fun entry =>
      ((entry.1.2, entry.2.versionId.getD ""), value entry))) := by
  intro key listed
  obtain ⟨row, member, rfl⟩ := List.mem_map.mp (Dict.mem_keys_ofList.mp listed)
  obtain ⟨entry, own, rfl⟩ := List.mem_map.mp member
  refine ⟨toManifestEntry entry, ?_, rfl⟩
  rw [finalize]
  cases rows : bucketEntries entries bucket with
  | nil => simp [rows] at own
  | cons first rest =>
    refine List.mem_map_of_mem ((List.mem_insertionSort keyLE).mpr ?_)
    exact rows ▸ own

theorem givenFor_getTimestamps (entries : Entries) (bucket : String) :
    GivenFor (finalize entries bucket).entries (getTimestamps entries bucket) :=
  givenFor_bucketEntries entries bucket _

theorem givenFor_getRouting (entries : Entries) (bucket : String) :
    GivenFor (finalize entries bucket).entries (getRouting entries bucket) :=
  givenFor_bucketEntries entries bucket _

theorem realVersion (outbound : Outbound entry) (plain : PlainVersion entry.versionId) :
    RealVersion entry.versionId := by
  refine ⟨plain, fun empty => ?_⟩
  exact (outbound.version "" empty).1 (by decide)

theorem findsEnrichment (outbound : ∀ entry ∈ entries, Outbound entry)
    (plain : ∀ entry ∈ entries, PlainVersion entry.versionId)
    (distinct : (entries.map identity).Nodup)
    (parsed : List ReportEntry)
    (same : parsed.map (fun entry => (entry.objectKey, entry.versionId)) = entries.map identity) :
    FindsEnrichment entries parsed := by
  intro bucket configId jobId createdAt jobCreatedAt stored timestamps routing given routed below
  let report : BopsCompletionReport := ⟨createdAt, parsed.map ReportEntry.row⟩
  have identities : report.entries.map ReportRow.identity = entries.map identity := by
    rw [← same, List.map_map]
    rfl
  have valid : ValidReport report := by
    rw [ValidReport, identities]
    exact distinct
  let after := storeCompletionTimestamps bucket timestamps (some routing) stored
  refine ⟨_, merge_requests bucket configId jobId jobCreatedAt none valid (some after), ?_⟩
  intro entry member absent
  let ctx := mergeContext bucket report configId jobId jobCreatedAt none after
  have listed : identity entry ∈ report.entries.map ReportRow.identity :=
    identities ▸ List.mem_map_of_mem member
  obtain ⟨row, inside, own⟩ := List.mem_map.mp listed
  obtain ⟨key, version⟩ := Prod.mk.inj own
  have filed : itemKey entry.objectKey entry.versionId = rowKey row := by rw [rowKey, key, version]
  obtain ⟨item, merged⟩ := Dict.mem_keys_iff.mp
    ((mem_keys_merged ctx report after (rowKey row)).mpr (.inl (List.mem_map_of_mem inside)))
  refine ⟨item, ?_, ?_⟩
  · rw [filed]
    exact (mergedBody_items ctx after inside).trans merged
  obtain ⟨other, otherInside, sameKey, instants, route⟩ :=
    created_enrichment rfl (filed ▸ absent) merged
  have otherListed : other.identity ∈ entries.map identity :=
    identities ▸ List.mem_map_of_mem otherInside
  obtain ⟨otherEntry, otherMember, otherOwn⟩ := List.mem_map.mp otherListed
  obtain ⟨otherKey, otherVersion⟩ := Prod.mk.inj otherOwn
  have real := realVersion (outbound entry member) (plain entry member)
  obtain ⟨objects, versions⟩ : entry.objectKey = other.objectKey ∧
      entry.versionId = other.versionId := by
    refine itemKey_injective (plain entry member) ?_ (filed.trans sameKey)
    rw [← otherVersion]
    exact plain otherEntry otherMember
  constructor
  · rw [instants, rowInstants, ← objects, ← versions]
    exact congrArg (Option.getD · (none, none))
      (readSideMapEntry_addEntries below.timestamps (plainTransport_of_given plain given) real)
  · have keys : PlainTransport (sortedRouting routing) := by
      refine plainTransport_of_given plain fun key listed => routed key ?_
      simpa [sortedRouting, Dict.keys, Dict.mapValues] using listed
    rw [route, rowRoute, ← objects, ← versions]
    exact congrArg (Option.getD · ([], [])) (readSideMapEntry_addEntries below.routing keys real)

/-- A manifest is read back as it was written; a report that echoes it names the
same objects, and their merge finds the enrichment of each whose version is plain. -/
theorem one_identity (outbound : ∀ entry ∈ entries, Outbound entry)
    (keys : ∀ entry ∈ entries, entry.objectKey ≠ "") :
    deserialize (serialize entries) = entries ∧
      ∀ csvText, EchoesReport entries csvText →
        ∃ parsed, parseReportCsv csvText.toList = .ok parsed ∧
        parsed.map (fun entry => (entry.objectKey, entry.versionId)) = entries.map identity ∧
        ((∀ entry ∈ entries, PlainVersion entry.versionId) → (entries.map identity).Nodup →
          FindsEnrichment entries parsed) := by
  refine ⟨deserialize_serialize entries outbound, fun csvText echo => ?_⟩
  obtain ⟨parsed, read, same⟩ := parse_echo outbound keys echo
  exact ⟨parsed, read, same, fun plain distinct =>
    findsEnrichment outbound plain distinct parsed same⟩

end Identity

section Sample

def isPlain (text : String) : Bool := text.toList.all fun c => decide (c ≠ ',' ∧ c ∉ lineBoundaries)

theorem isPlain_iff : isPlain text ↔ ∀ c ∈ text.toList, c ≠ ',' ∧ c ∉ lineBoundaries := by
  simp only [isPlain, List.all_eq_true, decide_eq_true_eq]

instance (entry : ManifestEntry) : Decidable (Outbound entry) :=
  decidable_of_iff (isPlain entry.sourceBucket ∧
      entry.versionId.all fun version =>
        decide (version ∉ nullVersionTokens) && isPlain version) (by
    simp only [isPlain_iff, Option.all_eq_true, Bool.and_eq_true, decide_eq_true_eq]
    exact ⟨fun plain => ⟨plain.1, fun version given => plain.2 version given⟩,
      fun outbound => ⟨outbound.bucket, fun version given => outbound.version version given⟩⟩)

instance (entries : List ManifestEntry) (given : Dict (String × String) ν) :
    Decidable (GivenFor entries given) :=
  inferInstanceAs (Decidable (∀ key ∈ given.keys, ∃ entry ∈ entries,
    key = transportKey entry.objectKey entry.versionId))

/-- A null version and a version, under keys that need encoding. -/
def awkward : List ManifestEntry :=
  [⟨"photos", "a,\"b\n%/é", none⟩, ⟨"photos", "100% new", some "v1"⟩]

/-- Two entries with one item key, since the version of the first has a NUL. -/
def colliding : List ManifestEntry :=
  [⟨"photos", "a", some "b\x00c"⟩, ⟨"photos", "a\x00b", some "c"⟩]

/-- The columns of a task that succeeded. -/
def succeeded (bucket : String) (entry : ManifestEntry) : Columns :=
  ⟨bucket, entry.versionId.getD "null", "succeeded", "200", "", ""⟩

/-- The columns of a task that failed. -/
def failed (first second : String) (entry : ManifestEntry) : Columns :=
  ⟨"photos", entry.versionId.getD "null", "failed", first, second, ""⟩

def reportText (columns : ManifestEntry → Columns) (entries : List ManifestEntry) : String :=
  String.ofList (Csv.writeRows (entries.map fun entry => (columns entry).fields entry))

theorem writes_reportText (columns : ManifestEntry → Columns) (entries : List ManifestEntry) :
    Csv.WritesRows (entries.map fun entry => (columns entry).fields entry)
      (reportText columns entries).toList := by
  rw [reportText, String.toList_ofList]
  refine Csv.writesRows_writeRows _ fun row member => ?_
  obtain ⟨entry, _, rfl⟩ := List.mem_map.mp member
  simp [Columns.fields]

theorem echoesReport_text (entries : List ManifestEntry)
    (fits : ∀ entry ∈ entries, ∀ field ∈ (succeeded "photos" entry).fields entry,
      field.length ≤ fieldSizeLimit) :
    EchoesReport entries (reportText (succeeded "photos") entries) := by
  refine ⟨_, ?_, writes_reportText _ entries⟩
  rw [List.forall₂_map_right_iff, List.forall₂_same]
  intro entry member
  have named : "photos" ≠ "" := by decide
  have numeric : Numeric "" := fun three => absurd three.1 (by decide)
  have blank : looksLikeHttpStatus "" = .ok false := rfl
  have unread : looksLikeHttpStatus "" = .ok true → Numeric "200" :=
    fun looks => by cases blank.symm.trans looks
  refine ⟨succeeded "photos" entry, ⟨named, ?_, numeric, unread, fits entry member⟩, rfl⟩
  cases version : entry.versionId with
  | none => simp [succeeded, version, Spells, nullVersionTokens]
  | some text => simp [succeeded, version, Spells]

theorem one_identity_awkward : deserialize (serialize awkward) = awkward ∧
    ∃ parsed, parseReportCsv (reportText (succeeded "photos") awkward).toList = .ok parsed ∧
      FindsEnrichment awkward parsed := by
  have settled := @one_identity awkward (by decide) (by decide)
  obtain ⟨parsed, read, _, finds⟩ := settled.2 _ (echoesReport_text awkward (by decide +kernel))
  exact ⟨settled.1, parsed, read, finds (by decide) (by decide)⟩

/-- Two entries with one item key, since the version of the second is the sentinel of the first. -/
def sentinels : List ManifestEntry := [⟨"photos", "a", none⟩, ⟨"photos", "a", some "\x01"⟩]

/-- One object listed twice. -/
def twice : List ManifestEntry := [⟨"photos", "ant", none⟩, ⟨"photos", "ant", none⟩]

/-- Different routes for two entries. -/
def twoRoutes (first second : ManifestEntry) : Routing :=
  Dict.ofList [(transportKey first.objectKey first.versionId, (["first"], ["copies"])),
    (transportKey second.objectKey second.versionId, (["second"], ["copies"]))]

/-- The item of an object after the routes were stored and the report was merged. -/
def mergedItem (routing : Routing) (parsed : List ReportEntry)
    (entry : ManifestEntry) : Option TrackedObject :=
  (mergeCompletionReport "photos" ⟨60, parsed.map ReportEntry.row⟩ "photos" "job-1" 50 none
    (some (storeCompletionTimestamps "photos" .empty (some routing) none))).bind fun request =>
      request.body.completionItems.get? (itemKey entry.objectKey entry.versionId)

/-- An object gets the enrichment of another one, or no item at all. -/
theorem not_findsEnrichment {entries : List ManifestEntry} (routing : Routing)
    (parsed : List ReportEntry)
    (entry : ManifestEntry) (routed : GivenFor entries routing)
    (below : StaysBelow (payloadOrDefault "photos" none) .empty routing) (member : entry ∈ entries)
    (mixed : (mergedItem routing parsed entry).map TrackedObject.matchedRules ≠
      some ((filedEntry hasRoute (payloadOrDefault "photos" none).completionRouting
        (sortedRouting routing)
        entry.objectKey entry.versionId).getD ([], [])).1) : ¬ FindsEnrichment entries parsed := by
  intro finds
  obtain ⟨request, made, created⟩ := finds "photos" "photos" "job-1" 60 50 none .empty routing
    (by intro key listed; cases listed) routed below
  obtain ⟨item, found, enriched⟩ := created entry member rfl
  refine mixed ?_
  rw [mergedItem, made, Option.bind_some, found, Option.map_some]
  exact congrArg some (congrArg Prod.fst enriched.route)

def collidingParsed : List ReportEntry :=
  [⟨"photos", "a", some "b\x00c", none, some "succeeded", some "200", none⟩,
    ⟨"photos", "a\x00b", some "c", none, some "succeeded", some "200", none⟩]

def sentinelsParsed : List ReportEntry :=
  [⟨"photos", "a", none, none, some "succeeded", some "200", none⟩,
    ⟨"photos", "a", some "\x01", none, some "succeeded", some "200", none⟩]

def twiceParsed : List ReportEntry :=
  List.replicate 2 ⟨"photos", "ant", none, none, some "succeeded", some "200", none⟩

/-- The report of these entries is a correct echo, is read, and does not find their enrichment. -/
structure Misfiled (entries : List ManifestEntry) (parsed : List ReportEntry) : Prop where
  outbound : ∀ entry ∈ entries, Outbound entry ∧ entry.objectKey ≠ ""
  echo : EchoesReport entries (reportText (succeeded "photos") entries)
  read : (parseReportCsv (reportText (succeeded "photos") entries).toList).toOption = some parsed
  mixed : ¬ FindsEnrichment entries parsed

/-- The second entry gets the enrichment of the first. -/
theorem colliding_misfiled : Misfiled colliding collidingParsed where
  outbound := by decide
  echo := echoesReport_text colliding (by decide +kernel)
  read := by decide +kernel
  mixed := not_findsEnrichment
    (twoRoutes ⟨"photos", "a", some "b\x00c"⟩ ⟨"photos", "a\x00b", some "c"⟩)
    collidingParsed ⟨"photos", "a\x00b", some "c"⟩ (by decide)
      ⟨by decide +kernel, by decide +kernel⟩ (by decide)
    (by decide +kernel)

theorem sentinels_misfiled : Misfiled sentinels sentinelsParsed where
  outbound := by decide
  echo := echoesReport_text sentinels (by decide +kernel)
  read := by decide +kernel
  mixed := not_findsEnrichment
    (twoRoutes ⟨"photos", "a", none⟩ ⟨"photos", "a", some "\x01"⟩) sentinelsParsed
    ⟨"photos", "a", some "\x01"⟩ (by decide) ⟨by decide +kernel, by decide +kernel⟩
      (by decide) (by decide +kernel)

/-- Merging refuses a report that lists an object twice. -/
theorem twice_misfiled : Misfiled twice twiceParsed where
  outbound := by decide
  echo := echoesReport_text twice (by decide +kernel)
  read := by decide +kernel
  mixed := not_findsEnrichment .empty twiceParsed ⟨"photos", "ant", none⟩ (by decide)
    ⟨by decide +kernel, by decide +kernel⟩ (by decide) (by decide +kernel)

/-- The reader raises an error on a report of this text. -/
def Refused (csvText : String) : Prop := (parseReportCsv csvText.toList).toOption = none

instance (csvText : String) : Decidable (Refused csvText) :=
  inferInstanceAs (Decidable ((parseReportCsv csvText.toList).toOption = none))

/-- A key that a reader with the default limit refuses. -/
@[irreducible] def longKey : String := String.ofList (List.replicate 131073 'a')

theorem length_longKey : longKey.toList.length = 131073 := by
  unfold longKey
  rw [String.toList_ofList, List.length_replicate]

theorem longKey_refused :
    Refused (reportText (succeeded "photos") [⟨"photos", longKey, none⟩]) := by
  have long : fieldSizeLimit < (encodedKey longKey).toList.length := by
    have grows := length_le_quote ['/'] longKey
    rw [length_longKey] at grows
    unfold fieldSizeLimit
    exact grows
  have refused := Csv.reader_overflows
    (writes_reportText (succeeded "photos") [⟨"photos", longKey, none⟩])
    ⟨_, List.mem_cons_self, _, List.mem_cons_of_mem _ List.mem_cons_self, long⟩
  rw [Refused]
  cases parsed : parseReportCsv
    (reportText (succeeded "photos") [⟨"photos", longKey, none⟩]).toList with
  | error failure => rfl
  | ok entries =>
    obtain ⟨rows, read, _⟩ := parseReportCsv_ok.mp parsed
    cases refused.symm.trans read

/-- A version with a NUL or of the text of the sentinel, and an object listed twice,
mix the enrichment; a report is refused for a field above the limit, a row without
a bucket, and a status column with three digits that are no number. -/
theorem identity_not_one :
    (Misfiled colliding collidingParsed ∧ (colliding.map identity).Nodup) ∧
      (Misfiled sentinels sentinelsParsed ∧ (sentinels.map identity).Nodup) ∧
      Misfiled twice twiceParsed ∧
      (Outbound ⟨"photos", longKey, none⟩ ∧ longKey ≠ "" ∧
        Refused (reportText (succeeded "photos") [⟨"photos", longKey, none⟩])) ∧
      (Outbound ⟨"", "ant", none⟩ ∧ Refused (reportText (succeeded "") [⟨"", "ant", none⟩])) ∧
      Refused (reportText (failed "" "²00") [⟨"photos", "ant", none⟩]) ∧
      Refused (reportText (failed "²00" "404") [⟨"photos", "ant", none⟩]) := by
  have photos : ∀ c ∈ "photos".toList, c ≠ ',' ∧ c ∉ lineBoundaries := isPlain_iff.mp (by decide)
  have named : longKey ≠ "" := by
    intro empty
    have length := length_longKey
    rw [empty] at length
    cases length
  exact ⟨⟨colliding_misfiled, by decide⟩, ⟨sentinels_misfiled, by decide⟩, twice_misfiled,
    ⟨⟨photos, nofun⟩, named, longKey_refused⟩,
      ⟨by decide, by decide +kernel⟩, by decide +kernel, by decide +kernel⟩

end Sample
end ReplicateOnTag.BopsReport

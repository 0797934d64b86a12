import ReplicateOnTag.Adapters.ItemKeys
import ReplicateOnTag.Adapters.MergeOrder

/-! What the enrichment maps hold for an object version, and what an item that
is created for it takes from them. -/
namespace ReplicateOnTag.StateStore

/-- The key of the generator's maps: the null version is the empty text. -/
def transportKey (objectKey : String) (versionId : Option String) : String × String :=
  (objectKey, versionId.getD "")

/-- A version as entries carry it: plain text that is not empty. -/
def RealVersion (versionId : Option String) : Prop := PlainVersion versionId ∧ versionId ≠ some ""

section Keys

theorem versionOrNone_real (real : RealVersion versionId) :
    versionOrNone versionId = versionId := by
  cases versionId with
  | none => rfl
  | some version =>
    have filled : version ≠ "" := fun empty => real.2 (congrArg some empty)
    simp [versionOrNone, Option.filter, filled]

theorem plain_versionOrNone (plain : PlainVersion versionId) :
    PlainVersion (versionOrNone versionId) := by
  intro version kept
  exact plain version (Option.filter_eq_some_iff.mp kept).1

/-- Two transport keys are filed under one side-map key only when they are equal. -/
theorem sideMapKey_eq_iff (plain : PlainVersion (some text)) (real : RealVersion versionId) :
    sideMapKey otherKey (some text) = sideMapKey objectKey versionId ↔
      (otherKey, text) = transportKey objectKey versionId := by
  rw [sideMapKey, sideMapKey, versionOrNone_real real, transportKey]
  have empty : versionOrNone (some "") = none := rfl
  constructor
  · intro same
    obtain ⟨rfl, versions⟩ := itemKey_injective (plain_versionOrNone plain) real.1 same
    by_cases null : text = ""
    · rw [null, empty] at versions
      rw [null, ← versions]
      rfl
    · have filled : RealVersion (some text) := ⟨plain, fun other => null (Option.some.inj other)⟩
      rw [versionOrNone_real filled] at versions
      rw [← versions]
      rfl
  · intro same
    obtain ⟨rfl, rfl⟩ := Prod.mk.inj same
    cases versionId with
    | none => rfl
    | some version => rw [Option.getD_some, versionOrNone_real real]

/-- The older form of a null version is the side-map key of no transport key. -/
theorem sideMapKey_ne_legacy (plain : PlainVersion (some text)) :
    sideMapKey otherKey (some text) ≠ itemKey objectKey (some "") := by
  intro same
  have legacy : PlainVersion (some "") := by decide
  obtain ⟨_, versions⟩ := itemKey_injective (plain_versionOrNone plain) legacy same
  have kept := (Option.filter_eq_some_iff.mp versions).2
  simp at kept

end Keys

section Storing
variable {keep : ν → Bool} {stored : Dict String ν} {given : Dict (String × String) ν}

/-- The map with the new entries, before the ceiling is enforced. -/
def writtenEntries (keep : ν → Bool) (stored : Dict String ν) (given : Dict (String × String) ν) :
    Dict String ν :=
  (given.entries.foldl (addEntry keep) (stored, [])).1

def BelowCeiling (keep : ν → Bool) (stored : Dict String ν)
    (given : Dict (String × String) ν) : Prop :=
  (writtenEntries keep stored given).size ≤ completionSideMapCeiling

instance (keep : ν → Bool) (stored : Dict String ν) (given : Dict (String × String) ν) :
    Decidable (BelowCeiling keep stored given) :=
  inferInstanceAs (Decidable ((writtenEntries keep stored given).size ≤ completionSideMapCeiling))

def PlainTransport (given : Dict (String × String) ν) : Prop :=
  ∀ key ∈ given.keys, PlainVersion (some key.2)

theorem get?_addEntry (sideMap : Dict String ν × List String)
    (entry : (String × String) × ν) (key : String) :
    (addEntry keep sideMap entry).1.get? key =
      (sideMap.1.get? key).or
        (if sideMapKey entry.1.1 (some entry.1.2) = key ∧
          keep entry.2 then some entry.2 else none) := by
  simp only [addEntry]
  by_cases own : sideMapKey entry.1.1 (some entry.1.2) = key
  · subst own
    by_cases present : sideMap.1.contains (sideMapKey entry.1.1 (some entry.1.2))
    · have filed : (sideMap.1.get? (sideMapKey entry.1.1 (some entry.1.2))).isSome := present
      obtain ⟨value, found⟩ := Option.isSome_iff_exists.mp filed
      rw [if_pos present, found, Option.some_or]
    · have absent : sideMap.1.get? (sideMapKey entry.1.1 (some entry.1.2)) = none :=
        Option.not_isSome_iff_eq_none.mp present
      rw [if_neg present, absent, Option.none_or]
      by_cases kept : keep entry.2
      · simp [kept]
      · simp [kept, absent]
  · have other : key ≠ sideMapKey entry.1.1 (some entry.1.2) := Ne.symm own
    have skip : (if sideMapKey entry.1.1 (some entry.1.2) = key ∧
        keep entry.2 then some entry.2 else none) =
        none := if_neg fun both => own both.1
    rw [skip, Option.or_none]
    split
    · rfl
    · split
      · exact Dict.get?_insert_of_ne other
      · rfl

/-- The first entry that is kept under a key stays under it. -/
theorem get?_foldl_addEntry (entries : List ((String × String) × ν))
    (sideMap : Dict String ν × List String)
    (key : String) :
    (entries.foldl (addEntry keep) sideMap).1.get? key =
      (sideMap.1.get? key).or ((entries.find? fun entry =>
        sideMapKey entry.1.1 (some entry.1.2) = key ∧ keep entry.2).map Prod.snd) := by
  induction entries generalizing sideMap with
  | nil => simp
  | cons entry rest ih =>
    rw [List.foldl_cons, ih, get?_addEntry, Option.or_assoc, List.find?_cons]
    by_cases own : sideMapKey entry.1.1 (some entry.1.2) = key ∧ keep entry.2
    · simp [own]
    · simp [own]

theorem find?_entries (own : ∀ other ∈ given.keys, sideMapKey other.1 (some other.2) =
    key ↔ other = transport) :
    (given.entries.find? fun entry => sideMapKey entry.1.1 (some entry.1.2) = key ∧
      keep entry.2).map Prod.snd =
      (given.get? transport).filter keep := by
  apply Option.ext
  intro value
  rw [Option.map_eq_some_iff, Option.filter_eq_some_iff, ← Dict.mem_entries_iff]
  constructor
  · rintro ⟨⟨other, value⟩, found, rfl⟩
    have member := List.mem_of_find?_eq_some found
    have kept : sideMapKey other.1 (some other.2) = key ∧ keep value := by
      simpa using List.find?_some found
    have same := (own other (List.mem_map_of_mem member)).mp kept.1
    exact ⟨same ▸ member, kept.2⟩
  · rintro ⟨member, kept⟩
    have filed := (own transport (List.mem_map_of_mem member)).mpr rfl
    have filedFirst : (given.entries.find? fun entry =>
        sideMapKey entry.1.1 (some entry.1.2) = key ∧ keep entry.2).isSome := by
      rw [List.find?_isSome]
      exact ⟨(transport, value), member, decide_eq_true ⟨filed, kept⟩⟩
    obtain ⟨⟨other, first⟩, found⟩ := Option.isSome_iff_exists.mp filedFirst
    refine ⟨_, found, ?_⟩
    have listed := List.mem_of_find?_eq_some found
    have held : sideMapKey other.1 (some other.2) = key ∧ keep first := by
      simpa using List.find?_some found
    obtain rfl := (own other (List.mem_map_of_mem listed)).mp held.1
    have early : given.get? other = some first := Dict.mem_entries_iff.mp listed
    have late : given.get? other = some value := Dict.mem_entries_iff.mp member
    exact Option.some.inj (early.symm.trans late)

theorem get?_addEntries_of_below (below : BelowCeiling keep stored given) (key : String) :
    (addEntries keep stored given.entries).get? key =
    (writtenEntries keep stored given).get? key := by
  have fits : (given.entries.foldl (addEntry keep) (stored, [])).1.size ≤
    completionSideMapCeiling := below
  have none : (evictSideMapAboveCeiling (given.entries.foldl (addEntry keep) (stored, [])).1
      completionSideMapCeiling (given.entries.foldl (addEntry keep) (stored, [])).2).2 = [] :=
    (evicted_eq_nil_iff _ _ _).mpr (.inl fits)
  simp only [evictSideMapAboveCeiling] at none
  simp only [addEntries, evictSideMapAboveCeiling, none, writtenEntries, Dict.get?_filter,
    List.not_mem_nil, not_false_eq_true, decide_true]
  have all : ∀ entry : Option ν, entry.filter (fun _ => true) = entry := by
    intro entry
    cases entry <;> rfl
  exact all _

/-- Below the ceiling a version has its older entry, or else the one just given. -/
theorem get?_addEntries (below : BelowCeiling keep stored given) (plain : PlainTransport given)
    (real : RealVersion versionId) :
    (addEntries keep stored given.entries).get? (sideMapKey objectKey versionId) =
      (stored.get? (sideMapKey objectKey versionId)).or
        ((given.get? (transportKey objectKey versionId)).filter keep) := by
  rw [get?_addEntries_of_below below, writtenEntries, get?_foldl_addEntry, find?_entries]
  intro other listed
  exact sideMapKey_eq_iff (plain other listed) real

/-- What is stored under the older form of a null version stays. -/
theorem get?_addEntries_legacy (below : BelowCeiling keep stored given)
    (plain : PlainTransport given)
    (objectKey : String) :
    (addEntries keep stored given.entries).get? (itemKey objectKey (some "")) =
      stored.get? (itemKey objectKey (some "")) := by
  have absent : (given.entries.find? fun entry =>
      sideMapKey entry.1.1 (some entry.1.2) = itemKey objectKey (some "") ∧
        keep entry.2) = none := by
    refine List.find?_eq_none.mpr fun entry listed found => ?_
    have held : sideMapKey entry.1.1 (some entry.1.2) =
        itemKey objectKey (some "") ∧ keep entry.2 := by
      simpa using found
    exact sideMapKey_ne_legacy (plain entry.1 (List.mem_map_of_mem listed)) held.1
  rw [get?_addEntries_of_below below, writtenEntries, get?_foldl_addEntry, absent, Option.map_none,
    Option.or_none]

/-- The enrichment of a version: an older entry, else the one just given, else
one under the older form of the null version. -/
def filedEntry (keep : ν → Bool) (stored : Dict String ν) (given : Dict (String × String) ν)
    (objectKey : String) (versionId : Option String) : Option ν :=
  ((stored.get? (itemKey objectKey versionId)).or
    ((given.get? (transportKey objectKey versionId)).filter keep)).or
      (if versionId = none then stored.get? (itemKey objectKey (some "")) else none)

theorem readSideMapEntry_addEntries (below : BelowCeiling keep stored given)
    (plain : PlainTransport given)
    (real : RealVersion versionId) :
    readSideMapEntry (addEntries keep stored given.entries) objectKey versionId =
      filedEntry keep stored given objectKey versionId := by
  have own : sideMapKey objectKey versionId = itemKey objectKey versionId := by
    rw [sideMapKey, versionOrNone_real real]
  rw [readSideMapEntry, get?_addEntries below plain real, get?_addEntries_legacy below plain,
    filedEntry, own, versionOrNone_real real]
  cases (stored.get? (itemKey objectKey versionId)).or
    ((given.get? (transportKey objectKey versionId)).filter keep)
    with
  | some entry => rfl
  | none => rfl

end Storing

section Bounds

def sortedRouting (routing : Routing) : Routing :=
  routing.mapValues fun _ route => sortedRoute route

/-- Both maps stay within the ceiling when the enrichment is stored. -/
structure StaysBelow (payload : Payload) (timestamps : Timestamps) (routing : Routing) : Prop where
  timestamps : BelowCeiling hasInstant payload.completionTimestamps timestamps
  routing : BelowCeiling hasRoute payload.completionRouting (sortedRouting routing)

section Keys
variable {keep : ν → Bool} {base current : Dict String ν} {given : Dict (String × String) ν}

theorem mem_keys_writtenEntries {key : String} :
    key ∈ (writtenEntries keep current given).keys ↔ key ∈ current.keys ∨
      ∃ entry ∈ given.entries, sideMapKey entry.1.1 (some entry.1.2) = key ∧ keep entry.2 := by
  have present : ∀ {ω : Type _} {d : Dict String ω}, key ∈ d.keys ↔ (d.get? key).isSome := by
    intro ω d
    rw [Dict.mem_keys_iff, Option.isSome_iff_exists]
  rw [present, present, writtenEntries, get?_foldl_addEntry, Option.isSome_or, Option.isSome_map,
    Bool.or_eq_true, List.find?_isSome]
  simp only [decide_eq_true_eq]

/-- The map has grown from the base by none but the given entries. -/
def Within (keep : ν → Bool) (base : Dict String ν) (given : Dict (String × String) ν)
    (current : Dict String ν) : Prop :=
  ∀ key ∈ current.keys, key ∈ (writtenEntries keep base given).keys

theorem within_base : Within keep base given base :=
  fun _ listed => mem_keys_writtenEntries.mpr (.inl listed)

theorem Within.written (within : Within keep base given current) :
    Within keep base given (writtenEntries keep current given) := by
  intro key listed
  rcases mem_keys_writtenEntries.mp listed with old | new
  · exact within key old
  · exact mem_keys_writtenEntries.mpr (.inr new)

theorem Within.below (within : Within keep base given current)
    (below : BelowCeiling keep base given) :
    BelowCeiling keep current given := by
  refine le_trans ?_ below
  rw [← Dict.length_keys, ← Dict.length_keys]
  exact ((Dict.keys_nodup _).subperm within.written).length_le

theorem Within.stored (within : Within keep base given current)
    (below : BelowCeiling keep base given) :
    Within keep base given (addEntries keep current given.entries) := by
  intro key listed
  refine within.written key ?_
  rw [Dict.mem_keys_iff] at listed ⊢
  rwa [get?_addEntries_of_below (within.below below)] at listed

/-- Below the ceiling nothing leaves the map, and every kept entry is in it. -/
theorem isSome_addEntries (below : BelowCeiling keep current given) {key : String}
    (filed : (current.get? key).isSome ∨
      ∃ entry ∈ given.entries, sideMapKey entry.1.1 (some entry.1.2) = key ∧ keep entry.2) :
    ((addEntries keep current given.entries).get? key).isSome := by
  rw [get?_addEntries_of_below below, Option.isSome_iff_exists, ← Dict.mem_keys_iff,
    mem_keys_writtenEntries, Dict.mem_keys_iff, ← Option.isSome_iff_exists]
  exact filed

/-- What holds of the stored and the given entries holds of the map. -/
theorem addEntries_all (holds : ν → Prop)
    (old : ∀ key entry, current.get? key = some entry → holds entry)
    (new : ∀ entry ∈ given.entries, holds entry.2) :
    ∀ key entry, (addEntries keep current given.entries).get? key = some entry → holds entry := by
  intro key entry found
  have written : (writtenEntries keep current given).get? key = some entry := by
    simp only [addEntries, evictSideMapAboveCeiling, Dict.get?_filter] at found
    exact (Option.filter_eq_some_iff.mp found).1
  rw [writtenEntries, get?_foldl_addEntry] at written
  rcases Option.or_eq_some_iff.mp written with before | ⟨_, after⟩
  · exact old key entry before
  · obtain ⟨first, listed, rfl⟩ := Option.map_eq_some_iff.mp after
    exact new first (List.mem_of_find?_eq_some listed)

end Keys

/-- Removing an item touches its own entry and one under an older form. -/
theorem sideMapKeyVariants_cases (member : other ∈ sideMapKeyVariants key) :
    other = key ∨ ∃ objectKey, other = itemKey objectKey (some "") := by
  rw [sideMapKeyVariants] at member
  split at member
  · rename_i rest _
    simp only [List.mem_cons, List.not_mem_nil, or_false] at member
    rcases member with same | legacy
    · exact .inl same
    · refine .inr ⟨String.ofList rest.reverse, legacy.trans (String.toList_inj.mp ?_)⟩
      simp [itemKey]
  · exact .inl (List.mem_singleton.mp member)

theorem real_ne_legacy (real : RealVersion versionId) :
    itemKey objectKey versionId ≠ itemKey otherKey (some "") := by
  intro same
  have legacy : PlainVersion (some "") := by decide
  exact real.2 (itemKey_injective real.1 legacy same).2

end Bounds

section Creating
variable {ctx : MergeContext} {report : BopsCompletionReport} {payload : Payload}

/-- The enrichment a row finds in the maps of its merge. -/
def rowInstants (ctx : MergeContext) (objectKey : String) (versionId : Option String) :
    Option Instant × Option Instant :=
  (readSideMapEntry ctx.storedTimestamps objectKey versionId).getD (none, none)

def rowRoute (ctx : MergeContext) (objectKey : String)
    (versionId : Option String) : List String × List String :=
  (readSideMapEntry ctx.storedRouting objectKey versionId).getD ([], [])

/-- An item that was not stored before takes its enrichment from the maps. -/
theorem created_enrichment (given : ctx.timestamps = none)
    (absent : payload.completionItems.get? key = none)
    (found : (mergedItems ctx report payload).get? key = some item) :
    ∃ row ∈ report.entries, key = rowKey row ∧
      (item.taggedAt, item.lastModified) = rowInstants ctx row.objectKey row.versionId ∧
      (item.matchedRules, item.destinations) = rowRoute ctx row.objectKey row.versionId := by
  have fresh : ∀ row : ReportRow, enrichment ctx row =
      rowInstants ctx row.objectKey row.versionId := by
    intro row
    have none : suppliedTimestamp ctx row = (none, none) := by simp [suppliedTimestamp, given]
    rw [enrichment, none]
    rfl
  have all := mergedItems_all (fun key item => payload.completionItems.get? key = none →
    ∃ row ∈ report.entries, key = rowKey row ∧
      (item.taggedAt, item.lastModified) = rowInstants ctx row.objectKey row.versionId ∧
      (item.matchedRules, item.destinations) = rowRoute ctx row.objectKey row.versionId)
    (fun key item present absent => by cases present.symm.trans absent) ?_ ?_ key item found
  · exact all absent
  · intro row member _
    refine ⟨row, member, rfl, ?_, rfl⟩
    rw [← fresh row]
    rfl
  · intro row _ item holds
    exact holds

end Creating
end ReplicateOnTag.StateStore

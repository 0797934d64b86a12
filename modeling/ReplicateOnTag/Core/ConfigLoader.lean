import ReplicateOnTag.Library.ClassPattern
import ReplicateOnTag.Library.FirstFailure
import ReplicateOnTag.Library.UnicodeDigits
import Mathlib.Data.List.Infix

/-! Loading of the parsed configuration: all of its entries, or an error that
names the offending one. The text form of a string within a message is a
parameter. -/
namespace ReplicateOnTag.ConfigLoader
open ClassPattern
open FirstFailure (bind_eq_ok)

/-- A parsed value. Of a mapping only the members under text keys are ever read,
of any other value only its type. -/
inductive Value where
  | null
  | str (text : String)
  | list (items : List Value)
  | dict (members : List (String × Value))
  | other (typeName : String)

structure MonitoredBucket where
  name : String
  region : String
  deriving DecidableEq

structure AppConfig where
  buckets : List MonitoredBucket
  deriving DecidableEq

structure ConfigError where
  message : String
  deriving DecidableEq

/-- `MAX_BUCKETS`. -/
def maxBuckets : Nat := 1000

section Patterns
open RegularExpression

/-- The classes that the patterns tell apart. -/
inductive CharClass where
  | lower
  | digit
  | otherDecimal
  | hyphen
  | period
  | otherChar
  deriving DecidableEq

def classOf (c : Char) : CharClass :=
  if 'a' ≤ c ∧ c ≤ 'z' then .lower
  else if c.isDigit then .digit
  else if UnicodeDigits.isDecimal c then .otherDecimal
  else if c = '-' then .hyphen
  else if c = '.' then .period
  else .otherChar

/-- `\d`. -/
def anyDigit : RegularExpression CharClass := oneOf [.digit, .otherDecimal]

/-- `_S3_NAME_RE` between its anchors: `[a-z0-9][a-z0-9.\-]*[a-z0-9]`. -/
def s3NameRe : RegularExpression CharClass :=
  oneOf [.lower, .digit] * star (oneOf [.lower, .digit, .period, .hyphen]) * oneOf [.lower, .digit]

/-- `_IP_RE`: `\d{1,3}\.\d{1,3}\.\d{1,3}\.\d{1,3}`. -/
def ipRe : RegularExpression CharClass :=
  between 1 2 anyDigit * char .period * between 1 2 anyDigit * char .period *
    between 1 2 anyDigit * char .period *
    between 1 2 anyDigit

/-- `_AWS_REGION_RE`: `[a-z]{2,4}-(?:[a-z]+-)+\d{1,2}`. -/
def awsRegionRe : RegularExpression CharClass :=
  between 2 2 (oneOf [.lower]) * char .hyphen *
    many (many (oneOf [.lower]) * char .hyphen) * between 1 1 anyDigit

/-- `re.match` of the pattern between `^` and `$`, which stands at the end or
before a final newline. -/
def matchLine (pattern : RegularExpression CharClass) (text : String) : Bool :=
  fullMatch classOf pattern text.toList ||
    text.toList.getLast? = some '\n' && fullMatch classOf pattern text.toList.dropLast

/-- `_is_valid_s3_bucket_name`. -/
def isValidS3BucketName (name : String) : Bool :=
  if name.length < 3 ∨ 63 < name.length then false
  else if !matchLine s3NameRe name then false
  else if ['.', '.'] <:+: name.toList then false
  else if matchLine ipRe name then false
  else true

end Patterns

section Loading
variable (repr : String → String)

/-- `type(value).__name__`. -/
def typeName : Value → String
  | .null => "NoneType"
  | .str _ => "str"
  | .list _ => "list"
  | .dict _ => "dict"
  | .other typeName => typeName

/-- `_entry_id`. -/
def entryId (raw : Value) (idx : Nat) : String :=
  match raw with
  | .dict members =>
      match members.lookup "name" with
      | some (.str name) => if name = "" then s!"at index {idx}" else repr name
      | _ => s!"at index {idx}"
  | _ => s!"at index {idx}"

def suppliedError (eid field derived : String) : ConfigError :=
  ⟨"Bucket entry " ++ eid ++ " contains a customer-supplied '" ++ field ++ "'. " ++ derived ++
    " are derived from the bucket's Replication_Configuration and must not be specified here."⟩

/-- A required text field: there, a text that is not empty, and valid. -/
def textField (eid field : String) (valid : String → Bool) (invalid : String → String)
    (members : List (String × Value)) : Except ConfigError String :=
  match (members.lookup field).getD .null with
  | .null => .error ⟨"Bucket entry " ++ eid ++ " is missing the required field '" ++ field ++ "'."⟩
  | .str text =>
      if text = "" then .error ⟨"Bucket entry " ++ eid ++ " field '" ++ field ++
        "' must be a non-empty string."⟩
      else if valid text then .ok text
      else .error ⟨"Bucket entry " ++ eid ++ invalid text⟩
  | _ => .error ⟨"Bucket entry " ++ eid ++ " field '" ++ field ++ "' must be a non-empty string."⟩

def nameField (eid : String) (members : List (String × Value)) : Except ConfigError String :=
  textField eid "name" isValidS3BucketName (fun name =>
    " has an invalid S3 bucket name " ++ repr name ++
    ". Names must be 3–63 characters long, consist only of lowercase letters, digits, " ++
    "hyphens, and periods, start and end with a letter or digit, contain no consecutive " ++
    "periods, and must not be formatted as an IP address (e.g. 192.168.1.1).") members

def regionField (eid : String) (members : List (String × Value)) : Except ConfigError String :=
  textField eid "region" (matchLine awsRegionRe) (fun region =>
    " has an invalid AWS region " ++ repr region ++
    ". Expected format: two-to-four lowercase letters, one or more hyphen-separated lowercase " ++
    "word segments, and a numeric suffix " ++
    "(e.g. 'us-east-1', 'ap-southeast-2', 'eu-central-1').") members

/-- The loop's state. -/
structure Loaded where
  buckets : List MonitoredBucket
  seenPairs : List (String × String)

/-- One entry of the loop. -/
def loadEntry (loaded : Loaded) (idx : Nat) (raw : Value) : Except ConfigError Loaded :=
  let eid := entryId repr raw idx
  match raw with
  | .dict members =>
      if (members.lookup "tag_filter").isSome
        then .error (suppliedError eid "tag_filter" "Tag filters")
      else if (members.lookup "destination").isSome
        then .error (suppliedError eid "destination" "Destinations")
      else
        (nameField repr eid members).bind fun name =>
        (regionField repr eid members).bind fun region =>
          if loaded.seenPairs.contains (name, region) then
            .error ⟨"Bucket entry " ++ eid ++
              " duplicates the (name, region) pair (" ++ repr name ++ ", " ++
              repr region ++ "). Each bucket–region combination must be unique."⟩
          else .ok ⟨loaded.buckets ++ [⟨name, region⟩], loaded.seenPairs ++ [(name, region)]⟩
  | _ => .error ⟨"Bucket entry " ++ eid ++
      " is not a mapping (dict); each entry must be an object with 'name' " ++
      "and 'region' keys."⟩

def loadEntries (loaded : Loaded) (idx : Nat) : List Value → Except ConfigError Loaded
  | [] => .ok loaded
  | raw :: rest => (loadEntry repr loaded idx raw).bind fun next => loadEntries next (idx + 1) rest

/-- `load_config`. -/
def loadConfig (source : Value) : Except ConfigError AppConfig :=
  match source with
  | .dict members =>
      match members.lookup "buckets" with
      | none => .error ⟨"Configuration is missing the required 'buckets' key."⟩
      | some (.list rawBuckets) =>
          if rawBuckets.length = 0 then
            .error ⟨"No Monitored_Bucket entries are defined. " ++
              "Provide at least 1 entry in 'buckets'."⟩
          else if maxBuckets < rawBuckets.length then
            .error ⟨s!"Too many Monitored_Bucket entries ({rawBuckets.length}); " ++
              s!"the maximum is {maxBuckets}."⟩
          else (loadEntries repr ⟨[], []⟩ 0 rawBuckets).map fun loaded => ⟨loaded.buckets⟩
      | some rawBuckets =>
          .error ⟨"'buckets' must be a list of bucket entries, got " ++
            repr (typeName rawBuckets) ++ "."⟩
  | _ => .error ⟨"Configuration must be a mapping (dict); the provided source could not be parsed."⟩

end Loading

section Acceptance
variable {repr : String → String} {goodName goodRegion : String → Prop}

/-- An entry of the grammar: a mapping with a good name and a good region, and
without what is derived elsewhere. -/
structure EntryOf (goodName goodRegion : String → Prop) (raw : Value)
    (pair : String × String) : Prop where
  mapping : ∃ members, raw = .dict members ∧ members.lookup "tag_filter" = none ∧
    members.lookup "destination" = none ∧ members.lookup "name" = some (.str pair.1) ∧
    members.lookup "region" = some (.str pair.2)
  name : goodName pair.1
  region : goodRegion pair.2

/-- The configuration lists these pairs. -/
structure Lists (goodName goodRegion : String → Prop) (source : Value)
    (pairs : List (String × String)) : Prop where
  entries : ∃ members rawBuckets, source = .dict members ∧
    members.lookup "buckets" = some (.list rawBuckets) ∧
    List.Forall₂ (EntryOf goodName goodRegion) rawBuckets pairs
  bounds : 1 ≤ pairs.length ∧ pairs.length ≤ maxBuckets
  distinct : pairs.Nodup

def AcceptedName (name : String) : Prop := isValidS3BucketName name

def AcceptedRegion (region : String) : Prop := region ≠ "" ∧ matchLine awsRegionRe region

def bucketOf (pair : String × String) : MonitoredBucket := ⟨pair.1, pair.2⟩

theorem textField_ok {eid field : String} {valid : String → Bool} {invalid : String → String}
    {members : List (String × Value)}
    {text : String} : textField eid field valid invalid members = .ok text ↔
      members.lookup field = some (.str text) ∧ text ≠ "" ∧ valid text := by
  rw [textField]
  cases found : members.lookup field with
  | none => simp
  | some value =>
    cases value with
    | null | list items | dict members | other typeName => simp
    | str own =>
      simp only [Option.getD_some, Option.some.injEq, Value.str.injEq]
      by_cases empty : own = ""
      · rw [if_pos empty]
        simp only [reduceCtorEq, false_iff, not_and]
        rintro rfl some
        exact absurd empty some
      · rw [if_neg empty]
        by_cases good : valid own = true
        · rw [if_pos good, Except.ok.injEq]
          constructor
          · rintro rfl
            exact ⟨rfl, empty, good⟩
          · exact fun same => same.1
        · rw [if_neg good]
          simp only [reduceCtorEq, false_iff, not_and]
          rintro rfl _
          exact good

theorem isValidS3BucketName_ne_empty {name : String}
    (valid : isValidS3BucketName name) : name ≠ "" := by
  rintro rfl
  exact absurd valid (by decide)

/-- An entry is taken exactly when it is of the accepted grammar and its pair is new. -/
theorem loadEntry_ok {loaded next : Loaded} {idx : Nat}
    {raw : Value} : loadEntry repr loaded idx raw = .ok next ↔
    ∃ pair, EntryOf AcceptedName AcceptedRegion raw pair ∧ pair ∉ loaded.seenPairs ∧
      next = ⟨loaded.buckets ++ [bucketOf pair], loaded.seenPairs ++ [pair]⟩ := by
  constructor
  · intro taken
    cases raw with
    | null | str text | list items | other typeName => simp [loadEntry] at taken
    | dict members =>
      rw [loadEntry] at taken
      split at taken
      · cases taken
      · rename_i noFilter
        split at taken
        · cases taken
        · rename_i noDestination
          obtain ⟨name, named, taken⟩ := bind_eq_ok.mp taken
          obtain ⟨region, placed, taken⟩ := bind_eq_ok.mp taken
          split at taken
          · cases taken
          · rename_i fresh
            obtain ⟨hasName, _, goodName⟩ := textField_ok.mp named
            obtain ⟨hasRegion, someRegion, goodRegion⟩ := textField_ok.mp placed
            refine ⟨(name, region), ⟨⟨members, rfl, ?_, ?_, hasName, hasRegion⟩, goodName,
              someRegion, goodRegion⟩,
              fun seen => fresh (List.contains_iff_mem.mpr seen), (Except.ok.inj taken).symm⟩
            · exact Option.not_isSome_iff_eq_none.mp noFilter
            · exact Option.not_isSome_iff_eq_none.mp noDestination
  · rintro ⟨⟨name, region⟩,
      ⟨⟨members, rfl, noFilter, noDestination, hasName, hasRegion⟩, goodName, goodRegion⟩,
      fresh, rfl⟩
    have named : nameField repr (entryId repr (.dict members) idx) members = .ok name :=
      textField_ok.mpr ⟨hasName, isValidS3BucketName_ne_empty goodName, goodName⟩
    have placed : regionField repr (entryId repr (.dict members) idx) members = .ok region :=
      textField_ok.mpr ⟨hasRegion, goodRegion.1, goodRegion.2⟩
    simp only [loadEntry, noFilter, noDestination, Option.isSome_none, Bool.false_eq_true, if_false,
      named, placed, Except.bind, List.contains_iff_mem, fresh, bucketOf]

theorem loadEntries_ok {loaded next : Loaded} {idx : Nat} {raws : List Value} :
    loadEntries repr loaded idx raws = .ok next ↔
      ∃ pairs, List.Forall₂ (EntryOf AcceptedName AcceptedRegion) raws pairs ∧ pairs.Nodup ∧
        (∀ pair ∈ pairs, pair ∉ loaded.seenPairs) ∧
        next = ⟨loaded.buckets ++ pairs.map bucketOf, loaded.seenPairs ++ pairs⟩ := by
  induction raws generalizing loaded idx with
  | nil =>
    simp only [loadEntries, Except.ok.injEq, List.forall₂_nil_left_iff]
    constructor
    · rintro rfl
      exact ⟨[], rfl, List.nodup_nil, by simp, by simp⟩
    · rintro ⟨_, rfl, _, _, rfl⟩
      simp
  | cons raw rest ih =>
    simp only [loadEntries, bind_eq_ok, loadEntry_ok, ih]
    constructor
    · rintro ⟨_, ⟨pair, entry, fresh, rfl⟩, pairs, entries, distinct, others, rfl⟩
      refine ⟨pair :: pairs, .cons entry entries,
        List.nodup_cons.mpr ⟨fun again => ?_, distinct⟩, ?_, ?_⟩
      · exact others pair again (List.mem_append_right _ List.mem_cons_self)
      · intro other listed
        rcases List.mem_cons.mp listed with rfl | listed
        · exact fresh
        · exact fun seen => others other listed (List.mem_append_left _ seen)
      · simp only [List.map_cons, List.append_assoc, List.singleton_append]
    · rintro ⟨_, entries, distinct, fresh, rfl⟩
      cases entries with
      | @cons _ pair _ pairs entry entries =>
        obtain ⟨once, distinct⟩ := List.nodup_cons.mp distinct
        refine ⟨_, ⟨pair, entry, fresh pair List.mem_cons_self, rfl⟩, pairs,
          entries, distinct, ?_, ?_⟩
        · intro other listed seen
          rcases List.mem_append.mp seen with old | new
          · exact fresh other (List.mem_cons_of_mem _ listed) old
          · exact once (List.mem_singleton.mp new ▸ listed)
        · simp only [List.map_cons, List.append_assoc, List.singleton_append]

/-- The configuration loads exactly when it lists pairs of the accepted grammar,
and then as these pairs in order. -/
theorem loadConfig_ok {source : Value} {config : AppConfig} : loadConfig repr source = .ok config ↔
    ∃ pairs, Lists AcceptedName AcceptedRegion source pairs ∧ config = ⟨pairs.map bucketOf⟩ := by
  constructor
  · intro loaded
    cases source with
    | null | str text | list items | other typeName => simp [loadConfig] at loaded
    | dict members =>
      rw [loadConfig] at loaded
      split at loaded
      · cases loaded
      · rename_i rawBuckets found
        split at loaded
        · cases loaded
        · rename_i some
          split at loaded
          · cases loaded
          · rename_i within
            cases all : loadEntries repr ⟨[], []⟩ 0 rawBuckets with
            | error error => rw [all] at loaded; cases loaded
            | ok next =>
              rw [all] at loaded
              obtain ⟨pairs, entries, distinct, _, rfl⟩ := loadEntries_ok.mp all
              have length := entries.length_eq
              refine ⟨pairs, ⟨⟨members, rawBuckets, rfl, found, entries⟩, ?_, distinct⟩, ?_⟩
              · omega
              · exact (Except.ok.inj loaded).symm
      · cases loaded
  · rintro ⟨pairs, ⟨⟨members, rawBuckets, rfl, found, entries⟩, bounds, distinct⟩, rfl⟩
    have length := entries.length_eq
    have all : loadEntries repr ⟨[], []⟩ 0 rawBuckets = .ok ⟨pairs.map bucketOf, pairs⟩ :=
      loadEntries_ok.mpr ⟨pairs, entries, distinct, by simp, by simp⟩
    have some : ¬ rawBuckets.length = 0 := by omega
    have within : ¬ maxBuckets < rawBuckets.length := by omega
    simp only [loadConfig, found, some, within, if_false, all, Except.map]

end Acceptance
end ReplicateOnTag.ConfigLoader

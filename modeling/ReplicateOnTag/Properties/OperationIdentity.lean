import ReplicateOnTag.Library.CanonicalText
import ReplicateOnTag.Adapters.ItemKeys

/-! The text identities of operations and items tell apart what they name. -/
namespace ReplicateOnTag.TaggingOperation
open CanonicalJson

section Digest

/-- `hashlib.sha256(tag_repr).hexdigest()[:16]`. -/
def truncatedDigest (text : String) : String :=
  String.ofList ((Sha256.hexdigest text).toList.take 16)

theorem digest_eq (op : TaggingOperation) : op.digest = truncatedDigest op.tagRepr := rfl

theorem hexDigit_ne_separator (n : Nat) : Sha256.hexDigit n ≠ '\x00' := by
  by_cases small : n < 16
  · have all : ∀ n : Fin 16, Sha256.hexDigit n ≠ '\x00' := by decide
    exact all ⟨n, small⟩
  · have past : "0123456789abcdef".toList.length ≤ n := Nat.le_of_not_lt small
    rw [Sha256.hexDigit, List.getD_eq_getElem?_getD, List.getElem?_eq_none past]
    decide

theorem digest_plain (op : TaggingOperation) : '\x00' ∉ op.digest.toList := by
  intro member
  have hex := List.mem_of_mem_take (String.toList_ofList ▸ member)
  simp only [Sha256.hexdigest, String.toList_ofList, List.mem_flatMap, Sha256.hexWord,
    List.mem_map] at hex
  obtain ⟨_, _, n, _, same⟩ := hex
  exact hexDigit_ne_separator _ same

end Digest

section Identity
variable {first second : TaggingOperation}

/-- What S3 promises of a record: no separator in the bucket name or the
version, and no version that reads as the null version. -/
structure Plain (op : TaggingOperation) : Prop where
  bucket : '\x00' ∉ op.sourceBucket.toList
  version : ∀ version, op.operationVersion = some version →
    '\x00' ∉ version.toList ∧ version ≠ nullVersion

/-- Tag maps as maps; a missing one equals none but itself. -/
def SameTags : Option TagSet → Option TagSet → Prop
  | none, none => True
  | some tags, some others => ∀ name, tags.get? name = others.get? name
  | _, _ => False

theorem tagRepr_eq_iff : first.tagRepr = second.tagRepr ↔
    SameTags first.resultingTagSet second.resultingTagSet := by
  cases mine : first.resultingTagSet with
  | none =>
    cases theirs : second.resultingTagSet with
    | none => simp [tagRepr, mine, theirs, SameTags]
    | some others => simpa [tagRepr, mine, theirs, SameTags] using (dumps_ne_null others).symm
  | some tags =>
    cases theirs : second.resultingTagSet with
    | none => simpa [tagRepr, mine, theirs, SameTags] using dumps_ne_null tags
    | some others => simpa [tagRepr, mine, theirs, SameTags] using dumps_eq_iff

theorem toList_logicalOperationId (op : TaggingOperation) : op.logicalOperationId.toList =
    op.sourceBucket.toList ++ '\x00' :: (op.objectKey.toList ++ '\x00' ::
      ((op.operationVersion.getD nullVersion).toList ++ '\x00' :: op.digest.toList)) := by
  have joined : op.logicalOperationId = op.sourceBucket ++ "\x00" ++ op.objectKey ++ "\x00" ++
      op.operationVersion.getD nullVersion ++ "\x00" ++ op.digest := rfl
  have separator : "\x00".toList = ['\x00'] := rfl
  simp only [joined, String.toList_append, separator, List.append_assoc, List.cons_append,
    List.nil_append]

/-- Texts with the same first separator have the same parts. -/
theorem split_first {left right rest more : List Char}
    (same : left ++ c :: rest = right ++ c :: more)
    (plain : c ∉ left) (plain' : c ∉ right) : left = right ∧ rest = more := by
  have turned : rest.reverse ++ c :: left.reverse = more.reverse ++ c :: right.reverse := by
    simpa using congrArg List.reverse same
  obtain ⟨rests, lefts⟩ := StateStore.split_last turned (by simpa using plain)
    (by simpa using plain')
  exact ⟨List.reverse_inj.mp lefts, List.reverse_inj.mp rests⟩

theorem version_injective (plain : Plain first) (plain' : Plain second)
    (same : first.operationVersion.getD nullVersion = second.operationVersion.getD nullVersion) :
    first.operationVersion = second.operationVersion := by
  cases mine : first.operationVersion with
  | none =>
    cases theirs : second.operationVersion with
    | none => rfl
    | some version =>
      rw [mine, theirs] at same
      exact absurd same.symm (plain'.version version theirs).2
  | some version =>
    cases theirs : second.operationVersion with
    | none =>
      rw [mine, theirs] at same
      exact absurd same (plain.version version mine).2
    | some other =>
      rw [mine, theirs] at same
      exact congrArg some same

theorem version_plain (plain : Plain first) :
    '\x00' ∉ (first.operationVersion.getD nullVersion).toList := by
  cases mine : first.operationVersion with
  | none => decide
  | some version => exact (plain.version version mine).1

/-- The parts of an identity are read off its ends; the key may be any text. -/
theorem parts_of_identity (plain : Plain first) (plain' : Plain second)
    (same : first.logicalOperationId = second.logicalOperationId) :
    first.sourceBucket = second.sourceBucket ∧ first.objectKey = second.objectKey ∧
      first.operationVersion = second.operationVersion ∧ first.digest = second.digest := by
  have texts := congrArg String.toList same
  rw [toList_logicalOperationId, toList_logicalOperationId] at texts
  obtain ⟨bucket, rest⟩ := split_first texts plain.bucket plain'.bucket
  have regrouped : (first.objectKey.toList ++ '\x00' ::
      (first.operationVersion.getD nullVersion).toList) ++
      '\x00' :: first.digest.toList =
        (second.objectKey.toList ++ '\x00' :: (second.operationVersion.getD nullVersion).toList) ++
          '\x00' :: second.digest.toList := by
    simpa only [List.append_assoc, List.cons_append] using rest
  obtain ⟨front, digest⟩ :=
    StateStore.split_last regrouped (digest_plain first) (digest_plain second)
  obtain ⟨key, version⟩ := StateStore.split_last front (version_plain plain) (version_plain plain')
  exact ⟨String.toList_inj.mp bucket, String.toList_inj.mp key,
    version_injective plain plain' (String.toList_inj.mp version), String.toList_inj.mp digest⟩

/-- On texts the truncated digest tells apart, identities are equal exactly for
operations of one object version with one tag map. Item keys are equal exactly
for one object version. -/
theorem identities_injective (texts : Set String) (collisionFree : texts.InjOn truncatedDigest) :
    (∀ first second : TaggingOperation, Plain first → Plain second → first.tagRepr ∈ texts →
      second.tagRepr ∈ texts →
      (first.logicalOperationId = second.logicalOperationId ↔
        first.sourceBucket = second.sourceBucket ∧ first.objectKey = second.objectKey ∧
          first.operationVersion = second.operationVersion ∧
          SameTags first.resultingTagSet second.resultingTagSet)) ∧
    ∀ (objectKey otherKey : String) (versionId other : Option String),
      StateStore.PlainVersion versionId → StateStore.PlainVersion other →
      (StateStore.itemKey objectKey versionId = StateStore.itemKey otherKey other ↔
        (objectKey, versionId) = (otherKey, other)) := by
  constructor
  · intro first second plain plain' member member'
    constructor
    · intro same
      obtain ⟨bucket, key, version, digest⟩ := parts_of_identity plain plain' same
      exact ⟨bucket, key, version, tagRepr_eq_iff.mp (collisionFree member member' digest)⟩
    · rintro ⟨bucket, key, version, tags⟩
      rw [logicalOperationId, logicalOperationId, bucket, key, version, digest_eq, digest_eq,
        tagRepr_eq_iff.mpr tags]
  · intro objectKey otherKey versionId other plain plain'
    constructor
    · intro same
      obtain ⟨keys, versions⟩ := StateStore.itemKey_injective plain plain' same
      exact Prod.ext keys versions
    · intro same
      obtain ⟨rfl, rfl⟩ := Prod.mk.inj same
      rfl

/-- A version tagged with the same two tags, given in either order and at another time. -/
def taggedTwice (tags : TagSet) (sequenceNumber : String)
    (eventTime : Instant) : TaggingOperation where
  sourceBucket := "b"
  objectKey := "k\x00v"
  resultingTagSet := some tags
  sequenceNumber := sequenceNumber
  eventTime := eventTime
  operationVersion := some "v"
  lastModified := none
  storageClass := none

def teamThenStage : TagSet := (Dict.empty.insert "team" "a").insert "stage" "prod"

def stageThenTeam : TagSet := (Dict.empty.insert "stage" "prod").insert "team" "a"

def teamOnly : TagSet := Dict.empty.insert "team" "a"

/-- Two tag maps apart, and one of them given in either order. -/
theorem identities_injective_two_tags :
    (taggedTwice teamThenStage "1" 5).logicalOperationId =
    (taggedTwice stageThenTeam "2" 9).logicalOperationId ∧
      (taggedTwice teamThenStage "1" 5).logicalOperationId ≠
        (taggedTwice teamOnly "1" 5).logicalOperationId ∧
      StateStore.itemKey "k" (some "v") ≠ StateStore.itemKey "k" none := by
  let texts : Set String :=
    {(taggedTwice teamThenStage "1" 5).tagRepr, (taggedTwice teamOnly "1" 5).tagRepr}
  have apart : truncatedDigest (taggedTwice teamThenStage "1" 5).tagRepr ≠
      truncatedDigest (taggedTwice teamOnly "1" 5).tagRepr := by decide +kernel
  have told : texts.InjOn truncatedDigest := Set.injOn_pair.mpr fun same => absurd same apart
  have plain (tags : TagSet) (sequenceNumber : String) (eventTime : Instant) :
      Plain (taggedTwice tags sequenceNumber eventTime) :=
    ⟨by simp [taggedTwice], by simp [taggedTwice, nullVersion]⟩
  have reordered : (taggedTwice stageThenTeam "2" 9).tagRepr =
      (taggedTwice teamThenStage "1" 5).tagRepr := by
    decide +kernel
  obtain ⟨operations, items⟩ := identities_injective texts told
  refine ⟨?_, ?_, ?_⟩
  · refine (operations _ _ (plain _ _ _) (plain _ _ _) (.inl rfl)
      (.inl reordered)).mpr ⟨rfl, rfl, rfl, ?_⟩
    exact tagRepr_eq_iff.mp reordered.symm
  · intro same
    obtain ⟨_, _, _, tags⟩ :=
      (operations _ _ (plain _ _ _) (plain _ _ _) (.inl rfl) (.inr rfl)).mp same
    exact apart (congrArg truncatedDigest (tagRepr_eq_iff.mpr tags))
  · intro same
    cases (items "k" "k" (some "v") none (by decide) (by decide)).mp same

end Identity
end ReplicateOnTag.TaggingOperation

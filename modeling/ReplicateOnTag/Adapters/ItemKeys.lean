import ReplicateOnTag.Adapters.CompletionState

/-! The text keys under which items and their enrichment are stored tell object
versions apart. -/
namespace ReplicateOnTag.StateStore

/-- A version id as S3 issues them; neither the separator nor the null-version
sentinel occurs in one. -/
def PlainVersion (versionId : Option String) : Prop :=
  ∀ version, versionId = some version → '\x00' ∉ version.toList ∧ version ≠ nullVersionSentinel

instance (versionId : Option String) : Decidable (PlainVersion versionId) :=
  match versionId with
  | none => isTrue nofun
  | some version =>
    decidable_of_iff ('\x00' ∉ version.toList ∧ version ≠ nullVersionSentinel)
      ⟨fun plain _ same => Option.some.inj same ▸ plain, fun plain => plain version rfl⟩

/-- Texts with the same last separator have the same parts. -/
theorem split_last {left right first second : List Char}
    (same : left ++ c :: first = right ++ c :: second)
    (firstPlain : c ∉ first) (secondPlain : c ∉ second) : left = right ∧ first = second := by
  rcases List.append_eq_append_iff.mp same with ⟨extra, rfl, rest⟩ | ⟨extra, rfl, rest⟩
  · cases extra with
    | nil => simpa using rest
    | cons head tail =>
      obtain ⟨rfl, rfl⟩ := List.cons.inj rest
      simp at firstPlain
  · cases extra with
    | nil => simpa [eq_comm] using rest
    | cons head tail =>
      obtain ⟨rfl, rfl⟩ := List.cons.inj rest
      simp at secondPlain

theorem encoded_plain (plain : PlainVersion versionId) :
    '\x00' ∉ (versionId.getD nullVersionSentinel).toList := by
  cases versionId with
  | none => decide
  | some version => exact (plain version rfl).1

theorem encoded_injective (first : PlainVersion versionId) (second : PlainVersion other)
    (same : versionId.getD nullVersionSentinel = other.getD nullVersionSentinel) :
    versionId = other := by
  cases versionId with
  | none =>
    cases other with
    | none => rfl
    | some version => exact absurd same.symm (second version rfl).2
  | some version =>
    cases other with
    | none => exact absurd same (first version rfl).2
    | some given => exact congrArg some same

/-- Item keys tell object versions apart. -/
theorem itemKey_injective (first : PlainVersion versionId) (second : PlainVersion other)
    (same : itemKey objectKey versionId = itemKey otherKey other) :
    objectKey = otherKey ∧ versionId = other := by
  have texts := congrArg String.toList same
  simp only [itemKey, String.toList_append] at texts
  have separated : "\x00".toList = ['\x00'] := rfl
  simp only [separated, List.append_assoc, List.singleton_append] at texts
  obtain ⟨keys, versions⟩ := split_last texts (encoded_plain first) (encoded_plain second)
  exact ⟨String.toList_inj.mp keys, encoded_injective first second (String.toList_inj.mp versions)⟩

end ReplicateOnTag.StateStore

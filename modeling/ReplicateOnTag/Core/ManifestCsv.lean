import ReplicateOnTag.Core.Models
import ReplicateOnTag.Library.PercentEncoding
import Mathlib.Data.List.TakeWhile

/-! The manifest as text, one row for each entry, and the way back. -/
namespace ReplicateOnTag.ManifestCsv
open PercentEncoding

section Rows

/-- `NULL_VERSION_TOKENS`. -/
def nullVersionTokens : List String := ["", "null", "\\N"]

def normalizeVersionId (raw : String) : Option String :=
  if raw ∈ nullVersionTokens then none else some raw

/-- The key as it stands in a row. -/
def encodedKey (objectKey : String) : String := quote ['/'] objectKey

def toCsvRow (entry : ManifestEntry) : String :=
  entry.sourceBucket ++ "," ++ encodedKey entry.objectKey ++ "," ++ entry.versionId.getD "null"

/-- What stands before and after the first separator. -/
def partition (separator : Char) (text : List Char) : List Char × List Char :=
  (text.takeWhile (· ≠ separator), (text.dropWhile (· ≠ separator)).drop 1)

/-- What stands before and after the last separator; all of it after where there is none. -/
def rpartition (separator : Char) (text : List Char) : List Char × List Char :=
  let (after, before) := partition separator text.reverse
  (before.reverse, after.reverse)

def fromVersionedCsvRow (row : String) : ManifestEntry :=
  let (remainder, versionIdRaw) := rpartition ',' row.toList
  let (bucket, key) := partition ',' remainder
  ⟨String.ofList bucket, unquote (String.ofList key),
    normalizeVersionId (String.ofList versionIdRaw)⟩

def lineBoundaries : List Char :=
  ['\n', '\r', '\x0b', '\x0c', '\x1c', '\x1d', '\x1e', '\x85', '\u2028', '\u2029']

/-- `str.splitlines`: no empty line follows a final boundary. -/
def splitlines : List Char → List (List Char)
  | [] => []
  | '\r' :: '\n' :: rest => [] :: splitlines rest
  | c :: rest =>
      if c ∈ lineBoundaries then [] :: splitlines rest
      else
        match splitlines rest with
        | [] => [[c]]
        | line :: more => (c :: line) :: more

def serialize (entries : List ManifestEntry) : String := "\n".intercalate (entries.map toCsvRow)

def deserialize (csvContent : String) : List ManifestEntry :=
  if csvContent = "" then []
  else (splitlines csvContent.toList).map fun row => fromVersionedCsvRow (String.ofList row)

/-- An entry whose bucket and version are plain text; the key is arbitrary. -/
structure Outbound (entry : ManifestEntry) : Prop where
  bucket : ∀ c ∈ entry.sourceBucket.toList, c ≠ ',' ∧ c ∉ lineBoundaries
  version : ∀ version, entry.versionId = some version →
    version ∉ nullVersionTokens ∧ ∀ c ∈ version.toList, c ≠ ',' ∧ c ∉ lineBoundaries

end Rows

section RoundTrip

theorem partition_append (plain : separator ∉ left) :
    partition separator (left ++ separator :: right) = (left, right) := by
  have keeps : ∀ c ∈ left, decide (c ≠ separator) = true := fun c member =>
    decide_eq_true fun same => plain (same ▸ member)
  rw [partition, List.takeWhile_append_of_pos keeps, List.dropWhile_append_of_pos keeps]
  simp

theorem rpartition_append (plain : separator ∉ right) :
    rpartition separator (left ++ separator :: right) = (left, right) := by
  have reversed : (left ++ separator :: right).reverse = right.reverse ++
      separator :: left.reverse := by
    simp
  have absent : separator ∉ right.reverse := fun member => plain (List.mem_reverse.mp member)
  rw [rpartition, reversed, partition_append absent]
  simp

theorem encodedKey_plain (member : c ∈ (encodedKey objectKey).toList) : c ≠ ',' ∧
    c ∉ lineBoundaries := by
  obtain ⟨_, consists⟩ := mem_quote member
  have unreserved : ∀ c, isUnreserved c → c ≠ ',' ∧ c ∉ lineBoundaries := by
    intro c own
    constructor
    · rintro rfl
      cases own
    · intro listed
      simp only [lineBoundaries, List.mem_cons, List.not_mem_nil, or_false] at listed
      rcases listed with rfl | rfl | rfl | rfl | rfl | rfl | rfl | rfl | rfl | rfl <;> cases own
  rcases consists with own | safe | rfl
  · exact unreserved c own
  · rw [List.mem_singleton.mp safe]
    decide
  · decide

variable {entry : ManifestEntry}

theorem version_plain (outbound : Outbound entry)
    (member : c ∈ (entry.versionId.getD "null").toList) :
    c ≠ ',' ∧ c ∉ lineBoundaries := by
  cases given : entry.versionId with
  | none =>
    rw [given] at member
    have plain : "null".toList.all fun c => decide (c ≠ ',' ∧ c ∉ lineBoundaries) := by decide
    exact of_decide_eq_true (List.all_eq_true.mp plain c member)
  | some version =>
    rw [given] at member
    exact (outbound.version version given).2 c member

theorem normalizeVersionId_getD (outbound : Outbound entry) :
    normalizeVersionId (entry.versionId.getD "null") = entry.versionId := by
  cases given : entry.versionId with
  | none => rfl
  | some version => exact if_neg (outbound.version version given).1

theorem toList_toCsvRow (entry : ManifestEntry) :
    (toCsvRow entry).toList =
    (entry.sourceBucket.toList ++ ',' :: (encodedKey entry.objectKey).toList) ++
      ',' :: (entry.versionId.getD "null").toList := by
  simp [toCsvRow]

/-- A row is read as the entry it was written for. -/
theorem fromVersionedCsvRow_toCsvRow (outbound : Outbound entry) :
    fromVersionedCsvRow (toCsvRow entry) = entry := by
  have version : ',' ∉ (entry.versionId.getD "null").toList := fun member =>
    (version_plain outbound member).1 rfl
  have bucket : ',' ∉ entry.sourceBucket.toList := fun member => (outbound.bucket _ member).1 rfl
  simp only [fromVersionedCsvRow, toList_toCsvRow, rpartition_append version,
    partition_append bucket, String.ofList_toList, normalizeVersionId_getD outbound]
  rw [encodedKey, unquote_quote (by decide)]

theorem toCsvRow_plain (outbound : Outbound entry) : ∀ c ∈ (toCsvRow entry).toList,
    c ∉ lineBoundaries := by
  intro c member
  rw [toList_toCsvRow] at member
  simp only [List.mem_append, List.mem_cons] at member
  rcases member with (own | rfl | key) | rfl | version
  · exact (outbound.bucket c own).2
  · decide
  · exact (encodedKey_plain key).2
  · decide
  · exact (version_plain outbound version).2

theorem splitlines_plain (plain : c ∉ lineBoundaries) (rest : List Char) :
    splitlines (c :: rest) =
      match splitlines rest with
      | [] => [[c]]
      | line :: more => (c :: line) :: more := by
  rw [splitlines, if_neg plain]
  rintro _ rfl
  simp [lineBoundaries] at plain

theorem splitlines_line (line rest : List Char) (plain : ∀ c ∈ line, c ∉ lineBoundaries) :
    splitlines (line ++ '\n' :: rest) = line :: splitlines rest := by
  induction line with
  | nil => simp [splitlines, lineBoundaries]
  | cons c line ih =>
    rw [List.cons_append, splitlines_plain (plain c List.mem_cons_self),
      ih fun d member => plain d (List.mem_cons_of_mem _ member)]

theorem splitlines_last (line : List Char) (some : line ≠ [])
    (plain : ∀ c ∈ line, c ∉ lineBoundaries) :
    splitlines line = [line] := by
  induction line with
  | nil => exact absurd rfl some
  | cons c line ih =>
    rw [splitlines_plain (plain c List.mem_cons_self)]
    cases line with
    | nil => rfl
    | cons d rest => rw [ih (by simp) fun d member => plain d (List.mem_cons_of_mem _ member)]

theorem splitlines_intercalate (lines : List (List Char)) (some : ∀ line ∈ lines, line ≠ [])
    (plain : ∀ line ∈ lines, ∀ c ∈ line, c ∉ lineBoundaries) :
    splitlines (['\n'].intercalate lines) = lines := by
  induction lines with
  | nil => rfl
  | cons line rest ih =>
    have first := plain line List.mem_cons_self
    cases rest with
    | nil =>
      rw [List.intercalate_singleton]
      exact splitlines_last line (some line List.mem_cons_self) first
    | cons next more =>
      rw [List.intercalate_cons_cons, List.append_assoc, List.singleton_append,
        splitlines_line line _ first,
        ih (fun other member => some other (List.mem_cons_of_mem _ member))
          fun other member => plain other (List.mem_cons_of_mem _ member)]

/-- A serialized manifest is read back unchanged. -/
theorem deserialize_serialize (entries : List ManifestEntry)
    (outbound : ∀ entry ∈ entries, Outbound entry) :
    deserialize (serialize entries) = entries := by
  let lines := entries.map fun entry => (toCsvRow entry).toList
  have chars : (serialize entries).toList = ['\n'].intercalate lines := by
    rw [serialize, String.toList_intercalate, List.map_map]
    rfl
  have filled : ∀ line ∈ lines, line ≠ [] := by
    intro line member
    obtain ⟨entry, _, rfl⟩ := List.mem_map.mp member
    simp [toList_toCsvRow]
  have plain : ∀ line ∈ lines, ∀ c ∈ line, c ∉ lineBoundaries := by
    intro line member
    obtain ⟨entry, listed, rfl⟩ := List.mem_map.mp member
    exact toCsvRow_plain (outbound entry listed)
  have split : splitlines (serialize entries).toList = lines := by
    rw [chars, splitlines_intercalate lines filled plain]
  have decoded : (splitlines (serialize entries).toList).map (fun row =>
      fromVersionedCsvRow (String.ofList row)) =
      entries := by
    rw [split, List.map_map]
    refine (List.map_congr_left fun entry member => ?_).trans (List.map_id _)
    simp only [Function.comp, String.ofList_toList]
    exact fromVersionedCsvRow_toCsvRow (outbound entry member)
  rw [deserialize]
  split
  · rename_i empty
    rw [empty] at decoded
    exact decoded
  · exact decoded

end RoundTrip
end ReplicateOnTag.ManifestCsv

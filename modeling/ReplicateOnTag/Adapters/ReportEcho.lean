import ReplicateOnTag.Adapters.IntactReport

/-! A completion report whose rows repeat the objects of a manifest, and what is read of it. -/
namespace ReplicateOnTag.BopsReport
open ManifestCsv PercentEncoding ReportReader

section Columns
variable {column first second : String}

/-- Three digits, as far as `str.isdigit` can tell. -/
def ThreeDigits (column : String) : Prop :=
  (WhiteSpace.strip column.toList).length = 3 ∧
    (WhiteSpace.strip column.toList).all UnicodeDigits.isDigit

/-- `int` takes what looks like three digits; it refuses superscripts and the like. -/
def Numeric (column : String) : Prop :=
  ThreeDigits column → (WhiteSpace.strip column.toList).all UnicodeDigits.isDecimal

theorem looksLikeHttpStatus_of_numeric (numeric : Numeric column) : ∃ looks,
    looksLikeHttpStatus column = .ok looks := by
  by_cases three : ThreeDigits column
  · obtain ⟨status, read⟩ := UnicodeDigits.readDecimal_of_isDecimal (numeric three)
    rw [ThreeDigits] at three
    rw [looksLikeHttpStatus, if_pos three, read]
    exact ⟨_, rfl⟩
  · exact ⟨false, if_neg three⟩

/-- The columns are told apart when those that are looked at are numeric. -/
theorem resolveStatusAndError_of_numeric (numeric : Numeric second)
    (looked : looksLikeHttpStatus second = .ok true → Numeric first) :
    ∃ resolved, resolveStatusAndError first second = .ok resolved := by
  rw [resolveStatusAndError]
  obtain ⟨looks, seen⟩ := looksLikeHttpStatus_of_numeric numeric
  rw [seen]
  cases looks with
  | false => exact ⟨_, rfl⟩
  | true =>
    obtain ⟨looksToo, seenToo⟩ := looksLikeHttpStatus_of_numeric (looked seen)
    rw [seenToo]
    exact ⟨_, rfl⟩

end Columns

section Echo

/-- The columns of a report row that the manifest does not fix. -/
structure Columns where
  bucket : String
  version : String
  taskStatus : String
  first : String
  second : String
  resultMessage : String

def Columns.fields (columns : Columns) (entry : ManifestEntry) : List Csv.Field :=
  [columns.bucket.toList, (encodedKey entry.objectKey).toList, columns.version.toList,
    columns.taskStatus.toList, columns.first.toList, columns.second.toList,
      columns.resultMessage.toList]

/-- The version column repeats the version; a null version has several spellings. -/
def Spells (raw : String) : Option String → Prop
  | some version => raw = version
  | none => raw ∈ nullVersionTokens

/-- A report row for an entry: it names a bucket, repeats the encoded key, and
has columns that the reader takes for a status or not, none above its limit. -/
structure Echoes (entry : ManifestEntry) (columns : Columns) : Prop where
  bucket : columns.bucket ≠ ""
  version : Spells columns.version entry.versionId
  second : Numeric columns.second
  first : looksLikeHttpStatus columns.second = .ok true → Numeric columns.first
  fits : ∀ field ∈ columns.fields entry, field.length ≤ fieldSizeLimit

/-- A text with one well quoted row for each entry. -/
def EchoesReport (entries : List ManifestEntry) (csvText : String) : Prop :=
  ∃ rows, List.Forall₂ (fun entry row => ∃ columns, Echoes entry columns ∧
    row = columns.fields entry)
    entries rows ∧ Csv.WritesRows rows csvText.toList

variable {entry : ManifestEntry} {entries : List ManifestEntry}

theorem normalizeVersionId_spells (outbound : Outbound entry)
    (spells : Spells raw entry.versionId) :
    normalizeVersionId raw = entry.versionId := by
  cases given : entry.versionId with
  | none =>
    rw [given] at spells
    exact if_pos spells
  | some version =>
    rw [given] at spells
    rw [show raw = version from spells]
    exact if_neg (outbound.version version given).1

/-- Seven fields are read as the row of them. -/
theorem readsAs_fields {bucket encodedKey version taskStatus first second message : Csv.Field}
    (named : bucket ≠ []) (keyed : encodedKey ≠ [])
    (assigned : resolveStatusAndError (String.ofList first) (String.ofList second) =
      .ok (httpStatus, errorCode)) :
    ReadsAs [bucket, encodedKey, version, taskStatus, first, second, message]
      (Row.entry ⟨bucket, encodedKey, version, taskStatus, first, second, message⟩ httpStatus
        errorCode) := by
  refine ⟨⟨bucket, encodedKey, version, taskStatus, first, second, message⟩, rfl, named, keyed,
    httpStatus, errorCode, ?_, rfl⟩
  exact assigned

/-- A row is read as an entry of the identity it echoes. -/
theorem reads_echo (outbound : Outbound entry) (key : entry.objectKey ≠ "")
    (echoes : Echoes entry columns) :
    ∃ parsed, ReadsAs (columns.fields entry) parsed ∧ parsed.objectKey = entry.objectKey ∧
      parsed.versionId = entry.versionId := by
  have bucket : columns.bucket.toList ≠ [] := by
    intro empty
    exact echoes.bucket (String.toList_inj.mp empty)
  have encoded : (encodedKey entry.objectKey).toList ≠ [] := by
    intro empty
    exact quote_ne_empty key (String.toList_inj.mp empty)
  obtain ⟨⟨httpStatus, errorCode⟩, assigned⟩ :=
    resolveStatusAndError_of_numeric echoes.second echoes.first
  have resolved : resolveStatusAndError (String.ofList columns.first.toList)
      (String.ofList columns.second.toList) = .ok (httpStatus, errorCode) := by
    rw [String.ofList_toList, String.ofList_toList, assigned]
  refine ⟨_, readsAs_fields bucket encoded resolved, ?_, ?_⟩
  · simp only [Row.entry, String.ofList_toList]
    exact unquote_quote (by decide) entry.objectKey
  · simp only [Row.entry, String.ofList_toList]
    exact normalizeVersionId_spells outbound echoes.version

/-- The text of a report that echoes a manifest is readable, and its records are the echoes. -/
theorem records_echo (echo : EchoesReport entries csvText) :
    ∃ records, Csv.reader fieldSizeLimit csvText.toList = some records ∧
      List.Forall₂ (fun entry row => ∃ columns, Echoes entry columns ∧
        row = columns.fields entry) entries
        (records.filter (· ≠ [])) := by
  obtain ⟨rows, echoes, written⟩ := echo
  have fits : ∀ row ∈ rows, ∀ field ∈ row, field.length ≤ fieldSizeLimit := by
    clear written
    induction echoes with
    | nil => simp
    | cons first _ ih =>
      obtain ⟨columns, echoes, rfl⟩ := first
      intro row member
      rcases List.mem_cons.mp member with rfl | later
      · exact echoes.fits
      · exact ih row later
  obtain ⟨records, read, same⟩ := Csv.reader_rows written fits
  exact ⟨records, read, same ▸ echoes⟩

/-- A report that echoes the rows of a manifest is parsed, and names its objects. -/
theorem parse_echo (outbound : ∀ entry ∈ entries, Outbound entry)
    (keys : ∀ entry ∈ entries, entry.objectKey ≠ "") (echo : EchoesReport entries csvText) :
    ∃ parsed, parseReportCsv csvText.toList = .ok parsed ∧
      parsed.map (fun entry => (entry.objectKey, entry.versionId)) =
        entries.map fun entry => (entry.objectKey, entry.versionId) := by
  obtain ⟨records, read, echoes⟩ := records_echo echo
  have reads : ∃ parsed, List.Forall₂ ReadsAs (records.filter (· ≠ [])) parsed ∧
      parsed.map (fun entry => (entry.objectKey, entry.versionId)) =
        entries.map fun entry => (entry.objectKey, entry.versionId) := by
    clear read echo
    generalize records.filter (· ≠ []) = rows at echoes
    induction echoes with
    | nil => exact ⟨[], .nil, rfl⟩
    | cons first _ ih =>
      obtain ⟨columns, echoes, rfl⟩ := first
      obtain ⟨entry, own, key, version⟩ :=
        reads_echo (outbound _ List.mem_cons_self) (keys _ List.mem_cons_self) echoes
      obtain ⟨parsed, others, same⟩ :=
        ih (fun entry member => outbound entry (List.mem_cons_of_mem _ member))
        fun entry member => keys entry (List.mem_cons_of_mem _ member)
      refine ⟨entry :: parsed, .cons own others, ?_⟩
      rw [List.map_cons, List.map_cons, key, version, same]
  obtain ⟨parsed, reads, same⟩ := reads
  exact ⟨parsed, parseReportCsv_ok.mpr ⟨records, read, reads⟩, same⟩

end Echo
end ReplicateOnTag.BopsReport

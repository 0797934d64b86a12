import ReplicateOnTag.Adapters.ReportReader

/-! What makes a report intact: a manifest of the known format, listed objects that
match their checksums, and rows that are well formed, as many as expected and of
distinct objects. Exactly the intact reports are read. -/
namespace ReplicateOnTag.ReportReader
open FirstFailure PercentEncoding
open Json (Members get)

section Objects
variable {source : Source} {body : List UInt8} {key checksum : String}

/-- The object under the key has this body. -/
def Stores (source : Source) (key : String) (body : List UInt8) : Prop :=
  source.getObject key = .body body

/-- The declared checksum is the MD5 of the body in one of its two forms. -/
def Matches (body : List UInt8) (checksum : String) : Prop :=
  checksum = hexdigest body ∨ checksum = base64digest body

theorem getObjectBody_ok : getObjectBody source key = .ok body ↔ Stores source key body := by
  rw [getObjectBody, Stores]
  cases source.getObject key with
  | body bytes => rw [Except.ok.injEq, GetReply.body.injEq]
  | clientError code =>
    simp only [reduceCtorEq, iff_false]
    split <;> simp only [reduceCtorEq, not_false_eq_true]
  | noBody | notBytes | raises exception => simp only [reduceCtorEq]

theorem length_hexdigest (body : List UInt8) : (hexdigest body).toList.length =
    Md5.digestSize * 2 := by
  rw [hexdigest, String.toList_ofList, ByteText.length_hex, Md5.length_digest, Nat.mul_comm]

theorem length_base64digest (body : List UInt8) : (base64digest body).toList.length = 24 := by
  rw [base64digest, String.toList_ofList, ByteText.length_b64encode, Md5.length_digest]
  rfl

theorem verifyMd5_ok {done : Unit} : verifyMd5 body checksum key = .ok done ↔
    Matches body checksum := by
  have hex := length_hexdigest body
  have base64 := length_base64digest body
  rw [verifyMd5, require_eq_ok, Md5.length_digest, Matches]
  constructor
  · intro same
    split at same
    · exact .inl same.symm
    · exact .inr same.symm
  · rintro (rfl | rfl)
    · rw [if_pos hex]
    · rw [if_neg (base64 ▸ by decide)]

/-- A checksum that matches some body is a valid one. -/
theorem isValidMd5Checksum_of_matches (same : Matches body checksum) :
    isValidMd5Checksum checksum = true := by
  rw [isValidMd5Checksum]
  rcases same with rfl | rfl
  · rw [if_pos (length_hexdigest body), hexdigest, String.toList_ofList, ByteText.fromhex_hex]
    rfl
  · rw [if_neg (length_base64digest body ▸ by decide), base64digest, String.toList_ofList,
      ByteText.b64decode_b64encode]
    exact decide_eq_true (Md5.length_digest body)

end Objects

section Manifest
variable {source : Source} {manifest : Members}

/-- The body is the text of a JSON object. -/
def IsManifest (body : List UInt8) (manifest : Members) : Prop :=
  ∃ text, utf8 text = body ∧ Json.loads (String.ofList text) = some (.object manifest)

/-- A result descriptor names the key of an object and declares a checksum. -/
def Describes (value : Json) (result : String × String) : Prop :=
  ∃ members, value = .object members ∧ get members "Key" = .str result.1 ∧ result.1 ≠ "" ∧
    get members "MD5Checksum" = .str result.2

/-- A manifest of the known format and schema, created at a known instant, that
lists these results. -/
structure ValidManifest (source : Source) (manifest : Members) (createdAt : Instant)
    (results : List (String × String)) : Prop where
  format : get manifest "Format" = .str reportFormat
  schema : ∃ schema, get manifest "ReportSchema" = .str schema ∧ schemaColumns schema = reportSchema
  created : ∃ date zoned, get manifest "ReportCreationDate" = .str date ∧
    source.fromisoformat (withoutZulu date) = some zoned ∧ zoned.offset ≠ none ∧
    createdAt = WatermarkText.utcInstant zoned
  results : ∃ listed, get manifest "Results" = .list listed ∧ List.Forall₂ Describes listed results

def ResultDescriptor.pair (result : ResultDescriptor) : String × String :=
  (result.key, result.md5Checksum)

theorem parseManifest_ok : parseManifest body = .ok manifest ↔ IsManifest body manifest := by
  rw [parseManifest, IsManifest]
  constructor
  · intro parsed
    split at parsed
    · cases parsed
    · rename_i read
      cases parsed
      obtain ⟨text, decoded, loaded⟩ := Option.bind_eq_some_iff.mp read
      exact ⟨text, decodeStrict_eq_some_iff.mp decoded, loaded⟩
    · cases parsed
  · rintro ⟨text, decoded, loaded⟩
    simp only [decodeStrict_eq_some_iff.mpr decoded, Option.bind_some, loaded]

theorem isText_iff {expected : String} {value : Json} : isText expected value = true ↔
    value = .str expected := by
  cases value with
  | str text => rw [isText, decide_eq_true_eq, Json.str.injEq]
  | null | bool value | int value | float literal | list items | object members =>
    simp only [isText, Bool.false_eq_true, reduceCtorEq]

theorem checkSchema_ok {done : Unit} : checkSchema manifest = .ok done ↔
    ∃ schema, get manifest "ReportSchema" = .str schema ∧ schemaColumns schema = reportSchema := by
  rw [checkSchema]
  cases get manifest "ReportSchema" with
  | str schema => simp only [require_eq_ok, Json.str.injEq, exists_eq_left']
  | null | bool value | int value | float literal | list items | object members =>
    simp only [reduceCtorEq, false_and, exists_false]

theorem creationDate_ok {createdAt : Instant} : creationDate source manifest = .ok createdAt ↔
    ∃ date zoned, get manifest "ReportCreationDate" = .str date ∧
      source.fromisoformat (withoutZulu date) = some zoned ∧ zoned.offset ≠ none ∧
      createdAt = WatermarkText.utcInstant zoned := by
  rw [creationDate]
  cases get manifest "ReportCreationDate" with
  | str date =>
    simp only [Json.str.injEq]
    cases read : source.fromisoformat (withoutZulu date) with
    | none =>
      simp only [reduceCtorEq, false_iff]
      rintro ⟨_, zoned, rfl, some, _⟩
      rw [read] at some
      cases some
    | some zoned =>
      simp only
      split
      · rename_i naive
        simp only [reduceCtorEq, false_iff]
        rintro ⟨_, other, rfl, same, aware, _⟩
        rw [read] at same
        cases same
        exact aware naive
      · rename_i aware
        rw [Except.ok.injEq]
        constructor
        · rintro rfl
          exact ⟨date, zoned, rfl, read, aware, rfl⟩
        · rintro ⟨_, other, rfl, same, _, rfl⟩
          rw [read] at same
          cases same
          rfl
  | null | bool value | int value | float literal | list items | object members =>
    simp only [reduceCtorEq, false_and, exists_false]

theorem listedResults_ok {listed : List Json} :
    listedResults manifest = .ok listed ↔ get manifest "Results" = .list listed := by
  rw [listedResults]
  cases get manifest "Results" with
  | list results => rw [Except.ok.injEq, Json.list.injEq]
  | null | bool value | int value | float literal | str text | object members =>
      simp only [reduceCtorEq]

theorem validateResult_ok {value : Json} {result : ResultDescriptor} :
    validateResult value = .ok result ↔ Describes value result.pair := by
  constructor
  · intro valid
    unfold validateResult at valid
    split at valid
    · rename_i members
      split at valid
      · rename_i key named
        split at valid
        · cases valid
        · rename_i keyed
          split at valid
          · rename_i checksum declared
            split at valid
            · cases valid
              exact ⟨members, rfl, named, keyed, declared⟩
            · cases valid
          · cases valid
      · cases valid
    · cases valid
  · rintro ⟨members, rfl, named, keyed, declared⟩
    rw [ResultDescriptor.pair] at named declared
    simp only [validateResult, named, declared, dif_neg result.keyed, dif_pos result.checked]

theorem validateManifest_ok {createdAt : Instant} {validated : List ResultDescriptor} :
    validateManifest source manifest = .ok (createdAt, validated) ↔
      ValidManifest source manifest createdAt (validated.map ResultDescriptor.pair) := by
  simp only [validateManifest, bind_eq_ok, map_eq_ok, require_eq_ok, isText_iff, checkSchema_ok,
    creationDate_ok, listedResults_ok, each_eq_ok, validateResult_ok, Prod.mk.injEq]
  constructor
  · rintro ⟨_, format, _, schema, _, created, listed, results, _, described, rfl, rfl⟩
    exact ⟨format, schema, created, listed, results, List.forall₂_map_right_iff.mpr described⟩
  · rintro ⟨format, schema, created, listed, results, described⟩
    exact ⟨(), format, (), schema, createdAt, created, listed, results, validated,
      List.forall₂_map_right_iff.mp described, rfl, rfl⟩

end Manifest

section Rows

/-- The text of a column is three digits of a status code. -/
def LooksLikeStatus (column : Csv.Field) : Prop :=
  looksLikeHttpStatus (String.ofList column) = .ok true

/-- A row of seven columns, bucket and key not empty, is this entry. -/
def ReadsAs (columns : List Csv.Field) (entry : ReportEntry) : Prop :=
  ∃ row : Row, columns = row.columns ∧ row.bucket ≠ [] ∧ row.encodedKey ≠ [] ∧
    ∃ httpStatus errorCode,
    resolveStatusAndError (String.ofList row.first) (String.ofList row.second) =
      .ok (httpStatus, errorCode) ∧
    entry = row.entry httpStatus errorCode

theorem parseRow_columns {row : Row} (bucket : row.bucket ≠ []) (key : row.encodedKey ≠ []) :
    parseRow row.columns = (resolveStatusAndError (String.ofList row.first)
      (String.ofList row.second)).map
      fun resolved => row.entry resolved.1 resolved.2 := by
  simp only [Row.columns, parseRow, bucket, key, or_self, if_false]

theorem parseRow_ok {columns : List Csv.Field} {entry : ReportEntry} :
    parseRow columns = .ok entry ↔ ReadsAs columns entry := by
  constructor
  · intro parsed
    unfold parseRow at parsed
    split at parsed
    · rename_i bucket encodedKey versionIdRaw taskStatus first second resultMessage
      split at parsed
      · cases parsed
      · rename_i filled
        obtain ⟨resolved, assigned, rfl⟩ := map_eq_ok.mp parsed
        exact ⟨⟨bucket, encodedKey, versionIdRaw, taskStatus, first, second, resultMessage⟩, rfl,
          fun empty => filled (.inl empty), fun empty => filled (.inr empty), resolved.1,
            resolved.2, assigned, rfl⟩
    · cases parsed
  · rintro ⟨row, rfl, bucket, key, httpStatus, errorCode, assigned, rfl⟩
    rw [parseRow_columns bucket key, assigned]
    rfl

theorem parseReportCsv_ok {csvText : List Char} {entries : List ReportEntry} :
    parseReportCsv csvText = .ok entries ↔ ∃ rows, Csv.reader fieldSizeLimit csvText = some rows ∧
      List.Forall₂ ReadsAs (rows.filter (· ≠ [])) entries := by
  simp only [parseReportCsv, bind_eq_ok, each_eq_ok, parseRow_ok, Csv.reader_eq_some_iff]
  constructor
  · rintro ⟨_, reads, returned⟩
    split at returned
    · rename_i whole
      cases returned
      exact ⟨_, Prod.ext rfl whole, reads⟩
    · cases returned
  · rintro ⟨rows, read, reads⟩
    rw [read]
    exact ⟨entries, reads, rfl⟩

/-- When exactly one of two columns looks like a status, their order makes no difference. -/
theorem resolveStatusAndError_comm {first second : Csv.Field}
    (one : Xor (LooksLikeStatus first) (LooksLikeStatus second)) :
    resolveStatusAndError (String.ofList first) (String.ofList second) =
      resolveStatusAndError (String.ofList second) (String.ofList first) := by
  have settles : ∀ status other : Csv.Field, LooksLikeStatus status → ¬ LooksLikeStatus other →
      resolveStatusAndError (String.ofList status) (String.ofList other) =
        resolveStatusAndError (String.ofList other) (String.ofList status) := by
    intro status other looks unlike
    rw [LooksLikeStatus] at looks unlike
    simp only [resolveStatusAndError, looks, Except.bind, if_true]
    cases seen : looksLikeHttpStatus (String.ofList other) with
    | error failure => rfl
    | ok looksToo =>
      cases looksToo with
      | false => rfl
      | true => exact absurd seen unlike
  rcases one with ⟨looks, unlike⟩ | ⟨looks, unlike⟩
  · exact settles first second looks unlike
  · exact (settles second first looks unlike).symm

/-- The same holds of whole rows, well formed or not. -/
theorem parseRow_swapped {row : Row}
    (one : Xor (LooksLikeStatus row.first) (LooksLikeStatus row.second)) :
    parseRow row.columns = parseRow row.swapped.columns := by
  simp only [Row.columns, Row.swapped, parseRow, resolveStatusAndError_comm one]
  rfl

example : (parseReportCsv "photos,a%20b,null,failed,404,NoSuchKey,missing\n".toList).toOption =
    (parseReportCsv "photos,a%20b,null,failed,NoSuchKey,404,missing\n".toList).toOption := by
      decide +kernel

end Rows

section Reports
variable {source : Source} {reportPrefix jobId : String} {expected : Int}

/-- The listed object is there, matches its checksum, and is a text of these rows. -/
def Holds (source : Source) (result : String × String) (rows : List (List Csv.Field)) : Prop :=
  ∃ body csvText, Stores source result.1 body ∧ Matches body result.2 ∧ utf8 csvText = body ∧
    Csv.reader fieldSizeLimit csvText = some rows

/-- A complete report: the manifest commits to the listed objects, and the entries
are the rows of all of them in order, blank ones left out. -/
def IntactReport (source : Source) (reportPrefix jobId : String) (expected : Int)
    (report : Report) : Prop :=
  ∃ body manifest results tables, Stores source (manifestKey reportPrefix jobId) body ∧
    IsManifest body manifest ∧
    ValidManifest source manifest report.createdAt results ∧
    List.Forall₂ (Holds source) results tables ∧
    List.Forall₂ ReadsAs (tables.flatten.filter (· ≠ [])) report.entries ∧
    report.entries.length = expected ∧ (report.entries.map identity).Nodup

theorem readResult_ok {result : ResultDescriptor} {entries : List ReportEntry} :
    readResult source result = .ok entries ↔
      ∃ rows, Holds source result.pair rows ∧
        List.Forall₂ ReadsAs (rows.filter (· ≠ [])) entries := by
  simp only [readResult, bind_eq_ok, getObjectBody_ok, verifyMd5_ok]
  constructor
  · rintro ⟨body, stored, _, same, parsed⟩
    split at parsed
    · cases parsed
    · rename_i csvText decoded
      obtain ⟨rows, read, reads⟩ := parseReportCsv_ok.mp parsed
      exact ⟨rows, ⟨body, csvText, stored, same, decodeStrict_eq_some_iff.mp decoded, read⟩, reads⟩
  · rintro ⟨rows, ⟨body, csvText, stored, same, decoded, read⟩, reads⟩
    refine ⟨body, stored, (), same, ?_⟩
    rw [decodeStrict_eq_some_iff.mpr decoded]
    exact parseReportCsv_ok.mpr ⟨rows, read, reads⟩

/-- Reading all listed objects gives the rows of all of them in order. -/
theorem each_readResult_ok {validated : List ResultDescriptor} {entries : List ReportEntry} :
    (∃ parts, each (readResult source) validated = .ok parts ∧ parts.flatten = entries) ↔
      ∃ tables, List.Forall₂ (Holds source) (validated.map ResultDescriptor.pair) tables ∧
        List.Forall₂ ReadsAs (tables.flatten.filter (· ≠ [])) entries := by
  simp only [each_eq_ok, readResult_ok, List.forall₂_map_left_iff, List.filter_flatten,
    forall₂_flatten_iff]
  constructor
  · rintro ⟨parts, all, joined⟩
    have split : ∃ tables, List.Forall₂ (fun result rows =>
        Holds source result.pair rows) validated tables ∧
        List.Forall₂ (fun rows part =>
          List.Forall₂ ReadsAs (rows.filter (· ≠ [])) part) tables parts := by
      clear joined
      induction all with
      | nil => exact ⟨[], .nil, .nil⟩
      | cons own _ ih =>
        obtain ⟨rows, holds, reads⟩ := own
        obtain ⟨tables, others, more⟩ := ih
        exact ⟨rows :: tables, .cons holds others, .cons reads more⟩
    obtain ⟨tables, holds, reads⟩ := split
    exact ⟨tables, holds, parts, reads, joined⟩
  · rintro ⟨tables, holds, parts, reads, joined⟩
    refine ⟨parts, ?_, joined⟩
    clear joined
    induction holds generalizing parts with
    | nil =>
      cases reads
      exact .nil
    | cons own _ ih =>
      cases reads with
      | cons first others => exact .cons ⟨_, own, first⟩ (ih _ others)

/-- Keys that are not empty and valid checksums make descriptors. -/
theorem descriptors_exist {results : List (String × String)}
    (good : ∀ result ∈ results, result.1 ≠ "" ∧ isValidMd5Checksum result.2 = true) :
    ∃ validated : List ResultDescriptor, validated.map ResultDescriptor.pair = results := by
  induction results with
  | nil => exact ⟨[], rfl⟩
  | cons first rest ih =>
    obtain ⟨validated, same⟩ := ih fun result member => good result (List.mem_cons_of_mem _ member)
    obtain ⟨keyed, checked⟩ := good first List.mem_cons_self
    exact ⟨⟨first.1, first.2, keyed, checked⟩ :: validated, congrArg (first :: ·) same⟩

/-- A report is read exactly when it is intact. -/
theorem read_ok {report : Report} :
    readBopsCompletionReport source reportPrefix jobId expected = .ok report ↔
    IntactReport source reportPrefix jobId expected report := by
  simp only [readBopsCompletionReport, bind_eq_ok, map_eq_ok, require_eq_ok, getObjectBody_ok,
    parseManifest_ok]
  constructor
  · rintro ⟨_, _, body, stored, manifest, parsed, ⟨createdAt, validated⟩, valid, parts, read, _,
      count, _, distinct, rfl⟩
    obtain ⟨tables, holds, reads⟩ := each_readResult_ok.mp ⟨parts, read, rfl⟩
    refine ⟨body, manifest, _, tables, stored, parsed, validateManifest_ok.mp valid,
      holds, reads, count, ?_⟩
    rw [List.card_toFinset, ← List.length_map identity] at distinct
    exact List.dedup_eq_self.mp ((List.dedup_sublist _).eq_of_length distinct)
  · rintro ⟨body, manifest, results, tables, stored, parsed, valid, holds, reads, count, distinct⟩
    have good : ∀ result ∈ results, result.1 ≠ "" ∧ isValidMd5Checksum result.2 = true := by
      obtain ⟨listed, _, described⟩ := valid.results
      intro result member
      obtain ⟨value, _, _, _, _, keyed, _⟩ := exists_of_mem described.flip member
      obtain ⟨rows, _, _, _, _, same, _⟩ := exists_of_mem holds member
      exact ⟨keyed, isValidMd5Checksum_of_matches same⟩
    obtain ⟨validated, rfl⟩ := descriptors_exist good
    obtain ⟨parts, read, joined⟩ := each_readResult_ok.mpr ⟨tables, holds, reads⟩
    refine ⟨(), by omega, body, stored, manifest, parsed, (report.createdAt, validated),
      validateManifest_ok.mpr valid, parts, read, (), joined ▸ count, (), ?_, joined ▸ rfl⟩
    rw [joined, List.toFinset_card_of_nodup distinct, List.length_map]

end Reports

section Delivery
variable {source : Source} {reportPrefix jobId bucket date : String} {results : List Written}

/-- A result object with rows in it that the reader accepts. -/
structure Written where
  key : String
  csvText : List Char
  rows : List (List Csv.Field)
  keyed : key ≠ ""
  written : Csv.WritesRows rows csvText
  fits : ∀ row ∈ rows, ∀ field ∈ row, field.length ≤ fieldSizeLimit

def Written.body (result : Written) : List UInt8 := utf8 result.csvText

def Written.descriptor (bucket : String) (result : Written) : Json :=
  .object [("TaskExecutionStatus", .str "succeeded"), ("Bucket", .str bucket),
    ("MD5Checksum", .str (hexdigest result.body)), ("Key", .str result.key)]

def manifestMembers (bucket date : String) (results : List Written) : Members :=
  [("Format", .str reportFormat), ("ReportCreationDate", .str date),
    ("Results", .list (results.map (Written.descriptor bucket))),
    ("ReportSchema",
      .str "Bucket, Key, VersionId, TaskStatus, ErrorCode, HTTPStatusCode, ResultMessage")]

/-- The result objects are in place, and the manifest that lists them. -/
structure Delivers (source : Source) (reportPrefix jobId bucket date : String)
    (results : List Written) : Prop where
  manifest : Stores source (manifestKey reportPrefix jobId)
    (utf8 (Json.dumps (.object (manifestMembers bucket date results))).toList)
  objects : ∀ result ∈ results, Stores source result.key result.body

theorem isManifest_delivered (bucket date : String) (results : List Written) :
    IsManifest (utf8 (Json.dumps (.object (manifestMembers bucket date results))).toList)
      (manifestMembers bucket date results) := by
  have listed : ∀ value ∈ results.map (Written.descriptor bucket), Json.Exact value := by
    intro value member
    obtain ⟨result, _, rfl⟩ := List.mem_map.mp member
    refine Json.exact_object (by simp) ?_
    simp [Json.Exact]
  have exact_ : Json.Exact (.object (manifestMembers bucket date results)) := by
    refine Json.exact_object (by simp [manifestMembers]) ?_
    simp [manifestMembers, Json.Exact, (Json.exactItems_iff _).mpr listed]
  exact ⟨_, rfl, by rw [String.ofList_toList, Json.loads_dumps _ exact_]⟩

theorem validManifest_delivered {zoned : IsoTime.Datetime} (bucket : String)
    (results : List Written)
    (dated : source.fromisoformat (withoutZulu date) = some zoned) (aware : zoned.offset ≠ none) :
    ValidManifest source (manifestMembers bucket date results) (WatermarkText.utcInstant zoned)
      (results.map fun result => (result.key, hexdigest result.body)) := by
  refine ⟨rfl, ⟨_, rfl, by decide +kernel⟩, ⟨date, zoned, rfl, dated, aware, rfl⟩, _, rfl, ?_⟩
  rw [List.forall₂_map_left_iff, List.forall₂_map_right_iff, List.forall₂_same]
  exact fun result _ => ⟨_, rfl, rfl, result.keyed, rfl⟩

theorem holds_delivered (objects : ∀ result ∈ results, Stores source result.key result.body) :
    ∃ tables, List.Forall₂ (Holds source) (results.map fun result =>
      (result.key, hexdigest result.body)) tables ∧
      tables.flatten.filter (· ≠ []) = results.flatMap Written.rows := by
  induction results with
  | nil => exact ⟨[], .nil, rfl⟩
  | cons first rest ih =>
    obtain ⟨tables, others, same⟩ :=
      ih fun result member => objects result (List.mem_cons_of_mem _ member)
    obtain ⟨records, read, rows⟩ := Csv.reader_rows first.written first.fits
    refine ⟨records :: tables, .cons ?_ others, ?_⟩
    · exact ⟨first.body, first.csvText, objects first List.mem_cons_self, .inl rfl, rfl, read⟩
    · rw [List.flatten_cons, List.filter_append, rows, same, List.flatMap_cons]

/-- A report is read once all of it is delivered. -/
theorem read_delivered {zoned : IsoTime.Datetime} {entries : List ReportEntry}
    (delivers : Delivers source reportPrefix jobId bucket date results)
    (dated : source.fromisoformat (withoutZulu date) = some zoned) (aware : zoned.offset ≠ none)
    (reads : List.Forall₂ ReadsAs (results.flatMap Written.rows) entries)
    (distinct : (entries.map identity).Nodup) :
    readBopsCompletionReport source reportPrefix jobId entries.length =
      .ok ⟨WatermarkText.utcInstant zoned, entries⟩ := by
  obtain ⟨tables, holds, rows⟩ := holds_delivered delivers.objects
  exact read_ok.mpr ⟨_, _, _, tables, delivers.manifest, isManifest_delivered bucket date results,
    validManifest_delivered bucket results dated aware, holds, rows ▸ reads, rfl, distinct⟩

end Delivery
end ReplicateOnTag.ReportReader

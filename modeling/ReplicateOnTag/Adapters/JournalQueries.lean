import ReplicateOnTag.Adapters.PreflightPredicate
import ReplicateOnTag.Core.WatermarkText
import ReplicateOnTag.Library.SqlQuery

/-! The texts of the queries that the readers of the journal send, and the query
that each of them is. -/
namespace ReplicateOnTag.JournalQueries
open SqlQuery Preflight AthenaJournal CivilTime Decimal

section Texts

/-- `"b_" + bucket_name.replace(".", "_")`. -/
def bucketNamespace (bucketName : String) : List Char :=
  'b' :: '_' :: replaceChar '.' ['_'] bucketName.toList

def tablePath (namespace_ : List Char) : List Char :=
  quoteName "s3tablescatalog/aws-s3".toList ++ '.' ::
    (quoteName namespace_ ++ '.' :: quoteName "journal".toList)

/-- `'{_escape_sql_string(value)}'`. -/
def sqlString (value : List Char) : List Char := '\'' :: escapeSqlString value ++ ['\'']

/-- `strftime("%Y-%m-%d %H:%M:%S.%f")`. -/
def literalText (dt : Civil) : List Char :=
  Nat.toDigits 10 dt.date.year ++ '-' :: (pad 2 dt.date.month ++ '-' :: (pad 2 dt.date.day ++ ' ' ::
    (pad 2 dt.clock.hour ++ ':' :: (pad 2 dt.clock.minute ++ ':' :: (pad 2 dt.clock.second ++
      '.' :: pad 6 dt.clock.microsecond)))))

/-- `none` is a `ValueError`, as it is of every text built from the literal. -/
def toAthenaTimestampLiteral (canonicalWatermark : String) : Option (List Char) :=
  (WatermarkText.parseWatermark canonicalWatermark).map literalText

/-- `timestamp '{ts}'` after its word. -/
def momentText (ts : List Char) : List Char := '\'' :: ts ++ ['\'']

def sinceClause (ts : List Char) : List Char :=
  " AND record_timestamp > timestamp ".toList ++ momentText ts

def untilClause (ts : List Char) : List Char :=
  " AND record_timestamp <= timestamp ".toList ++ momentText ts

/-- A clause for a bound that is given, and none for one that is not. -/
def boundClause (clause : List Char → List Char) (watermark : Option String) : Option (List Char) :=
  match watermark with
  | none => some []
  | some watermark => (toAthenaTimestampLiteral watermark).map clause

/-- `FROM {table_path} WHERE bucket = '{bucket_escaped}'`. -/
def fromBucket (namespace_ : List Char) (bucketName : String) : List Char :=
  "FROM ".toList ++ tablePath namespace_ ++ " WHERE bucket = ".toList ++ sqlString bucketName.toList

def taggingClause : List Char := " AND record_type = 'UPDATE_METADATA'".toList

def selectRows : List Char :=
  "SELECT bucket, key, version_id, record_type AS operation, ".toList ++
    "CAST(object_tags AS JSON) AS resulting_tags, ".toList ++
    "sequence_number, record_timestamp AS event_time, last_modified_date, storage_class ".toList

def selectTimestamp : List Char := "SELECT record_timestamp ".toList

def buildQuery (namespace_ : List Char) (bucketName : String)
    (sinceTimestamp untilTimestamp : Option String) :
    Option (List Char) :=
  (boundClause sinceClause sinceTimestamp).bind fun lower =>
      (boundClause untilClause untilTimestamp).map fun upper =>
    selectRows ++ fromBucket namespace_ bucketName ++ taggingClause ++ lower ++ upper ++
      " ORDER BY record_timestamp ASC".toList

/-- The cap is positive. -/
def buildBoundaryQuery (namespace_ : List Char) (bucketName : String)
    (sinceTimestamp : Option String)
    (rowCap : Nat) : Option (List Char) :=
  (boundClause sinceClause sinceTimestamp).map fun lower =>
    selectTimestamp ++ fromBucket namespace_ bucketName ++ taggingClause ++ lower ++
      " ORDER BY record_timestamp ASC OFFSET ".toList ++
        Nat.toDigits 10 (rowCap - 1) ++ " LIMIT 1".toList

def buildTailCountQuery (namespace_ : List Char)
    (bucketName windowStart watermark : String) : Option (List Char) :=
  (toAthenaTimestampLiteral windowStart).bind fun startTs =>
      (toAthenaTimestampLiteral watermark).map fun watermarkTs =>
    "SELECT count(*) ".toList ++ fromBucket namespace_ bucketName ++ taggingClause ++
      sinceClause startTs ++
      untilClause watermarkTs

def buildTailFloorQuery (namespace_ : List Char) (bucketName windowStart watermark : String)
    (tailAllowance : Nat) :
    Option (List Char) :=
  (toAthenaTimestampLiteral windowStart).bind fun startTs =>
      (toAthenaTimestampLiteral watermark).map fun watermarkTs =>
    selectTimestamp ++ fromBucket namespace_ bucketName ++ taggingClause ++ sinceClause startTs ++
      untilClause watermarkTs ++ " ORDER BY record_timestamp DESC OFFSET ".toList ++
      Nat.toDigits 10 tailAllowance ++ " LIMIT 1".toList

/-- `if timestamp`: an empty text is no bound. -/
def given (watermark : Option String) : Option String := watermark.filter fun text => text ≠ ""

/-- The query of `preflight_count`. -/
def preflightQuery (namespace_ : List Char) (bucketName : String)
    (rules : List DerivedReplicationRule)
    (sinceTimestamp untilTimestamp : Option String) : Option (List Char) :=
  (boundClause sinceClause (given sinceTimestamp)).bind fun lower =>
    (boundClause untilClause (given untilTimestamp)).map fun upper =>
      "SELECT COUNT(DISTINCT key) ".toList ++ fromBucket namespace_ bucketName ++
        taggingClause ++ lower ++ upper ++
        " AND ".toList ++ (buildRulePredicate rules).toList

/-- `PERMANENT_DELETE_SQL_PREDICATE`. -/
def permanentDeletePredicate : List Char :=
  "record_type = 'DELETE' AND COALESCE(is_delete_marker, FALSE) = FALSE".toList

/-- The query of `read_permanent_deletes`. -/
def permanentDeletesQuery (namespace_ : List Char) (bucketName : String)
    (sinceWindowStart : Option String) :
    Option (List Char) :=
  (boundClause sinceClause (given sinceWindowStart)).map fun timeFilter =>
    "SELECT DISTINCT key, version_id ".toList ++
      fromBucket namespace_ bucketName ++ " AND ".toList ++
      permanentDeletePredicate ++ timeFilter ++ "\nUNION\n".toList ++
      "SELECT DISTINCT key, CAST(NULL AS VARCHAR) AS version_id ".toList ++
        fromBucket namespace_ bucketName ++
      " AND record_type IN ('PUT', 'COPY', 'RESTORE') AND version_id IS NULL ".toList ++ timeFilter

end Texts

section Queries

def journalPath (bucketName : String) : List (List Char) :=
  ["s3tablescatalog/aws-s3".toList, bucketNamespace bucketName, "journal".toList]

def recordTimestamp : List Char := "record_timestamp".toList

def textIs (column value : String) : Condition :=
  .plain (.equals (.column column.toList) value.toList)

def boundConditions (lower upper : Option (List Char)) : List Condition :=
  (lower.map (Condition.above recordTimestamp)).toList ++
    (upper.map (Condition.notPast recordTimestamp)).toList

/-- The tagging records of a bucket between two moments. -/
def windowConditions (bucketName : String) (lower upper : Option (List Char)) : List Condition :=
  textIs "bucket" bucketName :: textIs "record_type" "UPDATE_METADATA" ::
    boundConditions lower upper

def rowItems : List Item :=
  [.column "bucket".toList, .column "key".toList, .column "version_id".toList,
    .column "record_type".toList,
    .cast "object_tags".toList "JSON".toList, .column "sequence_number".toList,
      .column recordTimestamp,
    .column "last_modified_date".toList, .column "storage_class".toList]

def windowQuery (bucketName : String) (lower upper : Option (List Char)) : Query :=
  .select ⟨.columns false rowItems, journalPath bucketName, windowConditions bucketName lower upper⟩
    (some ⟨recordTimestamp, false⟩) 0 none

def rankQuery (bucketName : String) (lower upper : Option (List Char)) (descending : Bool)
    (rank : Nat) : Query :=
  .select ⟨.columns false [.column recordTimestamp], journalPath bucketName,
    windowConditions bucketName lower upper⟩
    (some ⟨recordTimestamp, descending⟩) rank (some 1)

def countQuery (bucketName : String) (lower upper : Option (List Char)) : Query :=
  .select ⟨.count, journalPath bucketName, windowConditions bucketName lower upper⟩ none 0 none

def candidatesQuery (bucketName : String) (rules : List DerivedReplicationRule)
    (lower upper : Option (List Char)) :
    Query :=
  .select ⟨.countDistinct "key".toList, journalPath bucketName,
    windowConditions bucketName lower upper ++ [.plain (rulesTest rules)]⟩ none 0 none

def deleteConditions (bucketName : String) (lower : Option (List Char)) : List Condition :=
  textIs "bucket" bucketName :: textIs "record_type" "DELETE" ::
    .flagIs "is_delete_marker".toList false false ::
    boundConditions lower none

def supersedeConditions (bucketName : String) (lower : Option (List Char)) : List Condition :=
  textIs "bucket" bucketName ::
    .oneOf "record_type".toList ["PUT".toList, "COPY".toList, "RESTORE".toList] ::
    .isNull "version_id".toList :: boundConditions lower none

def deletesQuery (bucketName : String) (lower : Option (List Char)) : Query :=
  .union [⟨.columns true [.column "key".toList, .column "version_id".toList],
      journalPath bucketName,
      deleteConditions bucketName lower⟩,
    ⟨.columns true [.column "key".toList, .castNull "VARCHAR".toList], journalPath bucketName,
      supersedeConditions bucketName lower⟩]

end Queries

section Reading

def word (text : String) : Token := .plain (.name text.toList)

def literal (text : String) : Token := .plain (.literal text.toList)

def and_ : Token := .plain (.keyword .and_)

def equals : Token := .plain (.symbol .equals)

def fromTokens (bucketName : String) : List Token :=
  [word "FROM", .quoted "s3tablescatalog/aws-s3".toList, .mark .dot,
    .quoted (bucketNamespace bucketName), .mark .dot,
    .quoted "journal".toList, word "WHERE", word "bucket", equals, literal bucketName]

def taggingTokens : List Token := [and_, word "record_type", equals, literal "UPDATE_METADATA"]

def boundTokens (mark : Mark) : Option (List Char) → List Token
  | none => []
  | some ts => [and_, .plain (.name recordTimestamp), .mark mark,
      word "timestamp", .plain (.literal ts)]

/-- No quoted name is cut short by the bucket's. -/
def PlainName (bucketName : String) : Prop := '"' ∉ bucketName.toList

theorem quote_not_mem_bucketNamespace (plain : PlainName bucketName) :
    '"' ∉ bucketNamespace bucketName := by
  intro member
  simp only [bucketNamespace, replaceChar, List.mem_cons, List.mem_flatMap] at member
  obtain same | same | ⟨c, own, inside⟩ := member
  · exact absurd same (by decide)
  · exact absurd same (by decide)
  · split at inside
    · exact absurd (List.mem_singleton.mp inside) (by decide)
    · rw [List.mem_singleton] at inside
      exact plain (inside ▸ own)

/-- What follows the name of the bucket is read on its own. -/
theorem lex_fromBucket (plain : PlainName bucketName) (starts : Breaks back)
    (rest : lex back = some tokens) :
    lex (fromBucket (bucketNamespace bucketName) bucketName ++ back) =
      some (fromTokens bucketName ++ tokens) := by
  have opens : Scans between "FROM ".toList [word "FROM"] between := by decide
  have catalog : lex (quoteName "s3tablescatalog/aws-s3".toList) =
      some [.quoted "s3tablescatalog/aws-s3".toList] := by
    decide
  have dot : Scans between ['.'] [.mark .dot] between := by decide
  have journal : lex (quoteName "journal".toList) = some [.quoted "journal".toList] := by decide
  have where_ : Scans between " WHERE bucket = ".toList [word "WHERE", word "bucket",
    equals] between := by decide
  have own := lex_after where_ (lex_append (lex_quote bucketName.toList) starts rest)
  have table := lex_after dot (lex_append journal (breaks_front (by decide)) own)
  have namespace_ := lex_after dot
    (lex_append (lex_quoteName (quote_not_mem_bucketNamespace plain))
      (breaks_front (by decide)) table)
  have whole := lex_after opens (lex_append catalog (breaks_front (by decide)) namespace_)
  delta fromBucket tablePath
  simp only [fromTokens, List.append_assoc, List.cons_append, List.nil_append] at whole ⊢
  exact whole

/-- A moment's text holds no quote. -/
def Unquoted (ts : List Char) : Prop := '\'' ∉ ts

theorem lex_momentText (unquoted : Unquoted ts) : lex (momentText ts) =
    some [.plain (.literal ts)] := by
  have same : Sql.doubled ts = ts := by
    induction ts with
    | nil => rfl
    | cons c ts ih =>
      rw [Unquoted, List.mem_cons, not_or] at unquoted
      rw [Sql.doubled, List.flatMap_cons, ← Sql.doubled, ih unquoted.2, if_neg (Ne.symm unquoted.1)]
      rfl
  have read := lex_quote ts
  rwa [Sql.quote, same] at read

def lowerText (lower : Option (List Char)) : List Char := (lower.map sinceClause).getD []

def upperText (upper : Option (List Char)) : List Char := (upper.map untilClause).getD []

theorem lex_lower {lower : Option (List Char)} (unquoted : ∀ ts ∈ lower, Unquoted ts)
    (starts : Breaks back)
    (rest : lex back = some tokens) :
    lex (lowerText lower ++ back) = some (boundTokens .greater lower ++ tokens) := by
  cases lower with
  | none => exact rest
  | some ts =>
    have opening : Scans between " AND record_timestamp > timestamp ".toList
        [and_, .plain (.name recordTimestamp), .mark .greater, word "timestamp"] between := by
          decide
    have own := lex_append (lex_after opening (lex_momentText (unquoted ts rfl))) starts rest
    exact own

theorem lex_upper {upper : Option (List Char)} (unquoted : ∀ ts ∈ upper, Unquoted ts)
    (starts : Breaks back)
    (rest : lex back = some tokens) :
    lex (upperText upper ++ back) = some (boundTokens .atMost upper ++ tokens) := by
  cases upper with
  | none => exact rest
  | some ts =>
    have opening : Scans between " AND record_timestamp <= timestamp ".toList
        [and_, .plain (.name recordTimestamp), .mark .atMost, word "timestamp"] between := by decide
    exact lex_append (lex_after opening (lex_momentText (unquoted ts rfl))) starts rest

theorem breaks_lower (lower : Option (List Char))
    (starts : Breaks back) : Breaks (lowerText lower ++ back) := by
  cases lower with
  | none => exact starts
  | some ts => exact breaks_append (breaks_front (by decide)) starts

theorem breaks_upper (upper : Option (List Char))
    (starts : Breaks back) : Breaks (upperText upper ++ back) := by
  cases upper with
  | none => exact starts
  | some ts => exact breaks_append (breaks_front (by decide)) starts

end Reading

section Parsing
variable {lower upper : Option (List Char)}

def selectRowsTokens : List Token :=
  [word "SELECT", word "bucket", comma, word "key", comma, word "version_id", comma,
    word "record_type", word "AS",
    word "operation", comma, word "CAST", leftParen, word "object_tags", word "AS", word "JSON",
      rightParen, word "AS",
    word "resulting_tags", comma, word "sequence_number", comma, word "record_timestamp",
      word "AS", word "event_time",
    comma, word "last_modified_date", comma, word "storage_class"]

/-- The conditions of the window with what comes after them. -/
def windowTokens (bucketName : String) (lower upper : Option (List Char))
    (rest : List Token) : List Token :=
  fromTokens bucketName ++ (taggingTokens ++
    (boundTokens .greater lower ++ (boundTokens .atMost upper ++ rest)))

theorem lex_window (plain : PlainName bucketName) (unquoted : ∀ ts ∈ lower, Unquoted ts)
    (unquoted' : ∀ ts ∈ upper, Unquoted ts) (starts : Breaks back) (rest : lex back = some tokens) :
    lex (fromBucket (bucketNamespace bucketName) bucketName ++ (taggingClause ++ (lowerText lower ++
      (upperText upper ++ back)))) = some (windowTokens bucketName lower upper tokens) := by
  have tagging : lex taggingClause = some taggingTokens := by decide
  have above := lex_lower unquoted (breaks_upper upper starts) (lex_upper unquoted' starts rest)
  have own := lex_append tagging (breaks_lower lower (breaks_upper upper starts)) above
  exact lex_fromBucket plain (breaks_front (by decide)) own

theorem parse_window (plain : PlainName bucketName) (unquoted : ∀ ts ∈ lower, Unquoted ts)
    (unquoted' : ∀ ts ∈ upper, Unquoted ts) :
    parse (selectRows ++ fromBucket (bucketNamespace bucketName) bucketName ++
      taggingClause ++ lowerText lower ++
      upperText upper ++ " ORDER BY record_timestamp ASC".toList) =
        some (windowQuery bucketName lower upper) := by
  have select : Scans between selectRows selectRowsTokens between := by decide +kernel
  have order : lex " ORDER BY record_timestamp ASC".toList =
      some [word "ORDER", word "BY", word "record_timestamp", word "ASC"] := by decide
  have read := lex_after select (lex_window plain unquoted unquoted' (by decide) order)
  simp only [List.append_assoc]
  rw [parse, read, Option.bind_some]
  cases lower <;> cases upper <;> rfl

theorem lex_offset (n : Nat) {opening : List Char} (read : Scans between opening tokens between) :
    lex (opening ++ (Nat.toDigits 10 n ++ " LIMIT 1".toList)) =
      some (tokens ++ [.number (Nat.toDigits 10 n), word "LIMIT", .number ['1']]) := by
  have limit : lex " LIMIT 1".toList = some [word "LIMIT", .number ['1']] := by decide
  exact lex_after read (lex_append (lex_digits n) (by decide) limit)

def directionText (descending : Bool) : List Char :=
  if descending then " ORDER BY record_timestamp DESC OFFSET ".toList
    else " ORDER BY record_timestamp ASC OFFSET ".toList

theorem parse_rank (plain : PlainName bucketName) (unquoted : ∀ ts ∈ lower, Unquoted ts)
    (unquoted' : ∀ ts ∈ upper, Unquoted ts) (descending : Bool) (rank : Nat) :
    parse (selectTimestamp ++ fromBucket (bucketNamespace bucketName) bucketName ++
      taggingClause ++ lowerText lower ++
      upperText upper ++ directionText descending ++ Nat.toDigits 10 rank ++ " LIMIT 1".toList) =
        some (rankQuery bucketName lower upper descending rank) := by
  have select : Scans between selectTimestamp [word "SELECT", word "record_timestamp"] between := by
    decide
  have opening : Scans between (directionText descending) [word "ORDER", word "BY",
      word "record_timestamp",
      word (if descending then "DESC" else "ASC"), word "OFFSET"] between := by
    cases descending <;> decide
  have starts : Breaks (directionText descending ++
      (Nat.toDigits 10 rank ++ " LIMIT 1".toList)) := by
    cases descending <;> exact breaks_front (by decide)
  have read := lex_after select
    (lex_window plain unquoted unquoted' starts (lex_offset rank opening))
  have number : Nat.ofDigitChars 10 (Nat.toDigits 10 rank) 0 = rank :=
    Nat.ofDigitChars_toDigits (by decide) (by decide)
  simp only [List.append_assoc]
  rw [parse, read, Option.bind_some]
  refine Eq.trans (b := some (rankQuery bucketName lower upper descending
    (Nat.ofDigitChars 10 (Nat.toDigits 10 rank) 0))) ?_ (by rw [number])
  cases lower <;> cases upper <;> cases descending <;> rfl

theorem parse_tailCount (plain : PlainName bucketName) (unquoted : Unquoted startTs)
    (unquoted' : Unquoted watermarkTs) :
    parse ("SELECT count(*) ".toList ++
      fromBucket (bucketNamespace bucketName) bucketName ++ taggingClause ++
      sinceClause startTs ++ untilClause watermarkTs) =
        some (countQuery bucketName (some startTs) (some watermarkTs)) := by
  have select : Scans between "SELECT count(*) ".toList
      [word "SELECT", word "count", leftParen, .mark .star, rightParen] between := by decide
  have lower : ∀ ts ∈ some startTs, Unquoted ts := fun ts same => Option.some.inj same ▸ unquoted
  have upper : ∀ ts ∈ some watermarkTs, Unquoted ts :=
    fun ts same => Option.some.inj same ▸ unquoted'
  have none_ : lex [] = some [] := rfl
  have read := lex_after select (lex_window plain lower upper (by decide) none_)
  rw [List.append_nil] at read
  simp only [List.append_assoc]
  refine (congrArg (Option.bind · parseTokens) read).trans rfl

theorem parse_deletes (plain : PlainName bucketName) (unquoted : ∀ ts ∈ lower, Unquoted ts) :
    parse ("SELECT DISTINCT key, version_id ".toList ++
      fromBucket (bucketNamespace bucketName) bucketName ++
      " AND ".toList ++ permanentDeletePredicate ++ lowerText lower ++ "\nUNION\n".toList ++
      "SELECT DISTINCT key, CAST(NULL AS VARCHAR) AS version_id ".toList ++
      fromBucket (bucketNamespace bucketName) bucketName ++
      " AND record_type IN ('PUT', 'COPY', 'RESTORE') AND version_id IS NULL ".toList ++
        lowerText lower) =
        some (deletesQuery bucketName lower) := by
  have select : Scans between "SELECT DISTINCT key, version_id ".toList
      [word "SELECT", word "DISTINCT", word "key", comma, word "version_id"] between := by decide
  have deletes : lex (" AND ".toList ++ permanentDeletePredicate) =
      some [and_, word "record_type", equals,
      literal "DELETE", and_, word "COALESCE", leftParen, word "is_delete_marker", comma,
        .plain (.keyword .false_),
      rightParen, equals, .plain (.keyword .false_)] := by decide +kernel
  have union : Scans between "\nUNION\n".toList [word "UNION"] between := by decide
  have selectNull : Scans between "SELECT DISTINCT key, CAST(NULL AS VARCHAR) AS version_id ".toList
      [word "SELECT", word "DISTINCT", word "key", comma, word "CAST", leftParen, word "NULL",
        word "AS", word "VARCHAR",
        rightParen, word "AS", word "version_id"] between := by decide +kernel
  have supersedes : Scans between
      " AND record_type IN ('PUT', 'COPY', 'RESTORE') AND version_id IS NULL ".toList
      [and_, word "record_type", word "IN", leftParen, literal "PUT", comma, literal "COPY",
        comma, literal "RESTORE",
        rightParen, and_, word "version_id", word "IS", word "NULL"] between := by decide +kernel
  have none_ : lex [] = some [] := rfl
  have filter := lex_after supersedes (lex_lower unquoted (by decide) none_)
  have second := lex_after union (lex_after selectNull
    (lex_fromBucket plain (breaks_front (by decide)) filter))
  have first := lex_append deletes (breaks_lower lower (breaks_front (by decide)))
    (lex_lower unquoted (breaks_front (by decide)) second)
  have read := lex_after select (lex_fromBucket plain
    (breaks_append (breaks_front (by decide))
      (breaks_lower lower (breaks_front (by decide)))) first)
  simp only [List.append_assoc, List.append_nil] at read ⊢
  rw [parse, read, Option.bind_some]
  cases lower <;> rfl

/-- The rule predicate is one condition of its own: parentheses, or `FALSE`. -/
theorem lex_rulePredicate (rules : List DerivedReplicationRule) : ∃ first own,
    Sql.lex (buildRulePredicate rules).toList = some (first :: own) ∧
      Sql.Grammar .primary (first :: own) (rulesTest rules) ∧ (∀ name, first ≠ .name name) := by
  by_cases none : rules = []
  · subst none
    exact ⟨.keyword .false_, [], by decide, .false_, nofun⟩
  · have read := lexes_parens 'O' ['R'] rfl rfl lexes_ruleClause rules
    have clauses : rules.map ruleTest ≠ [] := mt List.map_eq_nil_iff.mp none
    have written := Sql.grammar_disjoin (forall₂_map grammar_ruleClause rules) clauses
    refine ⟨_, _, ?_, .parens written, nofun⟩
    rw [buildRulePredicate, if_neg none, String.toList_ofList]
    exact Sql.lex_of_lexes read

theorem parseCondition_plain {first : Sql.Token} {own : List Sql.Token}
    (written : Sql.Grammar .primary (first :: own) p)
    (other : ∀ name, first ≠ .name name) :
    parseCondition ((first :: own).map Token.plain) = some (.plain p, []) := by
  have ends : (plainFront []).head? ≠ some (.keyword .escape) := nofun
  have read := parsePlain_front written ends
  rw [List.append_nil] at read
  cases first with
  | name name => exact absurd rfl (other name)
  | symbol symbol => exact read
  | keyword keyword => exact read
  | literal text => exact read

theorem parseConditions_last (read : parseCondition tokens = some (condition, [])) (fuel : Nat) :
    parseConditions (fuel + 1) tokens = some ([condition], []) := by
  rw [parseConditions, read]
  rfl

theorem parseConditions_more (read : parseCondition tokens = some (condition, and_ :: rest))
    (later : parseConditions fuel rest = some (conditions, back)) :
    parseConditions (fuel + 1) tokens = some (condition :: conditions, back) := by
  rw [parseConditions, read, Option.bind_some]
  simp only [and_, skip, if_pos, later, Option.map_some]

def testTokens (bucketName : String) (lower upper : Option (List Char))
    (rest : List Token) : List Token :=
  word "bucket" :: equals :: literal bucketName ::
    (taggingTokens ++ (boundTokens .greater lower ++ (boundTokens .atMost upper ++ rest)))

theorem parseCondition_textIs (column : isWord "COALESCE" (word name) = false) (rest : List Token) :
    parseCondition (word name :: equals :: literal text :: and_ :: rest) =
      some (textIs name text, and_ :: rest) := by
  have written : Sql.Grammar .primary
      ((Sql.Operand.column name.toList).tokens ++ [.symbol .equals, .literal text.toList]) _ :=
        .equals
  have ends : (plainFront (and_ :: rest)).head? ≠ some (.keyword .escape) := nofun
  have read := parsePlain_front written ends
  exact (if_neg (Bool.eq_false_iff.mp column)).trans read

/-- A condition after those of the window is read as the last of them. -/
theorem parseConditions_window {tail : List Token}
    (read : parseCondition tail = some (condition, [])) (fuel : Nat) :
    parseConditions (fuel + 5) (testTokens bucketName lower upper (and_ :: tail)) =
      some (windowConditions bucketName lower upper ++ [condition], []) := by
  have bucket (rest : List Token) :
      parseCondition (word "bucket" :: equals :: literal bucketName :: and_ :: rest) =
      some (textIs "bucket" bucketName, and_ :: rest) := parseCondition_textIs (by decide) rest
  have tagging (rest : List Token) :
      parseCondition (word "record_type" :: equals :: literal "UPDATE_METADATA" :: and_ :: rest) =
        some (textIs "record_type" "UPDATE_METADATA", and_ :: rest) :=
          parseCondition_textIs (by decide) rest
  cases lower <;> cases upper
  · exact parseConditions_more (bucket _)
      (parseConditions_more (tagging _) (parseConditions_last read (fuel + 2)))
  · exact parseConditions_more (bucket _) (parseConditions_more (tagging _)
      (parseConditions_more rfl (parseConditions_last read (fuel + 1))))
  · exact parseConditions_more (bucket _) (parseConditions_more (tagging _)
      (parseConditions_more rfl (parseConditions_last read (fuel + 1))))
  · exact parseConditions_more (bucket _) (parseConditions_more (tagging _)
      (parseConditions_more rfl (parseConditions_more rfl (parseConditions_last read fuel))))

theorem parse_candidates (plain : PlainName bucketName) (unquoted : ∀ ts ∈ lower, Unquoted ts)
    (unquoted' : ∀ ts ∈ upper, Unquoted ts) (rules : List DerivedReplicationRule) :
    parse ("SELECT COUNT(DISTINCT key) ".toList ++
      fromBucket (bucketNamespace bucketName) bucketName ++
      taggingClause ++ lowerText lower ++ upperText upper ++ " AND ".toList ++
        (buildRulePredicate rules).toList) =
        some (candidatesQuery bucketName rules lower upper) := by
  have select : Scans between "SELECT COUNT(DISTINCT key) ".toList
      [word "SELECT", word "COUNT", leftParen, word "DISTINCT", word "key",
        rightParen] between := by decide
  have joins : Scans between " AND ".toList [and_] between := by decide
  obtain ⟨first, own, lexes, written, other⟩ := lex_rulePredicate rules
  have read := lex_after select (lex_window plain unquoted unquoted' (breaks_front (by decide))
    (lex_plain joins lexes))
  have last := parseCondition_plain written other
  have enough : ∃ fuel, (testTokens bucketName lower upper
      (and_ :: (first :: own).map Token.plain)).length = fuel + 5 :=
    Nat.exists_eq_add_of_le' (by simp [testTokens, taggingTokens])
  obtain ⟨fuel, length⟩ := enough
  have conditions : parseConditions (fuel + 5) _ =
      some (windowConditions bucketName lower upper ++ _, []) :=
    parseConditions_window last fuel
  rw [← length] at conditions
  simp only [List.append_assoc]
  rw [parse, read, Option.bind_some]
  let core (conditions : List Condition × List Token) : Core × List Token :=
    (⟨.countDistinct "key".toList, journalPath bucketName, conditions.1⟩, conditions.2)
  have parsed : parseCore ([word "SELECT", word "COUNT", leftParen, word "DISTINCT",
      word "key", rightParen] ++
      windowTokens bucketName lower upper ([and_] ++ (first :: own).map Token.plain)) =
        some (core (windowConditions bucketName lower upper ++ [.plain (rulesTest rules)], [])) :=
    congrArg (Option.map core) conditions
  rw [parseTokens, parsed]
  rfl

end Parsing
end ReplicateOnTag.JournalQueries

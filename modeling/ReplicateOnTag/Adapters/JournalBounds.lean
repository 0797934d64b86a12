import ReplicateOnTag.Adapters.JournalAnswers

/-! The bounds that the readers of the journal are given, and the queries that
their texts are with such bounds. -/
namespace ReplicateOnTag.JournalSession
open SqlQuery JournalAnswers JournalQueries CivilTime Watermark
open WatermarkText (fixedWidthYear)

section Bounds

/-- A bound that a caller gives: the canonical text of a time, if there is one. -/
def Canonical (bound : Option String) : Prop :=
  ∀ text ∈ bound, WatermarkText.isCanonicalWatermark text ∧ text ≠ WatermarkText.epochWatermark

def mark (bound : Option String) : Watermark := (bound.map WatermarkText.meaning).getD epoch

theorem wide_some {civil : Civil} (wide : fixedWidthYear ≤ civil.date.year) : Wide (some civil) :=
  fun _ same => Option.some.inj same ▸ wide

theorem Canonical.time (canonical : Canonical (some text)) :
    ∃ civil : Civil, fixedWidthYear ≤ civil.date.year ∧ text = WatermarkText.strftime civil := by
  obtain ⟨canonical, later⟩ := canonical text rfl
  obtain ⟨civil, wide, same⟩ :=
    ((WatermarkText.isCanonicalWatermark_iff text).mp canonical).resolve_left later
  exact ⟨civil, wide, same⟩

theorem Canonical.civil (canonical : Canonical bound) :
    ∃ civil : Option Civil, Wide civil ∧ bound = civil.map WatermarkText.strftime := by
  cases bound with
  | none => exact ⟨none, nofun, rfl⟩
  | some text =>
    obtain ⟨civil, wide, rfl⟩ := canonical.time
    exact ⟨some civil, wide_some wide, rfl⟩

theorem canonical_strftime {civil : Civil} (wide : fixedWidthYear ≤ civil.date.year) :
    Canonical (some (WatermarkText.strftime civil)) := by
  rintro text ⟨⟩
  exact ⟨WatermarkText.isCanonicalWatermark_strftime wide, WatermarkText.strftime_ne_epoch civil⟩

theorem toAthenaTimestampLiteral_strftime {civil : Civil}
    (wide : fixedWidthYear ≤ civil.date.year) :
    toAthenaTimestampLiteral (WatermarkText.strftime civil) = some (literalText civil) := by
  rw [toAthenaTimestampLiteral, WatermarkText.parseWatermark_strftime wide, Option.map_some]

theorem boundClause_strftime {civil : Option Civil} (wide : Wide civil)
    (clause : List Char → List Char) :
    boundClause clause (civil.map WatermarkText.strftime) =
      some (((civil.map literalText).map clause).getD []) := by
  cases civil with
  | none => rfl
  | some civil =>
    rw [Option.map_some, boundClause, toAthenaTimestampLiteral_strftime (wide civil rfl)]
    rfl

theorem given_strftime (civil : Option Civil) :
    given (civil.map WatermarkText.strftime) = civil.map WatermarkText.strftime := by
  cases civil with
  | none => rfl
  | some civil =>
    have later : WatermarkText.strftime civil ≠ "" := WatermarkText.strftime_ne_epoch civil
    simp [given, later]

theorem map_meaning {civil : Option Civil} (wide : Wide civil) :
    (civil.map WatermarkText.strftime).map WatermarkText.meaning = upToMark civil := by
  cases civil with
  | none => rfl
  | some civil => exact congrArg some (WatermarkText.meaning_strftime (wide civil rfl))

theorem mark_strftime {civil : Option Civil} (wide : Wide civil) :
    mark (civil.map WatermarkText.strftime) = sinceMark civil := by
  rw [mark, map_meaning wide]
  rfl

theorem quote_not_mem_toDigits (n : Nat) : '\'' ∉ Nat.toDigits 10 n := fun member =>
  absurd (Nat.isDigit_of_mem_toDigits (by decide) (by decide) member) (by decide)

theorem quote_not_mem_pad (width n : Nat) : '\'' ∉ Decimal.pad width n := fun member =>
  absurd (List.all_eq_true.mp (Decimal.digits_pad width n) _ member) (by decide)

theorem unquoted_literalText (civil : Option Civil) :
    ∀ ts ∈ civil.map literalText, Unquoted ts := by
  intro ts member
  obtain ⟨civil, _, rfl⟩ := Option.map_eq_some_iff.mp member
  simp [Unquoted, literalText, quote_not_mem_toDigits, quote_not_mem_pad]

end Bounds

section Texts
variable {bucketName : String} {lower upper : Option Civil}

theorem parse_buildQuery (plain : PlainName bucketName) (wide : Wide lower) (wide' : Wide upper) :
    (buildQuery (bucketNamespace bucketName) bucketName (lower.map WatermarkText.strftime)
      (upper.map WatermarkText.strftime)).map parse =
        some (some (windowQuery bucketName (lower.map literalText) (upper.map literalText))) := by
  rw [buildQuery, boundClause_strftime wide, Option.bind_some, boundClause_strftime wide',
    Option.map_some, Option.map_some]
  exact congrArg some (parse_window plain (unquoted_literalText lower) (unquoted_literalText upper))

theorem parse_buildBoundaryQuery (plain : PlainName bucketName) (wide : Wide lower) (rowCap : Nat) :
    (buildBoundaryQuery (bucketNamespace bucketName) bucketName
      (lower.map WatermarkText.strftime) rowCap).map parse =
      some (some (rankQuery bucketName (lower.map literalText) none false (rowCap - 1))) := by
  have read := parse_rank plain (unquoted_literalText lower)
    (unquoted_literalText none) false (rowCap - 1)
  rw [Option.map_none, upperText, Option.map_none, Option.getD_none, List.append_nil] at read
  rw [buildBoundaryQuery, boundClause_strftime wide, Option.map_some, Option.map_some]
  exact congrArg some read

theorem parse_buildTailCountQuery (plain : PlainName bucketName) {start stop : Civil}
    (wide : fixedWidthYear ≤ start.date.year) (wide' : fixedWidthYear ≤ stop.date.year) :
    (buildTailCountQuery (bucketNamespace bucketName) bucketName (WatermarkText.strftime start)
      (WatermarkText.strftime stop)).map parse =
        some (some (countQuery bucketName (some (literalText start))
          (some (literalText stop)))) := by
  rw [buildTailCountQuery, toAthenaTimestampLiteral_strftime wide, Option.bind_some,
    toAthenaTimestampLiteral_strftime wide', Option.map_some, Option.map_some]
  exact congrArg some (parse_tailCount plain (unquoted_literalText (some start) _ rfl)
    (unquoted_literalText (some stop) _ rfl))

theorem parse_buildTailFloorQuery (plain : PlainName bucketName) {start stop : Civil}
    (wide : fixedWidthYear ≤ start.date.year) (wide' : fixedWidthYear ≤ stop.date.year)
    (tailAllowance : Nat) :
    (buildTailFloorQuery (bucketNamespace bucketName) bucketName (WatermarkText.strftime start)
      (WatermarkText.strftime stop) tailAllowance).map parse =
        some (some (rankQuery bucketName (some (literalText start)) (some (literalText stop))
          true tailAllowance)) := by
  rw [buildTailFloorQuery, toAthenaTimestampLiteral_strftime wide, Option.bind_some,
    toAthenaTimestampLiteral_strftime wide', Option.map_some, Option.map_some]
  exact congrArg some (parse_rank plain (unquoted_literalText (some start))
    (unquoted_literalText (some stop)) true
    tailAllowance)

theorem parse_preflightQuery (plain : PlainName bucketName) (wide : Wide lower) (wide' : Wide upper)
    (rules : List DerivedReplicationRule) :
    (preflightQuery (bucketNamespace bucketName) bucketName rules (lower.map WatermarkText.strftime)
      (upper.map WatermarkText.strftime)).map parse =
        some (some (candidatesQuery bucketName rules (lower.map literalText)
          (upper.map literalText))) := by
  rw [preflightQuery, given_strftime, given_strftime, boundClause_strftime wide, Option.bind_some,
    boundClause_strftime wide', Option.map_some, Option.map_some]
  exact congrArg some (parse_candidates plain (unquoted_literalText lower)
    (unquoted_literalText upper) rules)

theorem parse_permanentDeletesQuery (plain : PlainName bucketName) (wide : Wide lower) :
    (permanentDeletesQuery (bucketNamespace bucketName) bucketName
      (lower.map WatermarkText.strftime)).map parse =
      some (some (deletesQuery bucketName (lower.map literalText))) := by
  rw [permanentDeletesQuery, given_strftime, boundClause_strftime wide, Option.map_some,
    Option.map_some]
  exact congrArg some (parse_deletes plain (unquoted_literalText lower))

end Texts

end ReplicateOnTag.JournalSession

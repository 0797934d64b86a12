import ReplicateOnTag.Core.Watermark
import ReplicateOnTag.Library.IsoTime
import ReplicateOnTag.Library.UnicodeDigits
import Mathlib.Data.List.TakeWhile

/-! The canonical text of a watermark, `%Y-%m-%dT%H:%M:%S.%fZ`, and its order.
`%Y` writes a year below 1000 with fewer than four digits, so only later years
have a text of fixed width. `strptime` also takes single digits, other decimal
digits, a blank before the day and letters of either case, which no round trip
gives back. -/
namespace ReplicateOnTag.WatermarkText
open CivilTime
open Decimal
open IsoTime

section Text

/-- `EPOCH_WATERMARK`. -/
def epochWatermark : String := ""

def fieldsText (civil : Civil) : List Char :=
  '-' :: (pad 2 civil.date.month ++ '-' ::
    (pad 2 civil.date.day ++ 'T' :: (pad 2 civil.clock.hour ++
    ':' :: (pad 2 civil.clock.minute ++ ':' :: (pad 2 civil.clock.second ++
      '.' :: (pad 6 civil.clock.microsecond ++ ['Z']))))))

/-- `strftime(_CANONICAL_FORMAT)`. -/
def strftime (civil : Civil) : String :=
  String.ofList (Nat.toDigits 10 civil.date.year ++ fieldsText civil)

/-- `%Y`: four digits of any script. -/
def readYear (input : List Char) : Option (Nat × List Char) :=
  let digits := input.take 4
  if digits.length = 4 ∧ digits.all UnicodeDigits.isDecimal then
    (UnicodeDigits.readDecimal digits).map fun year => (year, input.drop 4)
  else none

/-- A directive of one digit or two. Which digits are of any script is up to its expression. -/
structure Directive where
  /-- A digit on its own. -/
  alone : Char → Bool
  /-- The first digits after which any other may stand. -/
  any : Char → Bool
  /-- A blank may take the place of the first digit. -/
  blank : Bool

/-- `1[0-2]|0[1-9]|[1-9]`, within the range of a date. -/
def monthDirective : Directive := ⟨Char.isDigit, fun _ => false, false⟩

/-- `3[0-1]|[1-2]\d|0[1-9]|[1-9]| [1-9]`. -/
def dayDirective : Directive := ⟨Char.isDigit, fun c => c = '1' || c = '2', true⟩

/-- `2[0-3]|[0-1]\d|\d`. -/
def hourDirective : Directive := ⟨UnicodeDigits.isDecimal, fun c => c = '0' || c = '1', false⟩

/-- `[0-5]\d|\d`, of the seconds as well: no time has a second of 60 or 61. -/
def minuteDirective : Directive := ⟨UnicodeDigits.isDecimal, fun _ => true, false⟩

def Directive.both (directive : Directive) (c d : Char) : Bool :=
  c.isDigit && (d.isDigit || directive.any c && UnicodeDigits.isDecimal d)

/-- Two digits where there are two: what comes after a directive is no digit. -/
def readField (directive : Directive) : List Char → Option (Nat × List Char)
  | [] => none
  | [c] => if directive.alone c then (UnicodeDigits.readDecimal [c]).map fun n => (n, []) else none
  | c :: d :: rest =>
      if directive.both c d then (UnicodeDigits.readDecimal [c, d]).map fun n => (n, rest)
      else if directive.blank && c = ' ' &&
        d.isDigit then (UnicodeDigits.readDecimal [d]).map fun n => (n, rest)
      else if directive.alone c then (UnicodeDigits.readDecimal [c]).map fun n => (n, d :: rest)
      else none

/-- The digits at the front, at least one and at most `width`. -/
def readDigits (width : Nat) (input : List Char) : Option (List Char × List Char) :=
  let digits := (input.take width).takeWhile Char.isDigit
  if digits = [] then none else some (digits, input.drop digits.length)

/-- `%f`: up to six digits, filled up with zeros on the right. -/
def readMicros (input : List Char) : Option (Nat × List Char) :=
  (readDigits 6 input).map fun (digits, rest) => (number digits * 10 ^ (6 - digits.length), rest)

/-- A letter of the format, which the text may have in either case. -/
def expectLetter (own : Char) : List Char → Option (List Char)
  | [] => none
  | c :: rest => if c.toUpper = own then some rest else none

def readClock (date : Date) (input : List Char) : Option Civil :=
  (readField hourDirective input).bind fun (hour, rest) => (expect ':' rest).bind fun rest =>
    (readField minuteDirective rest).bind fun (minute, rest) => (expect ':' rest).bind fun rest =>
      (readField minuteDirective rest).bind fun (second, rest) => (expect '.' rest).bind fun rest =>
        (readMicros rest).bind fun (micros, rest) => (expectLetter 'Z' rest).bind fun rest =>
          if rest = [] then (makeClock hour minute second micros).map fun clock =>
            ⟨date, clock⟩ else none

/-- `datetime.strptime(value, _CANONICAL_FORMAT)`; `none` is a `ValueError`. -/
def strptime (value : String) : Option Civil :=
  (readYear value.toList).bind fun (year, rest) => (expect '-' rest).bind fun rest =>
    (readField monthDirective rest).bind fun (month, rest) => (expect '-' rest).bind fun rest =>
      (readField dayDirective rest).bind fun (day, rest) => (expectLetter 'T' rest).bind fun rest =>
        (makeDate year month day).bind fun date => readClock date rest

def isCanonicalWatermark (value : String) : Bool :=
  if value = epochWatermark then true
  else
    match strptime value with
    | none => false
    | some parsed => strftime parsed = value

/-- `none` is a `ValueError`. -/
def parseWatermark (value : String) : Option Civil :=
  if value = epochWatermark then none else strptime value

/-- `none` is an `OverflowError`: there is no time a day after `now`. -/
def isPlausibleWatermark (value : String) (now : Civil) : Option Bool :=
  if isCanonicalWatermark value = false then some false
  else if value = epochWatermark then some true
  else (parseWatermark value).bind fun parsed =>
    (now.add Watermark.maxFutureSkew).map fun limit => parsed.instant ≤ limit.instant

/-- The UTC time of a datetime; a naive one is taken to be UTC. -/
def astimezone (dt : Datetime) : Option Civil :=
  match dt.offset with
  | none => some dt.civil
  | some offset => dt.civil.add (-offset.micros)

/-- `none` is an `OverflowError`. -/
def toWatermark (dt : Datetime) : Option String := (astimezone dt).map strftime

def subtract (watermark : String) (lookback : Lookback) : Option String :=
  if watermark = epochWatermark then some epochWatermark
  else (parseWatermark watermark).bind fun parsed =>
    (parsed.add (-(lookback : Int))).bind fun start => toWatermark ⟨start, some utc⟩

end Text

section Canonical

/-- From this year on the text has its fixed width. -/
def fixedWidthYear : Nat := 1000

theorem year_text {civil : Civil} (wide : fixedWidthYear ≤ civil.date.year) :
    Nat.toDigits 10 civil.date.year = pad 4 civil.date.year := by
  have short := civil.date.yearInRange.2
  rw [maxYear] at short
  rw [fixedWidthYear] at wide
  have atMost := (Nat.length_toDigits_le_iff (b := 10) (k := 4) (n := civil.date.year)
    (by decide) (by decide)).mpr
    (by omega)
  have more : ¬ (Nat.toDigits 10 civil.date.year).length ≤ 3 := by
    rw [Nat.length_toDigits_le_iff (by decide) (by decide)]
    omega
  have none : 4 - (Nat.toDigits 10 civil.date.year).length = 0 := by omega
  rw [pad, none, List.replicate_zero, List.nil_append]

theorem readDigits_pad {width n : Nat} (pos : 0 < width)
    (fits : n < 10 ^ width) (rest : List Char) :
    readDigits width (pad width n ++ rest) = some (pad width n, rest) := by
  have length := length_pad pos fits
  have taken : (pad width n ++ rest).take width = pad width n := List.take_left' length
  have whole : (pad width n).takeWhile Char.isDigit = pad width n :=
    List.takeWhile_eq_self_iff.mpr (List.all_eq_true.mp (digits_pad width n))
  have nonempty : pad width n ≠ [] := by
    intro empty
    rw [empty, List.length_nil] at length
    omega
  rw [readDigits, taken, whole, if_neg nonempty, List.drop_left' rfl]

theorem readDecimal_pad (width n : Nat) : UnicodeDigits.readDecimal (pad width n) = some n :=
  (UnicodeDigits.readDecimal_of_isDigit (digits_pad width n)).trans
    (congrArg some (number_pad width n))

theorem readYear_pad {n : Nat} (small : n < 10000) (rest : List Char) :
    readYear (pad 4 n ++ rest) = some (n, rest) := by
  have length := length_pad (by decide) (show n < 10 ^ 4 from small)
  have taken : (pad 4 n ++ rest).take 4 = pad 4 n := List.take_left' length
  have decimal : (pad 4 n).all UnicodeDigits.isDecimal := List.all_eq_true.mpr fun c member =>
    UnicodeDigits.isDecimal_of_isDigit (List.all_eq_true.mp (digits_pad 4 n) c member)
  rw [readYear, taken, if_pos ⟨length, decimal⟩, readDecimal_pad, Option.map_some,
    List.drop_left' length]

theorem readField_pad {n : Nat} (small : n < 100) (directive : Directive) (rest : List Char) :
    readField directive (pad 2 n ++ rest) = some (n, rest) := by
  have length := length_pad (by decide) (show n < 10 ^ 2 from small)
  have digits := digits_pad 2 n
  have value := readDecimal_pad 2 n
  obtain ⟨c, d, same⟩ := List.length_eq_two.mp length
  rw [same, List.all_cons, List.all_cons, Bool.and_eq_true, Bool.and_eq_true] at digits
  have both : directive.both c d = true := by
    rw [Directive.both, digits.1, digits.2.1, Bool.true_or, Bool.and_self]
  rw [same] at value
  rw [same, List.cons_append, List.cons_append, List.nil_append, readField, if_pos both, value,
    Option.map_some]

theorem readMicros_pad {micros : Nat} (small : micros < 1000000) (rest : List Char) :
    readMicros (pad 6 micros ++ rest) = some (micros, rest) := by
  rw [readMicros, readDigits_pad (by decide) small, Option.map_some]
  dsimp only
  rw [number_pad, length_pad (by decide) small]
  exact congrArg (fun micros => some (micros, rest)) (Nat.mul_one micros)

theorem readClock_text (civil : Civil) : readClock civil.date (pad 2 civil.clock.hour ++
    ':' :: (pad 2 civil.clock.minute ++ ':' :: (pad 2 civil.clock.second ++
      '.' :: (pad 6 civil.clock.microsecond ++ ['Z'])))) = some civil := by
  have hour := civil.clock.hourInRange
  have minute := civil.clock.minuteInRange
  have second := civil.clock.secondInRange
  rw [readClock, readField_pad (by omega) _, Option.bind_some]
  dsimp only
  rw [expect_cons, Option.bind_some, readField_pad (by omega) _, Option.bind_some]
  dsimp only
  rw [expect_cons, Option.bind_some, readField_pad (by omega) _, Option.bind_some]
  dsimp only
  rw [expect_cons, Option.bind_some, readMicros_pad civil.clock.microsecondInRange,
    Option.bind_some]
  dsimp only
  have last : expectLetter 'Z' ['Z'] = some [] := rfl
  rw [last, Option.bind_some, if_pos rfl, makeClock_self]
  rfl

theorem strptime_strftime {civil : Civil} (wide : fixedWidthYear ≤ civil.date.year) :
    strptime (strftime civil) = some civil := by
  have year := civil.date.yearInRange.2
  have month := civil.date.monthInRange.2
  have day := civil.date.dayInRange.2.trans (daysInMonth_pos _ _).2
  rw [maxYear] at year
  rw [strftime, strptime, String.toList_ofList, year_text wide, readYear_pad (by omega),
    Option.bind_some]
  dsimp only
  rw [fieldsText, expect_cons, Option.bind_some, readField_pad (by omega) _, Option.bind_some]
  dsimp only
  rw [expect_cons, Option.bind_some, readField_pad (by omega) _, Option.bind_some]
  dsimp only
  have letter (rest : List Char) : expectLetter 'T' ('T' :: rest) = some rest := rfl
  rw [letter, Option.bind_some, makeDate_self, Option.bind_some, readClock_text]

/-- Four digits and a dash do not begin the text of a shorter year. -/
theorem fixedWidth_of_read {value : String} {parsed civil : Civil}
    (read : strptime value = some parsed)
    (same : strftime civil = value) : fixedWidthYear ≤ civil.date.year := by
  by_contra short
  rw [fixedWidthYear, Nat.not_le] at short
  have length := (Nat.length_toDigits_le_iff (b := 10) (k := 3) (n := civil.date.year) (by decide)
    (by decide)).mpr short
  have four : (value.toList.take 4).all UnicodeDigits.isDecimal := by
    rw [strptime, readYear] at read
    split at read
    · rename_i digits
      exact digits.2
    · cases read
  have dash : '-' ∈ value.toList.take 4 := by
    rw [← same, strftime, String.toList_ofList, fieldsText, List.take_append]
    refine List.mem_append_right _ ?_
    obtain ⟨more, more_eq⟩ : ∃ more, 4 - (Nat.toDigits 10 civil.date.year).length = more + 1 :=
      ⟨3 - (Nat.toDigits 10 civil.date.year).length, by omega⟩
    rw [more_eq, List.take_succ_cons]
    exact List.mem_cons_self
  exact absurd (List.all_eq_true.mp four '-' dash) (by decide)

theorem isCanonicalWatermark_strftime {civil : Civil} (wide : fixedWidthYear ≤ civil.date.year) :
    isCanonicalWatermark (strftime civil) := by
  rw [isCanonicalWatermark, strptime_strftime wide]
  split
  · rfl
  · exact decide_eq_true rfl

/-- A canonical watermark is the epoch or the text of a time. -/
theorem isCanonicalWatermark_iff (value : String) : isCanonicalWatermark value ↔
    value = epochWatermark ∨ ∃ civil : Civil, fixedWidthYear ≤ civil.date.year ∧
      value = strftime civil := by
  constructor
  · intro canonical
    rw [isCanonicalWatermark] at canonical
    by_cases first : value = epochWatermark
    · exact .inl first
    · rw [if_neg first] at canonical
      cases read : strptime value with
      | none =>
        rw [read] at canonical
        cases canonical
      | some parsed =>
        rw [read] at canonical
        have same := of_decide_eq_true canonical
        exact .inr ⟨parsed, fixedWidth_of_read read same, same.symm⟩
  · rintro (rfl | ⟨civil, wide, rfl⟩)
    · rfl
    · exact isCanonicalWatermark_strftime wide

end Canonical

section Order

theorem strftime_ne_epoch (civil : Civil) : strftime civil ≠ epochWatermark := by
  intro same
  have empty := congrArg String.toList same
  rw [strftime, String.toList_ofList, epochWatermark, fieldsText] at empty
  exact absurd empty (List.append_ne_nil_of_right_ne_nil _ (List.cons_ne_nil _ _))

/-- Nothing sorts below the epoch. -/
theorem epoch_lt_strftime (civil : Civil) : epochWatermark < strftime civil := by
  have nonempty := strftime_ne_epoch civil
  rw [String.lt_iff_toList_lt]
  cases text : (strftime civil).toList with
  | nil => exact absurd (String.toList_inj.mp text) nonempty
  | cons c rest => exact List.nil_lt_cons c rest

/-- Texts of fixed width sort as the times they stand for. -/
theorem strftime_lt_iff {first second : Civil} (wide : fixedWidthYear ≤ first.date.year)
    (wide' : fixedWidthYear ≤ second.date.year) :
    strftime first < strftime second ↔ first.instant < second.instant := by
  have year := first.date.yearInRange.2
  have month := first.date.monthInRange.2
  have day := first.date.dayInRange.2.trans (daysInMonth_pos _ _).2
  have hour := first.clock.hourInRange
  have minute := first.clock.minuteInRange
  have second_ := first.clock.secondInRange
  have year' := second.date.yearInRange.2
  have month' := second.date.monthInRange.2
  have day' := second.date.dayInRange.2.trans (daysInMonth_pos _ _).2
  have hour' := second.clock.hourInRange
  have minute' := second.clock.minuteInRange
  have second' := second.clock.secondInRange
  rw [maxYear] at year year'
  rw [String.lt_iff_toList_lt, strftime, strftime, String.toList_ofList, String.toList_ofList,
    year_text wide, year_text wide', fieldsText, fieldsText]
  rw [pad_append_lt_iff (by omega) (by omega) (by omega), cons_lt_cons_self_iff,
    pad_two_lt_iff (by omega) (by omega), cons_lt_cons_self_iff,
    pad_two_lt_iff (by omega) (by omega), cons_lt_cons_self_iff,
    pad_two_lt_iff (by omega) (by omega), cons_lt_cons_self_iff,
    pad_two_lt_iff (by omega) (by omega), cons_lt_cons_self_iff,
    pad_two_lt_iff (by omega) (by omega), cons_lt_cons_self_iff,
    pad_append_lt_iff (by omega) first.clock.microsecondInRange second.clock.microsecondInRange,
    cons_lt_cons_self_iff, Civil.instant_lt_iff, Civil.Before, Date.Before, Clock.Before]
  have date : first.date = second.date ↔ first.date.year = second.date.year ∧
      first.date.month = second.date.month ∧ first.date.day = second.date.day := by
    cases first.date
    cases second.date
    simp
  rw [date]
  have last : ¬ ([] : List Char) < [] := lt_irrefl _
  simp only [last, and_false, or_false]
  omega

end Order

section Meaning

/-- The watermark that a canonical text stands for. -/
def meaning (value : String) : Watermark :=
  match parseWatermark value with
  | none => Watermark.epoch
  | some parsed => Watermark.toWatermark parsed.instant

theorem parseWatermark_strftime {civil : Civil} (wide : fixedWidthYear ≤ civil.date.year) :
    parseWatermark (strftime civil) = some civil := by
  rw [parseWatermark, if_neg (strftime_ne_epoch civil), strptime_strftime wide]

theorem meaning_strftime {civil : Civil} (wide : fixedWidthYear ≤ civil.date.year) :
    meaning (strftime civil) = Watermark.toWatermark civil.instant := by
  rw [meaning, parseWatermark_strftime wide]

/-- Canonical texts sort as the watermarks they stand for. -/
theorem lt_iff_meaning_lt {first second : String} (canonical : isCanonicalWatermark first)
    (canonical' : isCanonicalWatermark second) : first < second ↔
      meaning first < meaning second := by
  rcases (isCanonicalWatermark_iff first).mp canonical with rfl | ⟨civil, wide, rfl⟩
  · rcases (isCanonicalWatermark_iff second).mp canonical' with rfl | ⟨civil, wide, rfl⟩
    · exact iff_of_false (lt_irrefl _) (lt_irrefl _)
    · rw [meaning_strftime wide]
      exact iff_of_true (epoch_lt_strftime civil) (Watermark.epoch_lt_toWatermark _)
  · rcases (isCanonicalWatermark_iff second).mp canonical' with rfl | ⟨other, wide', rfl⟩
    · rw [meaning_strftime wide]
      exact iff_of_false (epoch_lt_strftime civil).asymm (Watermark.epoch_lt_toWatermark _).asymm
    · rw [meaning_strftime wide, meaning_strftime wide', Watermark.toWatermark_lt_toWatermark,
        strftime_lt_iff wide wide']

theorem le_iff_meaning_le {first second : String} (canonical : isCanonicalWatermark first)
    (canonical' : isCanonicalWatermark second) : first ≤ second ↔
      meaning first ≤ meaning second := by
  rw [← not_lt, ← not_lt, lt_iff_meaning_lt canonical' canonical]

theorem meaning_eq_epoch_iff {value : String} (canonical : isCanonicalWatermark value) :
    value = epochWatermark ↔ meaning value = Watermark.epoch := by
  rcases (isCanonicalWatermark_iff value).mp canonical with rfl | ⟨civil, wide, rfl⟩
  · exact iff_of_true rfl rfl
  · rw [meaning_strftime wide]
    exact iff_of_false (strftime_ne_epoch civil) (Watermark.epoch_lt_toWatermark _).ne'

/-- Where `now` has a next day, plausibility is the bound on what the text stands for. -/
theorem isPlausibleWatermark_eq {now limit : Civil}
    (ahead : now.add Watermark.maxFutureSkew = some limit)
    (value : String) : isPlausibleWatermark value now =
      some (isCanonicalWatermark value && Watermark.isPlausible (meaning value) now.instant) := by
  have instant := Civil.instant_of_ofInstant ahead
  rw [isPlausibleWatermark]
  cases canonical : isCanonicalWatermark value with
  | false => rfl
  | true =>
    rw [if_neg (by decide)]
    rcases (isCanonicalWatermark_iff value).mp canonical with rfl | ⟨civil, wide, rfl⟩
    · rfl
    · rw [if_neg (strftime_ne_epoch civil), parseWatermark_strftime wide, ahead,
        meaning_strftime wide, Bool.true_and, Watermark.isPlausible, Option.bind_some,
        Option.map_some, instant]
      simp only [Watermark.toWatermark_le_toWatermark]

/-- A plausible watermark is canonical, and if it is not the epoch then `now` has a next day. -/
theorem isPlausibleWatermark_cases {value : String} {now : Civil}
    (credible : isPlausibleWatermark value now = some true) :
    isCanonicalWatermark value ∧
      (value = epochWatermark ∨ ∃ limit, now.add Watermark.maxFutureSkew = some limit ∧
      meaning value ≤ Watermark.toWatermark limit.instant) := by
  cases ahead : now.add Watermark.maxFutureSkew with
  | none =>
    rw [isPlausibleWatermark] at credible
    cases canonical : isCanonicalWatermark value with
    | false =>
      rw [canonical, if_pos rfl] at credible
      cases credible
    | true =>
      refine ⟨rfl, .inl ?_⟩
      by_contra later
      rw [canonical, if_neg (by decide), if_neg later, ahead] at credible
      cases read : parseWatermark value with
      | none =>
        rw [read] at credible
        cases credible
      | some parsed =>
        rw [read] at credible
        cases credible
  | some limit =>
    have bound := isPlausibleWatermark_eq ahead value
    rw [credible, Option.some.injEq, eq_comm, Bool.and_eq_true, Watermark.isPlausible,
      decide_eq_true_eq, ← Civil.instant_of_ofInstant ahead] at bound
    exact ⟨bound.1, .inr ⟨limit, rfl, bound.2⟩⟩

/-- An aware or naive datetime on the UTC time line. -/
def utcInstant (dt : Datetime) : Instant := dt.civil.instant - (dt.offset.map Offset.micros).getD 0

theorem instant_astimezone {dt : Datetime} {civil : Civil} (read : astimezone dt = some civil) :
    civil.instant = utcInstant dt := by
  rw [astimezone] at read
  rw [utcInstant]
  cases offset : dt.offset with
  | none =>
    rw [offset] at read
    rw [← Option.some.inj read, Option.map_none, Option.getD_none, Int.sub_zero]
  | some offset_ =>
    rw [offset] at read
    rw [Civil.instant_of_ofInstant read, Option.map_some, Option.getD_some, Int.sub_eq_add_neg]

theorem toWatermark_utc (civil : Civil) : toWatermark ⟨civil, some utc⟩ =
    some (strftime civil) := by
  have same : civil.add (-utc.micros) = some civil := by
    have zero : civil.instant + -utc.micros = civil.instant := Int.add_zero _
    rw [Civil.add, zero, Civil.ofInstant_instant]
  rw [toWatermark, astimezone]
  dsimp only
  rw [same, Option.map_some]

/-- Subtraction shifts the time that the text stands for. -/
theorem meaning_subtract {watermark start : String} {lookback : Lookback}
    (canonical : isCanonicalWatermark watermark) (read : subtract watermark lookback = some start)
    (canonical' : isCanonicalWatermark start) :
    meaning start = Watermark.subtract (meaning watermark) lookback := by
  rw [subtract] at read
  rcases (isCanonicalWatermark_iff watermark).mp canonical with rfl | ⟨civil, wide, rfl⟩
  · rw [if_pos rfl, Option.some.injEq] at read
    rw [← read]
    rfl
  · rw [if_neg (strftime_ne_epoch civil), parseWatermark_strftime wide, Option.bind_some] at read
    cases shifted : civil.add (-(lookback : Int)) with
    | none =>
      rw [shifted] at read
      cases read
    | some earlier =>
      rw [shifted, Option.bind_some, toWatermark_utc, Option.some.injEq] at read
      rw [← read] at canonical' ⊢
      rcases (isCanonicalWatermark_iff _).mp canonical' with none | ⟨other, wide', same⟩
      · exact absurd none (strftime_ne_epoch earlier)
      · have wide_ := fixedWidth_of_read (strptime_strftime wide') same
        rw [meaning_strftime wide_, meaning_strftime wide, Watermark.subtract_toWatermark,
          Civil.instant_of_ofInstant shifted]
        rfl

end Meaning
end ReplicateOnTag.WatermarkText

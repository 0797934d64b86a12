import ReplicateOnTag.Core.JournalDedup
import ReplicateOnTag.Core.WatermarkText

/-! `_parse_event_time`: the timestamps of result rows, in any of six formats. A
blank of a format stands for any white space. -/
namespace ReplicateOnTag.EventTime
open CivilTime Decimal IsoTime WatermarkText

section Formats

/-- `%Y-%m-%d{separator}%H:%M:%S{.%f}{zone}`. -/
structure Format where
  separator : Char
  fraction : Bool
  zone : List Char
  deriving DecidableEq

def formats : List Format :=
  [⟨' ', true, [' ', 'U', 'T', 'C']⟩, ⟨' ', false, [' ', 'U', 'T', 'C']⟩,
    ⟨' ', true, []⟩, ⟨' ', false, []⟩,
    ⟨'T', true, ['Z']⟩, ⟨'T', false, ['Z']⟩]

/-- One character of a format that is not a directive. -/
def readOwn (own : Char) : List Char → Option (List Char)
  | [] => none
  | c :: rest =>
      if own = ' ' then if WhiteSpace.isSpace c
        then some (rest.dropWhile WhiteSpace.isSpace) else none
      else expectLetter own (c :: rest)

def readOwns : List Char → List Char → Option (List Char)
  | [], input => some input
  | own :: owns, input => (readOwn own input).bind (readOwns owns)

def readSecondFraction (fraction : Bool) (input : List Char) : Option (Nat × List Char) :=
  if fraction then (expect '.' input).bind readMicros else some (0, input)

/-- What stands after the seconds; nothing may stand after the zone. -/
def readTail (format : Format) (input : List Char) : Option Nat :=
  (readSecondFraction format.fraction input).bind fun (micros, rest) =>
    (readOwns format.zone rest).bind fun rest => if rest = [] then some micros else none

def readTime (format : Format) (date : Date) (input : List Char) : Option Civil :=
  (readField hourDirective input).bind fun (hour, rest) => (expect ':' rest).bind fun rest =>
    (readField minuteDirective rest).bind fun (minute, rest) => (expect ':' rest).bind fun rest =>
      (readField minuteDirective rest).bind fun (second, rest) =>
          (readTail format rest).bind fun micros =>
        (makeClock hour minute second micros).map fun clock => ⟨date, clock⟩

/-- `datetime.strptime(raw, format)`; `none` is a `ValueError`. -/
def readStamp (format : Format) (input : List Char) : Option Civil :=
  (readYear input).bind fun (year, rest) => (expect '-' rest).bind fun rest =>
    (readField monthDirective rest).bind fun (month, rest) => (expect '-' rest).bind fun rest =>
      (readField dayDirective rest).bind fun (day, rest) =>
          (readOwn format.separator rest).bind fun rest =>
        (makeDate year month day).bind fun date => readTime format date rest

/-- `_parse_event_time`: a time of UTC. -/
def parseEventTime (raw : String) : Option Civil :=
  if raw = "" then none else formats.findSome? fun format => readStamp format raw.toList

end Formats

section Printed

/-- The text of a time, with what stands between its date and clock and after its seconds. -/
def stampText (separator : Char) (tail : List Char) (dt : Civil) : List Char :=
  pad 4 dt.date.year ++ '-' :: (pad 2 dt.date.month ++ '-' :: (pad 2 dt.date.day ++ separator ::
    (pad 2 dt.clock.hour ++ ':' ::
      (pad 2 dt.clock.minute ++ ':' :: (pad 2 dt.clock.second ++ tail)))))

/-- The digits of the fraction lose nothing of the microseconds. -/
inductive Fraction (micros : Nat) : List Char → Prop where
  | whole (zero : micros = 0) : Fraction micros []
  | digits (width n : Nat) (pos : 0 < width) (short : width ≤ 6) (fits : n < 10 ^ width)
      (exact_ : micros = n * 10 ^ (6 - width)) : Fraction micros ('.' :: pad width n)

/-- A text that the engine may show a time as. -/
def Shows (dt : Civil) (text : List Char) : Prop :=
  ∃ separator fraction zone,
    (separator, zone) ∈ [(' ', [' ', 'U', 'T', 'C']), (' ', []), ('T', ['Z'])] ∧
    Fraction dt.clock.microsecond fraction ∧ text = stampText separator (fraction ++ zone) dt

theorem pad_head (width : Nat) {n : Nat} (pos : 0 < width) (fits : n < 10 ^ width) : ∃ c rest,
    pad width n = c :: rest ∧
    c.isDigit = true := by
  have length := length_pad pos fits
  obtain ⟨c, rest, same⟩ := List.exists_cons_of_ne_nil (l := pad width n) (by
    intro empty
    rw [empty, List.length_nil] at length
    omega)
  have digits := digits_pad width n
  rw [same, List.all_cons, Bool.and_eq_true] at digits
  exact ⟨c, rest, same, digits.1⟩

theorem readOwn_other (known : separator = ' ' ∨ separator = 'T') (known' : own = ' ' ∨ own = 'T')
    (other : own ≠ separator) (rest : List Char) : readOwn own (separator :: rest) = none := by
  rcases known with rfl | rfl <;> rcases known' with rfl | rfl
  · exact absurd rfl other
  · rfl
  · rfl
  · exact absurd rfl other

theorem readOwn_self {n : Nat} (small : n < 100) (rest : List Char)
    (known : separator = ' ' ∨ separator = 'T') :
    readOwn separator (separator :: (pad 2 n ++ rest)) = some (pad 2 n ++ rest) := by
  rcases known with rfl | rfl
  · obtain ⟨c, more, same, digit⟩ := pad_head 2 (by decide) small
    have visible := WhiteSpace.isSpace_of_isDigit digit
    have kept : (c :: more ++ rest).dropWhile WhiteSpace.isSpace = c :: more ++ rest :=
      List.dropWhile_cons_of_neg (by rw [visible]; exact Bool.false_ne_true)
    rw [same]
    exact congrArg some kept
  · rfl

theorem readTime_text (format : Format) (dt : Civil) (tail : List Char) :
    readTime format dt.date (pad 2 dt.clock.hour ++ ':' :: (pad 2 dt.clock.minute ++ ':' ::
      (pad 2 dt.clock.second ++ tail))) =
        (readTail format tail).bind fun micros =>
          (makeClock dt.clock.hour dt.clock.minute dt.clock.second micros).map fun clock =>
            ⟨dt.date, clock⟩ := by
  have hour := dt.clock.hourInRange
  have minute := dt.clock.minuteInRange
  have second := dt.clock.secondInRange
  rw [readTime, readField_pad (by omega) _, Option.bind_some]
  dsimp only
  rw [expect_cons, Option.bind_some, readField_pad (by omega) _, Option.bind_some]
  dsimp only
  rw [expect_cons, Option.bind_some, readField_pad (by omega) _, Option.bind_some]

theorem readStamp_text {format : Format} (known : separator = ' ' ∨ separator = 'T')
    (known' : format.separator = ' ' ∨ format.separator = 'T') (dt : Civil) (tail : List Char) :
    readStamp format (stampText separator tail dt) =
      if format.separator = separator then
        (readTail format tail).bind fun micros =>
          (makeClock dt.clock.hour dt.clock.minute dt.clock.second micros).map
            fun clock => ⟨dt.date, clock⟩
      else none := by
  have year := dt.date.yearInRange.2
  have month := dt.date.monthInRange.2
  have day := dt.date.dayInRange.2.trans (daysInMonth_pos _ _).2
  have hour := dt.clock.hourInRange
  rw [maxYear] at year
  rw [readStamp, stampText, readYear_pad (by omega), Option.bind_some]
  dsimp only
  rw [expect_cons, Option.bind_some, readField_pad (by omega) _, Option.bind_some]
  dsimp only
  rw [expect_cons, Option.bind_some, readField_pad (by omega) _, Option.bind_some]
  dsimp only
  by_cases same : format.separator = separator
  · rw [if_pos same, same, readOwn_self (by omega) _ known, Option.bind_some, makeDate_self,
      Option.bind_some, readTime_text]
  · rw [if_neg same, readOwn_other known known' same, Option.bind_none]

/-- Up to six digits are read as far as they go. -/
theorem readMicros_digits {width n : Nat} (pos : 0 < width) (short : width ≤ 6)
    (fits : n < 10 ^ width)
    {rest : List Char} (ends : ∀ c ∈ rest.head?, c.isDigit = false) :
    readMicros (pad width n ++ rest) = some (n * 10 ^ (6 - width), rest) := by
  have length := length_pad pos fits
  have whole : ∀ c ∈ pad width n, c.isDigit = true := List.all_eq_true.mp (digits_pad width n)
  have stops : (rest.take (6 - width)).takeWhile Char.isDigit = [] := by
    cases rest with
    | nil => rw [List.take_nil, List.takeWhile_nil]
    | cons c rest =>
      have other := ends c rfl
      cases 6 - width with
      | zero => rfl
      | succ more => rw [List.take_succ_cons,
          List.takeWhile_cons_of_neg (by rw [other]; exact Bool.false_ne_true)]
  have taken : ((pad width n ++ rest).take 6).takeWhile Char.isDigit = pad width n := by
    rw [List.take_append, length, List.take_of_length_le (by omega),
      List.takeWhile_append_of_pos whole, stops, List.append_nil]
  have nonempty : pad width n ≠ [] := by
    intro empty
    rw [empty, List.length_nil] at length
    omega
  rw [readMicros, readDigits, taken, if_neg nonempty, Option.map_some, List.drop_left' rfl]
  dsimp only
  rw [number_pad, length]

def zones : List (List Char) := [[' ', 'U', 'T', 'C'], [], ['Z']]

theorem zone_head (member : zone ∈ zones) : ∀ c ∈ zone.head?, c.isDigit = false := by
  simp only [zones, List.mem_cons, List.not_mem_nil, or_false] at member
  rcases member with rfl | rfl | rfl
  · rintro c ⟨⟩
    rfl
  · rintro c ⟨⟩
  · rintro c ⟨⟩
    rfl

/-- A zone is read by the format that has it, and by no other. -/
theorem readOwns_zone (member : zone ∈ zones) (member' : own ∈ zones) :
    ((readOwns own zone).bind fun rest => if rest = [] then some micros else none) =
      if own = zone then some micros else none := by
  simp only [zones, List.mem_cons, List.not_mem_nil, or_false] at member member'
  rcases member with rfl | rfl | rfl <;> rcases member' with rfl | rfl | rfl <;> rfl

theorem readOwns_point (member : own ∈ zones) (rest : List Char) :
    ((readOwns own ('.' :: rest)).bind fun rest => if rest = [] then some micros
      else none) = none := by
  simp only [zones, List.mem_cons, List.not_mem_nil, or_false] at member
  rcases member with rfl | rfl | rfl <;> rfl

/-- The tail is read by the format of its own shape, and by no other. -/
theorem readTail_text {format : Format} {micros : Nat} (shape : Fraction micros fraction)
    (member : zone ∈ zones)
    (member' : format.zone ∈ zones) :
    readTail format (fraction ++ zone) =
      if format.fraction = !fraction.isEmpty ∧ format.zone = zone then some micros else none := by
  cases shape with
  | whole zero =>
    cases takes : format.fraction with
    | false =>
      rw [readTail, takes]
      refine (readOwns_zone member member').trans ?_
      simp [zero]
    | true =>
      rw [readTail, takes]
      have none_ : (expect '.' zone).bind readMicros = none := by
        simp only [zones, List.mem_cons, List.not_mem_nil, or_false] at member
        rcases member with rfl | rfl | rfl <;> rfl
      simp [readSecondFraction, none_]
  | digits width n pos short fits exact_ =>
    cases takes : format.fraction with
    | false =>
      rw [readTail, takes]
      refine (readOwns_point member' _).trans ?_
      simp
    | true =>
      have read := readMicros_digits pos short fits (zone_head member)
      rw [readTail, takes, readSecondFraction, if_pos rfl, List.cons_append, expect_cons,
        Option.bind_some, read, Option.bind_some]
      refine (readOwns_zone member member').trans ?_
      simp [exact_]

/-- A text is read by the format of its own shape, and by no other. -/
theorem readStamp_shape {format : Format} {dt : Civil}
    (shape : Fraction dt.clock.microsecond fraction)
    (known : separator = ' ' ∨ separator = 'T') (member : zone ∈ zones)
    (known' : format.separator = ' ' ∨ format.separator = 'T') (member' : format.zone ∈ zones) :
    readStamp format (stampText separator (fraction ++ zone) dt) =
      if format = ⟨separator, !fraction.isEmpty, zone⟩ then some dt else none := by
  rw [readStamp_text known known', readTail_text shape member member']
  obtain ⟨own, takes, rest⟩ := format
  by_cases separators : own = separator
  · by_cases rests : takes = !fraction.isEmpty ∧ rest = zone
    · rw [if_pos separators, if_pos rests, Option.bind_some, makeClock_self, Option.map_some,
        if_pos (by rw [separators, rests.1, rests.2])]
    · rw [if_pos separators, if_neg rests, Option.bind_none, if_neg (by
        rintro same
        injection same with _ second third
        exact rests ⟨second, third⟩)]
  · rw [if_neg separators, if_neg (by
      rintro same
      injection same with first
      exact separators first)]

theorem findSome?_only [DecidableEq α] {items : List α} (member : item ∈ items) {f : α → Option β}
    (each : ∀ other ∈ items, f other = if other = item then some value else none) :
    items.findSome? f = some value := by
  induction items with
  | nil => exact absurd member List.not_mem_nil
  | cons first items ih =>
    rw [List.findSome?_cons, each first List.mem_cons_self]
    by_cases same : first = item
    · rw [if_pos same]
    · rw [if_neg same]
      have later : item ∈ items := (List.mem_cons.mp member).resolve_left (Ne.symm same)
      exact ih later fun other inside => each other (List.mem_cons_of_mem first inside)

/-- Every text that a time may be shown as is read back as the time. -/
theorem parseEventTime_shows {dt : Civil} {text : List Char} (shows_ : Shows dt text) :
    parseEventTime (String.ofList text) = some dt := by
  obtain ⟨separator, fraction, zone, listed, shape, rfl⟩ := shows_
  have nonempty : String.ofList (stampText separator (fraction ++ zone) dt) ≠ "" := by
    intro empty
    have length := congrArg (fun text : String => text.toList.length) empty
    simp [stampText] at length
  have pairs : ∀ pair ∈ [(' ', [' ', 'U', 'T', 'C']), (' ', []), ('T', ['Z'])],
      (pair.1 = ' ' ∨ pair.1 = 'T') ∧ pair.2 ∈ zones ∧
        ∀ takes, ⟨pair.1, takes, pair.2⟩ ∈ formats := by
    decide
  obtain ⟨known, member, own⟩ := pairs _ listed
  have each : ∀ format ∈ formats, (format.separator = ' ' ∨ format.separator = 'T') ∧
      format.zone ∈ zones := by
    decide
  rw [parseEventTime, if_neg nonempty, String.toList_ofList]
  exact findSome?_only (own (!fraction.isEmpty)) fun format inside =>
    readStamp_shape shape known member (each format inside).1 (each format inside).2

end Printed
end ReplicateOnTag.EventTime

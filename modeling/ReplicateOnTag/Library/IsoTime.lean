import ReplicateOnTag.Library.CivilTime
import ReplicateOnTag.Library.Decimal

/-! Datetimes with an optional UTC offset and their ISO 8601 text. The reader
takes the extended form; the compact form and week dates are not read. -/
namespace ReplicateOnTag.IsoTime
open CivilTime
open Decimal

/-- A UTC offset in microseconds, shorter than a day either way. -/
structure Offset where
  micros : Int
  inRange : -(dayMicros : Int) < micros ∧ micros < dayMicros
  deriving DecidableEq

/-- Naive without an offset. -/
structure Datetime where
  civil : Civil
  offset : Option Offset
  deriving DecidableEq

def utc : Offset := ⟨0, by decide, by decide⟩

section Writing

def fractionText (micros : Nat) : List Char := if micros = 0 then [] else '.' :: pad 6 micros

def dateText (date : Date) : List Char :=
  pad 4 date.year ++ '-' :: (pad 2 date.month ++ '-' :: pad 2 date.day)

def clockText (clock : Clock) : List Char :=
  pad 2 clock.hour ++ ':' ::
    (pad 2 clock.minute ++ ':' :: (pad 2 clock.second ++ fractionText clock.microsecond))

/-- Seconds only where there are some. -/
def spanText (micros : Nat) : List Char :=
  pad 2 (micros / 3600000000) ++ ':' :: (pad 2 (micros / 60000000 % 60) ++
    if micros % 60000000 = 0 then []
    else ':' :: (pad 2 (micros / 1000000 % 60) ++ fractionText (micros % 1000000)))

def offsetText : Option Offset → List Char
  | none => []
  | some offset => (if offset.micros < 0 then '-' else '+') :: spanText offset.micros.natAbs

def isoformat (dt : Datetime) : String :=
  String.ofList (dateText dt.civil.date ++ 'T' ::
    (clockText dt.civil.clock ++ offsetText dt.offset))

end Writing

section Reading

def makeDate (year month day : Nat) : Option Date :=
  if valid : (1 ≤ year ∧ year ≤ maxYear) ∧ (1 ≤ month ∧ month ≤ 12) ∧ 1 ≤ day ∧
      day ≤ daysInMonth year month then
    some ⟨year, month, day, valid.1, valid.2.1, valid.2.2⟩
  else none

def makeClock (hour minute second microsecond : Nat) : Option Clock :=
  if valid : hour < 24 ∧ minute < 60 ∧ second < 60 ∧ microsecond < 1000000 then
    some ⟨hour, minute, second, microsecond, valid.1, valid.2.1, valid.2.2.1, valid.2.2.2⟩
  else none

/-- Digits past the sixth are dropped. -/
def readFraction (digits : List Char) : Option Nat :=
  if digits ≠ [] ∧ digits.all Char.isDigit then
    some (number (digits.take 6) * 10 ^ (6 - digits.length))
  else none

def readSeconds (hour minute : Nat) (input : List Char) : Option (Nat × Nat × Nat × Nat) :=
  (readNumber 2 input).bind fun (second, rest) =>
    match rest with
    | [] => some (hour, minute, second, 0)
    | mark :: digits =>
        if mark = '.' ∨ mark = ',' then (readFraction digits).map fun micros =>
          (hour, minute, second, micros)
        else none

def readMinutes (hour : Nat) (input : List Char) : Option (Nat × Nat × Nat × Nat) :=
  (readNumber 2 input).bind fun (minute, rest) =>
    match rest with
    | [] => some (hour, minute, 0, 0)
    | mark :: rest => if mark = ':' then readSeconds hour minute rest else none

/-- `HH[:MM[:SS[{.,}f+]]]`. -/
def readComponents (input : List Char) : Option (Nat × Nat × Nat × Nat) :=
  (readNumber 2 input).bind fun (hour, rest) =>
    match rest with
    | [] => some (hour, 0, 0, 0)
    | mark :: rest => if mark = ':' then readMinutes hour rest else none

def makeOffset (micros : Int) : Option Offset :=
  if inRange : -(dayMicros : Int) < micros ∧
    micros < dayMicros then some ⟨micros, inRange⟩ else none

/-- The fields of an offset are not bounded one by one. -/
def readOffset : List Char → Option (Option Offset)
  | [] => some none
  | ['Z'] => some (some utc)
  | sign :: rest =>
      if sign = 'Z' then none
      else (readComponents rest).bind fun (hour, minute, second, micros) =>
        let span : Int := (((hour * 60 + minute) * 60 + second) * 1000000 + micros : Nat)
        (makeOffset (if sign = '-' then -span else span)).map some

def inClock (c : Char) : Bool := c ≠ '+' && c ≠ '-' && c ≠ 'Z'

/-- A separator with nothing behind it is midnight too. -/
def readTime (date : Date) (input : List Char) : Option Datetime :=
  match input with
  | [] | [_] => (makeClock 0 0 0 0).map fun clock => ⟨⟨date, clock⟩, none⟩
  | _ :: time =>
      (readComponents (time.takeWhile inClock)).bind fun (hour, minute, second, micros) =>
        (makeClock hour minute second micros).bind fun clock =>
          (readOffset (time.dropWhile inClock)).map fun offset => ⟨⟨date, clock⟩, offset⟩

/-- The text from the first character on, if it is the expected one. -/
def expect (expected : Char) : List Char → Option (List Char)
  | [] => none
  | c :: rest => if c = expected then some rest else none

/-- `none` is a `ValueError`. -/
def fromisoformat (text : String) : Option Datetime :=
  (readNumber 4 text.toList).bind fun (year, rest) => (expect '-' rest).bind fun rest =>
    (readNumber 2 rest).bind fun (month, rest) => (expect '-' rest).bind fun rest =>
      (readNumber 2 rest).bind fun (day, rest) =>
        (makeDate year month day).bind fun date => readTime date rest

end Reading

section RoundTrip

theorem makeDate_self (date : Date) : makeDate date.year date.month date.day = some date :=
  dif_pos ⟨date.yearInRange, date.monthInRange, date.dayInRange⟩

theorem makeClock_self (clock : Clock) :
    makeClock clock.hour clock.minute clock.second clock.microsecond = some clock :=
  dif_pos ⟨clock.hourInRange, clock.minuteInRange, clock.secondInRange, clock.microsecondInRange⟩

theorem makeOffset_self (offset : Offset) : makeOffset offset.micros = some offset :=
  dif_pos offset.inRange

@[simp] theorem expect_cons (c : Char)
    (rest : List Char) : expect c (c :: rest) = some rest := if_pos rfl

theorem readNumber_two {n : Nat} (small : n < 100) (rest : List Char) :
    readNumber 2 (pad 2 n ++ rest) = some (n, rest) := readNumber_pad (by decide) small rest

theorem readNumber_two_end {n : Nat} (small : n < 100) : readNumber 2 (pad 2 n) = some (n, []) := by
  have read := readNumber_two small []
  rwa [List.append_nil] at read

theorem readFraction_pad {micros : Nat}
    (small : micros < 1000000) : readFraction (pad 6 micros) = some micros := by
  have length : (pad 6 micros).length = 6 := length_pad (by decide) small
  have nonempty : pad 6 micros ≠ [] := by
    intro empty
    rw [empty] at length
    cases length
  rw [readFraction, if_pos ⟨nonempty, digits_pad 6 micros⟩,
    List.take_of_length_le (le_of_eq length), length, number_pad]
  exact congrArg some (Nat.mul_one micros)

theorem readSeconds_text (hour minute : Nat) {second micros : Nat} (short : second < 60)
    (small : micros < 1000000) :
    readSeconds hour minute (pad 2 second ++ fractionText micros) =
      some (hour, minute, second, micros) := by
  rw [readSeconds, readNumber_two (by omega), fractionText]
  by_cases zero : micros = 0
  · rw [if_pos zero, zero]
    rfl
  · rw [if_neg zero, Option.bind_some]
    dsimp only
    rw [if_pos (.inl rfl), readFraction_pad small]
    rfl

theorem readComponents_clockText (clock : Clock) : readComponents (clockText clock) =
    some (clock.hour, clock.minute, clock.second, clock.microsecond) := by
  have hour := clock.hourInRange
  have minute := clock.minuteInRange
  rw [readComponents, clockText, readNumber_two (by omega), Option.bind_some]
  dsimp only
  rw [if_pos rfl, readMinutes, readNumber_two (by omega), Option.bind_some]
  dsimp only
  rw [if_pos rfl, readSeconds_text _ _ clock.secondInRange clock.microsecondInRange]

/-- The components of a span of less than a day add up to it. -/
theorem readComponents_spanText {micros : Nat} (small : micros < dayMicros) :
    ∃ hour minute second rest, readComponents (spanText micros) =
      some (hour, minute, second, rest) ∧
      ((hour * 60 + minute) * 60 + second) * 1000000 + rest = micros := by
  rw [dayMicros] at small
  rw [readComponents, spanText, readNumber_two (by omega), Option.bind_some]
  dsimp only
  rw [if_pos rfl, readMinutes]
  by_cases whole : micros % 60000000 = 0
  · rw [if_pos whole, List.append_nil, readNumber_two_end (by omega)]
    exact ⟨_, _, _, _, rfl, by omega⟩
  · rw [if_neg whole, readNumber_two (by omega), Option.bind_some]
    dsimp only
    rw [if_pos rfl, readSeconds_text _ _ (by omega) (by omega)]
    exact ⟨_, _, _, _, rfl, by omega⟩

theorem readOffset_offsetText (offset : Option Offset) :
    readOffset (offsetText offset) = some offset := by
  cases offset with
  | none => rfl
  | some offset =>
    have small : offset.micros.natAbs < dayMicros := by
      have range := offset.inRange
      omega
    obtain ⟨hour, minute, second, rest, read, sum⟩ := readComponents_spanText small
    have same := makeOffset_self offset
    rw [offsetText]
    by_cases negative : offset.micros < 0
    · have span : -(((((hour * 60 + minute) * 60 + second) * 1000000 + rest : Nat) : Int)) =
          offset.micros := by
        rw [sum]
        omega
      rw [if_pos negative, readOffset, if_neg (by decide), read, Option.bind_some]
      · dsimp only
        rw [if_pos rfl, span, same]
        rfl
      · exact fun empty => absurd empty (by decide)
    · have span : (((((hour * 60 + minute) * 60 + second) * 1000000 + rest : Nat) : Int)) =
          offset.micros := by
        rw [sum]
        omega
      rw [if_neg negative, readOffset, if_neg (by decide), read, Option.bind_some]
      · dsimp only
        rw [if_neg (by decide), span, same]
        rfl
      · exact fun empty => absurd empty (by decide)

theorem inClock_of_isDigit {c : Char} (digit : c.isDigit) : inClock c := by
  rw [isDigit_iff] at digit
  have differ (other : Char) (outside : ¬ (48 ≤ other.toNat ∧ other.toNat ≤ 57)) : c ≠ other := by
    rintro rfl
    exact outside digit
  simp [inClock, differ '+' (by decide), differ '-' (by decide), differ 'Z' (by decide)]

theorem inClock_pad (width n : Nat) : (pad width n).all inClock := by
  rw [List.all_eq_true]
  intro c member
  exact inClock_of_isDigit (List.all_eq_true.mp (digits_pad width n) c member)

theorem inClock_clockText (clock : Clock) : (clockText clock).all inClock := by
  have colon : inClock ':' = true := rfl
  have dot : inClock '.' = true := rfl
  have fraction : (fractionText clock.microsecond).all inClock := by
    rw [fractionText]
    split
    · rfl
    · rw [List.all_cons, dot, inClock_pad]
      rfl
  rw [clockText, List.all_append, List.all_cons, List.all_append, List.all_cons, List.all_append,
    fraction, colon, inClock_pad, inClock_pad, inClock_pad]
  rfl

theorem takeWhile_clock (clock : Clock) (offset : Option Offset) :
    (clockText clock ++ offsetText offset).takeWhile inClock = clockText clock := by
  rw [List.takeWhile_append_of_pos (List.all_eq_true.mp (inClock_clockText clock))]
  cases offset with
  | none => exact List.append_nil _
  | some offset =>
    rw [offsetText]
    split
    · exact List.append_nil _
    · exact List.append_nil _

theorem dropWhile_clock (clock : Clock) (offset : Option Offset) :
    (clockText clock ++ offsetText offset).dropWhile inClock = offsetText offset := by
  rw [List.dropWhile_append_of_pos (List.all_eq_true.mp (inClock_clockText clock))]
  cases offset with
  | none => rfl
  | some offset =>
    rw [offsetText]
    split
    · rfl
    · rfl

theorem readTime_text (date : Date) (clock : Clock) (offset : Option Offset) :
    readTime date ('T' :: (clockText clock ++ offsetText offset)) =
      some ⟨⟨date, clock⟩, offset⟩ := by
  have nonempty : clockText clock ++ offsetText offset ≠ [] := by
    simp [clockText]
  rw [readTime, takeWhile_clock, dropWhile_clock, readComponents_clockText, Option.bind_some]
  · dsimp only
    rw [makeClock_self, Option.bind_some, readOffset_offsetText]
    rfl
  · exact nonempty

theorem fromisoformat_isoformat (dt : Datetime) : fromisoformat (isoformat dt) = some dt := by
  have year := dt.civil.date.yearInRange.2
  have month := dt.civil.date.monthInRange.2
  have day := dt.civil.date.dayInRange.2
  have long := (daysInMonth_pos dt.civil.date.year dt.civil.date.month).2
  rw [maxYear] at year
  rw [isoformat, fromisoformat, String.toList_ofList, dateText, List.append_assoc,
    readNumber_pad (by decide) (by omega), Option.bind_some]
  dsimp only
  rw [List.cons_append, expect_cons, Option.bind_some, List.append_assoc, readNumber_two (by omega),
    Option.bind_some]
  dsimp only
  rw [List.cons_append, expect_cons, Option.bind_some, readNumber_two (by omega), Option.bind_some]
  dsimp only
  rw [makeDate_self, Option.bind_some, readTime_text]

end RoundTrip
end ReplicateOnTag.IsoTime

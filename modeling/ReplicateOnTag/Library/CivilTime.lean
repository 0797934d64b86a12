import Mathlib.Data.Nat.Basic
import Mathlib.Order.Monotone.Basic
import Mathlib.Tactic.Linarith

/-! Dates of the proleptic Gregorian calendar from year 1 to year 9999, times of
day to the microsecond, and their place on one time line. -/
namespace ReplicateOnTag.CivilTime

section Calendar

def isLeap (year : Nat) : Bool := year % 4 = 0 && (year % 100 ≠ 0 || year % 400 = 0)

def leapDay (year : Nat) : Nat := if isLeap year then 1 else 0

def daysInMonth (year month : Nat) : Nat :=
  if month = 2 then 28 + leapDay year
  else if month = 4 ∨ month = 6 ∨ month = 9 ∨ month = 11 then 30
  else 31

def daysBeforeYear (year : Nat) : Nat :=
  (year - 1) * 365 + (year - 1) / 4 - (year - 1) / 100 + (year - 1) / 400

/-- The days of the year before the month. -/
def daysBeforeMonth (year : Nat) : Nat → Nat
  | 0 => 0
  | 1 => 0
  | month + 2 => daysBeforeMonth year (month + 1) + daysInMonth year (month + 1)

def maxYear : Nat := 9999

structure Date where
  year : Nat
  month : Nat
  day : Nat
  yearInRange : 1 ≤ year ∧ year ≤ maxYear
  monthInRange : 1 ≤ month ∧ month ≤ 12
  dayInRange : 1 ≤ day ∧ day ≤ daysInMonth year month
  deriving DecidableEq

/-- January 1 of year 1 has ordinal 1. -/
def Date.ordinal (date : Date) : Nat :=
  daysBeforeYear date.year + daysBeforeMonth date.year date.month + date.day

def maxOrdinal : Nat := 3652059

/-- The month and the day of the month, for a day of the year counted from 0. -/
def splitYearDay (year : Nat) : Nat → Nat → Nat → Nat × Nat
  | 0, month, dayOfYear => (month, dayOfYear + 1)
  | fuel + 1, month, dayOfYear =>
      if dayOfYear < daysInMonth year month then (month, dayOfYear + 1)
      else splitYearDay year fuel (month + 1) (dayOfYear - daysInMonth year month)

/-- The year and the day of the year counted from 0. -/
def splitOrdinal (ordinal : Nat) : Nat × Nat :=
  let n := ordinal - 1
  let cycles := n / 146097
  let inCycle := n % 146097
  let centuries := inCycle / 36524
  let inCentury := inCycle % 36524
  let quads := inCentury / 1461
  let inQuad := inCentury % 1461
  let years := inQuad / 365
  let year := cycles * 400 + centuries * 100 + quads * 4 + years + 1
  if years = 4 ∨ centuries = 4 then (year - 1, 365) else (year, inQuad % 365)

structure Clock where
  hour : Nat
  minute : Nat
  second : Nat
  microsecond : Nat
  hourInRange : hour < 24
  minuteInRange : minute < 60
  secondInRange : second < 60
  microsecondInRange : microsecond < 1000000
  deriving DecidableEq

def Clock.micros (clock : Clock) : Nat :=
  ((clock.hour * 60 + clock.minute) * 60 + clock.second) * 1000000 + clock.microsecond

def dayMicros : Nat := 86400000000

def clockOf (micros : Nat) (small : micros < dayMicros) : Clock where
  hour := micros / 3600000000
  minute := micros / 60000000 % 60
  second := micros / 1000000 % 60
  microsecond := micros % 1000000
  hourInRange := by rw [dayMicros] at small; omega
  minuteInRange := Nat.mod_lt _ (by decide)
  secondInRange := Nat.mod_lt _ (by decide)
  microsecondInRange := Nat.mod_lt _ (by decide)

end Calendar

section Ordinals

theorem daysInMonth_pos (year month : Nat) : 28 ≤ daysInMonth year month ∧
    daysInMonth year month ≤ 31 := by
  rw [daysInMonth]
  have leap : leapDay year ≤ 1 := by
    rw [leapDay]
    split <;> omega
  split
  · omega
  · split <;> omega

theorem daysBeforeMonth_thirteen (year : Nat) : daysBeforeMonth year 13 = 365 + leapDay year := by
  simp [daysBeforeMonth, daysInMonth]
  omega

theorem daysBeforeMonth_succ (year : Nat) {month : Nat} (pos : 1 ≤ month) :
    daysBeforeMonth year (month + 1) = daysBeforeMonth year month + daysInMonth year month := by
  obtain ⟨month, rfl⟩ : ∃ less, month = less + 1 := ⟨month - 1, by omega⟩
  rfl

theorem daysBeforeMonth_mono (year : Nat) {first second : Nat} (pos : 1 ≤ first)
    (before : first < second) :
    daysBeforeMonth year first + daysInMonth year first ≤ daysBeforeMonth year second := by
  induction second, before using Nat.le_induction with
  | base => rw [daysBeforeMonth_succ year pos]
  | succ later _ ih =>
    rw [daysBeforeMonth_succ year (by omega)]
    omega

theorem leapDay_eq (year : Nat) :
    leapDay year = if year % 4 = 0 ∧ (year % 100 ≠ 0 ∨ year % 400 = 0) then 1 else 0 := by
  simp [leapDay, isLeap]

theorem div_succ (n d : Nat) : (n + 1) / d = n / d + if (n + 1) % d = 0 then 1 else 0 := by
  rw [Nat.succ_div]
  simp only [Nat.dvd_iff_mod_eq_zero]

/-- A leap day every fourth year, but not every hundredth, yet every four hundredth. -/
theorem daysBeforeYear_succ {year : Nat} (pos : 1 ≤ year) :
    daysBeforeYear (year + 1) = daysBeforeYear year + 365 + leapDay year := by
  obtain ⟨n, rfl⟩ : ∃ n, year = n + 1 := ⟨year - 1, by omega⟩
  have fewer : n / 100 ≤ n / 4 := Nat.div_le_div_left (by decide) (by decide)
  have hundredth : (n + 1) % 100 = 0 → (n + 1) % 4 = 0 := by omega
  have fourHundredth : (n + 1) % 400 = 0 → (n + 1) % 100 = 0 := by omega
  rw [leapDay_eq, daysBeforeYear, daysBeforeYear, Nat.add_sub_cancel, Nat.add_sub_cancel,
    div_succ n 4, div_succ n 100, div_succ n 400]
  generalize n / 4 = quads at *
  generalize n / 100 = centuries at *
  generalize n / 400 = cycles
  by_cases four : (n + 1) % 4 = 0
  · by_cases hundred : (n + 1) % 100 = 0
    · by_cases fourHundred : (n + 1) % 400 = 0
      · simp only [four, hundred, fourHundred, ne_eq, not_true_eq_false, or_true, and_self, if_true]
        omega
      · simp only [four, hundred, fourHundred, ne_eq, not_true_eq_false, or_self, and_false,
          if_true, if_false]
        omega
    · have none : (n + 1) % 400 ≠ 0 := mt fourHundredth hundred
      simp only [four, hundred, none, ne_eq, not_false_eq_true, true_or, and_self, if_true,
        if_false]
      omega
  · have none : (n + 1) % 100 ≠ 0 := mt hundredth four
    have never : (n + 1) % 400 ≠ 0 := mt fourHundredth none
    simp only [four, none, never, false_and, if_false]
    omega

theorem daysBeforeYear_mono {first second : Nat} (pos : 1 ≤ first) (before : first < second) :
    daysBeforeYear first + 365 + leapDay first ≤ daysBeforeYear second := by
  induction second, before using Nat.le_induction with
  | base => rw [daysBeforeYear_succ pos]
  | succ later _ ih =>
    rw [daysBeforeYear_succ (by omega)]
    omega

theorem dayOfYear_le (date : Date) : daysBeforeMonth date.year date.month + date.day ≤
    365 + leapDay date.year := by
  have next := daysBeforeMonth_mono date.year date.monthInRange.1
    (Nat.lt_succ_of_le date.monthInRange.2)
  rw [daysBeforeMonth_thirteen] at next
  have last := date.dayInRange.2
  omega

/-- Dates stand in the order of their year, month and day. -/
def Date.Before (first second : Date) : Prop :=
  first.year < second.year ∨ first.year = second.year ∧
    (first.month < second.month ∨ first.month = second.month ∧ first.day < second.day)

theorem Date.ordinal_lt_of_before {first second : Date} (before : first.Before second) :
    first.ordinal < second.ordinal := by
  rw [ordinal, ordinal]
  rcases before with year | ⟨year, month | ⟨month, day⟩⟩
  · have gap := daysBeforeYear_mono first.yearInRange.1 year
    have inside := dayOfYear_le first
    have pos := second.dayInRange.1
    omega
  · have gap := daysBeforeMonth_mono first.year first.monthInRange.1 month
    have inside := first.dayInRange.2
    have pos := second.dayInRange.1
    rw [← year]
    omega
  · rw [← year, ← month]
    omega

theorem Date.before_trichotomy (first second : Date) :
    first.Before second ∨ first = second ∨ second.Before first := by
  rcases Nat.lt_trichotomy first.year second.year with year | year | year
  · exact .inl (.inl year)
  · rcases Nat.lt_trichotomy first.month second.month with month | month | month
    · exact .inl (.inr ⟨year, .inl month⟩)
    · rcases Nat.lt_trichotomy first.day second.day with day | day | day
      · exact .inl (.inr ⟨year, .inr ⟨month, day⟩⟩)
      · refine .inr (.inl ?_)
        cases first
        cases second
        cases year
        cases month
        cases day
        rfl
      · exact .inr (.inr (.inr ⟨year.symm, .inr ⟨month.symm, day⟩⟩))
    · exact .inr (.inr (.inr ⟨year.symm, .inl month⟩))
  · exact .inr (.inr (.inl year))

theorem Date.ordinal_lt_iff {first second : Date} : first.ordinal < second.ordinal ↔
    first.Before second := by
  constructor
  · intro less
    rcases before_trichotomy first second with before | rfl | after
    · exact before
    · exact absurd less (lt_irrefl _)
    · exact absurd (less.trans (ordinal_lt_of_before after)) (lt_irrefl _)
  · exact ordinal_lt_of_before

theorem Date.ordinal_injective {first second : Date}
    (same : first.ordinal = second.ordinal) : first = second := by
  rcases before_trichotomy first second with before | equal | after
  · exact absurd same (ordinal_lt_of_before before).ne
  · exact equal
  · exact absurd same (ordinal_lt_of_before after).ne'

theorem Date.ordinal_bounds (date : Date) : 1 ≤ date.ordinal ∧ date.ordinal ≤ maxOrdinal := by
  have inside := dayOfYear_le date
  have pos := date.dayInRange.1
  have whole : daysBeforeYear date.year + 365 + leapDay date.year ≤ daysBeforeYear (maxYear + 1) :=
    daysBeforeYear_mono date.yearInRange.1 (Nat.lt_succ_of_le date.yearInRange.2)
  have last : daysBeforeYear (maxYear + 1) = maxOrdinal := by decide
  rw [ordinal]
  omega

theorem splitYearDay_spec (year : Nat) (fuel : Nat) : ∀ month dayOfYear,
    1 ≤ month → month + fuel = 12 →
    daysBeforeMonth year month + dayOfYear < 365 + leapDay year →
      1 ≤ (splitYearDay year fuel month dayOfYear).1 ∧
        (splitYearDay year fuel month dayOfYear).1 ≤ 12 ∧
        1 ≤ (splitYearDay year fuel month dayOfYear).2 ∧
        (splitYearDay year fuel month dayOfYear).2 ≤ daysInMonth year
          (splitYearDay year fuel month dayOfYear).1 ∧
        daysBeforeMonth year (splitYearDay year fuel month dayOfYear).1 +
          (splitYearDay year fuel month dayOfYear).2 =
            daysBeforeMonth year month + dayOfYear + 1 := by
  induction fuel with
  | zero =>
    intro month dayOfYear pos last inside
    obtain rfl : month = 12 := by omega
    have december : daysBeforeMonth year 13 = daysBeforeMonth year 12 + daysInMonth year 12 :=
      daysBeforeMonth_succ year (by omega)
    rw [daysBeforeMonth_thirteen] at december
    simp only [splitYearDay]
    omega
  | succ fuel ih =>
    intro month dayOfYear pos last inside
    have next := daysBeforeMonth_succ year pos
    rw [splitYearDay]
    by_cases here : dayOfYear < daysInMonth year month
    · rw [if_pos here]
      dsimp only
      omega
    · rw [if_neg here]
      obtain ⟨low, high, first, final, sum⟩ :=
        ih (month + 1) (dayOfYear - daysInMonth year month) (by omega)
        (by omega) (by omega)
      refine ⟨low, high, first, final, ?_⟩
      rw [sum]
      omega

/-- The days before a year, by cycles of 400, 100, 4 years and single years. -/
theorem daysBeforeYear_cycles (cycles centuries quads years : Nat)
    (century : centuries ≤ 3) (quad : quads ≤ 24)
    (year : years ≤ 3) : daysBeforeYear (cycles * 400 + centuries * 100 + quads * 4 + years + 1) =
      cycles * 146097 + centuries * 36524 + quads * 1461 + years * 365 := by
  have four : (cycles * 400 + centuries * 100 + quads * 4 + years) / 4 =
      cycles * 100 + centuries * 25 + quads := by
    omega
  have hundred : (cycles * 400 + centuries * 100 + quads * 4 + years) / 100 =
    cycles * 4 + centuries := by omega
  have fourHundred : (cycles * 400 + centuries * 100 + quads * 4 + years) / 400 = cycles := by omega
  rw [daysBeforeYear, Nat.add_sub_cancel, four, hundred, fourHundred]
  omega

/-- The last day of a leap year is the one the cycles leave over. -/
theorem leapDay_quad (cycles centuries quads : Nat) (quad : quads ≤ 23) :
    leapDay (cycles * 400 + centuries * 100 + quads * 4 + 4) = 1 := by
  have four : (cycles * 400 + centuries * 100 + quads * 4 + 4) % 4 = 0 := by omega
  have hundred : (cycles * 400 + centuries * 100 + quads * 4 + 4) % 100 ≠ 0 := by omega
  rw [leapDay_eq, if_pos ⟨four, .inl hundred⟩]

theorem leapDay_cycle (cycles : Nat) : leapDay (cycles * 400 + 400) = 1 := by
  have four : (cycles * 400 + 400) % 4 = 0 := by omega
  have fourHundred : (cycles * 400 + 400) % 400 = 0 := by omega
  rw [leapDay_eq, if_pos ⟨four, .inr fourHundred⟩]

theorem splitOrdinal_spec {ordinal : Nat} (low : 1 ≤ ordinal) (high : ordinal ≤ maxOrdinal) :
    1 ≤ (splitOrdinal ordinal).1 ∧ (splitOrdinal ordinal).1 ≤ maxYear ∧
      (splitOrdinal ordinal).2 < 365 + leapDay (splitOrdinal ordinal).1 ∧
      daysBeforeYear (splitOrdinal ordinal).1 + (splitOrdinal ordinal).2 + 1 = ordinal := by
  rw [maxOrdinal] at high
  rw [splitOrdinal, maxYear]
  have whole := Nat.div_add_mod (ordinal - 1) 146097
  have inCycle := Nat.mod_lt (ordinal - 1) (show 146097 > 0 by decide)
  generalize (ordinal - 1) / 146097 = cycles at *
  generalize (ordinal - 1) % 146097 = cycleDay at *
  have wholeCycle := Nat.div_add_mod cycleDay 36524
  have inCentury := Nat.mod_lt cycleDay (show 36524 > 0 by decide)
  generalize cycleDay / 36524 = centuries at *
  generalize cycleDay % 36524 = centuryDay at *
  have wholeCentury := Nat.div_add_mod centuryDay 1461
  have inQuad := Nat.mod_lt centuryDay (show 1461 > 0 by decide)
  generalize centuryDay / 1461 = quads at *
  generalize centuryDay % 1461 = quadDay at *
  have wholeQuad := Nat.div_add_mod quadDay 365
  have inYear := Nat.mod_lt quadDay (show 365 > 0 by decide)
  generalize quadDay / 365 = years at *
  generalize quadDay % 365 = yearDay at *
  by_cases centuryEnd : centuries = 4
  · obtain ⟨rfl, rfl, rfl⟩ : quads = 0 ∧ years = 0 ∧ yearDay = 0 := by omega
    have days := daysBeforeYear_cycles cycles 3 24 3 (by decide) (by decide) (by decide)
    have leap := leapDay_cycle cycles
    have year : cycles * 400 + centuries * 100 + 0 * 4 + 0 + 1 - 1 = cycles * 400 + 400 := by omega
    have same : cycles * 400 + 3 * 100 + 24 * 4 + 3 + 1 = cycles * 400 + 400 := by omega
    rw [same] at days
    rw [if_pos (.inr centuryEnd), year, leap]
    dsimp only
    rw [days]
    omega
  · by_cases quadEnd : years = 4
    · have days := daysBeforeYear_cycles cycles centuries quads 3 (by omega) (by omega) (by decide)
      have leap := leapDay_quad cycles centuries quads (by omega)
      have year : cycles * 400 + centuries * 100 + quads * 4 + years + 1 - 1 =
          cycles * 400 + centuries * 100 + quads * 4 + 4 := by omega
      rw [if_pos (.inl quadEnd), year, leap]
      dsimp only
      rw [days]
      omega
    · have days := daysBeforeYear_cycles cycles centuries quads years
        (by omega) (by omega) (by omega)
      rw [if_neg (not_or.mpr ⟨quadEnd, centuryEnd⟩)]
      dsimp only
      rw [days]
      omega

/-- The date of an ordinal. -/
def dateOf (ordinal : Nat) (low : 1 ≤ ordinal) (high : ordinal ≤ maxOrdinal) : Date :=
  have year := splitOrdinal_spec low high
  have day := splitYearDay_spec (splitOrdinal ordinal).1 11 1
    (splitOrdinal ordinal).2 (le_refl 1) rfl
    ((Nat.zero_add _).symm ▸ year.2.2.1)
  { year := (splitOrdinal ordinal).1
    month := (splitYearDay (splitOrdinal ordinal).1 11 1 (splitOrdinal ordinal).2).1
    day := (splitYearDay (splitOrdinal ordinal).1 11 1 (splitOrdinal ordinal).2).2
    yearInRange := ⟨year.1, year.2.1⟩
    monthInRange := ⟨day.1, day.2.1⟩
    dayInRange := ⟨day.2.2.1, day.2.2.2.1⟩ }

theorem ordinal_dateOf (ordinal : Nat) (low : 1 ≤ ordinal) (high : ordinal ≤ maxOrdinal) :
    (dateOf ordinal low high).ordinal = ordinal := by
  have year := splitOrdinal_spec low high
  have start : daysBeforeMonth (splitOrdinal ordinal).1 1 = 0 := rfl
  have day := (splitYearDay_spec (splitOrdinal ordinal).1 11 1
    (splitOrdinal ordinal).2 (le_refl 1) rfl
    (by rw [start, Nat.zero_add]; exact year.2.2.1)).2.2.2.2
  rw [start, Nat.zero_add] at day
  rw [Date.ordinal, dateOf]
  dsimp only
  omega

end Ordinals

section Clocks

/-- Times of day stand in the order of their hour, minute, second and microsecond. -/
def Clock.Before (first second : Clock) : Prop :=
  first.hour < second.hour ∨ first.hour = second.hour ∧
    (first.minute < second.minute ∨ first.minute = second.minute ∧
      (first.second < second.second ∨ first.second = second.second ∧
        first.microsecond < second.microsecond))

theorem Clock.micros_lt (clock : Clock) : clock.micros < dayMicros := by
  have hour := clock.hourInRange
  have minute := clock.minuteInRange
  have second := clock.secondInRange
  have microsecond := clock.microsecondInRange
  rw [micros, dayMicros]
  omega

theorem Clock.micros_lt_iff {first second : Clock} : first.micros < second.micros ↔
    first.Before second := by
  have minute := first.minuteInRange
  have secondField := first.secondInRange
  have microsecond := first.microsecondInRange
  have minute' := second.minuteInRange
  have secondField' := second.secondInRange
  have microsecond' := second.microsecondInRange
  rw [micros, micros, Before]
  omega

theorem micros_clockOf (micros : Nat)
    (small : micros < dayMicros) : (clockOf micros small).micros = micros := by
  rw [Clock.micros, clockOf]
  dsimp only
  omega

theorem Clock.micros_injective {first second : Clock}
    (same : first.micros = second.micros) : first = second := by
  have minute := first.minuteInRange
  have secondField := first.secondInRange
  have microsecond := first.microsecondInRange
  have minute' := second.minuteInRange
  have secondField' := second.secondInRange
  have microsecond' := second.microsecondInRange
  rw [micros, micros] at same
  obtain ⟨hour, minute, second, microsecond⟩ : first.hour = second.hour ∧
      first.minute = second.minute ∧
      first.second = second.second ∧ first.microsecond = second.microsecond := by omega
  cases first
  cases second
  simp_all

end Clocks

section Instants

/-- A date and a time of day, without a time zone. -/
structure Civil where
  date : Date
  clock : Clock
  deriving DecidableEq

namespace Civil

/-- `datetime.min`. -/
instance : Inhabited Civil where
  default :=
    { date := ⟨1, 1, 1, by decide, by decide, by decide⟩
      clock := ⟨0, 0, 0, 0, by decide, by decide, by decide, by decide⟩ }

/-- Microseconds on the time line. -/
def instant (civil : Civil) : Int := civil.date.ordinal * dayMicros + civil.clock.micros

def minInstant : Int := dayMicros

/-- The first instant past the calendar. -/
def endInstant : Int := (maxOrdinal + 1) * dayMicros

theorem split_bounds {t : Int} (low : minInstant ≤ t) (high : t < endInstant) :
    1 ≤ t.toNat / dayMicros ∧ t.toNat / dayMicros ≤ maxOrdinal ∧
      t.toNat % dayMicros < dayMicros := by
  rw [minInstant, dayMicros] at low
  rw [endInstant, maxOrdinal, dayMicros] at high
  rw [maxOrdinal, dayMicros]
  omega

/-- `none` is an `OverflowError`. -/
def ofInstant (t : Int) : Option Civil :=
  if inRange : minInstant ≤ t ∧ t < endInstant then
    some
      { date := dateOf (t.toNat / dayMicros) (split_bounds inRange.1 inRange.2).1 (split_bounds
        inRange.1 inRange.2).2.1
        clock := clockOf (t.toNat % dayMicros) (split_bounds inRange.1 inRange.2).2.2 }
  else none

/-- `datetime + timedelta`. -/
def add (civil : Civil) (delta : Int) : Option Civil := ofInstant (civil.instant + delta)

def Before (first second : Civil) : Prop :=
  first.date.Before second.date ∨ first.date = second.date ∧ first.clock.Before second.clock

theorem instant_bounds (civil : Civil) : minInstant ≤ civil.instant ∧
    civil.instant < endInstant := by
  have days := civil.date.ordinal_bounds
  have time := civil.clock.micros_lt
  rw [maxOrdinal] at days
  rw [dayMicros] at time
  rw [instant, minInstant, endInstant, maxOrdinal, dayMicros]
  omega

theorem instant_lt_iff {first second : Civil} : first.instant < second.instant ↔
    first.Before second := by
  have time := first.clock.micros_lt
  have time' := second.clock.micros_lt
  rw [dayMicros] at time time'
  rw [Before, ← Date.ordinal_lt_iff, ← Clock.micros_lt_iff, instant, instant, dayMicros]
  constructor
  · intro less
    rcases Nat.lt_trichotomy first.date.ordinal second.date.ordinal with before | same | after
    · exact .inl before
    · exact .inr ⟨Date.ordinal_injective same, by omega⟩
    · omega
  · rintro (before | ⟨same, before⟩)
    · omega
    · rw [same]
      omega

theorem instant_injective {first second : Civil}
    (same : first.instant = second.instant) : first = second := by
  have time := first.clock.micros_lt
  have time' := second.clock.micros_lt
  rw [dayMicros] at time time'
  rw [instant, instant, dayMicros] at same
  have date : first.date.ordinal = second.date.ordinal := by omega
  have clock : first.clock.micros = second.clock.micros := by omega
  cases first
  cases second
  rw [mk.injEq]
  exact ⟨Date.ordinal_injective date, Clock.micros_injective clock⟩

theorem instant_of_ofInstant {t : Int} {civil : Civil} (read : ofInstant t = some civil) :
    civil.instant = t := by
  rw [ofInstant] at read
  split at read
  · rename_i inRange
    have low := inRange.1
    rw [minInstant, dayMicros] at low
    rw [← Option.some.inj read, instant, ordinal_dateOf, micros_clockOf, dayMicros]
    omega
  · cases read

theorem ofInstant_isSome_iff {t : Int} : (ofInstant t).isSome ↔
    minInstant ≤ t ∧ t < endInstant := by
  rw [ofInstant]
  split
  · rename_i inRange
    exact iff_of_true rfl inRange
  · rename_i outside
    exact iff_of_false Bool.false_ne_true outside

theorem ofInstant_instant (civil : Civil) : ofInstant civil.instant = some civil := by
  obtain ⟨other, read⟩ := Option.isSome_iff_exists.mp
    (ofInstant_isSome_iff.mpr civil.instant_bounds)
  rw [read, instant_injective (instant_of_ofInstant read)]

end Civil
end Instants
end ReplicateOnTag.CivilTime

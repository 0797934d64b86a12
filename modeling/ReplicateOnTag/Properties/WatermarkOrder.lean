import ReplicateOnTag.Core.WatermarkText

/-! Comparing, reading and shifting watermark texts is comparing, reading and
shifting UTC times, from the year 1000 on. -/
namespace ReplicateOnTag.WatermarkText
open CivilTime
open IsoTime

/-- The datetime has a UTC time, in a year whose text has its fixed width. -/
def InRange (dt : Datetime) : Prop := ∃ civil, astimezone dt = some civil ∧
    fixedWidthYear ≤ civil.date.year

section Text
variable {first second : Datetime}

theorem toWatermark_of_inRange (inRange : InRange first) :
    ∃ civil, toWatermark first = some (strftime civil) ∧ fixedWidthYear ≤ civil.date.year ∧
      civil.instant = utcInstant first := by
  obtain ⟨civil, read, wide⟩ := inRange
  exact ⟨civil, congrArg (Option.map strftime) read, wide, instant_astimezone read⟩

theorem inRange_utc {civil : Civil} (wide : fixedWidthYear ≤ civil.date.year) :
    InRange ⟨civil, none⟩ :=
  ⟨civil, rfl, wide⟩

theorem isCanonicalWatermark_iff_inRange (value : String) :
    isCanonicalWatermark value ↔ value = epochWatermark ∨ ∃ dt, InRange dt ∧
      toWatermark dt = some value := by
  rw [isCanonicalWatermark_iff]
  constructor
  · rintro (rfl | ⟨civil, wide, rfl⟩)
    · exact .inl rfl
    · exact .inr ⟨⟨civil, none⟩, inRange_utc wide, rfl⟩
  · rintro (rfl | ⟨dt, inRange, text⟩)
    · exact .inl rfl
    · obtain ⟨civil, same, wide, _⟩ := toWatermark_of_inRange inRange
      exact .inr ⟨civil, wide, Option.some.inj (text.symm.trans same)⟩

end Text

section Shift

/-- The text of a time is shifted to the text of the earlier time. -/
theorem subtract_toWatermark {dt earlier : Datetime} {lookback : Lookback} (inRange : InRange dt)
    (inRange' : InRange earlier) (shift : utcInstant earlier = utcInstant dt - lookback) :
    (toWatermark dt).bind (fun watermark => subtract watermark lookback) = toWatermark earlier := by
  obtain ⟨civil, text, wide, instant⟩ := toWatermark_of_inRange inRange
  obtain ⟨civil', text', _, instant'⟩ := toWatermark_of_inRange inRange'
  have moved : civil.add (-(lookback : Int)) = some civil' := by
    have sum : civil.instant + -(lookback : Int) = civil'.instant := by
      rw [instant, instant', shift, Int.sub_eq_add_neg]
    rw [Civil.add, sum, Civil.ofInstant_instant]
  rw [text, text', Option.bind_some, subtract, if_neg (strftime_ne_epoch civil),
    parseWatermark_strftime wide, Option.bind_some, moved, Option.bind_some, toWatermark_utc]

variable {watermark later start start' : String} {lookback larger : Lookback}

theorem subtract_monotone (canonical : isCanonicalWatermark watermark)
    (canonical' : isCanonicalWatermark later)
    (read : subtract watermark lookback = some start)
    (read' : subtract later lookback = some start')
    (inRange : isCanonicalWatermark start) (inRange' : isCanonicalWatermark start')
    (le : watermark ≤ later) :
    start ≤ start' := by
  rw [le_iff_meaning_le inRange inRange', meaning_subtract canonical read inRange,
    meaning_subtract canonical' read' inRange']
  exact Watermark.subtract_mono lookback ((le_iff_meaning_le canonical canonical').mp le)

theorem subtract_antitone (canonical : isCanonicalWatermark watermark)
    (read : subtract watermark lookback = some start)
    (read' : subtract watermark larger = some start')
    (inRange : isCanonicalWatermark start) (inRange' : isCanonicalWatermark start')
    (le : lookback ≤ larger) :
    start' ≤ start := by
  rw [le_iff_meaning_le inRange' inRange, meaning_subtract canonical read inRange,
    meaning_subtract canonical read' inRange']
  exact Watermark.subtract_antitone (meaning watermark) le

end Shift

/-- Watermark texts are UTC times: in order, read back, and shifted. -/
theorem watermarks_embed_instants :
    (∀ first second, InRange first → InRange second → ∃ text other,
      toWatermark first = some text ∧ toWatermark second = some other ∧
      (text < other ↔ utcInstant first < utcInstant second) ∧ epochWatermark < text ∧
      ∃ civil, parseWatermark text = some civil ∧ civil.instant = utcInstant first) ∧
    (∀ value, isCanonicalWatermark value ↔
      value = epochWatermark ∨ ∃ dt, InRange dt ∧ toWatermark dt = some value) ∧
    (∀ dt earlier (lookback : Lookback), InRange dt → InRange earlier →
      utcInstant earlier = utcInstant dt - lookback →
      (toWatermark dt).bind (fun watermark => subtract watermark lookback) = toWatermark earlier) ∧
    (∀ lookback, subtract epochWatermark lookback = some epochWatermark) ∧
    (∀ watermark later start start' lookback, isCanonicalWatermark watermark →
      isCanonicalWatermark later →
      subtract watermark lookback = some start → subtract later lookback = some start' →
      isCanonicalWatermark start → isCanonicalWatermark start' →
      watermark ≤ later → start ≤ start') ∧
    ∀ watermark start start' lookback larger, isCanonicalWatermark watermark →
      subtract watermark lookback = some start → subtract watermark larger = some start' →
      isCanonicalWatermark start → isCanonicalWatermark start' →
      lookback ≤ larger → start' ≤ start := by
  refine ⟨?_, isCanonicalWatermark_iff_inRange, ?_, fun _ => rfl, ?_, ?_⟩
  · intro first second inRange inRange'
    obtain ⟨civil, text, wide, instant⟩ := toWatermark_of_inRange inRange
    obtain ⟨civil', text', wide', instant'⟩ := toWatermark_of_inRange inRange'
    refine ⟨_, _, text, text', ?_, epoch_lt_strftime civil, civil,
      parseWatermark_strftime wide, instant⟩
    rw [strftime_lt_iff wide wide', instant, instant']
  · intro dt earlier lookback
    exact subtract_toWatermark
  · intro watermark later start start' lookback canonical canonical' read read'
    exact subtract_monotone canonical canonical' read read'
  · intro watermark start start' lookback larger canonical read read'
    exact subtract_antitone canonical read read'

/-- A quarter past one in the morning, three hours ahead of UTC. -/
def aheadOfUtc : Datetime where
  civil :=
    { date := ⟨2028, 3, 1, by decide, by decide, by decide⟩
      clock := ⟨1, 15, 30, 250000, by omega, by omega, by omega, by omega⟩ }
  offset := some ⟨10800000000, by decide⟩

/-- Half past ten at night on the last day of February, taken to be UTC. -/
def leapDayNaive : Datetime where
  civil :=
    { date := ⟨2028, 2, 29, by decide, by decide, by decide⟩
      clock := ⟨22, 30, 15, 750000, by omega, by omega, by omega, by omega⟩ }
  offset := none

theorem watermarks_embed_instants_leap_day : ∃ text other,
    toWatermark aheadOfUtc = some text ∧ toWatermark leapDayNaive = some other ∧ text < other := by
  have early : InRange aheadOfUtc := by
    refine Option.isSome_iff_exists.mp ?_ |>.imp fun civil read => ⟨read, ?_⟩
    · decide +kernel
    · have year : (astimezone aheadOfUtc).map (·.date.year) = some 2028 := by decide +kernel
      rw [read, Option.map_some, Option.some.injEq] at year
      rw [year]
      decide
  obtain ⟨text, other, watermark, watermark', order, _⟩ :=
    watermarks_embed_instants.1 aheadOfUtc leapDayNaive early ⟨_, rfl, by decide⟩
  exact ⟨text, other, watermark, watermark', order.mpr (by decide +kernel)⟩

end ReplicateOnTag.WatermarkText

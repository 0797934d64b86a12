import ReplicateOnTag.Core.StateText

/-! A state object that anyone may have written: what `deserialize` accepts is
bounded by the time of the read, so that later operations stay eligible. -/
namespace ReplicateOnTag.StateText
open CivilTime
open IsoTime
open WatermarkText
open CheckpointSerializer
open Json

/-- Canonical, and at most 24 hours past `now`. -/
structure Bounded (now : Civil) (watermark : String) : Prop where
  canonical : isCanonicalWatermark watermark
  limit : meaning watermark ≤ Watermark.toWatermark (now.instant + Watermark.maxFutureSkew)

structure Accepted (now : Civil) (state : CheckpointSerializer.CheckpointState) : Prop where
  watermark : Bounded now state.lastProcessedWatermark
  candidate : ∀ held, state.lease = some held → Bounded now held.candidateMaxWatermark

/-- Two payloads with the same values under every other key. -/
def DifferInLease (first second : Members) : Prop :=
  ∀ key, key ≠ "lease" → first.lookup key = second.lookup key

theorem bounded_of_isPlausible {now : Civil} {watermark : String}
    (credible : isPlausibleWatermark watermark now = some true) : Bounded now watermark := by
  obtain ⟨canonical, rfl | ⟨limit, ahead, below⟩⟩ := isPlausibleWatermark_cases credible
  · exact ⟨canonical, Watermark.epoch_le _⟩
  · rw [Civil.instant_of_ofInstant ahead] at below
    exact ⟨canonical, below⟩

theorem year_le_of_instant_lt {first second : Civil} (before : first.instant < second.instant) :
    first.date.year ≤ second.date.year := by
  rcases Civil.instant_lt_iff.mp before with date | ⟨same, _⟩
  · rcases date with less | ⟨equal, _⟩
    · exact less.le
    · exact equal.le
  · rw [same]

/-- Past the bound, the text of an operation's watermark sorts behind the text of the stored one. -/
theorem lt_text_of_bounded {now civil : Civil} {watermark : String}
    (bounded : Bounded now watermark)
    (later : now.instant + Watermark.maxFutureSkew < civil.instant) :
    watermark < strftime civil := by
  rcases (isCanonicalWatermark_iff watermark).mp bounded.canonical with rfl | ⟨stored, wide, rfl⟩
  · exact epoch_lt_strftime civil
  · have limit := bounded.limit
    rw [meaning_strftime wide, Watermark.toWatermark_le_toWatermark] at limit
    have before : stored.instant < civil.instant := limit.trans_lt later
    -- a canonical watermark has a year of four digits, so the later year has four as well
    exact (strftime_lt_iff wide (wide.trans (year_le_of_instant_lt before))).mpr before

theorem isEligible_of_accepted {now civil : Civil} {state : CheckpointSerializer.CheckpointState}
    (accepted : Accepted now state) (lookback : Lookback) {op : TaggingOperation}
    (dated : Civil.ofInstant op.eventTime = some civil)
    (later : now.instant + Watermark.maxFutureSkew < op.eventTime) :
    isEligible op state lookback = some true := by
  rw [← Civil.instant_of_ofInstant dated] at later
  have free : leaseHolds state.lease (strftime civil) = false := by
    cases lease : state.lease with
    | none => rfl
    | some held =>
      have past := lt_text_of_bounded (accepted.candidate held lease) later
      rw [leaseHolds, decide_eq_false_iff_not]
      exact fun holds => absurd holds.2 (not_le.mpr past)
  have newer := lt_text_of_bounded accepted.watermark later
  rw [isEligible, operationWatermark_eq dated, Option.bind_some, free, if_neg Bool.false_ne_true,
    if_pos newer, ite_self]

theorem accepted_of_deserialize {readTime : String → Option Datetime} {now : Civil} {text : String}
    {state : CheckpointSerializer.CheckpointState}
    (read : deserialize readTime now text = .ok state) :
    Accepted now state := by
  obtain ⟨watermark, candidate⟩ := isPlausible_of_deserialize read
  constructor
  · exact bounded_of_isPlausible watermark
  · intro held lease
    exact bounded_of_isPlausible (candidate held lease)

section LeasedState

def payloadWith (lease : Json) : Members :=
  [("source_bucket", .str "b"), ("last_processed_watermark", .str ""), ("lease", lease)]

def midnight : Clock := (default : Civil).clock

def pastLease : CheckpointSerializer.Lease where
  leaseId := "l"
  candidateMaxWatermark := "2024-11-15T23:26:44.899000Z"
  acquiredAt :=
    { civil :=
        { date := ⟨2024, 11, 15, by decide, by decide, by decide⟩
          clock := ⟨23, 27, 0, 0, by omega, by omega, midnight.secondInRange,
            midnight.microsecondInRange⟩ }
      offset := some utc }
  status := .inFlight

def midNovember : Civil where
  date := ⟨2024, 11, 16, by decide, by decide, by decide⟩
  clock := midnight

/-- Tagged a microsecond more than a day past the middle of November. -/
def laterOperation : TaggingOperation where
  sourceBucket := "b"
  objectKey := "k"
  resultingTagSet := none
  sequenceNumber := "1"
  eventTime := midNovember.instant + Watermark.maxFutureSkew + 1
  operationVersion := none
  lastModified := none
  storageClass := none

theorem loads_payloadWith (lease : Option CheckpointSerializer.Lease) :
    loads (dumps (.object (payloadWith (leaseField lease)))) =
      some (.object (payloadWith (leaseField lease))) := by
  apply loads_dumps
  apply exact_object
  · simp [payloadWith]
  · simp [payloadWith, Exact, exact_leaseField]

/-- Noon of the last day of the calendar. -/
def lastNoon : Civil where
  date := ⟨9999, 12, 31, by decide, by decide, by decide⟩
  clock := ⟨12, 0, 0, 0, by omega, midnight.minuteInRange, midnight.secondInRange,
    midnight.microsecondInRange⟩

end LeasedState
end ReplicateOnTag.StateText

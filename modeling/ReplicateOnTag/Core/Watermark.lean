import Mathlib.Order.WithBot
import Mathlib.Order.Monotone.Basic
import Mathlib.Algebra.Order.Ring.Int

/-! Watermarks as instants in microseconds with the epoch below all of them.
The canonical text form is fixed-width, so its order is the order used here;
instants outside the calendar range are not excluded. -/
namespace ReplicateOnTag

/-- Microseconds on the UTC time line. -/
abbrev Instant := Int

def Watermark := WithBot Instant

instance : LinearOrder Watermark := @WithBot.linearOrder Int Int.instLinearOrder

/-- A non-negative `timedelta` in microseconds. -/
abbrev Lookback := Nat

namespace Watermark

/-- `EPOCH_WATERMARK`. -/
def epoch : Watermark := (⊥ : WithBot Instant)

def toWatermark (t : Instant) : Watermark := (t : WithBot Instant)

def subtract (watermark : Watermark) (lookback : Lookback) : Watermark :=
  WithBot.map (· - (lookback : Int)) watermark

/-- `MAX_FUTURE_SKEW`: 24 hours. -/
def maxFutureSkew : Int := 24 * 60 * 60 * 1000000

def isPlausible (watermark : Watermark) (now : Instant) : Bool :=
  decide (watermark ≤ toWatermark (now + maxFutureSkew))

@[simp] theorem toWatermark_le_toWatermark {s t : Instant} :
    toWatermark s ≤ toWatermark t ↔ s ≤ t := WithBot.coe_le_coe

@[simp] theorem toWatermark_lt_toWatermark {s t : Instant} :
    toWatermark s < toWatermark t ↔ s < t := WithBot.coe_lt_coe

theorem epoch_lt_toWatermark (t : Instant) : epoch < toWatermark t := WithBot.bot_lt_coe t

theorem epoch_le (watermark : Watermark) : epoch ≤ watermark :=
  @bot_le (WithBot Int) _ _ watermark

@[simp] theorem subtract_epoch (lookback : Lookback) : subtract epoch lookback = epoch := rfl

@[simp] theorem subtract_toWatermark (t : Instant) (lookback : Lookback) :
    subtract (toWatermark t) lookback = toWatermark (t - lookback) := rfl

/-- A watermark is the epoch or that of an instant. -/
theorem eq_epoch_or_toWatermark (watermark : Watermark) :
    watermark = epoch ∨ ∃ t, watermark = toWatermark t := by
  induction watermark using WithBot.recBotCoe with
  | bot => exact .inl rfl
  | coe t => exact .inr ⟨t, rfl⟩

theorem subtract_le (watermark : Watermark) (lookback : Lookback) :
    subtract watermark lookback ≤ watermark := by
  rcases eq_epoch_or_toWatermark watermark with rfl | ⟨t, rfl⟩
  · simp
  · simp

theorem subtract_mono (lookback : Lookback) : Monotone fun watermark =>
    subtract watermark lookback := by
  intro earlier later le
  have shift : ∀ {s t : Int}, s - lookback ≤ t - lookback ↔ s ≤ t := by
    intro s t
    omega
  exact (WithBot.map_le_iff _ shift).mpr le

/-- A larger lookback reaches further back. -/
theorem subtract_antitone (watermark : Watermark) : Antitone fun lookback =>
    subtract watermark lookback := by
  intro smaller larger le
  rcases eq_epoch_or_toWatermark watermark with rfl | ⟨t, rfl⟩
  · simp
  · simp only [subtract_toWatermark, toWatermark_le_toWatermark]
    exact Int.sub_le_sub_left (Int.ofNat_le.mpr le) t

end Watermark
end ReplicateOnTag

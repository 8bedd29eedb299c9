import Mathlib.Order.Bounds.Basic
import JdHoldings.Library.Quantize
import JdHoldings.Core.Models

/-!
# The limit and the quantity of an order

The limit price of a BUY never exceeds its ceiling, and its quantity is the largest the
budget pays for at that limit, fee included.
-/

namespace JdHoldings

/-- `tick_size`. -/
def tickSize : Decimal := 1 / 100

/-- `floor_to_tick`. -/
def floorToTick (value : Decimal) : Decimal := Quantize.down tickSize value

/-- `calculate_limit_price`. -/
def calculateLimitPrice (currentPrice executionPriceCeiling : Decimal) (config : StrategyConfig) :
    Py Decimal :=
  if currentPrice ≤ 0 then .error (.value "현재가는 양수여야 합니다")
  else if executionPriceCeiling < currentPrice then
    .error (.value "현재가가 전략상 매수 허용 상한을 초과했습니다")
  else
    let raw := currentPrice * (1 + config.buyLimitBuffer)
    .ok (floorToTick (min raw executionPriceCeiling))

/-- `calculate_order_quantity`. -/
def calculateOrderQuantity (budget limitPrice buyFee : Decimal) (maximumQuantity : Option ℕ) :
    ℕ :=
  if budget ≤ 0 ∨ limitPrice ≤ 0 then 0
  else
    let quantity := (Quantize.roundDown (budget / (limitPrice * (1 + buyFee)))).toNat
    match maximumQuantity with
    | none => quantity
    | some maximum => min quantity maximum

/-- Truncation stays below a bound that is not negative. -/
theorem floorToTick_le {value bound : Decimal} (hbound : 0 ≤ bound) (hle : value ≤ bound) :
    floorToTick value ≤ bound := by
  have htick : (0 : ℚ) < tickSize := by norm_num [tickSize]
  rcases le_or_gt 0 value with hvalue | hvalue
  · exact le_trans (Quantize.down_le htick hvalue) hle
  · have hneg : value / tickSize < 0 := div_neg_of_neg_of_pos hvalue htick
    have hceil : Quantize.roundDown (value / tickSize) ≤ 0 := by
      rw [Quantize.roundDown, if_neg (not_le.mpr hneg)]
      exact Int.ceil_le.mpr (by exact_mod_cast hneg.le)
    have hcast : ((Quantize.roundDown (value / tickSize) : ℤ) : ℚ) ≤ 0 := by exact_mod_cast hceil
    exact le_trans (mul_nonpos_of_nonpos_of_nonneg hcast htick.le) hbound

theorem calculateLimitPrice_le {currentPrice ceiling limit : Decimal} {config : StrategyConfig}
    (hok : calculateLimitPrice currentPrice ceiling config = .ok limit) : limit ≤ ceiling := by
  unfold calculateLimitPrice at hok
  split at hok
  · cases hok
  next hpositive =>
    split at hok
    · cases hok
    next hceiling =>
      cases hok
      exact floorToTick_le (by linarith) (min_le_right _ _)

/-- A positive limit is at most the buffered price. -/
theorem calculateLimitPrice_le_buffered {currentPrice ceiling limit : Decimal}
    {config : StrategyConfig} (hok : calculateLimitPrice currentPrice ceiling config = .ok limit)
    (hlimit : 0 < limit) : limit ≤ currentPrice * (1 + config.buyLimitBuffer) := by
  unfold calculateLimitPrice at hok
  split at hok
  · cases hok
  · split at hok
    · cases hok
    · cases hok
      -- Truncation is toward zero, so a positive limit comes from a positive value.
      have hvalue : 0 < min (currentPrice * (1 + config.buyLimitBuffer)) ceiling := by
        by_contra hnot
        exact absurd hlimit (not_lt.mpr (floorToTick_le le_rfl (not_lt.mp hnot)))
      have htick : (0 : ℚ) < tickSize := by norm_num [tickSize]
      exact (Quantize.down_le htick hvalue.le).trans (min_le_left _ _)

/-- A maximum within the budget is the quantity. -/
theorem calculateOrderQuantity_eq_maximum {budget limit buyFee : Decimal} {maximum : ℕ}
    (hfee : 0 < 1 + buyFee) (hlimit : 0 < limit) (hsome : 0 < maximum)
    (hbudget : maximum * limit * (1 + buyFee) ≤ budget) :
    calculateOrderQuantity budget limit buyFee (some maximum) = maximum := by
  have hshare : 0 < limit * (1 + buyFee) := mul_pos hlimit hfee
  have hmaximum : (0 : ℚ) < maximum := by exact_mod_cast hsome
  rw [mul_assoc] at hbudget
  have hpositive : 0 < budget := (mul_pos hmaximum hshare).trans_le hbudget
  have hready : ¬(budget ≤ 0 ∨ limit ≤ 0) := by
    rw [not_or, not_le, not_le]
    exact ⟨hpositive, hlimit⟩
  have hfloor : (maximum : ℤ) ≤ ⌊budget / (limit * (1 + buyFee))⌋ := by
    rw [Int.le_floor, le_div_iff₀ hshare]
    exact_mod_cast hbudget
  rw [calculateOrderQuantity, if_neg hready]
  simp only [Quantize.roundDown, if_pos (div_nonneg hpositive.le hshare.le)]
  exact min_eq_right (by omega)

/-- A quantity of at least one share is the largest within the budget and the maximum. -/
theorem calculateOrderQuantity_isGreatest {budget limit buyFee : Decimal} {maximum : ℕ}
    (hfee : 0 < 1 + buyFee) (hsome : 0 < calculateOrderQuantity budget limit buyFee (some maximum)) :
    IsGreatest {quantity : ℕ | quantity * limit * (1 + buyFee) ≤ budget ∧ quantity ≤ maximum}
      (calculateOrderQuantity budget limit buyFee (some maximum)) := by
  unfold calculateOrderQuantity at hsome ⊢
  split at hsome
  · cases hsome
  next hready =>
    rw [if_neg hready]
    dsimp only at hsome ⊢
    rw [not_or, not_le, not_le] at hready
    have hshare : 0 < limit * (1 + buyFee) := mul_pos hready.2 hfee
    have hworth : 0 ≤ budget / (limit * (1 + buyFee)) := div_nonneg hready.1.le hshare.le
    -- The floor as a number of shares.
    have hfloor : ∀ quantity : ℕ,
        quantity ≤ (Quantize.roundDown (budget / (limit * (1 + buyFee)))).toNat ↔
          quantity * limit * (1 + buyFee) ≤ budget := by
      intro quantity
      have hnonneg : 0 ≤ ⌊budget / (limit * (1 + buyFee))⌋ := Int.floor_nonneg.mpr hworth
      rw [Quantize.roundDown, if_pos hworth, mul_assoc, ← le_div_iff₀ hshare]
      rw [← Int.ofNat_le, Int.toNat_of_nonneg hnonneg, Int.le_floor]
      simp
    constructor
    · exact ⟨(hfloor _).mp (min_le_left _ _), min_le_right _ _⟩
    · rintro quantity ⟨hbudget, hmaximum⟩
      exact le_min ((hfloor quantity).mpr hbudget) hmaximum

end JdHoldings

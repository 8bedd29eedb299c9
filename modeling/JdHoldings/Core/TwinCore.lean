import JdHoldings.Library.Quantize
import JdHoldings.Core.Models

/-!
# Sizing a core position
-/

namespace JdHoldings

/-- Whole shares a weight of the equity buys, fee included. -/
def targetQuantity (equity targetWeight price fee : Decimal) : ℕ :=
  if equity ≤ 0 ∨ targetWeight ≤ 0 ∨ price ≤ 0 then 0
  else
    let gross := price * (1 + fee)
    (Quantize.roundDown (equity * targetWeight / gross)).toNat

@[simp] theorem targetQuantity_of_weight_nonpos {equity targetWeight price fee : Decimal}
    (hweight : targetWeight ≤ 0) : targetQuantity equity targetWeight price fee = 0 := by
  simp [targetQuantity, hweight]

end JdHoldings

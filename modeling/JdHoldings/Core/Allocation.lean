import Mathlib.Data.Fintype.Pi
import JdHoldings.Core.TwinCore

/-!
# The HWM75 allocation

The weights of the three allocation symbols, and the part of the equity they are
applied to.
-/

namespace JdHoldings

instance : Fintype AllocationSymbol where
  elems := {.qqq, .tqqq, .soxl}
  complete := by
    intro symbol
    cases symbol <;> decide

/-- `ALLOCATION_SYMBOLS`, in its order. -/
def allocationSymbols : List AllocationSymbol := [.qqq, .tqqq, .soxl]

/-- A row of `replay_targets`. -/
abbrev Weights := AllocationSymbol → Decimal

/-- `hwm_risk_budget`: three quarters of the gain are at work, and never more than there
is. -/
def hwmRiskBudget (highWaterEquity currentEquity : Decimal) : Decimal :=
  let gain := max 0 (highWaterEquity - V322Policy.initialCapital)
  let budget := V322Policy.initialCapital + V322Policy.hwmReinvestmentFraction * gain
  max 0 (min budget currentEquity)

/-! ## The target row -/

/-- `base_weights`. -/
def baseWeights (leverage : Decimal) (semiconductorActive : Bool) : Weights :=
  if leverage ≤ 1 then fun
    | .qqq => max 0 leverage
    | .tqqq | .soxl => 0
  else
    let sleeve := (leverage - 1) / 2
    if semiconductorActive then fun
      | .qqq => 1 - sleeve
      | .tqqq => sleeve * (1 - 1 / 2)
      | .soxl => sleeve * (1 / 2)
    else fun
      | .qqq => 1 - sleeve
      | .tqqq => sleeve
      | .soxl => 0

/-- `apply_jdss_overlay`. -/
def applyJdssOverlay (weights : Weights) (activeTqqq activeSoxl : Bool) : Weights :=
  let active : ℕ := activeTqqq.toNat + activeSoxl.toNat
  let shift := if active = 0 then 0 else min (1 / 20) (weights .qqq)
  let moved : Weights := fun
    | .qqq => weights .qqq - shift
    | .tqqq => weights .tqqq + if activeTqqq then shift / active else 0
    | .soxl => weights .soxl + if activeSoxl then shift / active else 0
  fun symbol => if 1 / 1000000000000 < moved symbol then moved symbol else 0

/-- What a target row promises: no weight but zero is too small to see, and the weights
are a part of the whole. -/
structure Weights.IsTarget (weights : Weights) : Prop where
  visible : ∀ symbol, weights symbol = 0 ∨ 1 / 1000000000000 < weights symbol
  le_one : weights .qqq + weights .tqqq + weights .soxl ≤ 1

theorem Weights.IsTarget.nonneg {weights : Weights} (htarget : weights.IsTarget)
    (symbol : AllocationSymbol) : 0 ≤ weights symbol := by
  rcases htarget.visible symbol with hzero | hpos
  · exact hzero.ge
  · exact le_trans (by norm_num) hpos.le

private theorem visible_or_zero (weight : Decimal) :
    (if 1 / 1000000000000 < weight then weight else 0) = 0 ∨
      1 / 1000000000000 < if 1 / 1000000000000 < weight then weight else 0 := by
  split
  · rename_i hvisible
    exact Or.inr hvisible
  · exact Or.inl rfl

/-- Every row the overlay returns is a target row. -/
theorem applyJdssOverlay_isTarget {weights : Weights} (hnonneg : ∀ symbol, 0 ≤ weights symbol)
    (hle : weights .qqq + weights .tqqq + weights .soxl ≤ 1) (activeTqqq activeSoxl : Bool) :
    (applyJdssOverlay weights activeTqqq activeSoxl).IsTarget where
  visible _ := visible_or_zero _
  le_one := by
    have hdrop : ∀ weight : Decimal, 0 ≤ weight →
        (if 1 / 1000000000000 < weight then weight else 0) ≤ weight := by
      intro weight hweight
      split
      · exact le_refl weight
      · exact hweight
    have hqqq := hnonneg .qqq
    have htqqq := hnonneg .tqqq
    have hsoxl := hnonneg .soxl
    have hshift : 0 ≤ min (1 / 20) (weights .qqq) := le_min (by norm_num) hqqq
    have hpart : min (1 / 20) (weights .qqq) ≤ weights .qqq := min_le_right _ _
    simp only [applyJdssOverlay]
    cases activeTqqq <;> cases activeSoxl <;> norm_num
    · linarith [hdrop _ hqqq, hdrop _ htqqq, hdrop _ hsoxl]
    · linarith [hdrop _ (sub_nonneg.mpr hpart), hdrop _ htqqq, hdrop _ (add_nonneg hsoxl hshift)]
    · linarith [hdrop _ (sub_nonneg.mpr hpart), hdrop _ (add_nonneg htqqq hshift), hdrop _ hsoxl]
    · have hhalf : 0 ≤ min (1 / 20) (weights .qqq) / 2 := by linarith
      linarith [hdrop _ (sub_nonneg.mpr hpart), hdrop _ (add_nonneg htqqq hhalf),
        hdrop _ (add_nonneg hsoxl hhalf)]

/-- The rows of `replay_targets`, for every leverage the policy allows. -/
theorem replayTarget_isTarget {leverage : Decimal} (hleverage : leverage ≤ 3)
    (semiconductorActive activeTqqq activeSoxl : Bool) :
    (applyJdssOverlay (baseWeights leverage semiconductorActive) activeTqqq activeSoxl).IsTarget := by
  by_cases hcash : leverage ≤ 1
  · refine applyJdssOverlay_isTarget ?_ ?_ activeTqqq activeSoxl
    · intro symbol
      cases symbol <;> simp [baseWeights, hcash]
    · simp only [baseWeights, if_pos hcash, add_zero]
      exact max_le (by norm_num) hcash
  · have hsleeve : 0 ≤ (leverage - 1) / 2 := by linarith
    cases semiconductorActive with
    | false =>
        refine applyJdssOverlay_isTarget ?_ ?_ activeTqqq activeSoxl
        · intro symbol
          cases symbol <;> simp only [baseWeights, if_neg hcash, Bool.false_eq_true, if_false] <;>
            linarith
        · simp only [baseWeights, if_neg hcash, Bool.false_eq_true, if_false]
          linarith
    | true =>
        refine applyJdssOverlay_isTarget ?_ ?_ activeTqqq activeSoxl
        · intro symbol
          cases symbol <;> simp only [baseWeights, if_neg hcash, if_true] <;> linarith
        · simp only [baseWeights, if_neg hcash, if_true]
          linarith

end JdHoldings

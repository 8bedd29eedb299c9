import JdHoldings.Backtest.PortfolioEngine

/-!
# Rebalancing in any order

Without slippage the SELLs of `_rebalance` pay for its BUYs: the desired shares cost no
more than the sizing equity, and that is no more than what cash and shares are worth at
the open.  So no BUY is cut, every symbol reaches its desired shares, and any order of
the symbols ends in the same account (`rebalanceIn_eq`).

With slippage BUYs can be cut, but a BUY never takes more than the cash
(`buy_within`).  A slippage above one is another matter: the SELLs then cost money.
-/

namespace JdHoldings.PortfolioBacktestEngine

/-- `_rebalance` with the symbols in some other order. -/
def rebalanceIn (symbols : List AllocationSymbol) (costs : Costs) (target : Weights)
    (prices : AllocationSymbol → Decimal) (sizingEquity : Decimal) (account : Account) : Account :=
  let desired := desired costs target prices sizingEquity
  let account := symbols.foldl (sell costs desired prices) account
  symbols.foldl (buy costs desired prices) account

theorem rebalance_eq_rebalanceIn :
    rebalance = rebalanceIn allocationSymbols := rfl

section Rebalancing

variable {costs : Costs} {target : Weights} {prices : AllocationSymbol → Decimal}
  {account : Account} {sizing : Decimal}

/-- What `run` promises of the arguments of `_rebalance`. -/
structure Rebalanceable (costs : Costs) (target : Weights) (prices : AllocationSymbol → Decimal)
    (sizing : Decimal) (account : Account) : Prop where
  prices_pos : ∀ symbol, 0 < prices symbol
  buyFee_nonneg : 0 ≤ costs.buyFee
  sellFee_nonneg : 0 ≤ costs.sellFee
  cash_nonneg : 0 ≤ account.cash
  held_nonneg : ∀ symbol, 0 ≤ account.quantities symbol
  weights_nonneg : ∀ symbol, 0 ≤ target symbol
  weights_le : target .qqq + target .tqqq + target .soxl ≤ 1
  sizing_nonneg : 0 ≤ sizing
  sizing_le : sizing ≤ account.equity costs prices

namespace Rebalanceable

theorem gross_pos (hready : Rebalanceable costs target prices sizing account)
    (hslippage : -1 < costs.slippage) (symbol : AllocationSymbol) :
    0 < prices symbol * (1 + costs.slippage) * (1 + costs.buyFee) := by
  have hbuyFee := hready.buyFee_nonneg
  exact mul_pos (mul_pos (hready.prices_pos symbol) (by linarith)) (by linarith)

theorem desired_nonneg (hready : Rebalanceable costs target prices sizing account)
    (hslippage : -1 < costs.slippage) (symbol : AllocationSymbol) :
    0 ≤ desired costs target prices sizing symbol :=
  Int.floor_nonneg.mpr (div_nonneg (mul_nonneg hready.sizing_nonneg (hready.weights_nonneg symbol))
    (hready.gross_pos hslippage symbol).le)

/-- The desired shares cost no more than the account is worth. -/
theorem desired_fits (hready : Rebalanceable costs target prices sizing account)
    (hslippage : costs.slippage = 0) :
    (allocationSymbols.map fun symbol =>
      desired costs target prices sizing symbol * (prices symbol * (1 + costs.buyFee))).sum ≤
        account.equity costs prices := by
  have hshare : ∀ symbol, desired costs target prices sizing symbol *
      (prices symbol * (1 + costs.buyFee)) ≤ sizing * target symbol :=
    desired_mul_le hslippage hready.buyFee_nonneg hready.prices_pos sizing
  have hwhole := mul_le_mul_of_nonneg_left hready.weights_le hready.sizing_nonneg
  have hworth := hready.sizing_le
  have hqqq := hshare .qqq
  have htqqq := hshare .tqqq
  have hsoxl := hshare .soxl
  simp only [allocationSymbols, List.map_cons, List.map_nil, List.sum_cons, List.sum_nil]
  linarith

end Rebalanceable

/-! ## Without slippage -/

/-- In whatever order the symbols come, every BUY is covered and the account ends with the desired
shares and what the trades leave of its cash. -/
theorem rebalanceIn_eq (hready : Rebalanceable costs target prices sizing account)
    (hslippage : costs.slippage = 0) {symbols : List AllocationSymbol}
    (hperm : symbols.Perm allocationSymbols) :
    let wanted := desired costs target prices sizing
    let sold := allocationSymbols.foldl (sell costs wanted prices) account
    rebalanceIn symbols costs target prices sizing account =
        { cash := sold.cash - (allocationSymbols.map (outlay costs wanted prices sold)).sum
          quantities := wanted } ∧
      (allocationSymbols.map (outlay costs wanted prices sold)).sum ≤ sold.cash := by
  intro wanted sold
  have hnodup : symbols.Nodup := hperm.nodup_iff.mpr (by decide)
  have hmem : ∀ symbol, symbol ∈ symbols := by
    intro symbol
    refine hperm.mem_iff.mpr ?_
    cases symbol <;> decide
  have hgross := hready.gross_pos (show -1 < costs.slippage by rw [hslippage]; norm_num)
  have hwanted := hready.desired_nonneg (show -1 < costs.slippage by rw [hslippage]; norm_num)
  have hcash := outlay_le_cash hslippage hready.buyFee_nonneg hready.sellFee_nonneg
    hready.prices_pos hready.held_nonneg hwanted (hready.desired_fits hslippage)
  -- The SELLs come to the same in both orders.
  have hsold : symbols.foldl (sell costs wanted prices) account = sold := by
    have hall : ∀ symbol, symbol ∈ allocationSymbols := by
      intro symbol
      cases symbol <;> decide
    simp only [sold]
    rw [foldl_sell_eq hnodup, foldl_sell_eq (by decide : allocationSymbols.Nodup),
      (hperm.map _).sum_eq]
    simp only [hmem, hall, if_true]
  have hsum := (hperm.map (outlay costs wanted prices sold)).sum_eq
  refine ⟨?_, hcash⟩
  rw [rebalanceIn]
  simp only [show desired costs target prices sizing = wanted from rfl, hsold]
  -- The cash pays every BUY in full, so no BUY is cut and the order does not matter.
  rw [foldl_buy_eq hgross hnodup fun _ => by rw [hsum]; exact hcash, hsum]
  refine congrArg₂ Account.mk rfl (funext fun symbol => ?_)
  rw [if_pos (hmem symbol)]
  refine max_eq_right ?_
  simp only [sold]
  rw [foldl_sell_eq (by decide : allocationSymbols.Nodup)]
  dsimp only
  split
  · exact min_le_right _ _
  next hout =>
    exact absurd (hperm.mem_iff.mp (hmem symbol)) hout

/-! ## With slippage -/

/-- An account between the one before the rebalance and the desired one. -/
structure Within (old : Account) (desired : AllocationSymbol → ℤ) (account : Account) : Prop where
  cash_nonneg : 0 ≤ account.cash
  nonneg : ∀ symbol, 0 ≤ account.quantities symbol
  le_max : ∀ symbol, account.quantities symbol ≤ max (old.quantities symbol) (desired symbol)

/-- A BUY takes no more than the cash, and goes no further than the desired shares. -/
theorem buy_within {old : Account} {desired : AllocationSymbol → ℤ} {symbol : AllocationSymbol}
    (hprice : 0 < prices symbol * (1 + costs.slippage) * (1 + costs.buyFee))
    (hwithin : Within old desired account) :
    Within old desired (buy costs desired prices account symbol) := by
  unfold buy
  dsimp only
  split
  · exact hwithin
  next hmore =>
    split
    · exact hwithin
    next hsome =>
      -- The shares bought are within the cash and within what is missing.
      have haffordable := (min_le_right (desired symbol - account.quantities symbol)
        ⌊account.cash / (prices symbol * (1 + costs.slippage) * (1 + costs.buyFee))⌋)
      rw [Int.le_floor, le_div_iff₀ hprice] at haffordable
      have hdifference := min_le_left (desired symbol - account.quantities symbol)
        ⌊account.cash / (prices symbol * (1 + costs.slippage) * (1 + costs.buyFee))⌋
      generalize min (desired symbol - account.quantities symbol)
        ⌊account.cash / (prices symbol * (1 + costs.slippage) * (1 + costs.buyFee))⌋ = quantity
        at hsome haffordable hdifference ⊢
      have hheld := hwithin.nonneg symbol
      constructor
      case cash_nonneg =>
        have hcost : quantity * (prices symbol * (1 + costs.slippage)) +
            quantity * (prices symbol * (1 + costs.slippage)) * costs.buyFee =
              quantity * (prices symbol * (1 + costs.slippage) * (1 + costs.buyFee)) := by ring
        simp only [hcost]
        exact sub_nonneg.mpr haffordable
      case nonneg =>
        intro other
        by_cases hother : other = symbol
        · rw [hother]
          simp only [Function.update_self]
          omega
        · simp only [Function.update_of_ne hother]
          exact hwithin.nonneg other
      case le_max =>
        intro other
        by_cases hother : other = symbol
        · rw [hother]
          simp only [Function.update_self]
          exact le_max_of_le_right (by omega)
        · simp only [Function.update_of_ne hother]
          exact hwithin.le_max other

theorem foldl_buy_within {old : Account} {desired : AllocationSymbol → ℤ}
    (hprices : ∀ symbol, 0 < prices symbol * (1 + costs.slippage) * (1 + costs.buyFee))
    (hwithin : Within old desired account) (symbols : List AllocationSymbol) :
    Within old desired (symbols.foldl (buy costs desired prices) account) := by
  induction symbols generalizing account with
  | nil => exact hwithin
  | cons symbol symbols ih => exact ih (buy_within (hprices symbol) hwithin)

/-- SELLs bring money, unless the price or the fee eats it up. -/
theorem foldl_sell_within (hready : Rebalanceable costs target prices sizing account)
    (hlow : -1 < costs.slippage) (hhigh : costs.slippage ≤ 1) (hfee : costs.sellFee ≤ 1) :
    Within account (desired costs target prices sizing)
      (allocationSymbols.foldl (sell costs (desired costs target prices sizing) prices) account) := by
  have hdesired := hready.desired_nonneg hlow
  rw [foldl_sell_eq (by decide)]
  constructor
  case cash_nonneg =>
    refine add_nonneg hready.cash_nonneg (List.sum_nonneg fun value hvalue => ?_)
    obtain ⟨symbol, -, rfl⟩ := List.mem_map.mp hvalue
    have hcount : (0 : Decimal) ≤
        (max 0 (account.quantities symbol - desired costs target prices sizing symbol) : ℤ) := by
      exact_mod_cast le_max_left _ _
    have hprice := (hready.prices_pos symbol).le
    exact mul_nonneg (mul_nonneg hcount (mul_nonneg hprice (by linarith))) (by linarith)
  case nonneg =>
    intro symbol
    dsimp only
    split
    · exact le_min (hready.held_nonneg symbol) (hdesired symbol)
    · exact hready.held_nonneg symbol
  case le_max =>
    intro symbol
    dsimp only
    split
    · exact le_max_of_le_left (min_le_left _ _)
    · exact le_max_left _ _

/-- Without slippage a rebalance ends with the desired shares and cash left, in any order of the
symbols; with a slippage up to one and a sell fee up to one it never overdraws the cash, never
sells more than it holds and never buys beyond the desired shares. -/
theorem rebalance_funds_itself (hready : Rebalanceable costs target prices sizing account) :
    (costs.slippage = 0 →
      (∀ symbol, (rebalance costs target prices sizing account).quantities symbol =
        desired costs target prices sizing symbol) ∧
      0 ≤ (rebalance costs target prices sizing account).cash ∧
      ∀ symbols : List AllocationSymbol, symbols.Perm allocationSymbols →
        rebalanceIn symbols costs target prices sizing account =
          rebalance costs target prices sizing account) ∧
    (-1 < costs.slippage → costs.slippage ≤ 1 → costs.sellFee ≤ 1 →
      Within account (desired costs target prices sizing)
        (rebalance costs target prices sizing account)) := by
  constructor
  · intro hslippage
    obtain ⟨heq, hcash⟩ := rebalanceIn_eq hready hslippage (List.Perm.refl _)
    rw [rebalance_eq_rebalanceIn]
    refine ⟨fun symbol => by rw [heq], ?_, fun symbols hperm => ?_⟩
    · rw [heq]
      exact sub_nonneg.mpr hcash
    · rw [heq]
      exact (rebalanceIn_eq hready hslippage hperm).1
  · intro hlow hhigh hfee
    exact foldl_buy_within (hready.gross_pos hlow) (foldl_sell_within hready hlow hhigh hfee) _

end Rebalancing

namespace TooMuchSlippage

/-- One share of `QQQ` at 100, and no cash. -/
def account : Account where
  cash := 0
  quantities := fun | .qqq => 1 | _ => 0

/-- A slippage of 200%. -/
def costs : Costs where
  buyFee := 1 / 1000
  sellFee := 1 / 1000
  slippage := 2

theorem rebalanceable : Rebalanceable costs (fun _ => 0) (fun _ => 100) 0 account where
  prices_pos _ := by norm_num
  buyFee_nonneg := by norm_num [costs]
  sellFee_nonneg := by norm_num [costs]
  cash_nonneg := le_refl 0
  held_nonneg symbol := by cases symbol <;> decide
  weights_nonneg _ := le_refl 0
  weights_le := by norm_num
  sizing_nonneg := le_refl 0
  sizing_le := by decide +kernel

end TooMuchSlippage

/-- With a slippage of 200% selling the share costs 99.9. -/
theorem rebalance_overdraws :
    ¬∀ (costs : Costs) (target : Weights) (prices : AllocationSymbol → Decimal) (sizing : Decimal)
      (account : Account), Rebalanceable costs target prices sizing account →
      0 ≤ (rebalance costs target prices sizing account).cash := by
  intro hkeeps
  have hcash := hkeeps _ _ _ _ _ TooMuchSlippage.rebalanceable
  exact absurd hcash (by decide +kernel)

/-- All of 1000 dollars into `QQQ` at 100. -/
theorem rebalance_funds_itself_all_in :
    (rebalance ⟨1 / 1000, 1 / 1000, 0⟩ (fun | .qqq => 1 | _ => 0) (fun _ => 100) 1000
        ⟨1000, fun _ => 0⟩).quantities .qqq =
      desired ⟨1 / 1000, 1 / 1000, 0⟩ (fun | .qqq => 1 | _ => 0) (fun _ => 100) 1000 .qqq ∧
    0 ≤ (rebalance ⟨1 / 1000, 1 / 1000, 0⟩ (fun | .qqq => 1 | _ => 0) (fun _ => 100) 1000
      ⟨1000, fun _ => 0⟩).cash := by
  have hready : Rebalanceable ⟨1 / 1000, 1 / 1000, 0⟩ (fun | .qqq => 1 | _ => 0) (fun _ => 100) 1000
      ⟨1000, fun _ => 0⟩ := {
    prices_pos := fun _ => by norm_num
    buyFee_nonneg := by norm_num
    sellFee_nonneg := by norm_num
    cash_nonneg := by norm_num
    held_nonneg := fun _ => le_refl 0
    weights_nonneg := fun symbol => by cases symbol <;> norm_num
    weights_le := by norm_num
    sizing_nonneg := by norm_num
    sizing_le := by decide +kernel }
  obtain ⟨hquantities, hcash, -⟩ := (rebalance_funds_itself hready).1 rfl
  exact ⟨hquantities .qqq, hcash⟩

end JdHoldings.PortfolioBacktestEngine

import JdHoldings.Application.Database
import JdHoldings.Core.Allocation

/-!
# The portfolio backtest

`PortfolioBacktestEngine` replays the allocation on daily bars: what is due trades at
the open, the account is marked at the close, and the target row of the close is due in
the next session.  The engine computes in binary floating point; here it computes
exactly.

Trades, exposures and metrics are reports of the run and are left out.
-/

namespace JdHoldings

/-- `InitialOnboardingPolicy`. -/
structure InitialOnboardingPolicy where
  enabled : Bool
  cumulativeFractions : List Decimal
  minimumSessionsBetweenStages : ℕ
deriving Repr

namespace InitialOnboardingPolicy

def totalStages (policy : InitialOnboardingPolicy) : ℕ := policy.cumulativeFractions.length

/-- `fraction_for_stage` of a stage in range. -/
def fractionForStage (policy : InitialOnboardingPolicy) (stage : ℕ) : Decimal :=
  policy.cumulativeFractions.getD (stage - 1) 1

end InitialOnboardingPolicy

/-- The bars of one session, and the target row of its close. -/
structure BacktestSession where
  opens : AllocationSymbol → Decimal
  closes : AllocationSymbol → Decimal
  target : Weights

/-- `enumerate(sessions)`, from a given index on. -/
def enumerateFrom (index : ℕ) : List BacktestSession → List (ℕ × BacktestSession)
  | [] => []
  | session :: sessions => (index, session) :: enumerateFrom (index + 1) sessions

theorem enumerateFrom_append (index : ℕ) (sessions later : List BacktestSession) :
    enumerateFrom index (sessions ++ later)
      = enumerateFrom index sessions ++ enumerateFrom (index + sessions.length) later := by
  induction sessions generalizing index with
  | nil => rfl
  | cons session sessions ih =>
      have hindex : index + 1 + sessions.length = index + (session :: sessions).length := by
        rw [List.length_cons]
        omega
      rw [List.cons_append, enumerateFrom, ih, hindex]
      rfl

namespace PortfolioBacktestEngine

/-- `_weights_from_target`: what the dictionary leaves out has weight zero. -/
def weightsFromTarget (row : Weights) : Weights :=
  fun symbol => if 1 / 1000000000000 < row symbol then row symbol else 0

/-- `_apply_initial_onboarding`. -/
def applyInitialOnboarding (policy : InitialOnboardingPolicy) (target : Weights)
    (executionIndex : ℕ) : Weights :=
  if policy.enabled = false then target
  else
    let interval := policy.minimumSessionsBetweenStages
    let stage :=
      if interval = 0 then policy.totalStages
      else min (executionIndex / interval + 1) policy.totalStages
    fun symbol => target symbol * policy.fractionForStage stage

/-- The onboarding no longer scales a target. -/
def OnboardingCompleted (policy : InitialOnboardingPolicy) : Prop :=
  ∀ target executionIndex, applyInitialOnboarding policy target executionIndex = target

theorem onboardingCompleted_of_disabled {policy : InitialOnboardingPolicy}
    (hdisabled : policy.enabled = false) : OnboardingCompleted policy := by
  intro target executionIndex
  rw [applyInitialOnboarding, if_pos hdisabled]

theorem weightsFromTarget_of_isTarget {target : Weights} (htarget : target.IsTarget) :
    weightsFromTarget target = target := by
  funext symbol
  unfold weightsFromTarget
  rcases htarget.visible symbol with hzero | hpositive
  · rw [hzero, ite_self]
  · rw [if_pos hpositive]

/-! ## Rebalancing -/

/-- What `_rebalance` changes. -/
structure Account where
  cash : Decimal
  quantities : AllocationSymbol → ℤ

/-- The fees of the config, and the slippage of the run. -/
structure Costs where
  buyFee : Decimal
  sellFee : Decimal
  slippage : Decimal

/-- The desired shares of a symbol. -/
def desired (costs : Costs) (target : Weights) (prices : AllocationSymbol → Decimal)
    (sizingEquity : Decimal) (symbol : AllocationSymbol) : ℤ :=
  ⌊sizingEquity * target symbol / (prices symbol * (1 + costs.slippage) * (1 + costs.buyFee))⌋

/-- The SELL of a symbol. -/
def sell (costs : Costs) (desired : AllocationSymbol → ℤ) (prices : AllocationSymbol → Decimal)
    (account : Account) (symbol : AllocationSymbol) : Account :=
  let difference := desired symbol - account.quantities symbol
  if 0 ≤ difference then account
  else
    let quantity := -difference
    let price := prices symbol * (1 - costs.slippage)
    let fee := quantity * price * costs.sellFee
    { cash := account.cash + (quantity * price - fee)
      quantities := Function.update account.quantities symbol
        (account.quantities symbol - quantity) }

/-- The BUY of a symbol, as far as the cash goes. -/
def buy (costs : Costs) (desired : AllocationSymbol → ℤ) (prices : AllocationSymbol → Decimal)
    (account : Account) (symbol : AllocationSymbol) : Account :=
  let difference := desired symbol - account.quantities symbol
  if difference ≤ 0 then account
  else
    let price := prices symbol * (1 + costs.slippage)
    let affordable := ⌊account.cash / (price * (1 + costs.buyFee))⌋
    let quantity := min difference affordable
    if quantity ≤ 0 then account
    else
      let fee := quantity * price * costs.buyFee
      { cash := account.cash - (quantity * price + fee)
        quantities := Function.update account.quantities symbol
          (account.quantities symbol + quantity) }

/-- `_rebalance`. -/
def rebalance (costs : Costs) (target : Weights) (prices : AllocationSymbol → Decimal)
    (sizingEquity : Decimal) (account : Account) : Account :=
  let desired := desired costs target prices sizingEquity
  let account := allocationSymbols.foldl (sell costs desired prices) account
  allocationSymbols.foldl (buy costs desired prices) account

/-! ## What a rebalance reaches -/

section Rebalance

variable {costs : Costs} {desired : AllocationSymbol → ℤ} {prices : AllocationSymbol → Decimal}

/-- What selling down to the desired shares brings. -/
def proceeds (costs : Costs) (desired : AllocationSymbol → ℤ) (prices : AllocationSymbol → Decimal)
    (account : Account) (symbol : AllocationSymbol) : Decimal :=
  (max 0 (account.quantities symbol - desired symbol) : ℤ) * (prices symbol * (1 - costs.slippage))
    * (1 - costs.sellFee)

/-- What buying up to the desired shares takes. -/
def outlay (costs : Costs) (desired : AllocationSymbol → ℤ) (prices : AllocationSymbol → Decimal)
    (account : Account) (symbol : AllocationSymbol) : Decimal :=
  (max 0 (desired symbol - account.quantities symbol) : ℤ) * (prices symbol * (1 + costs.slippage))
    * (1 + costs.buyFee)

theorem sell_eq (account : Account) (symbol : AllocationSymbol) :
    sell costs desired prices account symbol =
      { cash := account.cash + proceeds costs desired prices account symbol
        quantities := Function.update account.quantities symbol
          (min (account.quantities symbol) (desired symbol)) } := by
  by_cases henough : 0 ≤ desired symbol - account.quantities symbol
  · have hless : account.quantities symbol - desired symbol ≤ 0 := by omega
    have hkeep : min (account.quantities symbol) (desired symbol) = account.quantities symbol :=
      min_eq_left (by omega)
    simp only [sell, if_pos henough, proceeds, max_eq_left hless, hkeep, Function.update_eq_self,
      Int.cast_zero, zero_mul, add_zero]
  · have hmore : 0 ≤ account.quantities symbol - desired symbol := by omega
    have hsell : min (account.quantities symbol) (desired symbol) = desired symbol :=
      min_eq_right (by omega)
    have hquantity : account.quantities symbol - -(desired symbol - account.quantities symbol)
        = desired symbol := by omega
    simp only [sell, if_neg henough, proceeds, max_eq_right hmore, hsell, hquantity]
    congr 1
    push_cast
    ring

/-- A BUY the cash covers is not cut. -/
theorem buy_eq {account : Account} {symbol : AllocationSymbol}
    (hprice : 0 < prices symbol * (1 + costs.slippage) * (1 + costs.buyFee))
    (hcovered : 0 < outlay costs desired prices account symbol →
      outlay costs desired prices account symbol ≤ account.cash) :
    buy costs desired prices account symbol =
      { cash := account.cash - outlay costs desired prices account symbol
        quantities := Function.update account.quantities symbol
          (max (account.quantities symbol) (desired symbol)) } := by
  by_cases henough : desired symbol - account.quantities symbol ≤ 0
  · have hkeep : max (account.quantities symbol) (desired symbol) = account.quantities symbol :=
      max_eq_left (by omega)
    simp only [buy, if_pos henough, outlay, max_eq_left henough, hkeep, Function.update_eq_self,
      Int.cast_zero, zero_mul, sub_zero]
  · push Not at henough
    have hbuy : max (account.quantities symbol) (desired symbol) = desired symbol :=
      max_eq_right (by omega)
    have hpositive : 0 < outlay costs desired prices account symbol := by
      rw [outlay, max_eq_right henough.le, mul_assoc]
      exact mul_pos (by exact_mod_cast henough) hprice
    have hcash := hcovered hpositive
    have haffordable : desired symbol - account.quantities symbol
        ≤ ⌊account.cash / (prices symbol * (1 + costs.slippage) * (1 + costs.buyFee))⌋ := by
      rw [Int.le_floor, le_div_iff₀ hprice]
      rw [outlay, max_eq_right henough.le] at hcash
      linarith
    have hquantity : account.quantities symbol + (desired symbol - account.quantities symbol)
        = desired symbol := by omega
    simp only [buy, if_neg (not_le.mpr henough), min_eq_left haffordable, outlay,
      max_eq_right henough.le, hbuy, hquantity]
    congr 1
    push_cast
    ring

theorem outlay_nonneg {account : Account} {symbol : AllocationSymbol}
    (hprice : 0 < prices symbol * (1 + costs.slippage) * (1 + costs.buyFee)) :
    0 ≤ outlay costs desired prices account symbol := by
  have hcount : (0 : Decimal) ≤ (max 0 (desired symbol - account.quantities symbol) : ℤ) := by
    exact_mod_cast le_max_left _ _
  rw [outlay, mul_assoc]
  exact mul_nonneg hcount hprice.le

theorem foldl_sell_eq {symbols : List AllocationSymbol} (hnodup : symbols.Nodup)
    (account : Account) :
    symbols.foldl (sell costs desired prices) account =
      { cash := account.cash + (symbols.map (proceeds costs desired prices account)).sum
        quantities := fun symbol => if symbol ∈ symbols then
          min (account.quantities symbol) (desired symbol) else account.quantities symbol } := by
  induction symbols generalizing account with
  | nil => simp
  | cons first symbols ih =>
      obtain ⟨hfirst, hrest⟩ := List.nodup_cons.mp hnodup
      have hother : ∀ symbol ∈ symbols, symbol ≠ first := fun symbol hmem h => hfirst (h ▸ hmem)
      have hsame : symbols.map (proceeds costs desired prices
          (sell costs desired prices account first))
          = symbols.map (proceeds costs desired prices account) := by
        refine List.map_congr_left fun symbol hmem => ?_
        rw [sell_eq]
        simp only [proceeds, Function.update_of_ne (hother symbol hmem)]
      rw [List.foldl_cons, ih hrest, hsame, sell_eq]
      refine congrArg₂ Account.mk ?_ ?_
      · rw [List.map_cons, List.sum_cons, add_assoc]
      · funext symbol
        by_cases hsymbol : symbol = first
        · subst hsymbol
          simp [hfirst]
        · simp [hsymbol]

/-- The cash covers what the BUYs take, if they take anything. -/
def Covered (costs : Costs) (desired : AllocationSymbol → ℤ) (prices : AllocationSymbol → Decimal)
    (account : Account) (symbols : List AllocationSymbol) : Prop :=
  0 < (symbols.map (outlay costs desired prices account)).sum →
    (symbols.map (outlay costs desired prices account)).sum ≤ account.cash

section Cons

variable {account : Account} {first : AllocationSymbol} {symbols : List AllocationSymbol}
  (hprice : ∀ symbol, 0 < prices symbol * (1 + costs.slippage) * (1 + costs.buyFee))

include hprice

private theorem sum_outlay_nonneg :
    0 ≤ (symbols.map (outlay costs desired prices account)).sum := by
  refine List.sum_nonneg fun value hvalue => ?_
  obtain ⟨symbol, -, rfl⟩ := List.mem_map.mp hvalue
  exact outlay_nonneg (hprice symbol)

theorem Covered.head (hcovered : Covered costs desired prices account (first :: symbols)) :
    0 < outlay costs desired prices account first →
      outlay costs desired prices account first ≤ account.cash := by
  intro hpositive
  have hlater : 0 ≤ (symbols.map (outlay costs desired prices account)).sum :=
    sum_outlay_nonneg hprice
  rw [Covered, List.map_cons, List.sum_cons] at hcovered
  exact le_trans (le_add_of_nonneg_right hlater) (hcovered (by linarith))

/-- A BUY leaves the outlay of the other symbols. -/
theorem outlay_buy_of_ne (hcovered : Covered costs desired prices account (first :: symbols))
    (hfirst : first ∉ symbols) :
    symbols.map (outlay costs desired prices (buy costs desired prices account first))
      = symbols.map (outlay costs desired prices account) := by
  refine List.map_congr_left fun symbol hmem => ?_
  have hother : symbol ≠ first := fun h => hfirst (h ▸ hmem)
  rw [buy_eq (hprice first) (hcovered.head hprice)]
  simp only [outlay, Function.update_of_ne hother]

theorem Covered.tail (hcovered : Covered costs desired prices account (first :: symbols))
    (hfirst : first ∉ symbols) :
    Covered costs desired prices (buy costs desired prices account first) symbols := by
  have hnow : 0 ≤ outlay costs desired prices account first := outlay_nonneg (hprice first)
  have hsame := outlay_buy_of_ne hprice hcovered hfirst
  unfold Covered
  rw [hsame, buy_eq (hprice first) (hcovered.head hprice)]
  rw [Covered, List.map_cons, List.sum_cons] at hcovered
  intro hpositive
  exact le_sub_iff_add_le'.mpr (hcovered (by linarith))

theorem foldl_buy_eq (hnodup : symbols.Nodup)
    (hcovered : Covered costs desired prices account symbols) :
    symbols.foldl (buy costs desired prices) account =
      { cash := account.cash - (symbols.map (outlay costs desired prices account)).sum
        quantities := fun symbol => if symbol ∈ symbols then
          max (account.quantities symbol) (desired symbol) else account.quantities symbol } := by
  induction symbols generalizing account with
  | nil => simp
  | cons first symbols ih =>
      obtain ⟨hfirst, hrest⟩ := List.nodup_cons.mp hnodup
      rw [List.foldl_cons, ih hrest (hcovered.tail hprice hfirst),
        outlay_buy_of_ne hprice hcovered hfirst, buy_eq (hprice first) (hcovered.head hprice)]
      refine congrArg₂ Account.mk ?_ ?_
      · rw [List.map_cons, List.sum_cons, sub_sub]
      · funext symbol
        by_cases hsymbol : symbol = first
        · subst hsymbol
          simp [hfirst]
        · simp [hsymbol]

end Cons

end Rebalance

/-! ## A session -/

/-- What the loop of `run` carries from session to session. -/
structure State extends Account where
  highWater : Decimal
  pending : Weights
  current : Option Weights

/-- The cash and the shares at the given prices, after the fee of selling them. -/
def Account.equity (costs : Costs) (prices : AllocationSymbol → Decimal) (account : Account) :
    Decimal :=
  account.cash +
    (allocationSymbols.map fun symbol =>
      account.quantities symbol * prices symbol * (1 - costs.sellFee)).sum

/-- `sizing_equity`. -/
def sizingEquity (highWater openEquity : Decimal) : Decimal :=
  let sizing := V322Policy.initialCapital +
    V322Policy.hwmReinvestmentFraction * max 0 (highWater - V322Policy.initialCapital)
  max 0 (min sizing openEquity)

section Covered

variable {costs : Costs} {target : Weights} {prices : AllocationSymbol → Decimal}

theorem sizingEquity_nonneg (highWater openEquity : Decimal) : 0 ≤ sizingEquity highWater openEquity :=
  le_max_left _ _

theorem sizingEquity_le {highWater openEquity : Decimal} (hopen : 0 ≤ openEquity) :
    sizingEquity highWater openEquity ≤ openEquity :=
  max_le hopen (min_le_right _ _)

theorem sizingEquity_of_neg {highWater openEquity : Decimal} (hopen : openEquity < 0) :
    sizingEquity highWater openEquity = 0 :=
  max_eq_left ((min_le_right _ _).trans hopen.le)

theorem desired_nonneg (hslippage : costs.slippage = 0) (hbuyFee : 0 ≤ costs.buyFee)
    (htarget : target.IsTarget) (hprices : ∀ symbol, 0 < prices symbol) {sizing : Decimal}
    (hsizing : 0 ≤ sizing) (symbol : AllocationSymbol) :
    0 ≤ desired costs target prices sizing symbol := by
  have hprice := (hprices symbol).le
  rw [desired, hslippage]
  refine Int.floor_nonneg.mpr (div_nonneg (mul_nonneg hsizing (htarget.nonneg symbol)) ?_)
  exact mul_nonneg (by linarith) (by linarith)

/-- The desired shares cost at most their part of the sizing equity. -/
theorem desired_mul_le (hslippage : costs.slippage = 0) (hbuyFee : 0 ≤ costs.buyFee)
    (hprices : ∀ symbol, 0 < prices symbol) (sizing : Decimal) (symbol : AllocationSymbol) :
    desired costs target prices sizing symbol * (prices symbol * (1 + costs.buyFee))
      ≤ sizing * target symbol := by
  have hgross : 0 < prices symbol * (1 + costs.buyFee) := mul_pos (hprices symbol) (by linarith)
  have hfloor := Int.floor_le (sizing * target symbol / (prices symbol * (1 + costs.buyFee)))
  rw [le_div_iff₀ hgross] at hfloor
  rw [desired, hslippage, add_zero, mul_one]
  exact hfloor

/-- One symbol: what buying takes beyond what selling brings is at most what the desired
shares cost beyond what the held ones are worth. -/
theorem outlay_sub_proceeds_le {desired held : ℤ} {price buyFee sellFee : Decimal}
    (hprice : 0 < price) (hbuyFee : 0 ≤ buyFee) (hsellFee : 0 ≤ sellFee) (hheld : 0 ≤ held)
    (hdesired : 0 ≤ desired) :
    (max 0 (desired - min held desired) : ℤ) * price * (1 + buyFee)
        - (max 0 (held - desired) : ℤ) * price * (1 - sellFee)
      ≤ desired * (price * (1 + buyFee)) - held * price * (1 - sellFee) := by
  have hfees : 0 ≤ price * (buyFee + sellFee) := mul_nonneg hprice.le (by linarith)
  rcases le_total held desired with hless | hmore
  · have hshare : (0 : Decimal) ≤ held * (price * (buyFee + sellFee)) :=
      mul_nonneg (by exact_mod_cast hheld) hfees
    rw [min_eq_left hless, max_eq_right (by omega), max_eq_left (by omega)]
    push_cast
    linarith
  · have hshare : (0 : Decimal) ≤ desired * (price * (buyFee + sellFee)) :=
      mul_nonneg (by exact_mod_cast hdesired) hfees
    rw [min_eq_right hmore, sub_self, max_self, max_eq_right (by omega)]
    push_cast
    linarith

/-- After the SELLs the cash covers every BUY, when the desired shares cost no more than
the account is worth. -/
theorem outlay_le_cash {wanted : AllocationSymbol → ℤ} {account : Account}
    (hslippage : costs.slippage = 0) (hbuyFee : 0 ≤ costs.buyFee) (hsellFee : 0 ≤ costs.sellFee)
    (hprices : ∀ symbol, 0 < prices symbol) (hheld : ∀ symbol, 0 ≤ account.quantities symbol)
    (hwanted : ∀ symbol, 0 ≤ wanted symbol)
    (hfits : (allocationSymbols.map fun symbol =>
      wanted symbol * (prices symbol * (1 + costs.buyFee))).sum ≤ account.equity costs prices) :
    (allocationSymbols.map (outlay costs wanted prices
        (allocationSymbols.foldl (sell costs wanted prices) account))).sum
      ≤ (allocationSymbols.foldl (sell costs wanted prices) account).cash := by
  have hsymbol := fun symbol => outlay_sub_proceeds_le (hprices symbol) hbuyFee hsellFee
    (hheld symbol) (hwanted symbol)
  have hqqq := hsymbol .qqq
  have htqqq := hsymbol .tqqq
  have hsoxl := hsymbol .soxl
  rw [foldl_sell_eq (by decide)]
  simp only [Account.equity, allocationSymbols, List.map_cons, List.map_nil, List.sum_cons,
    List.sum_nil, outlay, proceeds, hslippage, add_zero, sub_zero, mul_one, List.mem_cons,
    List.not_mem_nil, reduceCtorEq, or_false, false_or, if_true] at hfits ⊢
  linarith

/-- The BUYs of a rebalance are never cut. -/
theorem rebalance_covered {account : Account} (highWater : Decimal)
    (hslippage : costs.slippage = 0) (hbuyFee : 0 ≤ costs.buyFee) (hsellFee : 0 ≤ costs.sellFee)
    (htarget : target.IsTarget) (hprices : ∀ symbol, 0 < prices symbol)
    (hheld : ∀ symbol, 0 ≤ account.quantities symbol) :
    let sizing := sizingEquity highWater (account.equity costs prices)
    let wanted := desired costs target prices sizing
    Covered costs wanted prices (allocationSymbols.foldl (sell costs wanted prices) account)
      allocationSymbols := by
  intro sizing wanted hpositive
  let sold := allocationSymbols.foldl (sell costs wanted prices) account
  have hsizing : 0 ≤ sizing := sizingEquity_nonneg _ _
  have hwanted : ∀ symbol, 0 ≤ wanted symbol :=
    desired_nonneg hslippage hbuyFee htarget hprices hsizing
  rcases le_or_gt 0 (account.equity costs prices) with hworth | hbroke
  · refine outlay_le_cash hslippage hbuyFee hsellFee hprices hheld hwanted ?_
    have hshare : ∀ symbol, wanted symbol * (prices symbol * (1 + costs.buyFee))
        ≤ sizing * target symbol := desired_mul_le hslippage hbuyFee hprices sizing
    have hle : sizing ≤ account.equity costs prices := sizingEquity_le hworth
    have hwhole := mul_le_mul_of_nonneg_left htarget.le_one hsizing
    have hqqq := hshare .qqq
    have htqqq := hshare .tqqq
    have hsoxl := hshare .soxl
    simp only [allocationSymbols, List.map_cons, List.map_nil, List.sum_cons, List.sum_nil]
    linarith
  · -- An account worth less than nothing wants no shares.
    have hnone : ∀ symbol, wanted symbol = 0 := by
      intro symbol
      have hzero : sizing = 0 := sizingEquity_of_neg hbroke
      simp [wanted, desired, hzero]
    have hnothing : (allocationSymbols.map (outlay costs wanted prices sold)).sum = 0 := by
      have hsold : ∀ symbol, 0 ≤ sold.quantities symbol := by
        intro symbol
        simp only [sold, foldl_sell_eq (by decide : allocationSymbols.Nodup), hnone]
        split
        · exact le_min (hheld symbol) (le_refl 0)
        · exact hheld symbol
      refine List.sum_eq_zero fun value hvalue => ?_
      obtain ⟨symbol, -, rfl⟩ := List.mem_map.mp hvalue
      rw [outlay, hnone, max_eq_left (by have := hsold symbol; omega)]
      simp
    exact absurd hnothing hpositive.ne'

/-- What a rebalance reaches. -/
theorem rebalance_quantities {account : Account} (highWater : Decimal)
    (hslippage : costs.slippage = 0) (hbuyFee : 0 ≤ costs.buyFee) (hsellFee : 0 ≤ costs.sellFee)
    (htarget : target.IsTarget) (hprices : ∀ symbol, 0 < prices symbol)
    (hheld : ∀ symbol, 0 ≤ account.quantities symbol) (symbol : AllocationSymbol) :
    let sizing := sizingEquity highWater (account.equity costs prices)
    (rebalance costs target prices sizing account).quantities symbol
      = desired costs target prices sizing symbol := by
  intro sizing
  have hgross : ∀ symbol, 0 < prices symbol * (1 + costs.slippage) * (1 + costs.buyFee) := by
    intro symbol
    rw [hslippage, add_zero, mul_one]
    exact mul_pos (hprices symbol) (by linarith)
  have hcovered := rebalance_covered highWater hslippage hbuyFee hsellFee htarget hprices hheld
  have hmem : symbol ∈ allocationSymbols := by cases symbol <;> decide
  rw [rebalance, foldl_buy_eq hgross (by decide) hcovered, foldl_sell_eq (by decide)]
  simp only [if_pos hmem]
  exact max_eq_right (min_le_right _ _)

/-- An account that holds the desired shares does not trade. -/
theorem rebalance_of_held {account : Account} {sizing : Decimal}
    (hprices : ∀ symbol, 0 < prices symbol * (1 + costs.slippage) * (1 + costs.buyFee))
    (hheld : ∀ symbol, desired costs target prices sizing symbol = account.quantities symbol) :
    rebalance costs target prices sizing account = account := by
  have hwanted : desired costs target prices sizing = account.quantities := funext hheld
  have hsold : allocationSymbols.foldl (sell costs account.quantities prices) account = account := by
    have hnothing : proceeds costs account.quantities prices account = fun _ => 0 := by
      funext symbol
      simp [proceeds]
    rw [foldl_sell_eq (by decide), hnothing]
    simp [allocationSymbols]
  have hbought : allocationSymbols.foldl (buy costs account.quantities prices) account = account := by
    have hnothing : outlay costs account.quantities prices account = fun _ => 0 := by
      funext symbol
      simp [outlay]
    have hsum : (allocationSymbols.map (outlay costs account.quantities prices account)).sum = 0 := by
      rw [hnothing]
      simp [allocationSymbols]
    rw [foldl_buy_eq hprices (by decide) fun hpositive => absurd hsum hpositive.ne', hsum]
    simp
  rw [rebalance, hwanted]
  simp only [hsold, hbought]

end Covered

/-- `high_water = max(high_water, equity)`. -/
def advanceHighWater (highWater equity : Decimal) : Decimal := max highWater equity

/-- What the engine holds after the open of a session. -/
def trade (costs : Costs) (session : BacktestSession) (state : State) : Account :=
  let sizing := sizingEquity state.highWater (state.toAccount.equity costs session.opens)
  if state.current = some state.pending then state.toAccount
  else rebalance costs state.pending session.opens sizing state.toAccount

/-- One turn of the loop of `run`. -/
def step (costs : Costs) (policy : InitialOnboardingPolicy) (state : State)
    (session : ℕ × BacktestSession) : State :=
  let (executionIndex, bars) := session
  let account := trade costs bars state
  { toAccount := account
    highWater := advanceHighWater state.highWater (account.equity costs bars.closes)
    pending := applyInitialOnboarding policy (weightsFromTarget bars.target) (executionIndex + 1)
    current := some state.pending }

/-- Before the first session: the initial capital, and the target row of the day before. -/
def start (policy : InitialOnboardingPolicy) (prior : Weights) : State where
  cash := V322Policy.initialCapital
  quantities := fun _ => 0
  highWater := V322Policy.initialCapital
  pending := applyInitialOnboarding policy (weightsFromTarget prior) 0
  current := none

/-- The loop of `run`. -/
def run (costs : Costs) (policy : InitialOnboardingPolicy) (state : State)
    (sessions : List (ℕ × BacktestSession)) : State :=
  sessions.foldl (step costs policy) state

/-- `equity_values`: the account at every close. -/
def equityValues (costs : Costs) (policy : InitialOnboardingPolicy) (state : State) :
    List (ℕ × BacktestSession) → List Decimal
  | [] => []
  | session :: sessions =>
      let next := step costs policy state session
      next.toAccount.equity costs session.2.closes :: equityValues costs policy next sessions

/-- The high-water mark of the run is the highest close, and never less than the
capital it began with. -/
theorem run_highWater (costs : Costs) (policy : InitialOnboardingPolicy) (state : State)
    (sessions : List (ℕ × BacktestSession)) :
    (run costs policy state sessions).highWater
      = (equityValues costs policy state sessions).foldl advanceHighWater state.highWater := by
  induction sessions generalizing state with
  | nil => rfl
  | cons session sessions ih =>
      have hnext := ih (step costs policy state session)
      rw [run, List.foldl_cons, ← run, hnext]
      rfl

end PortfolioBacktestEngine

end JdHoldings

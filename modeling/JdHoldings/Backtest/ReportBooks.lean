import JdHoldings.Backtest.ReportOnline
import JdHoldings.Core.InitialOnboarding

/-!
# The books of the report

The trades of a report explain its money.  Booked one after the other on the initial
capital, they give the account the loop ends with, and at every session the account its
equity is the value of.

`_rebalance` sells before it buys, buys no more than the cash pays for, and trades a symbol
on one side only.  So no trade of a session undoes another one, and with positive prices and
sane fees neither cash nor shares are ever negative, not even between two trades of one open.

The loop is taken apart in two steps: what one SELL and one BUY preserve (`rebalanceTrades_induct`),
and from it what the sessions preserve (`Series.scanRows_induct`).
-/

namespace JdHoldings

namespace PortfolioBacktestEngine

/-! ## Booking trades -/

/-- What a trade adds to the cash. -/
def PortfolioTrade.cashFlow (trade : PortfolioTrade) : Decimal :=
  match trade.side with
  | .buy => -(trade.quantity * trade.price + trade.fee)
  | .sell => trade.quantity * trade.price - trade.fee

/-- What a trade adds to the shares of a symbol. -/
def PortfolioTrade.shares (trade : PortfolioTrade) (symbol : AllocationSymbol) : ℤ :=
  if symbol = trade.symbol then
    match trade.side with
    | .buy => trade.quantity
    | .sell => -trade.quantity
  else 0

/-- The initial capital after some trades. -/
def booked (trades : List PortfolioTrade) : Account where
  cash := V322Policy.initialCapital + (trades.map PortfolioTrade.cashFlow).sum
  quantities := fun symbol => (trades.map fun trade => trade.shares symbol).sum

theorem booked_append (trades : List PortfolioTrade) (trade : PortfolioTrade) :
    booked (trades ++ [trade]) =
      { cash := (booked trades).cash + trade.cashFlow
        quantities := fun symbol => (booked trades).quantities symbol + trade.shares symbol } := by
  simp only [booked, List.map_append, List.map_cons, List.map_nil, List.sum_append, List.sum_cons,
    List.sum_nil, add_zero, add_assoc]

/-- What the rounding of the rows can move the cash by: half a millionth for each share, and
for each fee. -/
def roundingMargin (trades : List PortfolioTrade) : Decimal :=
  (trades.map fun trade => (|(trade.quantity : Decimal)| + 1) * (1 / 2000000)).sum

theorem PortfolioTrade.cashFlow_reported (trade : PortfolioTrade) :
    |trade.reported.cashFlow - trade.cashFlow|
      ≤ (|(trade.quantity : Decimal)| + 1) * (1 / 2000000) := by
  have hprice : |roundSix trade.price - trade.price| ≤ 1 / 1000000 / 2 :=
    Quantize.abs_halfEven_sub_le (by norm_num) _
  have hfee : |roundSix trade.fee - trade.fee| ≤ 1 / 1000000 / 2 :=
    Quantize.abs_halfEven_sub_le (by norm_num) _
  have hshares : |trade.quantity * (roundSix trade.price - trade.price)|
      ≤ |(trade.quantity : Decimal)| * (1 / 1000000 / 2) := by
    rw [abs_mul]
    exact mul_le_mul_of_nonneg_left hprice (abs_nonneg _)
  have hmoved : |trade.reported.cashFlow - trade.cashFlow|
      ≤ |trade.quantity * (roundSix trade.price - trade.price)|
        + |roundSix trade.fee - trade.fee| := by
    cases hside : trade.side with
    | buy =>
        have heq : trade.reported.cashFlow - trade.cashFlow =
            -(trade.quantity * (roundSix trade.price - trade.price)
              + (roundSix trade.fee - trade.fee)) := by
          simp only [cashFlow, reported, hside]
          ring
        rw [heq, abs_neg]
        exact abs_add_le _ _
    | sell =>
        have heq : trade.reported.cashFlow - trade.cashFlow =
            trade.quantity * (roundSix trade.price - trade.price)
              - (roundSix trade.fee - trade.fee) := by
          simp only [cashFlow, reported, hside]
          ring
        rw [heq]
        exact abs_sub _ _
  calc |trade.reported.cashFlow - trade.cashFlow|
      ≤ |(trade.quantity : Decimal)| * (1 / 1000000 / 2) + 1 / 1000000 / 2 := by linarith
    _ = (|(trade.quantity : Decimal)| + 1) * (1 / 2000000) := by ring

/-- The rows of a report explain the shares, and the cash up to their rounding. -/
theorem booked_reported (trades : List PortfolioTrade) :
    (booked (trades.map PortfolioTrade.reported)).quantities = (booked trades).quantities ∧
      |(booked (trades.map PortfolioTrade.reported)).cash - (booked trades).cash|
        ≤ roundingMargin trades := by
  constructor
  · funext symbol
    simp only [booked, List.map_map]
    rfl
  · induction trades with
    | nil => simp [booked, roundingMargin]
    | cons trade trades ih =>
        have hfirst := trade.cashFlow_reported
        have hsplit : (booked ((trade :: trades).map PortfolioTrade.reported)).cash
              - (booked (trade :: trades)).cash
            = (trade.reported.cashFlow - trade.cashFlow)
              + ((booked (trades.map PortfolioTrade.reported)).cash - (booked trades).cash) := by
          simp only [booked, List.map_cons, List.sum_cons]
          ring
        rw [hsplit, roundingMargin, List.map_cons, List.sum_cons]
        exact (abs_add_le _ _).trans (add_le_add hfirst ih)

section Rebalance

variable {costs : Costs} {label : TradeLabel} {wanted : AllocationSymbol → ℤ}
  {prices : AllocationSymbol → Decimal} {account : Account} {symbol : AllocationSymbol}
  {trades : List PortfolioTrade} {trade : PortfolioTrade}

theorem sellTrade_eq_some
    (htrade : sellTrade costs label wanted prices account symbol = some trade) :
    wanted symbol < account.quantities symbol ∧
      trade = {
        date := label.date
        symbol := symbol
        side := .sell
        onboardingStage := label.onboardingStage
        quantity := account.quantities symbol - wanted symbol
        price := prices symbol * (1 - costs.slippage)
        fee := (account.quantities symbol - wanted symbol : ℤ) *
          (prices symbol * (1 - costs.slippage)) * costs.sellFee } := by
  unfold sellTrade at htrade
  dsimp only at htrade
  split at htrade
  next => cases htrade
  next hless =>
    have hquantity : -(wanted symbol - account.quantities symbol) =
        account.quantities symbol - wanted symbol := by omega
    rw [hquantity] at htrade
    exact ⟨by omega, (Option.some.inj htrade).symm⟩

theorem buyTrade_eq_some
    (htrade : buyTrade costs label wanted prices account symbol = some trade) :
    ∃ quantity : ℤ, 0 < quantity ∧ quantity ≤ wanted symbol - account.quantities symbol ∧
      quantity ≤ ⌊account.cash / (prices symbol * (1 + costs.slippage) * (1 + costs.buyFee))⌋ ∧
      trade = {
        date := label.date
        symbol := symbol
        side := .buy
        onboardingStage := label.onboardingStage
        quantity := quantity
        price := prices symbol * (1 + costs.slippage)
        fee := quantity * (prices symbol * (1 + costs.slippage)) * costs.buyFee } := by
  unfold buyTrade at htrade
  dsimp only at htrade
  split at htrade
  next => cases htrade
  next =>
    split at htrade
    next => cases htrade
    next hquantity =>
      refine ⟨_, by omega, min_le_left _ _, min_le_right _ _, (Option.some.inj htrade).symm⟩

/-- A SELL books its trade. -/
theorem sell_booked (hbooked : account = booked trades) :
    sell costs wanted prices account symbol =
      booked (trades ++ (sellTrade costs label wanted prices account symbol).toList) := by
  cases htrade : sellTrade costs label wanted prices account symbol with
  | none =>
      unfold sellTrade at htrade
      dsimp only at htrade
      split at htrade
      next hkeep => rw [sell, if_pos hkeep, Option.toList_none, List.append_nil, hbooked]
      next => cases htrade
  | some trade =>
      obtain ⟨hless, rfl⟩ := sellTrade_eq_some htrade
      have hsell : ¬ 0 ≤ wanted symbol - account.quantities symbol := by omega
      rw [Option.toList_some, booked_append, ← hbooked]
      simp only [sell, if_neg hsell, PortfolioTrade.cashFlow, PortfolioTrade.shares]
      refine congrArg₂ Account.mk ?_ ?_
      · push_cast
        ring
      · funext other
        by_cases hother : other = symbol
        · subst hother
          rw [Function.update_self, if_pos rfl]
          omega
        · rw [Function.update_of_ne hother, if_neg hother, add_zero]

/-- A BUY books its trade. -/
theorem buy_booked (hbooked : account = booked trades) :
    buy costs wanted prices account symbol =
      booked (trades ++ (buyTrade costs label wanted prices account symbol).toList) := by
  unfold buy buyTrade
  dsimp only
  split
  next => rw [Option.toList_none, List.append_nil, hbooked]
  next =>
    split
    next => rw [Option.toList_none, List.append_nil, hbooked]
    next =>
      rw [Option.toList_some, booked_append, ← hbooked]
      simp only [PortfolioTrade.cashFlow, PortfolioTrade.shares]
      refine congrArg₂ Account.mk ?_ ?_
      · ring
      · funext other
        by_cases hother : other = symbol
        · subst hother
          rw [Function.update_self, if_pos rfl]
        · rw [Function.update_of_ne hother, if_neg hother, add_zero]

/-! ## Two passes over the symbols -/

/-- A pass over some symbols, with the trades it makes. -/
def pass (act : Account → AllocationSymbol → Account)
    (made : Account → AllocationSymbol → Option PortfolioTrade) :
    List AllocationSymbol → Account → Account × List PortfolioTrade
  | [], account => (account, [])
  | symbol :: symbols, account =>
      let rest := pass act made symbols (act account symbol)
      (rest.1, (made account symbol).toList ++ rest.2)

section Pass

variable {act : Account → AllocationSymbol → Account}
  {made : Account → AllocationSymbol → Option PortfolioTrade}

theorem foldl_eq_pass (symbols : List AllocationSymbol) (books : Account × List PortfolioTrade) :
    symbols.foldl (fun books symbol =>
        (act books.1 symbol, books.2 ++ (made books.1 symbol).toList)) books =
      ((pass act made symbols books.1).1, books.2 ++ (pass act made symbols books.1).2) := by
  induction symbols generalizing books with
  | nil => simp only [List.foldl_nil, pass, List.append_nil]
  | cons symbol symbols ih => simp only [List.foldl_cons, ih, pass, List.append_assoc]

/-- What the turn of each symbol preserves, the pass does. -/
theorem pass_induct (act : Account → AllocationSymbol → Account)
    (made : Account → AllocationSymbol → Option PortfolioTrade)
    {motive : Account → List PortfolioTrade → Prop}
    (hturn : ∀ account trades symbol, motive account trades →
      motive (act account symbol) (trades ++ (made account symbol).toList))
    (symbols : List AllocationSymbol) {account : Account} {trades : List PortfolioTrade}
    (hstart : motive account trades) :
    motive (pass act made symbols account).1 (trades ++ (pass act made symbols account).2) := by
  induction symbols generalizing account trades with
  | nil =>
      rw [pass, List.append_nil]
      exact hstart
  | cons symbol symbols ih =>
      have hrest := ih (hturn account trades symbol hstart)
      rw [List.append_assoc] at hrest
      exact hrest

theorem pass_fst (symbols : List AllocationSymbol) (account : Account) :
    (pass act made symbols account).1 = symbols.foldl act account := by
  induction symbols generalizing account with
  | nil => rfl
  | cons symbol symbols ih => exact ih (act account symbol)

/-- A pass trades each symbol at most once. -/
theorem pass_symbols
    (hmade : ∀ account symbol trade, made account symbol = some trade → trade.symbol = symbol)
    (symbols : List AllocationSymbol) (account : Account) :
    ((pass act made symbols account).2.map PortfolioTrade.symbol).Sublist symbols := by
  induction symbols generalizing account with
  | nil => exact List.Sublist.refl _
  | cons symbol symbols ih =>
      have hrest := ih (act account symbol)
      cases hfirst : made account symbol with
      | none =>
          rw [pass, hfirst, Option.toList_none, List.nil_append]
          exact hrest.cons symbol
      | some trade =>
          rw [pass, hfirst, Option.toList_some, List.singleton_append, List.map_cons,
            hmade _ _ _ hfirst]
          exact hrest.cons_cons symbol

end Pass

/-- `_rebalance` is a pass of SELLs, and a pass of BUYs from where it ends. -/
theorem rebalanceTrades_eq (target : Weights) (sizing : Decimal) (account : Account) :
    rebalanceTrades costs label target prices sizing account =
      let wanted := desired costs target prices sizing
      let sold := pass (sell costs wanted prices) (sellTrade costs label wanted prices)
        allocationSymbols account
      let bought := pass (buy costs wanted prices) (buyTrade costs label wanted prices)
        allocationSymbols sold.1
      (bought.1, sold.2 ++ bought.2) := by
  simp only [rebalanceTrades, foldl_eq_pass, List.nil_append]

/-- What every SELL and every BUY preserves, a rebalance does. -/
theorem rebalanceTrades_induct {motive : Account → List PortfolioTrade → Prop} {target : Weights}
    {sizing : Decimal} {earlier : List PortfolioTrade}
    (hsell : ∀ account trades symbol, motive account trades →
      motive (sell costs (desired costs target prices sizing) prices account symbol)
        (trades ++ (sellTrade costs label (desired costs target prices sizing) prices account
          symbol).toList))
    (hbuy : ∀ account trades symbol, motive account trades →
      motive (buy costs (desired costs target prices sizing) prices account symbol)
        (trades ++ (buyTrade costs label (desired costs target prices sizing) prices account
          symbol).toList))
    (hstart : motive account earlier) :
    motive (rebalanceTrades costs label target prices sizing account).1
      (earlier ++ (rebalanceTrades costs label target prices sizing account).2) := by
  rw [rebalanceTrades_eq, ← List.append_assoc]
  exact pass_induct _ _ hbuy allocationSymbols (pass_induct _ _ hsell allocationSymbols hstart)

/-! ## One trade a symbol -/

theorem sell_quantities_le (other : AllocationSymbol) :
    (sell costs wanted prices account symbol).quantities other ≤ account.quantities other := by
  rw [sell_eq]
  dsimp only
  by_cases hother : other = symbol
  · subst hother
    rw [Function.update_self]
    exact min_le_left _ _
  · rw [Function.update_of_ne hother]

theorem le_buy_quantities (other : AllocationSymbol) :
    account.quantities other ≤ (buy costs wanted prices account symbol).quantities other := by
  unfold buy
  dsimp only
  split
  next => exact le_refl _
  next =>
    split
    next => exact le_refl _
    next hquantity =>
      dsimp only
      by_cases hother : other = symbol
      · subst hother
        rw [Function.update_self]
        omega
      · rw [Function.update_of_ne hother]

/-- What is sold was held beyond the desired shares. -/
theorem sold_of_mem {symbols : List AllocationSymbol}
    (htrade : trade ∈ (pass (sell costs wanted prices) (sellTrade costs label wanted prices) symbols
      account).2) : wanted trade.symbol < account.quantities trade.symbol := by
  have hstart : (∀ symbol, account.quantities symbol ≤ account.quantities symbol) ∧
      ∀ trade ∈ ([] : List PortfolioTrade),
        wanted trade.symbol < account.quantities trade.symbol := by simp
  have hpass := pass_induct (sell costs wanted prices) (sellTrade costs label wanted prices)
    (motive := fun sold trades => (∀ symbol, sold.quantities symbol ≤ account.quantities symbol) ∧
      ∀ trade ∈ trades, wanted trade.symbol < account.quantities trade.symbol)
    ?_ symbols hstart
  · exact hpass.2 trade htrade
  · intro sold trades symbol hsold
    refine ⟨fun other => (sell_quantities_le other).trans (hsold.1 other), ?_⟩
    intro trade htrade
    rcases List.mem_append.mp htrade with htrade | htrade
    · exact hsold.2 trade htrade
    · obtain ⟨hless, rfl⟩ := sellTrade_eq_some (Option.mem_toList.mp htrade)
      exact hless.trans_le (hsold.1 symbol)

/-- What is bought was missing from the desired shares. -/
theorem bought_of_mem {symbols : List AllocationSymbol}
    (htrade : trade ∈ (pass (buy costs wanted prices) (buyTrade costs label wanted prices) symbols
      account).2) : account.quantities trade.symbol < wanted trade.symbol := by
  have hstart : (∀ symbol, account.quantities symbol ≤ account.quantities symbol) ∧
      ∀ trade ∈ ([] : List PortfolioTrade),
        account.quantities trade.symbol < wanted trade.symbol := by simp
  have hpass := pass_induct (buy costs wanted prices) (buyTrade costs label wanted prices)
    (motive := fun bought trades => (∀ symbol, account.quantities symbol ≤ bought.quantities symbol) ∧
      ∀ trade ∈ trades, account.quantities trade.symbol < wanted trade.symbol)
    ?_ symbols hstart
  · exact hpass.2 trade htrade
  · intro bought trades symbol hbought
    refine ⟨fun other => (hbought.1 other).trans (le_buy_quantities other), ?_⟩
    intro trade htrade
    rcases List.mem_append.mp htrade with htrade | htrade
    · exact hbought.2 trade htrade
    · obtain ⟨quantity, hpositive, hmissing, -, rfl⟩ :=
        buyTrade_eq_some (Option.mem_toList.mp htrade)
      have hheld := hbought.1 symbol
      dsimp only
      omega

/-- A rebalance trades a symbol once, and on one side. -/
theorem rebalanceTrades_nodup (target : Weights) (sizing : Decimal) (account : Account) :
    ((rebalanceTrades costs label target prices sizing account).2.map
      PortfolioTrade.symbol).Nodup := by
  have hnodup : allocationSymbols.Nodup := by decide
  rw [rebalanceTrades_eq]
  dsimp only
  rw [List.map_append, List.nodup_append]
  refine ⟨?_, ?_, ?_⟩
  · refine (pass_symbols ?_ allocationSymbols account).nodup hnodup
    intro sold symbol trade htrade
    rw [(sellTrade_eq_some htrade).2]
  · refine (pass_symbols ?_ allocationSymbols _).nodup hnodup
    intro bought symbol trade htrade
    obtain ⟨quantity, -, -, -, rfl⟩ := buyTrade_eq_some htrade
    rfl
  · -- what is sold is sold down to the desired shares, so none of it is bought back
    intro symbol hsold other hbought hsame
    subst hsame
    obtain ⟨sale, hsale, rfl⟩ := List.mem_map.mp hsold
    obtain ⟨purchase, hpurchase, hsymbol⟩ := List.mem_map.mp hbought
    have hbeyond := sold_of_mem hsale
    have hmissing := bought_of_mem hpurchase
    have hmem : sale.symbol ∈ allocationSymbols := by cases sale.symbol <;> decide
    rw [hsymbol, pass_fst, foldl_sell_eq hnodup] at hmissing
    simp only [if_pos hmem] at hmissing
    omega

/-! ## Never negative -/

end Rebalance

section Session

variable {costs : Costs} {policy : InitialOnboardingPolicy} {executionIndex : ℕ}
  {timestamp : Session} {opens : AllocationSymbol → Decimal} {state : State}

/-- What every SELL and every BUY of a session preserves, its trades do. -/
theorem tradeTurn_induct (costs : Costs) (policy : InitialOnboardingPolicy) (executionIndex : ℕ)
    (timestamp : Session) (opens : AllocationSymbol → Decimal) (state : State)
    {motive : Account → List PortfolioTrade → Prop} {earlier : List PortfolioTrade}
    (hsell : ∀ sizing, 0 ≤ sizing → ∀ account trades symbol, motive account trades →
      motive (sell costs (desired costs state.pending opens sizing) opens account symbol)
        (trades ++ (sellTrade costs ⟨timestamp, onboardingStage policy executionIndex⟩
          (desired costs state.pending opens sizing) opens account symbol).toList))
    (hbuy : ∀ sizing, 0 ≤ sizing → ∀ account trades symbol, motive account trades →
      motive (buy costs (desired costs state.pending opens sizing) opens account symbol)
        (trades ++ (buyTrade costs ⟨timestamp, onboardingStage policy executionIndex⟩
          (desired costs state.pending opens sizing) opens account symbol).toList))
    (hstart : motive state.toAccount earlier) :
    motive (tradeTurn costs policy executionIndex timestamp opens state).1
      (earlier ++ (tradeTurn costs policy executionIndex timestamp opens state).2) := by
  unfold tradeTurn
  dsimp only
  split
  next =>
    rw [List.append_nil]
    exact hstart
  next =>
    have hsizing := sizingEquity_nonneg state.highWater (state.toAccount.equity costs opens)
    exact rebalanceTrades_induct (hsell _ hsizing) (hbuy _ hsizing) hstart

/-- What a trade of a session says: when, at which price and with which fee. -/
structure PortfolioTrade.Priced (costs : Costs) (timestamp : Session)
    (opens : AllocationSymbol → Option Decimal) (trade : PortfolioTrade) : Prop where
  date : trade.date = timestamp
  quantity_pos : 0 < trade.quantity
  price : ∃ opened, opens trade.symbol = some opened ∧
    trade.price = opened * (match trade.side with
      | .buy => 1 + costs.slippage
      | .sell => 1 - costs.slippage)
  fee : trade.fee = trade.quantity * trade.price * (match trade.side with
    | .buy => costs.buyFee
    | .sell => costs.sellFee)

theorem tradeTurn_priced {known : AllocationSymbol → Option Decimal}
    (hknown : ∀ symbol, known symbol = some (opens symbol)) {trade : PortfolioTrade}
    (htrade : trade ∈ (tradeTurn costs policy executionIndex timestamp opens state).2) :
    trade.Priced costs timestamp known := by
  have hstart : ∀ trade ∈ ([] : List PortfolioTrade), trade.Priced costs timestamp known := by simp
  have hall := tradeTurn_induct costs policy executionIndex timestamp opens state
    (motive := fun _ trades => ∀ trade ∈ trades, trade.Priced costs timestamp known) ?_ ?_ hstart
  · exact hall trade htrade
  · intro sizing _ account trades symbol htrades trade hmem
    rcases List.mem_append.mp hmem with hmem | hmem
    · exact htrades trade hmem
    · obtain ⟨hless, rfl⟩ := sellTrade_eq_some (Option.mem_toList.mp hmem)
      exact ⟨rfl, sub_pos.mpr hless, ⟨opens symbol, hknown symbol, rfl⟩, rfl⟩
  · intro sizing _ account trades symbol htrades trade hmem
    rcases List.mem_append.mp hmem with hmem | hmem
    · exact htrades trade hmem
    · obtain ⟨quantity, hpositive, -, -, rfl⟩ := buyTrade_eq_some (Option.mem_toList.mp hmem)
      exact ⟨rfl, hpositive, ⟨opens symbol, hknown symbol, rfl⟩, rfl⟩

theorem tradeTurn_nodup :
    ((tradeTurn costs policy executionIndex timestamp opens state).2.map
      PortfolioTrade.symbol).Nodup := by
  unfold tradeTurn
  dsimp only
  split
  next => exact List.nodup_nil
  next => exact rebalanceTrades_nodup _ _ _

/-- A session books its trades. -/
theorem turn_booked {trades : List PortfolioTrade} (hbooked : state.toAccount = booked trades)
    (row : Session × BacktestSession) :
    (turn costs policy (executionIndex, state) row).1.2.toAccount =
      booked (trades ++ (turn costs policy (executionIndex, state) row).2.trades) := by
  refine tradeTurn_induct costs policy executionIndex row.1 row.2.opens state
    (motive := fun account trades => account = booked trades) ?_ ?_ hbooked
  · intro sizing _ account trades symbol hbooked
    exact sell_booked hbooked
  · intro sizing _ account trades symbol hbooked
    exact buy_booked hbooked

end Session

/-! ## The report -/

theorem start_booked (policy : InitialOnboardingPolicy) (prior : Weights) :
    (PortfolioBacktestEngine.start policy prior).toAccount = booked [] := by
  simp only [PortfolioBacktestEngine.start, booked, List.map_nil, List.sum_nil, add_zero]

/-- The account the trades up to a session leave. -/
def PortfolioReport.accountAt (report : PortfolioReport) (timestamp : Session) : Account :=
  booked ((report.turns.upTo timestamp).rows.flatMap fun row => row.2.trades)

section Loop

variable {setup : Setup} {slippage : Option Decimal} {prepared : Prepared}

/-- What the loop carries after some sessions. -/
def carriedAfter (setup : Setup) (slippage : Option Decimal) (prior : Weights)
    (rows : List (Session × BacktestSession)) : ℕ × State :=
  rows.foldl (fun carried row => (turn (setup.costs slippage) setup.onboarding carried row).1)
    (0, PortfolioBacktestEngine.start setup.onboarding prior)

/-- The loop books the trades it makes. -/
theorem carriedAfter_booked (prior : Weights) (rows : List (Session × BacktestSession)) :
    (carriedAfter setup slippage prior rows).2.toAccount =
      booked ((Series.scanRows (turn (setup.costs slippage) setup.onboarding)
        (0, PortfolioBacktestEngine.start setup.onboarding prior) rows).flatMap
          fun row => row.2.trades) := by
  have hrounds := Series.scanRows_induct (turn (setup.costs slippage) setup.onboarding) Turn.trades
    rows (0, PortfolioBacktestEngine.start setup.onboarding prior)
    (motive := fun carried trades => carried.2.toAccount = booked trades)
    (fun carried trades row _ hbooked => turn_booked hbooked row)
    (start_booked setup.onboarding prior)
  exact hrounds

/-- The books up to a session are the account the loop has after it. -/
theorem accountAt_report (timestamp : Session) :
    (setup.report slippage prepared).accountAt timestamp =
      (carriedAfter setup slippage prepared.prior
        (prepared.sessions.upTo timestamp).rows).2.toAccount := by
  rw [PortfolioReport.accountAt, Setup.report, Series.upTo_scan, carriedAfter_booked]
  rfl

end Loop

end PortfolioBacktestEngine

open PortfolioBacktestEngine

namespace LastTwoDays

open SampleFrames

/-- Five trades in the first three sessions of the report, and what becomes of them. -/
theorem run_trades :
    ∃ report, runProductionBacktest SampleFrames.parts VirtualConfig.strategyYaml setup request
      (data 10 110) = .ok report ∧ report.trades.length = 5 := by
  have hrun : (runProductionBacktest SampleFrames.parts VirtualConfig.strategyYaml setup request
      (data 10 110)).toOption.any (fun report => decide (report.trades.length = 5)) = true := by
    decide +kernel
  obtain ⟨report, hreport, hlength⟩ := (Option.any_eq_true _ _).mp hrun
  exact ⟨report, Except.toOption_eq_some.mp hreport, of_decide_eq_true hlength⟩

theorem opens_pos {timestamp : Session} {symbol : AllocationSymbol} {opened : Decimal}
    (hopened : (data 10 110).opens timestamp symbol = some opened) : 0 < opened := by
  have hvaried : ∀ quiet : ℕ → Bar Decimal, (∀ day, ∃ price, (quiet day).open_ = some price ∧ 0 < price) →
      ((frame 64 (varied quiet 10 110)).loc? timestamp).bind Bar.open_ = some opened →
        0 < opened := by
    intro quiet hquiet hopen
    obtain ⟨bar, hbar, hopen⟩ := Option.bind_eq_some_iff.mp hopen
    obtain ⟨day, -, hday⟩ := List.mem_map.mp (Series.loc?_eq_some_iff.mp hbar)
    obtain ⟨-, rfl⟩ := Prod.mk.inj hday
    unfold varied at hopen
    split at hopen
    · cases hopen
      norm_num
    · cases hopen
      norm_num
    · obtain ⟨price, hprice, hpos⟩ := hquiet day
      rw [hprice] at hopen
      cases hopen
      exact hpos
  have hcalm : ∀ day : ℕ, ∃ price, (calm 100).open_ = some price ∧ 0 < price :=
    fun _ => ⟨100, rfl, by norm_num⟩
  have hfalling : ∀ day, ∃ price, (falling day).open_ = some price ∧ 0 < price := by
    intro day
    unfold falling
    split <;> exact ⟨_, rfl, by norm_num⟩
  cases symbol with
  | qqq => exact hvaried _ hcalm hopened
  | tqqq => exact hvaried _ hfalling hopened
  | soxl => exact hvaried _ hfalling hopened

end LastTwoDays

section Books

variable {parts : EngineParts} {config : VirtualConfig} {setup : Setup} {request : BacktestRequest}
  {data : BacktestData} {report : PortfolioReport}

/-- **The books of the report.**  The account a backtest ends with is the initial capital
after all its trades, and the rows of the report, whose prices and fees are rounded, explain
its shares, and its cash up to the rounding.  The equity of a session is what the account
after the trades up to it is worth at its closes.  A trade has the open of its session, less
or more the slippage, and its fee; a session trades a symbol at most once. -/
theorem report_books_balance
    (hreport : runProductionBacktest parts config setup request data = .ok report) :
    report.final = booked report.trades ∧
      (booked report.rows).quantities = report.final.quantities ∧
      |(booked report.rows).cash - report.final.cash| ≤ roundingMargin report.trades ∧
      ∀ timestamp turned, report.turns.loc? timestamp = some turned →
        (∃ closes, (∀ symbol, data.closes timestamp symbol = some (closes symbol)) ∧
          turned.equity =
            (report.accountAt timestamp).equity (setup.costs request.slippage) closes) ∧
        (∀ trade ∈ turned.trades,
          trade.Priced (setup.costs request.slippage) timestamp (data.opens timestamp)) ∧
        (turned.trades.map PortfolioTrade.symbol).Nodup := by
  obtain ⟨tqqq, soxl, targets, prepared, -, -, -, hprepares, rfl⟩ :=
    runProductionBacktest_ok hreport
  have hfinal : (setup.report request.slippage prepared).final =
      booked (setup.report request.slippage prepared).trades :=
    carriedAfter_booked prepared.prior prepared.sessions.rows
  obtain ⟨hquantities, hcash⟩ := booked_reported (setup.report request.slippage prepared).trades
  rw [hfinal]
  refine ⟨rfl, hquantities, hcash, ?_⟩
  intro timestamp turned hturned
  obtain ⟨front, session, hsession, hrows, rfl⟩ := Series.loc?_scan hturned
  obtain ⟨hopens, hcloses⟩ := hprepares.prices_eq hsession
  refine ⟨⟨session.closes, hcloses, ?_⟩, ?_, tradeTurn_nodup⟩
  · -- the session is the last one of the books, and its turn marks the account it leaves
    rw [accountAt_report, hrows, carriedAfter, List.foldl_append]
    rfl
  · intro trade htrade
    exact tradeTurn_priced hopens htrade

theorem report_books_balance_last_two_days :
    ∃ report, runProductionBacktest SampleFrames.parts VirtualConfig.strategyYaml
        LastTwoDays.setup LastTwoDays.request (LastTwoDays.data 10 110) = .ok report ∧
      report.trades.length = 5 ∧ report.final = booked report.trades := by
  obtain ⟨report, hreport, hlength⟩ := LastTwoDays.run_trades
  exact ⟨report, hreport, hlength, (report_books_balance hreport).1⟩

end Books

end JdHoldings

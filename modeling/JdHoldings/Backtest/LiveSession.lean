import JdHoldings.Application.AllocationTargets
import JdHoldings.Application.PortfolioService
import JdHoldings.Backtest.PortfolioEngine

/-!
# A session of the live allocator

The session of the live account in which every order is filled in full at the open.

* **Open.**  `run_allocation` freezes the quantities of a generation that has none,
  sells what is above them and announces what is below.  An announced BUY is quoted at the
  open, checked against the available cash and reserved within it, as every BUY is, and
  filled; `buyFits` says when it gets that far.
* **Close.**  `run_allocation` marks the account at the closes, records the equity, and
  stores the target row if a weight changed.

The ledger of such an account is `Settled`: its cash and its shares are those of the
filled orders, and nothing is on its way.
-/

namespace JdHoldings

variable {ι : Type}

/-! ## Orders filled in full -/

/-- The row of an order that was filled in full at one price. -/
def OrderRequest.filledRow (request : OrderRequest ι) (price : Decimal) (now : Timestamp) :
    OrderRow ι :=
  { request.newRow now with
    status := .filled
    filledQty := request.quantity
    averageFillPrice := some price
    filled_le := le_refl _ }

/-- What the sessions of an account find around them: the client ids of the orders of a
generation, when a session places them, the versions and the chase limit of the config, how long
the signals of a generation are valid, and the answers of the broker to `get_buying_power`. -/
structure OrderDesk (ι : Type) where
  clientOrderId : Date → AllocationSymbol → Side → ι
  clock : Date → Timestamp
  version : String
  configVersion : String
  entryMaxChasePct : Decimal
  validUntil : Date → Utc
  buyingPower : Timestamp → AllocationSymbol → Decimal

/-- What `_apply_target` finds around it at an open. -/
def OrderDesk.context (desk : OrderDesk ι) (generation : Date) (opens : AllocationSymbol → Decimal) :
    TargetContext where
  version := desk.version
  configVersion := desk.configVersion
  entryMaxChasePct := desk.entryMaxChasePct
  price symbol := .ok (opens symbol)
  validUntil := desk.validUntil generation

/-- The SELL of `_sell_core`. -/
def OrderDesk.sellRequest (config : StrategyConfig) (desk : OrderDesk ι) (generation : Date)
    (opens : AllocationSymbol → Decimal) (symbol : AllocationSymbol) (quantity : ℕ)
    (quantity_pos : 0 < quantity) : OrderRequest ι where
  clientOrderId := desk.clientOrderId generation symbol .sell
  symbol := .allocation symbol
  side := .sell
  orderType := .limit
  quantity := quantity
  price := some (opens symbol * (1 - config.buyLimitBuffer))
  purpose := .coreRebalanceSell
  quantity_pos := quantity_pos
  side_eq := rfl

/-- The BUY of a quote. -/
def OrderDesk.buyRequest (desk : OrderDesk ι) (generation : Date) (symbol : AllocationSymbol)
    (limit : Decimal) (quantity : ℕ) (quantity_pos : 0 < quantity) : BuyRequest ι :=
  .core (desk.clientOrderId generation symbol .buy) symbol quantity limit quantity_pos

/-- The shares a target leaves to be bought. -/
def Repository.openQuantity (repo : Repository ι) (symbol : AllocationSymbol) : ℕ :=
  (repo.core symbol).targetQty - (repo.core symbol).qty
    - repo.committedCoreBuyQuantity (.allocation symbol)

section Fill

variable [DecidableEq ι]

/-- A reserved order is filled in full at one price, and booked. -/
def Repository.fillReserved (repo : Repository ι) (request : OrderRequest ι) (price : Decimal) :
    Py (Repository ι) := do
  let filled ← repo.updateOrder request.clientOrderId
    { status := .exact .filled, filledQty := some request.quantity, averageFillPrice := some price }
  filled.applyCoreFill request.clientOrderId

/-- An order is reserved, filled in full at one price, and booked. -/
def Repository.fillInFull (repo : Repository ι) (request : OrderRequest ι) (price : Decimal)
    (now : Timestamp) : Py (Repository ι) :=
  (repo.reserveOrder request now).1.fillReserved request price

/-- The SELL of `_apply_target`. -/
def Repository.sellDown (config : StrategyConfig) (desk : OrderDesk ι) (generation : Date)
    (now : Timestamp) (opens : AllocationSymbol → Decimal) (repo : Repository ι)
    (symbol : AllocationSymbol) : Py (Repository ι) :=
  let core := repo.core symbol
  if h : core.targetQty < core.qty then
    repo.fillInFull (desk.sellRequest config generation opens symbol (core.qty - core.targetQty)
      (Nat.sub_pos_of_lt h)) (opens symbol) now
  else .ok repo

/-- The price part of a quote at the open, and its check against the available cash. -/
def Repository.quoteAtOpen (config : StrategyConfig) (desk : OrderDesk ι) (now : Timestamp)
    (repo : Repository ι) (signal : CoreSignal) (price : Decimal) :
    Except QuoteError ReviewQuote := do
  let quote ← AllocationTradingService.priceQuote config repo signal .regular price
  let available ← (repo.availableManagedCash config (.ok (desk.buyingPower now signal.symbol))
    0).mapError QuoteError.raised
  raiseIf (available < quote.total config)
    (.approval "JDSS HWM75 위험예산 내 매수가능금액이 부족합니다")
  return quote

/-- The BUY of `_apply_target`: its signal is quoted at the open, and the order of the quote is
reserved within the managed cash and filled.  A BUY that is refused on the way leaves the ledger
as it is. -/
def Repository.buyUp (config : StrategyConfig) (desk : OrderDesk ι) (generation : Date)
    (now : Timestamp) (opens : AllocationSymbol → Decimal) (repo : Repository ι)
    (symbol : AllocationSymbol) : Py (Repository ι) :=
  if repo.openQuantity symbol = 0 ∨ repo.symbolIsSafe symbol = true then .ok repo
  else
    let signal := (desk.context generation opens).buySignal config symbol generation
      (repo.openQuantity symbol) (opens symbol)
    match repo.quoteAtOpen config desk now signal (opens symbol) with
    | .error _ => .ok repo
    | .ok quote =>
        if h : 0 < quote.quantity then
          let request := desk.buyRequest generation symbol quote.limitPrice quote.quantity h
          match repo.reserveBuyOrderWithManagedCash config (desk.buyingPower now symbol) request
              now with
          | .error _ => .ok repo
          | .ok (reserved, _) => reserved.fillReserved request.toOrderRequest (opens symbol)
        else .ok repo

/-! ## The two passes of a session -/

/-- The pass at the open up to its BUYs: the quantities are frozen, and what is above them is
sold. -/
def Repository.sellPass (config : StrategyConfig) (desk : OrderDesk ι) (generation : Date)
    (now : Timestamp) (opens : AllocationSymbol → Decimal) (repo : Repository ι) :
    Py (Repository ι) := do
  let repo ← if repo.system.targetQtyGeneration ≠ some generation then
      repo.freeze config generation fun symbol => .ok (opens symbol)
    else .ok repo
  allocationSymbols.foldlM (Repository.sellDown config desk generation now opens) repo

/-- The pass at the open. -/
def Repository.openPass (config : StrategyConfig) (desk : OrderDesk ι) (now : Timestamp)
    (opens : AllocationSymbol → Decimal) (repo : Repository ι) : Py (Repository ι) :=
  match repo.generation? with
  | none => .ok repo
  | some generation => do
      let repo ← repo.sellPass config desk generation now opens
      allocationSymbols.foldlM (Repository.buyUp config desk generation now opens) repo

/-- The pass after the close. -/
def Repository.closePass (config : StrategyConfig) (completed : Date)
    (closes : AllocationSymbol → Decimal) (target : Weights) (repo : Repository ι) :
    Py (Repository ι) := do
  let markedEquity ← repo.completedMarkedEquity config closes
  let system ← repo.system.recordV322Equity markedEquity
  let repo := repo.setSystem system
  return if repo.targetChanged target then repo.storeTargets completed target else repo

/-- One session of the live account. -/
def Repository.liveSession (config : StrategyConfig) (desk : OrderDesk ι) (repo : Repository ι)
    (session : ℕ × BacktestSession) : Py (Repository ι) := do
  let (index, bars) := session
  let repo ← repo.openPass config desk (desk.clock (index + 1)) bars.opens
  repo.closePass config (index + 1) bars.closes bars.target

/-! ## BUYs that fit -/

/-- The available managed cash covers the order of the open quantity at its limit. -/
def Repository.buyFits (config : StrategyConfig) (desk : OrderDesk ι) (now : Timestamp)
    (opens : AllocationSymbol → Decimal) (repo : Repository ι) (symbol : AllocationSymbol) : Bool :=
  if repo.openQuantity symbol = 0 then true
  else
    match calculateLimitPrice (opens symbol) (opens symbol * (1 + desk.entryMaxChasePct))
        config, repo.availableManagedCash config (.ok (desk.buyingPower now symbol)) 0 with
    | .ok limit, .ok available => decide (0 < limit) &&
        decide (repo.openQuantity symbol * limit * (1 + config.buyFee) ≤ available)
    | _, _ => false

/-- Each BUY of a pass fits into the account the BUYs before it leave. -/
def Repository.buysFit (config : StrategyConfig) (desk : OrderDesk ι) (generation : Date)
    (now : Timestamp) (opens : AllocationSymbol → Decimal) (repo : Repository ι) :
    List AllocationSymbol → Bool
  | [] => true
  | symbol :: symbols => repo.buyFits config desk now opens symbol &&
      match repo.buyUp config desk generation now opens symbol with
      | .ok repo => repo.buysFit config desk generation now opens symbols
      | .error _ => true

/-- The BUYs of a pass at the open fit. -/
def Repository.openFits (config : StrategyConfig) (desk : OrderDesk ι) (now : Timestamp)
    (opens : AllocationSymbol → Decimal) (repo : Repository ι) : Bool :=
  match repo.generation? with
  | none => true
  | some generation =>
      match repo.sellPass config desk generation now opens with
      | .ok sold => sold.buysFit config desk generation now opens allocationSymbols
      | .error _ => true

/-- The BUYs of all sessions fit. -/
def Repository.sessionsFit (config : StrategyConfig) (desk : OrderDesk ι) (repo : Repository ι) :
    List (ℕ × BacktestSession) → Bool
  | [] => true
  | session :: sessions =>
      repo.openFits config desk (desk.clock (session.1 + 1)) session.2.opens &&
        match repo.liveSession config desk session with
        | .ok repo => repo.sessionsFit config desk sessions
        | .error _ => true

end Fill

/-! ## Settled accounts -/

/-- The row belongs to an order that was filled and booked in full. -/
structure Repository.FilledRow (repo : Repository ι) (row : OrderRow ι) : Prop where
  status : row.status = .filled
  priced : row.averageFillPrice.isSome = true
  applied : repo.appliedFilledQty row.clientOrderId = row.filledQty

/-- The ledger holds this cash and these shares, and nothing is on its way. -/
structure Repository.Settled (config : StrategyConfig) (repo : Repository ι) (cash : Decimal)
    (shares : AllocationSymbol → ℕ) : Prop where
  principal : repo.system.effectiveInitialCapital = .ok V322Policy.initialCapital
  started : repo.system.isAutoEnabled = true → repo.system.accountingStartedAt.isSome = true
  cash_eq : cash = V322Policy.initialCapital + repo.netCashFlow config
  qty : ∀ symbol, (repo.core symbol).qty = shares symbol
  cost_nonneg : ∀ symbol, 0 ≤ (repo.core symbol).costBasis
  avg_nonneg : ∀ symbol, 0 ≤ (repo.core symbol).avgPrice
  direct : ∀ symbol, (repo.positions symbol).quantity = 0
  filled : ∀ row ∈ repo.orders, repo.FilledRow row

/-- The key has neither an order nor a booking. -/
structure Repository.Unused [DecidableEq ι] (repo : Repository ι) (clientOrderId : ι) : Prop where
  order : repo.orders.get? clientOrderId = none
  progress : repo.coreFillProgress clientOrderId = none

/-- The part of the ledger that no fill changes. -/
structure Repository.SameTargets (repo repo' : Repository ι) : Prop where
  system : repo'.system = repo.system
  positions : repo'.positions = repo.positions
  targetQty : ∀ symbol, (repo'.core symbol).targetQty = (repo.core symbol).targetQty
  targetWeight : ∀ symbol, (repo'.core symbol).targetWeight = (repo.core symbol).targetWeight
  signalTradeDate : ∀ symbol,
    (repo'.core symbol).signalTradeDate = (repo.core symbol).signalTradeDate

theorem Repository.SameTargets.refl (repo : Repository ι) : repo.SameTargets repo :=
  ⟨rfl, rfl, fun _ => rfl, fun _ => rfl, fun _ => rfl⟩

theorem Repository.SameTargets.trans {repo repo' repo'' : Repository ι}
    (hfirst : repo.SameTargets repo') (hsecond : repo'.SameTargets repo'') :
    repo.SameTargets repo'' where
  system := hsecond.system.trans hfirst.system
  positions := hsecond.positions.trans hfirst.positions
  targetQty symbol := (hsecond.targetQty symbol).trans (hfirst.targetQty symbol)
  targetWeight symbol := (hsecond.targetWeight symbol).trans (hfirst.targetWeight symbol)
  signalTradeDate symbol := (hsecond.signalTradeDate symbol).trans (hfirst.signalTradeDate symbol)

/-- Rows with a fill price add up. -/
private theorem foldlM_addToBalance_of_priced {config : StrategyConfig} {rows : List (OrderRow ι)}
    (hpriced : ∀ row ∈ rows, ∃ price, row.fillPrice? = some price) (balance : Decimal) :
    ∃ cash, rows.foldlM (fun balance row => row.addToBalance config balance) balance
      = (.ok cash : Py Decimal) := by
  induction rows generalizing balance with
  | nil => exact ⟨balance, rfl⟩
  | cons row rows ih =>
      obtain ⟨price, hprice⟩ := hpriced row (List.mem_cons_self ..)
      have hnext : ∃ next, row.addToBalance config balance = .ok next := by
        simp only [OrderRow.addToBalance, hprice]
        cases row.side with
        | buy => exact ⟨_, rfl⟩
        | sell => exact ⟨_, rfl⟩
      obtain ⟨next, hnext⟩ := hnext
      rw [List.foldlM_cons, hnext]
      exact ih (fun other hother => hpriced other (List.mem_cons_of_mem _ hother)) next

/-- The cash a settled account reconstructs. -/
theorem Repository.Settled.rawManagedCash {config : StrategyConfig} {repo : Repository ι}
    {cash : Decimal} {shares : AllocationSymbol → ℕ} (hsettled : repo.Settled config cash shares) :
    repo.rawManagedCash config = .ok cash := by
  have hpriced : ∀ row ∈ repo.orders.rows.filter repo.system.countsInCash,
      ∃ price, row.fillPrice? = some price := by
    intro row hrow
    obtain ⟨price, hprice⟩ := Option.isSome_iff_exists.mp
      (hsettled.filled row (List.mem_of_mem_filter hrow)).priced
    exact ⟨price, by simp [OrderRow.fillPrice?, hprice]⟩
  have hreached : ∃ cash, repo.rawManagedCash config = .ok cash := by
    unfold Repository.rawManagedCash
    simp only [hsettled.principal]
    split
    · exact ⟨_, rfl⟩
    · exact foldlM_addToBalance_of_priced hpriced _
  obtain ⟨found, hfound⟩ := hreached
  obtain ⟨initial, hinitial, hcash⟩ := Repository.rawManagedCash_ok hfound
  rw [hsettled.principal] at hinitial
  rw [hfound, hcash, ← Except.ok.inj hinitial, hsettled.cash_eq]

/-- Nothing is committed but not booked. -/
theorem Repository.Settled.committedCoreBuyQuantity {config : StrategyConfig} {repo : Repository ι}
    {cash : Decimal} {shares : AllocationSymbol → ℕ} (hsettled : repo.Settled config cash shares)
    (symbol : Symbol) : repo.committedCoreBuyQuantity symbol = 0 := by
  have hzero : ∀ row ∈ repo.orders,
      row.committedCoreBuy symbol (repo.appliedFilledQty row.clientOrderId) = 0 := by
    intro row hrow
    have hfilled := hsettled.filled row hrow
    simp [OrderRow.committedCoreBuy, hfilled.status, hfilled.applied, OrderStatus.isOpen]
  rw [Repository.committedCoreBuyQuantity, Table.sum_congr hzero]
  simp [Table.sum]

/-- No open BUY holds cash back. -/
theorem Repository.Settled.reservedOpenBuy {config : StrategyConfig} {repo : Repository ι}
    {cash : Decimal} {shares : AllocationSymbol → ℕ} (hsettled : repo.Settled config cash shares) :
    repo.reservedOpenBuy config = 0 := by
  have hzero : ∀ row ∈ repo.orders, row.reservedOpenBuy config = 0 := by
    intro row hrow
    simp [OrderRow.reservedOpenBuy, (hsettled.filled row hrow).status, OrderStatus.isOpen]
  rw [Repository.reservedOpenBuy, Table.sum_congr hzero]
  simp [Table.sum]

/-- The account may buy: its AUTO gates are open, and no symbol is in SAFE_MODE. -/
structure Repository.MayBuy (repo : Repository ι) : Prop where
  gates : repo.system.requireAutoReservationGates = .ok ()
  safe : ∀ symbol, repo.symbolIsSafe symbol = false

theorem Repository.SameTargets.mayBuy {repo repo' : Repository ι} (htargets : repo.SameTargets repo')
    (hmay : repo.MayBuy) : repo'.MayBuy where
  gates := by
    rw [htargets.system]
    exact hmay.gates
  safe symbol := by
    have hsafe := hmay.safe symbol
    unfold Repository.symbolIsSafe at hsafe ⊢
    rw [htargets.system, htargets.positions]
    exact hsafe

/-! ## What a fill does to a settled account -/

section Fill

variable [DecidableEq ι] {config : StrategyConfig} {repo : Repository ι} {cash : Decimal}
  {shares : AllocationSymbol → ℕ} {request : OrderRequest ι} {price : Decimal} {now : Timestamp}

/-- The reservation and the fill, before the booking. -/
def Repository.withFilled (repo : Repository ι) (request : OrderRequest ι) (price : Decimal)
    (now : Timestamp) : Repository ι :=
  { repo with orders := (repo.orders.insertOrIgnore (request.filledRow price now)).1 }

theorem Repository.fillInFull_eq (hunused : repo.Unused request.clientOrderId) (hprice : 0 < price) :
    repo.fillInFull request price now
      = (repo.withFilled request price now).applyCoreFill request.clientOrderId := by
  have hfresh : repo.orders.get? (request.newRow now).clientOrderId = none := hunused.order
  have hupdate : (request.newRow now).update .filled
      { status := .exact .filled, filledQty := some request.quantity,
        averageFillPrice := some price } = .ok (request.filledRow price now) := by
    have hpositive : ¬(0 < request.quantity ∧ ∃ average ∈ some price, average ≤ 0) := by
      rintro ⟨-, average, haverage, hle⟩
      rw [← Option.some.inj haverage] at hle
      exact absurd hprice (not_lt.mpr hle)
    have hbound : ¬(request.newRow now).qty < request.quantity := lt_irrefl _
    simp only [OrderRow.update, dif_neg hbound, if_neg hpositive]
    rfl
  have huntaken : ({ repo with orders := (repo.orders.insertOrIgnore (request.newRow now)).1 } :
      Repository ι).brokerOrderIdTaken (request.filledRow price now) = false := rfl
  have hget := Table.get?_insertOrIgnore_self hfresh
  simp only [fillInFull, fillReserved, reserveOrder, updateOrder, StatusText.upper?]
  rw [show (request.newRow now).clientOrderId = request.clientOrderId from rfl] at hget
  simp only [hget, hupdate, huntaken, Bool.false_eq_true, if_false, Except.ok_then]
  have hreplaced : (repo.orders.insertOrIgnore (request.newRow now)).1.replace
      (request.filledRow price now) = (repo.orders.insertOrIgnore (request.filledRow price now)).1 :=
    Table.replace_insertOrIgnore hfresh rfl
  rw [hreplaced]
  rfl

/-- The account after the booking of a filled order. -/
theorem Repository.Settled.book {symbol : AllocationSymbol} {row : CoreRow}
    (hsettled : repo.Settled config cash shares) (hunused : repo.Unused request.clientOrderId)
    (hcounted : repo.system.inAccounting (request.filledRow price now) = true)
    (hcost : 0 ≤ row.costBasis) (havg : 0 ≤ row.avgPrice) :
    ((repo.withFilled request price now).bookCoreFill symbol (request.filledRow price now)
      row).Settled config (cash + (request.filledRow price now).cashFlow config)
        (Function.update shares symbol row.qty) where
  principal := hsettled.principal
  started := hsettled.started
  cash_eq := by
    have hfresh : repo.orders.get? (request.filledRow price now).clientOrderId = none :=
      hunused.order
    have hsum := Table.sum_insertOrIgnore (repo.system.cashEffect config) hfresh
    have hflow : repo.system.cashEffect config (request.filledRow price now)
        = (request.filledRow price now).cashFlow config := by
      rw [SystemState.cashEffect, if_pos hcounted]
    rw [hflow] at hsum
    rw [hsettled.cash_eq, add_assoc]
    exact congrArg _ hsum.symm
  qty other := by
    by_cases hother : other = symbol
    · subst hother
      simp
    · rw [Repository.bookCoreFill_core_of_ne _ _ _ _ hother, Function.update_of_ne hother]
      exact hsettled.qty other
  cost_nonneg other := by
    by_cases hother : other = symbol
    · subst hother
      simpa using hcost
    · rw [Repository.bookCoreFill_core_of_ne _ _ _ _ hother]
      exact hsettled.cost_nonneg other
  avg_nonneg other := by
    by_cases hother : other = symbol
    · subst hother
      simpa using havg
    · rw [Repository.bookCoreFill_core_of_ne _ _ _ _ hother]
      exact hsettled.avg_nonneg other
  direct := hsettled.direct
  filled := by
    intro other hother
    rcases (Table.mem_insertOrIgnore hunused.order).mp hother with hold | rfl
    · have hrow := hsettled.filled other hold
      have hne : other.clientOrderId ≠ request.clientOrderId :=
        Table.get?_eq_none_iff.mp hunused.order other hold
      refine ⟨hrow.status, hrow.priced, ?_⟩
      rw [Repository.appliedFilledQty_bookCoreFill_of_ne _ _ _ _ hne]
      exact hrow.applied
    · -- The new order is filled, and booked in full.
      exact ⟨rfl, rfl, Repository.appliedFilledQty_bookCoreFill_self _ _ _ _⟩

theorem Repository.Unused.book {symbol : AllocationSymbol} {row : CoreRow} {other : ι}
    (hunused : repo.Unused other) (hne : other ≠ request.clientOrderId) :
    ((repo.withFilled request price now).bookCoreFill symbol (request.filledRow price now)
      row).Unused other where
  order := by
    have hkey : other ≠ (request.filledRow price now).clientOrderId := hne
    exact (Table.get?_insertOrIgnore_of_ne hkey).trans hunused.order
  progress := by
    have hkey : other ≠ (request.filledRow price now).clientOrderId := hne
    simp only [Repository.bookCoreFill, Function.update_of_ne hkey]
    exact hunused.progress

/-- A fill moves the cash and the shares of one symbol, and nothing else. -/
structure Repository.FillDone (config : StrategyConfig) (repo repo' : Repository ι)
    (cash : Decimal) (shares : AllocationSymbol → ℕ) (used : ι) : Prop where
  settled : repo'.Settled config cash shares
  targets : repo.SameTargets repo'
  unused : ∀ other, other ≠ used → repo.Unused other → repo'.Unused other

private theorem fillDone_of_book {symbol : AllocationSymbol} {row : CoreRow}
    (hsettled : repo.Settled config cash shares) (hunused : repo.Unused request.clientOrderId)
    (hcounted : repo.system.inAccounting (request.filledRow price now) = true)
    (hcost : 0 ≤ row.costBasis) (havg : 0 ≤ row.avgPrice)
    (htargetQty : row.targetQty = (repo.core symbol).targetQty)
    (htargetWeight : row.targetWeight = (repo.core symbol).targetWeight)
    (hsignal : row.signalTradeDate = (repo.core symbol).signalTradeDate) :
    repo.FillDone config
      ((repo.withFilled request price now).bookCoreFill symbol (request.filledRow price now) row)
      (cash + (request.filledRow price now).cashFlow config)
      (Function.update shares symbol row.qty) request.clientOrderId := by
  refine ⟨hsettled.book hunused hcounted hcost havg, ⟨rfl, rfl, ?_, ?_, ?_⟩, ?_⟩
  · intro other
    by_cases hother : other = symbol
    · subst hother
      simpa using htargetQty
    · rw [Repository.bookCoreFill_core_of_ne _ _ _ _ hother]
      rfl
  · intro other
    by_cases hother : other = symbol
    · subst hother
      simpa using htargetWeight
    · rw [Repository.bookCoreFill_core_of_ne _ _ _ _ hother]
      rfl
  · intro other
    by_cases hother : other = symbol
    · subst hother
      simpa using hsignal
    · rw [Repository.bookCoreFill_core_of_ne _ _ _ _ hother]
      rfl
  · intro other hne hfree
    exact hfree.book hne

/-- A filled order of a fresh id books its quantity and its notional. -/
private theorem applyCoreFill_withFilled {symbol : AllocationSymbol}
    (hunused : repo.Unused request.clientOrderId) (hsymbol : request.symbol = .allocation symbol)
    (hprice : 0 < price) :
    (repo.withFilled request price now).applyCoreFill request.clientOrderId
      = match request.side with
        | .buy => ((repo.core symbol).buyFill request.quantity (price * request.quantity)).map
            ((repo.withFilled request price now).bookCoreFill symbol
              (request.filledRow price now))
        | .sell => ((repo.core symbol).sellFill request.quantity).map
            ((repo.withFilled request price now).bookCoreFill symbol
              (request.filledRow price now)) := by
  have hfresh : repo.orders.get? (request.filledRow price now).clientOrderId = none :=
    hunused.order
  have hget : (repo.withFilled request price now).orders.get? request.clientOrderId
      = some (request.filledRow price now) := Table.get?_insertOrIgnore_self hfresh
  have happlied : (repo.withFilled request price now).appliedFilledQty request.clientOrderId = 0 := by
    simp [Repository.appliedFilledQty, Repository.withFilled, hunused.progress]
  have hnotional : (repo.withFilled request price now).appliedNotional request.clientOrderId = 0 := by
    simp [Repository.appliedNotional, Repository.withFilled, hunused.progress]
  have hquantity : (request.filledRow price now).filledQty = request.quantity := rfl
  have hamount : (request.filledRow price now).cumulativeNotional = price * request.quantity := rfl
  have hpositive : (0 : Decimal) < price * request.quantity :=
    mul_pos hprice (by exact_mod_cast request.quantity_pos)
  have hsome := request.quantity_pos
  have hnegative : ¬(0 < request.quantity ∧ price * request.quantity < 0) :=
    fun h => absurd h.2 (not_lt.mpr hpositive.le)
  have hnothing : ¬(request.quantity = 0 ∧ price * request.quantity = 0) :=
    fun h => hsome.ne' h.1
  have hallocation : (request.filledRow price now).symbol.allocation? = some symbol := by
    show request.symbol.allocation? = some symbol
    rw [hsymbol]
    rfl
  have hside : (request.filledRow price now).side = request.side := rfl
  simp only [Repository.applyCoreFill, hget, happlied, hnotional, hquantity, hamount, hallocation,
    Nat.not_lt_zero, if_false, Nat.sub_zero, sub_zero, if_neg hnegative, if_neg hnothing, hside]
  cases request.side with
  | buy => rfl
  | sell => rfl

/-- A BUY filled in full. -/
theorem Repository.Settled.buyInFull {symbol : AllocationSymbol}
    (hsettled : repo.Settled config cash shares) (hunused : repo.Unused request.clientOrderId)
    (hsymbol : request.symbol = .allocation symbol) (hside : request.side = .buy)
    (hprice : 0 < price)
    (hcounted : repo.system.inAccounting (request.filledRow price now) = true) :
    ∃ repo', repo.fillInFull request price now = .ok repo' ∧
      repo.FillDone config repo' (cash - price * request.quantity * (1 + config.buyFee))
        (Function.update shares symbol (shares symbol + request.quantity))
        request.clientOrderId := by
  have hpositive : (0 : Decimal) ≤ price * request.quantity :=
    mul_nonneg hprice.le (Nat.cast_nonneg _)
  have hcost : 0 ≤ (repo.core symbol).costBasis + price * request.quantity :=
    add_nonneg (hsettled.cost_nonneg symbol) hpositive
  have hflow : cash + (request.filledRow price now).cashFlow config
      = cash - price * request.quantity * (1 + config.buyFee) := by
    have hrow : (request.filledRow price now).side = .buy := hside
    rw [OrderRow.cashFlow, hrow, ← sub_eq_add_neg]
    rfl
  rw [Repository.fillInFull_eq hunused hprice, applyCoreFill_withFilled hunused hsymbol hprice,
    hside]
  simp only [CoreRow.buyFill, if_neg (not_lt.mpr hcost)]
  rw [← hflow, ← hsettled.qty symbol]
  refine ⟨_, rfl, fillDone_of_book hsettled hunused hcounted hcost ?_ rfl rfl rfl⟩
  show 0 ≤ if (repo.core symbol).qty + request.quantity = 0 then (0 : Decimal)
    else ((repo.core symbol).costBasis + price * request.quantity)
      / ((repo.core symbol).qty + request.quantity : ℕ)
  split
  · exact le_refl 0
  · exact div_nonneg hcost (Nat.cast_nonneg _)

/-- A SELL filled in full. -/
theorem Repository.Settled.sellInFull {symbol : AllocationSymbol}
    (hsettled : repo.Settled config cash shares) (hunused : repo.Unused request.clientOrderId)
    (hsymbol : request.symbol = .allocation symbol) (hside : request.side = .sell)
    (hprice : 0 < price)
    (hcounted : repo.system.inAccounting (request.filledRow price now) = true)
    (hheld : request.quantity ≤ shares symbol) :
    ∃ repo', repo.fillInFull request price now = .ok repo' ∧
      repo.FillDone config repo' (cash + price * request.quantity * (1 - config.sellFee))
        (Function.update shares symbol (shares symbol - request.quantity))
        request.clientOrderId := by
  have hflow : cash + (request.filledRow price now).cashFlow config
      = cash + price * request.quantity * (1 - config.sellFee) := by
    have hrow : (request.filledRow price now).side = .sell := hside
    rw [OrderRow.cashFlow, hrow]
    rfl
  have hcovered : ¬(repo.core symbol).qty < request.quantity := by
    rw [hsettled.qty symbol]
    exact not_lt.mpr hheld
  have havg : (0 : Decimal) ≤ if (repo.core symbol).qty - request.quantity = 0 then 0
      else (repo.core symbol).avgPrice := by
    split
    · exact le_refl 0
    · exact hsettled.avg_nonneg symbol
  rw [Repository.fillInFull_eq hunused hprice, applyCoreFill_withFilled hunused hsymbol hprice,
    hside]
  simp only [CoreRow.sellFill, if_neg hcovered]
  rw [← hflow, ← hsettled.qty symbol]
  exact ⟨_, rfl, fillDone_of_book hsettled hunused hcounted
    (mul_nonneg havg (Nat.cast_nonneg _)) havg rfl rfl rfl⟩

omit [DecidableEq ι] in
/-- What the available managed cash of an account is made of. -/
private theorem availableManagedCash_ok {power available : Decimal}
    (hok : repo.availableManagedCash config (.ok power) 0 = .ok available) :
    ∃ rawCash riskBudget, repo.rawManagedCash config = .ok rawCash ∧
      repo.system.riskBudgetOrInitial = .ok riskBudget ∧
      available = max 0 (min (rawCash - repo.reservedOpenBuy config)
        (min (riskBudget - repo.managedCostBasis config - repo.reservedOpenBuy config) power)) := by
  simp only [Repository.availableManagedCash, Except.bind_eq_ok] at hok
  obtain ⟨rawCash, hcash, riskBudget, hrisk, broker, hbroker, havailable⟩ := hok
  obtain rfl := Except.ok.inj hbroker
  refine ⟨rawCash, riskBudget, hcash, hrisk, ?_⟩
  rw [← Except.ok.inj havailable, sub_zero, sub_zero, sub_zero, min_assoc]

/-- A BUY that fits is reserved and filled in full at its limit. -/
theorem Repository.buyUp_of_fits {desk : OrderDesk ι} {generation : Date}
    {opens : AllocationSymbol → Decimal} {symbol : AllocationSymbol} (hmay : repo.MayBuy)
    (hsome : 0 < repo.openQuantity symbol)
    (hfits : repo.buyFits config desk now opens symbol = true) :
    ∃ limit, repo.buyUp config desk generation now opens symbol
      = repo.fillInFull (desk.buyRequest generation symbol limit (repo.openQuantity symbol)
          hsome).toOrderRequest (opens symbol) now := by
  have hopen : repo.openQuantity symbol ≠ 0 := hsome.ne'
  unfold Repository.buyFits at hfits
  rw [if_neg hopen] at hfits
  split at hfits
  next limit available hlimit havailable =>
    rw [Bool.and_eq_true, decide_eq_true_eq, decide_eq_true_eq] at hfits
    obtain ⟨hpositive, hroom⟩ := hfits
    obtain ⟨quote, hquote, hquantity, hprice⟩ := priceQuote_buySignal
      (desk.context generation opens) generation .regular hlimit hpositive hsome rfl
    have htotal : quote.total config
        = repo.openQuantity symbol * limit * (1 + config.buyFee) := by
      rw [ReviewQuote.total, hquantity, hprice]
    have hquoted : repo.quoteAtOpen config desk now ((desk.context generation opens).buySignal config
        symbol generation (repo.openQuantity symbol) (opens symbol)) (opens symbol) = .ok quote := by
      -- The account pays what the quote asks.
      have hchecked : ¬available < quote.total config := by
        rw [htotal]
        exact not_lt.mpr hroom
      have hsymbol : ((desk.context generation opens).buySignal config symbol generation
        (repo.openQuantity symbol) (opens symbol)).symbol = symbol := rfl
      simp only [Repository.quoteAtOpen, hquote, hsymbol, havailable, Except.mapError,
        Except.ok_then, raiseIf, if_neg hchecked]
      rfl
    -- The reservation reads the same account as the quote.
    obtain ⟨rawCash, riskBudget, hcash, hrisk, hmax⟩ := availableManagedCash_ok havailable
    have htarget : repo.requireCoreTarget config riskBudget
        (desk.buyRequest generation symbol limit (repo.openQuantity symbol) hsome) = .ok () := by
      have hfrozen : ¬((repo.core symbol).targetQty = 0 ∧ 0 < (repo.core symbol).targetWeight) := by
        rintro ⟨hzero, -⟩
        rw [Repository.openQuantity, hzero] at hsome
        omega
      have hrequest : (desk.buyRequest generation symbol limit (repo.openQuantity symbol)
          hsome).symbol = .allocation symbol := rfl
      simp only [Repository.requireCoreTarget, hrequest, Symbol.allocation?, Repository.coreBuyTarget,
        if_neg hfrozen, raiseIf_eq_ok, not_lt]
      exact le_refl _
    have hreserve := Repository.reserveBuyOrderWithManagedCash_of_room now hmay.gates hcash hrisk
      (fun _ => htarget) (hroom.trans_eq hmax)
    refine ⟨limit, ?_⟩
    have hproceed : ¬(repo.openQuantity symbol = 0 ∨ repo.symbolIsSafe symbol = true) := by
      rw [hmay.safe symbol]
      simp [hopen]
    obtain ⟨id, row, session, current, ceiling, limitPrice, quantity, planned, fee⟩ := quote
    dsimp only at hquantity hprice
    subst hquantity hprice
    simp only [Repository.buyUp, if_neg hproceed, hquoted, dif_pos hsome, hreserve]
    rfl
  next => cases hfits

end Fill

end JdHoldings

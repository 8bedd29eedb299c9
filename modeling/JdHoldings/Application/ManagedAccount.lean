import JdHoldings.Application.Database
import JdHoldings.Core.TwinCore
import JdHoldings.Library.Raise

/-!
# The managed account

The cash and risk accounting of the delegated capital.  Nothing is stored but
the effective principal, the high-water mark and the risk budget: cash is
reconstructed from every counted fill (`rawManagedCash`), the deployed capital
is read from the position tables (`managedCostBasis`), and the open BUY orders
hold back their unfilled remainder (`reservedOpenBuy`).

`reserveBuyOrderWithManagedCash` reads the three in one transaction and inserts
the BUY only when all ceilings leave room for it.  Its spec lemma
`reserveBuyOrderWithManagedCash_ok` lists everything an accepted reservation has
been checked against; later proofs use that lemma and never unfold the function.
-/

namespace JdHoldings

variable {ι : Type}

/-- `format(amount, ".2f")`. -/
def moneyText (amount : Decimal) : String :=
  let cents := Quantize.roundHalfEven (amount * 100)
  let whole := toString (cents.natAbs / 100)
  let fraction := toString (cents.natAbs % 100)
  (if cents < 0 then "-" else "") ++ whole ++ "." ++
    (if cents.natAbs % 100 < 10 then "0" else "") ++ fraction

/-! ## Capital -/

/-- `_auto_enabled`. -/
def SystemState.isAutoEnabled (system : SystemState) : Bool :=
  decide (system.autoEnabled = some true)

/-- `_effective_initial_capital_from_connection`. -/
def SystemState.effectiveInitialCapital (system : SystemState) : Py Decimal :=
  if system.isAutoEnabled then
    match system.effectivePrincipal with
    | none => .ok 0
    | some value =>
        if value < 0 then .error (.runtime "JH AUTO 위임원금 상태가 유효하지 않습니다") else .ok value
  else .ok V322Policy.initialCapital

/-- `_risk_budget_from_connection`. -/
def SystemState.riskBudgetOrInitial (system : SystemState) : Py Decimal :=
  match system.effectiveInitialCapital with
  | .error error => .error error
  | .ok initial => .ok (system.riskBudget.getD initial)

theorem SystemState.effectiveInitialCapital_nonneg {system : SystemState} {initial : Decimal}
    (hinitial : system.effectiveInitialCapital = .ok initial) : 0 ≤ initial := by
  unfold effectiveInitialCapital at hinitial
  split at hinitial
  · split at hinitial
    · obtain rfl := Except.ok.inj hinitial
      exact le_refl 0
    · split at hinitial
      · cases hinitial
      · rename_i hneg
        obtain rfl := Except.ok.inj hinitial
        exact not_lt.mp hneg
  · obtain rfl := Except.ok.inj hinitial
    norm_num [V322Policy.initialCapital]

/-! ## Cash -/

namespace OrderRow

/-- What the fills of an order did to the cash balance. -/
def cashFlow (config : StrategyConfig) (row : OrderRow ι) : Decimal :=
  match row.side with
  | .buy => -(row.cumulativeNotional * (1 + config.buyFee))
  | .sell => row.cumulativeNotional * (1 - config.sellFee)

/-- The body of the loop in `_raw_managed_cash_from_connection`. -/
def addToBalance (config : StrategyConfig) (balance : Decimal) (row : OrderRow ι) : Py Decimal :=
  match row.fillPrice? with
  | none => .error (.runtime "체결수량이 있는 주문에 체결가격이 없습니다")
  | some price =>
      let gross := row.filledQty * price
      match row.side with
      | .buy => .ok (balance - gross * (1 + config.buyFee))
      | .sell => .ok (balance + gross * (1 - config.sellFee))

theorem addToBalance_ok {config : StrategyConfig} {balance balance' : Decimal} {row : OrderRow ι}
    (hok : row.addToBalance config balance = .ok balance') :
    balance' = balance + row.cashFlow config := by
  unfold addToBalance at hok
  cases hprice : row.fillPrice? with
  | none => simp [hprice] at hok
  | some price =>
      have hnotional : row.cumulativeNotional = price * row.filledQty := by
        simp [cumulativeNotional, fillPrice, hprice]
      simp only [hprice] at hok
      cases hside : row.side with
      | buy =>
          simp only [hside] at hok
          rw [← Except.ok.inj hok, cashFlow, hside, hnotional]
          ring
      | sell =>
          simp only [hside] at hok
          rw [← Except.ok.inj hok, cashFlow, hside, hnotional]
          ring

@[simp] theorem cashFlow_of_filledQty_zero {config : StrategyConfig} {row : OrderRow ι}
    (hfilled : row.filledQty = 0) : row.cashFlow config = 0 := by
  cases hside : row.side <;> simp [cashFlow, hside, hfilled]

end OrderRow

/-- Once AUTO is enabled, only orders created since the accounting started belong
to the ledger. -/
def SystemState.inAccounting (system : SystemState) (row : OrderRow ι) : Bool :=
  !system.isAutoEnabled || decide (∃ start ∈ system.accountingStartedAt, start ≤ row.createdAt)

/-- The query of `_raw_managed_cash_from_connection` selects the row. -/
def SystemState.countsInCash (system : SystemState) (row : OrderRow ι) : Bool :=
  decide (0 < row.filledQty) && system.inAccounting row

/-- `_raw_managed_cash_from_connection`. -/
def Repository.rawManagedCash (config : StrategyConfig) (repo : Repository ι) : Py Decimal :=
  match repo.system.effectiveInitialCapital with
  | .error error => .error error
  | .ok balance =>
      if repo.system.isAutoEnabled && repo.system.accountingStartedAt.isNone then .ok balance
      else
        (repo.orders.rows.filter repo.system.countsInCash).foldlM
          (fun balance row => row.addToBalance config balance) balance

/-- What a row adds to the reconstructed cash. -/
def SystemState.cashEffect (config : StrategyConfig) (system : SystemState) (row : OrderRow ι) :
    Decimal :=
  if system.inAccounting row then row.cashFlow config else 0

/-- The sum of all cash effects. -/
def Repository.netCashFlow (config : StrategyConfig) (repo : Repository ι) : Decimal :=
  repo.orders.sum (repo.system.cashEffect config)

theorem SystemState.ite_countsInCash (config : StrategyConfig) (system : SystemState)
    (row : OrderRow ι) :
    (if system.countsInCash row then row.cashFlow config else 0) = system.cashEffect config row := by
  by_cases hfilled : 0 < row.filledQty
  · simp [countsInCash, cashEffect, hfilled]
  · have hzero : row.filledQty = 0 := by omega
    simp [cashEffect, OrderRow.cashFlow_of_filledQty_zero hzero]

private theorem foldlM_addToBalance_ok {config : StrategyConfig} {rows : List (OrderRow ι)} :
    ∀ {balance cash : Decimal},
      rows.foldlM (fun balance row => row.addToBalance config balance) balance = .ok cash →
        cash = balance + (rows.map (OrderRow.cashFlow config)).sum := by
  induction rows with
  | nil =>
      intro balance cash hok
      simpa using (Except.ok.inj hok).symm
  | cons row rows ih =>
      intro balance cash hok
      rw [List.foldlM_cons] at hok
      cases hrow : row.addToBalance config balance with
      | error error => rw [hrow] at hok; cases hok
      | ok next =>
          rw [hrow] at hok
          rw [ih hok, OrderRow.addToBalance_ok hrow, List.map_cons, List.sum_cons, add_assoc]

private theorem sum_map_filter_eq {rows : List (OrderRow ι)} (keep : OrderRow ι → Bool)
    (weight : OrderRow ι → Decimal) :
    ((rows.filter keep).map weight).sum
      = (rows.map fun row => if keep row then weight row else 0).sum := by
  induction rows with
  | nil => rfl
  | cons row rows ih => cases hkeep : keep row <;> simp [hkeep, ih]

/-- The reconstructed cash is the effective principal plus all counted flows. -/
theorem Repository.rawManagedCash_ok {config : StrategyConfig} {repo : Repository ι} {cash : Decimal}
    (hok : repo.rawManagedCash config = .ok cash) :
    ∃ initial, repo.system.effectiveInitialCapital = .ok initial ∧
      cash = initial + repo.netCashFlow config := by
  unfold Repository.rawManagedCash at hok
  cases hinitial : repo.system.effectiveInitialCapital with
  | error error => simp [hinitial] at hok
  | ok initial =>
      simp only [hinitial] at hok
      refine ⟨initial, rfl, ?_⟩
      split at hok
      · rename_i hnever
        have hflow : repo.netCashFlow config = 0 := by
          simp only [Bool.and_eq_true, Option.isNone_iff_eq_none] at hnever
          have hzero : ∀ row ∈ repo.orders, repo.system.cashEffect config row = 0 := by
            intro row _
            simp [SystemState.cashEffect, SystemState.inAccounting, hnever]
          rw [netCashFlow, Table.sum_congr hzero]
          simp [Table.sum]
        rw [hflow, add_zero]
        exact (Except.ok.inj hok).symm
      · rw [foldlM_addToBalance_ok hok, sum_map_filter_eq]
        simp only [SystemState.ite_countsInCash]
        rfl

/-! ## Deployed and reserved capital -/

/-- `_managed_cost_basis_from_connection`. -/
def Repository.managedCostBasis (config : StrategyConfig) (repo : Repository ι) : Decimal :=
  let boosters := (repo.positions .tqqq).currentCostBasis + (repo.positions .soxl).currentCostBasis
  let cores := (repo.core .qqq).costBasis + (repo.core .tqqq).costBasis + (repo.core .soxl).costBasis
  let idle := if config.idleCashEnabled then
    repo.idleCash.managedQuantity * repo.idleCash.averagePrice else 0
  max 0 (boosters + cores + idle)

/-- The summand of `_reserved_open_buy_from_connection`. -/
def OrderRow.reservedOpenBuy (config : StrategyConfig) (row : OrderRow ι) : Decimal :=
  if row.side = .buy ∧ row.status.isOpen then
    match row.price with
    | some price => row.remaining * price * (1 + config.buyFee)
    | none => 0
  else 0

/-- `_reserved_open_buy_from_connection`. -/
def Repository.reservedOpenBuy (config : StrategyConfig) (repo : Repository ι) : Decimal :=
  repo.orders.sum (OrderRow.reservedOpenBuy config)

/-- The summand of `_committed_core_buy_quantity_from_connection`, for a given
`applied_filled_qty`. -/
def OrderRow.committedCoreBuy (symbol : Symbol) (applied : ℕ) (row : OrderRow ι) : ℕ :=
  if row.symbol = symbol ∧ row.side = .buy ∧ row.purpose = .coreRebalanceBuy then
    if row.status.isOpen then row.qty - applied else row.filledQty - applied
  else 0

/-- `_committed_core_buy_quantity_from_connection`. -/
def Repository.committedCoreBuyQuantity (repo : Repository ι) (symbol : Symbol) : ℕ :=
  repo.orders.sum fun row => row.committedCoreBuy symbol (repo.appliedFilledQty row.clientOrderId)

/-! ## Marked equity -/

/-- What the broker answers to `get_price`, which may raise. -/
structure Quotes where
  allocation : AllocationSymbol → Py Decimal
  idleCash : Py Decimal

/-- The market value of a quantity; nothing is quoted for an empty position. -/
def marketValue (quantity : ℕ) (price : Py Decimal) : Py Decimal :=
  if 0 < quantity then price.map fun price => quantity * price else .ok 0

/-- `managed_market_value`. -/
def Repository.managedMarketValue (config : StrategyConfig) (repo : Repository ι) (quotes : Quotes) :
    Py Decimal := do
  let qqq ← marketValue (repo.core .qqq).qty (quotes.allocation .qqq)
  let soxl ← marketValue (repo.core .soxl).qty (quotes.allocation .soxl)
  let tqqq ← marketValue (repo.core .tqqq).qty (quotes.allocation .tqqq)
  let boosterTqqq ← marketValue (repo.positions .tqqq).quantity (quotes.allocation .tqqq)
  let boosterSoxl ← marketValue (repo.positions .soxl).quantity (quotes.allocation .soxl)
  let idle ← if config.idleCashEnabled then
    marketValue repo.idleCash.managedQuantity quotes.idleCash else .ok 0
  return qqq + soxl + tqqq + boosterTqqq + boosterSoxl + idle

/-- `marked_managed_equity`.  Negative cash stays in the sum: it is what a capital
reduction still has to return. -/
def Repository.markedManagedEquity (config : StrategyConfig) (repo : Repository ι)
    (quotes : Quotes) : Py Decimal := do
  let rawCash ← repo.rawManagedCash config
  let marketValue ← repo.managedMarketValue config quotes
  return max 0 (rawCash + marketValue)

/-! ## Recording an equity observation -/

/-- `record_v322_equity`. -/
def SystemState.recordV322Equity (system : SystemState) (markedEquity : Decimal) : Py SystemState :=
  if markedEquity < 0 then .error (.value "marked_equity는 0 이상이어야 합니다")
  else
    match system.effectiveInitialCapital with
    | .error error => .error error
    | .ok initial =>
        let previous := system.highWaterEquity.getD initial
        let highWater := max previous (max markedEquity initial)
        let gain := max 0 (highWater - initial)
        let riskBudget :=
          max 0 (min (initial + V322Policy.hwmReinvestmentFraction * gain) markedEquity)
        .ok { system with highWaterEquity := some highWater, riskBudget := some riskBudget }

/-! ## Reserving a BUY -/

/-- The AUTO gates read inside the reservation transaction. -/
def SystemState.requireAutoReservationGates (system : SystemState) : Py Unit := do
  if system.isAutoEnabled then
    raiseIf (system.launchAuthorized ≠ some true)
      (.runtime "JH AUTO 최초 시작승인 전에는 실제 매수를 할 수 없습니다")
    raiseIf (system.startupQuarantine ≠ some false)
      (.runtime "JH AUTO 임시격리 상태라 실제 매수가 차단되어 있습니다")
    raiseIf (system.operatorHaltLatched ≠ some false)
      (.runtime "JH AUTO 대표 긴급정지 상태가 ON이거나 누락·손상되어 실제 매수가 차단되어 있습니다")
    raiseIf (system.autoState ≠ some .running)
      (.runtime "JH AUTO 실행상태가 RUNNING이 아니라 실제 매수가 차단되어 있습니다")
    match system.effectivePrincipal with
    | none => throw (.runtime "JH AUTO 현재 허용원금 상태가 누락·손상되었습니다")
    | some effective =>
        raiseIf (effective ≤ 0) (.runtime "JH AUTO 현재 허용원금이 0 이하라 실제 매수가 차단되어 있습니다")

/-- The target a core BUY is measured against: the frozen one, or the one the
weight gives now when none is frozen. -/
def Repository.coreBuyTarget (config : StrategyConfig) (repo : Repository ι) (riskBudget : Decimal)
    (symbol : AllocationSymbol) (price : Decimal) : ℕ :=
  if (repo.core symbol).targetQty = 0 ∧ 0 < (repo.core symbol).targetWeight then
    targetQuantity riskBudget (repo.core symbol).targetWeight price config.buyFee
  else (repo.core symbol).targetQty

/-- The target check of a `CORE_REBALANCE_BUY` reservation. -/
def Repository.requireCoreTarget (config : StrategyConfig) (repo : Repository ι)
    (riskBudget : Decimal) (request : BuyRequest ι) : Py Unit :=
  match request.symbol.allocation? with
  | none => .error (.runtime s!"V3.2.2 코어 목표 종목이 아닙니다: {request.symbol.text}")
  | some symbol =>
      let target := repo.coreBuyTarget config riskBudget symbol request.limit
      let held := (repo.core symbol).qty
      let committed := repo.committedCoreBuyQuantity request.symbol
      let remainingTarget := target - held - committed
      raiseIf (remainingTarget < request.quantity)
        (.runtime ("V3.2.2 목표수량을 초과하는 코어 매수를 JH AUTO 경계에서 차단했습니다 "
          ++ s!"(요청={request.quantity}주, 잔여={remainingTarget}주, "
          ++ s!"보유={held}주, 주문중={committed}주)"))

theorem Repository.requireCoreTarget_ok {config : StrategyConfig} {repo : Repository ι}
    {riskBudget : Decimal} {request : BuyRequest ι} {u : Unit}
    (hok : repo.requireCoreTarget config riskBudget request = .ok u) :
    ∃ symbol, request.symbol = .allocation symbol ∧
      request.quantity ≤ repo.coreBuyTarget config riskBudget symbol request.limit
        - (repo.core symbol).qty - repo.committedCoreBuyQuantity request.symbol := by
  unfold Repository.requireCoreTarget at hok
  split at hok
  · cases hok
  · rename_i symbol hsymbol
    simp only [raiseIf_eq_ok, not_lt] at hok
    exact ⟨symbol, Symbol.allocation?_eq_some hsymbol, hok⟩

/-- The money a BUY needs, fee included. -/
def BuyRequest.required (config : StrategyConfig) (request : BuyRequest ι) : Decimal :=
  request.quantity * request.limit * (1 + config.buyFee)

theorem BuyRequest.required_pos {config : StrategyConfig} {request : BuyRequest ι}
    (hlimit : 0 < request.limit) : 0 < request.required config := by
  have hquantity : (0 : ℚ) < request.quantity := by exact_mod_cast request.quantity_pos
  exact mul_pos (mul_pos hquantity hlimit) config.one_add_buyFee_pos

variable [DecidableEq ι]

/-- `reserve_buy_order_with_managed_cash`, for a given answer of the broker to
`get_buying_power`. -/
def Repository.reserveBuyOrderWithManagedCash (config : StrategyConfig) (repo : Repository ι)
    (brokerAvailable : Decimal) (request : BuyRequest ι) (now : Timestamp) :
    Py (Repository ι × Bool) := do
  let required := request.required config
  repo.system.requireAutoReservationGates
  let rawCash ← repo.rawManagedCash config
  let invested := repo.managedCostBasis config
  let riskBudget ← repo.system.riskBudgetOrInitial
  let reserved := repo.reservedOpenBuy config
  if request.purpose = .coreRebalanceBuy then
    repo.requireCoreTarget config riskBudget request
  let available :=
    max 0 (min (rawCash - reserved) (min (riskBudget - invested - reserved) brokerAvailable))
  raiseIf (available < required)
    (.runtime ("JDSS HWM75 위험예산 또는 JH AUTO 위임한도가 부족하여 매수 주문을 차단했습니다 "
      ++ s!"(필요={moneyText required}, 사용가능={moneyText available}, "
      ++ s!"위험예산={moneyText riskBudget})"))
  return repo.reserveOrder request.toOrderRequest now

/-- Everything an accepted reservation has been checked against. -/
structure Repository.ReservationChecked (config : StrategyConfig) (repo : Repository ι)
    (brokerAvailable : Decimal) (request : BuyRequest ι) (rawCash riskBudget : Decimal) : Prop where
  gates : repo.system.requireAutoReservationGates = .ok ()
  cash_eq : repo.rawManagedCash config = .ok rawCash
  riskBudget_eq : repo.system.riskBudgetOrInitial = .ok riskBudget
  target : request.purpose = .coreRebalanceBuy → ∃ symbol, request.symbol = .allocation symbol ∧
    request.quantity ≤ repo.coreBuyTarget config riskBudget symbol request.limit
      - (repo.core symbol).qty - repo.committedCoreBuyQuantity request.symbol
  room : request.required config ≤
    max 0 (min (rawCash - repo.reservedOpenBuy config)
      (min (riskBudget - repo.managedCostBasis config - repo.reservedOpenBuy config)
        brokerAvailable))

omit [DecidableEq ι] in
/-- A BUY at a positive price fits into every ceiling it has been checked against. -/
theorem Repository.ReservationChecked.room_of_pos {config : StrategyConfig} {repo : Repository ι}
    {brokerAvailable : Decimal} {request : BuyRequest ι} {rawCash riskBudget : Decimal}
    (hchecked : repo.ReservationChecked config brokerAvailable request rawCash riskBudget)
    (hlimit : 0 < request.limit) :
    request.required config ≤ rawCash - repo.reservedOpenBuy config ∧
      request.required config
        ≤ riskBudget - repo.managedCostBasis config - repo.reservedOpenBuy config ∧
      request.required config ≤ brokerAvailable := by
  rcases le_max_iff.mp hchecked.room with hzero | hmin
  · exact absurd (BuyRequest.required_pos hlimit) (not_lt.mpr hzero)
  · exact ⟨(le_min_iff.mp hmin).1, le_min_iff.mp (le_min_iff.mp hmin).2⟩

theorem Repository.reserveBuyOrderWithManagedCash_ok {config : StrategyConfig}
    {repo : Repository ι} {brokerAvailable : Decimal} {request : BuyRequest ι} {now : Timestamp}
    {result : Repository ι × Bool}
    (hok : repo.reserveBuyOrderWithManagedCash config brokerAvailable request now = .ok result) :
    (∃ rawCash riskBudget,
      repo.ReservationChecked config brokerAvailable request rawCash riskBudget) ∧
      result = repo.reserveOrder request.toOrderRequest now := by
  simp only [Repository.reserveBuyOrderWithManagedCash, Except.bind_eq_ok] at hok
  obtain ⟨_, hgates, rawCash, hcash, riskBudget, hrisk, hrest⟩ := hok
  by_cases hpurpose : request.purpose = .coreRebalanceBuy
  · simp only [if_pos hpurpose, Except.bind_eq_ok, raiseIf_eq_ok, not_lt] at hrest
    obtain ⟨_, htarget, _, hroom, hresult⟩ := hrest
    exact ⟨⟨rawCash, riskBudget, hgates, hcash, hrisk,
      fun _ => Repository.requireCoreTarget_ok htarget, hroom⟩, (Except.ok.inj hresult).symm⟩
  · simp only [if_neg hpurpose, Except.bind_eq_ok, raiseIf_eq_ok, not_lt] at hrest
    obtain ⟨_, hroom, hresult⟩ := hrest
    exact ⟨⟨rawCash, riskBudget, hgates, hcash, hrisk, fun h => absurd h hpurpose, hroom⟩,
      (Except.ok.inj hresult).symm⟩

/-- A BUY that fits into every ceiling is reserved, one of the core sleeve where its target
leaves the quantity open. -/
theorem Repository.reserveBuyOrderWithManagedCash_of_room {config : StrategyConfig}
    {repo : Repository ι} {brokerAvailable rawCash riskBudget : Decimal} {request : BuyRequest ι}
    (now : Timestamp) (hgates : repo.system.requireAutoReservationGates = .ok ())
    (hcash : repo.rawManagedCash config = .ok rawCash)
    (hrisk : repo.system.riskBudgetOrInitial = .ok riskBudget)
    (htarget : request.purpose = .coreRebalanceBuy →
      repo.requireCoreTarget config riskBudget request = .ok ())
    (hroom : request.required config ≤
      max 0 (min (rawCash - repo.reservedOpenBuy config)
        (min (riskBudget - repo.managedCostBasis config - repo.reservedOpenBuy config)
          brokerAvailable))) :
    repo.reserveBuyOrderWithManagedCash config brokerAvailable request now
      = .ok (repo.reserveOrder request.toOrderRequest now) := by
  simp only [Repository.reserveBuyOrderWithManagedCash, Except.bind_eq_ok]
  refine ⟨(), hgates, rawCash, hcash, riskBudget, hrisk, ?_⟩
  by_cases hpurpose : request.purpose = .coreRebalanceBuy
  · simp only [if_pos hpurpose, Except.bind_eq_ok, raiseIf_eq_ok, not_lt]
    exact ⟨(), htarget hpurpose, (), hroom, rfl⟩
  · simp only [if_neg hpurpose, Except.bind_eq_ok, raiseIf_eq_ok, not_lt]
    exact ⟨(), hroom, rfl⟩

end JdHoldings

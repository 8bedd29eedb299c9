import JdHoldings.Application.OrderManager

/-!
# Reconciliation

`ReconciliationService.run` compares the broker with the ledger.  It first brings
the open core orders up to date and books their fills (`refreshOpenCoreOrders`),
reads the holdings, and then looks at each allocation symbol in turn
(`symbolIssues`): quantities, direct positions, unknown orders, and the list of
OPEN orders.

The holdings and the orders are read at different instants.  A difference in
quantity is excused when it lies within what the open remainders and the fills
booked in this run can explain (`coreFillTransitionExplainsQuantity`).  A quantity that
`Decimal` reads as `NaN` or `Infinity` is invalid and never excused, and where nothing is
expected the comparison with `NaN` raises out of the run.

A run that raises leaves behind what it has written so far, so the definitions
return the repository next to the result.  Events, the time stamp of the run, the
notes about provider outages and the SGOV sleeve are not part of the model.
-/

namespace JdHoldings

variable {ι : Type}

/-- What `Decimal` reads from a text: `Infinity` and `NaN` are numbers to it. -/
inductive DecimalValue where
  | finite (value : Decimal)
  | infinity (negative : Bool)
  | nan (signaling : Bool)
deriving DecidableEq, Repr

/-- A row of `get_holdings`.  A quantity `Decimal` cannot read is `none`. -/
structure HoldingRow where
  symbol : Symbol
  quantity : Option DecimalValue

/-- The answers of the broker to the reads of one run. -/
structure BrokerReads (ι : Type) where
  getOrder : BrokerOrderId → Py (BrokerOrder ι)
  getHoldings : Py (List HoldingRow)
  /-- The ids `list_orders(status="OPEN")` shows for a symbol. -/
  listOpenOrders : AllocationSymbol → Py (List BrokerOrderId)

/-- The texts `run` reports for a symbol. -/
inductive ReconciliationIssue where
  | brokerDuplicateHoldingRows
  | brokerInvalidHoldingQuantity
  | brokerFractionalHolding (quantity : Decimal)
  | directBoosterStatePresent (state : PositionState) (quantity : ℕ)
  | brokerDbQtyMismatch (brokerQty : DecimalValue) (expectedTotal : ℕ)
  | unmanagedPersonalAllocationSymbol
  | dbPositionBrokerEmpty
  | directTpPlanPresent
  | unknownOrderStatus
  | unknownOrderWithoutBrokerId
  | openOrderWithoutBrokerId (statuses : List OrderStatus)
  | brokerDbOpenOrderMismatch
  | brokerOpenOrderLookupFailed
deriving DecidableEq, Repr

/-! ## Comparisons of `Decimal`

A signaling `NaN` answers none of them, and no `NaN` can be ordered. -/

namespace DecimalValue

/-- `Decimal(shares) != value`. -/
def differs (shares : ℕ) : DecimalValue → Py Bool
  | .finite value => .ok (decide ((shares : Decimal) ≠ value))
  | .infinity _ => .ok true
  | .nan signaling => if signaling then .error (.other "InvalidOperation") else .ok true

/-- `value > 0`. -/
def isPositive : DecimalValue → Py Bool
  | .finite value => .ok (decide (0 < value))
  | .infinity negative => .ok !negative
  | .nan _ => .error (.other "InvalidOperation")

/-- `value == 0`. -/
def isZero : DecimalValue → Py Bool
  | .finite value => .ok (decide (value = 0))
  | .infinity _ => .ok false
  | .nan signaling => if signaling then .error (.other "InvalidOperation") else .ok false

end DecimalValue

/-! ## Writing SAFE_MODE -/

/-- The position of an allocation symbol, when it has one. -/
def AllocationSymbol.enabled? (symbol : AllocationSymbol) : Option EnabledSymbol :=
  (Symbol.allocation symbol).enabled?

/-- `transition_position` from the state just read into SAFE_MODE. -/
def Repository.enterPositionSafeMode (repo : Repository ι) (symbol : EnabledSymbol) :
    Repository ι :=
  { repo with
    positions := Function.update repo.positions symbol
      { repo.positions symbol with state := .safeMode } }

/-- `set_system_value("v322_portfolio_safe_mode", "1")`. -/
def Repository.setPortfolioSafeMode (repo : Repository ι) : Repository ι :=
  repo.setSystem { repo.system with portfolioSafeMode := some true }

/-- `_enter_allocation_safe_mode`. -/
def Repository.enterAllocationSafeMode (repo : Repository ι) (symbol : Symbol) : Repository ι :=
  match symbol.enabled? with
  | none => repo.setPortfolioSafeMode
  | some enabled => repo.setPortfolioSafeMode.enterPositionSafeMode enabled

/-! ## Refreshing the open core orders -/

/-- The newly filled quantities by side and symbol. -/
abbrev RecentFills := Side → Symbol → ℕ

def RecentFills.add (recent : RecentFills) (row : OrderRow ι) (newlyFilled : ℕ) : RecentFills :=
  fun side symbol => recent side symbol +
    if side = row.side ∧ symbol = row.symbol then newlyFilled else 0

/-- The exception of `_validate_core_receipt`. -/
private def identityError : PyError := .other "ReconciliationReceiptValidationError"

variable [DecidableEq ι]

/-- `_validate_core_receipt`. -/
def validateCoreReceipt (receipt : OrderReceipt ι) (row : OrderRow ι) : Py Unit := do
  raiseIf (receipt.clientOrderId ≠ some row.clientOrderId) identityError
  raiseIf (receipt.brokerOrderId = none) identityError
  raiseIf (receipt.status.upper? = none) identityError
  raiseIf (receipt.quantity ≠ row.qty) identityError
  raiseIf (¬(0 ≤ receipt.filledQuantity ∧ receipt.filledQuantity ≤ row.qty)) identityError
  raiseIf (0 < receipt.filledQuantity ∧ ∀ average ∈ receipt.averageFillPrice, average ≤ 0)
    identityError
  let raw := receipt.raw.getD {}
  raiseIf (raw.clientOrderId.differs row.clientOrderId = true) identityError
  raiseIf (∃ symbol ∈ raw.symbol, symbol ≠ row.symbol) identityError
  raiseIf (raw.side.differs row.side = true) identityError
  let quantityDiffers ← rawQuantityDiffers raw.quantity row.qty
  raiseIf (quantityDiffers = true) identityError

namespace ReconciliationService

/-- The reads of the `try` in `_refresh_open_core_orders`. -/
def fetchCoreReceipt (reads : BrokerReads ι) (row : OrderRow ι) (brokerOrderId : BrokerOrderId) :
    Py (OrderReceipt ι) := do
  let order ← reads.getOrder brokerOrderId
  let receipt ← receiptFromOrder order row.clientOrderId
  validateCoreReceipt receipt row
  return receipt

/-- The body of that `try`: the receipt is stored, then its fill is booked. -/
def refreshCoreOrder (reads : BrokerReads ι) (repo : Repository ι) (row : OrderRow ι)
    (brokerOrderId : BrokerOrderId) : Repository ι × Py (OrderReceipt ι) :=
  match fetchCoreReceipt reads row brokerOrderId with
  | .error error => (repo, .error error)
  | .ok receipt =>
      match repo.updateOrder row.clientOrderId receipt.toUpdate with
      | .error error => (repo, .error error)
      | .ok stored =>
          if 0 < receipt.filledQuantity then
            match stored.applyCoreFill row.clientOrderId with
            | .error error => (stored, .error error)
            | .ok booked => (booked, .ok receipt)
          else (stored, .ok receipt)

/-- What the loop raises after a successful refresh. -/
def refreshedOrderError (row : OrderRow ι) (receipt : OrderReceipt ι) : Option PyError :=
  match receipt.status with
  | .exact status =>
      if status = .unknown then some (.runtime "코어 주문 상태 UNKNOWN으로 SAFE_MODE입니다")
      else if row.purpose = .coreRebalanceSell ∧ status.isTerminal = true ∧
          receipt.filledQuantity < receipt.quantity then
        some (.runtime (row.symbol.text ++ " 위험축소가 미완료여서 SAFE_MODE입니다 ("
          ++ toString receipt.filledQuantity ++ "/" ++ toString receipt.quantity ++ "주, "
          ++ status.text ++ ")"))
      else none
  | _ => none

/-- The broker id of a core order. -/
def coreBrokerOrderId? (row : OrderRow ι) : Option BrokerOrderId :=
  if row.purpose.isCore then row.brokerOrderId else none

/-- The loop of `_refresh_open_core_orders` over the open orders. -/
def refreshOpenCoreOrders (reads : BrokerReads ι) :
    List (OrderRow ι) → Repository ι → RecentFills → Repository ι × Py RecentFills
  | [], repo, recent => (repo, .ok recent)
  | row :: rest, repo, recent =>
      match coreBrokerOrderId? row with
      | none => refreshOpenCoreOrders reads rest repo recent
      | some brokerOrderId =>
          match refreshCoreOrder reads repo row brokerOrderId with
          | (repo, .error _) => (repo.enterAllocationSafeMode row.symbol,
              .error (.runtime "열린 코어 주문 상태 확인 실패로 SAFE_MODE입니다"))
          | (repo, .ok receipt) =>
              match refreshedOrderError row receipt with
              | some error => (repo.enterAllocationSafeMode row.symbol, .error error)
              | none => refreshOpenCoreOrders reads rest repo
                  (recent.add row (receipt.filledQuantity - row.filledQty).toNat)

/-! ## Comparing a symbol -/

omit [DecidableEq ι] in
/-- The loop of `_core_fill_transition_explains_quantity` for one side. -/
def remainingCore (side : Side) (localOrders : List (OrderRow ι)) : ℕ :=
  (localOrders.map fun order =>
    if order.purpose.isCore = true ∧ order.brokerOrderId.isSome = true ∧
        order.status ≠ .unknown ∧ order.side = side then order.remaining
    else 0).sum

omit [DecidableEq ι] in
/-- `_core_fill_transition_explains_quantity`. -/
def coreFillTransitionExplainsQuantity (expectedTotal : ℕ) (brokerQty : Decimal)
    (localOrders : List (OrderRow ι)) (recentBuy recentSell : ℕ) : Bool :=
  if (expectedTotal : Decimal) = brokerQty then false
  else
    let remainingBuy := remainingCore .buy localOrders
    let remainingSell := remainingCore .sell localOrders
    if remainingBuy = 0 ∧ remainingSell = 0 ∧ recentBuy = 0 ∧ recentSell = 0 then false
    else
      let lower : Decimal := expectedTotal - remainingSell - recentBuy
      let upper : Decimal := expectedTotal + remainingBuy + recentSell
      decide (lower ≤ brokerQty) && decide (brokerQty ≤ upper)

omit [DecidableEq ι] in
/-- `_missing_broker_id_issue` without the unknown orders. -/
def missingBrokerIdIssue (localOrders : List (OrderRow ι)) : List ReconciliationIssue :=
  let stranded := (localOrders.filter fun order =>
    order.brokerOrderId.isNone && decide (order.status ≠ .unknown)).map OrderRow.status
  if stranded.isEmpty then [] else [.openOrderWithoutBrokerId stranded.dedup]

omit [DecidableEq ι] in
/-- A local order the OPEN list should show and does not.  A core order that has just
been filled is missing without being a mismatch. -/
def missingOpenOrder (brokerIds : List BrokerOrderId) (order : OrderRow ι) : Bool :=
  match order.brokerOrderId with
  | none => false
  | some brokerId => !brokerIds.contains brokerId &&
      !(order.purpose.isCore && decide (order.status ≠ .unknown))

omit [DecidableEq ι] in
/-- The comparison of the OPEN orders. -/
def openOrderIssues (localOrders : List (OrderRow ι)) (listed : Py (List BrokerOrderId)) :
    List ReconciliationIssue :=
  match listed with
  | .error _ => [.brokerOpenOrderLookupFailed]
  | .ok brokerIds =>
      let unexpected := brokerIds.any fun brokerId =>
        localOrders.all fun order => decide (order.brokerOrderId ≠ some brokerId)
      let missing := localOrders.any (missingOpenOrder brokerIds)
      if unexpected || missing then [.brokerDbOpenOrderMismatch] else []

/-- What the holdings say about a symbol: the last row counts. -/
structure HeldQuantity where
  quantity : DecimalValue
  invalid : Bool
  duplicate : Bool

def heldQuantity (holdings : List HoldingRow) (symbol : AllocationSymbol) : HeldQuantity :=
  let rows := holdings.filter fun row => decide (row.symbol = .allocation symbol)
  let reported : Option DecimalValue := match rows.getLast? with
    | none => some (.finite 0)
    | some row => row.quantity
  { quantity := reported.getD (.finite 0)
    invalid := match reported with
      | some (.finite quantity) => decide (quantity < 0)
      | _ => true
    duplicate := decide (1 < rows.length) }

omit [DecidableEq ι] in
/-- The position row of a symbol, or the one a symbol without a row counts as. -/
def boosterPosition (repo : Repository ι) (symbol : AllocationSymbol) : PositionSnapshot :=
  match symbol.enabled? with
  | none => {}
  | some enabled => repo.positions enabled

omit [DecidableEq ι] in
/-- `expected_total`. -/
def expectedTotal (repo : Repository ι) (symbol : AllocationSymbol) : ℕ :=
  (repo.core symbol).qty + (boosterPosition repo symbol).quantity

omit [DecidableEq ι] in
/-- `open_orders(symbol)`. -/
def openOrdersOf (repo : Repository ι) (symbol : AllocationSymbol) : List (OrderRow ι) :=
  repo.openOrders.filter fun order => decide (order.symbol = .allocation symbol)

omit [DecidableEq ι] in
/-- `transition_explains_qty`: only a valid whole number of shares can be excused. -/
def transitionExplainsQty (repo : Repository ι) (symbol : AllocationSymbol) (held : HeldQuantity)
    (recent : RecentFills) : Bool :=
  match held.quantity with
  | .finite quantity => !held.invalid && quantity.isInt &&
      coreFillTransitionExplainsQuantity (expectedTotal repo symbol) quantity
        (openOrdersOf repo symbol) (recent .buy (.allocation symbol))
        (recent .sell (.allocation symbol))
  | _ => false

/-- The issue about the form of the quantity. -/
def quantityFormIssues (held : HeldQuantity) : List ReconciliationIssue :=
  if held.invalid then [.brokerInvalidHoldingQuantity]
  else match held.quantity with
    | .finite quantity => if quantity.isInt then [] else [.brokerFractionalHolding quantity]
    | _ => []

omit [DecidableEq ι] in
/-- The issues about quantities.  A comparison with `NaN` may raise. -/
def quantityIssues (repo : Repository ι) (symbol : AllocationSymbol) (held : HeldQuantity)
    (recent : RecentFills) : Py (List ReconciliationIssue) := do
  let expected := expectedTotal repo symbol
  let explained := transitionExplainsQty repo symbol held recent
  let booster := boosterPosition repo symbol
  let differs ← held.quantity.differs expected
  let unmanaged ← (if expected = 0 then held.quantity.isPositive else .ok false : Py Bool)
  let gone ← (if 0 < expected then held.quantity.isZero else .ok false : Py Bool)
  return (if held.duplicate then [.brokerDuplicateHoldingRows] else []) ++
    quantityFormIssues held ++
    (if 0 < booster.quantity ∨ (booster.state ≠ .empty ∧ booster.state ≠ .safeMode) then
      [.directBoosterStatePresent booster.state booster.quantity] else []) ++
    (if differs = true ∧ explained = false then
      [.brokerDbQtyMismatch held.quantity expected] else []) ++
    (if unmanaged = true ∧ explained = false then [.unmanagedPersonalAllocationSymbol] else []) ++
    (if gone = true ∧ explained = false then [.dbPositionBrokerEmpty] else [])

omit [DecidableEq ι] in
/-- The issues of one symbol.  `tpPlan` says whether `active_tp_plan` finds a row. -/
def symbolIssues (reads : BrokerReads ι) (tpPlan : EnabledSymbol → Bool)
    (holdings : List HoldingRow) (recent : RecentFills) (repo : Repository ι)
    (symbol : AllocationSymbol) : Py (List ReconciliationIssue) := do
  let localOrders := openOrdersOf repo symbol
  let unknown := localOrders.filter fun order => decide (order.status = .unknown)
  let quantity ← quantityIssues repo symbol (heldQuantity holdings symbol) recent
  return quantity ++
    (if symbol.enabled?.any tpPlan then [.directTpPlanPresent] else []) ++
    (if unknown.isEmpty then []
      else .unknownOrderStatus ::
        (if unknown.any fun order => order.brokerOrderId.isNone then [.unknownOrderWithoutBrokerId]
          else [])) ++
    missingBrokerIdIssue localOrders ++
    openOrderIssues localOrders (reads.listOpenOrders symbol)

/-! ## The run -/

/-- What `run` returns: the reported symbols with their issues. -/
abbrev Report := List (AllocationSymbol × List ReconciliationIssue)

omit [DecidableEq ι] in
/-- The loop of `run` over the symbols. -/
def compareSymbols (reads : BrokerReads ι) (tpPlan : EnabledSymbol → Bool)
    (holdings : List HoldingRow) (recent : RecentFills) :
    List AllocationSymbol → Repository ι → Repository ι × Py Report
  | [], repo => (repo, .ok [])
  | symbol :: rest, repo =>
      match symbolIssues reads tpPlan holdings recent repo symbol with
      | .error error => (repo, .error error)
      | .ok [] => compareSymbols reads tpPlan holdings recent rest repo
      | .ok issues =>
          let repo := match symbol.enabled? with
            | none => repo
            | some enabled => repo.enterPositionSafeMode enabled
          let (repo, report) := compareSymbols reads tpPlan holdings recent rest repo
          (repo, report.map fun report => (symbol, issues) :: report)

/-- `ALLOCATION_SYMBOLS`. -/
def allocationSymbols : List AllocationSymbol := [.qqq, .tqqq, .soxl]

/-- `ReconciliationService.run`. -/
def run (reads : BrokerReads ι) (tpPlan : EnabledSymbol → Bool) (repo : Repository ι) :
    Repository ι × Py Report :=
  match refreshOpenCoreOrders reads repo.openOrders repo fun _ _ => 0 with
  | (repo, .error error) => (repo, .error error)
  | (repo, .ok recent) =>
      match reads.getHoldings with
      | .error _ => (repo.setPortfolioSafeMode,
          .error (.runtime "브로커 보유수량 조회 실패로 SAFE_MODE입니다"))
      | .ok holdings =>
          match compareSymbols reads tpPlan holdings recent allocationSymbols repo with
          | (repo, .error error) => (repo, .error error)
          | (repo, .ok report) =>
              (if report.isEmpty then repo else repo.setPortfolioSafeMode, .ok report)

end ReconciliationService

/-! ## The live service -/

/-- `retryable_toss_read_error`. -/
def retryableTossReadError : PyError → Bool
  | .tossApi error => error.retryable ||
      (decide (error.statusCode = some 401) &&
        decide (error.code ∈ [some "invalid-token", some "expired-token", some "token-revoked"])) ||
      (error.statusCode.any fun status => decide (200 ≤ status) && decide (status < 300)) &&
        decide (1 < (error.message.splitOn "응답").length)
  | _ => false

namespace ResilientLiveReconciliationService

omit [DecidableEq ι] in
/-- The reads that are made ahead of the canonical run: the first that fails. -/
def prefetch (reads : BrokerReads ι) (repo : Repository ι) : Py Unit := do
  let _ ← reads.getHoldings
  let _ ← (repo.openOrders.filterMap ReconciliationService.coreBrokerOrderId?).mapM reads.getOrder
  let _ ← ReconciliationService.allocationSymbols.mapM reads.listOpenOrders
  return ()

/-- `ResilientLiveReconciliationService.run`: the canonical run on the answers of the
prefetch, or on fresh ones after a failure that is not transient. -/
def run (first second : BrokerReads ι) (tpPlan : EnabledSymbol → Bool) (repo : Repository ι) :
    Repository ι × Py ReconciliationService.Report :=
  match prefetch first repo with
  | .ok _ => ReconciliationService.run first tpPlan repo
  | .error error =>
      if retryableTossReadError error then (repo, .error (.other "TransientReconciliationError"))
      else ReconciliationService.run second tpPlan repo

end ResilientLiveReconciliationService

end JdHoldings

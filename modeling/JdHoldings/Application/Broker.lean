import JdHoldings.Application.OrderManager
import JdHoldings.Library.Dict

/-!
# The dry-run broker

`DryRunBroker` keeps orders, holdings and cash in memory.  An order whose limit is reached is
filled in full when it is placed; the others wait, and are filled or canceled later.
`MarketDataDryRunBroker` differs in where its prices come from, and fills a waiting order
when it is asked for it.

A fill is first written into the order and then applied to holdings and cash, by the part of
it that has not been applied.  An order that sells more than is held raises in between: it
stays FILLED, and nothing of it is applied.
-/

namespace JdHoldings

variable {ι : Type}

/-- An order of `orders`.  The order id is the number in `DRY-%08d`. -/
structure DryRunOrder (ι : Type) where
  orderId : BrokerOrderId
  clientOrderId : ι
  symbol : Symbol
  side : Side
  orderType : OrderType
  price : Option Decimal
  quantity : ℕ
  status : OrderStatus
  filledQuantity : ℕ := 0
  averageFilledPrice : Option Decimal := none
  filledAmount : Option Decimal := none
  appliedFilledQuantity : ℕ := 0
  appliedFilledAmount : Decimal := 0

/-- An item of `holdings`. -/
structure DryRunHolding where
  symbol : Symbol
  quantity : ℕ := 0
  averagePurchasePrice : Decimal := 0

/-- `DryRunBroker`. -/
structure DryRunBroker (ι : Type) where
  prices : Symbol → Option Decimal
  buyingPower : Decimal
  orders : Table BrokerOrderId (DryRunOrder ι) DryRunOrder.orderId := .empty
  holdings : Table Symbol DryRunHolding DryRunHolding.symbol := .empty
  sequence : ℕ := 0

/-- Where `get_price` looks: `DryRunBroker` in its own prices, `MarketDataDryRunBroker` at its data
source. -/
inductive PriceSource where
  | cached
  | dataSource (answer : Py Decimal)

namespace DryRunOrder

variable (order : DryRunOrder ι)

/-- `status in {"PENDING", "PARTIAL_FILLED"}`. -/
def isWaiting : Bool := decide (order.status = .pending) || decide (order.status = .partialFilled)

/-- `cumulative_notional` of `_apply_fill`. -/
def cumulativeNotional : Decimal :=
  match order.filledAmount with
  | some amount => amount
  | none =>
      (if 0 < order.filledQuantity then order.averageFilledPrice.getD 0 else 0) * order.filledQuantity

/-- The order with its fill applied. -/
def applied : DryRunOrder ι :=
  { order with
    appliedFilledQuantity := order.filledQuantity
    appliedFilledAmount := order.cumulativeNotional }

/-- The order filled in full, the rest of it at a price. -/
def filledAt (price : Decimal) : DryRunOrder ι :=
  let priorAverage := if 0 < order.filledQuantity then order.averageFilledPrice.getD 0 else 0
  let cumulativeNotional :=
    priorAverage * order.filledQuantity + price * ((order.quantity - order.filledQuantity : ℕ) : ℚ)
  { order with
    status := .filled
    filledQuantity := order.quantity
    averageFilledPrice := some (cumulativeNotional / order.quantity)
    filledAmount := some cumulativeNotional }

/-- The order filled in full at a price, with none of it applied. -/
def settled (price : Decimal) : DryRunOrder ι :=
  { order with
    status := .filled
    filledQuantity := order.quantity
    averageFilledPrice := some price
    filledAmount := some (price * order.quantity) }

/-- `_receipt`. -/
def receipt (clientOrderId : ι) : OrderReceipt ι where
  clientOrderId := some clientOrderId
  brokerOrderId := some order.orderId
  status := .exact order.status
  quantity := order.quantity
  filledQuantity := order.filledQuantity
  averageFillPrice := order.averageFilledPrice

end DryRunOrder

/-- Whether the market has reached a limit. -/
def Side.reaches (side : Side) (market limit : Decimal) : Bool :=
  match side with
  | .buy => decide (market ≤ limit)
  | .sell => decide (limit ≤ market)

namespace DryRunBroker

/-- `set_price`. -/
def setPrice (broker : DryRunBroker ι) (symbol : Symbol) (price : Decimal) : DryRunBroker ι :=
  { broker with prices := Function.update broker.prices symbol (some price) }

/-- `get_price`. -/
def getPrice (broker : DryRunBroker ι) (source : PriceSource) (symbol : Symbol) :
    DryRunBroker ι × Py Decimal :=
  match source with
  | .cached =>
      match broker.prices symbol with
      | some price => (broker, .ok price)
      | none => (broker, .error .key)
  | .dataSource (.ok price) => (broker.setPrice symbol price, .ok price)
  | .dataSource (.error error) => (broker, .error error)

/-- `self.holdings.get(symbol)`, with its default. -/
def holding (broker : DryRunBroker ι) (symbol : Symbol) : DryRunHolding :=
  (broker.holdings.get? symbol).getD { symbol := symbol }

/-- The assignments that end `_apply_fill`. -/
def bookFill (broker : DryRunBroker ι) (order : DryRunOrder ι) (holding : DryRunHolding)
    (cash : Decimal) : DryRunBroker ι :=
  { broker with
    orders := broker.orders.assign order.applied
    holdings := broker.holdings.assign holding
    buyingPower := broker.buyingPower + cash }

section BookFill

variable {broker : DryRunBroker ι} {order : DryRunOrder ι} {item : DryRunHolding} {cash : Decimal}

@[simp] theorem bookFill_orders :
    (broker.bookFill order item cash).orders = broker.orders.assign order.applied := rfl

@[simp] theorem bookFill_buyingPower :
    (broker.bookFill order item cash).buyingPower = broker.buyingPower + cash := rfl

@[simp] theorem holding_bookFill_self :
    (broker.bookFill order item cash).holding item.symbol = item := by
  rw [holding, bookFill, Table.get?_assign_self]
  rfl

theorem holding_bookFill_of_ne {symbol : Symbol} (hne : symbol ≠ item.symbol) :
    (broker.bookFill order item cash).holding symbol = broker.holding symbol := by
  rw [holding, bookFill, Table.get?_assign_of_ne hne]
  rfl

end BookFill

/-- `_apply_fill`. -/
def applyFill (broker : DryRunBroker ι) (order : DryRunOrder ι) : DryRunBroker ι × Py Unit :=
  let deltaQuantity := order.filledQuantity - order.appliedFilledQuantity
  let deltaNotional := order.cumulativeNotional - order.appliedFilledAmount
  let existing := broker.holding order.symbol
  if order.filledQuantity < order.appliedFilledQuantity ∨ deltaNotional < 0 then
    (broker, .error (.runtime "dry-run 누적 체결값이 이전 적용값보다 작습니다"))
  else if deltaQuantity = 0 then (broker, .ok ())
  else
    match order.side with
    | .buy =>
        let newQuantity := existing.quantity + deltaQuantity
        let oldCost := existing.averagePurchasePrice * existing.quantity
        (broker.bookFill order ⟨order.symbol, newQuantity, (oldCost + deltaNotional) / newQuantity⟩
          (-deltaNotional), .ok ())
    | .sell =>
        if existing.quantity < deltaQuantity then
          (broker, .error (.runtime "dry-run 보유수량보다 많은 누적 매도 체결입니다"))
        else
          let newQuantity := existing.quantity - deltaQuantity
          let average := if newQuantity = 0 then 0 else existing.averagePurchasePrice
          (broker.bookFill order ⟨order.symbol, newQuantity, average⟩ deltaNotional, .ok ())

/-- `_fill_remaining_order`. -/
def fillRemainingOrder (broker : DryRunBroker ι) (order : DryRunOrder ι) (price : Decimal) :
    DryRunBroker ι × Py Unit :=
  if order.isWaiting = false then (broker, .ok ())
  else if order.quantity ≤ order.filledQuantity then
    ({ broker with orders := broker.orders.assign { order with status := .filled } }, .ok ())
  else
    let filled := order.filledAt price
    DryRunBroker.applyFill { broker with orders := broker.orders.assign filled } filled

/-- The fill of a waiting order whose limit is reached. -/
def fillIfReached (broker : DryRunBroker ι) (order : DryRunOrder ι) (current : Decimal) :
    DryRunBroker ι × Py Unit :=
  match order.price with
  | none => (broker, .error (.other "InvalidOperation"))
  | some limit =>
      if order.side.reaches current limit then broker.fillRemainingOrder order current
      else (broker, .ok ())

/-- `fillable` of `place_order`. -/
def isFillable (request : OrderRequest ι) (marketPrice : Decimal) : Bool :=
  match request.orderType with
  | .market => true
  | .limit =>
      match request.price with
      | some price => request.side.reaches marketPrice price
      | none => false

/-- The order `place_order` writes, before a fill. -/
def newOrder (orderId : BrokerOrderId) (request : OrderRequest ι) : DryRunOrder ι where
  orderId := orderId
  clientOrderId := request.clientOrderId
  symbol := request.symbol
  side := request.side
  orderType := request.orderType
  price := request.price
  quantity := request.quantity
  status := .pending

section

variable [DecidableEq ι]

/-- `place_order`. -/
def placeOrder (broker : DryRunBroker ι) (source : PriceSource) (request : OrderRequest ι) :
    DryRunBroker ι × Py (OrderReceipt ι) :=
  match broker.orders.rows.find? fun order => decide (order.clientOrderId = request.clientOrderId) with
  | some existing => (broker, .ok (existing.receipt request.clientOrderId))
  | none =>
      let numbered := { broker with sequence := broker.sequence + 1 }
      match numbered.getPrice source request.symbol with
      | (quoted, .error error) => (quoted, .error error)
      | (quoted, .ok marketPrice) =>
          let order := newOrder quoted.sequence request
          if isFillable request marketPrice then
            let filled := order.settled marketPrice
            let (applied, result) :=
              DryRunBroker.applyFill { quoted with orders := quoted.orders.assign filled } filled
            (applied, result.map fun _ => filled.receipt request.clientOrderId)
          else
            ({ quoted with orders := quoted.orders.assign order },
              .ok (order.receipt request.clientOrderId))

end

/-- `cancel_order`. -/
def cancelOrder (broker : DryRunBroker ι) (orderId : BrokerOrderId) :
    DryRunBroker ι × Py BrokerOrderId :=
  match broker.orders.get? orderId with
  | none => (broker, .error .key)
  | some order =>
      if order.isWaiting then
        ({ broker with orders := broker.orders.assign { order with status := .canceled } }, .ok orderId)
      else (broker, .ok orderId)

/-- The loop of `fill_open_orders` over the ids of `orders`. -/
def fillOrders (symbol : Symbol) (current : Decimal) :
    List BrokerOrderId → DryRunBroker ι → DryRunBroker ι × Py Unit
  | [], broker => (broker, .ok ())
  | orderId :: orderIds, broker =>
      match broker.orders.get? orderId with
      | none => fillOrders symbol current orderIds broker
      | some order =>
          if order.symbol ≠ symbol ∨ order.isWaiting = false then
            fillOrders symbol current orderIds broker
          else
            match broker.fillIfReached order current with
            | (filled, .ok _) => fillOrders symbol current orderIds filled
            | (filled, .error error) => (filled, .error error)

/-- `fill_open_orders`. -/
def fillOpenOrders (broker : DryRunBroker ι) (source : PriceSource) (symbol : Symbol) :
    DryRunBroker ι × Py Unit :=
  match broker.getPrice source symbol with
  | (quoted, .error error) => (quoted, .error error)
  | (quoted, .ok current) =>
      fillOrders symbol current (quoted.orders.rows.map DryRunOrder.orderId) quoted

/-- `get_order`: the broker it leaves, and the order. -/
def getOrder (broker : DryRunBroker ι) (source : PriceSource) (orderId : BrokerOrderId) :
    DryRunBroker ι × Py (DryRunOrder ι) :=
  match broker.orders.get? orderId, source with
  | none, _ => (broker, .error .key)
  | some order, .cached => (broker, .ok order)
  | some order, .dataSource answer =>
      if order.isWaiting = true ∧ order.orderType = .limit then
        match broker.getPrice (.dataSource answer) order.symbol with
        | (quoted, .error error) => (quoted, .error error)
        | (quoted, .ok current) =>
            match quoted.fillIfReached order current with
            | (filled, .error error) => (filled, .error error)
            | (filled, .ok _) => (filled, .ok ((filled.orders.get? orderId).getD order))
      else (broker, .ok order)

/-- The open orders of a symbol that `list_orders` returns. -/
def listOpenOrders (broker : DryRunBroker ι) (symbol : Symbol) (limit : ℕ) : List (DryRunOrder ι) :=
  (broker.orders.rows.filter fun order =>
    decide (order.status ∈ [.pending, .partialFilled, .pendingCancel, .pendingReplace]) &&
      decide (order.symbol = symbol)).take limit

/-- The items `get_holdings` lists.  `DryRunBroker` looks up the price of each of them. -/
def getHoldings (broker : DryRunBroker ι) (marketData : Bool) : Py (List DryRunHolding) :=
  let held := broker.holdings.rows.filter fun item => decide (0 < item.quantity)
  if marketData = false ∧ ∃ item ∈ held, broker.prices item.symbol = none then .error .key
  else .ok held

end DryRunBroker

end JdHoldings

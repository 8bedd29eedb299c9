import JdHoldings.Application.Reconciliation

/-!
# The order monitor

`run_once` of the live order monitor, `FinalOpsOrderMonitor`.  It looks at every open
order that has a broker id, refreshes it (`refreshOrder`) and hands the receipt of a
core order to `_handle_core_order`:

* `FinalOpsOrderMonitor` first cancels a BUY that has waited too long and goes on with
  the receipt it reads afterwards.
* `OrderMonitor` books what is new against the quantity read before the refresh, cancels
  a BUY whose signal has expired, and enters SAFE_MODE when a SELL ends incomplete.

As in the reconciliation a run that raises leaves behind what it has written, so the
definitions return the repository next to the result.  What the monitor does with the
orders of the direct positions is a parameter that touches no core order
(`DirectSleeve`).  Events, signals and the columns of the cycle table are not part of
the model.
-/

namespace JdHoldings

variable {ι : Type} [DecidableEq ι]

/-- Neither the core orders nor their bookings differ. -/
structure Repository.SameCore (repo repo' : Repository ι) : Prop where
  orders : ∀ clientOrderId row, row.purpose.isCore = true →
    (repo'.orders.get? clientOrderId = some row ↔ repo.orders.get? clientOrderId = some row)
  core : repo'.core = repo.core
  progress : repo'.coreFillProgress = repo.coreFillProgress

/-- What the monitor does with orders of other purposes, with broker orders of theirs
that are missing, and at the end of a run. -/
structure DirectSleeve (ι : Type) [DecidableEq ι] where
  handle : OrderRow ι → OrderReceipt ι → Repository ι → Repository ι × Py Unit
  missing : OrderRow ι → Repository ι → Repository ι × Py Unit
  finish : Repository ι → Repository ι × Py Unit
  handle_core : ∀ row receipt (repo : Repository ι), repo.SameCore (handle row receipt repo).1
  missing_core : ∀ row (repo : Repository ι), repo.SameCore (missing row repo).1
  finish_core : ∀ repo : Repository ι, repo.SameCore (finish repo).1

/-- The answers and the times of one run.  An order is read once, and once more after it
was cancelled. -/
structure MonitorEnvironment (ι : Type) [DecidableEq ι] where
  getOrder : ι → (afterCancel : Bool) → Py (BrokerOrder ι)
  cancelOrder : ι → Py Unit
  current : Timestamp
  buyFillTimeout : ℕ
  /-- `valid_until` of the signal behind an order. -/
  validUntil : ι → Option Timestamp
  /-- The order has a `cycle_id`. -/
  hasCycle : ι → Bool
  direct : DirectSleeve ι

/-- `status in TERMINAL_STATUSES`, on the text as it is. -/
def OrderReceipt.isTerminal (receipt : OrderReceipt ι) : Bool :=
  match receipt.status with
  | .exact status => status.isTerminal
  | _ => false

/-- `max(0, quantity - filled_quantity)`. -/
def OrderReceipt.remaining (receipt : OrderReceipt ι) : ℤ :=
  max 0 (receipt.quantity - receipt.filledQuantity)

/-! ## `OrderManager.refresh_order` -/

/-- The receipt of an order, when it belongs to the stored row. -/
def OrderRow.receiptOf (row : OrderRow ι) (answer : Py (BrokerOrder ι)) : Py (OrderReceipt ι) := do
  let order ← answer
  receiptFromOrder order row.clientOrderId

/-- What `refresh_order` stores of a receipt. -/
def OrderReceipt.toRefresh (receipt : OrderReceipt ι) : OrderUpdate where
  status := receipt.status
  filledQty := some receipt.filledQuantity.toNat
  averageFillPrice := receipt.averageFillPrice

/-- `refresh_order`. -/
def OrderManager.refreshOrder (answer : Py (BrokerOrder ι)) (repo : Repository ι)
    (clientOrderId : ι) : Repository ι × Py (OrderReceipt ι) :=
  match repo.orders.get? clientOrderId with
  | none => (repo, .error .key)
  | some row =>
      if row.brokerOrderId.isNone then (repo, .error .key)
      else
        match row.receiptOf answer with
        | .error error => (repo, .error error)
        | .ok receipt =>
            match validateReceipt receipt clientOrderId row.symbol row.side row.qty with
            | .error error =>
                match repo.updateOrder clientOrderId { status := .exact .unknown } with
                | .error raised => (repo, .error raised)
                | .ok marked => (marked, .error error)
            | .ok _ =>
                match repo.updateOrder clientOrderId receipt.toRefresh with
                | .error error => (repo, .error error)
                | .ok stored => (stored, .ok receipt)

/-! ## `_handle_core_order` -/

/-- `_enter_symbol_safe_mode`. -/
def Repository.enterSymbolSafeMode (repo : Repository ι) (symbol : Symbol) : Repository ι :=
  match symbol.enabled? with
  | none => repo.setPortfolioSafeMode
  | some enabled => repo.enterPositionSafeMode enabled

/-- The comparison that decides about a booking. -/
def Repository.bookNewFill (repo : Repository ι) (clientOrderId : ι) (before after : ℤ) :
    Py (Repository ι) :=
  if before < after then repo.applyCoreFill clientOrderId else .ok repo

namespace MonitorEnvironment

variable (env : MonitorEnvironment ι)

/-- A core BUY that has waited for `buy_fill_timeout_seconds`. -/
def stale (row : OrderRow ι) (receipt : OrderReceipt ι) : Bool :=
  decide (row.purpose = .coreRebalanceBuy) && !receipt.isTerminal &&
    decide (env.buyFillTimeout ≤ env.current - row.createdAt)

/-- A core BUY whose signal has expired. -/
def expired (row : OrderRow ι) (receipt : OrderReceipt ι) : Bool :=
  decide (row.purpose = .coreRebalanceBuy) && !receipt.isTerminal &&
    (env.validUntil row.clientOrderId).any fun validUntil => decide (validUntil < env.current)

/-- `cancel_order`, and `refresh_order` behind it. -/
def refreshAfterCancel (repo : Repository ι) (row : OrderRow ι) :
    Repository ι × Py (OrderReceipt ι) :=
  match env.cancelOrder row.clientOrderId with
  | .error error => (repo, .error error)
  | .ok _ => OrderManager.refreshOrder (env.getOrder row.clientOrderId true) repo row.clientOrderId

end MonitorEnvironment

/-- The end of `_handle_core_order`.  A BUY that ends incomplete touches its signal only. -/
def OrderMonitor.closeCoreOrder (row : OrderRow ι) (receipt : OrderReceipt ι)
    (repo : Repository ι) : Repository ι :=
  if receipt.isTerminal = true ∧ 0 < receipt.remaining ∧ row.purpose ≠ .coreRebalanceBuy then
    repo.enterSymbolSafeMode row.symbol
  else repo

/-- `_handle_core_order` of an expired BUY. -/
def OrderMonitor.cancelExpired (env : MonitorEnvironment ι) (row : OrderRow ι)
    (receipt : OrderReceipt ι) (repo : Repository ι) : Repository ι × Py Unit :=
  match env.refreshAfterCancel repo row with
  | (repo, .error _) => (repo.enterSymbolSafeMode row.symbol, .ok ())
  | (repo, .ok again) =>
      match repo.bookNewFill row.clientOrderId receipt.filledQuantity again.filledQuantity with
      | .error error => (repo, .error error)
      | .ok repo =>
          if again.isTerminal = false then (repo.enterSymbolSafeMode row.symbol, .ok ())
          else (OrderMonitor.closeCoreOrder row again repo, .ok ())

/-- `OrderMonitor._handle_core_order`. -/
def OrderMonitor.handleCoreOrder (env : MonitorEnvironment ι) (row : OrderRow ι)
    (receipt : OrderReceipt ι) (repo : Repository ι) : Repository ι × Py Unit :=
  match repo.bookNewFill row.clientOrderId row.filledQty receipt.filledQuantity with
  | .error error => (repo, .error error)
  | .ok repo =>
      if receipt.status = .exact .unknown then (repo.enterSymbolSafeMode row.symbol, .ok ())
      else if env.expired row receipt = true then OrderMonitor.cancelExpired env row receipt repo
      else (OrderMonitor.closeCoreOrder row receipt repo, .ok ())

namespace FinalOpsOrderMonitor

/-- `_sync_auto_cycle`. -/
def syncAutoCycle (env : MonitorEnvironment ι) (row : OrderRow ι) (receipt : OrderReceipt ι)
    (repo : Repository ι) : Repository ι :=
  if env.hasCycle row.clientOrderId = true ∧ 0 < receipt.filledQuantity ∧
      0 < repo.system.rampStage.getD 0 then
    repo.setSystem { repo.system with rampStageAutoFillSeen := some true }
  else repo

/-- `super()._handle_core_order` with the `finally` around it. -/
def superHandleCoreOrder (env : MonitorEnvironment ι) (row : OrderRow ι)
    (receipt : OrderReceipt ι) (repo : Repository ι) : Repository ι × Py Unit :=
  let (repo, result) := OrderMonitor.handleCoreOrder env row receipt repo
  (syncAutoCycle env row receipt repo, result)

/-- `FinalOpsOrderMonitor._handle_core_order`. -/
def handleCoreOrder (env : MonitorEnvironment ι) (row : OrderRow ι) (receipt : OrderReceipt ι)
    (repo : Repository ι) : Repository ι × Py Unit :=
  if env.stale row receipt = true then
    match env.refreshAfterCancel repo row with
    | (repo, .error _) => (repo.enterSymbolSafeMode row.symbol, .ok ())
    | (repo, .ok again) =>
        if again.isTerminal = false then (repo.enterSymbolSafeMode row.symbol, .ok ())
        else superHandleCoreOrder env row again repo
  else superHandleCoreOrder env row receipt repo

/-! ## `run_once` -/

/-- The body of the loop over the open orders. -/
def monitorOrder (env : MonitorEnvironment ι) (row : OrderRow ι) (repo : Repository ι) :
    Repository ι × Py Unit :=
  if row.brokerOrderId.isNone then (repo, .ok ())
  else
    match OrderManager.refreshOrder (env.getOrder row.clientOrderId false) repo row.clientOrderId with
    | (repo, .error error) =>
        if error ≠ .key then (repo, .error error)
        else if row.purpose.isCore then (repo.enterSymbolSafeMode row.symbol, .ok ())
        else env.direct.missing row repo
    | (repo, .ok receipt) =>
        if row.purpose.isCore then handleCoreOrder env row receipt repo
        else env.direct.handle row receipt repo

/-- The loop. -/
def monitorOrders (env : MonitorEnvironment ι) :
    List (OrderRow ι) → Repository ι → Repository ι × Py Unit
  | [], repo => (repo, .ok ())
  | row :: rest, repo =>
      match monitorOrder env row repo with
      | (repo, .error error) => (repo, .error error)
      | (repo, .ok _) => monitorOrders env rest repo

/-- `run_once`. -/
def runOnce (env : MonitorEnvironment ι) (repo : Repository ι) : Repository ι × Py Unit :=
  match monitorOrders env repo.openOrders repo with
  | (repo, .error error) => (repo, .error error)
  | (repo, .ok _) => env.direct.finish repo

end FinalOpsOrderMonitor

end JdHoldings

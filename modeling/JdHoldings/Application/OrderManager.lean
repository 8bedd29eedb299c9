import JdHoldings.Infrastructure.TossClient

/-!
# The order manager

`OrderManager.submit`, the only path by which an order reaches the broker.

* A row that exists already is read back or refreshed, and never placed again
  (`submitExisting`).
* Otherwise the row is inserted first.  A BUY passes the operator halt, SAFE_MODE,
  the live contract and the capital ceilings on the way (`reserve`).
* The order is placed.  For a BUY this happens inside `BUY_EXECUTION_LOCK`, after
  the checks have been made once more (`placeBuy`).
* The receipt, or the exception that came in its place, decides the status that is
  stored (`place`).

The parameter `self` names the thread for the ghost log and nothing else.
-/

namespace JdHoldings

variable {τ ι : Type}

/-- `RuntimeSettings` of a live process. -/
structure RuntimeSettings where
  liveTradingEnabled : Bool

/-- `require_live_trading`. -/
def RuntimeSettings.requireLiveTrading (settings : RuntimeSettings) : Py Unit :=
  raiseIf (settings.liveTradingEnabled = false) (.other "PermissionError")

/-! ## Normalizing a SELL -/

/-- The tick a SELL limit is floored to. -/
def sellTick (price : Decimal) : Decimal := if price < 1 then 1 / 10000 else cent

/-- `_normalize_sell_limit_request`. -/
def normalizeSellLimitRequest (request : OrderRequest ι) : Py (OrderRequest ι) :=
  match request.side, request.orderType, request.price with
  | .sell, .limit, some price => do
      raiseIf (price ≤ 0) (.value "SELL 지정가는 양수 유한값이어야 합니다")
      let normalized := Quantize.down (sellTick price) price
      raiseIf (normalized ≤ 0) (.value "SELL 지정가를 유효한 호가단위로 만들 수 없습니다")
      return { request with price := some normalized }
  | _, _, _ => return request

/-- Only the price is normalized. -/
theorem normalizeSellLimitRequest_ok {request normalized : OrderRequest ι}
    (hok : normalizeSellLimitRequest request = .ok normalized) :
    normalized.clientOrderId = request.clientOrderId ∧
      normalized.quantity = request.quantity := by
  unfold normalizeSellLimitRequest at hok
  split at hok
  · simp only [Except.bind_eq_ok, raiseIf_eq_ok] at hok
    obtain ⟨-, -, -, -, hnormalized⟩ := hok
    rw [← Except.ok.inj hnormalized]
    exact ⟨rfl, rfl⟩
  · rw [← Except.ok.inj hok]
    exact ⟨rfl, rfl⟩

/-- A BUY with a limit price. -/
def OrderRequest.asBuy? (request : OrderRequest ι) : Option (BuyRequest ι) :=
  if hside : request.side = .buy then
    match hprice : request.price with
    | some limit => some { request with limit := limit, side_buy := hside, price_eq := hprice }
    | none => none
  else none

/-! ## Receipts -/

/-- A field that is there and differs from what was expected. -/
def JsonField.differs {α : Type} [DecidableEq α] (field : JsonField α) (expected : α) : Bool :=
  match field with
  | .missing | .null => false
  | .other => true
  | .value found => decide (found ≠ expected)

/-- `raw_quantity is not None and Decimal(str(raw_quantity)) != expected_quantity`. -/
def rawQuantityDiffers (field : JsonField Decimal) (expected : ℕ) : Py Bool :=
  match field with
  | .other => .error (.other "InvalidOperation")
  | field => .ok (field.differs expected)

variable [DecidableEq ι]

/-- `_validate_receipt`. -/
def validateReceipt (receipt : OrderReceipt ι) (expectedClientOrderId : ι)
    (expectedSymbol : Symbol) (expectedSide : Side) (expectedQuantity : ℕ) : Py Unit := do
  raiseIf (receipt.clientOrderId ≠ some expectedClientOrderId)
    (.brokerReceiptValidation "브로커 응답 clientOrderId가 예약 주문과 다릅니다")
  raiseIf (receipt.brokerOrderId = none)
    (.brokerReceiptValidation "브로커 응답에 orderId가 없습니다")
  raiseIf (receipt.status.upper? = none)
    (.brokerReceiptValidation s!"브로커 응답 주문상태가 잘못됐습니다: {receipt.status.shown}")
  raiseIf (receipt.quantity ≠ expectedQuantity)
    (.brokerReceiptValidation "브로커 응답 주문수량이 예약 수량과 다릅니다")
  raiseIf (¬(0 ≤ receipt.filledQuantity ∧ receipt.filledQuantity ≤ expectedQuantity))
    (.brokerReceiptValidation "브로커 응답 체결수량이 유효하지 않습니다")
  raiseIf (0 < receipt.filledQuantity ∧ ∀ average ∈ receipt.averageFillPrice, average ≤ 0)
    (.brokerReceiptValidation "체결된 주문의 평균체결가가 유효하지 않습니다")
  let raw := receipt.raw.getD {}
  raiseIf (raw.clientOrderId.differs expectedClientOrderId = true)
    (.brokerReceiptValidation "브로커 raw clientOrderId가 예약 주문과 다릅니다")
  raiseIf (∃ symbol ∈ raw.symbol, symbol ≠ expectedSymbol)
    (.brokerReceiptValidation "브로커 응답 종목이 예약 주문과 다릅니다")
  raiseIf (raw.side.differs expectedSide = true)
    (.brokerReceiptValidation "브로커 응답 매매방향이 예약 주문과 다릅니다")
  let quantityDiffers ← rawQuantityDiffers raw.quantity expectedQuantity
  raiseIf (quantityDiffers = true)
    (.brokerReceiptValidation "브로커 raw 주문수량이 예약 수량과 다릅니다")

/-- A receipt that passes reports no negative fill. -/
theorem validateReceipt_nonneg {receipt : OrderReceipt ι} {clientOrderId : ι} {symbol : Symbol}
    {side : Side} {quantity : ℕ} {u : Unit}
    (hok : validateReceipt receipt clientOrderId symbol side quantity = .ok u) :
    0 ≤ receipt.filledQuantity := by
  simp only [validateReceipt, Except.bind_eq_ok, raiseIf_eq_ok] at hok
  obtain ⟨-, -, -, -, -, -, -, -, -, hfilled, -⟩ := hok
  exact (not_not.mp hfilled).1

omit [DecidableEq ι] in
/-- What `update_order` stores of a receipt. -/
def OrderReceipt.toUpdate (receipt : OrderReceipt ι) : OrderUpdate where
  status := receipt.status
  brokerOrderId := receipt.brokerOrderId
  filledQty := some receipt.filledQuantity.toNat
  averageFillPrice := receipt.averageFillPrice

omit [DecidableEq ι] in
/-- The receipt of a row that is not refreshed. -/
def OrderRow.receipt (row : OrderRow ι) (clientOrderId : ι) : OrderReceipt ι where
  clientOrderId := some clientOrderId
  brokerOrderId := row.brokerOrderId
  status := .exact row.status
  quantity := row.qty
  filledQuantity := row.filledQty
  averageFillPrice := row.averageFillPrice

namespace OrderManager

/-! ## The checks -/

/-- `_buy_is_halted`. -/
def buyIsHalted : Action τ ι Bool := do
  let value ← getSystemValue SystemState.operatorBuyHalt
  match value with
  | some halted => return halted
  | none => throw (.runtime "실거래 신규 매수 잠금 상태가 누락·손상되었습니다")

/-- The reads of `_buy_is_safe_mode_blocked`. -/
def readSafeMode (symbol : Symbol) : Action τ ι SafeModeView := do
  let flag ← getSystemValue SystemState.portfolioSafeMode
  if flag = some true then return { portfolioSafeMode := flag, position := none }
  else
    match symbol.enabled? with
    | none => return { portfolioSafeMode := flag, position := none }
    | some enabled =>
        let state ← readRepo fun repo => (repo.positions enabled).state
        return { portfolioSafeMode := flag, position := some state }

/-- `_require_commissioned_live_ledger`. -/
def requireCommissionedLiveLedger (settings : RuntimeSettings) : Action τ ι Unit := do
  Proc.ofExcept settings.requireLiveTrading
  let commissioned ← getSystemValue SystemState.liveCommissioned
  Proc.raiseIf (commissioned ≠ some true)
    (.runtime "실거래 준비 전환이 완료된 전용 원장이 아닙니다")

/-- The reads of `require_live_auto_buy_contract`, one key after the other. -/
def readGuardView : Action τ ι GuardView := do
  let autoEnabled ← getSystemValue SystemState.autoEnabled
  let autoVersion ← getSystemValue SystemState.autoVersion
  let launchAuthorized ← getSystemValue SystemState.launchAuthorized
  let startupQuarantine ← getSystemValue SystemState.startupQuarantine
  let operatorHaltLatched ← getSystemValue SystemState.operatorHaltLatched
  let autoState ← getSystemValue SystemState.autoState
  let baseCapital ← getSystemValue SystemState.baseCapital
  let ratio ← getSystemValue SystemState.ratio
  let targetPrincipal ← getSystemValue SystemState.targetPrincipal
  let effectivePrincipal ← getSystemValue SystemState.effectivePrincipal
  let highWaterEquity ← getSystemValue SystemState.highWaterEquity
  let riskBudget ← getSystemValue SystemState.riskBudget
  return {
    autoEnabled := autoEnabled
    autoVersion := autoVersion
    launchAuthorized := launchAuthorized
    startupQuarantine := startupQuarantine
    operatorHaltLatched := operatorHaltLatched
    autoState := autoState
    baseCapital := baseCapital
    ratio := ratio
    targetPrincipal := targetPrincipal
    effectivePrincipal := effectivePrincipal
    highWaterEquity := highWaterEquity
    riskBudget := riskBudget }

/-- `_require_live_auto_contract`: what it read, when it does not raise. -/
def requireLiveAutoContract (finalSubmission : Bool) : Action τ ι GuardView := do
  let view ← readGuardView
  let regularSession ← Proc.ask Query.regularSession
  Proc.ofExcept (view.requireLiveAutoBuyContract finalSubmission regularSession)
  return view

/-! ## An existing row -/

/-- The refresh of an existing row. -/
def refreshExisting (request : OrderRequest ι) (orderId : BrokerOrderId) :
    Action τ ι (OrderReceipt ι) := do
  let order ← TossClient.getOrder orderId
  let receipt ← Proc.ofExcept (receiptFromOrder order request.clientOrderId)
  Proc.ofExcept (validateReceipt receipt request.clientOrderId request.symbol request.side
    request.quantity)
  return receipt

/-- `submit` on an existing row. -/
def submitExisting (request : OrderRequest ι) (existing : OrderRow ι) :
    Action τ ι (OrderReceipt ι) :=
  match existing.brokerOrderId with
  | none => return existing.receipt request.clientOrderId
  | some orderId => do
      let refreshed ← tryCatchThe PyError
        (do let receipt ← refreshExisting request orderId; return some receipt)
        fun error => match error with
          | .brokerReceiptValidation message => do
              updateOrder request.clientOrderId { status := .exact .unknown }
              throw (.brokerReceiptValidation message)
          | _ => return none
      match refreshed with
      | none => return existing.receipt request.clientOrderId
      | some receipt => do
          updateOrder request.clientOrderId receipt.toUpdate
          return receipt

/-! ## Reserving -/

/-- A reservation, and the ghost of who made it. -/
def reserveRow (self : τ) (clientOrderId : ι) (f : Repository ι → Py (Repository ι × Bool)) :
    Action τ ι Bool :=
  Proc.transaction fun world => (f world.repo).map fun result =>
    (world.reserve self clientOrderId result, result.2)

/-- The checks before a BUY is reserved, and its reservation. -/
def reserveBuy (config : StrategyConfig) (self : τ) (request : OrderRequest ι) :
    Action τ ι Bool := do
  let halted ← buyIsHalted
  Proc.raiseIf (halted = true) (.runtime "운영자 긴급정지 상태라 신규 BUY가 차단되어 있습니다")
  let safeMode ← readSafeMode request.symbol
  Proc.raiseIf (safeMode.blocked = true) (.runtime "SAFE_MODE 상태라 신규 BUY가 차단되어 있습니다")
  let _ ← requireLiveAutoContract false
  match request.asBuy? with
  | none => throw (.runtime "JDSS 매수는 관리현금 검증 가능한 지정가만 허용합니다")
  | some buy => do
      let brokerAvailable ← TossClient.getBuyingPower
      let now ← Proc.ask Query.now
      reserveRow self request.clientOrderId fun repo =>
        repo.reserveBuyOrderWithManagedCash config brokerAvailable buy now

/-- The reservation of a SELL. -/
def reserveSell (self : τ) (request : OrderRequest ι) : Action τ ι Bool := do
  let now ← Proc.ask Query.now
  reserveRow self request.clientOrderId fun repo => .ok (repo.reserveOrder request now)

/-- The reservation of either side. -/
def reserveSide (config : StrategyConfig) (self : τ) (request : OrderRequest ι) :
    Action τ ι Bool :=
  match request.side with
  | .buy => reserveBuy config self request
  | .sell => reserveSell self request

/-- The part of `submit` up to the reservation. -/
def reserve (config : StrategyConfig) (settings : RuntimeSettings) (self : τ)
    (request : OrderRequest ι) : Action τ ι Unit := do
  requireCommissionedLiveLedger settings
  let reserved ← reserveSide config self request
  Proc.raiseIf (reserved = false) (.runtime "주문 멱등키 예약에 실패했습니다")

/-! ## Placing -/

/-- The call of `broker.place_order`. -/
def brokerPlaceOrder (self : τ) (request : OrderRequest ι) (checks : Option BoundaryChecks) :
    Action τ ι (OrderReceipt ι) := do
  Proc.modify fun world => world.record (.placing self request world.repo.system checks)
  TossClient.placeOrder self request

/-- A BUY that is stopped at the boundary was not sent. -/
def rejectAtBoundary (clientOrderId : ι) (message : String) :
    Action τ ι (OrderReceipt ι) := do
  updateOrder clientOrderId { status := .exact .rejected }
  throw (.runtime message)

/-- The body of `with BUY_EXECUTION_LOCK`. -/
def placeBuy (self : τ) (request : OrderRequest ι) : Action τ ι (OrderReceipt ι) := do
  let halted ← buyIsHalted
  if halted then
    rejectAtBoundary request.clientOrderId "운영자 긴급정지가 활성화되어 BUY 제출을 중단했습니다"
  else
    let safeMode ← readSafeMode request.symbol
    if safeMode.blocked then
      rejectAtBoundary request.clientOrderId "SAFE_MODE가 활성화되어 BUY 제출을 중단했습니다"
    else
      let view ← requireLiveAutoContract true
      brokerPlaceOrder self request (some { autoState := view.autoState, safeMode := safeMode })

/-- The submission of either side. -/
def placeSide (self : τ) (request : OrderRequest ι) : Action τ ι (OrderReceipt ι) :=
  match request.side with
  | .buy => Proc.withLock (placeBuy self request)
  | .sell => brokerPlaceOrder self request none

/-- The body of the `try` in `submit`. -/
def placeAndValidate (self : τ) (request : OrderRequest ι) : Action τ ι (OrderReceipt ι) := do
  let receipt ← placeSide self request
  Proc.ofExcept (validateReceipt receipt request.clientOrderId request.symbol request.side
    request.quantity)
  return receipt

/-- The exception handlers of `submit`. -/
def recordFailure (request : OrderRequest ι) (error : PyError) : Action τ ι (OrderReceipt ι) :=
  match error with
  | .tossApi apiError => do
      let status := if apiError.retryable then .unknown else .rejected
      updateOrder request.clientOrderId { status := .exact status }
      throw (.tossApi apiError)
  | error => do
      let stored ← readRepo fun repo => repo.getOrderByClientId request.clientOrderId
      if stored.map OrderRow.status = some .rejected then throw error
      else
        updateOrder request.clientOrderId { status := .exact .unknown }
        throw error

/-- The part of `submit` after the reservation. -/
def place (self : τ) (request : OrderRequest ι) : Action τ ι (OrderReceipt ι) := do
  let receipt ← tryCatchThe PyError (placeAndValidate self request) (recordFailure request)
  updateOrder request.clientOrderId receipt.toUpdate
  return receipt

/-- `submit`. -/
def submit (config : StrategyConfig) (settings : RuntimeSettings) (self : τ)
    (request : OrderRequest ι) : Action τ ι (OrderReceipt ι) := do
  let request ← Proc.ofExcept (normalizeSellLimitRequest request)
  match ← readRepo fun repo => repo.getOrderByClientId request.clientOrderId with
  | some existing => submitExisting request existing
  | none => do
      reserve config settings self request
      place self request

end OrderManager

end JdHoldings

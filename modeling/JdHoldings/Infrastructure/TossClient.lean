import JdHoldings.Application.Runtime

/-!
# The broker client

`TossClient` as far as orders are concerned.  `_request` sends one request with the
cached token.  After a 401 it refreshes the token, and replays the request only when
the method is safe, so that a POST is sent once whatever comes back
(`request_post`).

`_api_error` and `_json_object` decide together which failures are marked
`retryable`, the only thing the order manager looks at.
-/

namespace JdHoldings

variable {τ ι : Type}

/-- `OrderReceipt`.  An empty id text is `none`, and so is the `raw` of a receipt
that was made from the local row. -/
structure OrderReceipt (ι : Type) where
  clientOrderId : Option ι
  brokerOrderId : Option BrokerOrderId
  status : StatusText
  quantity : ℤ
  filledQuantity : ℤ := 0
  averageFillPrice : Option Decimal := none
  raw : Option (OrderJson ι) := none

namespace TossClient

/-! ## Errors -/

/-- `_api_error`. -/
def apiError (response : HttpResponse ι) : TossApiError where
  message := response.errorMessage.getD s!"토스 API 오류 (HTTP {response.statusCode})"
  statusCode := some response.statusCode
  code := response.errorCode
  requestId := response.requestId
  retryable := decide (response.statusCode ∈ [408, 429, 500, 502, 503, 504])

/-- An error of `_json_object`: it is not retryable. -/
def jsonError (response : HttpResponse ι) (message : String) : PyError :=
  .tossApi {
    message := message
    statusCode := some response.statusCode
    code := none
    requestId := none
    retryable := false }

/-- `_json_object`. -/
def jsonObject (response : HttpResponse ι) (context : String) : Py (JsonResult ι) :=
  match response.body with
  | .notJson => .error (jsonError response s!"{context} 응답이 JSON 형식이 아닙니다")
  | .notObject => .error (jsonError response s!"{context} 응답 형식이 올바르지 않습니다")
  | .object result => .ok result

/-- A transport error. -/
def transportError (message : String) : PyError :=
  .tossApi {
    message := message
    statusCode := none
    code := none
    requestId := none
    retryable := true }

/-! ## Requests -/

/-- `authenticate`.  It asks the token endpoint alone. -/
def authenticate (force : Bool) : Action τ ι Unit := do
  let answer ← Proc.ask (Query.authenticate force)
  Proc.ofExcept answer

/-- `session.request`, with the headers `_headers` builds first, and the translation
of its exceptions. -/
def sessionRequest (self : τ) (method : HttpMethod) (path : ApiRequest ι) :
    Action τ ι (HttpResponse ι) := do
  authenticate false
  record (.sent self method path)
  let outcome ← Proc.ask (Query.send method path)
  record (.answered self path outcome)
  match (outcome : HttpOutcome ι) with
  | .timeout => throw (transportError "토스 API 요청 시간초과")
  | .requestException => throw (transportError "토스 API 네트워크 오류")
  | .response response => return response

/-- The forced refresh after a 401: whether there is a token now. -/
def refreshToken : Action τ ι Bool :=
  tryCatchThe PyError (do authenticate true; return true) fun error =>
    match error with
    | .tossApi _ => return false
    | error => throw error

/-- The end of `_request`, for a response that is not handled as a 401. -/
def finish (response : HttpResponse ι) : Py (JsonResult ι) :=
  if response.ok then jsonObject response "토스 API" else .error (.tossApi (apiError response))

/-- `_request`, with the number of refreshes left: one with `retry_auth`, none
without. -/
def request (self : τ) (method : HttpMethod) (path : ApiRequest ι) :
    ℕ → Action τ ι (JsonResult ι)
  | 0 => do
      let response ← sessionRequest self method path
      Proc.ofExcept (finish response)
  | retries + 1 => do
      let response ← sessionRequest self method path
      if response.statusCode = 401 then
        let refreshed ← refreshToken
        if method.isSafe && refreshed then request self method path retries
        else throw (.tossApi (apiError response))
      else Proc.ofExcept (finish response)

/-! ## Orders -/

/-- `_validate_us_limit_price`. -/
def validateUsLimitPrice (price : Decimal) : Py Unit :=
  let allowedPlaces := if price < 1 then 4 else 2
  raiseIf ((price * 10 ^ allowedPlaces).den ≠ 1)
    (.value ("미국주식 지정가 자릿수가 토스 주문 규격을 초과합니다 "
      ++ s!"(${price}: 최대 소수 {allowedPlaces}자리)"))

/-- The checks of `place_order`. -/
def validateOrder (request : OrderRequest ι) : Py Unit :=
  match request.orderType, request.price with
  | .market, _ => .ok ()
  | .limit, none => .error (.value "지정가 주문에는 0보다 큰 유한 price가 필요합니다")
  | .limit, some price => do
      raiseIf (price ≤ 0) (.value "지정가 주문에는 0보다 큰 유한 price가 필요합니다")
      validateUsLimitPrice price

/-- `str(None)` as an order id. -/
def nullOrderId : BrokerOrderId := 0

/-- The receipt `place_order` makes of the answer. -/
def placedReceipt (request : OrderRequest ι) : JsonResult ι → Py (OrderReceipt ι)
  | .missing => .error .key
  | .notObject => .error (.other "AttributeError")
  | .object order => do
      let clientOrderId := match order.clientOrderId with
        | .value clientOrderId => some clientOrderId
        | _ => none
      let brokerOrderId ← match order.orderId with
        | .missing => .error .key
        | .null => .ok (some nullOrderId)
        | .other => .ok none
        | .value orderId => .ok (some orderId)
      return {
        clientOrderId := clientOrderId
        brokerOrderId := brokerOrderId
        status := .exact .submitted
        quantity := request.quantity
        raw := some order }

/-- `place_order`. -/
def placeOrder (self : τ) (order : OrderRequest ι) : Action τ ι (OrderReceipt ι) := do
  Proc.ofExcept (validateOrder order)
  let result ← request self .post (.createOrder order) 1
  Proc.ofExcept (placedReceipt order result)

/-- `cancel_order`. -/
def cancelOrder (self : τ) (orderId : BrokerOrderId) : Action τ ι BrokerOrderId := do
  let unconfirmed := transportError "토스 주문취소 성공 응답의 operation orderId를 확인할 수 없습니다"
  match ← request self .post (.cancelOrder orderId) 1 with
  | .object order =>
      match order.orderId with
      | .value operationOrderId =>
          if operationOrderId = orderId then
            throw (transportError "토스 주문취소 응답의 operation orderId가 원주문과 동일합니다")
          else return operationOrderId
      | _ => throw unconfirmed
  | _ => throw unconfirmed

/-- `get_order`. -/
def getOrder (orderId : BrokerOrderId) : Action τ ι (BrokerOrder ι) := do
  let answer ← Proc.ask (Query.getOrder orderId)
  Proc.ofExcept answer

/-- `get_price`. -/
def getPrice (symbol : AllocationSymbol) : Action τ ι Decimal := do
  let answer ← Proc.ask (Query.price symbol)
  Proc.ofExcept answer

/-- `get_buying_power("USD")`. -/
def getBuyingPower : Action τ ι Decimal := do
  let answer ← Proc.ask Query.buyingPower
  Proc.ofExcept answer

end TossClient

/-- `receipt_from_order`. -/
def receiptFromOrder (order : BrokerOrder ι) (clientOrderId : ι) : Py (OrderReceipt ι) := do
  let quantity ← match order.json.quantity with
    | .missing => .ok 0
    | .null | .other => .error (.other "InvalidOperation")
    | .value quantity => .ok (Quantize.roundDown quantity)
  return {
    clientOrderId := some clientOrderId
    brokerOrderId := match order.json.orderId with
      | .missing | .other => none
      | .null => some TossClient.nullOrderId
      | .value orderId => some orderId
    status := order.status
    quantity := quantity
    filledQuantity := order.filledQuantity
    averageFillPrice := order.averageFilledPrice
    raw := some order.json }

end JdHoldings

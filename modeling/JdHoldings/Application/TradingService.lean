import JdHoldings.Application.AllocationTradingService
import JdHoldings.Application.Approvals
import JdHoldings.Application.OrderMonitor
import JdHoldings.Library.Attempt

/-!
# The trading service

`TradingService` and the `_execute_core_buy` of its production subclasses: a signal is
reviewed, its quote is approved for execution, and the approval is executed.

* `create_review_approval`, `consume_review` and `resume_cash_releases` end with an
  approval, the last two with one that carries the quote it was issued for.
* `execute` consumes the approval, quotes again, compares, and hands an order to the
  order manager.
* The receipt, or the exception that came in its place, decides whether the signal is
  processed, unknown, or open for another approval.

Every statement is a step of its own, and a quote is built in one step.  The order
manager, the idle-cash manager, the clock and the broker answer questions; what they
write is written by others.  Two ghosts ride along: the orders handed over so far, and
who has consumed an approval and not yet handed its order over.
-/

namespace JdHoldings

/-- The text `classify_session` returns. -/
def MarketSession.text : MarketSession → String
  | .regular => "regular"
  | .preMarket => "pre_market"
  | .afterHours => "after_hours"
  | .closed => "closed"

/-! ## The books of the service -/

/-- An order on its way to the order manager, with the approval it is executed for, the row
its quote was made for and the quote. -/
structure Submission (ι : Type) where
  approvalId : ℕ
  signal : CoreSignal
  quote : ReviewQuote
  request : OrderRequest ι

structure TradingBooks (τ δ ι : Type) where
  repo : Repository ι
  signals : SignalId → Option CoreSignal := fun _ => none
  approvals : List (Approval δ) := []
  intents : SignalId → Option CashReleaseIntent := fun _ => none
  /-- The orders handed over, newest first. -/
  submissions : List (Submission ι) := []
  /-- The thread that has consumed an approval for an execution still under way. -/
  inHand : ℕ → Option τ := fun _ => none

/-- What the service raises. -/
inductive TradingError where
  /-- `ApprovalError`. -/
  | approval (message : String)
  /-- `QuoteChangedError`. -/
  | quoteChanged (message : String)
  | raised (error : PyError)

def QuoteError.trading : QuoteError → TradingError
  | .approval message => .approval message
  | .raised error => .raised error

namespace TradingBooks

variable {τ δ ι : Type}

/-- The tables the approvals live in. -/
def store (books : TradingBooks τ δ ι) : ApprovalStore δ where
  approvals := books.approvals
  signals signalId := (books.signals signalId).map fun signal => signal.status
  intents := books.intents

/-- What a transaction on the approvals leaves. -/
def withStore (books : TradingBooks τ δ ι) (store : ApprovalStore δ) : TradingBooks τ δ ι :=
  { books with approvals := store.approvals, intents := store.intents }

def setSignal (books : TradingBooks τ δ ι) (signalId : SignalId) (signal : CoreSignal) :
    TradingBooks τ δ ι :=
  { books with signals := Function.update books.signals signalId (some signal) }

/-- `UPDATE signals SET … WHERE signal_id = ?`. -/
def updateSignal (books : TradingBooks τ δ ι) (signalId : SignalId)
    (set : CoreSignal → CoreSignal) : TradingBooks τ δ ι :=
  { books with signals :=
      Function.update books.signals signalId ((books.signals signalId).map set) }

/-- The thread has an approval to execute. -/
def take (books : TradingBooks τ δ ι) (self : τ) (approvalId : ℕ) : TradingBooks τ δ ι :=
  { books with inHand := Function.update books.inHand approvalId (some self) }

/-- The order of an approval goes to the order manager. -/
def handOver (books : TradingBooks τ δ ι) (submission : Submission ι) : TradingBooks τ δ ι :=
  { books with
    submissions := submission :: books.submissions
    inHand := Function.update books.inHand submission.approvalId none }

end TradingBooks

/-! ## Questions -/

inductive TradingQuery (ι : Type) where
  /-- `datetime.now(UTC)`. -/
  | utcNow
  /-- `secrets.token_urlsafe`. -/
  | token
  /-- What a quote finds around it. -/
  | surroundings
  /-- The signals with an intent, in the order of `created_at`. -/
  | intentOrder
  /-- `cancel_entry_release_orders`. -/
  | cancelEntryRelease (signalId : SignalId)
  /-- `build_client_order_id`, which hashes the version of the core row as well. -/
  | clientOrderId (symbol : AllocationSymbol) (signalId : SignalId) (approvalId : ℕ)
  /-- `OrderManager.submit`. -/
  | submit (request : OrderRequest ι)

def TradingAnswer {ι : Type} : TradingQuery ι → Type
  | .utcNow => Utc
  | .token => String
  | .surroundings => QuoteService ι
  | .intentOrder => List SignalId
  | .cancelEntryRelease _ => Except TradingError Unit
  | .clientOrderId _ _ _ => ι
  | .submit _ => Py (OrderReceipt ι)

/-- A program of a thread of the service. -/
abbrev TradingAction (τ δ ι α : Type) :=
  Proc (TradingBooks τ δ ι) (TradingQuery ι) TradingAnswer TradingError α

/-- Where a BUY is executed: the mode it is for, and whether AUTO keeps to the regular
session. -/
structure BuyPath where
  live : Bool
  modeError : String
  regularOnly : Bool

/-- The path of `AllocationTradingService`. -/
def AllocationTradingService.buyPath : BuyPath :=
  ⟨false, "JDSS V3.2.2 allocation 매수는 live 모드가 잠겨 있습니다", false⟩

/-- The path of `LiveAllocationTradingService`. -/
def LiveAllocationTradingService.buyPath : BuyPath :=
  ⟨true, "live allocation service는 live runtime에서만 사용할 수 있습니다", false⟩

/-- The path of `JHAutoLiveAllocationTradingService`. -/
def JHAutoLiveAllocationTradingService.buyPath : BuyPath :=
  ⟨true, "JH AUTO allocation service는 live runtime에서만 사용할 수 있습니다", true⟩

/-- The service as it is put together at startup. -/
structure TradingDesk (δ : Type) where
  config : StrategyConfig
  tokens : TokenConfig
  /-- The hash of a token. -/
  hash : String → δ
  /-- `settings.trading_mode == "live"`. -/
  live : Bool
  path : BuyPath

/-- The payload of an execution approval. -/
def ReviewQuote.payload (quote : ReviewQuote) : ApprovalPayload where
  currentPrice := quote.currentPrice
  executionCeiling := quote.executionCeiling
  limitPrice := quote.limitPrice
  quantity := quote.quantity
  session := quote.session.text

/-- `comparison == approved_comparison`. -/
def ReviewQuote.matches (quote : ReviewQuote) (approved : ApprovalPayload) : Bool :=
  decide (quote.executionCeiling = approved.executionCeiling) &&
    decide (quote.limitPrice = approved.limitPrice) &&
    decide (quote.quantity = approved.quantity) && decide (quote.session.text = approved.session)

/-- A quote with its execution approval and token. -/
structure IssuedQuote where
  quote : ReviewQuote
  executionApprovalId : ℕ
  executionToken : String

namespace TradingDesk

variable {τ δ ι : Type}

/-! ## Statements -/

/-- `now or datetime.now(UTC)`. -/
def clock (now : Option Utc) : TradingAction τ δ ι Utc :=
  match now with
  | some current => return current
  | none => Proc.ask TradingQuery.utcNow

def readRepo {α : Type} (f : Repository ι → α) : TradingAction τ δ ι α :=
  Proc.read fun books => f books.repo

/-- `now + ttl`. -/
def expiryOf (now : Utc) (ttl : ℤ) : Except TradingError Utc :=
  match Utc.ofMicros? (now.micros + ttl) with
  | some expiresAt => .ok expiresAt
  | none => .error (.raised (.other "OverflowError"))

/-- `create_approval`. -/
def createApproval (desk : TradingDesk δ) (signalId : SignalId) (stage : ApprovalStage) (ttl : ℤ)
    (payload : Option ApprovalPayload) : TradingAction τ δ ι (ℕ × String) := do
  let token ← Proc.ask TradingQuery.token
  let now ← Proc.ask TradingQuery.utcNow
  let expiresAt ← Proc.ofExcept (expiryOf now ttl)
  let approvalId ← Proc.transaction fun books =>
    match books.store.createApproval desk.hash signalId stage payload token now expiresAt with
    | (store, .ok approvalId) => .ok (books.withStore store, approvalId)
    | (_, .error error) => .error (.raised error)
  return (approvalId, token)

/-- `consume_approval`.  An execution approval is in hand from here on. -/
def consumeApproval [DecidableEq δ] (desk : TradingDesk δ) (self : τ) (approvalId : ℕ)
    (token : String) (stage : ApprovalStage) :
    TradingAction τ δ ι (SignalId × Option ApprovalPayload) := do
  let now ← Proc.ask TradingQuery.utcNow
  Proc.transaction fun books =>
    match ApprovalStore.consumeApproval desk.hash approvalId token stage now books.store with
    | (store, .ok consumed) =>
        let consumedBooks := books.withStore store
        .ok (match stage with
          | .execution => consumedBooks.take self approvalId
          | .review => consumedBooks, consumed)
    | (_, .error refusal) => .error (.approval (refusal.message desk.tokens))

/-- A step on the row of a signal, which stays written when it raises. -/
def withSignal {α : Type} (signalId : SignalId)
    (f : Repository ι → CoreSignal → (Repository ι × CoreSignal) × Except QuoteError α) :
    TradingAction τ δ ι (CoreSignal × α) :=
  Proc.attempt fun books =>
    match books.signals signalId with
    | none => (books, .error (.raised .key))
    | some signal =>
        let result := f books.repo signal
        (({ books with repo := result.1.1 } : TradingBooks τ δ ι).setSignal signalId result.1.2,
          (result.2.map fun value => (result.1.2, value)).mapError QuoteError.trading)

/-- `_active_signal`. -/
def activeSignal (signalId : SignalId) (now : Option Utc) : TradingAction τ δ ι CoreSignal := do
  let current ← clock now
  let service ← Proc.ask TradingQuery.surroundings
  let (signal, _) ← withSignal signalId fun repo signal =>
    let result := AllocationTradingService.activeSignal service repo signal current
    ((repo, result.1), result.2)
  return signal

/-- `_build_quote`, with the row it was made for. -/
def buildQuote (desk : TradingDesk δ) (signalId : SignalId) (now : Option Utc)
    (allowCashRelease : Bool) : TradingAction τ δ ι (CoreSignal × ReviewQuote) := do
  let current ← clock now
  let service ← Proc.ask TradingQuery.surroundings
  withSignal signalId fun repo signal =>
    AllocationTradingService.buildQuote service desk.config repo signal current allowCashRelease

/-- `mark_signal`. -/
def markSignal (signalId : SignalId) (status : SignalStatus) (processed : Bool)
    (reason : Option String) : TradingAction τ δ ι Unit :=
  Proc.modify fun books => books.updateSignal signalId fun signal =>
    { signal with status := status, processed := processed, expiredReason := reason }

/-- `update_cash_release_intent`. -/
def updateCashReleaseIntent (signalId : SignalId) (status : CashReleaseStatus)
    (executionApprovalId : Option ℕ) : TradingAction τ δ ι Unit :=
  Proc.transaction fun books =>
    match books.intents signalId with
    | none => .error (.raised .key)
    | some intent => .ok ({ books with
        intents := Function.update books.intents signalId (some { intent with
          status := status
          executionApprovalId := executionApprovalId }) }, ())

/-- `except KeyError: pass`. -/
def exceptKeyError (action : TradingAction τ δ ι Unit) : TradingAction τ δ ι Unit :=
  tryCatchThe TradingError action fun error => match error with
    | .raised .key => return ()
    | error => throw error

/-- `_set_cash_intent_status`. -/
def setCashIntentStatus (signalId : SignalId) (status : CashReleaseStatus) :
    TradingAction τ δ ι Unit :=
  exceptKeyError (updateCashReleaseIntent signalId status none)

/-- The transaction of `halt()`. -/
def haltTransaction : TradingAction τ δ ι Unit :=
  Proc.modify fun books => books.withStore books.store.haltTransaction

/-- `create_core_buy_signal` where it reactivates the row that is there. -/
def reactivateCoreSignal (signalId : SignalId) (signalClose maxChasePrice plannedBudget : Decimal)
    (validUntil : Utc) : TradingAction τ δ ι Unit :=
  Proc.modify fun books =>
    (books.withStore (books.store.reactivateSignal signalId)).updateSignal signalId fun signal =>
      if ApprovalStore.reactivates signal.status then { signal with
        signalClose := signalClose
        maxChasePrice := maxChasePrice
        plannedBudget := plannedBudget
        validUntil := validUntil
        status := .active
        processed := false
        expiredReason := none }
      else signal

/-! ## Reviews -/

/-- `cash_release_intent_is_active`. -/
def cashReleaseIntentIsActive (signalId : SignalId) : TradingAction τ δ ι Bool := do
  let now ← Proc.ask TradingQuery.utcNow
  Proc.read fun books => (books.intents signalId).any fun intent =>
    ApprovalStore.isOpenIntent intent.status && decide (now.isoformat ≤ intent.expiresAt.isoformat)

/-- `create_review_approval`. -/
def createReviewApproval (desk : TradingDesk δ) (signalId : SignalId) (now : Option Utc) :
    TradingAction τ δ ι (ℕ × String) := do
  let signal ← activeSignal signalId now
  let active ← cashReleaseIntentIsActive signalId
  Proc.raiseIf (active = true) (.approval "SGOV 현금화 또는 최종 매수 승인이 이미 진행 중입니다")
  createApproval desk signal.signalId .review (desk.tokens.reviewTokenTtlMinutes * 60000000) none

/-- `_issue_execution_approval`. -/
def issueExecutionApproval (desk : TradingDesk δ) (quote : ReviewQuote) :
    TradingAction τ δ ι IssuedQuote := do
  let (executionId, executionToken) ← createApproval desk quote.signalId .execution
    (desk.tokens.executionTokenTtlSeconds * 1000000) (some quote.payload)
  exceptKeyError (updateCashReleaseIntent quote.signalId .awaitingExecution (some executionId))
  return {
    quote := quote
    executionApprovalId := executionId
    executionToken := executionToken }

/-- `consume_review`. -/
def consumeReview [DecidableEq δ] (desk : TradingDesk δ) (self : τ) (approvalId : ℕ)
    (token : String) (now : Option Utc) : TradingAction τ δ ι IssuedQuote := do
  let (signalId, _) ← consumeApproval desk self approvalId token .review
  let (_, quote) ← buildQuote desk signalId now true
  issueExecutionApproval desk quote

/-- `"현재 주문 허용 세션" in str(exc)`. -/
def namesSession (message : String) : Bool :=
  decide ("현재 주문 허용 세션".toList <:+: message.toList)

/-- The body of the loop of `resume_cash_releases`: the quote, if there is one now. -/
def resumeQuote (desk : TradingDesk δ) (signalId : SignalId) (now : Option Utc) :
    TradingAction τ δ ι (Option ReviewQuote) :=
  tryCatchThe TradingError
    (do
      let (_, quote) ← buildQuote desk signalId now true
      return some quote)
    fun error => match error with
      | .raised (.other "IdleCashReleasePending") => return none
      | .approval message => do
          if namesSession message then return none
          else
            updateCashReleaseIntent signalId .canceled none
            return none
      | error => throw error

/-- The loop of `resume_cash_releases`. -/
def resumeEach (desk : TradingDesk δ) (now : Option Utc) :
    List SignalId → TradingAction τ δ ι (List IssuedQuote)
  | [] => return []
  | signalId :: rest => do
      match ← resumeQuote desk signalId now with
      | none => resumeEach desk now rest
      | some quote =>
          let issued ← issueExecutionApproval desk quote
          let others ← resumeEach desk now rest
          return issued :: others

/-- `pending_cash_release_intents`. -/
def pendingCashReleaseIntents (now : Option Utc) : TradingAction τ δ ι (List SignalId) := do
  let current ← clock now
  let order ← Proc.ask TradingQuery.intentOrder
  Proc.transaction fun books =>
    let swept := books.withStore (books.store.sweep current)
    .ok (swept, order.filter fun signalId => (swept.intents signalId).any fun intent =>
      decide (intent.status = .waitingSgovFill) &&
        decide (current.isoformat ≤ intent.expiresAt.isoformat))

/-- `resume_cash_releases`. -/
def resumeCashReleases (desk : TradingDesk δ) (now : Option Utc) :
    TradingAction τ δ ι (List IssuedQuote) := do
  let pending ← pendingCashReleaseIntents now
  resumeEach desk now pending

/-- `cancel_approval`, without its count. -/
def cancelApproval (desk : TradingDesk δ) (approvalId : ℕ) : TradingAction τ δ ι Unit := do
  let signalId ← Proc.transaction fun books =>
    match books.store.cancelApproval approvalId with
    | (store, .ok signalId) => .ok (books.withStore store, signalId)
    | (_, .error refusal) => .error (.approval (refusal.message desk.tokens))
  setCashIntentStatus signalId .canceled

/-- `cancel_cash_release`. -/
def cancelCashRelease (signalId : SignalId) : TradingAction τ δ ι Unit := do
  let canceled ← Proc.ask (TradingQuery.cancelEntryRelease signalId)
  Proc.ofExcept canceled
  updateCashReleaseIntent signalId .canceled none

/-! ## Execution -/

/-- The checks of `_execute_core_buy` before its order. -/
def checkExecution (desk : TradingDesk δ) (signal : CoreSignal) (now : Option Utc) :
    TradingAction τ δ ι Unit := do
  Proc.raiseIf (desk.live ≠ desk.path.live) (.raised (.runtime desk.path.modeError))
  let current ← clock now
  let service ← Proc.ask TradingQuery.surroundings
  let nextSession ← Proc.ofExcept
    ((service.nextSessionDate signal.tradeDate).mapError TradingError.raised)
  Proc.raiseIf (NewYork.date current < nextSession)
    (.quoteChanged "완결봉의 다음 거래일 전이어서 승인을 취소했습니다")
  Proc.raiseIf (isTossOrderMaintenanceWindow current = true)
    (.quoteChanged "토스 주문 점검시간이어서 승인을 취소했습니다")
  let session := service.calendar.classifySession current
  let autoEnabled ← readRepo fun repo => repo.system.autoEnabled
  Proc.raiseIf (desk.path.regularOnly = true ∧ autoEnabled = some true ∧ session ≠ .regular)
    (.quoteChanged "JH AUTO 1.0.0 자동매수는 미국 정규장에서만 실행합니다")
  Proc.raiseIf (service.sessionAllowed session = false)
    (.quoteChanged s!"주문 허용 세션이 끝나 승인을 취소했습니다: {session.text}")
  let trendActive ← readRepo fun repo => (repo.core signal.symbol).trendActive
  Proc.raiseIf (trendActive = false)
    (.quoteChanged "V3.2.2 목표비중이 0으로 바뀌어 승인을 취소했습니다")

/-- The order of a quote. -/
def coreBuyRequest (signal : CoreSignal) (quote : ReviewQuote) (clientOrderId : ι)
    (quantity_pos : 0 < quote.quantity) : OrderRequest ι where
  clientOrderId := clientOrderId
  symbol := .allocation signal.symbol
  side := .buy
  orderType := .limit
  quantity := quote.quantity
  price := some quote.limitPrice
  purpose := .coreRebalanceBuy
  quantity_pos := quantity_pos
  side_eq := rfl

/-- `OrderRequest(…)`, whose constructor refuses a quantity below one. -/
def buildRequest (signal : CoreSignal) (quote : ReviewQuote) (clientOrderId : ι) :
    Except TradingError (OrderRequest ι) :=
  if hpos : 0 < quote.quantity then .ok (coreBuyRequest signal quote clientOrderId hpos)
  else .error (.raised (.value "주문 수량은 1주 이상이어야 합니다"))

/-- `_reopen_core_signal`. -/
def reopenCoreSignal (signalId : SignalId) (reason : String) : TradingAction τ δ ι Unit :=
  markSignal signalId .active false (some reason)

/-- `_enter_symbol_safe_mode`. -/
def enterSymbolSafeMode (symbol : AllocationSymbol) : TradingAction τ δ ι Unit :=
  Proc.modify fun books => { books with repo := books.repo.enterSymbolSafeMode (.allocation symbol) }

/-- `except Exception` around `submit`. -/
def afterFailure [DecidableEq ι] (signal : CoreSignal) (request : OrderRequest ι)
    (error : PyError) : TradingAction τ δ ι (OrderReceipt ι) := do
  let found ← readRepo fun repo => repo.getOrderByClientId request.clientOrderId
  setCashIntentStatus signal.signalId .canceled
  if found.map OrderRow.status = some .unknown then
    enterSymbolSafeMode signal.symbol
    markSignal signal.signalId .unknown true (some "CORE_ORDER_SUBMISSION_UNKNOWN")
  else
    reopenCoreSignal signal.signalId "CORE_BUY_SUBMISSION_FAILED"
  throw (.raised error)

/-- `_execute_core_buy` with the receipt. -/
def afterReceipt [DecidableEq ι] (signal : CoreSignal) (request : OrderRequest ι)
    (receipt : OrderReceipt ι) : TradingAction τ δ ι (OrderReceipt ι) := do
  Proc.when (0 < receipt.filledQuantity) (Proc.transaction fun books =>
    match books.repo.applyCoreFill request.clientOrderId with
    | .ok repo => .ok ({ books with repo := repo }, ())
    | .error error => .error (.raised error))
  if receipt.status = .exact .unknown then
    enterSymbolSafeMode signal.symbol
    markSignal signal.signalId .unknown true (some "CORE_ORDER_STATUS_UNKNOWN")
    setCashIntentStatus signal.signalId .canceled
    return receipt
  else if receipt.isTerminal = true ∧ 0 < receipt.remaining then
    reopenCoreSignal signal.signalId "CORE_BUY_REAPPROVAL_REQUIRED"
    setCashIntentStatus signal.signalId .canceled
    return receipt
  else
    markSignal signal.signalId .processed true none
    setCashIntentStatus signal.signalId .completed
    return receipt

/-- `order_manager.submit`, with what follows it. -/
def submitOrder [DecidableEq ι] (approvalId : ℕ) (quoted signal : CoreSignal)
    (quote : ReviewQuote) (request : OrderRequest ι) : TradingAction τ δ ι (OrderReceipt ι) := do
  Proc.modify fun books => books.handOver ⟨approvalId, quoted, quote, request⟩
  match ← Proc.ask (TradingQuery.submit request) with
  | .error error => afterFailure signal request error
  | .ok receipt => afterReceipt signal request receipt

/-- `_execute_core_buy`. -/
def executeCoreBuy [DecidableEq ι] (desk : TradingDesk δ) (approvalId : ℕ)
    (quoted signal : CoreSignal) (quote : ReviewQuote) (now : Option Utc) :
    TradingAction τ δ ι (OrderReceipt ι) := do
  checkExecution desk signal now
  let clientOrderId ← Proc.ask (TradingQuery.clientOrderId signal.symbol signal.signalId approvalId)
  let request ← Proc.ofExcept (buildRequest signal quote clientOrderId)
  submitOrder approvalId quoted signal quote request

/-- The quote of an execution, whose failure cancels the intent. -/
def requote (desk : TradingDesk δ) (signalId : SignalId) (now : Option Utc) :
    TradingAction τ δ ι (CoreSignal × ReviewQuote) :=
  tryCatchThe TradingError (buildQuote desk signalId now false) fun error => do
    setCashIntentStatus signalId .canceled
    throw error

/-- The comparison of `execute`. -/
def compareQuote (signalId : SignalId) (quote : ReviewQuote) (approved : ApprovalPayload) :
    TradingAction τ δ ι Unit :=
  if quote.matches approved = false then do
    setCashIntentStatus signalId .canceled
    throw (.quoteChanged "가격 또는 수량이 바뀌어 새로운 최종 확인이 필요합니다")
  else return ()

/-- `execute`.  The gate of `_active_signal` lets core BUY signals through only, so that what
`TradingService.execute` does for others is not reached. -/
def execute [DecidableEq δ] [DecidableEq ι] (desk : TradingDesk δ) (self : τ) (approvalId : ℕ)
    (token : String) (now : Option Utc) : TradingAction τ δ ι (OrderReceipt ι) := do
  let (signalId, payload) ← consumeApproval desk self approvalId token .execution
  let (quoted, quote) ← requote desk signalId now
  match payload with
  | none => throw (.raised .key)
  | some approved => do
      compareQuote signalId quote approved
      let signal ← activeSignal signalId now
      executeCoreBuy desk approvalId quoted signal quote now

end TradingDesk

end JdHoldings

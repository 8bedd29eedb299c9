import JdHoldings.Application.PositionManager
import JdHoldings.Automation.Service
import JdHoldings.Infrastructure.MarketClock
import JdHoldings.Infrastructure.TossClient
import Mathlib.Data.List.Dedup
import Mathlib.Data.List.Sort

/-!
# One automatic BUY

`FinalOpsProductionJHAutoService.execute_one`: count the attempts of the day, check
that everything is clean, pick a signal, record an AUTO cycle for it and let the
trading service review and execute it.

The store is the repository with what only this code reads: the table
`jh_auto_cycles` and the keys `jh_auto_retry_after:<signal>`.  The trading service is
a parameter.  It may do anything to the store, cycles included, except begin a cycle:
nothing else in the code inserts into that table or updates the signal or the start of
a row.
-/

namespace JdHoldings

variable {κ ι : Type}

/-! ## The store -/

/-- What is written into `jh_auto_cycles.status`. -/
inductive CycleStatus where
  | reviewing
  | error
  | order (status : OrderStatus)
  | unsupported (text : String)
deriving DecidableEq, Repr

/-- A row of `jh_auto_cycles`. -/
structure AutoCycle (κ : Type) where
  cycleId : κ
  signalId : Option SignalId
  symbol : Symbol
  status : CycleStatus
  requestedQty : ℤ := 0
  filledQty : ℤ := 0
  averageFillPrice : Option Decimal := none
  brokerOrderId : Option BrokerOrderId := none
  startedAt : Utc
  completedAt : Option Utc := none

/-- The text under `jh_auto_retry_after:<signal>`, as `fromisoformat` reads it. -/
inductive RetryAfter where
  /-- No row, or an empty text. -/
  | empty
  | malformed
  | at (time : Utc)
deriving DecidableEq, Repr

structure AutoStore (κ ι : Type) where
  repo : Repository ι
  cycles : Table κ (AutoCycle κ) AutoCycle.cycleId := .empty
  retryAfter : SignalId → RetryAfter := fun _ => .empty
  lastCycle : Option κ := none

namespace AutoStore

def setSystem (store : AutoStore κ ι) (system : SystemState) : AutoStore κ ι :=
  { store with repo := store.repo.setSystem system }

def setRetryAfter (store : AutoStore κ ι) (signalId : SignalId) (time : Utc) : AutoStore κ ι :=
  { store with retryAfter := Function.update store.retryAfter signalId (.at time) }

/-- Which signal was attempted when. -/
def attempts (store : AutoStore κ ι) : List (Option SignalId × Utc) :=
  store.cycles.rows.map fun row => (row.signalId, row.startedAt)

/-- `quarantine`. -/
def quarantine (store : AutoStore κ ι) : AutoStore κ ι :=
  store.setSystem { store.repo.system with
    startupQuarantine := some true
    autoState := some .autoQuarantine
    operatorBuyHalt := some true }

/-- `UPDATE jh_auto_cycles SET … WHERE cycle_id = ?`. -/
def updateCycle [DecidableEq κ] (store : AutoStore κ ι) (cycleId : κ)
    (set : AutoCycle κ → AutoCycle κ) : AutoStore κ ι :=
  match store.cycles.get? cycleId with
  | none => store
  | some row => { store with cycles := store.cycles.replace (set row) }

end AutoStore

/-! ## Cycles and their results -/

/-- `str(receipt.status).upper()`. -/
def CycleStatus.ofText (status : StatusText) : CycleStatus :=
  match status.upper? with
  | some status => .order status
  | none => .unsupported status.shown

/-- The statuses after which a signal waits before its next attempt. -/
def CycleStatus.isRefusal : CycleStatus → Bool
  | .order .canceled | .order .rejected | .order .replaced => true
  | _ => false

/-- `status in TERMINAL_AUTO_STATUSES`. -/
def CycleStatus.isTerminal : CycleStatus → Bool
  | .order .filled | .order .canceled | .order .rejected | .order .replaced
  | .order .unknown => true
  | _ => false

/-- The columns written after an error. -/
def AutoCycle.failed (now : Utc) (row : AutoCycle κ) : AutoCycle κ :=
  { row with status := .error, completedAt := some now }

/-- The columns written for a receipt. -/
def AutoCycle.executed (now : Utc) (receipt : OrderReceipt ι) (row : AutoCycle κ) : AutoCycle κ :=
  { row with
    status := CycleStatus.ofText receipt.status
    requestedQty := receipt.quantity
    filledQty := receipt.filledQuantity
    averageFillPrice := receipt.averageFillPrice
    brokerOrderId := receipt.brokerOrderId
    completedAt := if (CycleStatus.ofText receipt.status).isTerminal then some now else none }

/-- `AutoExecutionResult`. -/
structure AutoExecutionResult (κ : Type) where
  cycleId : κ
  signalId : SignalId
  symbol : Symbol
  status : CycleStatus
  quantity : ℤ
  filledQuantity : ℤ
  averageFillPrice : Option Decimal

/-! ## The trading service -/

structure ActiveSignal where
  signalId : SignalId
  symbol : Symbol
  action : DecisionType
deriving DecidableEq, Repr

/-- An approval id and its token. -/
structure ApprovalTicket where
  approvalId : ℕ
  token : String
deriving DecidableEq, Repr

/-- The services `execute_one` calls, which may raise after writing. -/
structure TradingService (κ ι : Type) where
  activeSignals : AutoStore κ ι → List ActiveSignal
  createReviewApproval : SignalId → Utc → AutoStore κ ι → AutoStore κ ι × Py ApprovalTicket
  /-- The execution approval of the quote, if there is one. -/
  consumeReview : ApprovalTicket → Utc → AutoStore κ ι → AutoStore κ ι × Py (Option ApprovalTicket)
  execute : ApprovalTicket → Utc → AutoStore κ ι → AutoStore κ ι × Py (OrderReceipt ι)
  createReviewApproval_keeps : ∀ signalId now store,
    (createReviewApproval signalId now store).1.attempts = store.attempts
  consumeReview_keeps : ∀ ticket now store,
    (consumeReview ticket now store).1.attempts = store.attempts
  execute_keeps : ∀ ticket now store, (execute ticket now store).1.attempts = store.attempts

/-- `type(exc).__name__`. -/
def PyError.className : PyError → String
  | .value _ => "ValueError"
  | .key => "KeyError"
  | .stateConflict _ => "StateConflictError"
  | .runtime _ => "RuntimeError"
  | .integrity => "IntegrityError"
  | .brokerReceiptValidation _ => "BrokerReceiptValidationError"
  | .tossApi _ => "TossApiError"
  | .other name => name

/-! ## The attempt limits -/

/-- A `datetime` computed from others, which raises outside its range. -/
def datetimeOf (micros : ℤ) : Py Utc :=
  match Utc.ofMicros? micros with
  | some time => .ok time
  | none => .error (.other "OverflowError")

def maxAutoBuyAttemptsPerDay : ℕ := 5

def maxAutoSignalAttemptsPerDay : ℕ := 3

def autoRetryCooldown : ℤ := 5 * 60 * 1000000

namespace AutoStore

/-- The signals of the cycles with `started_at >= ? AND started_at < ?`. -/
def signalsStarted (store : AutoStore κ ι) (dayStart nextDay : Utc) : List (Option SignalId) :=
  (store.cycles.rows.filter fun row =>
    decide (dayStart.isoformat ≤ row.startedAt.isoformat) &&
      decide (row.startedAt.isoformat < nextDay.isoformat)).map AutoCycle.signalId

/-- `SELECT signal_id, COUNT(*) … GROUP BY signal_id`. -/
def attemptsBySignal (store : AutoStore κ ι) (dayStart nextDay : Utc) :
    List (Option SignalId × ℕ) :=
  let signals := store.signalsStarted dayStart nextDay
  signals.dedup.map fun signalId => (signalId, signals.count signalId)

/-- The body of the loop over the groups. -/
def deferSignal (nextDay : Utc) (store : AutoStore κ ι) (row : Option SignalId × ℕ) :
    AutoStore κ ι :=
  match row.1 with
  | none => store
  | some signalId =>
      if row.2 < maxAutoSignalAttemptsPerDay then store else store.setRetryAfter signalId nextDay

/-- `_enforce_attempt_limits`.  The New York day has no midnight in the range of
`datetime` on the first and on the last day of the calendar. -/
def enforceAttemptLimits (store : AutoStore κ ι) (current : Utc) :
    Py (AutoStore κ ι × Bool) := do
  let day := NewYork.date current
  let dayStart ← datetimeOf (NewYork.toUtc day 0)
  let nextDay ← datetimeOf (NewYork.toUtc (day + 1) 0)
  let rows := store.attemptsBySignal dayStart nextDay
  if maxAutoBuyAttemptsPerDay ≤ (rows.map Prod.snd).sum then return (store.quarantine, false)
  else return (rows.foldl (deferSignal nextDay) store, true)

/-- `_retry_allowed`. -/
def retryAllowed (store : AutoStore κ ι) (signalId : SignalId) (current : Utc) : Bool :=
  match store.retryAfter signalId with
  | .empty => true
  | .at time => decide (time ≤ current)
  | .malformed => false

/-- `_set_retry_cooldown`. -/
def setRetryCooldown (store : AutoStore κ ι) (signalId : SignalId) (current : Utc) :
    Py (AutoStore κ ι) := do
  let time ← datetimeOf (current.micros + autoRetryCooldown)
  return store.setRetryAfter signalId time

/-! ## `execute_one` -/

/-- Whether none of the conditions that end `execute_one` early holds. -/
def isClean (store : AutoStore κ ι) : Bool :=
  let settings := store.repo.system.settings
  settings.launchAuthorized && !settings.quarantine && !settings.operatorHaltLatched &&
    decide (settings.state = .running) &&
    decide (store.repo.system.operatorBuyHalt = some false) &&
    !store.repo.portfolioSafeMode && store.repo.openOrders.isEmpty

/-- `symbol_order.get(symbol, 99)`. -/
def symbolOrder : Symbol → ℕ
  | .allocation .qqq => 0
  | .allocation .tqqq => 1
  | .allocation .soxl => 2
  | .other _ => 99

/-- The signal `execute_one` attempts. -/
def nextSignal (service : TradingService κ ι) (store : AutoStore κ ι) (current : Utc) :
    Option ActiveSignal :=
  let signals := (service.activeSignals store).filter fun signal =>
    decide (signal.action = .coreRebalanceBuy) && store.retryAllowed signal.signalId current
  (signals.insertionSort fun first second =>
    symbolOrder first.symbol ≤ symbolOrder second.symbol).head?

variable [DecidableEq κ]

/-- `INSERT INTO jh_auto_cycles`, and the note of the last cycle. -/
def startCycle (store : AutoStore κ ι) (cycleId : κ) (signal : ActiveSignal) (current : Utc) :
    AutoStore κ ι × Py Unit :=
  let inserted := store.cycles.insertOrIgnore {
    cycleId := cycleId
    signalId := some signal.signalId
    symbol := signal.symbol
    status := .reviewing
    startedAt := current }
  if inserted.2 then
    ({ store with cycles := inserted.1, lastCycle := some cycleId }, .ok ())
  else (store, .error .integrity)

/-- The review and the execution of a signal. -/
def attempt (service : TradingService κ ι) (signalId : SignalId) (current : Utc)
    (store : AutoStore κ ι) : AutoStore κ ι × Py (OrderReceipt ι) :=
  match service.createReviewApproval signalId current store with
  | (store, .error error) => (store, .error error)
  | (store, .ok review) =>
      match service.consumeReview review current store with
      | (store, .error error) => (store, .error error)
      | (store, .ok none) => (store, .error (.runtime "자동 최종승인 토큰이 생성되지 않았습니다"))
      | (store, .ok (some execution)) =>
          if execution.token = "" then
            (store, .error (.runtime "자동 최종승인 토큰이 생성되지 않았습니다"))
          else service.execute execution current store

/-- The errors that leave the automation running. -/
def isHarmless (name : String) : Bool :=
  name = "ApprovalError" || name = "QuoteChangedError" || name = "IdleCashReleasePending"

/-- `except Exception` of `execute_one`, after the cooldown. -/
def recordError (store : AutoStore κ ι) (cycleId : κ) (now : Utc) (error : PyError) :
    Py (AutoStore κ ι) → AutoStore κ ι × Py Unit
  | .error overflow => (store, .error overflow)
  | .ok cooled =>
      let cooled := cooled.updateCycle cycleId (AutoCycle.failed now)
      (if isHarmless error.className then cooled else cooled.quarantine, .ok ())

/-- `except Exception` of `execute_one`. -/
def afterError (store : AutoStore κ ι) (cycleId : κ) (signalId : SignalId) (current now : Utc)
    (error : PyError) : AutoStore κ ι × Py Unit :=
  store.recordError cycleId now error (store.setRetryCooldown signalId current)

/-- The row and the flag `execute_one` writes for a receipt. -/
def recordReceipt (store : AutoStore κ ι) (cycleId : κ) (now : Utc) (receipt : OrderReceipt ι) :
    AutoStore κ ι :=
  let store := store.updateCycle cycleId (AutoCycle.executed now receipt)
  if 0 < receipt.filledQuantity ∧ 0 < store.repo.system.settings.rampStage then
    store.setSystem { store.repo.system with rampStageAutoFillSeen := some true }
  else store

/-- The cooldown after an order that was refused. -/
def coolRefused (store : AutoStore κ ι) (signalId : SignalId) (current : Utc)
    (receipt : OrderReceipt ι) : Py (AutoStore κ ι) :=
  if (CycleStatus.ofText receipt.status).isRefusal = true ∧
      receipt.filledQuantity < receipt.quantity then
    store.setRetryCooldown signalId current
  else .ok store

/-- The end of `execute_one`, after the cooldown. -/
def finishReceipt (store : AutoStore κ ι) (cycleId : κ) (signal : ActiveSignal) (now : Utc)
    (receipt : OrderReceipt ι) :
    Py (AutoStore κ ι) → AutoStore κ ι × Py (Option (AutoExecutionResult κ))
  | .error overflow => (store, .error overflow)
  | .ok cooled =>
      (cooled.recordReceipt cycleId now receipt, .ok (some {
        cycleId := cycleId
        signalId := signal.signalId
        symbol := signal.symbol
        status := CycleStatus.ofText receipt.status
        quantity := receipt.quantity
        filledQuantity := receipt.filledQuantity
        averageFillPrice := receipt.averageFillPrice }))

/-- The body of `execute_one` after the order was placed. -/
def afterReceipt (store : AutoStore κ ι) (cycleId : κ) (signal : ActiveSignal) (current now : Utc)
    (receipt : OrderReceipt ι) : AutoStore κ ι × Py (Option (AutoExecutionResult κ)) :=
  let store :=
    if CycleStatus.ofText receipt.status = .order .unknown then store.quarantine else store
  store.finishReceipt cycleId signal now receipt (store.coolRefused signal.signalId current receipt)

/-- `execute_one` once a signal is chosen. -/
def executeSignal (service : TradingService κ ι) (cycleId : κ) (signal : ActiveSignal)
    (current now : Utc) (store : AutoStore κ ι) :
    AutoStore κ ι × Py (Option (AutoExecutionResult κ)) :=
  match store.startCycle cycleId signal current with
  | (store, .error error) => (store, .error error)
  | (store, .ok ()) =>
      match attempt service signal.signalId current store with
      | (store, .error error) =>
          let after := store.afterError cycleId signal.signalId current now error
          (after.1, after.2.map fun _ => none)
      | (store, .ok receipt) => store.afterReceipt cycleId signal current now receipt

/-- `execute_one` after the limits. -/
def executeWithin (calendar : ExchangeCalendar) (service : TradingService κ ι) (cycleId : κ)
    (current now : Utc) (store : AutoStore κ ι) :
    Py (AutoStore κ ι × Bool) → AutoStore κ ι × Py (Option (AutoExecutionResult κ))
  | .error error => (store, .error error)
  | .ok (store, false) => (store, .ok none)
  | .ok (store, true) =>
      if store.isClean = false then (store, .ok none)
      else if calendar.classifySession current ≠ .regular then (store, .ok none)
      else if store.repo.system.targetQtyGeneration = none then (store, .ok none)
      else
        match store.nextSignal service current with
        | none => (store, .ok none)
        | some signal => executeSignal service cycleId signal current now store

/-- `execute_one`, with the id of its cycle and the time it ends. -/
def executeOne (calendar : ExchangeCalendar) (service : TradingService κ ι) (cycleId : κ)
    (current now : Utc) (store : AutoStore κ ι) :
    AutoStore κ ι × Py (Option (AutoExecutionResult κ)) :=
  executeWithin calendar service cycleId current now store (store.enforceAttemptLimits current)

end AutoStore

end JdHoldings

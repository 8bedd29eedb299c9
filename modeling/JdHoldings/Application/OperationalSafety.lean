import JdHoldings.Application.OrderManager

/-!
# The operator's circuit breaker

`OperatorSafetyService.halt` shuts BUY inside `BUY_EXECUTION_LOCK` and cancels what
is still open.  `resume` proves first, without the lock, that the account and the
ledger agree and that no SAFE_MODE is left, and opens BUY in a locked section that
looks at the open BUY orders and at SAFE_MODE once more.

Approvals, cash intents and the time stamp of the halt are not part of the model:
nothing here reads them.
-/

namespace JdHoldings

variable {τ ι : Type}

/-- `ReconciliationService.run` as one transaction: whether it found a mismatch. -/
abbrev ReconciliationRun (ι : Type) := Repository ι → Py (Repository ι × Bool)

/-- `_auto_enabled`. -/
def autoIsEnabled : Action τ ι Bool := do
  let enabled ← getSystemValue SystemState.autoEnabled
  return decide (enabled = some true)

/-- `set_system_value(OPERATOR_BUY_HALT_KEY, "1")` by a halt or a quarantine. -/
def shutBuy (self : τ) : Action τ ι Unit :=
  Proc.modify fun world =>
    (world.setRepo (world.repo.setSystem { world.repo.system with operatorBuyHalt := some true })
      ).record (.closed self)

/-- `set_system_value(OPERATOR_BUY_HALT_KEY, "0")` by a resume or a release. -/
def openBuy (self : τ) : Action τ ι Unit :=
  Proc.modify fun world =>
    (world.setRepo (world.repo.setSystem { world.repo.system with operatorBuyHalt := some false })
      ).record (.reopened self)

namespace OperatorSafetyService

/-- `_safe_mode_reasons`. -/
def safeModeReasons : Action τ ι (List String) := do
  let flag ← getSystemValue SystemState.portfolioSafeMode
  let tqqq ← readRepo fun repo => (repo.positions .tqqq).state
  let soxl ← readRepo fun repo => (repo.positions .soxl).state
  return (if flag = some true then ["V322_PORTFOLIO_SAFE_MODE"] else []) ++
    (if tqqq = .safeMode then ["TQQQ_SAFE_MODE"] else []) ++
    (if soxl = .safeMode then ["SOXL_SAFE_MODE"] else [])

/-- The open BUY orders, by side. -/
def openBuys [DecidableEq ι] : Action τ ι (List (OrderRow ι)) :=
  readRepo fun repo => repo.openOrders.filter fun order => decide (order.side = .buy)

/-! ## Halting -/

/-- One cancellation of `halt`; an exception leaves the order uncertain. -/
def cancelOpenBuy (self : τ) (order : OrderRow ι) : Action τ ι Unit :=
  match order.brokerOrderId with
  | none => return ()
  | some brokerOrderId =>
      tryCatchThe PyError
        (do
          let _ ← TossClient.cancelOrder self brokerOrderId
          let _ ← TossClient.getOrder brokerOrderId
          return ())
        fun _ => return ()

/-- The loop of `halt` over the open BUY orders. -/
def cancelOpenBuys (self : τ) : List (OrderRow ι) → Action τ ι Unit
  | [] => return ()
  | order :: rest => do
      cancelOpenBuy self order
      cancelOpenBuys self rest

/-- The body of `with BUY_EXECUTION_LOCK` in `halt`. -/
def haltSection [DecidableEq ι] (self : τ) : Action τ ι Unit := do
  shutBuy self
  let enabled ← autoIsEnabled
  Proc.when (enabled = true)
    (setSystemValue fun system => { system with operatorHaltLatched := some true })
  let orders ← openBuys
  cancelOpenBuys self orders

/-- `halt`. -/
def halt [DecidableEq ι] (self : τ) : Action τ ι Unit := do
  Proc.withLock (haltSection self)
  record (.returned self)

/-! ## Resuming -/

/-- What `_recover_clean_reconciliation_safe_mode` finds out about a symbol. -/
inductive Recovery where
  | running
  | blocked
  | recoverable
deriving DecidableEq

/-- `active_tp_plan(symbol) is not None`. -/
def activeTpPlan (symbol : EnabledSymbol) : Action τ ι Bool := Proc.ask (Query.activeTpPlan symbol)

def inspectSafeMode (symbol : EnabledSymbol) : Action τ ι Recovery := do
  let position ← readRepo fun repo => repo.positions symbol
  if position.state ≠ .safeMode then return .running
  else
    let planned ← activeTpPlan symbol
    return if position.quantity ≠ 0 ∨ planned = true then .blocked else .recoverable

def recoverPosition (symbol : EnabledSymbol) (recovery : Recovery) : Action τ ι Unit :=
  match recovery with
  | .recoverable => onRepo fun repo => repo.transitionPosition symbol .safeMode .empty
  | _ => return ()

/-- `_recover_clean_reconciliation_safe_mode`: what blocks it. -/
def recoverCleanReconciliationSafeMode : Action τ ι (List String) := do
  let tqqq ← inspectSafeMode .tqqq
  let soxl ← inspectSafeMode .soxl
  if tqqq = .blocked ∨ soxl = .blocked then
    return (if tqqq = .blocked then ["TQQQ_SAFE_MODE_ACTIVE_STATE"] else []) ++
      (if soxl = .blocked then ["SOXL_SAFE_MODE_ACTIVE_STATE"] else [])
  else
    recoverPosition .tqqq tqqq
    recoverPosition .soxl soxl
    let flag ← getSystemValue SystemState.portfolioSafeMode
    Proc.when (flag = some true)
      (setSystemValue fun system => { system with portfolioSafeMode := some false })
    return []

/-- The part of `resume` that runs without the lock and decides whether BUY may be
opened. -/
def proveClean [DecidableEq ι] (reconciliation : ReconciliationRun ι) : Action τ ι Unit := do
  let mismatches ← transact reconciliation
  Proc.raiseIf (mismatches = true)
    (.runtime "브로커/원장 정합성 오류가 남아 있어 BUY 차단을 해제할 수 없습니다")
  let blocked ← recoverCleanReconciliationSafeMode
  Proc.raiseIf (blocked ≠ [])
    (.runtime ("SAFE_MODE에 실제 보유/TP 상태가 남아 자동 복구할 수 없습니다 "
      ++ "(" ++ ", ".intercalate blocked ++ ")"))
  let reasons ← safeModeReasons
  Proc.raiseIf (reasons ≠ [])
    (.runtime ("SAFE_MODE가 남아 있어 BUY 차단을 해제할 수 없습니다 "
      ++ "(" ++ ", ".intercalate reasons ++ ")"))
  let openBuys ← openBuys
  Proc.raiseIf (openBuys.isEmpty = false)
    (.runtime "미체결 BUY 주문이 남아 있어 BUY 차단을 해제할 수 없습니다")

/-- The body of the last `with BUY_EXECUTION_LOCK` in `resume`. -/
def resumeSection [DecidableEq ι] (self : τ) : Action τ ι Unit := do
  let openBuys ← openBuys
  Proc.raiseIf (openBuys.isEmpty = false)
    (.runtime "BUY 차단 해제 직전에 새 미체결 BUY가 확인되었습니다")
  let reasons ← safeModeReasons
  Proc.raiseIf (reasons ≠ [])
    (.runtime ("BUY 차단 해제 직전에 SAFE_MODE가 확인되었습니다 "
      ++ "(" ++ ", ".intercalate reasons ++ ")"))
  openBuy self
  let enabled ← autoIsEnabled
  Proc.when (enabled = true)
    (setSystemValue fun system => { system with operatorHaltLatched := some false })

/-- `resume`. -/
def resume [DecidableEq ι] (self : τ) (reconciliation : ReconciliationRun ι) :
    Action τ ι Unit := do
  let halt ← getSystemValue SystemState.operatorBuyHalt
  let enabled ← autoIsEnabled
  let latch ← getSystemValue SystemState.operatorHaltLatched
  let safeBefore ← safeModeReasons
  if halt ≠ some true ∧ safeBefore = [] ∧ ¬(enabled = true ∧ latch = some true) then return ()
  else
    Proc.when (halt ≠ some true)
      (Proc.withLock (setSystemValue fun system => { system with operatorBuyHalt := some true }))
    proveClean reconciliation
    Proc.withLock (resumeSection self)

end OperatorSafetyService

end JdHoldings

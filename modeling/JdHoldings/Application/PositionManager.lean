import JdHoldings.Application.OperationalSafety
import JdHoldings.Library.Optimistic

/-!
# The direct positions

`transition_position` is the only statement that rewrites a row of `positions`.  It
takes the state and the version the caller has read, and raises when either is not
the current one.  Everything that calls it reads the row first; what a call wants to
write is a function of the row it has read and of its other data (`PositionCall`):

* `PositionManager.apply_buy_fill` and `apply_sell_fill` book fills,
* `OrderMonitor._restore_unfilled_buy` gives up a BUY that was not filled,
* `TradingService.execute` starts a submission, and takes it back when it fails or
  ends without a fill,
* `AnalysisService` arms the rebuy,
* six places enter SAFE_MODE, all in the same way,
* a resume of the operator leaves it.

The history of transitions, the review level and the table of take-profit plans are
not part of the model; the plan a sell fill is booked on is an argument.
-/

namespace JdHoldings

/-! ## Rows and transitions -/

abbrev CycleId := ℕ

abbrev TpPlanId := ℕ

/-- A row of `positions`, without the version. -/
structure PositionRow where
  state : PositionState := .empty
  cycleId : Option CycleId := none
  quantity : ℕ := 0
  averagePrice : Decimal := 0
  currentCostBasis : Decimal := 0
  cycleExposureCap : Decimal := 0
  stagedEntryCapital : Decimal := 0
  cashRemaining : Decimal := 0
  entryCount : ℕ := 0
  anchorPrice : Decimal := 0
  lastEntryPrice : Decimal := 0
  lastEntryDate : Option Date := none
  rebuyCount : ℕ := 0
  rebuyRecoveryArmed : Bool := false
  tp1FilledQty : ℕ := 0
  tpPlanId : Option TpPlanId := none
deriving DecidableEq, Repr

/-- The columns the ledger reads. -/
def PositionRow.snapshot (row : PositionRow) : PositionSnapshot where
  state := row.state
  quantity := row.quantity
  currentCostBasis := row.currentCostBasis

/-- The arguments of `transition_position` besides the version.  `updates` writes the
other columns. -/
structure Transition where
  expectedState : PositionState
  newState : PositionState
  updates : PositionRow → PositionRow := id

/-- `transition_position`. -/
def transitionPosition (transition : Transition) (expectedVersion : ℕ)
    (current : Versioned PositionRow) : Py (Versioned PositionRow) :=
  if current.value.state ≠ transition.expectedState then
    .error (.stateConflict
      ("상태 충돌: expected=" ++ transition.expectedState.text ++ ", actual="
        ++ current.value.state.text))
  else if current.version ≠ expectedVersion then
    .error (.stateConflict "position version 충돌")
  else
    .ok {
      value := { transition.updates current.value with state := transition.newState }
      version := current.version + 1 }

/-! ## The tables -/

inductive DecisionType where
  | noAction
  | firstEntryCandidate
  | addEntryCandidate
  | rebuyCandidate
  | riskReview
  | coreRebalanceBuy
deriving DecidableEq, Repr

/-- The leg of a position an action and its stage stand for, the keys of the three
tables by action and stage. -/
inductive EntryLeg where
  | entry (stage : Fin 4)
  | rebuy
deriving DecidableEq, Repr

/-- A missing key raises. -/
def entryLeg : DecisionType → Option ℕ → Py EntryLeg
  | .firstEntryCandidate, some 1 => .ok (.entry 0)
  | .addEntryCandidate, some 2 => .ok (.entry 1)
  | .addEntryCandidate, some 3 => .ok (.entry 2)
  | .addEntryCandidate, some 4 => .ok (.entry 3)
  | .rebuyCandidate, none => .ok .rebuy
  | _, _ => .error .key

/-- `BASE_STATE_BY_ACTION_STAGE`. -/
def baseStateByActionStage : EntryLeg → PositionState
  | .entry 0 => .empty
  | .entry 1 => .holding 0
  | .entry 2 => .holding 1
  | .entry 3 => .holding 2
  | .rebuy => .partialTp1

/-- `WAITING_FILL_BY_ACTION_STAGE`. -/
def waitingFillByActionStage : EntryLeg → PositionState
  | .entry stage => .waitingFill stage
  | .rebuy => .waitingRebuyFill

/-- `HOLDING_BY_ACTION_STAGE`. -/
def holdingByActionStage : EntryLeg → PositionState
  | .entry stage => .holding stage
  | .rebuy => .holdingRebuy

/-- `BASE_STATE_BY_PURPOSE`. -/
def baseStateByPurpose : Purpose → Option PositionState
  | .entry 0 => some .empty
  | .entry 1 => some (.holding 0)
  | .entry 2 => some (.holding 1)
  | .entry 3 => some (.holding 2)
  | .rebuy => some .partialTp1
  | _ => none

theorem baseStateByActionStage_ne_safeMode (leg : EntryLeg) :
    baseStateByActionStage leg ≠ .safeMode := by
  unfold baseStateByActionStage
  split <;> simp

theorem baseStateByPurpose_ne_safeMode {purpose : Purpose} {base : PositionState}
    (hbase : baseStateByPurpose purpose = some base) : base ≠ .safeMode := by
  rintro rfl
  unfold baseStateByPurpose at hbase
  split at hbase <;> simp at hbase

theorem waitingFillByActionStage_ne_safeMode (leg : EntryLeg) :
    waitingFillByActionStage leg ≠ .safeMode := by
  cases leg with
  | entry stage =>
      intro h
      cases h
  | rebuy =>
      intro h
      cases h

/-! ## Booking fills -/

/-- The text stored in `orders.purpose`. -/
def Purpose.text : Purpose → String
  | .entry stage => "ENTRY_" ++ toString (stage.val + 1)
  | .rebuy => "REBUY"
  | .tp1 => "TP1"
  | .tp2 => "TP2"
  | .remainderExit => "REMAINDER_EXIT"
  | .coreRebalanceBuy => "CORE_REBALANCE_BUY"
  | .coreRebalanceSell => "CORE_REBALANCE_SELL"
  | .sgovSweepBuy => "SGOV_SWEEP_BUY"
  | .sgovEntryRelease => "SGOV_ENTRY_RELEASE"

/-- What the position services read of a row of `orders`. -/
structure DirectOrder where
  purpose : Purpose
  status : OrderStatus
  qty : ℕ
  filledQty : ℕ
  averageFillPrice : Option Decimal
  applied : Bool
deriving DecidableEq, Repr

/-- What `apply_buy_fill` reads of the signal behind an order. -/
structure EntrySignal where
  action : DecisionType
  targetStage : Option ℕ
  tradeDate : Date
  cycleExposureCap : Decimal
deriving DecidableEq, Repr

/-- The ids a booked BUY writes: a new cycle, and the plan it creates. -/
structure FreshIds where
  cycleId : CycleId
  tpPlanId : TpPlanId
deriving DecidableEq, Repr

/-- A row of `tp_plans`, as far as `apply_sell_fill` reads it. -/
structure TpPlan where
  tp1TargetQty : ℕ
  tp1FilledQty : ℕ
  tp2TargetQty : ℕ
  tp2FilledQty : ℕ
deriving DecidableEq, Repr

/-- `TP1` and `TP2`; a remainder exit counts on `TP2`. -/
inductive TpLeg where
  | tp1
  | tp2
deriving DecidableEq, Repr

def TpPlan.targetQty (plan : TpPlan) : TpLeg → ℕ
  | .tp1 => plan.tp1TargetQty
  | .tp2 => plan.tp2TargetQty

def TpPlan.filledQty (plan : TpPlan) : TpLeg → ℕ
  | .tp1 => plan.tp1FilledQty
  | .tp2 => plan.tp2FilledQty

namespace PositionManager

/-- `new_average`. -/
def newAverage (order : DirectOrder) (fillPrice : Decimal) (position : PositionRow) : Decimal :=
  (position.averagePrice * position.quantity + fillPrice * order.filledQty) /
    (position.quantity + order.filledQty : ℕ)

/-- The columns `apply_buy_fill` writes. -/
def buyFillUpdates (config : StrategyConfig) (capitalPerSymbol : Decimal) (order : DirectOrder)
    (fillPrice : Decimal) (signal : EntrySignal) (leg : EntryLeg) (fresh : FreshIds)
    (position : PositionRow) : PositionRow :=
  let newQty := position.quantity + order.filledQty
  let average := newAverage order fillPrice position
  let currentCost := average * newQty
  let gross := fillPrice * order.filledQty * (1 + config.buyFee)
  { position with
    cycleId := if leg = .entry 0 then some fresh.cycleId else position.cycleId
    quantity := newQty
    averagePrice := average
    currentCostBasis := currentCost
    cycleExposureCap := signal.cycleExposureCap
    stagedEntryCapital :=
      match leg with
      | .entry 0 => gross
      | .entry _ => position.stagedEntryCapital + gross
      | .rebuy => position.stagedEntryCapital
    cashRemaining := max 0 (capitalPerSymbol - currentCost)
    entryCount :=
      match leg with
      | .entry stage => stage + 1
      | .rebuy => position.entryCount
    anchorPrice := if leg = .entry 0 then fillPrice else position.anchorPrice
    lastEntryPrice := fillPrice
    lastEntryDate := some signal.tradeDate
    rebuyCount := if leg = .rebuy then position.rebuyCount + 1 else position.rebuyCount
    rebuyRecoveryArmed := false
    tp1FilledQty := 0
    tpPlanId := some fresh.tpPlanId }

/-- `apply_buy_fill`: the transition it asks for, if any.  `calculate_take_profit`
raises on an average that is not positive. -/
def applyBuyFill (config : StrategyConfig) (capitalPerSymbol : Decimal) (order : DirectOrder)
    (signal : EntrySignal) (fresh : FreshIds) (position : PositionRow) : Py (Option Transition) :=
  match order.averageFillPrice with
  | none => .ok none
  | some fillPrice =>
      if order.applied = true ∨ order.filledQty = 0 then .ok none
      else do
        let leg ← entryLeg signal.action signal.targetStage
        raiseIf (position.state ≠ waitingFillByActionStage leg)
          (.runtime ("매수 체결 반영 상태 불일치: " ++ position.state.text ++ " != "
            ++ (waitingFillByActionStage leg).text))
        raiseIf (newAverage order fillPrice position ≤ 0) (.value "평단은 양수여야 합니다")
        return some {
          expectedState := waitingFillByActionStage leg
          newState := holdingByActionStage leg
          updates := fun _ =>
            buyFillUpdates config capitalPerSymbol order fillPrice signal leg fresh position }

/-- The leg of the plan a sell order counts on. -/
def tpLeg : Purpose → Option TpLeg
  | .tp1 => some .tp1
  | .tp2 | .remainderExit => some .tp2
  | _ => none

/-- `leg_filled`. -/
def legFilled (order : DirectOrder) (plan : TpPlan) (leg : TpLeg) : ℕ :=
  min (plan.targetQty leg) ((plan.targetQty leg - order.qty) + order.filledQty)

/-- What a booked sell fill writes: the fills of the plan, the transition, whether the
plan ends and whether the order is done. -/
structure SellBooking where
  leg : TpLeg
  legFilled : ℕ
  transition : Transition
  deactivatesPlan : Bool
  marksApplied : Bool

/-- The columns `apply_sell_fill` writes on a position that keeps shares. -/
def sellFillUpdates (quantity : ℕ) (average : Decimal) (row : PositionRow) : PositionRow :=
  { row with
    quantity := quantity
    averagePrice := average
    currentCostBasis := average * quantity }

/-- The columns `apply_sell_fill` writes when TP1 is complete. -/
def tp1Updates (capitalPerSymbol : Decimal) (quantity filled : ℕ) (average : Decimal)
    (row : PositionRow) : PositionRow :=
  { sellFillUpdates quantity average row with
    cashRemaining := max 0 (capitalPerSymbol - average * quantity)
    tp1FilledQty := filled
    rebuyRecoveryArmed := false }

/-- The transition of `apply_sell_fill`, on the row it has read. -/
def sellTransition (capitalPerSymbol : Decimal) (order : DirectOrder) (plan : TpPlan) (leg : TpLeg)
    (position : PositionRow) : Transition :=
  let filled := legFilled order plan leg
  let quantity := position.quantity - (filled - plan.filledQty leg)
  let average := if 0 < quantity then position.averagePrice else 0
  if order.purpose = .tp1 ∧ filled < plan.targetQty leg then
    { expectedState := position.state
      newState := position.state
      updates := sellFillUpdates quantity average }
  else if quantity = 0 then
    { expectedState := position.state
      newState := .empty
      updates := fun _ => { cashRemaining := capitalPerSymbol } }
  else if order.purpose = .tp1 then
    { expectedState := position.state
      newState := .partialTp1
      updates := tp1Updates capitalPerSymbol quantity filled average }
  else
    { expectedState := position.state
      newState := position.state
      updates := sellFillUpdates quantity average }

/-- `apply_sell_fill`: what it books, if anything. -/
def applySellFill (capitalPerSymbol : Decimal) (order : DirectOrder) (plan : Option TpPlan)
    (position : PositionRow) : Py (Option SellBooking) :=
  if order.applied = true ∨ order.filledQty = 0 then .ok none
  else
    match plan with
    | none => .error (.runtime "활성 TP 계획이 없습니다")
    | some plan =>
        match tpLeg order.purpose with
        | none => .error (.runtime ("지원하지 않는 익절 주문입니다: " ++ order.purpose.text))
        | some leg => do
            let filled := legFilled order plan leg
            raiseIf (filled < plan.filledQty leg)
              (.runtime "익절 누적 체결수량이 이전 반영값보다 작습니다")
            raiseIf (position.quantity < filled - plan.filledQty leg)
              (.runtime "부스터 보유수량보다 많은 익절 체결입니다")
            return some {
              leg := leg
              legFilled := filled
              transition := sellTransition capitalPerSymbol order plan leg position
              deactivatesPlan :=
                decide (position.quantity = filled - plan.filledQty leg) &&
                  !(decide (order.purpose = .tp1) && decide (filled < plan.targetQty leg))
              marksApplied := order.status.isTerminal }

end PositionManager

/-! ## The calls -/

/-- A place that calls `transition_position`, with what it reads besides the position. -/
inductive PositionCall where
  /-- `PositionManager.apply_buy_fill`. -/
  | applyBuyFill (order : DirectOrder) (signal : EntrySignal) (fresh : FreshIds)
  /-- `PositionManager.apply_sell_fill`. -/
  | applySellFill (order : DirectOrder) (plan : Option TpPlan)
  /-- `OrderMonitor._restore_unfilled_buy`. -/
  | restoreUnfilledBuy (purpose : Purpose)
  /-- `TradingService.execute`, before the submission. -/
  | submissionStarted (leg : EntryLeg)
  /-- `TradingService.execute`, when `submit` has raised: the stored status. -/
  | submissionFailed (leg : EntryLeg) (stored : Option OrderStatus)
  /-- `TradingService.execute`, when `submit` has returned a receipt. -/
  | orderNotFilled (leg : EntryLeg) (status : StatusText) (filledQuantity : ℤ)
  /-- `AnalysisService`: what `evaluate_rebuy_recovery` says. -/
  | armRebuy (recovered : Bool)
  /-- `_enter_symbol_safe_mode` of the order monitor, the allocation and the portfolio
  service, `_enter_allocation_safe_mode`, and the same statements in
  `_handle_missing_broker_order` and in `ReconciliationService.run`. -/
  | enterSafeMode
  /-- `_recover_clean_reconciliation_safe_mode`. -/
  | recoverSafeMode
deriving DecidableEq

namespace PositionCall

variable (config : StrategyConfig) (capitalPerSymbol : Decimal)

/-- The transition a call asks for on the row it has read. -/
def transition (position : PositionRow) : PositionCall → Py (Option Transition)
  | .applyBuyFill order signal fresh =>
      PositionManager.applyBuyFill config capitalPerSymbol order signal fresh position
  | .applySellFill order plan =>
      (PositionManager.applySellFill capitalPerSymbol order plan position).map
        (Option.map PositionManager.SellBooking.transition)
  | .restoreUnfilledBuy purpose =>
      match baseStateByPurpose purpose with
      | none => .error .key
      | some base => .ok (some { expectedState := position.state, newState := base })
  | .submissionStarted leg =>
      if position.state ≠ baseStateByActionStage leg then
        .error (.runtime "승인 후 포지션 상태가 변경되었습니다")
      else
        .ok (some {
          expectedState := baseStateByActionStage leg
          newState := waitingFillByActionStage leg })
  | .submissionFailed leg stored =>
      if stored = none ∨ stored = some .rejected then
        .ok (some { expectedState := position.state, newState := baseStateByActionStage leg })
      else .ok none
  | .orderNotFilled leg status filledQuantity =>
      if (status = .exact .rejected ∨ status = .exact .canceled) ∧ filledQuantity = 0 then
        .ok (some { expectedState := position.state, newState := baseStateByActionStage leg })
      else .ok none
  | .armRebuy recovered =>
      if position.state = .partialTp1 ∧ position.rebuyRecoveryArmed = false ∧ recovered = true then
        .ok (some {
          expectedState := position.state
          newState := position.state
          updates := fun row => { row with rebuyRecoveryArmed := true } })
      else .ok none
  | .enterSafeMode =>
      if position.state = .safeMode then .ok none
      else .ok (some { expectedState := position.state, newState := .safeMode })
  | .recoverSafeMode => .ok (some { expectedState := .safeMode, newState := .empty })

/-- What a call writes over the row it has read. -/
def write : Optimistic.Write PositionRow PositionCall := fun call seen current =>
  match call.transition config capitalPerSymbol seen.value with
  | .ok (some transition) => (transitionPosition transition seen.version current).toOption
  | _ => none

end PositionCall

end JdHoldings

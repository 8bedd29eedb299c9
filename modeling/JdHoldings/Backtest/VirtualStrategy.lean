import JdHoldings.Application.PositionManager
import JdHoldings.Core.Execution
import JdHoldings.Core.Replay
import JdHoldings.Library.Quantize

/-!
# The virtual strategy

The pure decisions of the strategy whose cycles the overlay follows: regime, exposure,
stage budgets, the guards, entry, additional entry and rebuy, the take-profit plan, and
the price ceiling and quantity of an execution.

Floats are exact here, and so are quotients of decimals, which the source cuts to 28 digits.
-/

namespace JdHoldings

/-! ## Vocabulary -/

inductive MarketRegime where
  | green
  | yellow
  | red
deriving DecidableEq, Repr

/-- The text of a `DecisionType`. -/
def DecisionType.text : DecisionType → String
  | .noAction => "NO_ACTION"
  | .firstEntryCandidate => "FIRST_ENTRY_CANDIDATE"
  | .addEntryCandidate => "ADD_ENTRY_CANDIDATE"
  | .rebuyCandidate => "REBUY_CANDIDATE"
  | .riskReview => "RISK_REVIEW"
  | .coreRebalanceBuy => "CORE_REBALANCE_BUY"

/-- `IndicatorSnapshot`, without the volume and the range nothing reads. -/
structure IndicatorSnapshot where
  symbol : String
  tradeDate : Session
  open_ : Decimal
  high : Decimal
  low : Decimal
  close : Decimal
  previousClose : Decimal
  cci5 : Decimal
  cci10 : Decimal
  rsi5 : Decimal
  rsi14 : Decimal
  ema5 : Decimal
  ema20 : Decimal
  ema60 : Decimal
  bbLower : Decimal
  atrPct : Decimal
  volumeRatio : Decimal
  closePosition : Decimal
deriving DecidableEq

/-- `ScoreResult`, without its report. -/
structure ScoreResult where
  total : ℕ
  reversalScore : ℕ
  regime : MarketRegime
deriving DecidableEq, Repr

/-- `PositionSnapshot`, without the fields no decision reads. -/
structure VirtualPosition where
  state : PositionState
  averagePrice : Decimal
  currentCostBasis : Decimal
  cycleExposureCap : Decimal
  stagedEntryCapital : Decimal
  anchorPrice : Decimal
  rebuyCount : ℕ
  rebuyRecoveryArmed : Bool
  tp1FilledQty : ℕ
deriving DecidableEq, Repr

/-- `TradeDecision`. -/
structure TradeDecision where
  action : DecisionType
  allowed : Bool
  reasonCodes : List String
  targetStage : Option ℕ := none
  cycleExposureCap : Decimal := 0
  targetCumulativeCapital : Decimal := 0
  plannedBudget : Decimal := 0
  stageTriggerPrice : Option Decimal := none
deriving DecidableEq, Repr

/-- `TakeProfitPlan`, without the rates it was computed from. -/
structure TakeProfitPlan where
  tp1Price : Decimal
  tp2Price : Decimal
  tp1Quantity : ℕ
  tp2Quantity : ℕ
deriving DecidableEq, Repr

/-- `StageRule`. -/
structure StageRule where
  minDropFromAnchor : Decimal
  minScore : ℕ
deriving DecidableEq, Repr

/-- `TakeProfitConfig`. -/
structure TakeProfitConfig where
  tp1Base : Decimal
  tp1Fraction : Decimal
  tp2Base : Decimal
  useAtr : Bool
  tp1AtrMultiplier : Decimal
  tp2AtrMultiplier : Decimal
deriving DecidableEq, Repr

/-- `RebuyConfig`; `anyMode` says that a condition group asks for one of its three. -/
structure RebuyConfig where
  enabled : Bool
  minimumScore : ℕ
  minimumReversalScore : ℕ
  minDropFromAvg : Decimal
  maxRebuyPerCycle : ℕ
  cci5Gt : Decimal
  rsi5Gte : Decimal
  closeAboveEma5 : Bool
  recoveryAnyMode : Bool
  cci5Lte : Decimal
  rsi5Lte : Decimal
  closeBelowLowerBand : Bool
  reoversoldAnyMode : Bool
deriving DecidableEq, Repr

/-- `market_regime.soxl_sector_guard`. -/
structure SectorGuard where
  enabled : Bool
  benchmarkCandidates : List String
  blockedStages : List ℕ
  allBelowRule : Bool
deriving DecidableEq, Repr

/-- `market_regime.first_entry_trend_guard`. -/
structure TrendGuard where
  enabled : Bool
  symbols : List String
  ema20Rule : Bool
deriving DecidableEq, Repr

/-- The part of `StrategyConfig` the engine reads. -/
structure VirtualConfig where
  capitalPerSymbol : Decimal
  buyFee : Decimal
  sellFee : Decimal
  stopLossEnabled : Bool
  entryScore : ℕ
  minimumReversalScore : ℕ
  entryMaxChasePct : Decimal
  score82To87 : Decimal
  score88To91 : Decimal
  score92To100 : Decimal
  allowCapIncrease : Bool
  cumulativeWeights : List Decimal
  /-- `additional_entry.stages`, in ascending order. -/
  stages : List (ℕ × StageRule)
  takeProfit : TakeProfitConfig
  rebuy : RebuyConfig
  soxlSectorGuard : SectorGuard
  firstEntryTrendGuard : TrendGuard
  idleCashEnabled : Bool
  cashBuffer : Decimal
  enabledSymbols : ℕ
deriving DecidableEq, Repr

/-- The values of the repository's own `strategy.yaml`. -/
def VirtualConfig.strategyYaml : VirtualConfig where
  capitalPerSymbol := 20000
  buyFee := 1 / 1000
  sellFee := 1 / 1000
  stopLossEnabled := false
  entryScore := 55
  minimumReversalScore := 5
  entryMaxChasePct := 5 / 100
  score82To87 := 1
  score88To91 := 1
  score92To100 := 1
  allowCapIncrease := true
  cumulativeWeights := [4 / 10, 7 / 10, 9 / 10]
  stages := [(2, ⟨2 / 100, 55⟩), (3, ⟨5 / 100, 55⟩)]
  takeProfit := {
    tp1Base := 4 / 100
    tp1Fraction := 3 / 10
    tp2Base := 10 / 100
    useAtr := false
    tp1AtrMultiplier := 0
    tp2AtrMultiplier := 0 }
  rebuy := {
    enabled := false
    minimumScore := 82
    minimumReversalScore := 5
    minDropFromAvg := 2 / 100
    maxRebuyPerCycle := 1
    cci5Gt := -100
    rsi5Gte := 35
    closeAboveEma5 := true
    recoveryAnyMode := true
    cci5Lte := -150
    rsi5Lte := 25
    closeBelowLowerBand := true
    reoversoldAnyMode := true }
  soxlSectorGuard := {
    enabled := true
    benchmarkCandidates := ["SOXX", "SMH"]
    blockedStages := [1, 3]
    allBelowRule := false }
  firstEntryTrendGuard := {
    enabled := false
    symbols := ["TQQQ", "SOXL"]
    ema20Rule := false }
  idleCashEnabled := false
  cashBuffer := 0
  enabledSymbols := 2

/-! ## Regime, exposure and budgets -/

/-- `evaluate_regime`. -/
def evaluateRegime (spy qqq : IndicatorSnapshot) : Py MarketRegime :=
  if spy.tradeDate ≠ qqq.tradeDate then
    .error (.value "SPY와 QQQ의 최신 거래일이 다릅니다")
  else if spy.ema60 < spy.close ∧ qqq.ema60 < qqq.close ∧ spy.ema60 < spy.ema20
      ∧ qqq.ema60 < qqq.ema20 then .ok .green
  else if spy.close < spy.ema60 ∧ qqq.close < qqq.ema60 then .ok .red
  else .ok .yellow

/-- `value.quantize(Decimal("0.01"))`. -/
def quantizeCents (value : Decimal) : Decimal := Quantize.halfEven (1 / 100) value

/-- `value.quantize(Decimal("0.0001"))`. -/
def quantizePrice (value : Decimal) : Decimal := Quantize.halfEven (1 / 10000) value

/-- `score_to_exposure`. -/
def scoreToExposure (config : VirtualConfig) (score : ℕ) : Decimal :=
  if 92 ≤ score then quantizeCents (config.capitalPerSymbol * config.score92To100)
  else if 88 ≤ score then quantizeCents (config.capitalPerSymbol * config.score88To91)
  else if config.entryScore ≤ score then
    quantizeCents (config.capitalPerSymbol * config.score82To87)
  else 0

/-- `update_cycle_exposure_cap`. -/
def updateCycleExposureCap (config : VirtualConfig) (previousCap : Decimal) (score : ℕ) :
    Decimal :=
  let proposed := scoreToExposure config score
  if previousCap ≤ 0 then proposed
  else if config.allowCapIncrease then min config.capitalPerSymbol (max previousCap proposed)
  else previousCap

/-- `calculate_stage_budget`. -/
def calculateStageBudget (config : VirtualConfig) (cycleExposureCap : Decimal)
    (targetStage : ℕ) (stagedEntryCapital : Decimal) : Py (Decimal × Decimal) :=
  if targetStage = 0 then .error (.value s!"지원하지 않는 매수 단계: {targetStage}")
  else match config.cumulativeWeights[targetStage - 1]? with
    | none => .error (.value s!"지원하지 않는 매수 단계: {targetStage}")
    | some weight =>
        let target := quantizeCents (cycleExposureCap * weight)
        .ok (target, quantizeCents (max 0 (target - stagedEntryCapital)))

/-! ## Guards and eligibility -/

/-- `soxl_sector_guard_blocks`. -/
def soxlSectorGuardBlocks (config : VirtualConfig) (symbol : String) (targetStage : ℕ)
    (sectorBenchmarks : Option (List (String × IndicatorSnapshot))) : Bool :=
  let guardConfig := config.soxlSectorGuard
  if symbol ≠ "SOXL" ∨ guardConfig.enabled = false then false
  else if targetStage ∉ guardConfig.blockedStages then false
  else
    let benchmarks := sectorBenchmarks.getD []
    let available := guardConfig.benchmarkCandidates.filterMap fun name =>
      (benchmarks.find? fun entry => entry.1 = name).map Prod.snd
    let below := available.map fun snapshot => decide (snapshot.close < snapshot.ema60)
    if available.isEmpty then false
    else if guardConfig.allBelowRule then below.all id
    else below.any id

/-- `first_entry_trend_guard_blocks`. -/
def firstEntryTrendGuardBlocks (config : VirtualConfig) (snapshot : IndicatorSnapshot) : Bool :=
  let guardConfig := config.firstEntryTrendGuard
  if guardConfig.enabled = false ∨ snapshot.symbol ∉ guardConfig.symbols then false
  else
    let emaBearish := decide (snapshot.ema20 < snapshot.ema60)
    if guardConfig.ema20Rule then emaBearish
    else decide (snapshot.close < snapshot.ema60) && emaBearish

/-- The reason codes of `evaluate_eligibility`, whose data and system flags the engine
leaves at their defaults. -/
def evaluateEligibility (config : VirtualConfig) (state : PositionState)
    (allowedStates : List PositionState) (score : ScoreResult)
    (requiredScore minimumReversalScore : ℕ) (availableCapital : Decimal) : List String :=
  (if state = .safeMode then ["SAFE_MODE_BLOCK"]
    else if state ∉ allowedStates then ["STATE_NOT_ELIGIBLE"] else [])
  ++ (if score.regime = .red then ["REGIME_RED_BLOCK"] else [])
  ++ (if score.total < requiredScore then ["ENTRY_SCORE_FAIL"] else [])
  ++ (if score.reversalScore < minimumReversalScore then ["REVERSAL_GATE_FAIL"] else [])
  ++ (if availableCapital ≤ 0 then ["EXPOSURE_LIMIT"] else [])
  ++ (if config.stopLossEnabled then ["CONFIG_SAFETY_FAILURE"] else [])

/-! ## Decisions -/

/-- `tuple(reasons) or (passed,)`. -/
def reasonsOr (reasons : List String) (passed : String) : List String :=
  if reasons.isEmpty then [passed] else reasons

/-- `evaluate_entry`. -/
def evaluateEntry (config : VirtualConfig) (snapshot : IndicatorSnapshot) (score : ScoreResult)
    (position : VirtualPosition)
    (sectorBenchmarks : Option (List (String × IndicatorSnapshot))) : Py TradeDecision := do
  let cycleCap := scoreToExposure config score.total
  let (target, budget) ← calculateStageBudget config cycleCap 1 0
  let reasons := evaluateEligibility config position.state [.empty] score config.entryScore
      config.minimumReversalScore budget
    ++ (if soxlSectorGuardBlocks config snapshot.symbol 1 sectorBenchmarks then
      ["SOXL_SECTOR_GUARD"] else [])
    ++ (if firstEntryTrendGuardBlocks config snapshot then ["FIRST_ENTRY_TREND_GUARD"] else [])
  return {
    action := if reasons.isEmpty then .firstEntryCandidate else .noAction
    allowed := reasons.isEmpty
    reasonCodes := reasonsOr reasons "ENTRY_SCORE_PASS"
    targetStage := if reasons.isEmpty then some 1 else none
    cycleExposureCap := cycleCap
    targetCumulativeCapital := target
    plannedBudget := budget
  }

/-- `expected_holding_state`. -/
def expectedHoldingState : ℕ → Py PositionState
  | 1 => .ok (.holding 0)
  | 2 => .ok (.holding 1)
  | 3 => .ok (.holding 2)
  | 4 => .ok (.holding 3)
  | _ => .error .key

/-- `evaluate_additional_entry`, for a stage the configuration has. -/
def evaluateAdditionalEntry (config : VirtualConfig) (snapshot : IndicatorSnapshot)
    (score : ScoreResult) (position : VirtualPosition) (targetStage : ℕ) (rule : StageRule)
    (sectorBenchmarks : Option (List (String × IndicatorSnapshot))) : Py TradeDecision := do
  let trigger := position.anchorPrice * (1 - rule.minDropFromAnchor)
  let newCap := updateCycleExposureCap config position.cycleExposureCap score.total
  let (target, budget) ← calculateStageBudget config newCap targetStage
    position.stagedEntryCapital
  let held ← expectedHoldingState (targetStage - 1)
  let reasons := evaluateEligibility config position.state [held] score rule.minScore
      config.minimumReversalScore budget
    ++ (if position.anchorPrice ≤ 0 then ["ANCHOR_MISSING"]
      else if trigger < snapshot.close then ["STAGE_TRIGGER_NOT_MET"] else [])
    ++ (if soxlSectorGuardBlocks config snapshot.symbol targetStage sectorBenchmarks then
      ["SOXL_SECTOR_GUARD"] else [])
  return {
    action := if reasons.isEmpty then .addEntryCandidate else .noAction
    allowed := reasons.isEmpty
    reasonCodes := reasonsOr reasons "ADDITIONAL_ENTRY_PASS"
    targetStage := if reasons.isEmpty then some targetStage else none
    cycleExposureCap := newCap
    targetCumulativeCapital := target
    plannedBudget := budget
    stageTriggerPrice := some (quantizePrice trigger)
  }

/-- `any(conditions) if mode == "any" else all(conditions)`. -/
def conditionGroup (anyMode : Bool) (conditions : List Bool) : Bool :=
  if anyMode then conditions.any id else conditions.all id

/-- `evaluate_rebuy_recovery`. -/
def evaluateRebuyRecovery (config : VirtualConfig) (snapshot : IndicatorSnapshot) : Bool :=
  conditionGroup config.rebuy.recoveryAnyMode
    [decide (config.rebuy.cci5Gt < snapshot.cci5), decide (config.rebuy.rsi5Gte ≤ snapshot.rsi5),
      config.rebuy.closeAboveEma5 && decide (snapshot.ema5 < snapshot.close)]

/-- `evaluate_reoversold`. -/
def evaluateReoversold (config : VirtualConfig) (snapshot : IndicatorSnapshot) : Bool :=
  conditionGroup config.rebuy.reoversoldAnyMode
    [decide (snapshot.cci5 ≤ config.rebuy.cci5Lte), decide (snapshot.rsi5 ≤ config.rebuy.rsi5Lte),
      config.rebuy.closeBelowLowerBand && decide (snapshot.close ≤ snapshot.bbLower)]

/-- `evaluate_rebuy`. -/
def evaluateRebuy (config : VirtualConfig) (snapshot : IndicatorSnapshot) (score : ScoreResult)
    (position : VirtualPosition) : TradeDecision :=
  let availableCapital := max 0 (position.cycleExposureCap - position.currentCostBasis)
  let trigger := position.averagePrice * (1 - config.rebuy.minDropFromAvg)
  let requested := (position.tp1FilledQty : Decimal) * snapshot.close * (1 + config.buyFee)
  let budget := quantizeCents (min availableCapital requested)
  let reasons := evaluateEligibility config position.state [.partialTp1] score
      config.rebuy.minimumScore config.rebuy.minimumReversalScore availableCapital
    ++ (if config.rebuy.enabled then [] else ["REBUY_DISABLED"])
    ++ (if config.rebuy.maxRebuyPerCycle ≤ position.rebuyCount then ["REBUY_ALREADY_USED"]
      else [])
    ++ (if position.rebuyRecoveryArmed then [] else ["REBUY_RECOVERY_NOT_ARMED"])
    ++ (if evaluateReoversold config snapshot then [] else ["REOVERSOLD_NOT_MET"])
    ++ (if trigger < snapshot.close then ["REBUY_PRICE_NOT_MET"] else [])
    ++ (if budget ≤ 0 then ["EXPOSURE_LIMIT"] else [])
  { action := if reasons.isEmpty then .rebuyCandidate else .noAction
    allowed := reasons.isEmpty
    reasonCodes := reasonsOr reasons "REBUY_PASS"
    cycleExposureCap := position.cycleExposureCap
    targetCumulativeCapital := position.cycleExposureCap
    plannedBudget := budget
    stageTriggerPrice := some (quantizePrice trigger) }

/-- The first configured stage whose predecessor the position holds. -/
def matchingStage (state : PositionState) : List (ℕ × StageRule) → Py (Option (ℕ × StageRule))
  | [] => .ok none
  | (stage, rule) :: rest => do
      let held ← expectedHoldingState (stage - 1)
      if state = held then return some (stage, rule) else matchingStage state rest

/-- `evaluate_strategy`. -/
def evaluateStrategy (config : VirtualConfig) (snapshot : IndicatorSnapshot)
    (score : ScoreResult) (position : VirtualPosition)
    (sectorBenchmarks : Option (List (String × IndicatorSnapshot))) : Py TradeDecision := do
  if position.state = .empty then
    evaluateEntry config snapshot score position sectorBenchmarks
  else match ← matchingStage position.state config.stages with
    | some (stage, rule) =>
        evaluateAdditionalEntry config snapshot score position stage rule sectorBenchmarks
    | none =>
        if position.state = .partialTp1 then
          return evaluateRebuy config snapshot score position
        else
          return { action := .noAction, allowed := false, reasonCodes := ["STATE_NOT_ELIGIBLE"] }

/-! ## Execution -/

/-- `ceil_to_tick` at one cent. -/
def ceilToTick (value : Decimal) : Decimal := ⌈value / (1 / 100)⌉ * (1 / 100)

/-- `calculate_take_profit`. -/
def calculateTakeProfit (config : VirtualConfig) (averagePrice : Decimal) (quantity : ℕ)
    (atrPct : Decimal) : Py TakeProfitPlan :=
  if averagePrice ≤ 0 then .error (.value "평단은 양수여야 합니다")
  else if quantity = 0 then .error (.value "보유수량은 양수여야 합니다")
  else
    let plan := config.takeProfit
    let tp1Rate := if plan.useAtr then max plan.tp1Base (plan.tp1AtrMultiplier * atrPct)
      else plan.tp1Base
    let tp2Rate := if plan.useAtr then max plan.tp2Base (plan.tp2AtrMultiplier * atrPct)
      else plan.tp2Base
    let tp1Quantity := max 1 (min quantity ⌈(quantity : Decimal) * plan.tp1Fraction⌉.toNat)
    .ok {
      tp1Price := ceilToTick (averagePrice * (1 + tp1Rate))
      tp2Price := ceilToTick (averagePrice * (1 + tp2Rate))
      tp1Quantity := tp1Quantity
      tp2Quantity := quantity - tp1Quantity }

/-- `calculate_execution_price_ceiling`. -/
def calculateExecutionPriceCeiling (config : VirtualConfig) (action : DecisionType)
    (signalClose : Decimal) (stageTriggerPrice : Option Decimal) (averagePrice : Decimal) :
    Py Decimal :=
  let chase := signalClose * (1 + config.entryMaxChasePct)
  match action with
  | .firstEntryCandidate => .ok chase
  | .addEntryCandidate =>
      match stageTriggerPrice with
      | none => .error (.value "추가매수에는 stage_trigger_price가 필요합니다")
      | some trigger => .ok (min chase trigger)
  | .rebuyCandidate => .ok (min chase (averagePrice * (1 - config.rebuy.minDropFromAvg)))
  | action =>
      .error (.value s!"매수 실행 상한을 계산할 수 없는 action: {action.text}")

end JdHoldings

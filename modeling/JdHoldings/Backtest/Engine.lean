import JdHoldings.Backtest.VirtualStrategy
import JdHoldings.Library.Raise

/-!
# The virtual engine

`BacktestEngine.run` walks over the sessions its symbol has in common with `SPY`, `QQQ` and
the sector benchmarks.  In each session a pending entry is tried at the open, the
take-profit plan is tried at the high, and the close decides whether a new entry is pending
for the next session.

Two things the engine calls enter as parameters, `EngineParts`: the columns
`calculate_indicators` computes from the bars up to a session (`none` while a required one
is NaN, an error where `snapshot_from_row` finds one that is not finite), and the score of a
snapshot.  That no indicator reads a later bar is part of the parameter's type; the ones of
`strategy.yaml` are given in `Backtest.Indicators`.  Excursions, holding days and metrics
are reports of the run and are left out, and so is the exit of a remainder, which
`StrategyBacktestEngine` adds and `strategy.yaml` turns off.

Arithmetic is exact: floats are not rounded, and quotients are not cut to the 28 digits of the
source's decimals.
-/

namespace JdHoldings

/-! ## Frames -/

/-- A daily frame of the engine. -/
abbrev Frame := Series Session (Bar Decimal)

/-- The columns `calculate_indicators` adds that the engine passes on. -/
structure IndicatorColumns where
  previousClose : Decimal
  cci5 : Decimal
  cci10 : Decimal
  rsi5 : Decimal
  rsi14 : Decimal
  ema5 : Decimal
  ema20 : Decimal
  ema60 : Decimal
  bbLower : Decimal
  atrPct : Decimal
  volumeRatio : Decimal
  closePosition : Decimal
deriving DecidableEq, Repr

/-- A complete row of an indicator frame. -/
abbrev IndicatorRow := Bar Decimal × Py IndicatorColumns

/-- The pure functions the engine calls. -/
structure EngineParts where
  minimumRows : ℕ
  /-- The columns at the newest bar, from the bars back to the first one. -/
  indicators : List (Bar Decimal) → Option (Py IndicatorColumns)
  calculateScore : IndicatorSnapshot → MarketRegime → ScoreResult
  /-- `pct_change` of the idle-cash close, from the later and the earlier close. -/
  pctChange : Decimal → Decimal → Decimal

/-- A bar with a null in it. -/
def Bar.hasNull (bar : Bar Decimal) : Bool :=
  bar.open_.isNone || bar.high.isNone || bar.low.isNone || bar.close.isNone || bar.volume.isNone

/-- A comparison of two columns of a row; it is false where NaN is. -/
def compareColumns (less : Decimal → Decimal → Bool) (left right : Option Decimal) : Bool :=
  match left, right with
  | some left, some right => less left right
  | _, _ => false

def tooFewRows (rows minimumRows : ℕ) : PyError :=
  .value s!"지표 계산 데이터 부족: {rows} < {minimumRows}"

/-- `validate_ohlcv`. -/
def validateOhlcv (minimumRows : ℕ) (bars : List (Bar Decimal)) : Py Unit :=
  if bars.length < minimumRows then .error (tooFewRows bars.length minimumRows)
  else if bars.any Bar.hasNull then
    .error (.value "OHLCV에 null 또는 숫자가 아닌 값이 있습니다")
  else if bars.any fun bar => compareColumns (fun high low => high < low) bar.high bar.low then
    .error (.value "High가 Low보다 작은 일봉이 있습니다")
  else if bars.any fun bar => bar.close.any fun close => close ≤ 0 then
    .error (.value "Close는 0보다 커야 합니다")
  else if bars.any fun bar => bar.volume.any fun volume => volume < 0 then
    .error (.value "Volume은 0 이상이어야 합니다")
  else .ok ()

def emptyFrame : PyError := .value "OHLCV 데이터가 비어 있습니다"

/-- The row `calculate_indicators` writes at the newest bar. -/
def EngineParts.indicatorRow (parts : EngineParts) :
    List (Session × Bar Decimal) → Option IndicatorRow
  | [] => none
  | row :: past =>
      (parts.indicators ((row :: past).map Prod.snd)).map fun columns => (row.2, columns)

/-- `calculate_indicators`, with the incomplete rows already dropped. -/
def EngineParts.calculateIndicators (parts : EngineParts) (frame : Frame) :
    Py (Series Session IndicatorRow) := do
  raiseIf (frame.rows.isEmpty = true) emptyFrame
  validateOhlcv parts.minimumRows (frame.rows.map Prod.snd)
  return (frame.rolling parts.indicatorRow).filterMap fun _ row => row

/-- `snapshot_from_row`. -/
def snapshotFromRow (symbol : String) (timestamp : Session) (row : IndicatorRow) :
    Py IndicatorSnapshot := do
  let columns ← row.2
  match row.1.open_, row.1.high, row.1.low, row.1.close with
  | some opened, some high, some low, some close =>
      return {
        symbol := symbol
        tradeDate := timestamp
        open_ := opened
        high := high
        low := low
        close := close
        previousClose := columns.previousClose
        cci5 := columns.cci5
        cci10 := columns.cci10
        rsi5 := columns.rsi5
        rsi14 := columns.rsi14
        ema5 := columns.ema5
        ema20 := columns.ema20
        ema60 := columns.ema60
        bbLower := columns.bbLower
        atrPct := columns.atrPct
        volumeRatio := columns.volumeRatio
        closePosition := columns.closePosition
      }
  | _, _, _, _ => throw (.value "완결되지 않은 지표")

/-! ## The common sessions -/

/-- What the daily loop reads in one session. -/
structure EngineDay where
  row : IndicatorRow
  spy : IndicatorRow
  qqq : IndicatorRow
  sectors : List (String × IndicatorRow)
  idleReturn : Decimal

/-- The inputs of `run` besides the configuration. -/
structure EngineInput where
  symbol : String
  symbolData : Frame
  spyData : Frame
  qqqData : Frame
  start : Option Session
  «end» : Option Session
  slippage : Decimal
  sectorData : List (String × Frame)
  idleCashData : Option Frame

/-- `guard_requested`. -/
def guardRequested (config : VirtualConfig) (symbol : String) : Bool :=
  symbol = "SOXL" && config.soxlSectorGuard.enabled

/-- The benchmarks the sector guard reads: the candidates there is data for. -/
def sectorCandidates (config : VirtualConfig) (input : EngineInput) : List (String × Frame) :=
  if guardRequested config input.symbol then
    config.soxlSectorGuard.benchmarkCandidates.filterMap fun name =>
      (input.sectorData.find? fun entry => entry.1 = name).map fun entry => (name, entry.2)
  else []

/-- The last value a column has. -/
def lastKnown : List (Option Decimal) → Option Decimal
  | [] => none
  | some value :: _ => some value
  | none :: past => lastKnown past

/-- `close.pct_change(fill_method=None).fillna(0.0)` of the forward-filled idle close. -/
def EngineParts.idleReturn (parts : EngineParts) (past : List (Option Decimal)) : Decimal :=
  match lastKnown past, lastKnown past.tail with
  | some now, some before => parts.pctChange now before
  | _, _ => 0

def tooFewSessions : PyError := .value "백테스트 가능한 공통 거래일이 부족합니다"

/-- The session lies between `start` and `end`. -/
def EngineInput.inRange (input : EngineInput) (timestamp : Session) : Bool :=
  (input.start.all fun start => start ≤ timestamp)
    && (input.«end».all fun last => timestamp ≤ last)

/-- A row of the common index, before the idle-cash returns. -/
abbrev CommonRow := ((IndicatorRow × IndicatorRow) × IndicatorRow) × List (String × IndicatorRow)

/-- The common index from the indicator frames. -/
def commonIndex (input : EngineInput) (target spy qqq : Series Session IndicatorRow)
    (sectors : List (String × Series Session IndicatorRow)) : Series Session CommonRow :=
  (((target.join spy).join qqq).joinAll sectors).filterMap fun timestamp row =>
    if input.inRange timestamp then some row else none

/-- The idle-cash close beside every row of the common index, if there is idle cash. -/
def withIdleClose (config : VirtualConfig) (idleCashData : Option Frame)
    (common : Series Session CommonRow) : Series Session (CommonRow × Option Decimal) :=
  common.filterMap fun timestamp row =>
    match idleCashData with
    | some idle =>
        some (row, if config.idleCashEnabled then (idle.loc? timestamp).bind Bar.close else none)
    | none => some (row, none)

/-- The day the loop reads at the newest of some common rows. -/
def EngineParts.day (parts : EngineParts) :
    List (Session × CommonRow × Option Decimal) → Option EngineDay
  | [] => none
  | row :: past =>
      let (((target, spy), qqq), sectors) := row.2.1
      some {
        row := target
        spy := spy
        qqq := qqq
        sectors := sectors
        idleReturn := parts.idleReturn ((row :: past).map fun earlier => earlier.2.2)
      }

/-- The sessions of a run. -/
def EngineParts.days (parts : EngineParts) (config : VirtualConfig) (input : EngineInput) :
    Py (Series Session EngineDay) := do
  let target ← parts.calculateIndicators input.symbolData
  let spy ← parts.calculateIndicators input.spyData
  let qqq ← parts.calculateIndicators input.qqqData
  let sectors ← (sectorCandidates config input).mapM fun entry => do
    return (entry.1, ← parts.calculateIndicators entry.2)
  let common := commonIndex input target spy qqq sectors
  raiseIf (common.rows.length < 2) tooFewSessions
  return ((withIdleClose config input.idleCashData common).rolling parts.day).filterMap
    fun _ day => day

/-! ## The simulation -/

/-- `_SimulationState`, without its reports. -/
structure SimulationState where
  cash : Decimal
  state : PositionState := .empty
  cycleId : Option ℕ := none
  quantity : ℕ := 0
  averagePrice : Decimal := 0
  currentCostBasis : Decimal := 0
  cycleExposureCap : Decimal := 0
  stagedEntryCapital : Decimal := 0
  entryCount : ℕ := 0
  anchorPrice : Decimal := 0
  rebuyCount : ℕ := 0
  rebuyRecoveryArmed : Bool := false
  tp1FilledQty : ℕ := 0
  tpPlan : Option TakeProfitPlan := none
  tp1Done : Bool := false
  cycleNumber : ℕ := 0
  cycleCashflows : Decimal := 0
  cycleUsedRebuy : Bool := false
deriving DecidableEq, Repr

/-- `_SimulationState.snapshot`. -/
def SimulationState.snapshot (state : SimulationState) : VirtualPosition where
  state := state.state
  averagePrice := state.averagePrice
  currentCostBasis := state.currentCostBasis
  cycleExposureCap := state.cycleExposureCap
  stagedEntryCapital := state.stagedEntryCapital
  anchorPrice := state.anchorPrice
  rebuyCount := state.rebuyCount
  rebuyRecoveryArmed := state.rebuyRecoveryArmed
  tp1FilledQty := state.tp1FilledQty

/-- What a trade was made for. -/
inductive TradePurpose where
  | entry (action : DecisionType)
  | tp1
  | tp2
deriving DecidableEq, Repr

/-- A row of `trades`; the source rounds the amounts for the report. -/
structure Trade where
  date : Session
  cycleId : Option ℕ
  side : Side
  purpose : TradePurpose
  price : Decimal
  quantity : ℕ
  fee : Decimal
  cashAfter : Decimal
  averagePrice : Option Decimal := none
  priorQuantity : Option ℕ := none
  score : Option ℕ := none
deriving DecidableEq

/-- `_Pending`. -/
structure PendingEntry where
  snapshot : IndicatorSnapshot
  score : ScoreResult
  decision : TradeDecision

/-- The state after the fill of a pending entry, by its action. -/
def SimulationState.afterEntry (state : SimulationState) (decision : TradeDecision)
    (fillPrice gross : Decimal) : Py SimulationState :=
  match decision.action with
  | .firstEntryCandidate => .ok { state with
      cycleNumber := state.cycleNumber + 1
      cycleId := some (state.cycleNumber + 1)
      entryCount := 1
      anchorPrice := fillPrice
      cycleExposureCap := decision.cycleExposureCap
      stagedEntryCapital := gross
      state := .holding 0
      tp1FilledQty := 0
      rebuyCount := 0
      rebuyRecoveryArmed := false
      cycleUsedRebuy := false }
  | .addEntryCandidate => do
      let targetStage := (decision.targetStage.filter (· ≠ 0)).getD (state.entryCount + 1)
      return { state with
        entryCount := targetStage
        cycleExposureCap := decision.cycleExposureCap
        stagedEntryCapital := state.stagedEntryCapital + gross
        state := ← expectedHoldingState targetStage }
  | _ => .ok { state with
      rebuyCount := state.rebuyCount + 1
      rebuyRecoveryArmed := false
      state := .holdingRebuy
      cycleUsedRebuy := true }

/-- The fill of a pending entry: the state after it, and its trade.  The average price is the
exact quotient, which the source cuts to 28 digits. -/
def fillPending (config : VirtualConfig) (pending : PendingEntry) (state : SimulationState)
    (timestamp : Session) (fillPrice : Decimal) (quantity : ℕ) : Py (SimulationState × Trade) := do
  let gross := (quantity : Decimal) * fillPrice * (1 + config.buyFee)
  let cost := state.currentCostBasis + (quantity : Decimal) * fillPrice
  let held := state.quantity + quantity
  let bought := { state with
    quantity := held
    averagePrice := cost / (held : Decimal)
    currentCostBasis := cost
    cash := state.cash - gross
    cycleCashflows := state.cycleCashflows - gross }
  let entered ← bought.afterEntry pending.decision fillPrice gross
  let plan ← calculateTakeProfit config entered.averagePrice entered.quantity
    pending.snapshot.atrPct
  return ({ entered with tpPlan := some plan, tp1Done := false }, {
    date := timestamp
    cycleId := entered.cycleId
    side := .buy
    purpose := .entry pending.decision.action
    price := fillPrice
    quantity := quantity
    fee := gross - (quantity : Decimal) * fillPrice
    cashAfter := entered.cash
    averagePrice := some entered.averagePrice
    priorQuantity := some state.quantity
    score := some pending.score.total })

/-- A rebuy buys back no more than the first take-profit sold. -/
def SimulationState.maximumQuantity (state : SimulationState) (decision : TradeDecision) :
    Option ℕ :=
  if decision.action = .rebuyCandidate then some state.tp1FilledQty else none

/-- `_execute_pending`: the reason to skip, or the state and the trade. -/
def executePending (config : VirtualConfig) (slippage : Decimal) (pending : PendingEntry)
    (state : SimulationState) (timestamp : Session) (nextOpen : Decimal) :
    Py (Except String (SimulationState × Trade)) :=
  let decision := pending.decision
  if pending.snapshot.close * (1 + config.entryMaxChasePct) < nextOpen then
    .ok (.error "SKIPPED_BY_CHASE_RULE")
  else if (decision.action = .addEntryCandidate ∨ decision.action = .rebuyCandidate)
      ∧ decision.stageTriggerPrice.any (fun trigger => trigger < nextOpen) = true then
    .ok (.error "STAGE_PRICE_RECOVERED")
  else do
    let fillPrice := nextOpen * (1 + slippage)
    let ceiling ← calculateExecutionPriceCeiling config decision.action pending.snapshot.close
      decision.stageTriggerPrice state.averagePrice
    let quantity := calculateOrderQuantity (min decision.plannedBudget state.cash) fillPrice
      config.buyFee (state.maximumQuantity decision)
    let gross := (quantity : Decimal) * fillPrice * (1 + config.buyFee)
    if ceiling < fillPrice then return .error "SLIPPAGE_EXCEEDS_PRICE_CEILING"
    else if quantity < 1 then return .error "ZERO_QUANTITY"
    else if state.cash < gross ∨ decision.plannedBudget < gross then
      return .error "EXPOSURE_BLOCK"
    else return .ok (← fillPending config pending state timestamp fillPrice quantity)

/-- `_sell`. -/
def SimulationState.sell (config : VirtualConfig) (state : SimulationState)
    (timestamp : Session) (price : Decimal) (quantity : ℕ) (purpose : TradePurpose) :
    SimulationState × Trade :=
  let sold := min quantity state.quantity
  let gross := (sold : Decimal) * price
  let fee := gross * config.sellFee
  let kept := state.quantity - sold
  let next := { state with
    cash := state.cash + (gross - fee)
    cycleCashflows := state.cycleCashflows + (gross - fee)
    quantity := kept
    currentCostBasis := state.averagePrice * (kept : Decimal) }
  (next, {
    date := timestamp
    cycleId := state.cycleId
    side := .sell
    purpose := purpose
    price := price
    quantity := sold
    fee := fee
    cashAfter := next.cash })

/-- `_reset_cycle`. -/
def SimulationState.resetCycle (state : SimulationState) : SimulationState where
  cash := state.cash
  cycleNumber := state.cycleNumber

/-- The first leg of `_process_take_profit`. -/
def SimulationState.takeFirstProfit (config : VirtualConfig) (state : SimulationState)
    (plan : TakeProfitPlan) (timestamp : Session) (high : Decimal) :
    SimulationState × List Trade :=
  if state.tp1Done = false ∧ plan.tp1Price ≤ high then
    let sellQty := min plan.tp1Quantity state.quantity
    let (sold, trade) := state.sell config timestamp plan.tp1Price sellQty .tp1
    let marked := { sold with tp1FilledQty := sellQty, tp1Done := true }
    (if 0 < marked.quantity then
      { marked with state := .partialTp1, rebuyRecoveryArmed := false } else marked, [trade])
  else (state, [])

/-- The second leg of `_process_take_profit`. -/
def SimulationState.takeSecondProfit (config : VirtualConfig) (state : SimulationState)
    (plan : TakeProfitPlan) (timestamp : Session) (high : Decimal) :
    SimulationState × List Trade :=
  if 0 < state.quantity ∧ plan.tp2Price ≤ high then
    let (sold, trade) := state.sell config timestamp plan.tp2Price state.quantity .tp2
    (sold, [trade])
  else (state, [])

/-- `_process_take_profit`. -/
def processTakeProfit (config : VirtualConfig) (state : SimulationState) (timestamp : Session)
    (high : Decimal) : SimulationState × List Trade :=
  match state.tpPlan with
  | none => (state, [])
  | some plan =>
      if state.quantity = 0 then (state, [])
      else
        let (first, sold) := state.takeFirstProfit config plan timestamp high
        let (second, sold') := first.takeSecondProfit config plan timestamp high
        (if second.quantity = 0 then second.resetCycle else second, sold ++ sold')

/-- A row of `closed_cycles`, without its start and its excursions. -/
structure ClosedCycle where
  cycleId : Option ℕ
  endDate : Session
  pnl : Decimal
  entryCount : ℕ
  usedRebuy : Bool
deriving DecidableEq

/-- The row of a cycle that ends. -/
def SimulationState.closedCycle (state : SimulationState) (timestamp : Session) :
    ClosedCycle where
  cycleId := state.cycleId
  endDate := timestamp
  pnl := quantizeCents state.cycleCashflows
  entryCount := state.entryCount
  usedRebuy := state.cycleUsedRebuy

/-- What `_process_take_profit` adds to `closed_cycles`. -/
def closedCycles (config : VirtualConfig) (state : SimulationState) (timestamp : Session)
    (high : Decimal) : List ClosedCycle :=
  match state.tpPlan with
  | none => []
  | some plan =>
      if state.quantity = 0 then []
      else
        let (first, _) := state.takeFirstProfit config plan timestamp high
        let (second, _) := first.takeSecondProfit config plan timestamp high
        if second.quantity = 0 then [second.closedCycle timestamp] else []

/-! ## The daily loop -/

/-- What the daily loop carries from one session to the next. -/
structure LoopState where
  state : SimulationState
  pending : Option PendingEntry
  trades : List Trade
  closedCycles : List ClosedCycle

/-- What a session's pending entry does. -/
def settlePending (config : VirtualConfig) (slippage : Decimal) (pending : Option PendingEntry)
    (state : SimulationState) (timestamp : Session) (nextOpen : Decimal) :
    Py (SimulationState × List Trade) :=
  match pending with
  | none => .ok (state, [])
  | some pending => do
      match ← executePending config slippage pending state timestamp nextOpen with
      | .ok (filled, trade) => return (filled, [trade])
      | .error _ => return (state, [])

/-- The income of the idle cash. -/
def SimulationState.accrue (config : VirtualConfig) (state : SimulationState)
    (idleReturn : Decimal) : SimulationState :=
  if config.idleCashEnabled then
    let yieldable := max 0 (state.cash - config.cashBuffer / (config.enabledSymbols : Decimal))
    { state with cash := state.cash + yieldable * idleReturn }
  else state

/-- A rebuy is armed by the recovery after the first take-profit. -/
def SimulationState.armRecovery (config : VirtualConfig) (state : SimulationState)
    (snapshot : IndicatorSnapshot) : SimulationState :=
  if state.state = .partialTp1 ∧ state.rebuyRecoveryArmed = false
      ∧ evaluateRebuyRecovery config snapshot = true then
    { state with rebuyRecoveryArmed := true }
  else state

@[simp] theorem SimulationState.armRecovery_quantity (config : VirtualConfig)
    (state : SimulationState) (snapshot : IndicatorSnapshot) :
    (state.armRecovery config snapshot).quantity = state.quantity := by
  unfold armRecovery
  split <;> rfl

/-- One round of the daily loop. -/
def EngineParts.sessionStep (parts : EngineParts) (config : VirtualConfig)
    (input : EngineInput) (loop : LoopState) (day : Session × EngineDay) : Py LoopState := do
  let timestamp := day.1
  let accrued := loop.state.accrue config day.2.idleReturn
  let snapshot ← snapshotFromRow input.symbol timestamp day.2.row
  let spySnapshot ← snapshotFromRow "SPY" timestamp day.2.spy
  let qqqSnapshot ← snapshotFromRow "QQQ" timestamp day.2.qqq
  let regime ← evaluateRegime spySnapshot qqqSnapshot
  let score := parts.calculateScore snapshot regime
  let sectors ← day.2.sectors.mapM fun entry => do
    return (entry.1, ← snapshotFromRow entry.1 timestamp entry.2)
  let (opened, bought) ←
    settlePending config input.slippage loop.pending accrued timestamp snapshot.open_
  let (closed, sold) := processTakeProfit config opened timestamp snapshot.high
  let armed := closed.armRecovery config snapshot
  let decision ← evaluateStrategy config snapshot score armed.snapshot
    (if day.2.sectors.isEmpty then none else some sectors)
  return {
    state := armed
    pending := if decision.allowed then some ⟨snapshot, score, decision⟩ else none
    trades := loop.trades ++ bought ++ sold
    closedCycles := loop.closedCycles ++ closedCycles config opened timestamp snapshot.high
  }

/-- What a round trades: its pending entry at the open, then its take-profits at the high. -/
theorem EngineParts.sessionStep_eq_ok {parts : EngineParts} {config : VirtualConfig}
    {input : EngineInput} {loop next : LoopState} {day : Session × EngineDay}
    (hstep : parts.sessionStep config input loop day = .ok next) :
    ∃ (snapshot : IndicatorSnapshot) (opened : SimulationState) (bought : List Trade),
      settlePending config input.slippage loop.pending
          (loop.state.accrue config day.2.idleReturn) day.1 snapshot.open_
        = .ok (opened, bought) ∧
      next.trades
        = loop.trades ++ (bought ++ (processTakeProfit config opened day.1 snapshot.high).2) ∧
      next.state.quantity = (processTakeProfit config opened day.1 snapshot.high).1.quantity := by
  obtain ⟨snapshot, -, hstep⟩ := Except.bind_eq_ok.mp hstep
  obtain ⟨spy, -, hstep⟩ := Except.bind_eq_ok.mp hstep
  obtain ⟨qqq, -, hstep⟩ := Except.bind_eq_ok.mp hstep
  obtain ⟨regime, -, hstep⟩ := Except.bind_eq_ok.mp hstep
  obtain ⟨sectors, -, hstep⟩ := Except.bind_eq_ok.mp hstep
  obtain ⟨⟨opened, bought⟩, hsettle, hstep⟩ := Except.bind_eq_ok.mp hstep
  obtain ⟨decision, -, hstep⟩ := Except.bind_eq_ok.mp hstep
  cases hstep
  refine ⟨snapshot, opened, bought, hsettle, List.append_assoc .., ?_⟩
  exact SimulationState.armRecovery_quantity ..

/-- The part of `BacktestResult` the overlay reads. -/
structure EngineResult where
  trades : List Trade
  /-- `open_position["quantity"]`. -/
  openQuantity : ℕ
deriving DecidableEq

def initialLoop (config : VirtualConfig) : LoopState where
  state := { cash := config.capitalPerSymbol }
  pending := none
  trades := []
  closedCycles := []

/-- `BacktestEngine.run`. -/
def EngineParts.run (parts : EngineParts) (config : VirtualConfig) (input : EngineInput) :
    Py EngineResult := do
  let days ← parts.days config input
  let final ← days.rows.foldlM (parts.sessionStep config input) (initialLoop config)
  return { trades := final.trades, openQuantity := final.state.quantity }

end JdHoldings

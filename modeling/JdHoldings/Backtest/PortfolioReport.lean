import JdHoldings.Backtest.Overlay
import JdHoldings.Backtest.PortfolioEngine

/-!
# The report of a portfolio backtest

`PortfolioBacktestEngine.run` as a whole, from the frames and the two virtual runs to the
trades and the equity curve.  The engines that made the virtual runs have refused frames
with NaN, so a NaN price is an error here.  The metrics, which are computed from the rest of
the report, are left out.

The account is computed with the price and the fee `_rebalance` hands to `_trade`; the rows
of `trades` have them rounded (`reported`).
-/

namespace JdHoldings

def Side.text : Side → String
  | .buy => "BUY"
  | .sell => "SELL"

namespace PortfolioBacktestEngine

/-! ## Trades -/

/-- The arguments of `_trade`, for the component `allocation`. -/
structure PortfolioTrade where
  date : Session
  symbol : AllocationSymbol
  side : Side
  onboardingStage : Option ℕ
  quantity : ℤ
  price : Decimal
  fee : Decimal
deriving DecidableEq

/-- The `purpose` of `_trade`. -/
def PortfolioTrade.purpose (trade : PortfolioTrade) : String :=
  match trade.onboardingStage with
  | some stage => s!"INITIAL_ENTRY_STAGE_{stage}_{trade.side.text}"
  | none => s!"V322_REBALANCE_{trade.side.text}"

/-- `round(value, 6)`. -/
def roundSix (value : Decimal) : Decimal := Quantize.halfEven (1 / 1000000) value

/-- The price and the fee of the row `_trade` makes. -/
def PortfolioTrade.reported (trade : PortfolioTrade) : PortfolioTrade := { trade with
  price := roundSix trade.price
  fee := roundSix trade.fee }

/-- When and for which stage a rebalance trades. -/
structure TradeLabel where
  date : Session
  onboardingStage : Option ℕ

/-- The trade of a SELL. -/
def sellTrade (costs : Costs) (label : TradeLabel) (desired : AllocationSymbol → ℤ)
    (prices : AllocationSymbol → Decimal) (account : Account) (symbol : AllocationSymbol) :
    Option PortfolioTrade :=
  let difference := desired symbol - account.quantities symbol
  if 0 ≤ difference then none
  else
    let quantity := -difference
    let price := prices symbol * (1 - costs.slippage)
    some {
      date := label.date
      symbol := symbol
      side := .sell
      onboardingStage := label.onboardingStage
      quantity := quantity
      price := price
      fee := quantity * price * costs.sellFee }

/-- The trade of a BUY. -/
def buyTrade (costs : Costs) (label : TradeLabel) (desired : AllocationSymbol → ℤ)
    (prices : AllocationSymbol → Decimal) (account : Account) (symbol : AllocationSymbol) :
    Option PortfolioTrade :=
  let difference := desired symbol - account.quantities symbol
  if difference ≤ 0 then none
  else
    let price := prices symbol * (1 + costs.slippage)
    let affordable := ⌊account.cash / (price * (1 + costs.buyFee))⌋
    let quantity := min difference affordable
    if quantity ≤ 0 then none
    else some {
      date := label.date
      symbol := symbol
      side := .buy
      onboardingStage := label.onboardingStage
      quantity := quantity
      price := price
      fee := quantity * price * costs.buyFee }

/-- `_rebalance`, with the trades it appends. -/
def rebalanceTrades (costs : Costs) (label : TradeLabel) (target : Weights)
    (prices : AllocationSymbol → Decimal) (sizingEquity : Decimal) (account : Account) :
    Account × List PortfolioTrade :=
  let desired := desired costs target prices sizingEquity
  let sold := allocationSymbols.foldl (fun books symbol =>
    (sell costs desired prices books.1 symbol,
      books.2 ++ (sellTrade costs label desired prices books.1 symbol).toList)) (account, [])
  allocationSymbols.foldl (fun books symbol =>
    (buy costs desired prices books.1 symbol,
      books.2 ++ (buyTrade costs label desired prices books.1 symbol).toList)) sold

/-! ## A session -/

/-- The stage the trades of a session are labelled with. -/
def onboardingStage (policy : InitialOnboardingPolicy) (executionIndex : ℕ) : Option ℕ :=
  if policy.enabled = false then none
  else
    let interval := policy.minimumSessionsBetweenStages
    if interval = 0 ∧ executionIndex = 0 then some policy.totalStages
    else if 0 < interval ∧ (executionIndex : ℤ) ≤ interval * ((policy.totalStages : ℤ) - 1) then
      some (min (executionIndex / interval + 1) policy.totalStages)
    else none

/-- What one session adds to the report. -/
structure Turn where
  trades : List PortfolioTrade
  equity : Decimal
  exposure : Decimal
  sizingEquity : Decimal
deriving DecidableEq

/-- The trades at the open of a session, and what is held after them. -/
def tradeTurn (costs : Costs) (policy : InitialOnboardingPolicy) (executionIndex : ℕ)
    (timestamp : Session) (opens : AllocationSymbol → Decimal) (state : State) :
    Account × List PortfolioTrade :=
  let sizing := sizingEquity state.highWater (state.toAccount.equity costs opens)
  if state.current = some state.pending then (state.toAccount, [])
  else rebalanceTrades costs ⟨timestamp, onboardingStage policy executionIndex⟩ state.pending opens
    sizing state.toAccount

/-- One turn of the loop of `run`, with what it appends to the report. -/
def turn (costs : Costs) (policy : InitialOnboardingPolicy) (carried : ℕ × State)
    (row : Session × BacktestSession) : (ℕ × State) × Turn :=
  let (executionIndex, state) := carried
  let (timestamp, bars) := row
  let (account, trades) := tradeTurn costs policy executionIndex timestamp bars.opens state
  let liquidation := (allocationSymbols.map fun symbol =>
    account.quantities symbol * bars.closes symbol * (1 - costs.sellFee)).sum
  let equity := account.cash + liquidation
  let next : State := {
    toAccount := account
    highWater := advanceHighWater state.highWater equity
    pending := applyInitialOnboarding policy (weightsFromTarget bars.target) (executionIndex + 1)
    current := some state.pending }
  ((executionIndex + 1, next), {
    trades := trades
    equity := equity
    exposure := if 0 < equity then liquidation / equity else 0
    sizingEquity := sizingEquity state.highWater (state.toAccount.equity costs bars.opens) })

/-! ## The run -/

/-- What `self` and the config give a run. -/
structure Setup where
  ops : FloatOps Decimal
  volatilityBrake : Decimal
  onboarding : InitialOnboardingPolicy
  buyFee : Decimal
  sellFee : Decimal
  defaultSlippage : Decimal

/-- The dictionary `frames`. -/
abbrev Frames := String → Option Frame

/-- The four bars of a common session. -/
abbrev CommonBars := ((Bar Decimal × Bar Decimal) × Bar Decimal) × Bar Decimal

/-- The sessions common to four frames. -/
def commonSessions (qqq tqqq soxl soxx : Frame) : Series Session CommonBars :=
  ((qqq.join tqqq).join soxl).join soxx

/-- `frames[symbol].loc[timestamp, …]` of the three symbols. -/
def prices (column : Bar Decimal → Option Decimal) (bars : CommonBars) :
    Option (AllocationSymbol → Decimal) := do
  let qqq ← column bars.1.1.1
  let tqqq ← column bars.1.1.2
  let soxl ← column bars.1.2
  return fun
    | .qqq => qqq
    | .tqqq => tqqq
    | .soxl => soxl

/-- The session of a row. -/
def sessionOf (bars : CommonBars) (target : TargetRow) : Option BacktestSession := do
  let opens ← prices Bar.open_ bars
  let closes ← prices Bar.close bars
  return {
    opens := opens
    closes := closes
    target := target.weights }

/-- What the loop of `run` goes through. -/
structure Prepared where
  sessions : Series Session BacktestSession
  /-- The weights of `targets.loc[prior_ts]`. -/
  prior : Weights

/-- `index[(index >= start_ts) & (index <= end_ts)]`. -/
def chosenSessions {ρ : Type} (common : Series Session ρ) (start stop : Session) :
    Series Session ρ :=
  common.select fun timestamp => decide (start ≤ timestamp ∧ timestamp ≤ stop)

/-- `index[index < sessions[0]][-1]`. -/
def priorSession {ρ : Type} (common chosen : Series Session ρ) : Option Session :=
  (common.index.filter fun timestamp =>
    chosen.index.head?.any fun first => decide (timestamp < first)).getLast?

/-- `run` up to its loop, with all frames and results there. -/
def Setup.prepareFrames (setup : Setup) (qqq tqqq soxl soxx : Frame)
    (tqqqResult soxlResult : EngineResult) (start stop : Session) : Py Prepared := do
  let common := commonSessions qqq tqqq soxl soxx
  raiseIf (common.index.length < 2) (.value "V3.2.2 공통 거래일이 부족합니다")
  let activeTqqq ← virtualActiveSeries tqqqResult common
  let activeSoxl ← virtualActiveSeries soxlResult common
  let targets ← replayTargets setup.ops setup.volatilityBrake (reindex qqq common)
    (reindex soxx common) activeTqqq activeSoxl
  let chosen := chosenSessions common start stop
  raiseIf (chosen.index.length < 2) (.value "포트폴리오 백테스트 기간이 너무 짧습니다")
  match priorSession common chosen with
  | none => throw (.value "V3.2.2 시작일 이전 warmup 거래일이 필요합니다")
  | some priorSession =>
      match targets.loc? priorSession with
      | none => throw (.value "V3.2.2 시작일 이전 target을 계산하지 못했습니다")
      | some prior => do
          let rows := chosen.join targets
          raiseIf (rows.index ≠ chosen.index) .key
          let sessions := rows.filterMap fun _ row => sessionOf row.1 row.2
          raiseIf (sessions.index ≠ rows.index) (.value "cannot convert float NaN to integer")
          return {
            sessions := sessions
            prior := prior.weights }

/-- The names the dictionary lacks, sorted. -/
def missing {ρ : Type} (dict : String → Option ρ) (names : List String) : List String :=
  names.filter fun name => (dict name).isNone

/-- `frames[name]`. -/
def entry {ρ : Type} (dict : String → Option ρ) (name : String) : Py ρ :=
  match dict name with
  | some value => .ok value
  | none => .error .key

/-- `run` up to its loop. -/
def Setup.prepare (setup : Setup) (frames : Frames) (boosters : String → Option EngineResult)
    (start stop : Session) : Py Prepared := do
  let missingFrames := missing frames ["QQQ", "SOXL", "SOXX", "TQQQ"]
  raiseIf (missingFrames ≠ [])
    (.value ("V3.2.2 포트폴리오 데이터 누락: " ++ ", ".intercalate missingFrames))
  let missingBoosters := missing boosters ["SOXL", "TQQQ"]
  raiseIf (missingBoosters ≠ [])
    (.value ("V3.2.2 JDSS overlay 결과 누락: " ++ ", ".intercalate missingBoosters))
  let qqq ← entry frames "QQQ"
  let tqqq ← entry frames "TQQQ"
  let soxl ← entry frames "SOXL"
  let soxx ← entry frames "SOXX"
  let tqqqResult ← entry boosters "TQQQ"
  let soxlResult ← entry boosters "SOXL"
  setup.prepareFrames qqq tqqq soxl soxx tqqqResult soxlResult start stop

/-- `PortfolioBacktestResult`, with the account it ends with. -/
structure PortfolioReport where
  startDate : Option Session
  endDate : Option Session
  slippage : Decimal
  turns : Series Session Turn
  final : Account

namespace PortfolioReport

def trades (report : PortfolioReport) : List PortfolioTrade :=
  report.turns.rows.flatMap fun row => row.2.trades

/-- The rows of `trades`. -/
def rows (report : PortfolioReport) : List PortfolioTrade :=
  report.trades.map PortfolioTrade.reported

end PortfolioReport

def Setup.costs (setup : Setup) (slippage : Option Decimal) : Costs where
  buyFee := setup.buyFee
  sellFee := setup.sellFee
  slippage := slippage.getD setup.defaultSlippage

/-- The loop of `run`, and the report. -/
def Setup.report (setup : Setup) (slippage : Option Decimal) (prepared : Prepared) :
    PortfolioReport :=
  let costs := setup.costs slippage
  let begin := (0, PortfolioBacktestEngine.start setup.onboarding prepared.prior)
  { startDate := prepared.sessions.index.head?
    endDate := prepared.sessions.index.getLast?
    slippage := costs.slippage
    turns := prepared.sessions.scan (turn costs setup.onboarding) begin
    final := (prepared.sessions.rows.foldl
      (fun carried row => (turn costs setup.onboarding carried row).1) begin).2.toAccount }

/-- `PortfolioBacktestEngine.run`. -/
def Setup.run (setup : Setup) (frames : Frames) (boosters : String → Option EngineResult)
    (start stop : Session) (slippage : Option Decimal) : Py PortfolioReport := do
  let prepared ← setup.prepare frames boosters start stop
  return setup.report slippage prepared

end PortfolioBacktestEngine

/-! ## The production backtest -/

/-- The frames `run_production_backtest` has downloaded. -/
structure BacktestData where
  spy : Frame
  qqq : Frame
  tqqq : Frame
  soxl : Frame
  /-- The benchmark of the policy. -/
  soxx : Frame
  sectorData : List (String × Frame)
  idleCashData : Option Frame

/-- What a production backtest is asked for, with `backtest.default_start`. -/
structure BacktestRequest where
  strategyStart : Session
  start : Session
  stop : Session
  slippage : Option Decimal

namespace BacktestData

/-- `raw_frames`. -/
def rawFrames (data : BacktestData) : PortfolioBacktestEngine.Frames
  | "TQQQ" => some data.tqqq
  | "SOXL" => some data.soxl
  | "SPY" => some data.spy
  | "QQQ" => some data.qqq
  | "SOXX" => some data.soxx
  | _ => none

/-- The virtual run of an enabled symbol, which is not reset by the reporting window. -/
def engineInput (data : BacktestData) (request : BacktestRequest) (defaultSlippage : Decimal)
    (symbol : String) (symbolData : Frame) : EngineInput where
  symbol := symbol
  symbolData := symbolData
  spyData := data.spy
  qqqData := data.qqq
  start := some request.strategyStart
  «end» := some request.stop
  slippage := request.slippage.getD defaultSlippage
  sectorData := if symbol = "SOXL" then data.sectorData else []
  idleCashData := data.idleCashData

end BacktestData

/-- The portfolio of `run_production_backtest`, where all enabled symbols are asked for and no
remainder exit is enabled: then `StrategyBacktestEngine` runs as `BacktestEngine` does. -/
def runProductionBacktest (parts : EngineParts) (config : VirtualConfig)
    (setup : PortfolioBacktestEngine.Setup) (request : BacktestRequest) (data : BacktestData) :
    Py PortfolioBacktestEngine.PortfolioReport := do
  let tqqq ← parts.run config (data.engineInput request setup.defaultSlippage "TQQQ" data.tqqq)
  let soxl ← parts.run config (data.engineInput request setup.defaultSlippage "SOXL" data.soxl)
  let virtualResults : String → Option EngineResult
    | "TQQQ" => some tqqq
    | "SOXL" => some soxl
    | _ => none
  setup.run data.rawFrames virtualResults request.start request.stop request.slippage

namespace PortfolioBacktestEngine

/-! ## The plain loop -/

/-- Appending trades does not change what is traded. -/
theorem rebalanceTrades_fst (costs : Costs) (label : TradeLabel) (target : Weights)
    (prices : AllocationSymbol → Decimal) (sizingEquity : Decimal) (account : Account) :
    (rebalanceTrades costs label target prices sizingEquity account).1 =
      rebalance costs target prices sizingEquity account := rfl

/-- The turn is the step of the plain loop. -/
theorem turn_fst (costs : Costs) (policy : InitialOnboardingPolicy) (executionIndex : ℕ)
    (state : State) (row : Session × BacktestSession) :
    (turn costs policy (executionIndex, state) row).1 =
      (executionIndex + 1, step costs policy state (executionIndex, row.2)) := by
  have haccount : (tradeTurn costs policy executionIndex row.1 row.2.opens state).1 =
      trade costs row.2 state := by
    unfold tradeTurn trade
    dsimp only
    split
    · rfl
    · exact rebalanceTrades_fst costs _ _ _ _ _
  simp only [turn, step, haccount]
  rfl

/-- The equity values of the turns are those of the plain loop. -/
theorem scanRows_equity (costs : Costs) (policy : InitialOnboardingPolicy) (executionIndex : ℕ)
    (state : State) (rows : List (Session × BacktestSession)) :
    (Series.scanRows (turn costs policy) (executionIndex, state) rows).map
        (fun row => row.2.equity) =
      equityValues costs policy state (enumerateFrom executionIndex (rows.map Prod.snd)) := by
  induction rows generalizing executionIndex state with
  | nil => rfl
  | cons row rows ih =>
      have haccount := congrArg (fun carried : ℕ × State => carried.2.toAccount)
        (turn_fst costs policy executionIndex state row)
      simp only [Series.scanRows, List.map_cons, enumerateFrom, equityValues]
      rw [turn_fst, ih]
      refine congrArg₂ List.cons ?_ rfl
      exact congrArg (Account.equity costs row.2.closes) haccount

theorem foldl_turn (costs : Costs) (policy : InitialOnboardingPolicy) (executionIndex : ℕ)
    (state : State) (rows : List (Session × BacktestSession)) :
    (rows.foldl (fun carried row => (turn costs policy carried row).1) (executionIndex, state)).2 =
      run costs policy state (enumerateFrom executionIndex (rows.map Prod.snd)) := by
  induction rows generalizing executionIndex state with
  | nil => rfl
  | cons row rows ih =>
      rw [List.foldl_cons, turn_fst, ih]
      rfl

/-- The report refines the plain loop: the same equity values, and the same account left. -/
theorem report_refines_run (setup : Setup) (slippage : Option Decimal) (prepared : Prepared) :
    let sessions := enumerateFrom 0 (prepared.sessions.rows.map Prod.snd)
    let begin := PortfolioBacktestEngine.start setup.onboarding prepared.prior
    (setup.report slippage prepared).turns.rows.map (fun row => row.2.equity) =
        equityValues (setup.costs slippage) setup.onboarding begin sessions ∧
      (setup.report slippage prepared).final =
        (run (setup.costs slippage) setup.onboarding begin sessions).toAccount := by
  intro sessions begin
  refine ⟨scanRows_equity _ _ 0 begin prepared.sessions.rows, ?_⟩
  exact congrArg State.toAccount (foldl_turn _ _ 0 begin prepared.sessions.rows)

end PortfolioBacktestEngine

end JdHoldings

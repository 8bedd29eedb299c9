import JdHoldings.Backtest.Engine
import JdHoldings.Core.Targets

/-!
# The overlay flags

`virtual_active_series` goes through the trades of a virtual run again, session by session
of the index it is given, and flags the sessions after which shares were held.  The flag
is delayed by one session.  `_calculate_target` runs both engines, replays their trades on
the sessions common to all four frames of the allocation, and builds the target rows.
-/

namespace JdHoldings

/-- The quantity one side traded on a session. -/
def tradedOn (trades : List Trade) (side : Side) (timestamp : Session) : ℕ :=
  ((trades.filter fun trade => trade.date = timestamp ∧ trade.side = side).map
    Trade.quantity).sum

section Series

variable {ρ : Type*}

/-- One round of the loop of `virtual_active_series`: the quantity of the close, and
whether shares were held in the session.  The source clamps the quantity at zero. -/
def overlayRound (trades : List Trade) (endOfDay : ℕ) (timestamp : Session) : ℕ × Bool :=
  let openQuantity := endOfDay + tradedOn trades .buy timestamp
  (openQuantity - tradedOn trades .sell timestamp, decide (0 < openQuantity))

/-- The round with `shift(1, fill_value=False)`: each row has the flag of the row before. -/
def overlayStep (trades : List Trade) (carried : ℕ × Bool) (row : Session × ρ) :
    (ℕ × Bool) × Bool :=
  (overlayRound trades carried.1 row.1, carried.2)

/-- The flags over an index. -/
def overlaySeries (trades : List Trade) (index : Series Session ρ) : Series Session Bool :=
  index.scan (overlayStep trades) (0, false)

/-- The quantity the replay ends with. -/
def replayedQuantity (trades : List Trade) (index : List Session) : ℕ :=
  index.foldl (fun endOfDay timestamp => (overlayRound trades endOfDay timestamp).1) 0

/-- `virtual_active_series`. -/
def virtualActiveSeries (result : EngineResult) (index : Series Session ρ) :
    Py (Series Session Bool) := do
  raiseIf (replayedQuantity result.trades index.index ≠ result.openQuantity) (.other "AssertionError")
  return overlaySeries result.trades index

end Series

/-! ## The targets of a completed session -/

/-- The frames `_calculate_target` downloads. -/
structure RawFrames where
  spy : Frame
  qqq : Frame
  tqqq : Frame
  soxl : Frame
  soxx : Frame
  smh : Frame

/-- What `_calculate_target` has besides the frames. -/
structure TargetSetup where
  parts : EngineParts
  config : VirtualConfig
  ops : FloatOps Decimal
  volatilityBrake : Decimal
  start : Session
  completed : Session
  defaultSlippage : Decimal

/-- The run of one enabled symbol. -/
def TargetSetup.engineInput (setup : TargetSetup) (raw : RawFrames) (symbol : String)
    (symbolData : Frame) (sectorData : List (String × Frame)) : EngineInput where
  symbol := symbol
  symbolData := symbolData
  spyData := raw.spy
  qqqData := raw.qqq
  start := some setup.start
  «end» := some setup.completed
  slippage := setup.defaultSlippage
  sectorData := sectorData
  idleCashData := none

/-- `raw[symbol].reindex(common)`, for labels the frame has. -/
def reindex {ρ : Type*} (frame : Frame) (common : Series Session ρ) : Frame :=
  (common.join frame).filterMap fun _ row => some row.2

/-- The sessions common to the four frames of the allocation. -/
def RawFrames.common (raw : RawFrames) :
    Series Session (((Bar Decimal × Bar Decimal) × Bar Decimal) × Bar Decimal) :=
  ((raw.qqq.join raw.tqqq).join raw.soxl).join raw.soxx

/-- `_calculate_target`, from the downloaded frames on and without a remainder exit: then
`StrategyBacktestEngine` runs as `BacktestEngine` does. -/
def TargetSetup.calculateTarget (setup : TargetSetup) (raw : RawFrames) :
    Py (Series Session TargetRow) := do
  let tqqq ← setup.parts.run setup.config (setup.engineInput raw "TQQQ" raw.tqqq [])
  let soxl ← setup.parts.run setup.config
    (setup.engineInput raw "SOXL" raw.soxl [("SOXX", raw.soxx), ("SMH", raw.smh)])
  let activeTqqq ← virtualActiveSeries tqqq raw.common
  let activeSoxl ← virtualActiveSeries soxl raw.common
  replayTargets setup.ops setup.volatilityBrake (reindex raw.qqq raw.common)
    (reindex raw.soxx raw.common) activeTqqq activeSoxl

end JdHoldings

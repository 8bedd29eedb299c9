import Mathlib.Data.Prod.Lex
import JdHoldings.Core.Allocation
import JdHoldings.Library.Series

/-!
# The replay of the allocation targets

`replay_targets` walks over the sessions its four inputs have in common and keeps one
state: the month it is in, the leverage of the month and whether the semiconductor sleeve
is on.  A new month decides both again; within a month they can only be taken back.  Each
session's state gives the target row of the session: base weights, then the overlay.

The features are floats in the source.  Here they are elements of an ordered type, with
`none` for NaN, and the operations they are computed with are parameters: the replay only
compares them.  The leverage levels and the weights are exact.
-/

namespace JdHoldings

/-! ## Sessions and bars -/

/-- The `pd.Timestamp` of a daily row: the ordinal of its month, and the day in it. -/
abbrev Session := ℕ ×ₗ ℕ

/-- `timestamp.to_period("M")`. -/
def Session.month (timestamp : Session) : ℕ := (ofLex timestamp).1

theorem Session.month_le_month {timestamp later : Session} (hle : timestamp ≤ later) :
    timestamp.month ≤ later.month := by
  rcases Prod.Lex.le_iff.mp hle with hlt | ⟨heq, -⟩
  · exact hlt.le
  · exact heq.le

/-- A row of a normalized OHLCV frame; `none` is NaN. -/
structure Bar (α : Type*) where
  open_ : Option α
  high : Option α
  low : Option α
  close : Option α
  volume : Option α
deriving DecidableEq, Repr

/-! ## Features -/

/-- The float operations the indicators use. -/
structure FloatOps (α : Type*) where
  /-- `now / before - 1`. -/
  growth : α → α → Option α
  /-- `mean` of a full window. -/
  mean : List α → Option α
  /-- `std` of a full window, times the root of 252. -/
  annualStd : List α → Option α

section Features

variable {α : Type*}

/-- `rolling(window)`: NaN until the window is full, and wherever NaN is in it. -/
def rollingWindow (window : ℕ) (f : List α → Option α) (past : List (Option α)) : Option α :=
  if window ≤ past.length then ((past.take window).mapM id).bind f else none

/-- `column / column.shift(lookback) - 1`. -/
def growthOver (ops : FloatOps α) (lookback : ℕ) (past : List (Option α)) : Option α := do
  let now ← past.head?.join
  let before ← past[lookback]?.join
  ops.growth now before

/-- A column computed from a column, at every row back to the first one. -/
def lookBack {ρ σ : Type*} (f : List ρ → σ) : List ρ → List σ
  | [] => []
  | row :: past => f (row :: past) :: lookBack f past

/-- The columns of `build_qqq_features` the replay reads. -/
structure QqqRow (α : Type*) where
  close : Option α
  smaShort : Option α
  smaLong : Option α
  retShort : Option α
  retMedium : Option α
  retLong : Option α
  volatility : Option α
  smaLongSlope : Option α

/-- The column of `build_rs_features` the replay reads. -/
structure RsRow (α : Type*) where
  rsReturn : Option α

def V322Policy.smaShort : ℕ := 50
def V322Policy.smaLong : ℕ := 200
def V322Policy.slopeLookback : ℕ := 21
def V322Policy.momentumShort : ℕ := 21
def V322Policy.momentumMedium : ℕ := 63
def V322Policy.momentumLong : ℕ := 126
def V322Policy.volatilityWindow : ℕ := 20
def V322Policy.trendVotesRequired : ℕ := 3
def V322Policy.rsLookback : ℕ := 126
def V322Policy.leverageDefensive : Decimal := 1 / 2
def V322Policy.leverageNormal : Decimal := 1
def V322Policy.leverageTrend : Decimal := 5 / 4
def V322Policy.leverageStrong : Decimal := 3 / 2

/-- The row `build_qqq_features` writes, from the closes up to it. -/
def qqqFeatures (ops : FloatOps α) (past : List (Option α)) : QqqRow α where
  close := past.head?.join
  smaShort := rollingWindow V322Policy.smaShort ops.mean past
  smaLong := rollingWindow V322Policy.smaLong ops.mean past
  retShort := growthOver ops V322Policy.momentumShort past
  retMedium := growthOver ops V322Policy.momentumMedium past
  retLong := growthOver ops V322Policy.momentumLong past
  volatility := rollingWindow V322Policy.volatilityWindow ops.annualStd
    (lookBack (growthOver ops 1) past)
  smaLongSlope := growthOver ops V322Policy.slopeLookback
    (lookBack (rollingWindow V322Policy.smaLong ops.mean) past)

/-- `build_qqq_features`. -/
def buildQqqFeatures (ops : FloatOps α) (frame : Series Session (Bar α)) :
    Series Session (QqqRow α) :=
  frame.rolling fun past => qqqFeatures ops (past.map fun row => row.2.close)

/-- `build_rs_features`. -/
def buildRsFeatures (ops : FloatOps α) (frame : Series Session (Bar α)) :
    Series Session (RsRow α) :=
  frame.rolling fun past =>
    ⟨growthOver ops V322Policy.rsLookback (past.map fun row => row.2.close)⟩

end Features

/-! ## The monthly state -/

section State

variable {α : Type*} [LinearOrder α] [Zero α]

/-- A row with none of the seven features missing, as `_row_ready` asks. -/
structure ReadyRow (α : Type*) where
  smaShort : α
  smaLong : α
  retShort : α
  retMedium : α
  retLong : α
  volatility : α
  smaLongSlope : α

/-- `_row_ready`. -/
def QqqRow.ready? (row : QqqRow α) : Option (ReadyRow α) := do
  return {
    smaShort := ← row.smaShort
    smaLong := ← row.smaLong
    retShort := ← row.retShort
    retMedium := ← row.retMedium
    retLong := ← row.retLong
    volatility := ← row.volatility
    smaLongSlope := ← row.smaLongSlope
  }

/-- `trend_vote`. -/
def trendVote (row : QqqRow α) : Bool :=
  match row.ready? with
  | none => false
  | some ready =>
      let votes := [decide (0 < ready.retShort), decide (0 < ready.retMedium),
        decide (0 < ready.retLong), decide (ready.smaLong < ready.smaShort),
        decide (0 < ready.smaLongSlope)].count true
      decide (V322Policy.trendVotesRequired ≤ votes)

/-- `base_leverage`. -/
def baseLeverage (volatilityBrake : α) (row : QqqRow α) : Decimal :=
  match row.ready? with
  | none => V322Policy.leverageNormal
  | some ready =>
      if volatilityBrake ≤ ready.volatility then V322Policy.leverageDefensive
      -- a comparison with NaN is false
      else if row.close.any fun close => decide (close ≤ ready.smaLong) then
        V322Policy.leverageNormal
      else if ready.smaLong < ready.smaShort ∧ 0 < ready.retMedium ∧ 0 < ready.retLong then
        V322Policy.leverageStrong
      else if trendVote row then V322Policy.leverageTrend
      else V322Policy.leverageNormal

/-- `semiconductor_wins`. -/
def semiconductorWins (qqqRow : QqqRow α) (semiRow : RsRow α) : Bool :=
  match qqqRow.retLong, semiRow.rsReturn with
  | some qqqReturn, some semiReturn => decide (0 < semiReturn) && decide (qqqReturn < semiReturn)
  | _, _ => false

/-- `AllocationState`. -/
structure AllocationState where
  month : ℕ
  leverage : Decimal
  semiconductorActive : Bool
deriving DecidableEq, Repr

/-- `advance_state`. -/
def advanceState (volatilityBrake : α) (previous : Option AllocationState) (timestamp : Session)
    (qqqRow : QqqRow α) (semiRow : RsRow α) : AllocationState :=
  let reset : AllocationState :=
    { month := timestamp.month
      leverage := baseLeverage volatilityBrake qqqRow
      semiconductorActive := semiconductorWins qqqRow semiRow }
  match previous with
  | none => reset
  | some previous =>
      if previous.month ≠ timestamp.month then reset
      else
        let brakes : Bool := (qqqRow.volatility.any fun value => decide (volatilityBrake ≤ value))
          && decide (V322Policy.leverageDefensive < previous.leverage)
        { month := timestamp.month
          leverage := if brakes then V322Policy.leverageDefensive else previous.leverage
          semiconductorActive :=
            previous.semiconductorActive && semiconductorWins qqqRow semiRow }

/-- The levels the policy pins. -/
def exposureLevels : List Decimal :=
  [V322Policy.leverageDefensive, V322Policy.leverageNormal, V322Policy.leverageTrend,
    V322Policy.leverageStrong]

theorem baseLeverage_mem (volatilityBrake : α) (row : QqqRow α) :
    baseLeverage volatilityBrake row ∈ exposureLevels := by
  unfold baseLeverage
  cases row.ready? with
  | none => simp [exposureLevels]
  | some ready =>
      dsimp only
      split_ifs <;> simp [exposureLevels]

/-- No more risk than another state. -/
structure AllocationState.NotAbove (later earlier : AllocationState) : Prop where
  leverage_le : later.leverage ≤ earlier.leverage
  semiconductor : later.semiconductorActive → earlier.semiconductorActive

variable (volatilityBrake : α) (previous : AllocationState) (timestamp : Session)
  (qqqRow : QqqRow α) (semiRow : RsRow α)

theorem advanceState_month (previous : Option AllocationState) :
    (advanceState volatilityBrake previous timestamp qqqRow semiRow).month = timestamp.month := by
  cases previous with
  | none => rfl
  | some previous =>
      dsimp only [advanceState]
      split <;> rfl

theorem advanceState_mem (previous : Option AllocationState)
    (hprevious : ∀ state ∈ previous, state.leverage ∈ exposureLevels) :
    (advanceState volatilityBrake previous timestamp qqqRow semiRow).leverage
      ∈ exposureLevels := by
  cases previous with
  | none => exact baseLeverage_mem volatilityBrake qqqRow
  | some previous =>
      dsimp only [advanceState]
      split
      · exact baseLeverage_mem volatilityBrake qqqRow
      · dsimp only
        split
        · simp [exposureLevels]
        · exact hprevious previous rfl

/-- Within its month a state is only taken back. -/
theorem advanceState_notAbove (hmonth : previous.month = timestamp.month) :
    (advanceState volatilityBrake (some previous) timestamp qqqRow semiRow).NotAbove
      previous := by
  have hsame : ¬ previous.month ≠ timestamp.month := not_not.mpr hmonth
  simp only [advanceState, if_neg hsame]
  constructor
  · dsimp only
    split
    · rename_i hbrakes
      exact (of_decide_eq_true (Bool.and_eq_true_iff.mp hbrakes).2).le
    · exact le_refl _
  · intro hactive
    exact (Bool.and_eq_true_iff.mp hactive).1

end State

end JdHoldings

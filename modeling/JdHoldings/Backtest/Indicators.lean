import JdHoldings.Backtest.Engine
import Mathlib.Analysis.SpecialFunctions.Pow.Real

/-!
# Indicators and scoring

The parts of the engine under `strategy.yaml`: the columns of `calculate_indicators` at a row,
from the bars back to the first one, and the score of `calculate_score`.  Every column looks
back only, as `rolling`, `ewm`, `shift` and `diff` do.

Numbers are exact, with two exceptions of the source's own.  The root in the Bollinger band is
a parameter.  The powers of the calibration are only taken to be rounded, so they are compared
with the rounding bounds instead, in whole numbers, which comes to the same.
-/

namespace JdHoldings

/-! ## Columns -/

section Columns

/-- `rolling(window).mean()` of a full window. -/
def meanOf (values : List Decimal) : Decimal := values.sum / values.length

/-- `rolling(window, min_periods=window)`. -/
def fullWindow (window : ℕ) (past : List Decimal) : Option (List Decimal) :=
  if window ≤ past.length then some (past.take window) else none

/-- `ewm(alpha=alpha, adjust=False).mean()`. -/
def ewmMean (alpha : Decimal) : List Decimal → Decimal
  | [] => 0
  | [first] => first
  | value :: before :: past => alpha * value + (1 - alpha) * ewmMean alpha (before :: past)

/-- `ewm(span=span, adjust=False, min_periods=span).mean()`. -/
def calculateEma (span : ℕ) (closes : List Decimal) : Option Decimal :=
  if span ≤ closes.length then some (ewmMean (2 / (span + 1)) closes) else none

/-- `calculate_cci`, of the typical prices. -/
def calculateCci (period : ℕ) (typical : List Decimal) : Option Decimal := do
  let now ← typical.head?
  let values ← fullWindow period typical
  let mean := meanOf values
  let meanDeviation := meanOf (values.map fun value => max (value - mean) (mean - value))
  let denominator := 15 / 1000 * meanDeviation
  return if denominator = 0 then 0 else (now - mean) / denominator

/-- `close.diff()`, without the NaN of its first row. -/
def diffs : List Decimal → List Decimal
  | [] => []
  | [_] => []
  | now :: before :: past => (now - before) :: diffs (before :: past)

/-- `calculate_rsi`. -/
def calculateRsi (period : ℕ) (closes : List Decimal) : Option Decimal :=
  let delta := diffs closes
  if delta.length < period then none
  else
    let averageGain := ewmMean (1 / period) (delta.map fun change => max change 0)
    let averageLoss := ewmMean (1 / period) (delta.map fun change => - min change 0)
    if averageLoss = 0 then some (if 0 < averageGain then 100 else 50)
    else some (100 - 100 / (1 + averageGain / averageLoss))

/-- The numbers of a bar `validate_ohlcv` has passed. -/
structure Ohlcv where
  opened : Decimal
  high : Decimal
  low : Decimal
  close : Decimal
  volume : Decimal

def Bar.values? (bar : Bar Decimal) : Option Ohlcv := do
  return ⟨← bar.open_, ← bar.high, ← bar.low, ← bar.close, ← bar.volume⟩

/-- `true_range`; the first row has no close before it. -/
def trueRanges : List Ohlcv → List Decimal
  | [] => []
  | [bar] => [bar.high - bar.low]
  | bar :: before :: past =>
      max (bar.high - bar.low)
        (max (max (bar.high - before.close) (before.close - bar.high))
          (max (bar.low - before.close) (before.close - bar.low)))
        :: trueRanges (before :: past)

/-- `calculate_atr`, of the true ranges. -/
def calculateAtr (period : ℕ) : List Decimal → Option Decimal
  | [] => none
  | range :: past =>
      if past.length + 1 < period then none
      else if past.length + 1 = period then some (meanOf (range :: past))
      else (calculateAtr period past).map fun prior =>
        (prior * (period - 1) + range) / period

/-- `volume / volume_average`, a window of 20 that leaves out the day itself. -/
def volumeRatio (volumes : List Decimal) : Option (Py Decimal) := do
  let now ← volumes.head?
  let average := meanOf (← fullWindow 20 volumes.tail)
  if average = 0 then
    -- 0 / 0 is NaN, and everything else over 0 is infinite
    if now = 0 then none else return .error (.value "완결되지 않은 지표: volume_ratio")
  else return .ok (now / average)

/-- `close_position`. -/
def Ohlcv.closePosition (bar : Ohlcv) : Decimal :=
  if bar.high - bar.low = 0 then 0 else (bar.close - bar.low) / (bar.high - bar.low)

/-- `bb_lower`. -/
def bollingerLower (sqrt : Decimal → Decimal) (closes : List Decimal) : Option Decimal := do
  let values ← fullWindow 20 closes
  let center := meanOf values
  let variance := meanOf (values.map fun value => (value - center) * (value - center))
  return center - 2 * sqrt variance

/-- The row `calculate_indicators` writes, with the periods of `strategy.yaml`. -/
def calculateIndicatorRow (sqrt : Decimal → Decimal) (bars : List (Bar Decimal)) :
    Option (Py IndicatorColumns) := do
  let rows ← bars.mapM Bar.values?
  let closes := rows.map Ohlcv.close
  let typical := rows.map fun row => (row.high + row.low + row.close) / 3
  let row ← rows.head?
  let ema60 ← calculateEma 60 closes
  let ema20 ← calculateEma 20 closes
  let ema5 ← calculateEma 5 closes
  let cci5 ← calculateCci 5 typical
  let cci10 ← calculateCci 10 typical
  let rsi5 ← calculateRsi 5 closes
  let rsi14 ← calculateRsi 14 closes
  let bbLower ← bollingerLower sqrt closes
  let atr14 ← calculateAtr 14 (trueRanges rows)
  let previousClose ← closes[1]?
  let ratio ← volumeRatio (rows.map Ohlcv.volume)
  return ratio.map fun volumeRatio => {
    previousClose := previousClose
    cci5 := cci5
    cci10 := cci10
    rsi5 := rsi5
    rsi14 := rsi14
    ema5 := ema5
    ema20 := ema20
    ema60 := ema60
    bbLower := bbLower
    atrPct := atr14 / row.close
    volumeRatio := volumeRatio
    closePosition := row.closePosition }

end Columns

/-! ## Scoring -/

/-- `_lte_band_score`: the score of the first band at or above the value. -/
def lteBandScore (value : Decimal) (bands : List (Decimal × ℕ)) : ℕ :=
  ((bands.find? fun band => value ≤ band.1).map Prod.snd).getD 0

/-- `_gte_band_score`: the score of the last band at or below the value. -/
def gteBandScore (value : Decimal) (bands : List (Decimal × ℕ)) : ℕ :=
  bands.foldl (fun score band => if band.1 ≤ value then band.2 else score) 0

/-- `_calibrate_component`: `floor(maximum * (raw / maximum) ** exponent + 0.5)`, with the
exponent in twentieths. -/
def calibrateComponent (maximum exponent rawScore : ℕ) : ℕ :=
  if rawScore = 0 then 0
  else if maximum ≤ rawScore then maximum
  else (List.range' 1 maximum).countP fun score =>
    (2 * score - 1) ^ 20 * maximum ^ exponent ≤ (2 * maximum) ^ 20 * rawScore ^ exponent

/-- The numbers up to a bound are counted by its floor. -/
private theorem countP_le_eq_floor {bound : ℝ} (p : ℕ → Bool) (n : ℕ)
    (hp : ∀ score, 1 ≤ score → (p score = true ↔ (score : ℝ) ≤ bound)) :
    (List.range' 1 n).countP p = min n ⌊bound⌋₊ := by
  induction n with
  | zero => simp
  | succ n ih =>
      rw [List.range'_1_concat, List.countP_append, ih, List.countP_singleton, Nat.add_comm 1 n]
      have hlast := (hp (n + 1) (Nat.succ_pos n)).trans (Nat.le_floor_iff' n.succ_ne_zero).symm
      by_cases hle : n + 1 ≤ ⌊bound⌋₊
      · rw [if_pos (hlast.mpr hle)]
        omega
      · rw [if_neg (mt hlast.mp hle)]
        omega

/-- A score is within the rounding bound of the power exactly as the whole numbers say. -/
private theorem calibrated_iff {maximum exponent rawScore score : ℕ} (hmaximum : 0 < maximum)
    (hscore : 1 ≤ score) :
    (2 * score - 1) ^ 20 * maximum ^ exponent ≤ (2 * maximum) ^ 20 * rawScore ^ exponent ↔
      (score : ℝ) ≤ maximum * ((rawScore : ℝ) / maximum) ^ ((exponent : ℝ) / 20) + 1 / 2 := by
  have hmax : (0 : ℝ) < maximum := by exact_mod_cast hmaximum
  have hratio : (0 : ℝ) ≤ (rawScore : ℝ) / maximum := by positivity
  have hodd : (0 : ℝ) ≤ 2 * score - 1 := by
    have hone : (1 : ℝ) ≤ score := by exact_mod_cast hscore
    linarith
  have hpower : (((rawScore : ℝ) / maximum) ^ ((exponent : ℝ) / 20)) ^ 20
      = ((rawScore : ℝ) / maximum) ^ exponent := by
    rw [← Real.rpow_natCast, ← Real.rpow_mul hratio, ← Real.rpow_natCast]
    norm_num
  have hroot : (0 : ℝ) ≤ ((rawScore : ℝ) / maximum) ^ ((exponent : ℝ) / 20) :=
    Real.rpow_nonneg hratio _
  calc (2 * score - 1) ^ 20 * maximum ^ exponent ≤ (2 * maximum) ^ 20 * rawScore ^ exponent
      ↔ (2 * score - 1 : ℝ) ^ 20 * maximum ^ exponent
          ≤ (2 * maximum) ^ 20 * (rawScore : ℝ) ^ exponent := by
        rw [← Nat.cast_le (α := ℝ)]
        push_cast [Nat.cast_sub (by omega : 1 ≤ 2 * score)]
        rfl
    _ ↔ (2 * score - 1 : ℝ) ^ 20
          ≤ (2 * maximum * ((rawScore : ℝ) / maximum) ^ ((exponent : ℝ) / 20)) ^ 20 := by
        rw [mul_pow _ (((rawScore : ℝ) / maximum) ^ _), hpower, div_pow, ← mul_div_assoc,
          le_div_iff₀ (by positivity)]
    _ ↔ (2 * score - 1 : ℝ)
          ≤ 2 * maximum * ((rawScore : ℝ) / maximum) ^ ((exponent : ℝ) / 20) :=
        pow_le_pow_iff_left₀ hodd (by positivity) (by decide)
    _ ↔ _ := by
        constructor <;> intro h <;> linarith

/-- The calibrated score is the power rounded to the nearest point, a half up. -/
theorem calibrateComponent_eq_floor {maximum exponent rawScore : ℕ} (hpos : 0 < rawScore)
    (hless : rawScore < maximum) :
    calibrateComponent maximum exponent rawScore
      = ⌊(maximum : ℝ) * ((rawScore : ℝ) / maximum) ^ ((exponent : ℝ) / 20) + 1 / 2⌋₊ := by
  have hmaximum : 0 < maximum := hpos.trans hless
  have hmax : (0 : ℝ) < maximum := by exact_mod_cast hmaximum
  rw [calibrateComponent, if_neg hpos.ne', if_neg (not_le.mpr hless),
    countP_le_eq_floor _ maximum fun score hscore => by
      rw [decide_eq_true_eq]
      exact calibrated_iff hmaximum hscore]
  refine min_eq_right (Nat.lt_succ_iff.mp ?_)
  -- The power of a ratio below one stays below the maximum.
  have hone : ((rawScore : ℝ) / maximum) ^ ((exponent : ℝ) / 20) ≤ 1 := by
    refine Real.rpow_le_one (by positivity) ?_ (by positivity)
    rw [div_le_one hmax]
    exact_mod_cast hless.le
  rw [Nat.floor_lt (by positivity)]
  push_cast
  nlinarith

def MarketRegime.score : MarketRegime → ℕ
  | .green => 25
  | .yellow => 15
  | .red => 0

/-- The points of the oversold component. -/
def oversoldScore (snapshot : IndicatorSnapshot) : ℕ :=
  let bands := lteBandScore snapshot.cci5 [(-200, 13), (-150, 10), (-100, 6)]
    + lteBandScore snapshot.cci10 [(-200, 13), (-150, 10), (-100, 6)]
    + lteBandScore snapshot.rsi5 [(20, 7), (25, 5), (30, 3)]
    + lteBandScore snapshot.rsi14 [(35, 4), (40, 2)]
  let bollinger :=
    if snapshot.close ≤ snapshot.bbLower * (98 / 100) then 3
    else if snapshot.close ≤ snapshot.bbLower then 2
    else 0
  min 40 (bands + bollinger)

/-- The points of the reversal component: five for each condition. -/
def reversalScore (snapshot : IndicatorSnapshot) : ℕ :=
  [decide (snapshot.open_ < snapshot.close), decide (snapshot.previousClose < snapshot.close),
    decide (snapshot.ema5 < snapshot.close),
    decide (1 / 2 ≤ snapshot.closePosition)].count true * 5

/-- The points of the volatility component. -/
def atrScore (snapshot : IndicatorSnapshot) : ℕ :=
  if snapshot.atrPct < 1 / 100 then 0
  else if snapshot.atrPct < 2 / 100 then 3
  else if snapshot.atrPct ≤ 10 / 100 then 5
  else 2

/-- `calculate_score`. -/
def calculateScore (snapshot : IndicatorSnapshot) (regime : MarketRegime) : ScoreResult :=
  let reversal := calibrateComponent 20 11 (reversalScore snapshot)
  let volume := gteBandScore snapshot.volumeRatio [(1, 2), (12 / 10, 4), (15 / 10, 7), (2, 10)]
  { total := min 100 (calibrateComponent 25 20 regime.score
      + calibrateComponent 40 9 (oversoldScore snapshot) + reversal
      + calibrateComponent 10 13 volume + calibrateComponent 5 18 (atrScore snapshot))
    reversalScore := reversal
    regime := regime }

/-- The parts of the engine under `strategy.yaml`. -/
def EngineParts.strategyYaml (sqrt : Decimal → Decimal) : EngineParts where
  minimumRows := 60
  indicators := calculateIndicatorRow sqrt
  calculateScore := JdHoldings.calculateScore
  pctChange now before := now / before - 1

/-! ## Frames to run it on -/

namespace SampleFrames

/-- A day counted from the first one, with 21 sessions in a month. -/
def session (day : ℕ) : Session := toLex (day / 21, day % 21 + 1)

theorem session_lt {day later : ℕ} (hlt : day < later) : session day < session later := by
  refine Prod.Lex.toLex_lt_toLex.mpr ?_
  dsimp only
  omega

/-- The frame of the days from 1 to `last`. -/
def frame (last : ℕ) (bar : ℕ → Bar Decimal) : Frame where
  rows := (List.range' 1 last).map fun day => (session day, bar day)
  sorted := by
    have hrange : (List.range' 1 last).Pairwise (· < ·) := List.pairwise_lt_range'
    exact List.pairwise_map.mpr (hrange.imp session_lt)

theorem frame_upTo {last cut : ℕ} {bar bar' : ℕ → Bar Decimal}
    (hsame : ∀ day ≤ cut, bar day = bar' day) :
    (frame last bar).upTo (session cut) = (frame last bar').upTo (session cut) := by
  refine Series.eq_of_rows ?_
  simp only [Series.upTo, frame, List.filter_map]
  refine List.map_congr_left fun day hday => ?_
  have hle : day ≤ cut := by
    by_contra hlater
    have hkept := (List.mem_filter.mp hday).2
    exact absurd (session_lt (not_le.mp hlater)) (not_lt.mpr (by simpa using hkept))
  rw [hsame day hle]

def bar (opened high low close volume : Decimal) : Bar Decimal :=
  ⟨some opened, some high, some low, some close, some volume⟩

/-- A session that moves by one around its open. -/
def calm (price : Decimal) : Bar Decimal := bar price (price + 1) (price - 1) price 1000

/-- A fall with a recovery on the sixtieth day, which the engine enters after. -/
def falling (day : ℕ) : Bar Decimal :=
  match day with
  | 60 => bar 95 101 94 100 2000
  | 61 => bar 100 101 99 101 1000
  | 62 => bar 101 102 100 101 1000
  | _ => bar 110 110 110 110 1000

/-- A market that stays where it is. -/
def market : Frame := frame 64 fun _ => calm 100

/-- Heron's steps down to the whole root of a number. -/
def heron (number : ℕ) : ℕ → ℕ → ℕ
  | 0, guess => guess
  | steps + 1, guess =>
      let next := (guess + number / guess) / 2
      if next < guess then heron number steps next else guess

/-- A root to twelve digits. -/
def root (value : Decimal) : Decimal :=
  let number := ⌊value * 10 ^ 24⌋.toNat
  heron number 200 (number + 1) / 10 ^ 12

example : root 2 = 1414213562373 / 10 ^ 12 := by decide +kernel

def parts : EngineParts := .strategyYaml root

/-- Exact growth and mean, and a volatility with the roots to twelve digits. -/
def ops : FloatOps Decimal where
  growth now before := some (now / before - 1)
  mean closes := some (meanOf closes)
  annualStd growths :=
    let mean := meanOf growths
    let squares := growths.map fun value => (value - mean) * (value - mean)
    some (root (squares.sum / (growths.length - 1)) * root 252)

end SampleFrames

end JdHoldings

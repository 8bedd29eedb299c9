import JdHoldings.Infrastructure.Candles
import JdHoldings.Infrastructure.MarketData

/-!
# Daily bars from Yahoo and Toss

When Yahoo does not reach the requested end, `daily` patches recent Toss candles onto the
best series there is, and returns what covers the start and the end of the range.

Both ends are tested, and a frame is strictly increasing however it was made.  The place
where the candles meet the base is not tested: after an outage longer than the Toss window
the sessions in between are missing (`daily_leaves_hole`).  They are there exactly when no
session lies between the base and the window (`daily_whole_iff`).
-/

namespace JdHoldings

/-- A `YahooTossDualDataSource`, and what the providers answer to one call of it.  The Toss
client answers each attempt. -/
structure YahooTossDualDataSource where
  cacheDir : CacheDir
  yahoo : YFinanceDataSource.Answers
  tossClient : Option (ℕ → Except DataError (List (Candle DailyBar)))

namespace YahooTossDualDataSource

open YFinanceDataSource (sliceFrame bestCache writeCache cacheStartGraceDays)

/-- `TOSS_DAILY_FALLBACK_ATTEMPTS`. -/
def tossDailyFallbackAttempts : ℕ := 3

/-- `_covers_requested_end`. -/
def coversRequestedEnd (frame : DailyFrame) : Option ℕ → Bool
  | none => !frame.isEmpty
  | some end_ => frame.last?.any fun newest => decide (end_ ≤ newest)

/-- `_covers_requested_start`. -/
def coversRequestedStart (frame : DailyFrame) (start : ℕ) : Bool :=
  frame.first?.any fun first => decide (first ≤ start + cacheStartGraceDays)

/-- The attempts of `_get_toss_candles`. -/
def tossAttempts (symbol : String) (getCandles : ℕ → Except DataError (List (Candle DailyBar))) :
    List ℕ → Except DataError (List (Candle DailyBar))
  | [] => .error (.marketData ("토스 일봉 조회 실패: " ++ symbol.toUpper))
  | attempt :: rest =>
      match getCandles attempt with
      | .ok candles => if candles.isEmpty then tossAttempts symbol getCandles rest else .ok candles
      | .error (.tossApi error) =>
          if !error.retryable || tossDailyFallbackAttempts ≤ attempt then .error (.tossApi error)
          else tossAttempts symbol getCandles rest
      | .error error =>
          if tossDailyFallbackAttempts ≤ attempt then .error error
          else tossAttempts symbol getCandles rest

/-- `_get_toss_candles`. -/
def getTossCandles (source : YahooTossDualDataSource) (symbol : String) :
    Except DataError (List (Candle DailyBar)) :=
  match source.tossClient with
  | none => .error (.marketData "토스 일봉 fallback client가 구성되지 않았습니다")
  | some getCandles =>
      tossAttempts symbol getCandles (List.range' 1 tossDailyFallbackAttempts)

section Source

variable (order : Series.RowSort ℕ DailyBar) (timestampDate : String → Option ℕ)

/-- The date and the bar of a candle, if its timestamp can be read.  `timestampDate` is
`pd.Timestamp(text).date()`. -/
def candleRow (candle : Candle DailyBar) : Option (ℕ × DailyBar) :=
  if !candle.timestamp.truthy then none
  else (timestampDate candle.timestamp.str).map fun date => (date, candle.fields)

/-- `_normalize_toss_candles`. -/
def normalizeTossCandles (candles : List (Candle DailyBar)) : Except DataError DailyFrame := do
  let records := candles.filterMap (candleRow timestampDate)
  raiseIf (records.isEmpty = true)
    (.marketData "토스 일봉 응답에 사용 가능한 OHLCV가 없습니다")
  normalizeOhlcv order { columns := requiredColumns, rows := records }

variable (source : YahooTossDualDataSource)

/-- The candles that patch the base. -/
def tossFrame (symbol : String) : Except DataError DailyFrame := do
  let candles ← source.getTossCandles symbol
  normalizeTossCandles order timestampDate candles

/-- The series the candles are patched onto, if it has bars. -/
def fallbackBase (cacheDir : CacheDir) (symbol : String) (start : ℕ) (end_ : Option ℕ)
    (yahooFrame : Option DailyFrame) : Option DailyFrame :=
  match yahooFrame.filter fun frame => !frame.isEmpty with
  | some frame => some frame
  | none => (bestCache order cacheDir symbol start end_ false).filter fun frame => !frame.isEmpty

/-- The bars of both, the candle where both have one. -/
def mergeFrames (base : Option DailyFrame) (toss : DailyFrame) : DailyFrame :=
  match base with
  | some base => Series.ofRows order (base.rows ++ toss.rows)
  | none => toss

/-- `_toss_daily_fallback`. -/
def tossDailyFallback (cacheDir : CacheDir) (symbol : String) (start : ℕ) (end_ : Option ℕ)
    (yahooFrame : Option DailyFrame) : CacheDir × Except DataError DailyFrame :=
  match source.tossFrame order timestampDate symbol with
  | .error error => (cacheDir, .error error)
  | .ok toss =>
      let base := fallbackBase order cacheDir symbol start end_ yahooFrame
      let selected := sliceFrame (mergeFrames order base toss) start end_
      if !coversRequestedStart selected start then
        (cacheDir, .error (.marketData ("토스 fallback의 " ++ symbol.toUpper ++
          " 장기 이력이 전략 warmup 시작점을 덮지 못합니다")))
      else if !coversRequestedEnd selected end_ then
        (cacheDir, .error (.marketData ("Yahoo/Toss 모두 " ++ symbol.toUpper ++
          " 최신 완결 일봉을 제공하지 못했습니다 (latest=" ++
          (selected.last?.map dateText).getD "none" ++ ", expected=" ++
          (end_.map dateText).getD "latest" ++ ")")))
      else (writeCache cacheDir symbol start end_ selected, .ok selected)

/-- `super().daily`. -/
def yahooDaily (symbol : String) (start : ℕ) (end_ : Option ℕ) (refresh : Bool) :
    CacheDir × Except DataError DailyFrame :=
  YFinanceDataSource.daily order source.cacheDir source.yahoo symbol start end_ refresh

/-- `daily` where Yahoo does not do. -/
def afterYahoo (cacheDir : CacheDir) (symbol : String) (start : ℕ) (end_ : Option ℕ)
    (refresh : Bool) (yahooFrame : Option DailyFrame) (yahooError : DataError) :
    CacheDir × Except DataError DailyFrame :=
  if !refresh || source.tossClient.isNone then (cacheDir, .error yahooError)
  else
    match source.tossDailyFallback order timestampDate cacheDir symbol start end_ yahooFrame with
    | (cacheDir, .ok frame) => (cacheDir, .ok frame)
    | (cacheDir, .error (.marketData message)) => (cacheDir, .error (.marketData message))
    | (cacheDir, .error _) =>
        (cacheDir, .error (.marketData ("Yahoo/Toss 일봉 이중화 실패: " ++ symbol.toUpper)))

/-- `daily`, and the cache it leaves. -/
def daily (symbol : String) (start : ℕ) (end_ : Option ℕ) (refresh : Bool) :
    CacheDir × Except DataError DailyFrame :=
  match source.yahooDaily order symbol start end_ refresh with
  | (cacheDir, .ok frame) =>
      if !refresh || coversRequestedEnd frame end_ then (cacheDir, .ok frame)
      else
        source.afterYahoo order timestampDate cacheDir symbol start end_ refresh (some frame)
          (.marketData ("Yahoo 최신 일봉 누락: " ++ symbol.toUpper ++ " latest=" ++
            (frame.last?.map dateText).getD "" ++ " expected=" ++
            (end_.map dateText).getD "latest"))
  | (cacheDir, .error (.marketData message)) =>
      source.afterYahoo order timestampDate cacheDir symbol start end_ refresh none
        (.marketData message)
  | (cacheDir, .error error) => (cacheDir, .error error)

end Source

/-! ## What a call returns -/

/-- The pieces of a merge: what the call patches, and the candles it patches it with. -/
structure Merges (order : Series.RowSort ℕ DailyBar) (timestampDate : String → Option ℕ)
    (source : YahooTossDualDataSource) (symbol : String) (start end_ : ℕ)
    (base toss : DailyFrame) : Prop where
  /-- Yahoo's answer does not do. -/
  short : ∀ frame, (source.yahooDaily order symbol start (some end_) true).2 = .ok frame →
    coversRequestedEnd frame (some end_) = false
  base_eq : fallbackBase order (source.yahooDaily order symbol start (some end_) true).1 symbol
    start (some end_) (source.yahooDaily order symbol start (some end_) true).2.toOption = some base
  toss_eq : source.tossFrame order timestampDate symbol = .ok toss

/-- Session `session` of the range lies between the base and the candles. -/
structure Between (start end_ : ℕ) (base toss : DailyFrame) (session : ℕ) : Prop where
  start_le : start ≤ session
  le_end : session ≤ end_
  after_base : ∀ last, base.last? = some last → last < session
  before_toss : ∀ first, toss.first? = some first → session < first

/-- The bars of the frame reach the requested end. -/
def ReachesEnd (frame : DailyFrame) (end_ : ℕ) : Prop :=
  ∃ newest, frame.last? = some newest ∧ end_ ≤ newest

/-- A returned frame as it should be: strictly increasing, up to the requested end, and
with every session between the pieces it was merged from. -/
def Whole (order : Series.RowSort ℕ DailyBar) (timestampDate : String → Option ℕ)
    (source : YahooTossDualDataSource) (symbol : String) (start end_ : ℕ) (sessions : Set ℕ)
    (frame : DailyFrame) : Prop :=
  frame.index.Pairwise (· < ·) ∧ ReachesEnd frame end_ ∧
    ∀ base toss, Merges order timestampDate source symbol start end_ base toss →
      ∀ session ∈ sessions, Between start end_ base toss session → session ∈ frame.index

theorem reachesEnd_of_covers {frame : DailyFrame} {end_ : ℕ}
    (hcovers : coversRequestedEnd frame (some end_) = true) : ReachesEnd frame end_ := by
  unfold coversRequestedEnd at hcovers
  obtain ⟨newest, hnewest, hle⟩ := (Option.any_eq_true _ _).mp hcovers
  exact ⟨newest, hnewest, of_decide_eq_true hle⟩

section Calls

variable {order : Series.RowSort ℕ DailyBar} {timestampDate : String → Option ℕ}
  {source : YahooTossDualDataSource} {symbol : String} {start : ℕ}

/-- What the fallback returns is the range of the merge, and reaches the end. -/
theorem tossDailyFallback_ok {cacheDir : CacheDir} {end_ : Option ℕ}
    {yahooFrame : Option DailyFrame} {frame : DailyFrame}
    (hframe : (source.tossDailyFallback order timestampDate cacheDir symbol start end_
      yahooFrame).2 = .ok frame) :
    ∃ toss, source.tossFrame order timestampDate symbol = .ok toss ∧
      frame = sliceFrame (mergeFrames order
        (fallbackBase order cacheDir symbol start end_ yahooFrame) toss) start end_ ∧
      coversRequestedEnd frame end_ = true := by
  unfold tossDailyFallback at hframe
  cases htoss : source.tossFrame order timestampDate symbol with
  | error error => simp [htoss] at hframe
  | ok toss =>
      simp only [htoss] at hframe
      split at hframe
      · cases hframe
      · split at hframe
        · cases hframe
        next hcovers =>
          cases hframe
          exact ⟨toss, rfl, rfl, by simpa using hcovers⟩

theorem afterYahoo_ok {cacheDir : CacheDir} {end_ : Option ℕ} {refresh : Bool}
    {yahooFrame : Option DailyFrame} {yahooError : DataError} {frame : DailyFrame}
    (hframe : (source.afterYahoo order timestampDate cacheDir symbol start end_ refresh
      yahooFrame yahooError).2 = .ok frame) :
    (source.tossDailyFallback order timestampDate cacheDir symbol start end_
      yahooFrame).2 = .ok frame := by
  unfold afterYahoo at hframe
  split at hframe
  · cases hframe
  · rcases hfallback : source.tossDailyFallback order timestampDate cacheDir symbol start end_
      yahooFrame with ⟨left, error | found⟩
    · cases error <;> simp [hfallback] at hframe
    · simpa [hfallback] using hframe

/-- A frame of a refreshing call is Yahoo's and reaches the end, or it comes of the
fallback. -/
theorem daily_ok {end_ : ℕ} {frame : DailyFrame}
    (hframe : (source.daily order timestampDate symbol start (some end_) true).2 = .ok frame) :
    ((source.yahooDaily order symbol start (some end_) true).2 = .ok frame ∧
        coversRequestedEnd frame (some end_) = true) ∨
      (∀ yahoo, (source.yahooDaily order symbol start (some end_) true).2 = .ok yahoo →
        coversRequestedEnd yahoo (some end_) = false) ∧
      (source.tossDailyFallback order timestampDate
        (source.yahooDaily order symbol start (some end_) true).1 symbol start (some end_)
        (source.yahooDaily order symbol start (some end_) true).2.toOption).2 = .ok frame := by
  unfold daily at hframe
  rcases hyahoo : source.yahooDaily order symbol start (some end_) true with ⟨cacheDir, error | yahoo⟩
  · right
    cases error with
    | marketData message =>
        simp only [hyahoo] at hframe
        refine ⟨?_, afterYahoo_ok hframe⟩
        rintro yahoo ⟨⟩
    | tossApi error => simp [hyahoo] at hframe
    | other name => simp [hyahoo] at hframe
  · simp only [hyahoo, Bool.not_true, Bool.false_or] at hframe
    split at hframe
    next hcovers =>
      left
      cases hframe
      exact ⟨rfl, hcovers⟩
    next hshort =>
      right
      refine ⟨fun frame hok => ?_, afterYahoo_ok hframe⟩
      cases hok
      simpa using hshort

/-- Every frame of a refreshing call reaches the requested end. -/
theorem daily_reachesEnd {end_ : ℕ} {frame : DailyFrame}
    (hframe : (source.daily order timestampDate symbol start (some end_) true).2 = .ok frame) :
    ReachesEnd frame end_ := by
  rcases daily_ok hframe with ⟨-, hcovers⟩ | ⟨-, hfallback⟩
  · exact reachesEnd_of_covers hcovers
  · obtain ⟨_, -, -, hcovers⟩ := tossDailyFallback_ok hfallback
    exact reachesEnd_of_covers hcovers

/-- The bars of a merge are those of its pieces in the range. -/
theorem Merges.mem_index {end_ : ℕ} {base toss frame : DailyFrame}
    (hmerges : Merges order timestampDate source symbol start end_ base toss)
    (hframe : (source.daily order timestampDate symbol start (some end_) true).2 = .ok frame)
    {date : ℕ} :
    date ∈ frame.index ↔ (date ∈ base.index ∨ date ∈ toss.index) ∧ start ≤ date ∧ date ≤ end_ := by
  rcases daily_ok hframe with ⟨hyahoo, hcovers⟩ | ⟨-, hfallback⟩
  · -- Yahoo's answer would have done
    rw [hmerges.short frame hyahoo] at hcovers
    cases hcovers
  · obtain ⟨found, hfound, rfl, -⟩ := tossDailyFallback_ok hfallback
    have hsame : toss = found := Except.ok.inj (hmerges.toss_eq.symm.trans hfound)
    rw [hmerges.base_eq, ← hsame, sliceFrame, mergeFrames, Series.mem_index_select,
      Series.mem_index_merge]
    simp only [Option.all_some, Bool.and_eq_true, decide_eq_true_eq]

/-- A session between the pieces is in neither. -/
theorem Between.not_mem {end_ : ℕ} {base toss : DailyFrame} {session : ℕ}
    (hbetween : Between start end_ base toss session) :
    session ∉ base.index ∧ session ∉ toss.index := by
  constructor
  · intro hmem
    cases hlast : base.last? with
    | none => simp [List.getLast?_eq_none_iff.mp hlast] at hmem
    | some last =>
        have hle := Series.le_of_getLast? hlast hmem
        have hlt := hbetween.after_base last hlast
        omega
  · intro hmem
    cases hfirst : toss.first? with
    | none => simp [List.head?_eq_none_iff.mp hfirst] at hmem
    | some first =>
        have hle := Series.le_of_head? hfirst hmem
        have hlt := hbetween.before_toss first hfirst
        omega

/-- A call that returns no frame raises `MarketDataError`. -/
theorem daily_raises {end_ : Option ℕ} {refresh : Bool} {error : DataError}
    (hraised : (source.daily order timestampDate symbol start end_ refresh).2 = .error error) :
    ∃ message, error = .marketData message := by
  have hfallback : ∀ cacheDir yahooFrame message,
      (source.afterYahoo order timestampDate cacheDir symbol start end_ refresh yahooFrame
        (.marketData message)).2 = .error error → ∃ message, error = .marketData message := by
    intro cacheDir yahooFrame message hraised
    unfold afterYahoo at hraised
    split at hraised
    · cases hraised
      exact ⟨message, rfl⟩
    · split at hraised
      · cases hraised
      · cases hraised
        exact ⟨_, rfl⟩
      · cases hraised
        exact ⟨_, rfl⟩
  unfold daily at hraised
  rcases hyahoo : source.yahooDaily order symbol start end_ refresh with ⟨cacheDir, raised | yahoo⟩
  · obtain ⟨message, rfl⟩ : ∃ message, raised = .marketData message :=
      YFinanceDataSource.daily_raises order (congrArg Prod.snd hyahoo)
    simp only [hyahoo] at hraised
    exact hfallback cacheDir none message hraised
  · simp only [hyahoo] at hraised
    split at hraised
    · cases hraised
    · exact hfallback cacheDir (some yahoo) _ hraised

/-- The frame of a refreshing call is whole exactly when no session lies between the pieces
it was merged from. -/
theorem daily_whole_iff {end_ : ℕ} {frame : DailyFrame} (sessions : Set ℕ)
    (hframe : (source.daily order timestampDate symbol start (some end_) true).2 = .ok frame) :
    Whole order timestampDate source symbol start end_ sessions frame ↔
      ∀ base toss, Merges order timestampDate source symbol start end_ base toss →
        ∀ session ∈ sessions, ¬Between start end_ base toss session := by
  constructor
  · rintro ⟨-, -, hwhole⟩ base toss hmerges session hsession hbetween
    have hmem := hwhole base toss hmerges session hsession hbetween
    obtain ⟨hbase, htoss⟩ := hbetween.not_mem
    rcases ((hmerges.mem_index hframe).mp hmem).1 with hin | hin
    · exact hbase hin
    · exact htoss hin
  · intro hadjoins
    refine ⟨frame.sorted_index, daily_reachesEnd hframe, ?_⟩
    intro base toss hmerges session hsession hbetween
    exact absurd hbetween (hadjoins base toss hmerges session hsession)

end Calls

/-! ## After an outage -/

/-- A bar of one price. -/
def flatBar (price : Decimal) : DailyBar := ⟨some price, some price, some price, some price, some 1000⟩

/-- Two timestamps of Toss, of the 11th and the 14th of September 2026. -/
def septemberDate (text : String) : Option ℕ :=
  if text = "2026-09-11T22:30:00+09:00" then some 739870
  else if text = "2026-09-14T22:30:00+09:00" then some 739873
  else none

/-- Yahoo does not answer.  Toss has the 11th and the 14th of September, and the cache two
days before them, the later of which is `cached`. -/
def outage (cached : ℕ) : YahooTossDualDataSource where
  cacheDir := some [{
    symbol := "SOXL"
    start := 739677
    «end» := some cached
    content := some {
      columns := requiredColumns
      rows := [(739677, flatBar 100), (cached, flatBar 101)] } }]
  yahoo := { download := fun _ => none, history := none }
  tossClient := some fun _ => .ok [
    { timestamp := .text "2026-09-11T22:30:00+09:00", fields := flatBar 120 },
    { timestamp := .text "2026-09-14T22:30:00+09:00", fields := flatBar 121 }]

/-- Monday to Friday. -/
def weekdays : Set ℕ := {day | 1 ≤ day % 7 ∧ day % 7 ≤ 5}

/-- What the cache and Toss hold of it. -/
def outageBase (cached : ℕ) (hcached : 739677 < cached) : DailyFrame where
  rows := [(739677, flatBar 100), (cached, flatBar 101)]
  sorted := by simpa using hcached

def outageToss : DailyFrame where
  rows := [(739870, flatBar 120), (739873, flatBar 121)]
  sorted := by simp

/-- The cache ends on the tenth of September, the day before the window of Toss. -/
theorem daily_whole_iff_short_outage :
    ∃ frame, ((outage 739869).daily .insertion septemberDate "SOXL" 739677 (some 739873) true).2 =
        .ok frame ∧
      Whole .insertion septemberDate (outage 739869) "SOXL" 739677 739873 weekdays frame := by
  have hreturns : (((outage 739869).daily .insertion septemberDate "SOXL" 739677 (some 739873)
      true).2.toOption.map Series.index) = some [739677, 739869, 739870, 739873] := by
    decide +kernel
  cases hframe : ((outage 739869).daily .insertion septemberDate "SOXL" 739677 (some 739873)
      true).2 with
  | error error =>
      rw [hframe] at hreturns
      cases hreturns
  | ok frame =>
      refine ⟨frame, rfl, (daily_whole_iff weekdays hframe).mpr ?_⟩
      intro base toss hmerges session _ hbetween
      have hbase : base = outageBase 739869 (by decide) := by
        refine Option.some.inj (hmerges.base_eq.symm.trans ?_)
        decide +kernel
      have htoss : toss = outageToss := by
        refine Except.ok.inj (hmerges.toss_eq.symm.trans ?_)
        decide +kernel
      subst hbase htoss
      have hafter : 739869 < session := hbetween.after_base 739869 rfl
      have hbefore : session < 739870 := hbetween.before_toss 739870 rfl
      omega

theorem outage_merges :
    Merges .insertion septemberDate (outage 739678) "SOXL" 739677 739873
      (outageBase 739678 (by decide)) outageToss := by
  have hshort : ((outage 739678).yahooDaily .insertion "SOXL" 739677 (some 739873) true).2.toOption
      = none := by
    decide +kernel
  constructor
  case short =>
    intro frame hframe
    rw [hframe] at hshort
    cases hshort
  case base_eq => decide +kernel
  case toss_eq => decide +kernel

/-- The cache ends on the third of March.  The frame returned has no bar from there to the
window of Toss. -/
theorem daily_leaves_hole :
    ∃ frame, ((outage 739678).daily .insertion septemberDate "SOXL" 739677 (some 739873) true).2 =
        .ok frame ∧
      frame.index = [739677, 739678, 739870, 739873] ∧
      ¬Whole .insertion septemberDate (outage 739678) "SOXL" 739677 739873 weekdays frame := by
  have hindex : (((outage 739678).daily .insertion septemberDate "SOXL" 739677 (some 739873)
      true).2.toOption.map Series.index) = some [739677, 739678, 739870, 739873] := by
    decide +kernel
  cases hframe : ((outage 739678).daily .insertion septemberDate "SOXL" 739677 (some 739873)
      true).2 with
  | error error =>
      rw [hframe] at hindex
      cases hindex
  | ok frame =>
      rw [hframe] at hindex
      have hdates := Option.some.inj hindex
      refine ⟨frame, rfl, hdates, fun hwhole => ?_⟩
      -- the fourth of March, a Wednesday
      have hbetween : Between 739677 739873 (outageBase 739678 (by decide)) outageToss 739679 := by
        refine ⟨by decide, by decide, ?_, ?_⟩
        · rintro last ⟨⟩
          decide
        · rintro first ⟨⟩
          decide
      have hsession : 739679 ∈ weekdays := ⟨by decide, by decide⟩
      have hmem := hwhole.2.2 _ outageToss outage_merges 739679 hsession hbetween
      rw [hdates] at hmem
      revert hmem
      decide

end YahooTossDualDataSource

end JdHoldings

import Mathlib.Data.List.MinMax
import Mathlib.Data.Prod.Lex
import JdHoldings.Core.Models
import JdHoldings.Library.Calendar
import JdHoldings.Library.Raise
import JdHoldings.Library.Series

/-!
# Daily bars from Yahoo

`normalize_ohlcv` sorts what a provider or a cache file holds and keeps one bar a date, so
a frame is a series under strictly increasing dates.  `YFinanceDataSource.daily` takes the
first answer of three downloads, of the ticker history, and of the cached frames that
reach over the requested range.

Dates are ordinals.
-/

namespace JdHoldings

/-! ## Frames -/

/-- The exceptions of the data sources. -/
inductive DataError where
  /-- `MarketDataError`. -/
  | marketData (message : String)
  | tossApi (error : TossApiError)
  /-- Any other exception class. -/
  | other (name : String)
deriving DecidableEq

/-- One daily bar.  What is no number is NaN. -/
structure DailyBar where
  «open» : Option Decimal
  high : Option Decimal
  low : Option Decimal
  close : Option Decimal
  volume : Option Decimal
deriving DecidableEq

/-- A frame before `normalize_ohlcv`, its column names in lower case and without aliases. -/
structure RawFrame where
  columns : List String
  rows : List (ℕ × DailyBar)

/-- A frame after it. -/
abbrev DailyFrame := Series ℕ DailyBar

/-- `REQUIRED_COLUMNS`. -/
def requiredColumns : List String := ["open", "high", "low", "close", "volume"]

/-- `normalize_ohlcv`. -/
def normalizeOhlcv (order : Series.RowSort ℕ DailyBar) (frame : RawFrame) :
    Except DataError DailyFrame := do
  raiseIf (frame.rows.isEmpty = true) (.marketData "OHLCV 데이터가 비어 있습니다")
  let missing := requiredColumns.filter fun column => column ∉ frame.columns
  raiseIf (missing ≠ []) (.marketData ("OHLCV 필수 컬럼 누락: " ++ ", ".intercalate missing))
  pure (Series.ofRows order frame.rows)

/-- It raises nothing but `MarketDataError`. -/
theorem normalizeOhlcv_raises {order : Series.RowSort ℕ DailyBar} {raw : RawFrame} :
    ∀ error, normalizeOhlcv order raw = .error error → ∃ message, error = .marketData message := by
  refine Except.bind_raises (fun error hraised => ?_) fun _ =>
    Except.bind_raises (fun error hraised => ?_) fun _ _ hraised => nomatch hraised
  · exact ⟨_, (raiseIf_eq_error.mp hraised).2.symm⟩
  · exact ⟨_, (raiseIf_eq_error.mp hraised).2.symm⟩

namespace DailyFrame

/-- `frame.index[0]`. -/
def first? (frame : DailyFrame) : Option ℕ := frame.index.head?

/-- `frame.index[-1]`. -/
def last? (frame : DailyFrame) : Option ℕ := frame.index.getLast?

def isEmpty (frame : DailyFrame) : Bool := frame.rows.isEmpty

end DailyFrame

/-- `date.isoformat`. -/
def dateText (date : ℕ) : String :=
  String.ofList ((Iso.padded 4 (Gregorian.year date) ++ [45] ++
    Iso.padded 2 (Gregorian.month date) ++ [45] ++
    Iso.padded 2 (Gregorian.dayOfMonth date)).map Char.ofNat)

/-! ## The cache -/

/-- A file `{symbol}_{start}_{end}_adjusted.csv`.  A damaged one has no content. -/
structure CacheFile where
  symbol : String
  start : ℕ
  «end» : Option ℕ
  content : Option RawFrame

/-- The files of the cache directory, if there is one. -/
abbrev CacheDir := Option (List CacheFile)

namespace YFinanceDataSource

/-- `CACHE_START_GRACE_DAYS`. -/
def cacheStartGraceDays : ℕ := 180

/-- `_slice_frame`. -/
def sliceFrame (frame : DailyFrame) (start : ℕ) (end_ : Option ℕ) : DailyFrame :=
  frame.select fun date => decide (start ≤ date) && end_.all fun end_ => decide (date ≤ end_)

variable (order : Series.RowSort ℕ DailyBar)

/-- `_read_cache_full`. -/
def readCacheFull (file : CacheFile) : Except DataError DailyFrame :=
  match file.content with
  | none => .error (.other "ValueError")
  | some raw => normalizeOhlcv order raw

/-- What `_best_cache` makes of one file. -/
def candidate (start : ℕ) (end_ : Option ℕ) (requireFullRange : Bool) (file : CacheFile) :
    Option DailyFrame :=
  match readCacheFull order file with
  | .error _ => none
  | .ok full =>
      if full.first?.all fun first => decide (start + cacheStartGraceDays < first) then none
      else if requireFullRange &&
          end_.all fun end_ => full.last?.any fun newest => decide (newest < end_) then none
      else
        let frame := sliceFrame full start end_
        if frame.isEmpty then none else some frame

/-- `_best_cache`: the newest candidate, and of the newest the longest. -/
def bestCache (cacheDir : CacheDir) (symbol : String) (start : ℕ) (end_ : Option ℕ)
    (requireFullRange : Bool) : Option DailyFrame := do
  let files ← cacheDir
  let candidates := (files.filter fun file => file.symbol = symbol.toUpper).filterMap
    (candidate order start end_ requireFullRange)
  candidates.argmax fun frame : DailyFrame => toLex (frame.last?.getD 0, frame.rows.length)

/-- `_cache_path`, where the file is there. -/
def exactFile (cacheDir : CacheDir) (symbol : String) (start : ℕ) (end_ : Option ℕ) :
    Option CacheFile :=
  cacheDir.bind fun files => files.find? fun file =>
    file.symbol = symbol && file.start = start && file.end = end_

/-- `to_csv`, to the path of the request. -/
def writeCache (cacheDir : CacheDir) (symbol : String) (start : ℕ) (end_ : Option ℕ)
    (frame : DailyFrame) : CacheDir :=
  cacheDir.map fun files =>
    { symbol := symbol, start := start, «end» := end_
      content := some { columns := requiredColumns, rows := frame.rows } } ::
      files.filter fun file => ¬(file.symbol = symbol && file.start = start && file.end = end_)

/-! ## The provider -/

/-- What Yahoo answers to the requests of one call: to each attempt of `yf.download`, and
to `Ticker.history`.  An exception is no answer. -/
structure Answers where
  download : ℕ → Option RawFrame
  history : Option RawFrame

/-- `YFINANCE_DOWNLOAD_ATTEMPTS`. -/
def downloadAttempts : ℕ := 3

/-- An answer with rows. -/
def usable (answer : Option RawFrame) : Option RawFrame :=
  answer.filter fun raw => !raw.rows.isEmpty

/-- The frame `daily` has of the provider: the first download with rows, or when
refreshing the history. -/
def providerFrame (answers : Answers) (refresh : Bool) : Option RawFrame :=
  match (List.range' 1 downloadAttempts).findSome? fun attempt => usable (answers.download attempt) with
  | some raw => some raw
  | none => if refresh then usable answers.history else none

/-- The cached frame that `daily` returns without asking. -/
def cachedFrame (cacheDir : CacheDir) (symbol : String) (start : ℕ) (end_ : Option ℕ) :
    Option DailyFrame :=
  match (exactFile cacheDir symbol start end_).map (readCacheFull order) with
  | some (.ok frame) => some (sliceFrame frame start end_)
  | _ => bestCache order cacheDir symbol start end_ true

/-- `daily`, and the cache it leaves. -/
def daily (cacheDir : CacheDir) (answers : Answers) (symbol : String) (start : ℕ)
    (end_ : Option ℕ) (refresh : Bool) : CacheDir × Except DataError DailyFrame :=
  let symbol := symbol.toUpper
  match if refresh then none else cachedFrame order cacheDir symbol start end_ with
  | some frame => (cacheDir, .ok frame)
  | none =>
      match providerFrame answers refresh with
      | none =>
          match bestCache order cacheDir symbol start end_ refresh with
          | some frame => (cacheDir, .ok frame)
          | none => (cacheDir, .error (.marketData ("yfinance 일봉 조회 실패: " ++ symbol)))
      | some raw =>
          match normalizeOhlcv order raw with
          | .error error => (cacheDir, .error error)
          | .ok frame => (writeCache cacheDir symbol start end_ frame, .ok frame)

/-- `daily` raises nothing but `MarketDataError`. -/
theorem daily_raises {cacheDir : CacheDir} {answers : Answers} {symbol : String} {start : ℕ}
    {end_ : Option ℕ} {refresh : Bool} {error : DataError}
    (hraised : (daily order cacheDir answers symbol start end_ refresh).2 = .error error) :
    ∃ message, error = .marketData message := by
  unfold daily at hraised
  dsimp only at hraised
  split at hraised
  · cases hraised
  · split at hraised
    · split at hraised
      · cases hraised
      · cases hraised
        exact ⟨_, rfl⟩
    · split at hraised
      next hnormalize =>
        cases hraised
        exact normalizeOhlcv_raises _ hnormalize
      · cases hraised

end YFinanceDataSource

end JdHoldings

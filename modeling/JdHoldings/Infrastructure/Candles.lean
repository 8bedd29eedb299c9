import Mathlib.Data.Finset.Card
import JdHoldings.Library.Loop

/-!
# Chart pages

`get_candles` asks for page after page, going back in time with the `nextBefore` of the
last answer, and keeps the first candle of each timestamp.  Its only tests for the end are
an empty page, a missing token, and the token of the request repeated.

Whatever it returns is right (`candles_reached`).  It returns when some answer is the last
by these tests, or brings the timestamps asked for (`get_candles_returns_iff`); a server
that alternates between two tokens and has no more candles keeps it asking for ever.
-/

namespace JdHoldings

/-- A value of an answer: null or missing, a text, or anything else, of which only its
text and its truth matter here. -/
inductive JsonValue where
  | null
  | text (value : String)
  | other (str : String) (truthy : Bool)
deriving DecidableEq

namespace JsonValue

/-- `str(value)`. -/
def str : JsonValue → String
  | null => "None"
  | text value => value
  | other str _ => str

/-- `bool(value)`. -/
def truthy : JsonValue → Bool
  | null => false
  | text value => value ≠ ""
  | other _ truthy => truthy

/-- `value == before`, for a token `before` that is a text, or None at first. -/
def equals : JsonValue → Option String → Bool
  | null, before => before.isNone
  | text value, before => before = some value
  | other _ _, _ => false

end JsonValue

/-- A candle: its timestamp, and the rest of it. -/
structure Candle (β : Type) where
  timestamp : JsonValue
  fields : β

/-- The `result` of an answer.  A missing list of candles is empty. -/
structure CandlePage (β : Type) where
  candles : List (Candle β)
  nextBefore : JsonValue

/-- The parameters of a request. -/
structure CandlesRequest where
  symbol : String
  interval : String
  count : ℤ
  adjusted : String
  before : Option String

variable {β : Type}

namespace TossClient

/-- The variables of the loop of `get_candles`, and the requests so far. -/
structure CandlesState (β : Type) where
  remaining : ℤ
  before : Option String := none
  seenTimestamps : List String := []
  candles : List (Candle β) := []
  requests : List CandlesRequest := []

/-- `str(candle.get("timestamp"))`. -/
def timestampOf (candle : Candle β) : String := candle.timestamp.str

/-- One candle of a page. -/
def keepCandle (state : CandlesState β) (candle : Candle β) : CandlesState β :=
  if timestampOf candle ∈ state.seenTimestamps then state
  else { state with
    candles := state.candles ++ [candle]
    seenTimestamps := state.seenTimestamps ++ [timestampOf candle] }

/-- The tests of `get_candles` for the last page. -/
def isLastPage (page : CandlePage β) (before : Option String) : Bool :=
  page.candles.isEmpty || !page.nextBefore.truthy || page.nextBefore.equals before

/-- The body of the loop: the state after it, and whether it breaks. -/
def candlesRound (symbol interval : String) (count : ℤ) (adjusted : Bool)
    (state : CandlesState β) (page : CandlePage β) : CandlesState β × Bool :=
  let request : CandlesRequest := {
    symbol := symbol.toUpper
    interval := interval
    count := min 200 state.remaining
    adjusted := toString adjusted
    before := state.before }
  let kept := page.candles.foldl keepCandle state
  let state' := { kept with
    remaining := count - kept.candles.length
    requests := kept.requests ++ [request] }
  if isLastPage page state.before then (state', true)
  else ({ state' with before := some page.nextBefore.str }, false)

/-- `get_candles`, where the server answers the requests with these pages. -/
def getCandles (symbol interval : String) (count : ℤ) (adjusted : Bool)
    (answers : ℕ → CandlePage β) (fuel : ℕ) : Option (List (Candle β)) :=
  if count < 1 then some []
  else
    (Loop.whileLoop (fun state => decide (0 < state.remaining))
      (candlesRound symbol interval count adjusted) answers fuel 0 { remaining := count }).map
      fun state => state.candles.take count.toNat

/-! ## What the answers bring -/

/-- The candles of the first answers, as they came. -/
def received (answers : ℕ → CandlePage β) (rounds : ℕ) : List (Candle β) :=
  (List.range rounds).flatMap fun round => (answers round).candles

theorem received_succ (answers : ℕ → CandlePage β) (rounds : ℕ) :
    received answers (rounds + 1) = received answers rounds ++ (answers rounds).candles := by
  simp [received, List.range_succ]

/-- The timestamps of the first answers. -/
def timestamps (answers : ℕ → CandlePage β) (rounds : ℕ) : Finset String :=
  ((received answers rounds).map timestampOf).toFinset

/-- The token a request carries, if no answer before was the last. -/
def tokenBefore (answers : ℕ → CandlePage β) : ℕ → Option String
  | 0 => none
  | round + 1 => some (answers round).nextBefore.str

/-- What the loop has kept of the candles received. -/
structure Kept (received : List (Candle β)) (state : CandlesState β) : Prop where
  seen : state.seenTimestamps = state.candles.map timestampOf
  nodup : (state.candles.map timestampOf).Nodup
  sublist : state.candles.Sublist received
  all : ∀ candle ∈ received, timestampOf candle ∈ state.candles.map timestampOf

theorem Kept.keepCandle {received : List (Candle β)} {state : CandlesState β}
    (hkept : Kept received state) (candle : Candle β) :
    Kept (received ++ [candle]) (keepCandle state candle) := by
  unfold TossClient.keepCandle
  split
  next hseen =>
    rw [hkept.seen] at hseen
    refine ⟨hkept.seen, hkept.nodup, hkept.sublist.trans (List.sublist_append_left _ _), ?_⟩
    intro other hother
    rcases List.mem_append.mp hother with hother | hother
    · exact hkept.all other hother
    · rw [List.mem_singleton.mp hother]
      exact hseen
  next hnew =>
    rw [hkept.seen] at hnew
    constructor
    case seen => simp [hkept.seen]
    case nodup =>
      rw [List.map_append, List.map_singleton]
      refine List.nodup_append.mpr ⟨hkept.nodup, List.nodup_singleton _, ?_⟩
      intro first hfirst second hsecond hsame
      rw [List.mem_singleton.mp hsecond] at hsame
      exact hnew (hsame ▸ hfirst)
    case sublist => exact hkept.sublist.append (List.Sublist.refl _)
    case all =>
      intro other hother
      rw [List.map_append]
      rcases List.mem_append.mp hother with hother | hother
      · exact List.mem_append_left _ (hkept.all other hother)
      · rw [List.mem_singleton.mp hother]
        exact List.mem_append_right _ List.mem_cons_self

theorem Kept.page {received : List (Candle β)} {state : CandlesState β}
    (hkept : Kept received state) (candles : List (Candle β)) :
    Kept (received ++ candles) (candles.foldl TossClient.keepCandle state) := by
  induction candles generalizing received state with
  | nil => rwa [List.append_nil]
  | cons candle candles ih =>
      rw [List.append_cons]
      exact ih (hkept.keepCandle candle)

/-- A round that does not break takes the token of its answer. -/
theorem candlesRound_before {symbol interval : String} {count : ℤ} {adjusted : Bool}
    {state : CandlesState β} {page : CandlePage β}
    (hgoes : (candlesRound symbol interval count adjusted state page).2 = false) :
    (candlesRound symbol interval count adjusted state page).1.before =
      some page.nextBefore.str := by
  by_cases hlast : isLastPage page state.before = true
  · simp [candlesRound, hlast] at hgoes
  · simp [candlesRound, hlast]

section Rounds

variable (symbol interval : String) (count : ℤ) (adjusted : Bool) (answers : ℕ → CandlePage β)

/-- The variables of the loop before a round. -/
def candlesBefore : ℕ → CandlesState β :=
  Loop.reached (candlesRound symbol interval count adjusted) answers { remaining := count }

/-- The loop asks again after this round. -/
def AsksAgain : ℕ → Prop :=
  Loop.GoesOn (fun state => decide (0 < state.remaining))
    (candlesRound symbol interval count adjusted) answers { remaining := count }

/-- In every round the loop holds the first candle of each timestamp, in order. -/
theorem candles_reached (round : ℕ) :
    Kept (received answers round) (candlesBefore symbol interval count adjusted answers round) ∧
      (candlesBefore symbol interval count adjusted answers round).remaining =
        count - (candlesBefore symbol interval count adjusted answers round).candles.length := by
  refine Loop.reached_invariant (I := fun round (state : CandlesState β) =>
    Kept (received answers round) state ∧ state.remaining = count - state.candles.length)
    ?_ ?_ round
  · exact ⟨⟨rfl, List.nodup_nil, List.Sublist.refl _, by simp [received]⟩, by simp⟩
  · rintro round state ⟨hkept, -⟩
    have hpage := hkept.page (answers round).candles
    rw [← received_succ] at hpage
    unfold candlesRound
    by_cases hlast : isLastPage (answers round) state.before = true
    · simp only [hlast, if_true]
      exact ⟨⟨hpage.seen, hpage.nodup, hpage.sublist, hpage.all⟩, trivial⟩
    · simp only [hlast, Bool.false_eq_true, if_false]
      exact ⟨⟨hpage.seen, hpage.nodup, hpage.sublist, hpage.all⟩, trivial⟩

/-- As many candles as there are timestamps. -/
theorem candles_length (round : ℕ) :
    (candlesBefore symbol interval count adjusted answers round).candles.length =
      (timestamps answers round).card := by
  obtain ⟨hkept, -⟩ := candles_reached symbol interval count adjusted answers round
  rw [← List.length_map (f := timestampOf), ← List.toFinset_card_of_nodup hkept.nodup]
  congr 1
  ext timestamp
  simp only [timestamps, List.mem_toFinset]
  constructor
  · exact fun hmem => (hkept.sublist.map timestampOf).subset hmem
  · intro hmem
    obtain ⟨candle, hcandle, rfl⟩ := List.mem_map.mp hmem
    exact hkept.all candle hcandle

/-- While no answer was the last, a request carries the token of the answer before. -/
theorem before_reached {round : ℕ}
    (hbefore : ∀ earlier < round, AsksAgain symbol interval count adjusted answers earlier) :
    (candlesBefore symbol interval count adjusted answers round).before =
      tokenBefore answers round := by
  cases round with
  | zero => rfl
  | succ round =>
      obtain ⟨-, hgoes⟩ := hbefore round (Nat.lt_succ_self round)
      exact candlesRound_before hgoes

/-- An answer that ends the loop, seen from the answers alone. -/
def EndsAt (round : ℕ) : Prop :=
  count ≤ (timestamps answers round).card ∨
    isLastPage (answers round) (tokenBefore answers round) = true

theorem asksAgain_iff {round : ℕ}
    (hbefore : ∀ earlier < round, AsksAgain symbol interval count adjusted answers earlier) :
    AsksAgain symbol interval count adjusted answers round ↔ ¬EndsAt count answers round := by
  have htoken := before_reached symbol interval count adjusted answers hbefore
  have hlength := candles_length symbol interval count adjusted answers round
  obtain ⟨-, hremaining⟩ := candles_reached symbol interval count adjusted answers round
  have hbreak : (candlesRound symbol interval count adjusted
      (candlesBefore symbol interval count adjusted answers round) (answers round)).2 =
        isLastPage (answers round) (tokenBefore answers round) := by
    unfold candlesRound
    rw [htoken]
    cases isLastPage (answers round) (tokenBefore answers round) <;> rfl
  have hguard : decide (0 < (candlesBefore symbol interval count adjusted answers round).remaining) =
      true ↔ ¬count ≤ (timestamps answers round).card := by
    rw [decide_eq_true_eq, hremaining, hlength]
    omega
  rw [EndsAt, not_or, ← hguard, Bool.not_eq_true, ← hbreak]
  exact Iff.rfl

/-- The loop ends exactly where the answers end it. -/
theorem exists_stop_iff :
    (∃ round, ¬AsksAgain symbol interval count adjusted answers round) ↔
      ∃ round, EndsAt count answers round := by
  constructor
  · intro hstop
    classical
    have hbefore : ∀ earlier < Nat.find hstop,
        AsksAgain symbol interval count adjusted answers earlier := by
      intro earlier hearlier
      by_contra hnot
      exact Nat.find_min hstop hearlier hnot
    have hends := Nat.find_spec hstop
    rw [asksAgain_iff symbol interval count adjusted answers hbefore, not_not] at hends
    exact ⟨_, hends⟩
  · rintro ⟨round, hends⟩
    by_contra hnever
    have hbefore : ∀ earlier < round,
        AsksAgain symbol interval count adjusted answers earlier := by
      intro earlier _
      by_contra hnot
      exact hnever ⟨earlier, hnot⟩
    refine hnever ⟨round, ?_⟩
    rw [asksAgain_iff symbol interval count adjusted answers hbefore, not_not]
    exact hends

/-- `get_candles` returns exactly when the answers end its loop. -/
theorem getCandles_isSome_iff :
    (∃ fuel result, getCandles symbol interval count adjusted answers fuel = some result) ↔
      count < 1 ∨ ∃ round, EndsAt count answers round := by
  by_cases hcount : count < 1
  · simp [getCandles, hcount]
  · simp only [getCandles, hcount, if_false, false_or, Option.map_eq_some_iff]
    rw [← exists_stop_iff symbol interval count adjusted answers]
    unfold AsksAgain
    rw [← Loop.whileLoop_isSome_iff]
    constructor
    · rintro ⟨fuel, -, final, hfinal, -⟩
      exact ⟨fuel, final, hfinal⟩
    · rintro ⟨fuel, final, hfinal⟩
      exact ⟨fuel, _, final, hfinal, rfl⟩

/-- What `get_candles` should return: no more than asked for, each timestamp once, in the
order received. -/
def RightCandles (result : List (Candle β)) : Prop :=
  result.length ≤ count.toNat ∧ (result.map timestampOf).Nodup ∧
    ∃ rounds, result.Sublist (received answers rounds)

/-- Whatever it returns is right. -/
theorem getCandles_right {fuel : ℕ} {result : List (Candle β)}
    (hresult : getCandles symbol interval count adjusted answers fuel = some result) :
    RightCandles count answers result := by
  unfold getCandles at hresult
  split at hresult
  · cases hresult
    exact ⟨Nat.zero_le _, List.nodup_nil, 0, List.nil_sublist _⟩
  · obtain ⟨final, hfinal, rfl⟩ := Option.map_eq_some_iff.mp hresult
    obtain ⟨last, rfl⟩ := Loop.whileLoop_eq_some hfinal
    obtain ⟨hkept, -⟩ := candles_reached symbol interval count adjusted answers last
    have htake := List.take_sublist count.toNat
      (candlesBefore symbol interval count adjusted answers last).candles
    exact ⟨List.length_take_le _ _, hkept.nodup.sublist (htake.map timestampOf), last,
      htake.trans hkept.sublist⟩

end Rounds

/-- `get_candles` returns what it should exactly when nothing is asked for, or some answer
is the last by its own tests or comes when there are timestamps enough. -/
theorem get_candles_returns_iff (symbol interval : String) (count : ℤ) (adjusted : Bool)
    (answers : ℕ → CandlePage β) :
    (∃ fuel result, getCandles symbol interval count adjusted answers fuel = some result ∧
      RightCandles count answers result) ↔
      count < 1 ∨ ∃ round, EndsAt count answers round := by
  rw [← getCandles_isSome_iff symbol interval count adjusted answers]
  constructor
  · rintro ⟨fuel, result, hresult, -⟩
    exact ⟨fuel, result, hresult⟩
  · rintro ⟨fuel, result, hresult⟩
    exact ⟨fuel, result, hresult, getCandles_right _ _ _ _ _ hresult⟩

/-- The same candle on every page, and two tokens in turn. -/
def alternating (round : ℕ) : CandlePage Unit where
  candles := [⟨.text "2026-01-02T00:00:00Z", ()⟩]
  nextBefore := .text (if round % 2 = 0 then "a" else "b")

/-- Two candles are asked for, and the server alternates: it is asked for ever. -/
theorem get_candles_never_returns :
    ¬∀ answers : ℕ → CandlePage Unit, ∃ fuel result,
      getCandles "QQQ" "1d" 2 true answers fuel = some result ∧
        RightCandles 2 answers result := by
  intro hreturns
  obtain ⟨fuel, result, hresult, -⟩ := hreturns alternating
  have hends := (getCandles_isSome_iff "QQQ" "1d" 2 true alternating).mp ⟨fuel, result, hresult⟩
  rcases hends with hcount | ⟨round, henough | hlast⟩
  · exact absurd hcount (by decide)
  · have hone : timestamps alternating round ⊆ {"2026-01-02T00:00:00Z"} := by
      intro timestamp hmem
      simp only [timestamps, received, List.mem_toFinset, List.mem_map, List.mem_flatMap,
        alternating, List.mem_singleton] at hmem
      obtain ⟨candle, ⟨-, -, rfl⟩, rfl⟩ := hmem
      exact Finset.mem_singleton_self _
    have hcard := Finset.card_le_card hone
    rw [Finset.card_singleton] at hcard
    omega
  · cases round with
    | zero => exact absurd hlast (by decide)
    | succ round =>
        rcases Nat.mod_two_eq_zero_or_one round with heven | hodd
        · have hnext : (round + 1) % 2 = 1 := by omega
          simp [isLastPage, tokenBefore, alternating, JsonValue.truthy, JsonValue.equals,
            JsonValue.str, heven, hnext] at hlast
        · have hnext : (round + 1) % 2 = 0 := by omega
          simp [isLastPage, tokenBefore, alternating, JsonValue.truthy, JsonValue.equals,
            JsonValue.str, hodd, hnext] at hlast

end TossClient

end JdHoldings

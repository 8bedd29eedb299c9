import Mathlib.Algebra.BigOperators.Group.List.Basic
import JdHoldings.Backtest.NoPeeking
import JdHoldings.Library.Clamp

/-!
# What the overlay sees of the engine's holdings

The engine trades on its own sessions, the overlay replays the trades on the sessions of
the allocation.  A trade on a session the allocation does not have is not replayed, and the
clamp at zero can hide a SELL whose BUY was lost.

The engine's own holdings come first: what it holds before a session is what its earlier
trades add up to, and never less than nothing.  The replay, on the other hand, holds the
greatest net quantity of a final stretch of the sessions it has gone through.
-/

namespace JdHoldings

/-! ## The holdings of the engine -/

/-- The shares a trade adds. -/
def Trade.signed (trade : Trade) : ℤ :=
  match trade.side with
  | .buy => trade.quantity
  | .sell => -trade.quantity

/-- The shares some trades leave. -/
def netQuantity (trades : List Trade) : ℤ := (trades.map Trade.signed).sum

theorem netQuantity_append (trades later : List Trade) :
    netQuantity (trades ++ later) = netQuantity trades + netQuantity later := by
  simp [netQuantity]

/-- The shares held before a session. -/
def heldBefore (trades : List Trade) (timestamp : Session) : ℤ :=
  netQuantity (tradesBefore trades timestamp)

/-- Shares were held at some time during a session. -/
def heldDuring (trades : List Trade) (timestamp : Session) : Bool :=
  decide (0 < heldBefore trades timestamp + tradedOn trades .buy timestamp)

theorem SimulationState.afterEntry_quantity {state entered : SimulationState}
    {decision : TradeDecision} {fillPrice gross : Decimal}
    (hentered : state.afterEntry decision fillPrice gross = .ok entered) :
    entered.quantity = state.quantity := by
  unfold afterEntry at hentered
  cases haction : decision.action with
  | firstEntryCandidate =>
      simp only [haction] at hentered
      cases hentered
      rfl
  | addEntryCandidate =>
      simp only [haction] at hentered
      obtain ⟨held, -, hentered⟩ := Except.bind_eq_ok.mp hentered
      cases hentered
      rfl
  | noAction | rebuyCandidate | riskReview | coreRebalanceBuy =>
      simp only [haction] at hentered
      cases hentered
      rfl

theorem fillPending_quantity {config : VirtualConfig} {pending : PendingEntry}
    {state filled : SimulationState} {timestamp : Session} {fillPrice : Decimal} {quantity : ℕ}
    {trade : Trade}
    (hfill : fillPending config pending state timestamp fillPrice quantity
      = .ok (filled, trade)) : (filled.quantity : ℤ) = state.quantity + trade.signed := by
  obtain ⟨entered, hentered, hfill⟩ := Except.bind_eq_ok.mp hfill
  obtain ⟨plan, -, hfill⟩ := Except.bind_eq_ok.mp hfill
  cases hfill
  have hquantity := SimulationState.afterEntry_quantity hentered
  simp only [Trade.signed, hquantity]
  push_cast
  rfl

theorem settlePending_quantity {config : VirtualConfig} {slippage : Decimal}
    {pending : Option PendingEntry} {state opened : SimulationState} {timestamp : Session}
    {nextOpen : Decimal} {bought : List Trade}
    (hsettle : settlePending config slippage pending state timestamp nextOpen
      = .ok (opened, bought)) :
    (opened.quantity : ℤ) = state.quantity + netQuantity bought := by
  cases pending with
  | none =>
      cases hsettle
      simp [netQuantity]
  | some pending =>
      obtain ⟨outcome, houtcome, hsettle⟩ := Except.bind_eq_ok.mp hsettle
      cases outcome with
      | error reason =>
          cases hsettle
          simp [netQuantity]
      | ok fill =>
          obtain ⟨filled, made⟩ := fill
          cases hsettle
          obtain ⟨fillPrice, quantity, hfill⟩ := executePending_eq_fill houtcome
          have hquantity := fillPending_quantity hfill
          simpa [netQuantity] using hquantity

theorem SimulationState.sell_quantity (config : VirtualConfig) (state : SimulationState)
    (timestamp : Session) (price : Decimal) (quantity : ℕ) (purpose : TradePurpose) :
    ((state.sell config timestamp price quantity purpose).1.quantity : ℤ)
      = state.quantity + (state.sell config timestamp price quantity purpose).2.signed := by
  simp only [sell, Trade.signed]
  omega

theorem SimulationState.takeFirstProfit_quantity (config : VirtualConfig)
    (state : SimulationState) (plan : TakeProfitPlan) (timestamp : Session) (high : Decimal) :
    ((state.takeFirstProfit config plan timestamp high).1.quantity : ℤ)
      = state.quantity + netQuantity (state.takeFirstProfit config plan timestamp high).2 := by
  unfold takeFirstProfit
  split
  · have hsell := state.sell_quantity config timestamp plan.tp1Price
      (min plan.tp1Quantity state.quantity) .tp1
    dsimp only
    split <;> simpa [netQuantity] using hsell
  · simp [netQuantity]

theorem SimulationState.takeSecondProfit_quantity (config : VirtualConfig)
    (state : SimulationState) (plan : TakeProfitPlan) (timestamp : Session) (high : Decimal) :
    ((state.takeSecondProfit config plan timestamp high).1.quantity : ℤ)
      = state.quantity + netQuantity (state.takeSecondProfit config plan timestamp high).2 := by
  unfold takeSecondProfit
  split
  · have hsell := state.sell_quantity config timestamp plan.tp2Price state.quantity .tp2
    simpa [netQuantity] using hsell
  · simp [netQuantity]

theorem processTakeProfit_quantity (config : VirtualConfig) (state : SimulationState)
    (timestamp : Session) (high : Decimal) :
    ((processTakeProfit config state timestamp high).1.quantity : ℤ)
      = state.quantity + netQuantity (processTakeProfit config state timestamp high).2 := by
  unfold processTakeProfit
  cases state.tpPlan with
  | none => simp [netQuantity]
  | some plan =>
      dsimp only
      split
      · simp [netQuantity]
      · have hfirst := state.takeFirstProfit_quantity config plan timestamp high
        have hsecond := (state.takeFirstProfit config plan timestamp high).1
          |>.takeSecondProfit_quantity config plan timestamp high
        dsimp only
        rw [netQuantity_append]
        split
        · -- a reset drops the shares of a cycle that has none
          rename_i hzero
          simp only [SimulationState.resetCycle]
          rw [hzero] at hsecond
          omega
        · omega

theorem SimulationState.accrue_quantity (config : VirtualConfig) (state : SimulationState)
    (idleReturn : Decimal) : (state.accrue config idleReturn).quantity = state.quantity := by
  unfold accrue
  split <;> rfl

/-- A session moves the shares by what it trades. -/
theorem sessionStep_quantity {parts : EngineParts} {config : VirtualConfig} {input : EngineInput}
    {loop next : LoopState} {day : Session × EngineDay}
    (hstep : parts.sessionStep config input loop day = .ok next) :
    ∃ added, next.trades = loop.trades ++ added ∧ (∀ trade ∈ added, trade.date = day.1) ∧
      (next.state.quantity : ℤ) = loop.state.quantity + netQuantity added := by
  obtain ⟨snapshot, opened, bought, hsettle, htrades, hquantity⟩ :=
    EngineParts.sessionStep_eq_ok hstep
  refine ⟨_, htrades, ?_, ?_⟩
  · intro trade htrade
    rcases List.mem_append.mp htrade with htrade | htrade
    · exact settlePending_dates hsettle trade htrade
    · exact processTakeProfit_dates config opened day.1 snapshot.high trade htrade
  · have hopened := settlePending_quantity hsettle
    have hclosed := processTakeProfit_quantity config opened day.1 snapshot.high
    rw [SimulationState.accrue_quantity] at hopened
    rw [netQuantity_append, hquantity]
    omega

/-- What the loop knows of its trades: they add up to the shares, and no session was begun
with less than nothing. -/
structure LoopState.Accounted (loop : LoopState) : Prop where
  quantity_eq : (loop.state.quantity : ℤ) = netQuantity loop.trades
  before_nonneg : ∀ timestamp, 0 ≤ heldBefore loop.trades timestamp

theorem heldBefore_append (trades later : List Trade) (timestamp : Session) :
    heldBefore (trades ++ later) timestamp
      = heldBefore trades timestamp + heldBefore later timestamp := by
  simp only [heldBefore, tradesBefore, List.filter_append, netQuantity_append]

theorem heldBefore_of_dated {trades : List Trade} {date timestamp : Session}
    (hdated : ∀ trade ∈ trades, trade.date = date) :
    heldBefore trades timestamp = if date < timestamp then netQuantity trades else 0 := by
  by_cases hlt : date < timestamp
  · rw [if_pos hlt, heldBefore, tradesBefore, List.filter_eq_self.mpr]
    intro trade htrade
    rw [hdated trade htrade]
    exact decide_eq_true hlt
  · rw [if_neg hlt, heldBefore, tradesBefore, List.filter_eq_nil_iff.mpr]
    · rfl
    · intro trade htrade
      rw [hdated trade htrade]
      simpa using hlt

theorem heldBefore_of_past {trades : List Trade} {timestamp : Session}
    (hpast : ∀ trade ∈ trades, trade.date < timestamp) :
    heldBefore trades timestamp = netQuantity trades := by
  rw [heldBefore, tradesBefore, List.filter_eq_self.mpr]
  intro trade htrade
  exact decide_eq_true (hpast trade htrade)

theorem LoopState.Accounted.steps {parts : EngineParts} {config : VirtualConfig}
    {input : EngineInput} {days : List (Session × EngineDay)}
    (hsorted : days.Pairwise fun day later => day.1 < later.1) {loop final : LoopState}
    (haccounted : loop.Accounted)
    (hpast : ∀ day ∈ days, ∀ trade ∈ loop.trades, trade.date < day.1)
    (hloop : days.foldlM (parts.sessionStep config input) loop = .ok final) :
    final.Accounted := by
  induction days generalizing loop with
  | nil =>
      cases hloop
      exact haccounted
  | cons day days ih =>
      obtain ⟨next, hstep, hloop⟩ := Except.bind_eq_ok.mp hloop
      obtain ⟨added, htrades, hdated, hquantity⟩ := sessionStep_quantity hstep
      obtain ⟨hlater, hrest⟩ := List.pairwise_cons.mp hsorted
      have hnet : (next.state.quantity : ℤ) = netQuantity next.trades := by
        rw [hquantity, haccounted.quantity_eq, htrades, netQuantity_append]
      refine ih hrest ⟨hnet, ?_⟩ ?_ hloop
      · intro timestamp
        by_cases hlt : day.1 < timestamp
        · -- the whole past lies before this session, and it leaves a quantity
          have hall : ∀ trade ∈ next.trades, trade.date < timestamp := by
            rw [htrades]
            intro trade htrade
            rcases List.mem_append.mp htrade with htrade | htrade
            · exact (hpast day List.mem_cons_self trade htrade).trans hlt
            · rw [hdated trade htrade]
              exact hlt
          rw [heldBefore_of_past hall, ← hnet]
          exact Int.natCast_nonneg _
        · rw [htrades, heldBefore_append, heldBefore_of_dated hdated, if_neg hlt, add_zero]
          exact haccounted.before_nonneg timestamp
      · intro later hmem trade htrade
        rw [htrades] at htrade
        rcases List.mem_append.mp htrade with htrade | htrade
        · exact hpast later (List.mem_cons_of_mem _ hmem) trade htrade
        · rw [hdated trade htrade]
          exact hlater later hmem

/-- A run ends with its trades accounted for. -/
theorem run_accounted {parts : EngineParts} {config : VirtualConfig} {input : EngineInput}
    {result : EngineResult} (hrun : parts.run config input = .ok result) :
    ∃ final : LoopState, final.Accounted ∧ result.trades = final.trades ∧
      result.openQuantity = final.state.quantity := by
  obtain ⟨days, hdays, hrun⟩ := Except.bind_eq_ok.mp hrun
  obtain ⟨final, hloop, hrun⟩ := Except.bind_eq_ok.mp hrun
  cases hrun
  have hinitial : (initialLoop config).Accounted := by
    refine ⟨rfl, fun timestamp => ?_⟩
    exact le_refl 0
  refine ⟨final, hinitial.steps days.sorted ?_ hloop, rfl, rfl⟩
  intro day hday trade htrade
  cases htrade

/-- The engine never begins a session with less than nothing. -/
theorem run_heldBefore_nonneg {parts : EngineParts} {config : VirtualConfig} {input : EngineInput}
    {result : EngineResult} (hrun : parts.run config input = .ok result) (timestamp : Session) :
    0 ≤ heldBefore result.trades timestamp := by
  obtain ⟨final, haccounted, htrades, -⟩ := run_accounted hrun
  rw [htrades]
  exact haccounted.before_nonneg timestamp

/-- The open quantity is what the trades add up to. -/
theorem run_openQuantity {parts : EngineParts} {config : VirtualConfig} {input : EngineInput}
    {result : EngineResult} (hrun : parts.run config input = .ok result) :
    (result.openQuantity : ℤ) = netQuantity result.trades := by
  obtain ⟨final, haccounted, htrades, hquantity⟩ := run_accounted hrun
  rw [htrades, hquantity]
  exact haccounted.quantity_eq

/-! ## What the replay holds -/

/-- The shares the trades of a session add. -/
def netOn (trades : List Trade) (timestamp : Session) : ℤ :=
  (tradedOn trades .buy timestamp : ℤ) - tradedOn trades .sell timestamp

/-- The replay forgets what it was clamped at. -/
theorem replayedQuantity_eq (trades : List Trade) (sessions : List Session) :
    (replayedQuantity trades sessions : ℤ) = clampedSum (sessions.map (netOn trades)) := by
  induction sessions using List.reverseRecOn with
  | nil => rfl
  | append_singleton sessions timestamp ih =>
      have hround : replayedQuantity trades (sessions ++ [timestamp])
          = replayedQuantity trades sessions + tradedOn trades .buy timestamp
            - tradedOn trades .sell timestamp := by
        simp [replayedQuantity, overlayRound]
      rw [List.map_append, List.map_singleton, clampedSum.concat, ← ih, hround, netOn]
      omega

/-- The flags the overlay should have: shares were held during the session before. -/
def heldStep {ρ : Type*} (trades : List Trade) (before : Bool) (row : Session × ρ) :
    Bool × Bool :=
  (heldDuring trades row.1, before)

def heldSeries {ρ : Type*} (trades : List Trade) (index : Series Session ρ) :
    Series Session Bool :=
  index.scan (heldStep trades) false

/-- The replay raises, or its flags tell what the engine held. -/
def OverlayRight {ρ : Type*} (result : EngineResult) (index : Series Session ρ) : Prop :=
  ∀ active, virtualActiveSeries result index = .ok active →
    active = heldSeries result.trades index

/-- Both loops write the same flags exactly when they agree on every session that has a
next one. -/
theorem scanRows_overlayStep_eq_iff {ρ : Type*} (trades : List Trade)
    (rows : List (Session × ρ)) (seen : List Session) (before before' : Bool) :
    Series.scanRows (overlayStep trades) (replayedQuantity trades seen, before) rows
        = Series.scanRows (heldStep trades) before' rows ↔
      (rows ≠ [] → before = before') ∧
        ∀ front timestamp next back,
          rows.map Prod.fst = front ++ timestamp :: next :: back →
            decide (0 < replayedQuantity trades (seen ++ front)
              + tradedOn trades .buy timestamp) = heldDuring trades timestamp := by
  induction rows generalizing seen before before' with
  | nil =>
      -- The split is at the first row or behind it.
      simp [Series.scanRows]
  | cons row rest ih =>
      -- One round of the overlay, at the quantity replayed so far.
      have hround : overlayRound trades (replayedQuantity trades seen) row.1
          = (replayedQuantity trades (seen ++ [row.1]),
            decide (0 < replayedQuantity trades seen + tradedOn trades .buy row.1)) := by
        simp [replayedQuantity, overlayRound]
      have hrest := ih (seen ++ [row.1])
        (decide (0 < replayedQuantity trades seen + tradedOn trades .buy row.1))
        (heldDuring trades row.1)
      simp only [Series.scanRows, overlayStep, heldStep, hround, List.cons.injEq,
        Prod.mk.injEq, true_and]
      rw [hrest]
      constructor
      · rintro ⟨hflag, hfirst, hlater⟩
        refine ⟨fun _ => hflag, ?_⟩
        intro front timestamp next back hsplit
        cases front with
        | nil =>
            obtain ⟨rfl, hmap⟩ := List.cons.inj hsplit
            have hne : rest ≠ [] := by
              rintro rfl
              cases hmap
            simpa using hfirst hne
        | cons head front =>
            obtain ⟨rfl, hmap⟩ := List.cons.inj hsplit
            simpa using hlater front timestamp next back hmap
      · rintro ⟨hflag, hall⟩
        refine ⟨hflag (List.cons_ne_nil _ _), ?_, ?_⟩
        · intro hne
          cases rest with
          | nil => exact absurd rfl hne
          | cons next rest =>
              simpa using hall [] row.1 next.1 (rest.map Prod.fst) rfl
        · intro front timestamp next back hmap
          have hsplit : (row :: rest).map Prod.fst
              = (row.1 :: front) ++ timestamp :: next :: back := by
            rw [List.map_cons, hmap]
            rfl
          simpa using hall (row.1 :: front) timestamp next back hsplit

/-! ## Trades the sessions do not have -/

/-- What some trades on sessions outside of a list add to the shares. -/
def hiddenQuantity (trades : List Trade) (sessions : List Session) : ℤ :=
  netQuantity (trades.filter fun trade => trade.date ∉ sessions)

/-- What the trades before a session, on sessions outside of a list, add to the shares. -/
def hiddenBefore (trades : List Trade) (sessions : List Session) (timestamp : Session) : ℤ :=
  hiddenQuantity (tradesBefore trades timestamp) sessions

theorem netOn_cons (trade : Trade) (trades : List Trade) (timestamp : Session) :
    netOn (trade :: trades) timestamp
      = (if trade.date = timestamp then trade.signed else 0) + netOn trades timestamp := by
  simp only [netOn, tradedOn, Trade.signed, List.filter_cons]
  by_cases hdate : trade.date = timestamp
  · cases hside : trade.side with
    | buy =>
        simp only [hdate, and_self, decide_true, decide_false, if_true, List.map_cons,
          List.sum_cons, reduceCtorEq, and_false, Bool.false_eq_true, if_false]
        push_cast
        omega
    | sell =>
        simp only [hdate, and_self, decide_true, decide_false, if_true, List.map_cons,
          List.sum_cons, reduceCtorEq, and_false, Bool.false_eq_true, if_false]
        push_cast
        omega
  · simp [hdate]

theorem sum_netOn_cons {sessions : List Session} (hnodup : sessions.Nodup) (trade : Trade)
    (trades : List Trade) :
    (sessions.map (netOn (trade :: trades))).sum
      = (if trade.date ∈ sessions then trade.signed else 0)
        + (sessions.map (netOn trades)).sum := by
  induction sessions with
  | nil => simp
  | cons timestamp sessions ih =>
      obtain ⟨hnot, hrest⟩ := List.nodup_cons.mp hnodup
      simp only [List.map_cons, List.sum_cons, ih hrest, netOn_cons, List.mem_cons]
      by_cases hdate : trade.date = timestamp
      · -- a session does not come twice
        rw [hdate, if_pos rfl, if_neg hnot, if_pos (Or.inl rfl)]
        omega
      · simp only [hdate, false_or, if_false]
        omega

/-- A trade lies on one of the sessions, or it is hidden. -/
theorem netQuantity_eq {sessions : List Session} (hnodup : sessions.Nodup)
    (trades : List Trade) :
    netQuantity trades = (sessions.map (netOn trades)).sum + hiddenQuantity trades sessions := by
  induction trades with
  | nil =>
      have hnone : netOn [] = fun _ => 0 := rfl
      simp [netQuantity, hiddenQuantity, hnone]
  | cons trade trades ih =>
      have hnet : netQuantity (trade :: trades) = trade.signed + netQuantity trades := by
        simp [netQuantity]
      rw [sum_netOn_cons hnodup, hnet, ih]
      by_cases hmem : trade.date ∈ sessions
      · have hseen : hiddenQuantity (trade :: trades) sessions
            = hiddenQuantity trades sessions := by
          simp [hiddenQuantity, hmem]
        rw [if_pos hmem, hseen]
        omega
      · have hhidden : hiddenQuantity (trade :: trades) sessions
            = trade.signed + hiddenQuantity trades sessions := by
          simp [hiddenQuantity, hmem, netQuantity]
        rw [if_neg hmem, hhidden]
        omega

section Sorted

variable {sessions front back : List Session} {timestamp : Session}

theorem sorted_front (hsorted : sessions.Pairwise (· < ·))
    (hsplit : sessions = front ++ timestamp :: back) :
    front.Nodup ∧ ∀ date, date < timestamp → (date ∈ sessions ↔ date ∈ front) := by
  subst hsplit
  obtain ⟨hfront, hback, hcross⟩ := List.pairwise_append.mp hsorted
  refine ⟨hfront.imp fun hlt => hlt.ne, fun date hlt => ?_⟩
  refine ⟨fun hmem => ?_, fun hmem => List.mem_append_left _ hmem⟩
  rcases List.mem_append.mp hmem with hmem | hmem
  · exact hmem
  · rcases List.mem_cons.mp hmem with rfl | hmem
    · exact absurd hlt (lt_irrefl _)
    · have hlater := (List.pairwise_cons.mp hback).1 date hmem
      exact absurd (hlt.trans hlater) (lt_irrefl _)

/-- What is held before one of the sessions: what the sessions before it add, and what is
hidden. -/
theorem heldBefore_eq (hsorted : sessions.Pairwise (· < ·))
    (hsplit : sessions = front ++ timestamp :: back) (trades : List Trade) :
    heldBefore trades timestamp
      = (front.map (netOn trades)).sum + hiddenBefore trades sessions timestamp := by
  obtain ⟨hnodup, hmem⟩ := sorted_front hsorted hsplit
  have hearlier : ∀ earlier ∈ front, earlier < timestamp := by
    intro earlier hearlier
    rw [hsplit] at hsorted
    exact (List.pairwise_append.mp hsorted).2.2 earlier hearlier timestamp List.mem_cons_self
  have hseen : (front.map (netOn (tradesBefore trades timestamp))).sum
      = (front.map (netOn trades)).sum := by
    refine congrArg List.sum (List.map_congr_left fun earlier hin => ?_)
    rw [netOn, netOn, tradedOn_tradesBefore trades .buy (hearlier earlier hin),
      tradedOn_tradesBefore trades .sell (hearlier earlier hin)]
  have hhidden : hiddenQuantity (tradesBefore trades timestamp) front
      = hiddenBefore trades sessions timestamp := by
    rw [hiddenBefore, hiddenQuantity, hiddenQuantity]
    refine congrArg netQuantity (List.filter_congr fun trade htrade => ?_)
    have hlt : trade.date < timestamp := by
      simpa using (List.mem_filter.mp htrade).2
    exact decide_eq_decide.mpr (not_congr (hmem trade.date hlt).symm)
  rw [heldBefore, netQuantity_eq hnodup, hseen, hhidden]

/-- A final stretch of the sessions begins at one of them, or it is empty. -/
theorem exists_stretch_iff (hsorted : sessions.Pairwise (· < ·))
    (hsplit : sessions = front ++ back) (trades : List Trade) (P : ℤ → Prop) :
    (∃ stretch, stretch <:+ front.map (netOn trades) ∧ P stretch.sum) ↔
      P 0 ∨ ∃ earlier ∈ front, P ((front.map (netOn trades)).sum
        - (heldBefore trades earlier - hiddenBefore trades sessions earlier)) := by
  constructor
  · rintro ⟨stretch, ⟨past, hpast⟩, hP⟩
    obtain ⟨before, since, hfront, rfl, rfl⟩ := List.map_eq_append_iff.mp hpast.symm
    cases since with
    | nil => exact Or.inl hP
    | cons earlier since =>
        refine Or.inr ⟨earlier, hfront ▸ by simp, ?_⟩
        have hheld := heldBefore_eq hsorted
          (hsplit.trans (by rw [hfront, List.append_assoc, List.cons_append])) trades
        rw [hfront, List.map_append, List.sum_append, hheld]
        convert hP using 1
        omega
  · rintro (hP | ⟨earlier, hearlier, hP⟩)
    · exact ⟨[], List.nil_suffix, hP⟩
    · obtain ⟨before, since, hfront⟩ := List.append_of_mem hearlier
      have hheld := heldBefore_eq hsorted
        (hsplit.trans (by rw [hfront, List.append_assoc, List.cons_append])) trades
      refine ⟨(earlier :: since).map (netOn trades), ?_, ?_⟩
      · rw [hfront, List.map_append]
        exact List.suffix_append _ _
      · rw [hfront, List.map_append, List.sum_append, hheld] at hP
        convert hP using 1
        omega

end Sorted

/-- The hidden trades come to light at the end: since some session they sell more than was
held before it, or shares are left and since no session do they sell just what was held. -/
def GapsNoticed (result : EngineResult) (sessions : List Session) : Prop :=
  (∃ timestamp ∈ sessions,
    heldBefore result.trades timestamp
      < hiddenBefore result.trades sessions timestamp - hiddenQuantity result.trades sessions) ∨
  (result.openQuantity ≠ 0 ∧ ∀ timestamp ∈ sessions,
    hiddenBefore result.trades sessions timestamp - hiddenQuantity result.trades sessions
      ≠ heldBefore result.trades timestamp)

/-- The hidden trades change no flag.  On a session with a next one and no BUY of its own:
when nothing is held, they sell since no earlier session more than was held before it; and
when shares are held, these grew since some earlier session by more than the hidden trades
explain. -/
def GapsHarmless (trades : List Trade) (sessions : List Session) : Prop :=
  ∀ front timestamp next back, sessions = front ++ timestamp :: next :: back →
    tradedOn trades .buy timestamp = 0 →
      (heldBefore trades timestamp = 0 → ∀ earlier ∈ front,
        hiddenBefore trades sessions earlier - hiddenBefore trades sessions timestamp
          ≤ heldBefore trades earlier) ∧
      (0 < heldBefore trades timestamp → ∃ earlier ∈ front,
        hiddenBefore trades sessions timestamp - hiddenBefore trades sessions earlier
          < heldBefore trades timestamp - heldBefore trades earlier)

theorem replayedQuantity_eq_iff {parts : EngineParts} {config : VirtualConfig}
    {input : EngineInput} {result : EngineResult} (hrun : parts.run config input = .ok result)
    {sessions : List Session} (hsorted : sessions.Pairwise (· < ·)) :
    replayedQuantity result.trades sessions = result.openQuantity ↔
      ¬ GapsNoticed result sessions := by
  have hopen := run_openQuantity hrun
  have hnet := netQuantity_eq (hsorted.imp fun hlt => hlt.ne) result.trades
  have hsplit : sessions = sessions ++ [] := (List.append_nil _).symm
  have hsome := exists_stretch_iff hsorted hsplit result.trades (· = (result.openQuantity : ℤ))
  have hmore := exists_stretch_iff hsorted hsplit result.trades ((result.openQuantity : ℤ) < ·)
  have hle : (∀ stretch, stretch <:+ sessions.map (netOn result.trades) →
      stretch.sum ≤ (result.openQuantity : ℤ)) ↔
        ¬ ∃ stretch, stretch <:+ sessions.map (netOn result.trades) ∧
          (result.openQuantity : ℤ) < stretch.sum := by
    simp only [not_exists, not_and, not_lt]
  rw [← Int.natCast_inj, replayedQuantity_eq, clampedSum.eq_iff, hsome, hle, hmore, GapsNoticed]
  constructor
  · rintro ⟨hequal, hnone⟩ (⟨earlier, hearlier, hlt⟩ | ⟨hleft, hnot⟩)
    · exact hnone (Or.inr ⟨earlier, hearlier, by omega⟩)
    · rcases hequal with hzero | ⟨earlier, hearlier, hsame⟩
      · omega
      · exact hnot earlier hearlier (by omega)
  · intro hquiet
    obtain ⟨hnone, hall⟩ := not_or.mp hquiet
    constructor
    · by_cases hleft : result.openQuantity = 0
      · exact Or.inl (by omega)
      · simp only [not_and, not_forall, not_not] at hall
        obtain ⟨earlier, hearlier, hsame⟩ := hall hleft
        exact Or.inr ⟨earlier, hearlier, by omega⟩
    · rintro (hneg | ⟨earlier, hearlier, hlt⟩)
      · omega
      · exact hnone ⟨earlier, hearlier, by omega⟩

/-- Before a session the replay holds shares exactly when, since some earlier one, the
holdings grew by more than the hidden trades explain. -/
theorem replayedQuantity_pos_iff {sessions front back : List Session} {timestamp : Session}
    (hsorted : sessions.Pairwise (· < ·)) (hsplit : sessions = front ++ timestamp :: back)
    (trades : List Trade) :
    0 < replayedQuantity trades front ↔ ∃ earlier ∈ front,
      hiddenBefore trades sessions timestamp - hiddenBefore trades sessions earlier
        < heldBefore trades timestamp - heldBefore trades earlier := by
  have hheld := heldBefore_eq hsorted hsplit trades
  have hstretch := exists_stretch_iff hsorted hsplit trades (0 < ·)
  rw [← Int.natCast_pos, replayedQuantity_eq, clampedSum.pos_iff, hstretch]
  constructor
  · rintro (hzero | ⟨earlier, hearlier, hgrew⟩)
    · omega
    · exact ⟨earlier, hearlier, by omega⟩
  · rintro ⟨earlier, hearlier, hgrew⟩
    exact Or.inr ⟨earlier, hearlier, by omega⟩

theorem virtualActiveSeries_ok_iff {ρ : Type*} (result : EngineResult)
    (index : Series Session ρ) (active : Series Session Bool) :
    virtualActiveSeries result index = .ok active ↔
      replayedQuantity result.trades index.index = result.openQuantity ∧
        active = overlaySeries result.trades index := by
  constructor
  · intro hactive
    obtain ⟨_, hchecked, hactive⟩ := Except.bind_eq_ok.mp hactive
    cases hactive
    exact ⟨not_not.mp (raiseIf_eq_ok.mp hchecked), rfl⟩
  · rintro ⟨hchecked, rfl⟩
    refine Except.bind_eq_ok.mpr ⟨(), raiseIf_eq_ok.mpr (not_not.mpr hchecked), rfl⟩

/-- The replay writes the flags of the holdings exactly when the gaps are harmless. -/
theorem overlaySeries_eq_heldSeries_iff {ρ : Type*} {parts : EngineParts}
    {config : VirtualConfig} {input : EngineInput} {result : EngineResult}
    (hrun : parts.run config input = .ok result) (index : Series Session ρ) :
    overlaySeries result.trades index = heldSeries result.trades index ↔
      GapsHarmless result.trades index.index := by
  have hrows : overlaySeries result.trades index = heldSeries result.trades index ↔
      (overlaySeries result.trades index).rows = (heldSeries result.trades index).rows :=
    ⟨congrArg Series.rows, Series.eq_of_rows⟩
  rw [hrows]
  refine (scanRows_overlayStep_eq_iff result.trades index.rows [] false false).trans ?_
  constructor
  · rintro ⟨-, hagree⟩ front timestamp next back hsplit hbuy
    have hsame := hagree front timestamp next back hsplit
    have hpos := replayedQuantity_pos_iff index.sorted_index hsplit result.trades
    rw [heldDuring, decide_eq_decide, hbuy, List.nil_append] at hsame
    constructor
    · intro hzero earlier hearlier
      by_contra hmore
      have hseen := hpos.mpr ⟨earlier, hearlier, by omega⟩
      omega
    · intro hheld
      exact hpos.mp (by omega)
  · intro hharmless
    refine ⟨fun _ => rfl, ?_⟩
    intro front timestamp next back hsplit
    rw [heldDuring, decide_eq_decide, List.nil_append]
    have hnonneg := run_heldBefore_nonneg hrun timestamp
    rcases Nat.eq_zero_or_pos (tradedOn result.trades .buy timestamp) with hbuy | hbuy
    · obtain ⟨hnothing, hsomething⟩ := hharmless front timestamp next back hsplit hbuy
      have hpos := replayedQuantity_pos_iff index.sorted_index hsplit result.trades
      rcases hnonneg.eq_or_lt with hzero | hheld
      · have hnone : ¬ 0 < replayedQuantity result.trades front := by
          rw [hpos]
          rintro ⟨earlier, hearlier, hgrew⟩
          have hle := hnothing hzero.symm earlier hearlier
          omega
        omega
      · have hseen := hpos.mpr (hsomething hheld)
        omega
    · -- a BUY is seen on both sides
      omega

/-- **When the overlay is right.**  For every result of the engine and every index, the
replay raises or tells what the engine held exactly when the trades the index does not have
come to light at the end or change no flag. -/
theorem overlay_right_iff {ρ : Type*} {parts : EngineParts} {config : VirtualConfig}
    {input : EngineInput} {result : EngineResult} (hrun : parts.run config input = .ok result)
    (index : Series Session ρ) :
    OverlayRight result index ↔
      GapsNoticed result index.index ∨ GapsHarmless result.trades index.index := by
  have hchecked := replayedQuantity_eq_iff hrun index.sorted_index
  have hflags := overlaySeries_eq_heldSeries_iff hrun index
  constructor
  · intro hright
    by_cases hnoticed : GapsNoticed result index.index
    · exact Or.inl hnoticed
    · refine Or.inr (hflags.mp ?_)
      exact hright _ ((virtualActiveSeries_ok_iff result index _).mpr ⟨hchecked.mpr hnoticed, rfl⟩)
  · rintro hcase active hactive
    obtain ⟨haccepted, rfl⟩ := (virtualActiveSeries_ok_iff result index active).mp hactive
    rcases hcase with hnoticed | hharmless
    · exact absurd hnoticed (hchecked.mp haccepted)
    · exact hflags.mpr hharmless

/-- An index with every session of a trade has no gaps. -/
theorem gapsHarmless_of_mem {parts : EngineParts} {config : VirtualConfig} {input : EngineInput}
    {result : EngineResult} (hrun : parts.run config input = .ok result)
    {sessions : List Session} (hsorted : sessions.Pairwise (· < ·))
    (hmem : ∀ trade ∈ result.trades, trade.date ∈ sessions) :
    GapsHarmless result.trades sessions := by
  have hhidden : ∀ timestamp, hiddenBefore result.trades sessions timestamp = 0 := by
    intro timestamp
    rw [hiddenBefore, hiddenQuantity, List.filter_eq_nil_iff.mpr]
    · rfl
    · intro trade htrade
      simpa using hmem trade (List.mem_of_mem_filter htrade)
  intro front timestamp next back hsplit _
  constructor
  · intro _ earlier _
    have hnonneg := run_heldBefore_nonneg hrun earlier
    rw [hhidden, hhidden]
    omega
  · intro hheld
    cases front with
    | nil =>
        -- nothing is held before the first session
        have hfirst := heldBefore_eq hsorted hsplit result.trades
        rw [hhidden] at hfirst
        simp only [List.map_nil, List.sum_nil] at hfirst
        omega
    | cons first front =>
        have hbegins : sessions = [] ++ first :: (front ++ timestamp :: next :: back) := hsplit
        have hfirst := heldBefore_eq hsorted hbegins result.trades
        rw [hhidden] at hfirst
        simp only [List.map_nil, List.sum_nil] at hfirst
        refine ⟨first, List.mem_cons_self, ?_⟩
        rw [hhidden, hhidden]
        omega

/-! ## Sessions a frame does not have -/

namespace MissingSessions

open SampleFrames

/-- An entry at the open after the fall, and a high two sessions later that reaches both
take-profits. -/
def tqqq : Frame := frame 64 fun day =>
  match day with
  | 63 => bar 101 112 100 105 1000
  | 64 => bar 105 106 104 105 1000
  | _ => falling day

/-- A frame without the sessions of the trades. -/
def soxx : Frame := market.select fun timestamp =>
  timestamp ≠ session 61 && timestamp ≠ session 63

def raw : RawFrames where
  spy := market
  qqq := market
  tqqq := tqqq
  soxl := market
  soxx := soxx
  smh := market

def input : EngineInput where
  symbol := "TQQQ"
  symbolData := raw.tqqq
  spyData := raw.spy
  qqqData := raw.qqq
  start := some (session 1)
  «end» := some (session 64)
  slippage := 1 / 1000
  sectorData := []
  idleCashData := none

def result : EngineResult where
  trades := [
    { date := session 61
      cycleId := some 1
      side := .buy
      purpose := .entry .firstEntryCandidate
      price := 1001 / 10
      quantity := 79
      fee := 79079 / 10000
      cashAfter := 120841921 / 10000
      averagePrice := some (1001 / 10)
      priorQuantity := some 0
      score := some 81 },
    { date := session 63
      cycleId := some 1
      side := .sell
      purpose := .tp1
      price := 10411 / 100
      quantity := 24
      fee := 31233 / 12500
      cashAfter := 729016673 / 50000 },
    { date := session 63
      cycleId := some 1
      side := .sell
      purpose := .tp2
      price := 11011 / 100
      quantity := 55
      fee := 121121 / 20000
      cashAfter := 2063032741 / 100000 }]
  openQuantity := 0

theorem run_eq : parts.run VirtualConfig.strategyYaml input = .ok result := by
  decide +kernel

end MissingSessions

/-- The engine holds shares through the third session; both its trades fall on sessions the
allocation does not have, and the replay neither raises nor flags it. -/
theorem overlay_silently_wrong :
    ∃ active, virtualActiveSeries MissingSessions.result MissingSessions.raw.common = .ok active ∧
      SampleFrames.parts.run VirtualConfig.strategyYaml MissingSessions.input = .ok MissingSessions.result ∧
      active ≠ heldSeries MissingSessions.result.trades MissingSessions.raw.common := by
  refine ⟨overlaySeries MissingSessions.result.trades MissingSessions.raw.common, ?_,
    MissingSessions.run_eq, ?_⟩
  · refine Except.bind_eq_ok.mpr ⟨(), raiseIf_eq_ok.mpr ?_, rfl⟩
    decide +kernel
  · intro hsame
    have hrows := congrArg Series.rows hsame
    revert hrows
    decide +kernel

theorem overlay_right_iff_missing_sessions :
    OverlayRight MissingSessions.result MissingSessions.raw.common ↔
      GapsNoticed MissingSessions.result MissingSessions.raw.common.index ∨
        GapsHarmless MissingSessions.result.trades MissingSessions.raw.common.index :=
  overlay_right_iff MissingSessions.run_eq MissingSessions.raw.common

end JdHoldings

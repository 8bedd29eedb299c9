import JdHoldings.Backtest.Indicators
import JdHoldings.Backtest.Overlay

/-!
# Nothing later is read

Every stage of the target pipeline is compared with itself on frames cut off after a
session.  Indicators, common sessions and replay are built from looking back, joining and
filtering, which commute with the cut; the two loops that carry a state, the daily loop of
the engine and the replay of the overlay, are folds over sorted sessions, so a cut leaves a
prefix of their rounds.

Cutting can leave too little data to run at all; that is the only thing a run on less data
may do differently.
-/

namespace JdHoldings

/-! ## Too little data -/

/-- The errors that say there is not enough data. -/
def PyError.Shortage (error : PyError) : Prop :=
  error = emptyFrame ∨ error = tooFewSessions ∨
    ∃ rows minimumRows, error = tooFewRows rows minimumRows

/-- The computation gives this value, or there is not enough data for it. -/
def GivesOrShort {α : Type*} (computed : Py α) (value : α) : Prop :=
  computed = .ok value ∨ ∃ error, computed = .error error ∧ error.Shortage

theorem GivesOrShort.bind {α β : Type} {computed : Py α} {value : α} {rest : α → Py β}
    {result : β} (hcomputed : GivesOrShort computed value)
    (hrest : GivesOrShort (rest value) result) : GivesOrShort (computed >>= rest) result := by
  rcases hcomputed with rfl | ⟨error, rfl, hshort⟩
  · exact hrest
  · exact Or.inr ⟨error, rfl, hshort⟩

theorem GivesOrShort.check {bad : Prop} [Decidable bad] {error : PyError}
    (hshort : error.Shortage) : GivesOrShort (raiseIf bad error) () := by
  by_cases hbad : bad
  · exact Or.inr ⟨error, raiseIf_eq_error.mpr ⟨hbad, rfl⟩, hshort⟩
  · exact Or.inl (raiseIf_eq_ok.mpr hbad)

/-! ## Indicators -/

theorem any_eq_false_of_subset {α : Type*} {items kept : List α} {bad : α → Bool}
    (hsubset : kept ⊆ items) (hnone : ¬ items.any bad = true) : ¬ kept.any bad = true := by
  intro hbad
  obtain ⟨item, hitem, hbad⟩ := List.any_eq_true.mp hbad
  exact hnone (List.any_eq_true.mpr ⟨item, hsubset hitem, hbad⟩)

/-- Bars of a valid frame are valid, if there are enough of them. -/
theorem validateOhlcv_subset {minimumRows : ℕ} {bars kept : List (Bar Decimal)}
    (hsubset : kept ⊆ bars) (hvalid : validateOhlcv minimumRows bars = .ok ()) :
    GivesOrShort (validateOhlcv minimumRows kept) () := by
  unfold validateOhlcv at hvalid ⊢
  split_ifs at hvalid with hrows hnull hlow hclose hvolume
  by_cases hfew : kept.length < minimumRows
  · rw [if_pos hfew]
    exact Or.inr ⟨_, rfl, Or.inr (Or.inr ⟨_, _, rfl⟩)⟩
  · rw [if_neg hfew, if_neg (any_eq_false_of_subset hsubset hnull),
      if_neg (any_eq_false_of_subset hsubset hlow),
      if_neg (any_eq_false_of_subset hsubset hclose),
      if_neg (any_eq_false_of_subset hsubset hvolume)]
    exact Or.inl rfl

theorem calculateIndicators_upTo {parts : EngineParts} {frame : Frame}
    {rows : Series Session IndicatorRow} (hrows : parts.calculateIndicators frame = .ok rows)
    (cut : Session) :
    GivesOrShort (parts.calculateIndicators (frame.upTo cut)) (rows.upTo cut) := by
  obtain ⟨_, -, hrows⟩ := Except.bind_eq_ok.mp hrows
  obtain ⟨_, hvalid, hrows⟩ := Except.bind_eq_ok.mp hrows
  cases hrows
  have hsubset : (frame.upTo cut).rows.map Prod.snd ⊆ frame.rows.map Prod.snd :=
    List.map_subset _ (List.filter_subset_self _)
  refine (GivesOrShort.check (Or.inl rfl)).bind ?_
  refine (validateOhlcv_subset hsubset hvalid).bind (Or.inl ?_)
  rw [Series.upTo_filterMap, Series.upTo_rolling]
  rfl

/-! ## Common sessions -/

/-- The inputs of a run, cut off after a session. -/
def EngineInput.upTo (input : EngineInput) (cut : Session) : EngineInput :=
  { input with
    symbolData := input.symbolData.upTo cut
    spyData := input.spyData.upTo cut
    qqqData := input.qqqData.upTo cut
    sectorData := input.sectorData.map fun entry => (entry.1, entry.2.upTo cut)
    idleCashData := input.idleCashData.map fun frame => frame.upTo cut }

theorem sectorCandidates_upTo (config : VirtualConfig) (input : EngineInput) (cut : Session) :
    sectorCandidates config (input.upTo cut)
      = (sectorCandidates config input).map fun entry => (entry.1, entry.2.upTo cut) := by
  have hfind : ∀ name : String, ((input.sectorData.map fun entry => (entry.1, entry.2.upTo cut)).find?
      fun entry => entry.1 = name) =
        (input.sectorData.find? fun entry => entry.1 = name).map
          fun entry => (entry.1, entry.2.upTo cut) := by
    intro name
    rw [List.find?_map]
    rfl
  have hsymbol : (input.upTo cut).symbol = input.symbol := rfl
  by_cases hguard : guardRequested config input.symbol = true
  · rw [sectorCandidates, sectorCandidates, hsymbol, if_pos hguard, if_pos hguard,
      List.map_filterMap]
    refine List.filterMap_congr fun name _ => ?_
    simp only [EngineInput.upTo, hfind name]
    cases input.sectorData.find? fun entry => entry.1 = name <;> rfl
  · rw [sectorCandidates, sectorCandidates, hsymbol, if_neg hguard, if_neg hguard]
    rfl

theorem sectorIndicators_upTo {parts : EngineParts} (cut : Session)
    {entries : List (String × Frame)} {sectors : List (String × Series Session IndicatorRow)}
    (hsectors : (entries.mapM fun entry => do
      return (entry.1, ← parts.calculateIndicators entry.2) : Py _) = .ok sectors) :
    GivesOrShort ((entries.map fun entry => (entry.1, entry.2.upTo cut)).mapM fun entry => do
        return (entry.1, ← parts.calculateIndicators entry.2) : Py _)
      (sectors.map fun entry => (entry.1, entry.2.upTo cut)) := by
  induction entries generalizing sectors with
  | nil =>
      cases hsectors
      exact Or.inl rfl
  | cons entry entries ih =>
      rw [List.mapM_cons] at hsectors
      obtain ⟨first, hfirst, hsectors⟩ := Except.bind_eq_ok.mp hsectors
      obtain ⟨rows, hrows, hfirst⟩ := Except.bind_eq_ok.mp hfirst
      obtain ⟨others, hothers, hsectors⟩ := Except.bind_eq_ok.mp hsectors
      cases hfirst
      cases hsectors
      rw [List.map_cons, List.mapM_cons]
      have hentry : GivesOrShort
          (do return (entry.1, ← parts.calculateIndicators (entry.2.upTo cut)))
          (entry.1, rows.upTo cut) :=
        (calculateIndicators_upTo hrows cut).bind (Or.inl rfl)
      refine hentry.bind ?_
      exact (ih hothers).bind (Or.inl rfl)

theorem commonIndex_upTo (input : EngineInput) (target spy qqq : Series Session IndicatorRow)
    (sectors : List (String × Series Session IndicatorRow)) (cut : Session) :
    commonIndex (input.upTo cut) (target.upTo cut) (spy.upTo cut) (qqq.upTo cut)
        (sectors.map fun entry => (entry.1, entry.2.upTo cut))
      = (commonIndex input target spy qqq sectors).upTo cut := by
  simp only [commonIndex, Series.upTo_filterMap, Series.upTo_joinAll, Series.upTo_join]
  rfl

theorem withIdleClose_upTo (config : VirtualConfig) (idle : Option Frame)
    (common : Series Session CommonRow) (cut : Session) :
    withIdleClose config (idle.map fun frame => frame.upTo cut) (common.upTo cut)
      = (withIdleClose config idle common).upTo cut := by
  cases idle with
  | none =>
      rw [withIdleClose, withIdleClose, Series.upTo_filterMap]
      rfl
  | some frame =>
      -- on the sessions that are left, the cut frame has the row the whole one has
      refine Series.eq_of_rows ?_
      simp only [withIdleClose, Option.map_some, Series.upTo_filterMap]
      simp only [Series.filterMap, Series.upTo, List.filterMap_filter]
      refine List.filterMap_congr fun row _ => ?_
      by_cases hrow : row.1 ≤ cut
      · have hloc := frame.loc?_upTo hrow
        simp only [Series.upTo] at hloc
        simp only [hrow, decide_true, if_true, hloc]
      · simp [hrow]

theorem days_upTo {parts : EngineParts} {config : VirtualConfig} {input : EngineInput}
    {days : Series Session EngineDay} (hdays : parts.days config input = .ok days)
    (cut : Session) :
    GivesOrShort (parts.days config (input.upTo cut)) (days.upTo cut) := by
  obtain ⟨target, htarget, hdays⟩ := Except.bind_eq_ok.mp hdays
  obtain ⟨spy, hspy, hdays⟩ := Except.bind_eq_ok.mp hdays
  obtain ⟨qqq, hqqq, hdays⟩ := Except.bind_eq_ok.mp hdays
  obtain ⟨sectors, hsectors, hdays⟩ := Except.bind_eq_ok.mp hdays
  obtain ⟨_, -, hdays⟩ := Except.bind_eq_ok.mp hdays
  cases hdays
  refine (calculateIndicators_upTo htarget cut).bind ?_
  refine (calculateIndicators_upTo hspy cut).bind ?_
  refine (calculateIndicators_upTo hqqq cut).bind ?_
  rw [sectorCandidates_upTo]
  refine (sectorIndicators_upTo cut hsectors).bind ?_
  rw [commonIndex_upTo]
  refine (GivesOrShort.check (Or.inr (Or.inl rfl))).bind (Or.inl ?_)
  have hidle : (input.upTo cut).idleCashData =
      input.idleCashData.map fun frame => frame.upTo cut := rfl
  rw [hidle, withIdleClose_upTo, Series.upTo_filterMap, Series.upTo_rolling]
  rfl

/-! ## The daily loop -/

/-- What is not skipped is filled. -/
theorem executePending_eq_fill {config : VirtualConfig} {slippage : Decimal}
    {pending : PendingEntry} {state : SimulationState} {timestamp : Session}
    {nextOpen : Decimal} {fill : SimulationState × Trade}
    (hfill : executePending config slippage pending state timestamp nextOpen
      = .ok (.ok fill)) :
    ∃ fillPrice quantity, fillPending config pending state timestamp fillPrice quantity = .ok fill := by
  unfold executePending at hfill
  dsimp only at hfill
  split at hfill
  · cases hfill
  · split at hfill
    · cases hfill
    · obtain ⟨ceiling, -, hfill⟩ := Except.bind_eq_ok.mp hfill
      split at hfill
      · cases hfill
      · split at hfill
        · cases hfill
        · split at hfill
          · cases hfill
          · obtain ⟨made, hmade, hfill⟩ := Except.bind_eq_ok.mp hfill
            cases hfill
            exact ⟨_, _, hmade⟩

theorem executePending_date {config : VirtualConfig} {slippage : Decimal}
    {pending : PendingEntry} {state filled : SimulationState} {timestamp : Session}
    {nextOpen : Decimal} {trade : Trade}
    (hfill : executePending config slippage pending state timestamp nextOpen
      = .ok (.ok (filled, trade))) : trade.date = timestamp := by
  obtain ⟨fillPrice, quantity, hfill⟩ := executePending_eq_fill hfill
  obtain ⟨entered, -, hfill⟩ := Except.bind_eq_ok.mp hfill
  obtain ⟨plan, -, hfill⟩ := Except.bind_eq_ok.mp hfill
  cases hfill
  rfl

theorem settlePending_dates {config : VirtualConfig} {slippage : Decimal}
    {pending : Option PendingEntry} {state opened : SimulationState} {timestamp : Session}
    {nextOpen : Decimal} {bought : List Trade}
    (hsettle : settlePending config slippage pending state timestamp nextOpen
      = .ok (opened, bought)) : ∀ trade ∈ bought, trade.date = timestamp := by
  cases pending with
  | none =>
      cases hsettle
      intro trade htrade
      cases htrade
  | some pending =>
      obtain ⟨outcome, houtcome, hsettle⟩ := Except.bind_eq_ok.mp hsettle
      intro trade htrade
      cases outcome with
      | error reason =>
          cases hsettle
          cases htrade
      | ok fill =>
          obtain ⟨filled, made⟩ := fill
          cases hsettle
          rw [List.mem_singleton.mp htrade]
          exact executePending_date houtcome

theorem processTakeProfit_dates (config : VirtualConfig) (state : SimulationState)
    (timestamp : Session) (high : Decimal) :
    ∀ trade ∈ (processTakeProfit config state timestamp high).2, trade.date = timestamp := by
  have hfirst : ∀ plan, ∀ trade ∈ (state.takeFirstProfit config plan timestamp high).2,
      trade.date = timestamp := by
    intro plan trade htrade
    unfold SimulationState.takeFirstProfit at htrade
    split at htrade
    · rw [List.mem_singleton.mp htrade]
      rfl
    · cases htrade
  have hsecond : ∀ (plan : TakeProfitPlan) (first : SimulationState),
      ∀ trade ∈ (first.takeSecondProfit config plan timestamp high).2,
        trade.date = timestamp := by
    intro plan first trade htrade
    unfold SimulationState.takeSecondProfit at htrade
    split at htrade
    · rw [List.mem_singleton.mp htrade]
      rfl
    · cases htrade
  intro trade htrade
  unfold processTakeProfit at htrade
  cases hplan : state.tpPlan with
  | none =>
      simp only [hplan, List.not_mem_nil] at htrade
  | some plan =>
      simp only [hplan] at htrade
      split at htrade
      · cases htrade
      · rcases List.mem_append.mp htrade with htrade | htrade
        · exact hfirst plan trade htrade
        · exact hsecond plan _ trade htrade

/-- A session adds trades of its own date only. -/
theorem sessionStep_trades {parts : EngineParts} {config : VirtualConfig} {input : EngineInput}
    {loop next : LoopState} {day : Session × EngineDay}
    (hstep : parts.sessionStep config input loop day = .ok next) :
    ∃ added, next.trades = loop.trades ++ added ∧ ∀ trade ∈ added, trade.date = day.1 := by
  obtain ⟨snapshot, opened, bought, hsettle, htrades, -⟩ := EngineParts.sessionStep_eq_ok hstep
  refine ⟨_, htrades, ?_⟩
  intro trade htrade
  rcases List.mem_append.mp htrade with htrade | htrade
  · exact settlePending_dates hsettle trade htrade
  · exact processTakeProfit_dates config opened day.1 snapshot.high trade htrade

/-- A run of the loop adds trades of its sessions only. -/
theorem sessionSteps_trades {parts : EngineParts} {config : VirtualConfig} {input : EngineInput}
    {loop final : LoopState} {days : List (Session × EngineDay)}
    (hloop : days.foldlM (parts.sessionStep config input) loop = .ok final) :
    ∃ added, final.trades = loop.trades ++ added ∧
      ∀ trade ∈ added, ∃ day ∈ days, trade.date = day.1 := by
  induction days generalizing loop with
  | nil =>
      cases hloop
      refine ⟨[], (List.append_nil _).symm, ?_⟩
      intro trade htrade
      cases htrade
  | cons day days ih =>
      obtain ⟨next, hstep, hloop⟩ := Except.bind_eq_ok.mp hloop
      obtain ⟨added, htrades, hdated⟩ := sessionStep_trades hstep
      obtain ⟨later, hfinal, hlater⟩ := ih hloop
      refine ⟨added ++ later, ?_, ?_⟩
      · rw [hfinal, htrades, List.append_assoc]
      · intro trade htrade
        rcases List.mem_append.mp htrade with htrade | htrade
        · exact ⟨day, List.mem_cons_self, hdated trade htrade⟩
        · obtain ⟨source, hsource, hdate⟩ := hlater trade htrade
          exact ⟨source, List.mem_cons_of_mem _ hsource, hdate⟩

/-- The trades made up to a session. -/
def tradesUpTo (trades : List Trade) (cut : Session) : List Trade :=
  trades.filter fun trade => trade.date ≤ cut

theorem tradesUpTo_eq_self {trades : List Trade} {cut : Session}
    (hearly : ∀ trade ∈ trades, trade.date ≤ cut) : tradesUpTo trades cut = trades := by
  refine List.filter_eq_self.mpr fun trade htrade => ?_
  exact decide_eq_true (hearly trade htrade)

theorem tradesUpTo_eq_nil {trades : List Trade} {cut : Session}
    (hlate : ∀ trade ∈ trades, cut < trade.date) : tradesUpTo trades cut = [] := by
  refine List.filter_eq_nil_iff.mpr fun trade htrade => ?_
  simpa using hlate trade htrade

/-- **The engine does not look ahead.**  Cut off after a session, its data gives the same
trades up to there, or is too short to run on. -/
theorem run_upTo {parts : EngineParts} {config : VirtualConfig} {input : EngineInput}
    {result : EngineResult} (hrun : parts.run config input = .ok result) (cut : Session) :
    (∃ early, parts.run config (input.upTo cut) = .ok early ∧
        early.trades = tradesUpTo result.trades cut) ∨
      ∃ error, parts.run config (input.upTo cut) = .error error ∧ error.Shortage := by
  obtain ⟨days, hdays, hrun⟩ := Except.bind_eq_ok.mp hrun
  obtain ⟨final, hloop, hrun⟩ := Except.bind_eq_ok.mp hrun
  cases hrun
  rcases days_upTo hdays cut with hcut | ⟨error, hcut, hshort⟩
  · left
    rw [days.rows_split cut, List.foldlM_append] at hloop
    obtain ⟨middle, hfront, hback⟩ := Except.bind_eq_ok.mp hloop
    refine ⟨{ trades := middle.trades, openQuantity := middle.state.quantity }, ?_, ?_⟩
    · refine Except.bind_eq_ok.mpr ⟨days.upTo cut, hcut, ?_⟩
      exact Except.bind_eq_ok.mpr ⟨middle, hfront, rfl⟩
    · obtain ⟨before, hbefore, hearly⟩ := sessionSteps_trades hfront
      obtain ⟨after, hafter, hlate⟩ := sessionSteps_trades hback
      have hmiddle : ∀ trade ∈ middle.trades, trade.date ≤ cut := by
        rw [hbefore]
        intro trade htrade
        obtain ⟨day, hday, hdate⟩ := hearly trade htrade
        rw [hdate]
        exact of_decide_eq_true (List.mem_filter.mp hday).2
      have hrest : ∀ trade ∈ after, cut < trade.date := by
        intro trade htrade
        obtain ⟨day, hday, hdate⟩ := hlate trade htrade
        rw [hdate]
        exact of_decide_eq_true (List.mem_filter.mp hday).2
      calc middle.trades
          = tradesUpTo middle.trades cut ++ tradesUpTo after cut := by
            rw [tradesUpTo_eq_self hmiddle, tradesUpTo_eq_nil hrest, List.append_nil]
        _ = tradesUpTo final.trades cut := by
            rw [hafter]
            exact (List.filter_append ..).symm
  · exact Or.inr ⟨error, by rw [EngineParts.run, hcut]; rfl, hshort⟩

/-! ## The overlay -/

/-- The trades made before a session. -/
def tradesBefore (trades : List Trade) (cut : Session) : List Trade :=
  trades.filter fun trade => trade.date < cut

theorem tradedOn_tradesBefore (trades : List Trade) (side : Side) {timestamp cut : Session}
    (hlt : timestamp < cut) :
    tradedOn (tradesBefore trades cut) side timestamp = tradedOn trades side timestamp := by
  have hfilter : ((trades.filter fun trade => trade.date < cut).filter fun trade =>
      trade.date = timestamp ∧ trade.side = side) =
        trades.filter fun trade => trade.date = timestamp ∧ trade.side = side := by
    rw [List.filter_filter]
    refine List.filter_congr fun trade _ => ?_
    by_cases hdate : trade.date = timestamp
    · simp [hdate, hlt]
    · simp [hdate]
  rw [tradedOn, tradedOn, tradesBefore, hfilter]

theorem overlayRound_of_tradesBefore {trades early : List Trade} {timestamp cut : Session}
    (hbefore : tradesBefore early cut = tradesBefore trades cut) (hlt : timestamp < cut)
    (endOfDay : ℕ) : overlayRound early endOfDay timestamp = overlayRound trades endOfDay timestamp := by
  have hside : ∀ side, tradedOn early side timestamp = tradedOn trades side timestamp := by
    intro side
    calc tradedOn early side timestamp
        = tradedOn (tradesBefore early cut) side timestamp :=
          (tradedOn_tradesBefore early side hlt).symm
      _ = tradedOn (tradesBefore trades cut) side timestamp := by rw [hbefore]
      _ = tradedOn trades side timestamp := tradedOn_tradesBefore trades side hlt
  simp only [overlayRound, hside]

/-- The flags up to a session are those of the trades before it. -/
theorem overlaySeries_upTo {ρ : Type*} {trades early : List Trade} {cut : Session}
    (hbefore : tradesBefore early cut = tradesBefore trades cut) (index : Series Session ρ) :
    (overlaySeries trades index).upTo cut = overlaySeries early (index.upTo cut) := by
  refine Series.upTo_scan_of_agree index ?_ ?_ (0, false)
  · intro carried row hrow
    rfl
  · intro carried row hrow
    exact overlayRound_of_tradesBefore hbefore hrow carried.1

/-- **The overlay flag of a session** depends on the trades before it only. -/
theorem overlaySeries_loc?_of_tradesBefore {ρ : Type*} {trades early : List Trade}
    {cut : Session} (hbefore : tradesBefore early cut = tradesBefore trades cut)
    (index : Series Session ρ) :
    (overlaySeries early index).loc? cut = (overlaySeries trades index).loc? cut := by
  calc (overlaySeries early index).loc? cut
      = ((overlaySeries early index).upTo cut).loc? cut := (Series.loc?_upTo _ le_rfl).symm
    _ = ((overlaySeries trades index).upTo cut).loc? cut := by
        rw [overlaySeries_upTo rfl index, overlaySeries_upTo hbefore index]
    _ = (overlaySeries trades index).loc? cut := Series.loc?_upTo _ le_rfl

theorem virtualActiveSeries_eq_ok {ρ : Type*} {result : EngineResult} {index : Series Session ρ}
    {active : Series Session Bool} (hactive : virtualActiveSeries result index = .ok active) :
    active = overlaySeries result.trades index := by
  obtain ⟨_, -, hactive⟩ := Except.bind_eq_ok.mp hactive
  cases hactive
  rfl

theorem tradesBefore_of_upTo {trades early : List Trade} {cut : Session}
    (hearly : early = tradesUpTo trades cut) :
    tradesBefore early cut = tradesBefore trades cut := by
  rw [hearly, tradesBefore, tradesBefore, tradesUpTo, List.filter_filter]
  refine List.filter_congr fun trade _ => ?_
  by_cases hlt : trade.date < cut
  · simp [hlt, hlt.le]
  · simp [hlt]

/-! ## The target rows -/

section Targets

variable {α : Type*} [LinearOrder α] [Zero α]

def noCommonSession : PyError := .value "V3.2.2 allocation target을 계산할 공통 거래일이 없습니다"

/-- The rows a cut leaves, if it leaves any. -/
def nonemptyTargets (targets : Series Session TargetRow) : Py (Series Session TargetRow) :=
  if targets.rows.isEmpty then .error noCommonSession else .ok targets

/-- **The replay does not look ahead.** -/
theorem replayTargets_upTo {ops : FloatOps α} {volatilityBrake : α}
    {qqqFrame semiconductorFrame : Series Session (Bar α)}
    {activeTqqq activeSoxl : Series Session Bool} {targets : Series Session TargetRow}
    (htargets : replayTargets ops volatilityBrake qqqFrame semiconductorFrame activeTqqq
      activeSoxl = .ok targets) (cut : Session) :
    replayTargets ops volatilityBrake (qqqFrame.upTo cut) (semiconductorFrame.upTo cut)
        (activeTqqq.upTo cut) (activeSoxl.upTo cut) = nonemptyTargets (targets.upTo cut) := by
  simp only [replayTargets, replayFeatures] at htargets ⊢
  split at htargets
  · cases htargets
  · cases htargets
    simp only [buildQqqFeatures, buildRsFeatures, ← Series.upTo_rolling, ← Series.upTo_join,
      replaySeries, ← Series.upTo_scan, nonemptyTargets]
    rfl

end Targets

/-! ## The pipeline -/

/-- The downloaded frames, cut off after a session. -/
def RawFrames.upTo (raw : RawFrames) (cut : Session) : RawFrames where
  spy := raw.spy.upTo cut
  qqq := raw.qqq.upTo cut
  tqqq := raw.tqqq.upTo cut
  soxl := raw.soxl.upTo cut
  soxx := raw.soxx.upTo cut
  smh := raw.smh.upTo cut

theorem RawFrames.common_upTo (raw : RawFrames) (cut : Session) :
    (raw.upTo cut).common = raw.common.upTo cut := by
  simp only [common, Series.upTo_join]
  rfl

theorem reindex_upTo {ρ : Type*} (frame : Frame) (common : Series Session ρ) (cut : Session) :
    reindex (frame.upTo cut) (common.upTo cut) = (reindex frame common).upTo cut := by
  rw [reindex, reindex, Series.upTo_filterMap, Series.upTo_join]

/-- The flags of one symbol, computed on cut frames, are the first flags of the whole. -/
theorem activeSeries_upTo {parts : EngineParts} {config : VirtualConfig} {input : EngineInput}
    {result early : EngineResult} (hrun : parts.run config input = .ok result) {cut : Session}
    (hearly : parts.run config (input.upTo cut) = .ok early) (raw : RawFrames) :
    overlaySeries early.trades (raw.upTo cut).common
      = (overlaySeries result.trades raw.common).upTo cut := by
  rcases run_upTo hrun cut with ⟨early', hearly', htrades⟩ | ⟨error, herror, -⟩
  · rw [hearly] at hearly'
    cases hearly'
    rw [raw.common_upTo, overlaySeries_upTo (tradesBefore_of_upTo htrades)]
  · rw [hearly] at herror
    cases herror

/-- The targets of cut frames are the first targets of the whole. -/
theorem calculateTarget_upTo {setup : TargetSetup} {raw : RawFrames}
    {targets early : Series Session TargetRow} (htargets : setup.calculateTarget raw = .ok targets)
    {cut : Session} (hearly : setup.calculateTarget (raw.upTo cut) = .ok early) :
    early = targets.upTo cut := by
  obtain ⟨tqqq, htqqq, htargets⟩ := Except.bind_eq_ok.mp htargets
  obtain ⟨soxl, hsoxl, htargets⟩ := Except.bind_eq_ok.mp htargets
  obtain ⟨activeTqqq, hactiveTqqq, htargets⟩ := Except.bind_eq_ok.mp htargets
  obtain ⟨activeSoxl, hactiveSoxl, htargets⟩ := Except.bind_eq_ok.mp htargets
  obtain ⟨tqqq', htqqq', hearly⟩ := Except.bind_eq_ok.mp hearly
  obtain ⟨soxl', hsoxl', hearly⟩ := Except.bind_eq_ok.mp hearly
  obtain ⟨activeTqqq', hactiveTqqq', hearly⟩ := Except.bind_eq_ok.mp hearly
  obtain ⟨activeSoxl', hactiveSoxl', hearly⟩ := Except.bind_eq_ok.mp hearly
  have htqqqFlags : activeTqqq' = activeTqqq.upTo cut := by
    rw [virtualActiveSeries_eq_ok hactiveTqqq, virtualActiveSeries_eq_ok hactiveTqqq']
    exact activeSeries_upTo htqqq htqqq' raw
  have hsoxlFlags : activeSoxl' = activeSoxl.upTo cut := by
    rw [virtualActiveSeries_eq_ok hactiveSoxl, virtualActiveSeries_eq_ok hactiveSoxl']
    exact activeSeries_upTo hsoxl hsoxl' raw
  have hframe : ∀ frame : Frame, reindex (frame.upTo cut) (raw.upTo cut).common
      = (reindex frame raw.common).upTo cut := by
    intro frame
    rw [raw.common_upTo, reindex_upTo]
  have hcut := replayTargets_upTo htargets cut
  rw [← hframe raw.qqq, ← hframe raw.soxx, ← htqqqFlags, ← hsoxlFlags] at hcut
  rw [show (raw.upTo cut).qqq = raw.qqq.upTo cut from rfl,
    show (raw.upTo cut).soxx = raw.soxx.upTo cut from rfl, hcut, nonemptyTargets] at hearly
  split at hearly
  · cases hearly
  · cases hearly
    rfl

/-- **Nothing later is read.**  The replay, the engine, the overlay flags and the whole
target pipeline give on frames cut off after a session what they give on the whole frames
up to that session; a flag depends on the trades before its session only. -/
theorem targets_and_trades_read_nothing_later (setup : TargetSetup) (cut : Session) :
    (∀ qqqFrame semiconductorFrame : Frame, ∀ activeTqqq activeSoxl : Series Session Bool,
      ∀ targets, replayTargets setup.ops setup.volatilityBrake qqqFrame semiconductorFrame
          activeTqqq activeSoxl = .ok targets →
        replayTargets setup.ops setup.volatilityBrake (qqqFrame.upTo cut)
            (semiconductorFrame.upTo cut) (activeTqqq.upTo cut) (activeSoxl.upTo cut)
          = nonemptyTargets (targets.upTo cut)) ∧
    (∀ input : EngineInput, ∀ result, setup.parts.run setup.config input = .ok result →
      (∃ early, setup.parts.run setup.config (input.upTo cut) = .ok early ∧
          early.trades = tradesUpTo result.trades cut) ∨
        ∃ error, setup.parts.run setup.config (input.upTo cut) = .error error ∧
          error.Shortage) ∧
    (∀ (ρ : Type) (index : Series Session ρ) (result early : EngineResult) (flags flags' : _),
      virtualActiveSeries result index = .ok flags →
      virtualActiveSeries early index = .ok flags' →
      tradesBefore early.trades cut = tradesBefore result.trades cut →
        flags'.loc? cut = flags.loc? cut) ∧
    ∀ raw : RawFrames, ∀ targets early, setup.calculateTarget raw = .ok targets →
      setup.calculateTarget (raw.upTo cut) = .ok early → early = targets.upTo cut := by
  refine ⟨?_, ?_, ?_, ?_⟩
  · intro qqqFrame semiconductorFrame activeTqqq activeSoxl targets htargets
    exact replayTargets_upTo htargets cut
  · intro input result hrun
    exact run_upTo hrun cut
  · intro ρ index result early flags flags' hflags hflags' hbefore
    rw [virtualActiveSeries_eq_ok hflags, virtualActiveSeries_eq_ok hflags']
    exact overlaySeries_loc?_of_tradesBefore hbefore index
  · intro raw targets early htargets hearly
    exact calculateTarget_upTo htargets hearly

namespace CutFrames

open SampleFrames

def setup : TargetSetup where
  parts := parts
  config := .strategyYaml
  ops := ops
  volatilityBrake := 3 / 10
  start := session 1
  completed := session 64
  defaultSlippage := 1 / 1000

/-- Both engines hold shares from the sixty-first session on. -/
def raw : RawFrames where
  spy := market
  qqq := market
  tqqq := frame 64 falling
  soxl := frame 64 falling
  soxx := market
  smh := market

end CutFrames

/-- The pipeline runs on all sessions, and on those up to the sixty-second. -/
theorem targets_and_trades_read_nothing_later_cut_frames :
    ∃ targets early, CutFrames.setup.calculateTarget CutFrames.raw = .ok targets ∧
      CutFrames.setup.calculateTarget (CutFrames.raw.upTo (SampleFrames.session 62)) = .ok early ∧
      (early.loc? (SampleFrames.session 62)).any TargetRow.jdssTqqqActive = true ∧
      early = targets.upTo (SampleFrames.session 62) := by
  have hruns : (CutFrames.setup.calculateTarget CutFrames.raw).toOption.any (fun _ =>
      (CutFrames.setup.calculateTarget (CutFrames.raw.upTo (SampleFrames.session 62))).toOption.any
        fun early => (early.loc? (SampleFrames.session 62)).any TargetRow.jdssTqqqActive)
          = true := by
    decide +kernel
  obtain ⟨targets, htargets, hruns⟩ := (Option.any_eq_true _ _).mp hruns
  obtain ⟨early, hearly, hactive⟩ := (Option.any_eq_true _ _).mp hruns
  have htargets := Except.toOption_eq_some.mp htargets
  have hearly := Except.toOption_eq_some.mp hearly
  obtain ⟨-, -, -, hpipeline⟩ :=
    targets_and_trades_read_nothing_later CutFrames.setup (SampleFrames.session 62)
  exact ⟨targets, early, htargets, hearly, hactive,
    hpipeline CutFrames.raw targets early htargets hearly⟩

end JdHoldings

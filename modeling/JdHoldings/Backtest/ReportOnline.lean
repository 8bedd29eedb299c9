import JdHoldings.Backtest.Holdings
import JdHoldings.Backtest.NoPeeking
import JdHoldings.Backtest.PortfolioReport

/-!
# The report is online

What the report of a portfolio backtest says about a session depends on the data up to that
session only, and the trades of the next session on nothing more than its opens.

Two runs on data that agree up to a session are compared.  Their targets, sessions and
virtual trades agree up to there, because everything they are made of commutes with the cut
(`NoPeeking`).  The loop starts from the target row before the first session of the report,
which is in the common part whenever a session of the report, or the session before its
first, is.
-/

namespace JdHoldings

open PortfolioBacktestEngine

/-! ## The virtual run -/

section Engine

variable {parts : EngineParts} {config : VirtualConfig} {input input' : EngineInput}

/-- The complete indicator rows of a frame, however short it is. -/
def EngineParts.indicatorFrame (parts : EngineParts) (frame : Frame) :
    Series Session IndicatorRow :=
  (frame.rolling parts.indicatorRow).filterMap fun _ row => row

theorem calculateIndicators_eq_ok {frame : Frame} {rows : Series Session IndicatorRow}
    (hrows : parts.calculateIndicators frame = .ok rows) : rows = parts.indicatorFrame frame := by
  obtain ⟨_, -, hrows⟩ := Except.bind_eq_ok.mp hrows
  obtain ⟨_, -, hrows⟩ := Except.bind_eq_ok.mp hrows
  cases hrows
  rfl

theorem indicatorFrame_upTo (frame : Frame) (cut : Session) :
    (parts.indicatorFrame frame).upTo cut = parts.indicatorFrame (frame.upTo cut) := by
  rw [EngineParts.indicatorFrame, Series.upTo_filterMap, Series.upTo_rolling]
  rfl

theorem sectorIndicators_eq_ok {entries : List (String × Frame)}
    {sectors : List (String × Series Session IndicatorRow)}
    (hsectors : (entries.mapM fun entry => do
      return (entry.1, ← parts.calculateIndicators entry.2) : Py _) = .ok sectors) :
    sectors = entries.map fun entry => (entry.1, parts.indicatorFrame entry.2) := by
  induction entries generalizing sectors with
  | nil =>
      cases hsectors
      rfl
  | cons entry entries ih =>
      rw [List.mapM_cons] at hsectors
      obtain ⟨first, hfirst, hsectors⟩ := Except.bind_eq_ok.mp hsectors
      obtain ⟨rows, hrows, hfirst⟩ := Except.bind_eq_ok.mp hfirst
      obtain ⟨others, hothers, hsectors⟩ := Except.bind_eq_ok.mp hsectors
      cases hfirst
      cases hsectors
      rw [List.map_cons, ih hothers, calculateIndicators_eq_ok hrows]

/-- The days of a run, however few they are. -/
def EngineParts.daySeries (parts : EngineParts) (config : VirtualConfig) (input : EngineInput) :
    Series Session EngineDay :=
  let common := commonIndex input (parts.indicatorFrame input.symbolData)
    (parts.indicatorFrame input.spyData) (parts.indicatorFrame input.qqqData)
    ((sectorCandidates config input).map fun entry => (entry.1, parts.indicatorFrame entry.2))
  ((withIdleClose config input.idleCashData common).rolling parts.day).filterMap fun _ day => day

theorem days_eq_ok {days : Series Session EngineDay} (hdays : parts.days config input = .ok days) :
    days = parts.daySeries config input := by
  obtain ⟨target, htarget, hdays⟩ := Except.bind_eq_ok.mp hdays
  obtain ⟨spy, hspy, hdays⟩ := Except.bind_eq_ok.mp hdays
  obtain ⟨qqq, hqqq, hdays⟩ := Except.bind_eq_ok.mp hdays
  obtain ⟨sectors, hsectors, hdays⟩ := Except.bind_eq_ok.mp hdays
  obtain ⟨_, -, hdays⟩ := Except.bind_eq_ok.mp hdays
  cases hdays
  rw [calculateIndicators_eq_ok htarget, calculateIndicators_eq_ok hspy,
    calculateIndicators_eq_ok hqqq, sectorIndicators_eq_ok hsectors]
  rfl

theorem daySeries_upTo (config : VirtualConfig) (input : EngineInput) (cut : Session) :
    (parts.daySeries config input).upTo cut = parts.daySeries config (input.upTo cut) := by
  have hsectors : ((sectorCandidates config input).map fun entry =>
        (entry.1, parts.indicatorFrame entry.2)).map (fun entry => (entry.1, entry.2.upTo cut)) =
      (sectorCandidates config (input.upTo cut)).map fun entry =>
        (entry.1, parts.indicatorFrame entry.2) := by
    rw [sectorCandidates_upTo, List.map_map, List.map_map]
    refine List.map_congr_left fun entry _ => ?_
    exact Prod.ext rfl (indicatorFrame_upTo entry.2 cut)
  simp only [EngineParts.daySeries]
  rw [Series.upTo_filterMap, Series.upTo_rolling, ← withIdleClose_upTo, ← commonIndex_upTo,
    hsectors, indicatorFrame_upTo, indicatorFrame_upTo, indicatorFrame_upTo]
  rfl

/-- What the loop has traded up to a session is what it traded in the days up to there. -/
theorem sessionSteps_upTo {loop final : LoopState} {days : Series Session EngineDay}
    {cut : Session} (hearlier : ∀ trade ∈ loop.trades, trade.date ≤ cut)
    (hloop : days.rows.foldlM (parts.sessionStep config input) loop = .ok final) :
    ∃ middle, (days.upTo cut).rows.foldlM (parts.sessionStep config input) loop = .ok middle ∧
      tradesUpTo final.trades cut = middle.trades := by
  rw [days.rows_split cut, List.foldlM_append] at hloop
  obtain ⟨middle, hfront, hback⟩ := Except.bind_eq_ok.mp hloop
  obtain ⟨before, hbefore, hearly⟩ := sessionSteps_trades hfront
  obtain ⟨after, hafter, hlate⟩ := sessionSteps_trades hback
  have hmiddle : ∀ trade ∈ middle.trades, trade.date ≤ cut := by
    rw [hbefore]
    intro trade htrade
    rcases List.mem_append.mp htrade with htrade | htrade
    · exact hearlier trade htrade
    · obtain ⟨day, hday, hdate⟩ := hearly trade htrade
      rw [hdate]
      exact of_decide_eq_true (List.mem_filter.mp hday).2
  have hrest : ∀ trade ∈ after, cut < trade.date := by
    intro trade htrade
    obtain ⟨day, hday, hdate⟩ := hlate trade htrade
    rw [hdate]
    exact of_decide_eq_true (List.mem_filter.mp hday).2
  refine ⟨middle, hfront, ?_⟩
  calc tradesUpTo final.trades cut
      = tradesUpTo middle.trades cut ++ tradesUpTo after cut := by
        rw [hafter]
        exact List.filter_append ..
    _ = middle.trades := by
        rw [tradesUpTo_eq_self hmiddle, tradesUpTo_eq_nil hrest, List.append_nil]

/-- Two runs on inputs that agree up to a session have traded the same up to there. -/
theorem run_agree {result result' : EngineResult} {cut : Session}
    (hinput : input.upTo cut = input'.upTo cut) (hrun : parts.run config input = .ok result)
    (hrun' : parts.run config input' = .ok result') :
    tradesUpTo result.trades cut = tradesUpTo result'.trades cut := by
  obtain ⟨days, hdays, hrun⟩ := Except.bind_eq_ok.mp hrun
  obtain ⟨final, hloop, hrun⟩ := Except.bind_eq_ok.mp hrun
  obtain ⟨days', hdays', hrun'⟩ := Except.bind_eq_ok.mp hrun'
  obtain ⟨final', hloop', hrun'⟩ := Except.bind_eq_ok.mp hrun'
  cases hrun
  cases hrun'
  have hnone : ∀ trade ∈ (initialLoop config).trades, trade.date ≤ cut := by
    intro trade htrade
    cases htrade
  obtain ⟨middle, hfront, htrades⟩ := sessionSteps_upTo hnone hloop
  obtain ⟨middle', hfront', htrades'⟩ := sessionSteps_upTo hnone hloop'
  have hstep : parts.sessionStep config input = parts.sessionStep config input' := by
    change parts.sessionStep config (input.upTo cut) = parts.sessionStep config (input'.upTo cut)
    rw [hinput]
  rw [days_eq_ok hdays, daySeries_upTo, hinput, hstep] at hfront
  rw [days_eq_ok hdays', daySeries_upTo] at hfront'
  have hsame : (.ok middle : Py LoopState) = .ok middle' := hfront.symm.trans hfront'
  cases hsame
  exact htrades.trans htrades'.symm

/-- The flags up to a session are those of the trades up to there. -/
theorem overlaySeries_agree {ρ : Type} {trades trades' : List Trade} {index index' : Series Session ρ}
    {cut : Session} (htrades : tradesUpTo trades cut = tradesUpTo trades' cut)
    (hindex : index.upTo cut = index'.upTo cut) :
    (overlaySeries trades index).upTo cut = (overlaySeries trades' index').upTo cut := by
  rw [overlaySeries_upTo (tradesBefore_of_upTo rfl) index,
    overlaySeries_upTo (tradesBefore_of_upTo rfl) index', htrades, hindex]

end Engine

/-- The target rows up to a session are those of the frames and flags up to there. -/
theorem replayTargets_agree {ops : FloatOps Decimal} {volatilityBrake : Decimal}
    {qqq qqq' soxx soxx' : Frame} {activeTqqq activeTqqq' activeSoxl activeSoxl' : Series Session Bool}
    {targets targets' : Series Session TargetRow} {cut : Session}
    (htargets : replayTargets ops volatilityBrake qqq soxx activeTqqq activeSoxl = .ok targets)
    (htargets' : replayTargets ops volatilityBrake qqq' soxx' activeTqqq' activeSoxl' = .ok targets')
    (hqqq : qqq.upTo cut = qqq'.upTo cut) (hsoxx : soxx.upTo cut = soxx'.upTo cut)
    (htqqq : activeTqqq.upTo cut = activeTqqq'.upTo cut)
    (hsoxl : activeSoxl.upTo cut = activeSoxl'.upTo cut) :
    targets.upTo cut = targets'.upTo cut := by
  have hcut := replayTargets_upTo htargets cut
  have hcut' := replayTargets_upTo htargets' cut
  rw [hqqq, hsoxx, htqqq, hsoxl, hcut', nonemptyTargets, nonemptyTargets] at hcut
  split at hcut
  next hempty' =>
    split at hcut
    next hempty =>
      refine Series.eq_of_rows ?_
      rw [List.isEmpty_iff.mp hempty, List.isEmpty_iff.mp hempty']
    next => cases hcut
  next =>
    split at hcut
    next => cases hcut
    next => exact (Except.ok.inj hcut).symm

namespace PortfolioBacktestEngine

variable {setup : Setup} {start stop past : Session}

/-! ## What a run is prepared from -/

/-- What a preparation that succeeded has computed from its frames and flags. -/
structure Prepares (setup : Setup) (start stop : Session) (common : Series Session CommonBars)
    (targets : Series Session TargetRow) (prepared : Prepared) : Prop where
  prior : ∃ session row, priorSession common (chosenSessions common start stop) = some session ∧
    targets.loc? session = some row ∧ prepared.prior = row.weights
  sessions : prepared.sessions = ((chosenSessions common start stop).join targets).filterMap
    fun _ row => sessionOf row.1 row.2
  index : prepared.sessions.index = (chosenSessions common start stop).index

theorem prepareFrames_ok {qqq tqqq soxl soxx : Frame} {tqqqResult soxlResult : EngineResult}
    {prepared : Prepared}
    (hok : setup.prepareFrames qqq tqqq soxl soxx tqqqResult soxlResult start stop = .ok prepared) :
    let common := commonSessions qqq tqqq soxl soxx
    ∃ targets, replayTargets setup.ops setup.volatilityBrake (reindex qqq common)
        (reindex soxx common) (overlaySeries tqqqResult.trades common)
        (overlaySeries soxlResult.trades common) = .ok targets ∧
      Prepares setup start stop common targets prepared := by
  intro common
  simp only [Setup.prepareFrames, Except.bind_eq_ok, raiseIf_eq_ok] at hok
  obtain ⟨_, -, activeTqqq, htqqq, activeSoxl, hsoxl, targets, htargets, _, -, hok⟩ := hok
  rw [virtualActiveSeries_eq_ok htqqq, virtualActiveSeries_eq_ok hsoxl] at htargets
  refine ⟨targets, htargets, ?_⟩
  split at hok
  · cases hok
  next session hsession =>
    split at hok
    · cases hok
    next row hrow =>
      simp only [Except.bind_eq_ok, raiseIf_eq_ok, not_not] at hok
      obtain ⟨_, hjoined, _, hcomplete, hok⟩ := hok
      cases hok
      exact ⟨⟨session, row, hsession, hrow, rfl⟩, rfl, hcomplete.trans hjoined⟩

theorem mem_chosenSessions {ρ : Type} {common : Series Session ρ} {timestamp : Session} :
    timestamp ∈ (chosenSessions common start stop).index ↔
      timestamp ∈ common.index ∧ start ≤ timestamp ∧ timestamp ≤ stop := by
  rw [chosenSessions, Series.mem_index_select, decide_eq_true_eq]

/-- The session before the first one of the report, seen from the cut. -/
theorem priorSession_upTo {ρ : Type} {common chosen : Series Session ρ} {first : Session}
    (hfirst : chosen.index.head? = some first) (hpast : first ≤ past) :
    priorSession (common.upTo past) (chosen.upTo past) = priorSession common chosen := by
  have hhead : (chosen.upTo past).index.head? = some first := by
    rw [Series.index_upTo]
    obtain ⟨rest, hrest⟩ := List.head?_eq_some_iff.mp hfirst
    rw [hrest, List.filter_cons_of_pos (by simpa using hpast), List.head?_cons]
  rw [priorSession, priorSession, hhead, hfirst, Series.index_upTo, List.filter_filter]
  congr 1
  refine List.filter_congr fun timestamp _ => ?_
  by_cases hbefore : timestamp < first
  · simp [hbefore, (hbefore.trans_le hpast).le]
  · simp [hbefore]

/-- The session right before the first one of the report. -/
theorem priorSession_of_next {ρ : Type} {common chosen : Series Session ρ} {next : Session}
    (hfirst : chosen.index.head? = some next) (hmem : past ∈ common.index) (hnext : past < next)
    (hbetween : ∀ timestamp ∈ common.index, timestamp < next → timestamp ≤ past) :
    priorSession common chosen = some past := by
  let before := common.select fun timestamp => decide (timestamp < next)
  have hbefore : priorSession common chosen = before.index.getLast? := by
    rw [priorSession, hfirst]
    simp only [Option.any_some, before, Series.index, Series.select, List.filter_map]
    rfl
  rw [hbefore]
  have hpast : past ∈ before.index := Series.mem_index_select.mpr ⟨hmem, decide_eq_true hnext⟩
  cases hlast : before.index.getLast? with
  | none =>
      rw [List.getLast?_eq_none_iff.mp hlast] at hpast
      cases hpast
  | some last =>
      obtain ⟨hcommon, hlt⟩ := Series.mem_index_select.mp (List.mem_of_getLast? hlast)
      have hle := hbetween last hcommon (of_decide_eq_true hlt)
      exact congrArg some (le_antisymm hle (Series.le_of_getLast? hlast hpast))

/-- A session, and the one after it. -/
structure NextSession {ρ : Type} (common : Series Session ρ) (past next : Session) : Prop where
  past_mem : past ∈ common.index
  next_mem : next ∈ common.index
  lt : past < next
  between : ∀ timestamp ∈ common.index, timestamp < next → timestamp ≤ past

/-- A report that starts right after a session starts from its target row. -/
theorem Prepares.prior_next {common : Series Session CommonBars}
    {targets : Series Session TargetRow} {prepared : Prepared} {next : Session}
    (hprepares : Prepares setup start stop common targets prepared)
    (hnext : NextSession common past next) (hchosen : next ∈ prepared.sessions.index)
    (hreached : (prepared.sessions.upTo past).rows = []) :
    priorSession common (chosenSessions common start stop) = some past := by
  refine priorSession_of_next ?_ hnext.past_mem hnext.lt hnext.between
  rw [hprepares.index] at hchosen
  cases hhead : (chosenSessions common start stop).index.head? with
  | none =>
      rw [List.head?_eq_none_iff.mp hhead] at hchosen
      cases hchosen
  | some first =>
      have hle := Series.le_of_head? hhead hchosen
      have hfirst := List.mem_of_head? hhead
      refine congrArg some (le_antisymm hle (not_lt.mp fun hlt => ?_))
      have hcut : first ≤ past :=
        hnext.between first (mem_chosenSessions.mp hfirst).1 hlt
      rw [← hprepares.index] at hfirst
      have hmem : first ∈ (prepared.sessions.upTo past).index :=
        Series.mem_index_upTo.mpr ⟨hfirst, hcut⟩
      rw [Series.index, hreached] at hmem
      cases hmem

/-! ## Two preparations that agree -/

section Agree

variable {common common' : Series Session CommonBars} {targets targets' : Series Session TargetRow}
  {prepared prepared' : Prepared}

theorem Prepares.sessions_upTo (hprepares : Prepares setup start stop common targets prepared) :
    prepared.sessions.upTo past =
      ((chosenSessions (common.upTo past) start stop).join (targets.upTo past)).filterMap
        fun _ row => sessionOf row.1 row.2 := by
  rw [hprepares.sessions, Series.upTo_filterMap, Series.upTo_join, chosenSessions,
    Series.upTo_select, chosenSessions]

/-- The sessions of the report agree as far as the data do. -/
theorem Prepares.sessions_agree (hprepares : Prepares setup start stop common targets prepared)
    (hprepares' : Prepares setup start stop common' targets' prepared')
    (hcommon : common.upTo past = common'.upTo past)
    (htargets : targets.upTo past = targets'.upTo past) :
    prepared.sessions.upTo past = prepared'.sessions.upTo past := by
  rw [hprepares.sessions_upTo, hprepares'.sessions_upTo, hcommon, htargets]

/-- The first session of the report, if the data have reached it. -/
theorem Prepares.head_agree (hprepares : Prepares setup start stop common targets prepared)
    (hcommon : common.upTo past = common'.upTo past)
    (hreached : (prepared.sessions.upTo past).rows ≠ []) :
    ∃ first, first ≤ past ∧ (chosenSessions common start stop).index.head? = some first ∧
      (chosenSessions common' start stop).index.head? = some first := by
  have hchosen : (chosenSessions common start stop).upTo past =
      (chosenSessions common' start stop).upTo past := by
    rw [chosenSessions, chosenSessions, Series.upTo_select, Series.upTo_select, hcommon]
  have hindex : (prepared.sessions.upTo past).index =
      ((chosenSessions common start stop).upTo past).index := by
    rw [Series.index_upTo, Series.index_upTo, hprepares.index]
  cases hrows : ((chosenSessions common start stop).upTo past).index with
  | nil =>
      rw [hrows] at hindex
      exact absurd (List.map_eq_nil_iff.mp hindex) hreached
  | cons first rest =>
      have hle : first ≤ past := by
        have hmem : first ∈ ((chosenSessions common start stop).upTo past).index := by
          rw [hrows]
          exact List.mem_cons_self
        exact (Series.mem_index_upTo.mp hmem).2
      have hhead : ((chosenSessions common start stop).upTo past).index.head? = some first := by
        rw [hrows, List.head?_cons]
      have hhead' := hhead
      rw [hchosen] at hhead'
      exact ⟨first, hle, Series.head?_of_upTo hhead, Series.head?_of_upTo hhead'⟩

/-- Both loops start from the same target row once the data have reached the report. -/
theorem Prepares.prior_agree (hprepares : Prepares setup start stop common targets prepared)
    (hprepares' : Prepares setup start stop common' targets' prepared')
    (htargets : targets.upTo past = targets'.upTo past)
    (hsame : ∃ session ≤ past,
      priorSession common (chosenSessions common start stop) = some session ∧
      priorSession common' (chosenSessions common' start stop) = some session) :
    prepared.prior = prepared'.prior := by
  obtain ⟨session, hpast, hsession, hsession'⟩ := hsame
  obtain ⟨found, row, hfound, hrow, hprior⟩ := hprepares.prior
  obtain ⟨found', row', hfound', hrow', hprior'⟩ := hprepares'.prior
  rw [hsession] at hfound
  rw [hsession'] at hfound'
  cases hfound
  cases hfound'
  have hlocs : some row = some row' := by
    rw [← hrow, ← hrow', ← targets.loc?_upTo hpast, htargets, targets'.loc?_upTo hpast]
  rw [hprior, hprior', Option.some.inj hlocs]

theorem Prepares.prior_of_reached (hprepares : Prepares setup start stop common targets prepared)
    (hprepares' : Prepares setup start stop common' targets' prepared')
    (hcommon : common.upTo past = common'.upTo past)
    (htargets : targets.upTo past = targets'.upTo past)
    (hreached : (prepared.sessions.upTo past).rows ≠ []) : prepared.prior = prepared'.prior := by
  obtain ⟨first, hfirst, hhead, hhead'⟩ := hprepares.head_agree hcommon hreached
  refine hprepares.prior_agree hprepares' htargets ?_
  obtain ⟨session, _, hsession, -⟩ := hprepares.prior
  have hchosen : (chosenSessions common start stop).upTo past =
      (chosenSessions common' start stop).upTo past := by
    rw [chosenSessions, chosenSessions, Series.upTo_select, Series.upTo_select, hcommon]
  have hsame : priorSession common' (chosenSessions common' start stop) =
      priorSession common (chosenSessions common start stop) := by
    rw [← priorSession_upTo hhead' hfirst, ← priorSession_upTo hhead hfirst, hcommon, hchosen]
  refine ⟨session, ?_, hsession, hsame.trans hsession⟩
  have hmem := List.mem_filter.mp (List.mem_of_getLast? hsession)
  rw [hhead, Option.any_some, decide_eq_true_eq] at hmem
  exact (hmem.2.trans_le hfirst).le

/-- Both loops carry the same state out of the common part into the session after it. -/
theorem Prepares.prior_of_next (hprepares : Prepares setup start stop common targets prepared)
    (hprepares' : Prepares setup start stop common' targets' prepared')
    (hcommon : common.upTo past = common'.upTo past)
    (htargets : targets.upTo past = targets'.upTo past) {next : Session}
    (hnext : NextSession common past next) (hnext' : NextSession common' past next)
    (hchosen : next ∈ prepared.sessions.index) (hchosen' : next ∈ prepared'.sessions.index) :
    prepared.prior = prepared'.prior := by
  by_cases hreached : (prepared.sessions.upTo past).rows = []
  · -- the report starts with the next session
    have hreached' : (prepared'.sessions.upTo past).rows = [] := by
      rw [← hprepares.sessions_agree hprepares' hcommon htargets]
      exact hreached
    refine hprepares.prior_agree hprepares' htargets ⟨past, le_refl past, ?_, ?_⟩
    · exact hprepares.prior_next hnext hchosen hreached
    · exact hprepares'.prior_next hnext' hchosen' hreached'
  · exact hprepares.prior_of_reached hprepares' hcommon htargets hreached

end Agree

end PortfolioBacktestEngine

/-! ## The production backtest -/

namespace BacktestData

/-- The downloaded frames, cut off after a session. -/
def upTo (data : BacktestData) (cut : Session) : BacktestData where
  spy := data.spy.upTo cut
  qqq := data.qqq.upTo cut
  tqqq := data.tqqq.upTo cut
  soxl := data.soxl.upTo cut
  soxx := data.soxx.upTo cut
  sectorData := data.sectorData.map fun entry => (entry.1, entry.2.upTo cut)
  idleCashData := data.idleCashData.map fun frame => frame.upTo cut

/-- The sessions the allocation has. -/
def common (data : BacktestData) : Series Session CommonBars :=
  commonSessions data.qqq data.tqqq data.soxl data.soxx

/-- A column of a session. -/
def column (data : BacktestData) (read : Bar Decimal → Option Decimal) (timestamp : Session) :
    AllocationSymbol → Option Decimal
  | .qqq => (data.qqq.loc? timestamp).bind read
  | .tqqq => (data.tqqq.loc? timestamp).bind read
  | .soxl => (data.soxl.loc? timestamp).bind read

/-- The opens of a session. -/
def opens (data : BacktestData) : Session → AllocationSymbol → Option Decimal :=
  data.column Bar.open_

/-- The closes of a session. -/
def closes (data : BacktestData) : Session → AllocationSymbol → Option Decimal :=
  data.column Bar.close

theorem common_upTo (data : BacktestData) (cut : Session) :
    (data.upTo cut).common = data.common.upTo cut := by
  simp only [common, commonSessions, Series.upTo_join]
  rfl

theorem engineInput_upTo (data : BacktestData) (request : BacktestRequest)
    (defaultSlippage : Decimal) (symbol : String) (symbolData : Frame) (cut : Session) :
    (data.engineInput request defaultSlippage symbol symbolData).upTo cut =
      (data.upTo cut).engineInput request defaultSlippage symbol (symbolData.upTo cut) := by
  simp only [engineInput, EngineInput.upTo, upTo]
  split <;> rfl

end BacktestData

namespace PortfolioBacktestEngine

variable {data other : BacktestData} {setup : Setup} {start stop past : Session}

theorem column_of_prices {read : Bar Decimal → Option Decimal} {timestamp : Session}
    {bars : CommonBars} {values : AllocationSymbol → Decimal}
    (hbars : data.common.loc? timestamp = some bars) (hvalues : prices read bars = some values)
    (symbol : AllocationSymbol) : data.column read timestamp symbol = some (values symbol) := by
  simp only [BacktestData.common, commonSessions, Series.loc?_join, Option.bind_eq_some_iff,
    Option.map_eq_some_iff] at hbars
  obtain ⟨_, ⟨_, ⟨qqq, hqqq, tqqq, htqqq, rfl⟩, soxl, hsoxl, rfl⟩, soxx, -, rfl⟩ := hbars
  simp only [prices, Option.bind_eq_bind, Option.bind_eq_some_iff] at hvalues
  obtain ⟨price₁, hprice₁, price₂, hprice₂, price₃, hprice₃, hvalues⟩ := hvalues
  cases hvalues
  cases symbol with
  | qqq => rw [BacktestData.column, hqqq, Option.bind_some, hprice₁]
  | tqqq => rw [BacktestData.column, htqqq, Option.bind_some, hprice₂]
  | soxl => rw [BacktestData.column, hsoxl, Option.bind_some, hprice₃]

/-- A session of the report trades at the opens of the data, and is marked at its closes. -/
theorem Prepares.prices_eq {targets : Series Session TargetRow} {prepared : Prepared}
    {timestamp : Session} {session : BacktestSession}
    (hprepares : Prepares setup start stop data.common targets prepared)
    (hsession : prepared.sessions.loc? timestamp = some session) :
    (∀ symbol, data.opens timestamp symbol = some (session.opens symbol)) ∧
      ∀ symbol, data.closes timestamp symbol = some (session.closes symbol) := by
  rw [hprepares.sessions, Series.loc?_filterMap, Option.bind_eq_some_iff] at hsession
  obtain ⟨⟨bars, target⟩, hrow, hsession⟩ := hsession
  rw [Series.loc?_join, Option.bind_eq_some_iff] at hrow
  obtain ⟨found, hfound, hrow⟩ := hrow
  obtain ⟨row, -, hrow⟩ := Option.map_eq_some_iff.mp hrow
  cases hrow
  have hbars : data.common.loc? timestamp = some bars := by
    have hmem : timestamp ∈ (chosenSessions data.common start stop).index :=
      Series.mem_index_iff.mpr ⟨bars, hfound⟩
    have hkeep : decide (start ≤ timestamp ∧ timestamp ≤ stop) = true :=
      decide_eq_true (mem_chosenSessions.mp hmem).2
    rw [← hfound, chosenSessions]
    exact (Series.loc?_select data.common hkeep).symm
  simp only [sessionOf, Option.bind_eq_bind, Option.bind_eq_some_iff] at hsession
  obtain ⟨opens, hopens, closes, hcloses, hsession⟩ := hsession
  cases hsession
  exact ⟨column_of_prices hbars hopens, column_of_prices hbars hcloses⟩

theorem Prepares.mem_sessions {targets : Series Session TargetRow} {prepared : Prepared}
    {timestamp : Session} (hprepares : Prepares setup start stop data.common targets prepared) :
    timestamp ∈ prepared.sessions.index ↔
      timestamp ∈ data.common.index ∧ start ≤ timestamp ∧ timestamp ≤ stop := by
  rw [hprepares.index, mem_chosenSessions]

/-- The trades of the next session, if it is one of the report. -/
theorem Prepares.loc?_turns {targets : Series Session TargetRow} {prepared : Prepared}
    {next : Session} (hprepares : Prepares setup start stop data.common targets prepared)
    (hnext : NextSession data.common past next) (hchosen : next ∈ prepared.sessions.index)
    (slippage : Option Decimal) :
    ((setup.report slippage prepared).turns.loc? next).map Turn.trades =
      (prepared.sessions.loc? next).map fun session =>
        let carried := (prepared.sessions.upTo past).rows.foldl
          (fun carried row => (turn (setup.costs slippage) setup.onboarding carried row).1)
          (0, PortfolioBacktestEngine.start setup.onboarding prepared.prior)
        (tradeTurn (setup.costs slippage) setup.onboarding carried.1 next session.opens
          carried.2).2 := by
  have hbetween : ∀ key ∈ prepared.sessions.index, key < next → key ≤ past := by
    intro key hkey hlt
    exact hnext.between key (hprepares.mem_sessions.mp hkey).1 hlt
  simp only [Setup.report]
  rw [Series.loc?_scan_next _ _ hnext.lt hchosen hbetween, Option.map_map]
  rfl

/-- The trades of a session are decided by the sessions before it and its opens. -/
theorem Prepares.next_trades {targets targets' : Series Session TargetRow}
    {prepared prepared' : Prepared}
    (hprepares : Prepares setup start stop data.common targets prepared)
    (hprepares' : Prepares setup start stop other.common targets' prepared')
    (hcommon : data.common.upTo past = other.common.upTo past)
    (htargets : targets.upTo past = targets'.upTo past) {next : Session}
    (hnext : NextSession data.common past next) (hnext' : NextSession other.common past next)
    (hopens : ∀ symbol, data.opens next symbol = other.opens next symbol)
    (slippage : Option Decimal) :
    ((setup.report slippage prepared).turns.loc? next).map Turn.trades =
      ((setup.report slippage prepared').turns.loc? next).map Turn.trades := by
  by_cases hchosen : start ≤ next ∧ next ≤ stop
  · have hmem := hprepares.mem_sessions.mpr ⟨hnext.next_mem, hchosen⟩
    have hmem' := hprepares'.mem_sessions.mpr ⟨hnext'.next_mem, hchosen⟩
    obtain ⟨session, hsession⟩ := Series.mem_index_iff.mp hmem
    obtain ⟨session', hsession'⟩ := Series.mem_index_iff.mp hmem'
    have hsame : session.opens = session'.opens := by
      funext symbol
      refine Option.some.inj ?_
      rw [← (hprepares.prices_eq hsession).1, ← (hprepares'.prices_eq hsession').1, hopens]
    rw [hprepares.loc?_turns hnext hmem, hprepares'.loc?_turns hnext' hmem', hsession, hsession',
      Option.map_some, Option.map_some, hprepares.sessions_agree hprepares' hcommon htargets,
      hprepares.prior_of_next hprepares' hcommon htargets hnext hnext' hmem hmem', hsame]
  · -- the session is none of either report
    have hnone : ∀ (source : BacktestData) (rows : Series Session TargetRow) (ready : Prepared),
        Prepares setup start stop source.common rows ready →
          (setup.report slippage ready).turns.loc? next = none := by
      intro source rows ready hready
      refine Option.eq_none_iff_forall_ne_some.mpr fun turned hturned => ?_
      have hindex : next ∈ (setup.report slippage ready).turns.index :=
        Series.mem_index_iff.mpr ⟨turned, hturned⟩
      rw [Series.index, Setup.report, Series.scan, Series.map_fst_scanRows] at hindex
      exact hchosen (hready.mem_sessions.mp hindex).2
    rw [hnone data targets prepared hprepares, hnone other targets' prepared' hprepares']

/-- A report is the loop over what was prepared from the data. -/
theorem runProductionBacktest_ok {parts : EngineParts} {config : VirtualConfig}
    {request : BacktestRequest} {report : PortfolioReport}
    (hreport : runProductionBacktest parts config setup request data = .ok report) :
    ∃ tqqq soxl targets prepared,
      parts.run config (data.engineInput request setup.defaultSlippage "TQQQ" data.tqqq) = .ok tqqq ∧
      parts.run config (data.engineInput request setup.defaultSlippage "SOXL" data.soxl) = .ok soxl ∧
      replayTargets setup.ops setup.volatilityBrake (reindex data.qqq data.common)
        (reindex data.soxx data.common) (overlaySeries tqqq.trades data.common)
        (overlaySeries soxl.trades data.common) = .ok targets ∧
      Prepares setup request.start request.stop data.common targets prepared ∧
      report = setup.report request.slippage prepared := by
  obtain ⟨tqqq, htqqq, hreport⟩ := Except.bind_eq_ok.mp hreport
  obtain ⟨soxl, hsoxl, hreport⟩ := Except.bind_eq_ok.mp hreport
  obtain ⟨prepared, hprepared, hreport⟩ := Except.bind_eq_ok.mp hreport
  cases hreport
  have hframes : setup.prepareFrames data.qqq data.tqqq data.soxl data.soxx tqqq soxl
      request.start request.stop = .ok prepared := hprepared
  obtain ⟨targets, htargets, hprepares⟩ := prepareFrames_ok hframes
  exact ⟨tqqq, soxl, targets, prepared, htqqq, hsoxl, htargets, hprepares, rfl⟩

end PortfolioBacktestEngine

section Online

variable {parts : EngineParts} {config : VirtualConfig} {setup : Setup} {request : BacktestRequest}
  {data other : BacktestData} {past : Session}

/-- The virtual trades of data that agree up to a session. -/
theorem virtualTrades_agree {symbol : String} {frame frame' : Frame} {result result' : EngineResult}
    (hdata : data.upTo past = other.upTo past) (hframe : frame.upTo past = frame'.upTo past)
    (hrun : parts.run config (data.engineInput request setup.defaultSlippage symbol frame) = .ok result)
    (hrun' : parts.run config (other.engineInput request setup.defaultSlippage symbol frame') =
      .ok result') : tradesUpTo result.trades past = tradesUpTo result'.trades past := by
  refine run_agree ?_ hrun hrun'
  rw [data.engineInput_upTo, other.engineInput_upTo, hdata, hframe]

theorem common_agree (hdata : data.upTo past = other.upTo past) :
    data.common.upTo past = other.common.upTo past := by
  rw [← data.common_upTo, ← other.common_upTo, hdata]

/-- The frames of one symbol, on their own and on the common sessions. -/
theorem frame_agree (hdata : data.upTo past = other.upTo past) (frame : BacktestData → Frame)
    (hcut : ∀ source, frame (source.upTo past) = (frame source).upTo past) :
    (frame data).upTo past = (frame other).upTo past ∧
      (reindex (frame data) data.common).upTo past =
        (reindex (frame other) other.common).upTo past := by
  have hframe : (frame data).upTo past = (frame other).upTo past := by
    rw [← hcut, ← hcut, hdata]
  refine ⟨hframe, ?_⟩
  rw [← reindex_upTo, ← reindex_upTo, hframe, common_agree hdata]

/-- The target rows of data that agree up to a session. -/
theorem targets_agree {tqqq tqqq' soxl soxl' : EngineResult} {targets targets' : Series Session TargetRow}
    (hdata : data.upTo past = other.upTo past)
    (htqqq : tradesUpTo tqqq.trades past = tradesUpTo tqqq'.trades past)
    (hsoxl : tradesUpTo soxl.trades past = tradesUpTo soxl'.trades past)
    (htargets : replayTargets setup.ops setup.volatilityBrake (reindex data.qqq data.common)
      (reindex data.soxx data.common) (overlaySeries tqqq.trades data.common)
      (overlaySeries soxl.trades data.common) = .ok targets)
    (htargets' : replayTargets setup.ops setup.volatilityBrake (reindex other.qqq other.common)
      (reindex other.soxx other.common) (overlaySeries tqqq'.trades other.common)
      (overlaySeries soxl'.trades other.common) = .ok targets') :
    targets.upTo past = targets'.upTo past := by
  refine replayTargets_agree htargets htargets' ?_ ?_ ?_ ?_
  · exact (frame_agree hdata BacktestData.qqq fun _ => rfl).2
  · exact (frame_agree hdata BacktestData.soxx fun _ => rfl).2
  · exact overlaySeries_agree htqqq (common_agree hdata)
  · exact overlaySeries_agree hsoxl (common_agree hdata)

/-- **The report is online.**  Two backtests of one request on data that agree up to a
session report the same up to there: the same trades, equity, exposure and sizing equity.
And if the next session of both has the same opens, they trade the same in it. -/
theorem portfolio_report_is_online {report report' : PortfolioReport}
    (hreport : runProductionBacktest parts config setup request data = .ok report)
    (hreport' : runProductionBacktest parts config setup request other = .ok report')
    (hdata : data.upTo past = other.upTo past) :
    report.turns.upTo past = report'.turns.upTo past ∧
      ∀ next, NextSession data.common past next → NextSession other.common past next →
        (∀ symbol, data.opens next symbol = other.opens next symbol) →
          (report.turns.loc? next).map Turn.trades = (report'.turns.loc? next).map Turn.trades := by
  obtain ⟨tqqq, soxl, targets, prepared, htqqq, hsoxl, htargets, hprepares, rfl⟩ :=
    runProductionBacktest_ok hreport
  obtain ⟨tqqq', soxl', targets', prepared', htqqq', hsoxl', htargets', hprepares', rfl⟩ :=
    runProductionBacktest_ok hreport'
  have hcommon := common_agree hdata
  have hsame : targets.upTo past = targets'.upTo past := by
    refine targets_agree hdata ?_ ?_ htargets htargets'
    · refine virtualTrades_agree hdata ?_ htqqq htqqq'
      exact (frame_agree hdata BacktestData.tqqq fun _ => rfl).1
    · refine virtualTrades_agree hdata ?_ hsoxl hsoxl'
      exact (frame_agree hdata BacktestData.soxl fun _ => rfl).1
  have hsessions := hprepares.sessions_agree hprepares' hcommon hsame
  constructor
  · simp only [Setup.report, Series.upTo_scan, hsessions]
    by_cases hreached : (prepared.sessions.upTo past).rows = []
    · -- the report has not begun, so what it begins with does not matter
      refine Series.eq_of_rows ?_
      rw [← hsessions]
      simp only [Series.scan, hreached, Series.scanRows]
    · rw [hprepares.prior_of_reached hprepares' hcommon hsame hreached]
  · intro next hnext hnext' hopens
    exact hprepares.next_trades hprepares' hcommon hsame hnext hnext' hopens _

end Online

namespace LastTwoDays

open SampleFrames

/-- The last two sessions vary: how far the first of them rises, and where the second is. -/
def varied (bar : ℕ → Bar Decimal) (rise last : Decimal) (day : ℕ) : Bar Decimal :=
  match day with
  | 63 => SampleFrames.bar 101 (102 + rise) 100 (101 + rise) 1000
  | 64 => calm last
  | _ => bar day

def data (rise last : Decimal) : BacktestData where
  spy := frame 64 (varied (fun _ => calm 100) rise last)
  qqq := frame 64 (varied (fun _ => calm 100) rise last)
  tqqq := frame 64 (varied falling rise last)
  soxl := frame 64 (varied falling rise last)
  soxx := frame 64 (varied (fun _ => calm 100) rise last)
  sectorData := [("SOXX", frame 64 (varied (fun _ => calm 100) rise last)),
    ("SMH", frame 64 (varied (fun _ => calm 100) rise last))]
  idleCashData := none

def setup : Setup where
  ops := ops
  volatilityBrake := 3 / 10
  onboarding := ⟨true, [1 / 2, 1], 1⟩
  buyFee := 1 / 1000
  sellFee := 1 / 1000
  defaultSlippage := 1 / 1000

def request : BacktestRequest where
  strategyStart := session 1
  start := session 61
  stop := session 64
  slippage := none

theorem varied_upTo (bar : ℕ → Bar Decimal) (rise last : Decimal) :
    (frame 64 (varied bar rise last)).upTo (session 62)
      = (frame 64 (varied bar 0 100)).upTo (session 62) := by
  refine frame_upTo fun day hday => ?_
  unfold varied
  split
  · omega
  · omega
  · rfl

theorem data_upTo (rise last : Decimal) :
    (data rise last).upTo (session 62) = (data 0 100).upTo (session 62) := by
  simp only [BacktestData.upTo, data, List.map_cons, List.map_nil, Option.map_none, varied_upTo]

end LastTwoDays

/-- The sixty-third session trades `QQQ` for the two leveraged symbols, whatever its close is. -/
theorem portfolio_report_is_online_last_two_days :
    ∃ report report',
      runProductionBacktest SampleFrames.parts VirtualConfig.strategyYaml LastTwoDays.setup
        LastTwoDays.request (LastTwoDays.data 10 110) = .ok report ∧
      runProductionBacktest SampleFrames.parts VirtualConfig.strategyYaml LastTwoDays.setup
        LastTwoDays.request (LastTwoDays.data 0 50) = .ok report' ∧
      report.turns ≠ report'.turns ∧
      report.turns.upTo (SampleFrames.session 62)
        = report'.turns.upTo (SampleFrames.session 62) ∧
      (report.turns.loc? (SampleFrames.session 63)).map Turn.trades =
        (report'.turns.loc? (SampleFrames.session 63)).map Turn.trades := by
  have hruns : (runProductionBacktest SampleFrames.parts VirtualConfig.strategyYaml
      LastTwoDays.setup LastTwoDays.request (LastTwoDays.data 10 110)).toOption.any (fun report =>
        (runProductionBacktest SampleFrames.parts VirtualConfig.strategyYaml LastTwoDays.setup
          LastTwoDays.request (LastTwoDays.data 0 50)).toOption.any fun report' =>
            decide (report.turns ≠ report'.turns)) = true := by
    decide +kernel
  obtain ⟨report, hreport, hruns⟩ := (Option.any_eq_true _ _).mp hruns
  obtain ⟨report', hreport', hdiffer⟩ := (Option.any_eq_true _ _).mp hruns
  have hreport := Except.toOption_eq_some.mp hreport
  have hreport' := Except.toOption_eq_some.mp hreport'
  have hdata := (LastTwoDays.data_upTo 10 110).trans (LastTwoDays.data_upTo 0 50).symm
  obtain ⟨hturns, hnext⟩ := portfolio_report_is_online hreport hreport' hdata
  refine ⟨report, report', hreport, hreport', of_decide_eq_true hdiffer, hturns, ?_⟩
  refine hnext (SampleFrames.session 63) ?_ ?_ ?_
  · exact ⟨by decide +kernel, by decide +kernel, by decide +kernel, by decide +kernel⟩
  · exact ⟨by decide +kernel, by decide +kernel, by decide +kernel, by decide +kernel⟩
  · decide +kernel

end JdHoldings

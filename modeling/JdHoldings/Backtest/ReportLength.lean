import JdHoldings.Backtest.ReportOnline

/-!
# A longer backtest

Moving the end of a backtest only adds to its report: up to the old end, the longer report
is the shorter one.

The end is read in two places.  The virtual engines stop at it, and the loop of the report
does.  The overlay and the replay run over all common sessions in both backtests, and see
other trades only after the old end.
-/

namespace JdHoldings

open PortfolioBacktestEngine

/-! ## The virtual run -/

section Engine

variable {parts : EngineParts} {config : VirtualConfig} {input : EngineInput} {stop later : Session}

/-- The input of a run that ends at a session. -/
def EngineInput.endingAt (input : EngineInput) (stop : Session) : EngineInput :=
  { input with «end» := some stop }

theorem inRange_endingAt (hlater : stop ≤ later) (timestamp : Session) :
    (input.endingAt stop).inRange timestamp =
      (decide (timestamp ≤ stop) && (input.endingAt later).inRange timestamp) := by
  by_cases hstop : timestamp ≤ stop
  · have hbefore := hstop.trans hlater
    simp [EngineInput.inRange, EngineInput.endingAt, hstop, hbefore]
  · simp [EngineInput.inRange, EngineInput.endingAt, hstop]

theorem commonIndex_endingAt (hlater : stop ≤ later) (target spy qqq : Series Session IndicatorRow)
    (sectors : List (String × Series Session IndicatorRow)) :
    (commonIndex (input.endingAt later) target spy qqq sectors).upTo stop =
      commonIndex (input.endingAt stop) target spy qqq sectors := by
  refine Series.eq_of_rows ?_
  simp only [commonIndex, Series.upTo, Series.filterMap, List.filter_filterMap]
  refine List.filterMap_congr fun row _ => ?_
  rw [inRange_endingAt hlater]
  by_cases hstop : row.1 ≤ stop
  · cases (input.endingAt later).inRange row.1 <;> simp [hstop]
  · cases (input.endingAt later).inRange row.1 <;> simp [hstop, not_le.mp hstop]

theorem withIdleClose_cut (idle : Option Frame) (common : Series Session CommonRow)
    (cut : Session) :
    (withIdleClose config idle common).upTo cut = withIdleClose config idle (common.upTo cut) := by
  rw [withIdleClose, Series.upTo_filterMap]
  rfl

theorem daySeries_endingAt (hlater : stop ≤ later) :
    (parts.daySeries config (input.endingAt later)).upTo stop =
      parts.daySeries config (input.endingAt stop) := by
  simp only [EngineParts.daySeries]
  rw [Series.upTo_filterMap, Series.upTo_rolling, withIdleClose_cut, commonIndex_endingAt hlater]
  rfl

/-- Up to the old end, a longer run has traded what the shorter one has. -/
theorem run_endingAt (input : EngineInput) {result result' : EngineResult} (hlater : stop ≤ later)
    (hrun : parts.run config (input.endingAt stop) = .ok result)
    (hrun' : parts.run config (input.endingAt later) = .ok result') :
    tradesUpTo result.trades stop = tradesUpTo result'.trades stop := by
  obtain ⟨days, hdays, hrun⟩ := Except.bind_eq_ok.mp hrun
  obtain ⟨final, hloop, hrun⟩ := Except.bind_eq_ok.mp hrun
  obtain ⟨days', hdays', hrun'⟩ := Except.bind_eq_ok.mp hrun'
  obtain ⟨final', hloop', hrun'⟩ := Except.bind_eq_ok.mp hrun'
  cases hrun
  cases hrun'
  have hnone : ∀ trade ∈ (initialLoop config).trades, trade.date ≤ stop := by
    intro trade htrade
    cases htrade
  obtain ⟨middle, hfront, htrades⟩ := sessionSteps_upTo hnone hloop
  obtain ⟨middle', hfront', htrades'⟩ := sessionSteps_upTo hnone hloop'
  have hdays : days = days'.upTo stop := by
    rw [days_eq_ok hdays, days_eq_ok hdays', daySeries_endingAt hlater]
  have hcut : days.upTo stop = days'.upTo stop := by
    rw [hdays, Series.upTo_upTo]
  -- the loop reads the symbol and the slippage of its input, not the end
  rw [hcut] at hfront
  have hstep : parts.sessionStep config (input.endingAt stop) =
      parts.sessionStep config (input.endingAt later) := rfl
  rw [hstep] at hfront
  have hsame : (.ok middle : Py LoopState) = .ok middle' := hfront.symm.trans hfront'
  cases hsame
  exact htrades.trans htrades'.symm

end Engine

namespace PortfolioBacktestEngine

/-! ## The sessions of the report -/

section Sessions

variable {setup : Setup} {start stop later : Session} {common : Series Session CommonBars}
  {targets targets' : Series Session TargetRow} {prepared prepared' : Prepared}

theorem chosenSessions_upTo {ρ : Type} (common : Series Session ρ) (hlater : stop ≤ later) :
    (chosenSessions common start later).upTo stop = chosenSessions common start stop := by
  refine Series.eq_of_rows ?_
  simp only [chosenSessions, Series.upTo, Series.select, List.filter_filter]
  refine List.filter_congr fun row _ => ?_
  by_cases hstop : row.1 ≤ stop
  · simp [hstop, hstop.trans hlater]
  · simp [hstop]

/-- The sessions of the longer report, up to the old end. -/
theorem Prepares.sessions_longer (hprepares : Prepares setup start stop common targets prepared)
    (hprepares' : Prepares setup start later common targets' prepared') (hlater : stop ≤ later)
    (htargets : targets.upTo stop = targets'.upTo stop) :
    prepared'.sessions.upTo stop = prepared.sessions := by
  have hself : prepared.sessions.upTo stop = prepared.sessions := by
    refine Series.upTo_eq_self fun timestamp hmem => ?_
    rw [hprepares.index] at hmem
    exact (mem_chosenSessions.mp hmem).2.2
  have hcut : (chosenSessions common start later).upTo stop =
      (chosenSessions common start stop).upTo stop := by
    rw [chosenSessions_upTo common hlater, chosenSessions_upTo common (le_refl stop)]
  rw [← hself, hprepares.sessions, hprepares'.sessions, Series.upTo_filterMap,
    Series.upTo_filterMap, Series.upTo_join, Series.upTo_join, hcut, htargets]

/-- Both reports start from the same target row. -/
theorem Prepares.prior_longer (hprepares : Prepares setup start stop common targets prepared)
    (hprepares' : Prepares setup start later common targets' prepared') (hlater : stop ≤ later)
    (htargets : targets.upTo stop = targets'.upTo stop) : prepared.prior = prepared'.prior := by
  obtain ⟨session, row, hsession, hrow, hprior⟩ := hprepares.prior
  obtain ⟨session', row', hsession', hrow', hprior'⟩ := hprepares'.prior
  -- a prior session was found, so there is a first one
  have hbefore := List.mem_filter.mp (List.mem_of_getLast? hsession)
  obtain ⟨first, hfirst, hlt⟩ := (Option.any_eq_true _ _).mp hbefore.2
  have hfirst' : (chosenSessions common start later).index.head? = some first := by
    rw [← chosenSessions_upTo common hlater] at hfirst
    exact Series.head?_of_upTo hfirst
  have hsame : session = session' := by
    rw [priorSession, hfirst] at hsession
    rw [priorSession, hfirst'] at hsession'
    exact Option.some.inj (hsession.symm.trans hsession')
  subst hsame
  have hstop : session ≤ stop := by
    have hchosen := (mem_chosenSessions.mp (List.mem_of_head? hfirst)).2.2
    exact (of_decide_eq_true hlt).le.trans hchosen
  have hlocs : some row = some row' := by
    rw [← hrow, ← hrow', ← targets.loc?_upTo hstop, htargets, targets'.loc?_upTo hstop]
  rw [hprior, hprior', Option.some.inj hlocs]

end Sessions

end PortfolioBacktestEngine

/-! ## The report -/

section Longer

variable {parts : EngineParts} {config : VirtualConfig} {setup : Setup} {request : BacktestRequest}
  {data : BacktestData} {later : Session} {report report' : PortfolioReport}

/-- **A longer report begins with the shorter one.**  Of two backtests of one request that
differ in their end only, the longer one reports up to the end of the shorter one what that
one reports. -/
theorem longer_report_extends
    (hreport : runProductionBacktest parts config setup request data = .ok report)
    (hreport' : runProductionBacktest parts config setup { request with stop := later } data =
      .ok report') (hlater : request.stop ≤ later) :
    report'.turns.upTo request.stop = report.turns := by
  obtain ⟨tqqq, soxl, targets, prepared, htqqq, hsoxl, htargets, hprepares, rfl⟩ :=
    runProductionBacktest_ok hreport
  obtain ⟨tqqq', soxl', targets', prepared', htqqq', hsoxl', htargets', hprepares', rfl⟩ :=
    runProductionBacktest_ok hreport'
  have hsame : targets.upTo request.stop = targets'.upTo request.stop := by
    refine replayTargets_agree htargets htargets' rfl rfl ?_ ?_
    · refine overlaySeries_agree ?_ rfl
      exact run_endingAt (data.engineInput request setup.defaultSlippage "TQQQ" data.tqqq)
        hlater htqqq htqqq'
    · refine overlaySeries_agree ?_ rfl
      exact run_endingAt (data.engineInput request setup.defaultSlippage "SOXL" data.soxl)
        hlater hsoxl hsoxl'
  have hsessions := hprepares.sessions_longer hprepares' hlater hsame
  have hprior := hprepares.prior_longer hprepares' hlater hsame
  simp only [Setup.report, Series.upTo_scan, hsessions, hprior]

/-- The backtest of three sessions, and of four. -/
theorem longer_report_extends_fourth_session :
    ∃ report report',
      runProductionBacktest SampleFrames.parts VirtualConfig.strategyYaml LastTwoDays.setup
        { LastTwoDays.request with stop := SampleFrames.session 63 } (LastTwoDays.data 10 110) =
          .ok report ∧
      runProductionBacktest SampleFrames.parts VirtualConfig.strategyYaml LastTwoDays.setup
        LastTwoDays.request (LastTwoDays.data 10 110) = .ok report' ∧
      report'.turns ≠ report.turns ∧
      report'.turns.upTo (SampleFrames.session 63) = report.turns := by
  have hruns : (runProductionBacktest SampleFrames.parts VirtualConfig.strategyYaml
      LastTwoDays.setup { LastTwoDays.request with stop := SampleFrames.session 63 }
      (LastTwoDays.data 10 110)).toOption.any (fun report =>
        (runProductionBacktest SampleFrames.parts VirtualConfig.strategyYaml LastTwoDays.setup
          LastTwoDays.request (LastTwoDays.data 10 110)).toOption.any fun report' =>
            decide (report'.turns ≠ report.turns)) = true := by
    decide +kernel
  obtain ⟨report, hreport, hruns⟩ := (Option.any_eq_true _ _).mp hruns
  obtain ⟨report', hreport', hdiffer⟩ := (Option.any_eq_true _ _).mp hruns
  have hreport := Except.toOption_eq_some.mp hreport
  have hreport' := Except.toOption_eq_some.mp hreport'
  refine ⟨report, report', hreport, hreport', of_decide_eq_true hdiffer, ?_⟩
  exact longer_report_extends hreport hreport' (by decide +kernel)

end Longer

end JdHoldings

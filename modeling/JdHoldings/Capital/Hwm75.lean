import JdHoldings.Backtest.PortfolioEngine
import JdHoldings.Capital.Contract
import JdHoldings.Capital.Returns

/-!
# One budget, four times

Three quarters of the gain above the principal are at work.  The rule is written in
the core, in the ledger, in the backtest and in the external flows, each with clamps
and initial values of its own.

* `record_v322_equity` keeps a high-water mark in the ledger.  Over a history of closes
  it is their running maximum (`foldlM_recordV322Equity`), which is what the backtest
  carries from session to session.
* On top of the same mark all of them compute the same minimum
  (`hwmRiskBudget_eq_min`).
* A flow reads the equity anew, from the ledger and the quotes.  That equity is clamped
  at zero, so a pair of flows that cancel gives the budget back only when the account
  was worth what the first of them withdrew (`budget_after_neutral_flows`).
-/

namespace JdHoldings

variable {ι : Type}

/-! ## The high-water mark -/

/-- The highest of the closes, and never less than the principal. -/
def runningMaximum (equities : List Decimal) : Decimal :=
  equities.foldl max V322Policy.initialCapital

theorem runningMaximum_snoc (equities : List Decimal) (equity : Decimal) :
    runningMaximum (equities ++ [equity]) = max (runningMaximum equities) equity := by
  rw [runningMaximum, List.foldl_append]
  rfl

theorem initialCapital_le_runningMaximum (equities : List Decimal) :
    V322Policy.initialCapital ≤ runningMaximum equities := by
  induction equities using List.reverseRecOn with
  | nil => exact le_refl _
  | append_singleton equities equity ih =>
      rw [runningMaximum_snoc]
      exact le_max_of_le_left ih

/-- The principal is the initial capital, and the mark of the ledger is the running
maximum of the closes, stored or by default. -/
structure SystemState.Marks (system : SystemState) (equities : List Decimal) : Prop where
  principal : system.effectiveInitialCapital = .ok V322Policy.initialCapital
  highWater : max V322Policy.initialCapital (system.highWaterEquity.getD V322Policy.initialCapital)
    = runningMaximum equities

theorem SystemState.Marks.highWater_le {system : SystemState} {equities : List Decimal}
    (hmarks : system.Marks equities) :
    system.highWaterEquity.getD V322Policy.initialCapital ≤ runningMaximum equities := by
  rw [← hmarks.highWater]
  exact le_max_right _ _

/-- What one close writes. -/
theorem SystemState.Marks.recordV322Equity {system : SystemState} {equities : List Decimal}
    {equity : Decimal} (hmarks : system.Marks equities) (hnonneg : 0 ≤ equity) :
    system.recordV322Equity equity = .ok { system with
      highWaterEquity := some (runningMaximum (equities ++ [equity]))
      riskBudget := some (hwmRiskBudget (runningMaximum (equities ++ [equity])) equity) } := by
  have hhighWater : max (system.highWaterEquity.getD V322Policy.initialCapital)
      (max equity V322Policy.initialCapital) = runningMaximum (equities ++ [equity]) := by
    rw [runningMaximum_snoc, ← hmarks.highWater]
    ac_rfl
  simp only [SystemState.recordV322Equity, if_neg (not_lt.mpr hnonneg), hmarks.principal, hhighWater]
  rfl

/-- The mark after one close. -/
theorem SystemState.Marks.snoc {system : SystemState} {equities : List Decimal}
    (hmarks : system.Marks equities) (equity : Decimal) (budget : Option Decimal) :
    SystemState.Marks { system with
      highWaterEquity := some (runningMaximum (equities ++ [equity]))
      riskBudget := budget } (equities ++ [equity]) where
  principal := hmarks.principal
  highWater := max_eq_right (initialCapital_le_runningMaximum _)

/-- The ledger over a history of closes. -/
theorem foldlM_recordV322Equity {repo : Repository ι} {before : List Decimal}
    (hmarks : repo.system.Marks before) (equities : List Decimal)
    (hnonneg : ∀ equity ∈ equities, 0 ≤ equity) :
    ∃ repo' : Repository ι, equities.foldlM Repository.recordV322Equity repo = .ok repo' ∧
      repo'.system.Marks (before ++ equities) := by
  induction equities generalizing repo before with
  | nil =>
      refine ⟨repo, rfl, ?_⟩
      rw [List.append_nil]
      exact hmarks
  | cons equity equities ih =>
      have hequity : 0 ≤ equity := hnonneg equity (List.mem_cons_self ..)
      have hwritten := hmarks.recordV322Equity hequity
      have hnext := hmarks.snoc equity
        (some (hwmRiskBudget (runningMaximum (before ++ [equity])) equity))
      obtain ⟨repo', hrun, hafter⟩ := @ih (repo.setSystem _) _ hnext
        fun later hlater => hnonneg later (List.mem_cons_of_mem _ hlater)
      refine ⟨repo', ?_, ?_⟩
      · rw [List.foldlM_cons, Repository.recordV322Equity, hwritten]
        exact hrun
      · rw [List.append_assoc] at hafter
        exact hafter

/-! ## The budget -/

/-- Above the principal and with equity at hand, no clamp of the budget is active. -/
theorem hwmRiskBudget_eq_min {highWater equity : Decimal}
    (hhighWater : V322Policy.initialCapital ≤ highWater) (hequity : 0 ≤ equity) :
    hwmRiskBudget highWater equity = min equity (V322Policy.initialCapital
      + V322Policy.hwmReinvestmentFraction * (highWater - V322Policy.initialCapital)) := by
  have hgain : 0 ≤ highWater - V322Policy.initialCapital := sub_nonneg.mpr hhighWater
  have hcap : 0 ≤ V322Policy.initialCapital
      + V322Policy.hwmReinvestmentFraction * (highWater - V322Policy.initialCapital) := by
    have hpart : 0 ≤ V322Policy.hwmReinvestmentFraction * (highWater - V322Policy.initialCapital) :=
      mul_nonneg (by norm_num [V322Policy.hwmReinvestmentFraction]) hgain
    exact add_nonneg (by norm_num [V322Policy.initialCapital]) hpart
  rw [hwmRiskBudget, max_eq_right hgain, min_comm, max_eq_right (le_min hequity hcap)]

theorem hwmRiskBudget_nonneg (highWater equity : Decimal) : 0 ≤ hwmRiskBudget highWater equity :=
  le_max_left _ _

/-- The mark of a backtest is the running maximum of its closes. -/
theorem backtest_highWater (costs : PortfolioBacktestEngine.Costs)
    (policy : InitialOnboardingPolicy) (prior : Weights) (sessions : List (ℕ × BacktestSession)) :
    (PortfolioBacktestEngine.run costs policy (PortfolioBacktestEngine.start policy prior)
        sessions).highWater
      = runningMaximum (PortfolioBacktestEngine.equityValues costs policy
        (PortfolioBacktestEngine.start policy prior) sessions) :=
  PortfolioBacktestEngine.run_highWater costs policy _ sessions

/-- A backtest opens its next session with the budget of its closes, at what it is worth then. -/
theorem backtest_sizingEquity {costs : PortfolioBacktestEngine.Costs}
    {policy : InitialOnboardingPolicy} {prior : Weights} {sessions : List (ℕ × BacktestSession)}
    {equities : List Decimal} {opens : AllocationSymbol → Decimal} {equity : Decimal}
    (hcloses : PortfolioBacktestEngine.equityValues costs policy
      (PortfolioBacktestEngine.start policy prior) sessions = equities)
    (hworth : (PortfolioBacktestEngine.run costs policy
      (PortfolioBacktestEngine.start policy prior) sessions).toAccount.equity costs opens = equity) :
    PortfolioBacktestEngine.sizingEquity
        (PortfolioBacktestEngine.run costs policy (PortfolioBacktestEngine.start policy prior)
          sessions).highWater
        ((PortfolioBacktestEngine.run costs policy (PortfolioBacktestEngine.start policy prior)
          sessions).toAccount.equity costs opens)
      = hwmRiskBudget (runningMaximum equities) equity := by
  rw [backtest_highWater, hcloses, hworth]
  -- the engine and the core write the same clamps
  rfl

/-! ## A neutral pair of flows -/

/-- A launched account of a given principal. -/
structure SystemState.Delegates (system : SystemState) (effective : Decimal) : Prop where
  autoEnabled : system.autoEnabled = some true
  started : system.accountingStartedAt.isSome = true
  principal : system.effectivePrincipal = some effective
  pos : 0 < effective

/-- A committed flow of a launched account, priced at its marked equity. -/
theorem SystemState.Delegates.applyExternalFlow_ok {config : StrategyConfig} {quotes : Quotes}
    {repo repo' : Repository ι} {requested effective equity : Decimal} {event : CapitalEvent}
    (hdelegates : repo.system.Delegates effective)
    (hmarked : repo.markedManagedEquity config quotes = .ok equity)
    (hok : ProductionJHAutoService.applyExternalFlow config quotes repo requested event
      = .ok repo') :
    (flowPrincipal requested = effective ∧ repo' = repo) ∨
      flowPrincipal requested ≠ effective ∧ ∃ nav units,
        repo' = (repo.setSystem (repo.system.withFlow effective (flowPrincipal requested) equity
          nav units)).invalidateTargetGeneration := by
  have hsettings : repo.system.settings.effectivePrincipal = effective := by
    simp [SystemState.settings, hdelegates.principal]
  have hrunning : ¬(repo.system.settings.effectivePrincipal = 0 ∧ event = .launchStage1) := by
    rw [hsettings]
    exact fun h => hdelegates.pos.ne' h.1
  unfold ProductionJHAutoService.applyExternalFlow at hok
  simp only [if_neg hrunning] at hok
  have hspec := JHAutoService.applyExternalFlow_ok hok
  rw [hsettings] at hspec
  rcases hspec with ⟨hsame, hrepo⟩ | ⟨hmoves, preEquity, nav, hbasis, hrepo⟩
  · exact Or.inl ⟨hsame, hrepo⟩
  · have hpriced : preEquity = equity := by
      simp only [Repository.flowBasis, hdelegates.started, hdelegates.pos, and_self, if_true,
        hmarked, Except.ok_then] at hbasis
      exact (congrArg Prod.fst (Except.ok.inj hbasis)).symm
    rw [hpriced] at hrepo
    exact Or.inr ⟨hmoves, nav, _, hrepo⟩

/-- Withdrawing and returning an amount through the clamp at zero, or the other way
round, keeps the budget exactly if the account is worth the amount. -/
private theorem clamped_roundtrip_iff {worth flow principal cap : Decimal}
    (hprincipal : 0 < principal + flow) (hcap : principal ≤ cap) (hpos : 0 < principal) :
    max 0 (min (max 0 (max 0 (worth + flow) - flow)) cap) = min (max 0 worth) cap ↔
      0 ≤ max 0 worth + flow := by
  constructor
  · intro hsame
    by_contra hshort
    push Not at hshort
    have hnonneg : 0 ≤ max 0 worth := le_max_left _ _
    have hworth : worth ≤ max 0 worth := le_max_right _ _
    have hgone : max 0 (worth + flow) = 0 := max_eq_left (by linarith)
    rw [hgone, zero_sub, max_eq_right (by linarith : 0 ≤ -flow),
      min_eq_left (by linarith : -flow ≤ cap), max_eq_right (by linarith : 0 ≤ -flow)] at hsame
    have hless : min (max 0 worth) cap ≤ max 0 worth := min_le_left _ _
    linarith
  · intro hcovered
    have hback : max 0 (max 0 (worth + flow) - flow) = max 0 worth := by
      rcases le_total 0 (worth + flow) with hleft | hgone
      · rw [max_eq_right hleft, add_sub_cancel_right]
      · rw [max_eq_left hgone, zero_sub]
        rcases le_total 0 worth with hvalue | hnothing
        · -- What is worth something and loses all of it was withdrawn to the last cent.
          rw [max_eq_right hvalue] at hcovered ⊢
          rw [max_eq_right (by linarith : 0 ≤ -flow)]
          linarith
        · rw [max_eq_left hnothing] at hcovered ⊢
          exact max_eq_left (by linarith)
    rw [hback]
    exact max_eq_right (le_min (le_max_left _ _) (by linarith))

/-- Two flows that cancel at the same quotes. -/
theorem budget_after_neutral_flows {config : StrategyConfig} {quotes : Quotes}
    {repo mid final : Repository ι} {requested returned principal highWater equity : Decimal}
    {event event' : CapitalEvent} (hdelegates : repo.system.Delegates principal)
    (hhighWater : repo.system.highWaterEquity = some highWater) (hgain : principal ≤ highWater)
    (hbudget : repo.system.riskBudget
      = some (min equity (principal + 3 / 4 * (highWater - principal))))
    (hmarked : repo.markedManagedEquity config quotes = .ok equity)
    (hopen : 0 < flowPrincipal requested) (hneutral : flowPrincipal returned = principal)
    (hout : ProductionJHAutoService.applyExternalFlow config quotes repo requested event = .ok mid)
    (hback : ProductionJHAutoService.applyExternalFlow config quotes mid returned event'
      = .ok final) :
    final.system.riskBudget = repo.system.riskBudget ↔
      0 ≤ equity + (flowPrincipal requested - principal) := by
  -- A first flow that leaves the principal writes nothing, and neither does the second.
  rcases hdelegates.applyExternalFlow_ok hmarked hout with ⟨hsame, rfl⟩ | ⟨hmoves, nav, units, rfl⟩
  · obtain ⟨worth, hworth, -⟩ := Repository.markedManagedEquity_withFlow hmarked
      hdelegates.autoEnabled hdelegates.principal hopen.le equity 0 0
    rcases hdelegates.applyExternalFlow_ok hmarked hback with ⟨-, rfl⟩ | ⟨hmoves, -⟩
    · rw [hsame, sub_self, add_zero, hworth]
      exact iff_of_true rfl (le_max_left _ _)
    · exact absurd hneutral hmoves
  · obtain ⟨worth, hworth, hmid⟩ := Repository.markedManagedEquity_withFlow hmarked
      hdelegates.autoEnabled hdelegates.principal hopen.le equity nav units
    have hdelegates' : SystemState.Delegates (repo.setSystem (repo.system.withFlow principal
        (flowPrincipal requested) equity nav units)).invalidateTargetGeneration.system
        (flowPrincipal requested) :=
      ⟨hdelegates.autoEnabled, hdelegates.started, rfl, hopen⟩
    rcases hdelegates'.applyExternalFlow_ok hmid hback with ⟨hsame, -⟩ | ⟨-, nav', units', rfl⟩
    · rw [hneutral] at hsame
      exact absurd hsame.symm hmoves
    · -- The mark went with the principal, and came back with it.
      have hmark : max principal (max (flowPrincipal requested)
          (highWater + (flowPrincipal requested - principal))
          + (principal - flowPrincipal requested)) = highWater := by
        rw [max_eq_right (by linarith : flowPrincipal requested
          ≤ highWater + (flowPrincipal requested - principal))]
        rw [max_eq_right (by linarith)]
        ring
      have hwritten : ((((repo.setSystem (repo.system.withFlow principal
          (flowPrincipal requested) equity nav units)).invalidateTargetGeneration).setSystem
          ((repo.setSystem (repo.system.withFlow principal (flowPrincipal requested) equity nav
            units)).invalidateTargetGeneration.system.withFlow (flowPrincipal requested)
            (flowPrincipal returned) (max 0 (worth + (flowPrincipal requested - principal))) nav'
            units')).invalidateTargetGeneration).system.riskBudget
          = some (max 0 (min (max 0 (max 0 (worth + (flowPrincipal requested - principal))
              - (flowPrincipal requested - principal)))
            (principal + 3 / 4 * (highWater - principal)))) := by
        rw [hneutral]
        show some (max 0 (min (max 0 (max 0 (worth + (flowPrincipal requested - principal))
            + (principal - flowPrincipal requested)))
          (principal + 3 / 4 * max 0 (max principal (max (flowPrincipal requested)
            (repo.system.highWaterEquity.getD principal + (flowPrincipal requested - principal))
            + (principal - flowPrincipal requested)) - principal)))) = _
        rw [hhighWater, Option.getD_some, hmark, max_eq_right (sub_nonneg.mpr hgain)]
        have hflow : max 0 (worth + (flowPrincipal requested - principal))
            + (principal - flowPrincipal requested)
            = max 0 (worth + (flowPrincipal requested - principal))
              - (flowPrincipal requested - principal) := by ring
        rw [hflow]
      rw [hwritten, hbudget, Option.some.injEq, hworth]
      -- The equity came back exactly when the flow out did not push it below zero.
      exact clamped_roundtrip_iff (by linarith) (by linarith) hdelegates.pos

/-! ## A history of closes -/

/-- The readings of the budget agree after the last close of a history. -/
structure BudgetsAgree (config : StrategyConfig) (before after : Repository ι)
    (equities : List Decimal) (equity : Decimal) : Prop where
  ledgerMark : after.system.highWaterEquity = some (runningMaximum (equities ++ [equity]))
  rises : before.system.highWaterEquity.getD V322Policy.initialCapital
    ≤ runningMaximum (equities ++ [equity])
  ledger : after.system.riskBudget
    = some (hwmRiskBudget (runningMaximum (equities ++ [equity])) equity)
  backtestMark : ∀ costs policy prior sessions,
    PortfolioBacktestEngine.equityValues costs policy (PortfolioBacktestEngine.start policy prior)
      sessions = equities ++ [equity] →
    (PortfolioBacktestEngine.run costs policy (PortfolioBacktestEngine.start policy prior)
      sessions).highWater = runningMaximum (equities ++ [equity])
  backtest : ∀ costs policy prior sessions opens,
    PortfolioBacktestEngine.equityValues costs policy (PortfolioBacktestEngine.start policy prior)
      sessions = equities ++ [equity] →
    (PortfolioBacktestEngine.run costs policy (PortfolioBacktestEngine.start policy prior)
      sessions).toAccount.equity costs opens = equity →
    after.system.riskBudget = some (PortfolioBacktestEngine.sizingEquity
      (PortfolioBacktestEngine.run costs policy (PortfolioBacktestEngine.start policy prior)
        sessions).highWater
      ((PortfolioBacktestEngine.run costs policy (PortfolioBacktestEngine.start policy prior)
        sessions).toAccount.equity costs opens))
  minimum : hwmRiskBudget (runningMaximum (equities ++ [equity])) equity
    = min equity (V322Policy.initialCapital + V322Policy.hwmReinvestmentFraction
      * (runningMaximum (equities ++ [equity]) - V322Policy.initialCapital))
  nonneg : 0 ≤ hwmRiskBudget (runningMaximum (equities ++ [equity])) equity
  neutralFlows : ∀ (quotes : Quotes) (requested returned : Decimal) (event event' : CapitalEvent)
      (mid final : Repository ι),
    after.system.autoEnabled = some true → after.system.accountingStartedAt.isSome = true →
    after.markedManagedEquity config quotes = .ok equity →
    0 < flowPrincipal requested → flowPrincipal returned = V322Policy.initialCapital →
    ProductionJHAutoService.applyExternalFlow config quotes after requested event = .ok mid →
    ProductionJHAutoService.applyExternalFlow config quotes mid returned event' = .ok final →
    (final.system.riskBudget = after.system.riskBudget ↔
      0 ≤ equity + (flowPrincipal requested - V322Policy.initialCapital))

/-- The principal behind the initial capital of a launched account. -/
private theorem delegates_of_initialCapital {system : SystemState}
    (hprincipal : system.effectiveInitialCapital = .ok V322Policy.initialCapital)
    (henabled : system.autoEnabled = some true)
    (hstarted : system.accountingStartedAt.isSome = true) :
    system.Delegates V322Policy.initialCapital := by
  have hpos : 0 < V322Policy.initialCapital := by norm_num [V322Policy.initialCapital]
  refine ⟨henabled, hstarted, ?_, hpos⟩
  simp only [SystemState.effectiveInitialCapital, SystemState.isAutoEnabled, henabled,
    decide_true, if_true] at hprincipal
  cases heffective : system.effectivePrincipal with
  | none =>
      rw [heffective] at hprincipal
      exact absurd (Except.ok.inj hprincipal) hpos.ne
  | some value =>
      rw [heffective] at hprincipal
      simp only at hprincipal
      split at hprincipal
      · cases hprincipal
      · rw [Except.ok.inj hprincipal]

/-- With a principal of the initial capital, and whatever the closes: at every close the
ledger, the core and the backtest arrive at one budget, and a neutral pair of flows
arrives at it exactly if the account is worth what the pair withdraws. -/
theorem hwm75_budgets_agree (config : StrategyConfig) {repo : Repository ι}
    (hprincipal : repo.system.effectiveInitialCapital = .ok V322Policy.initialCapital)
    (hfresh : repo.system.highWaterEquity.getD V322Policy.initialCapital
      ≤ V322Policy.initialCapital)
    (equities : List Decimal) (equity : Decimal)
    (hnonneg : ∀ marked ∈ equities ++ [equity], 0 ≤ marked) :
    ∃ before after : Repository ι,
      equities.foldlM Repository.recordV322Equity repo = .ok before ∧
        before.recordV322Equity equity = .ok after ∧
        BudgetsAgree config before after equities equity := by
  have hstart : repo.system.Marks [] := ⟨hprincipal, max_eq_left hfresh⟩
  obtain ⟨before, hrun, hbefore⟩ := foldlM_recordV322Equity hstart equities
    fun marked hmarked => hnonneg marked (List.mem_append_left _ hmarked)
  rw [List.nil_append] at hbefore
  have hequity : 0 ≤ equity := hnonneg equity (by simp)
  have hwritten := hbefore.recordV322Equity hequity
  have hmark := initialCapital_le_runningMaximum (equities ++ [equity])
  have hminimum := hwmRiskBudget_eq_min hmark hequity
  refine ⟨before, _, hrun, by rw [Repository.recordV322Equity, hwritten]; rfl, ?_⟩
  exact
    { ledgerMark := rfl
      rises := by
        rw [runningMaximum_snoc]
        exact le_max_of_le_left hbefore.highWater_le
      ledger := rfl
      backtestMark := by
        intro costs policy prior sessions hcloses
        rw [backtest_highWater, hcloses]
      backtest := by
        intro costs policy prior sessions opens hcloses hworth
        exact congrArg some (backtest_sizingEquity hcloses hworth).symm
      minimum := hminimum
      nonneg := hwmRiskBudget_nonneg _ _
      neutralFlows := by
        intro quotes requested returned event event' mid final henabled hstarted hmarked hopen
          hneutral hout hback
        have hdelegates := delegates_of_initialCapital hbefore.principal henabled hstarted
        refine budget_after_neutral_flows ⟨henabled, hstarted, hdelegates.principal,
          hdelegates.pos⟩ rfl hmark ?_ hmarked hopen hneutral hout hback
        exact congrArg some hminimum }

namespace CutBack

/-- Every share at one price. -/
def quoted (price : Decimal) : Quotes where
  allocation := fun _ => .ok price
  idleCash := .ok price

def env : AutoEnvironment ℕ :=
  { AutoEnvironment.quiet with buyingPower := .ok 200000, quotes := quoted 100 }

/-- 200,000 USD under delegation, of which the launch opened one half. -/
def launched : Repository ℕ :=
  ((CapitalOp.execAll .strategyYaml env [.setBaseCapital 200000, .setRatioPercent 100,
    .authorizeLaunch] ((Repository.initial ℕ).setSystem (Repository.initial ℕ).system.bootstrap)
    ).toOption).getD (Repository.initial ℕ)

/-- BUY is open, and 990 shares were bought at 100 USD. -/
def invested : Repository ℕ :=
  [LedgerOp.reserveBuy 100000 (.core 1 .qqq 990 100 (by decide)) 1,
    .updateOrder 1
      { status := .exact .filled, filledQty := some 990, averageFillPrice := some 100 },
    .applyCoreFill 1].foldl (LedgerOp.step .strategyYaml) { launched with
      core := Function.update launched.core .qqq { targetWeight := 1, targetQty := 990 }
      system := { launched.system with
        liveCommissioned := some true
        operatorBuyHalt := some false
        startupQuarantine := some false
        autoState := some .running } }

/-- The principal is cut back to 50,000 USD, and the shares are still to be sold. -/
def repo : Repository ℕ :=
  (((CapitalOp.setRatioPercent 25).exec .strategyYaml env invested).toOption).getD
    (Repository.initial ℕ)

theorem principal : repo.system.effectiveInitialCapital = .ok V322Policy.initialCapital := by
  decide +kernel

theorem fresh : repo.system.highWaterEquity.getD V322Policy.initialCapital
    ≤ V322Policy.initialCapital := by decide +kernel

end CutBack

/-- A close above the principal, and one below it. -/
theorem hwm75_budgets_agree_after_rally :
    ∃ before after : Repository ℕ,
      [60000].foldlM Repository.recordV322Equity CutBack.repo = .ok before ∧
        before.recordV322Equity 49901 = .ok after ∧
        BudgetsAgree .strategyYaml before after [60000] 49901 :=
  hwm75_budgets_agree .strategyYaml CutBack.principal CutBack.fresh [60000] 49901
    (by intro marked hmarked; simp at hmarked; rcases hmarked with rfl | rfl <;> norm_num)

/-- The shares fall to 40 USD before they are sold, and the account is worth nothing.  The
close leaves no budget; 100 USD withdrawn and returned make one of 100 USD. -/
theorem budget_from_neutral_flows :
    CutBack.repo.system.effectiveInitialCapital = .ok V322Policy.initialCapital ∧
      CutBack.repo.system.highWaterEquity = some V322Policy.initialCapital ∧
      ∃ after mid final, CutBack.repo.recordV322Equity 0 = .ok after ∧
        after.markedManagedEquity .strategyYaml (CutBack.quoted 40) = .ok 0 ∧
        ProductionJHAutoService.applyExternalFlow .strategyYaml (CutBack.quoted 40) after 49900
          .capitalReduction = .ok mid ∧
        ProductionJHAutoService.applyExternalFlow .strategyYaml (CutBack.quoted 40) mid 50000
          .capitalIncreaseStage1 = .ok final ∧
        mid.system.effectivePrincipal = some 49900 ∧ final.system.effectivePrincipal = some 50000 ∧
        after.system.riskBudget = some 0 ∧ hwmRiskBudget V322Policy.initialCapital 0 = 0 ∧
        final.system.riskBudget = some 100 := by
  refine ⟨CutBack.principal, by decide +kernel, ?_⟩
  have hrun : (do
      let after ← CutBack.repo.recordV322Equity 0
      let equity ← after.markedManagedEquity .strategyYaml (CutBack.quoted 40)
      let mid ← ProductionJHAutoService.applyExternalFlow .strategyYaml (CutBack.quoted 40) after
        49900 .capitalReduction
      let final ← ProductionJHAutoService.applyExternalFlow .strategyYaml (CutBack.quoted 40) mid
        50000 .capitalIncreaseStage1
      return (equity, after.system.riskBudget, mid.system.effectivePrincipal,
        final.system.effectivePrincipal, final.system.riskBudget))
      = (.ok (0, some 0, some 49900, some 50000, some 100) : Py _) := by decide +kernel
  simp only [Except.bind_eq_ok] at hrun
  obtain ⟨after, hafter, equity, hequity, mid, hmid, final, hfinal, hread⟩ := hrun
  simp only [pure, Except.pure, Except.ok.injEq, Prod.mk.injEq] at hread
  obtain ⟨rfl, hbudget, hlower, hprincipal, hreturned⟩ := hread
  exact ⟨after, mid, final, hafter, hequity, hmid, hfinal, hlower, hprincipal, hbudget,
    by decide +kernel, hreturned⟩

end JdHoldings

import JdHoldings.Automation.Service
import JdHoldings.Ledger.Operations

/-!
# Time-weighted returns

An external flow is no performance: it changes the principal, the equity and the
units together, so the value of a unit stays where the market left it.

Equity is not stored.  After a flow it is derived again from the new principal and
every fill since the launch, so the proof needs what the flow does to each part:

- **Cash** shifts by the flow, because the reconstruction adds the same fills to
  another opening balance (`rawManagedCash_of_principal`).
- **Market value** stays, because a flow moves no position.
- **Units** are issued or redeemed at the unit value before the flow
  (`unitsAfterFlow_eq`).

A run then alternates flows with market moves, and its cumulative return is the
product of what the market did between the flows.
-/

namespace JdHoldings

variable {ι : Type}

/-! ## Cash under another principal -/

theorem OrderRow.addToBalance_add (config : StrategyConfig) (balance flow : Decimal)
    (row : OrderRow ι) :
    row.addToBalance config (balance + flow)
      = (row.addToBalance config balance).map (· + flow) := by
  unfold addToBalance
  split
  · rfl
  · rename_i price _
    split
    · exact congrArg Except.ok (by ring)
    · exact congrArg Except.ok (by ring)

private theorem foldlM_addToBalance_add (config : StrategyConfig) (flow : Decimal)
    (rows : List (OrderRow ι)) (balance : Decimal) :
    rows.foldlM (fun balance row => OrderRow.addToBalance config balance row) (balance + flow)
      = (rows.foldlM (fun balance row => OrderRow.addToBalance config balance row) balance).map
          (· + flow) := by
  induction rows generalizing balance with
  | nil => rfl
  | cons row rows ih =>
      rw [List.foldlM_cons, List.foldlM_cons, OrderRow.addToBalance_add]
      cases row.addToBalance config balance with
      | error error => rfl
      | ok next => exact ih next

/-- The same fills on another opening balance. -/
theorem Repository.rawManagedCash_of_principal {config : StrategyConfig}
    (repo repo' : Repository ι) {cash effective effective' : Decimal}
    (hcash : repo.rawManagedCash config = .ok cash)
    (henabled : repo.system.autoEnabled = some true)
    (henabled' : repo'.system.autoEnabled = some true)
    (hstarted : repo'.system.accountingStartedAt = repo.system.accountingStartedAt)
    (hprincipal : repo.system.effectivePrincipal = some effective)
    (hprincipal' : repo'.system.effectivePrincipal = some effective') (hnonneg : 0 ≤ effective')
    (horders : repo'.orders = repo.orders) :
    repo'.rawManagedCash config = .ok (cash + (effective' - effective)) := by
  have hinitial' : repo'.system.effectiveInitialCapital = .ok effective' := by
    simp [SystemState.effectiveInitialCapital, SystemState.isAutoEnabled, henabled', hprincipal',
      not_lt.mpr hnonneg]
  have hauto : repo'.system.isAutoEnabled = repo.system.isAutoEnabled := by
    simp [SystemState.isAutoEnabled, henabled, henabled']
  have hcounts : repo'.system.countsInCash (ι := ι) = repo.system.countsInCash := by
    funext row
    simp only [SystemState.countsInCash, SystemState.inAccounting, hauto, hstarted]
  -- The opening balance of the old reconstruction is the old principal.
  have hinitial : repo.system.effectiveInitialCapital = .ok effective := by
    obtain ⟨initial, hinitial, -⟩ := Repository.rawManagedCash_ok hcash
    rw [hinitial]
    simp only [SystemState.effectiveInitialCapital, SystemState.isAutoEnabled, henabled,
      hprincipal] at hinitial
    split at hinitial
    · split at hinitial
      · cases hinitial
      · exact hinitial.symm
    · rename_i hoff
      exact absurd (by simp) hoff
  have hshift : effective' = effective + (effective' - effective) := by ring
  unfold Repository.rawManagedCash at hcash ⊢
  rw [hinitial] at hcash
  rw [hinitial', hauto, hstarted, hcounts, horders]
  simp only at hcash ⊢
  split at hcash
  · -- Before the accounting starts the cash is the principal itself.
    rename_i hnever
    obtain rfl := Except.ok.inj hcash
    rw [if_pos hnever, ← hshift]
  · rename_i hever
    rw [if_neg hever]
    have hadd := foldlM_addToBalance_add config (effective' - effective)
      (repo.orders.rows.filter repo.system.countsInCash) effective
    rw [hcash, ← hshift] at hadd
    exact hadd

/-- A flow moves the worth of the account, before the clamp at zero, by its amount. -/
theorem Repository.markedManagedEquity_withFlow {config : StrategyConfig} {repo : Repository ι}
    {quotes : Quotes} {equity effective newEffective : Decimal}
    (hmarked : repo.markedManagedEquity config quotes = .ok equity)
    (henabled : repo.system.autoEnabled = some true)
    (hprincipal : repo.system.effectivePrincipal = some effective) (hnonneg : 0 ≤ newEffective)
    (preEquity nav newUnits : Decimal) :
    ∃ worth, equity = max 0 worth ∧
      (repo.setSystem (repo.system.withFlow effective newEffective preEquity nav newUnits)
        ).invalidateTargetGeneration.markedManagedEquity config quotes
          = .ok (max 0 (worth + (newEffective - effective))) := by
  simp only [markedManagedEquity, Except.bind_eq_ok] at hmarked ⊢
  obtain ⟨cash, hcash, market, hmarket, hequity⟩ := hmarked
  have hcash' := rawManagedCash_of_principal repo
    (repo.setSystem (repo.system.withFlow effective newEffective preEquity nav newUnits)
      ).invalidateTargetGeneration hcash henabled henabled rfl hprincipal rfl hnonneg rfl
  refine ⟨cash + market, (Except.ok.inj hequity).symm, _, hcash', market, hmarket, ?_⟩
  rw [add_right_comm]
  rfl

/-! ## Valued accounts -/

/-- The ledger and the prices it is marked at. -/
structure Marked (ι : Type) where
  repo : Repository ι
  quotes : Quotes

/-- The equity `marked_managed_equity` reports, when it reports one. -/
def Marked.equity (config : StrategyConfig) (marked : Marked ι) : Decimal :=
  match marked.repo.markedManagedEquity config marked.quotes with
  | .ok equity => equity
  | .error _ => 0

/-- A launched account that owns something: the parts of its unit value. -/
structure Marked.Valued (config : StrategyConfig) (marked : Marked ι)
    (equity units effective highWater : Decimal) : Prop where
  autoEnabled : marked.repo.system.autoEnabled = some true
  launchAuthorized : marked.repo.system.launchAuthorized = some true
  started : marked.repo.system.accountingStartedAt.isSome = true
  principal : marked.repo.system.effectivePrincipal = some effective
  principal_nonneg : 0 ≤ effective
  performanceUnits : marked.repo.system.performanceUnits = some units
  units_pos : 0 < units
  highWaterEquity : marked.repo.system.highWaterEquity = some highWater
  principal_le : effective ≤ highWater
  marked : marked.repo.markedManagedEquity config marked.quotes = .ok equity
  equity_pos : 0 < equity

theorem Marked.Valued.equity_eq {config : StrategyConfig} {marked : Marked ι}
    {equity units effective highWater : Decimal}
    (hvalued : marked.Valued config equity units effective highWater) :
    marked.equity config = equity := by
  rw [Marked.equity, hvalued.marked]

/-- Units issued at the unit value keep the unit value. -/
theorem unitsAfterFlow_eq {equity units : Decimal} (flow : Decimal) (hequity : 0 < equity)
    (hunits : 0 < units) :
    unitsAfterFlow units flow (equity / units) = units * (equity + flow) / equity := by
  have hnav : 0 < equity / units := div_pos hequity hunits
  rw [unitsAfterFlow, if_pos hnav]
  field_simp

/-- Positive equity is not clamped. -/
private theorem markedManagedEquity_pos {config : StrategyConfig} {repo : Repository ι}
    {quotes : Quotes} {equity : Decimal} (hok : repo.markedManagedEquity config quotes = .ok equity)
    (hpos : 0 < equity) :
    ∃ cash market, repo.rawManagedCash config = .ok cash ∧
      repo.managedMarketValue config quotes = .ok market ∧ equity = cash + market := by
  simp only [Repository.markedManagedEquity, Except.bind_eq_ok] at hok
  obtain ⟨cash, hcash, market, hmarket, hequity⟩ := hok
  refine ⟨cash, market, hcash, hmarket, ?_⟩
  obtain rfl : max 0 (cash + market) = equity := Except.ok.inj hequity
  rcases max_cases 0 (cash + market) with ⟨hzero, -⟩ | ⟨hsum, -⟩
  · exact absurd hzero hpos.ne'
  · exact hsum

section Flow

variable {config : StrategyConfig} {marked : Marked ι}
  {equity units effective highWater : Decimal}

/-- A flow is priced at the unit value before it. -/
private theorem Marked.Valued.flowBasis_eq
    (hvalued : marked.Valued config equity units effective highWater) (heffective : 0 < effective) :
    marked.repo.flowBasis config marked.quotes effective units
      = .ok (equity, equity / units) := by
  have hnav : 0 < equity / units := div_pos hvalued.equity_pos hvalued.units_pos
  unfold Repository.flowBasis
  simp only [hvalued.started, heffective, and_self, if_true, hvalued.marked,
    hvalued.units_pos, Except.bind_eq_ok]
  refine ⟨equity, rfl, ?_⟩
  simp only [hvalued.equity_pos.le, and_self, if_true]
  rw [if_neg (not_le.mpr hnav)]
  rfl

/-- The account after a flow to another principal: same fills, same positions, other
capital keys. -/
private theorem Marked.Valued.withFlow {newEffective newUnits : Decimal}
    (hvalued : marked.Valued config equity units effective highWater)
    (hprincipal : 0 ≤ newEffective) (hunits : 0 < newUnits)
    (hequity : 0 < equity + (newEffective - effective)) :
    Marked.Valued config
      ⟨(marked.repo.setSystem (marked.repo.system.withFlow effective newEffective equity
        (equity / units) newUnits)).invalidateTargetGeneration, marked.quotes⟩
      (equity + (newEffective - effective)) newUnits newEffective
      (highWater + (newEffective - effective)) := by
  have hgain := hvalued.principal_le
  refine
    { autoEnabled := hvalued.autoEnabled
      launchAuthorized := hvalued.launchAuthorized
      started := hvalued.started
      principal := rfl
      principal_nonneg := hprincipal
      performanceUnits := rfl
      units_pos := hunits
      highWaterEquity := ?_
      principal_le := by linarith
      marked := ?_
      equity_pos := hequity }
  · show some (max newEffective
      (marked.repo.system.highWaterEquity.getD effective + (newEffective - effective))) = _
    rw [hvalued.highWaterEquity, Option.getD_some, max_eq_right (by linarith)]
  · obtain ⟨cash, market, hcash, hmarket, hsum⟩ :=
      markedManagedEquity_pos hvalued.marked hvalued.equity_pos
    have hcash' := Repository.rawManagedCash_of_principal marked.repo
      (marked.repo.setSystem (marked.repo.system.withFlow effective newEffective equity
        (equity / units) newUnits)).invalidateTargetGeneration hcash hvalued.autoEnabled
      hvalued.autoEnabled rfl hvalued.principal rfl hprincipal rfl
    simp only [Repository.markedManagedEquity, Except.bind_eq_ok]
    refine ⟨_, hcash', market, hmarket, congrArg Except.ok ?_⟩
    rw [hsum] at hequity ⊢
    rw [max_eq_right (by linarith)]
    ring

/-- The principal a request of an external flow leaves. -/
def flowPrincipal (requested : Decimal) : Decimal := max 0 (Quantize.halfEven cent requested)

/-- An external flow at unchanged prices goes through, and keeps the unit value and
the gain. -/
theorem Marked.Valued.applyExternalFlow {requested : Decimal} (event : CapitalEvent)
    (hvalued : marked.Valued config equity units effective highWater) (heffective : 0 < effective)
    (hequity : 0 < equity + (flowPrincipal requested - effective)) :
    ∃ repo', ProductionJHAutoService.applyExternalFlow config marked.quotes marked.repo requested
        event = .ok repo' ∧
      ∃ units' highWater', Marked.Valued config ⟨repo', marked.quotes⟩
          (equity + (flowPrincipal requested - effective)) units' (flowPrincipal requested)
          highWater' ∧
        (equity + (flowPrincipal requested - effective)) / units' = equity / units ∧
        highWater' - flowPrincipal requested = highWater - effective := by
  have hsettings : marked.repo.system.settings.effectivePrincipal = effective := by
    simp [SystemState.settings, hvalued.principal]
  have hnotLaunch : ¬(marked.repo.system.settings.effectivePrincipal = 0 ∧
      event = .launchStage1) := by
    rw [hsettings]
    exact fun h => heffective.ne' h.1
  unfold ProductionJHAutoService.applyExternalFlow
  simp only [if_neg hnotLaunch]
  unfold JHAutoService.applyExternalFlow
  simp only [hsettings, hvalued.performanceUnits, Option.getD_some]
  rw [← flowPrincipal]
  -- A flow of zero writes nothing.
  by_cases hsame : flowPrincipal requested - effective = 0
  · rw [if_pos hsame, hsame]
    refine ⟨marked.repo, rfl, units, highWater, ?_, by rw [add_zero], ?_⟩
    · rw [add_zero, sub_eq_zero.mp hsame]
      exact hvalued
    · rw [sub_eq_zero.mp hsame]
  · -- Units are issued at the net asset value before the flow, which keeps it.
    have hissued := unitsAfterFlow_eq (flowPrincipal requested - effective) hvalued.equity_pos
      hvalued.units_pos
    have hnewUnits : 0 < unitsAfterFlow units (flowPrincipal requested - effective)
        (equity / units) := by
      rw [hissued]
      exact div_pos (mul_pos hvalued.units_pos hequity) hvalued.equity_pos
    have hnotNegative : ¬unitsAfterFlow units (flowPrincipal requested - effective)
        (equity / units) < -(1 / 1000000) := by
      linarith
    rw [if_neg hsame, hvalued.flowBasis_eq heffective]
    simp only [if_neg hnotNegative, max_eq_right hnewUnits.le]
    refine ⟨_, rfl, _, _, hvalued.withFlow (le_max_left _ _) hnewUnits hequity, ?_, by ring⟩
    rw [hissued]
    have hflow := hequity.ne'
    have hbefore := hvalued.equity_pos.ne'
    have hheld := hvalued.units_pos.ne'
    field_simp

/-- What `performance()` reports of a valued account. -/
theorem Marked.Valued.performance_ok
    (hvalued : marked.Valued config equity units effective highWater) (heffective : 0 < effective) :
    ∃ performance, marked.repo.performance config marked.quotes = .ok performance ∧
      performance.cumulativeReturn = equity / units - 1 := by
  obtain ⟨cash, market, hcash, -⟩ := markedManagedEquity_pos hvalued.marked hvalued.equity_pos
  have hinitial : ∃ initial, marked.repo.system.effectiveInitialCapital = .ok initial := by
    obtain ⟨initial, hinitial, -⟩ := Repository.rawManagedCash_ok hcash
    exact ⟨initial, hinitial⟩
  obtain ⟨initial, hinitial⟩ := hinitial
  have hopen : ¬(marked.repo.system.settings.launchAuthorized = false ∨
      marked.repo.system.settings.effectivePrincipal ≤ 0) := by
    simp [SystemState.settings, hvalued.launchAuthorized, hvalued.principal, heffective]
  unfold Repository.performance
  simp only [if_neg hopen, Except.bind_eq_ok, hvalued.marked, hcash, hinitial,
    hvalued.performanceUnits, Option.getD_some, if_pos hvalued.units_pos]
  exact ⟨_, ⟨equity, rfl, cash, rfl, initial, rfl, rfl⟩, rfl⟩

end Flow

/-! ## Runs of flows and market moves -/

/-- An external flow, or anything that leaves principal and units alone: new
prices, fills, dividends, an equity observation. -/
inductive CapitalMove (ι : Type)
  | flow (requested : Decimal) (event : CapitalEvent)
  | market (next : Marked ι)

/-- One move; a failed flow is rolled back. -/
def CapitalMove.step (config : StrategyConfig) (marked : Marked ι) : CapitalMove ι → Marked ι
  | .flow requested event =>
      match ProductionJHAutoService.applyExternalFlow config marked.quotes marked.repo requested
          event with
      | .ok repo => { marked with repo := repo }
      | .error _ => marked
  | .market next => next

/-- A flow leaves principal and equity behind, and a market move leaves an account
with the same principal and units. -/
def CapitalMove.Admissible (config : StrategyConfig) (marked : Marked ι) :
    CapitalMove ι → Prop
  | .flow requested _ => 0 < flowPrincipal requested ∧
      0 < marked.equity config
        + (flowPrincipal requested - marked.repo.system.settings.effectivePrincipal)
  | .market next => ∀ equity units effective highWater,
      marked.Valued config equity units effective highWater →
        ∃ equity' highWater', next.Valued config equity' units effective highWater'

/-- What the market did to the equity between the flows. -/
def marketReturn (config : StrategyConfig) : Marked ι → List (CapitalMove ι) → Decimal
  | _, [] => 1
  | marked, move@(.flow _ _) :: moves => marketReturn config (move.step config marked) moves
  | marked, .market next :: moves =>
      next.equity config / marked.equity config * marketReturn config next moves

/-- One move multiplies the unit value by what the market did. -/
theorem CapitalMove.step_valued {config : StrategyConfig} {marked : Marked ι}
    {move : CapitalMove ι} {equity units effective highWater : Decimal}
    (hvalued : marked.Valued config equity units effective highWater) (heffective : 0 < effective)
    (hmove : move.Admissible config marked) :
    ∃ equity' units' effective' highWater',
      (move.step config marked).Valued config equity' units' effective' highWater' ∧
      0 < effective' ∧
      equity' / units' = equity / units * marketReturn config marked [move] := by
  cases move with
  | flow requested event =>
      obtain ⟨hprincipal, hequity⟩ := hmove
      rw [hvalued.equity_eq] at hequity
      have hsettings : marked.repo.system.settings.effectivePrincipal = effective := by
        simp [SystemState.settings, hvalued.principal]
      rw [hsettings] at hequity
      obtain ⟨repo', hok, units', highWater', hvalued', hunit, -⟩ :=
        hvalued.applyExternalFlow event heffective hequity
      refine ⟨equity + (flowPrincipal requested - effective), units', flowPrincipal requested,
        highWater', ?_, hprincipal, ?_⟩
      · simp only [step, hok]
        exact hvalued'
      · rw [hunit, marketReturn, marketReturn, mul_one]
  | market next =>
      obtain ⟨equity', highWater', hvalued'⟩ := hmove _ _ _ _ hvalued
      refine ⟨equity', units, effective, highWater', hvalued', heffective, ?_⟩
      have hbefore := hvalued.equity_pos.ne'
      have hheld := hvalued.units_pos.ne'
      rw [marketReturn, marketReturn, mul_one, hvalued.equity_eq, hvalued'.equity_eq]
      field_simp

theorem marketReturn_cons (config : StrategyConfig) (marked : Marked ι) (move : CapitalMove ι)
    (moves : List (CapitalMove ι)) :
    marketReturn config marked (move :: moves)
      = marketReturn config marked [move]
        * marketReturn config (move.step config marked) moves := by
  cases move with
  | flow requested event => rw [marketReturn, marketReturn, marketReturn, one_mul]
  | market next => rw [marketReturn, marketReturn, marketReturn, mul_one, CapitalMove.step]

/-- A run multiplies the unit value by the product of its market moves. -/
theorem unit_value_of_run {config : StrategyConfig} {moves : List (CapitalMove ι)} :
    ∀ {marked : Marked ι} {equity units effective highWater : Decimal},
      marked.Valued config equity units effective highWater → 0 < effective →
      Run.Along (CapitalMove.step config) (CapitalMove.Admissible config) marked moves →
      ∃ equity' units' effective' highWater',
        (moves.foldl (CapitalMove.step config) marked).Valued config equity' units' effective'
          highWater' ∧ 0 < effective' ∧
        equity' / units' = equity / units * marketReturn config marked moves := by
  induction moves with
  | nil =>
      intro marked equity units effective highWater hvalued heffective _
      exact ⟨equity, units, effective, highWater, hvalued, heffective, by rw [marketReturn, mul_one]⟩
  | cons move moves ih =>
      intro marked equity units effective highWater hvalued heffective hadmissible
      obtain ⟨equity₁, units₁, effective₁, highWater₁, hvalued₁, heffective₁, hunit₁⟩ :=
        CapitalMove.step_valued hvalued heffective hadmissible.1
      obtain ⟨equity', units', effective', highWater', hvalued', heffective', hunit'⟩ :=
        ih hvalued₁ heffective₁ hadmissible.2
      refine ⟨equity', units', effective', highWater', hvalued', heffective', ?_⟩
      calc equity' / units'
          = equity₁ / units₁ * marketReturn config (move.step config marked) moves := hunit'
        _ = equity / units * marketReturn config marked (move :: moves) := by
          rw [hunit₁, marketReturn_cons config marked move moves, mul_assoc]

/-- An external flow at unchanged prices leaves the unit value and the gain alone,
and over any run of flows and market moves the cumulative return compounds exactly
what the market did between the flows. -/
theorem external_flows_are_no_performance (config : StrategyConfig) (marked : Marked ι)
    (equity units effective highWater : Decimal)
    (hvalued : marked.Valued config equity units effective highWater) (heffective : 0 < effective) :
    (∀ requested event, 0 < equity + (flowPrincipal requested - effective) →
        ∃ repo' units' highWater',
          ProductionJHAutoService.applyExternalFlow config marked.quotes marked.repo requested
            event = .ok repo' ∧
          Marked.Valued config ⟨repo', marked.quotes⟩
            (equity + (flowPrincipal requested - effective)) units' (flowPrincipal requested)
            highWater' ∧
          (equity + (flowPrincipal requested - effective)) / units' = equity / units ∧
          highWater' - flowPrincipal requested = highWater - effective) ∧
      ∀ moves, Run.Along (CapitalMove.step config) (CapitalMove.Admissible config) marked moves →
        ∃ before after,
          marked.repo.performance config marked.quotes = .ok before ∧
          (moves.foldl (CapitalMove.step config) marked).repo.performance config
            (moves.foldl (CapitalMove.step config) marked).quotes = .ok after ∧
          1 + after.cumulativeReturn
            = (1 + before.cumulativeReturn) * marketReturn config marked moves := by
  constructor
  · intro requested event hequity
    obtain ⟨repo', hok, units', highWater', hvalued', hunit, hgain⟩ :=
      hvalued.applyExternalFlow event heffective hequity
    exact ⟨repo', units', highWater', hok, hvalued', hunit, hgain⟩
  · intro moves hadmissible
    obtain ⟨equity', units', effective', highWater', hvalued', heffective', hunit⟩ :=
      unit_value_of_run hvalued heffective hadmissible
    obtain ⟨before, hbefore, hreturn⟩ := hvalued.performance_ok heffective
    obtain ⟨after, hafter, hreturn'⟩ := hvalued'.performance_ok heffective'
    refine ⟨before, after, hbefore, hafter, ?_⟩
    calc 1 + after.cumulativeReturn = equity' / units' := by rw [hreturn']; ring
      _ = equity / units * marketReturn config marked moves := hunit
      _ = (1 + before.cumulativeReturn) * marketReturn config marked moves := by
        rw [hreturn]; ring

namespace FlowRun

/-- 5,000 USD in 5,000 units. -/
def start : Marked ℕ where
  repo := Repository.launched
    { SystemState.launched 5000 5000 5000 with performanceUnits := some 5000 } .qqq 1000
  quotes := { allocation := fun _ => .ok 100, idleCash := .ok 100 }

theorem fortyShares : 0 < 40 := by decide

/-- 40 shares bought at 100 and marked at 120. -/
def afterRally : Marked ℕ where
  repo := [LedgerOp.reserveBuy 10000 (.core 1 .qqq 40 100 fortyShares) 1,
    .updateOrder 1
      { status := .exact .filled, filledQty := some 40, averageFillPrice := some 100 },
    .applyCoreFill 1].foldl (LedgerOp.step .strategyYaml) start.repo
  quotes := { allocation := fun _ => .ok 120, idleCash := .ok 100 }

/-- A rally, and 3,000 USD more. -/
def moves : List (CapitalMove ℕ) := [.market afterRally, .flow 8000 .capitalIncreaseStage1]

end FlowRun

theorem external_flows_are_no_performance_after_rally :
    ∃ before after,
      FlowRun.start.repo.performance .strategyYaml FlowRun.start.quotes = .ok before ∧
      (FlowRun.moves.foldl (CapitalMove.step .strategyYaml) FlowRun.start).repo.performance
          .strategyYaml
          (FlowRun.moves.foldl (CapitalMove.step .strategyYaml) FlowRun.start).quotes
        = .ok after ∧
      1 + after.cumulativeReturn
        = (1 + before.cumulativeReturn)
          * marketReturn .strategyYaml FlowRun.start FlowRun.moves := by
  have hstart : FlowRun.start.Valued .strategyYaml 5000 5000 5000 5000 :=
    ⟨rfl, rfl, rfl, rfl, by norm_num, rfl, by norm_num, rfl, le_rfl, by decide +kernel,
      by norm_num⟩
  refine (external_flows_are_no_performance _ _ _ _ _ _ hstart (by norm_num)).2 FlowRun.moves
    ⟨?_, ?_, trivial⟩
  · intro equity units effective highWater hvalued
    obtain rfl : (5000 : Decimal) = units := Option.some.inj hvalued.performanceUnits
    obtain rfl : (5000 : Decimal) = effective := Option.some.inj hvalued.principal
    exact ⟨5796, 5000, by decide +kernel, by decide +kernel, by decide +kernel, by decide +kernel,
      by norm_num, by decide +kernel, by norm_num, by decide +kernel, le_rfl, by decide +kernel,
      by norm_num⟩
  · exact ⟨by decide +kernel, by decide +kernel⟩

end JdHoldings

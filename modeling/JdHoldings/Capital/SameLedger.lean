import JdHoldings.Capital.Contract

/-!
# What capital operations leave alone

A capital transaction rewrites the capital keys and the frozen targets.  It touches
no order row, no booked fill and no position, it never lifts a BUY halt, and it leaves
the operator's latch alone (`SameOperator`).  The only exception is the reconciliation
inside the first launch, which does what it does (`of_capitalOp`).
-/

namespace JdHoldings

variable {ι : Type}

/-- The ledger is the same, and BUY is still halted if it was. -/
structure Repository.SameLedger (repo repo' : Repository ι) : Prop where
  orders : repo'.orders = repo.orders
  coreFillProgress : repo'.coreFillProgress = repo.coreFillProgress
  positions : repo'.positions = repo.positions
  qty : ∀ symbol, (repo'.core symbol).qty = (repo.core symbol).qty
  halted : repo.system.operatorBuyHalt = some true → repo'.system.operatorBuyHalt = some true

/-- The ledger is the same, and so are the operator's latch and the installed AUTO. -/
structure Repository.SameOperator (repo repo' : Repository ι) : Prop
    extends repo.SameLedger repo' where
  latch : repo'.system.operatorHaltLatched = repo.system.operatorHaltLatched
  enabled : repo'.system.autoEnabled = repo.system.autoEnabled

namespace Repository.SameOperator

variable {repo repo' repo'' : Repository ι}

theorem refl (repo : Repository ι) : repo.SameOperator repo :=
  ⟨⟨rfl, rfl, rfl, fun _ => rfl, id⟩, rfl, rfl⟩

theorem setSystem (repo : Repository ι) {system : SystemState}
    (hhalted : repo.system.operatorBuyHalt = some true → system.operatorBuyHalt = some true)
    (hlatch : system.operatorHaltLatched = repo.system.operatorHaltLatched)
    (henabled : system.autoEnabled = repo.system.autoEnabled) :
    repo.SameOperator (repo.setSystem system) :=
  ⟨⟨rfl, rfl, rfl, fun _ => rfl, hhalted⟩, hlatch, henabled⟩

theorem trans (hfirst : repo.SameOperator repo') (hsecond : repo'.SameOperator repo'') :
    repo.SameOperator repo'' where
  orders := hsecond.orders.trans hfirst.orders
  coreFillProgress := hsecond.coreFillProgress.trans hfirst.coreFillProgress
  positions := hsecond.positions.trans hfirst.positions
  qty := fun symbol => (hsecond.qty symbol).trans (hfirst.qty symbol)
  halted := fun hhalted => hsecond.halted (hfirst.halted hhalted)
  latch := hsecond.latch.trans hfirst.latch
  enabled := hsecond.enabled.trans hfirst.enabled

theorem of_flow {config : StrategyConfig} {quotes : Quotes} {requested : Decimal}
    {event : CapitalEvent}
    (hok : ProductionJHAutoService.applyExternalFlow config quotes repo requested event
      = .ok repo') : repo.SameOperator repo' := by
  unfold ProductionJHAutoService.applyExternalFlow at hok
  split at hok
  · rcases JHAutoService.applyExternalFlow_ok hok with ⟨-, rfl⟩ | ⟨-, preEquity, nav, -, rfl⟩
    · exact setSystem _ id rfl rfl
    · exact ⟨⟨rfl, rfl, rfl, fun _ => rfl, id⟩, rfl, rfl⟩
  · rcases JHAutoService.applyExternalFlow_ok hok with ⟨-, rfl⟩ | ⟨-, preEquity, nav, -, rfl⟩
    · exact refl _
    · exact ⟨⟨rfl, rfl, rfl, fun _ => rfl, id⟩, rfl, rfl⟩

theorem of_retarget {config : StrategyConfig} {env : AutoEnvironment ι} {before : AutoSettings}
    {newTarget : Decimal}
    (hok : JHAutoService.retargetLivePrincipal config env repo before newTarget = .ok repo') :
    repo.SameOperator repo' := by
  unfold JHAutoService.retargetLivePrincipal at hok
  split at hok
  · obtain rfl := Except.ok.inj hok
    exact refl _
  · split at hok
    · refine trans ?_ (of_flow hok)
      exact setSystem _ id rfl rfl
    · split at hok
      · obtain rfl := Except.ok.inj hok
        exact setSystem _ id rfl rfl
      · refine trans ?_ (of_flow hok)
        exact setSystem _ id rfl rfl

private theorem of_setOperatorConfig_base {config : StrategyConfig} {env : AutoEnvironment ι}
    {base ratio : Option Decimal}
    (hok : JHAutoService.setOperatorConfig config env repo base ratio = .ok repo') :
    repo.SameOperator repo' := by
  simp only [JHAutoService.setOperatorConfig, Except.bind_eq_ok] at hok
  obtain ⟨_, -, _, -, hok⟩ := hok
  split at hok
  · refine trans ?_ (of_retarget hok)
    exact setSystem _ id rfl rfl
  · obtain rfl := Except.ok.inj hok
    exact setSystem repo id rfl rfl

theorem of_setOperatorConfig {config : StrategyConfig} {env : AutoEnvironment ι}
    {base ratio : Option Decimal}
    (hok : FinalOpsProductionJHAutoService.setOperatorConfig config env repo base ratio
      = .ok repo') : repo.SameOperator repo' := by
  simp only [FinalOpsProductionJHAutoService.setOperatorConfig, Except.bind_eq_ok] at hok
  obtain ⟨hardened, hhardened, hresult⟩ := hok
  have hsame : repo.SameOperator hardened := by
    unfold HardenedProductionJHAutoService.setOperatorConfig at hhardened
    split at hhardened
    · simp only [Except.bind_eq_ok] at hhardened
      obtain ⟨updated, hupdated, _, -, hclosed⟩ := hhardened
      obtain rfl := Except.ok.inj hclosed
      refine trans (trans ?_ (of_setOperatorConfig_base hupdated)) (setSystem _ (fun _ => rfl) rfl rfl)
      exact setSystem _ (fun _ => rfl) rfl rfl
    · simp only [Except.bind_eq_ok] at hhardened
      obtain ⟨updated, hupdated, _, -, hclosed⟩ := hhardened
      obtain rfl := Except.ok.inj hclosed
      exact of_setOperatorConfig_base hupdated
  split at hresult
  · obtain rfl := Except.ok.inj hresult
    exact hsame.trans (setSystem _ id rfl rfl)
  · obtain rfl := Except.ok.inj hresult
    exact hsame

theorem of_advanceRamp {config : StrategyConfig} {env : AutoEnvironment ι}
    {result : Repository ι × Bool}
    (hok : FinalOpsProductionJHAutoService.advanceRampIfReady config env repo = .ok result) :
    repo.SameOperator result.1 := by
  simp only [FinalOpsProductionJHAutoService.advanceRampIfReady, Except.bind_eq_ok] at hok
  obtain ⟨advanced, hadvanced, hresult⟩ := hok
  have hsame : repo.SameOperator advanced.1 := by
    cases JHAutoService.advanceRampIfReady_effect hadvanced with
    | idle => exact refl _
    | withdrawn => exact setSystem _ id rfl rfl
    | observed => exact setSystem _ id rfl rfl
    | finished => exact setSystem _ id rfl rfl
    | advanced _ _ _ _ flow =>
        refine trans ?_ (of_flow flow)
        exact setSystem repo id rfl rfl
  split at hresult
  · obtain rfl := Except.ok.inj hresult
    exact hsame.trans (setSystem _ id rfl rfl)
  · obtain rfl := Except.ok.inj hresult
    exact hsame

theorem of_record {markedEquity : Decimal} (hok : repo.recordV322Equity markedEquity = .ok repo') :
    repo.SameOperator repo' := by
  simp only [Repository.recordV322Equity, Except.bind_eq_ok] at hok
  obtain ⟨system, hrecord, hresult⟩ := hok
  obtain rfl := Except.ok.inj hresult
  unfold SystemState.recordV322Equity at hrecord
  split at hrecord
  · cases hrecord
  · split at hrecord
    · cases hrecord
    · obtain rfl := Except.ok.inj hrecord
      exact setSystem _ id rfl rfl

/-- The preflight changes nothing but by its reconciliation, and nothing at all once
the account is launched. -/
theorem of_preflightLaunch {env : AutoEnvironment ι}
    (hok : JHAutoService.preflightLaunch env repo = .ok repo') :
    repo' = repo ∨ repo.system.launchAuthorized ≠ some true ∧
      ∃ mismatches, env.reconciliation.run repo = .ok (repo', mismatches) := by
  simp only [JHAutoService.preflightLaunch, Except.bind_eq_ok] at hok
  obtain ⟨_, -, hok⟩ := hok
  split at hok
  · exact Or.inl (Except.ok.inj hok).symm
  · rename_i hlaunch
    simp only [Except.bind_eq_ok] at hok
    obtain ⟨_, -, _, -, ⟨reconciled, mismatches⟩, hrun, _, -, _, -, _, -, _, -, hresult⟩ := hok
    obtain rfl := Except.ok.inj hresult
    exact Or.inr ⟨fun h => hlaunch (decide_eq_true h), mismatches, hrun⟩

theorem of_authorizeLaunch {config : StrategyConfig} {env : AutoEnvironment ι}
    (hok : FinalOpsProductionJHAutoService.authorizeLaunch config env repo = .ok repo') :
    ∃ checked, JHAutoService.preflightLaunch env repo = .ok checked ∧
      checked.SameOperator repo' := by
  simp only [FinalOpsProductionJHAutoService.authorizeLaunch, JHAutoService.authorizeLaunch,
    Except.bind_eq_ok] at hok
  obtain ⟨launched, ⟨checked, hpreflight, hlaunch⟩, hresult⟩ := hok
  refine ⟨checked, hpreflight, ?_⟩
  have hsame : checked.SameOperator launched := by
    split at hlaunch
    · simp only [Except.bind_eq_ok] at hlaunch
      obtain ⟨_, -, hlaunch⟩ := hlaunch
      obtain rfl := Except.ok.inj hlaunch
      exact refl _
    · simp only [Except.bind_eq_ok] at hlaunch
      obtain ⟨fraction, -, hflow⟩ := hlaunch
      refine trans ?_ (of_flow hflow)
      exact setSystem _ id rfl rfl
  split at hresult
  · obtain rfl := Except.ok.inj hresult
    exact hsame.trans (setSystem _ id rfl rfl)
  · obtain rfl := Except.ok.inj hresult
    exact hsame

/-- A capital transaction leaves the ledger as the preflight of a launch left it. -/
theorem of_capitalOp {config : StrategyConfig} {env : AutoEnvironment ι} {op : CapitalOp}
    (hok : op.exec config env repo = .ok repo') :
    ∃ checked, (checked = repo ∨ op = .authorizeLaunch ∧
      repo.system.launchAuthorized ≠ some true ∧
      ∃ mismatches, env.reconciliation.run repo = .ok (checked, mismatches)) ∧
        checked.SameOperator repo' := by
  cases op with
  | setBaseCapital value =>
      simp only [CapitalOp.exec, setBaseCapital, Except.bind_eq_ok] at hok
      obtain ⟨base, -, hok⟩ := hok
      exact ⟨repo, Or.inl rfl, of_setOperatorConfig hok⟩
  | setRatioPercent percent =>
      simp only [CapitalOp.exec, setRatioPercent, Except.bind_eq_ok] at hok
      obtain ⟨ratio, -, hok⟩ := hok
      exact ⟨repo, Or.inl rfl, of_setOperatorConfig hok⟩
  | authorizeLaunch =>
      obtain ⟨checked, hpreflight, hsame⟩ := of_authorizeLaunch hok
      exact ⟨checked, (of_preflightLaunch hpreflight).imp_right fun hrun => ⟨rfl, hrun⟩, hsame⟩
  | advanceRampIfReady =>
      obtain ⟨result, hadvance, rfl⟩ := CapitalOp.exec_advanceRamp hok
      exact ⟨repo, Or.inl rfl, of_advanceRamp hadvance⟩
  | recordV322Equity markedEquity => exact ⟨repo, Or.inl rfl, of_record hok⟩

end Repository.SameOperator

namespace Repository.SameLedger

variable {repo repo' : Repository ι}

theorem of_flow {config : StrategyConfig} {quotes : Quotes} {requested : Decimal}
    {event : CapitalEvent}
    (hok : ProductionJHAutoService.applyExternalFlow config quotes repo requested event
      = .ok repo') : repo.SameLedger repo' :=
  (SameOperator.of_flow hok).toSameLedger

/-- A capital transaction leaves the ledger as the preflight of a launch left it. -/
theorem of_capitalOp {config : StrategyConfig} {env : AutoEnvironment ι} {op : CapitalOp}
    (hok : op.exec config env repo = .ok repo') :
    ∃ checked, (checked = repo ∨ op = .authorizeLaunch ∧
      repo.system.launchAuthorized ≠ some true ∧
      ∃ mismatches, env.reconciliation.run repo = .ok (checked, mismatches)) ∧
        checked.SameLedger repo' := by
  obtain ⟨checked, hchecked, hsame⟩ := SameOperator.of_capitalOp hok
  exact ⟨checked, hchecked, hsame.toSameLedger⟩

theorem trans {repo'' : Repository ι} (hfirst : repo.SameLedger repo')
    (hsecond : repo'.SameLedger repo'') : repo.SameLedger repo'' where
  orders := hsecond.orders.trans hfirst.orders
  coreFillProgress := hsecond.coreFillProgress.trans hfirst.coreFillProgress
  positions := hsecond.positions.trans hfirst.positions
  qty := fun symbol => (hsecond.qty symbol).trans (hfirst.qty symbol)
  halted := fun hhalted => hsecond.halted (hfirst.halted hhalted)

end Repository.SameLedger

end JdHoldings

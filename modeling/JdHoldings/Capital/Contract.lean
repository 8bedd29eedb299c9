import JdHoldings.Automation.Service

/-!
# The capital contract

The persisted numbers of the delegated capital stay consistent through every
operator change, launch, ramp step and equity observation.

Seven numbers are rewritten by five operations, and the invariant that closes the
induction is `CapitalKeys.Contract`.  Beyond what the live BUY guard checks, it
says that the numbers the next operation starts from are on the cent grid, so the
two quantizations of `_apply_external_flow` leave them alone, and that a running
ramp aims at the current target principal, so no later stage can open more than
the target.

The proof goes through what each operation does to the capital keys
(`…_capital`), and then through what such a change does to the contract.
-/

namespace JdHoldings

/-! ## The contract -/

/-- The high-water mark and the risk budget of an account with the given
principal. -/
def CapitalKeys.BudgetWithin (keys : CapitalKeys) (effective : Decimal) : Prop :=
  ∃ highWater riskBudget, keys.highWaterEquity = some highWater ∧
    keys.riskBudget = some riskBudget ∧ effective ≤ highWater ∧ 0 ≤ riskBudget ∧
    riskBudget ≤ effective + 3 / 4 * max 0 (highWater - effective)

/-- A launched account: a principal between zero and the target, a ramp that aims
at the target, and a budget that follows the principal. -/
structure CapitalKeys.Launched (keys : CapitalKeys) : Prop where
  configured : ∃ base ratio, keys.baseCapital = some base ∧ keys.ratio = some ratio
  ramp : keys.rampStage.getD 0 ≠ 0 → keys.rampTargetPrincipal = keys.targetPrincipal ∧
    ∃ rampBase target, keys.rampBasePrincipal = some rampBase ∧
      keys.targetPrincipal = some target ∧ 0 ≤ rampBase ∧ rampBase ≤ target
  principal : ∃ effective target, keys.effectivePrincipal = some effective ∧
    keys.targetPrincipal = some target ∧ 0 < effective ∧ effective ≤ target ∧
    Quantize.OnGrid cent effective ∧ keys.BudgetWithin effective

/-- The operator configuration is in range, and the target is what it gives. -/
structure CapitalKeys.Configured (keys : CapitalKeys) : Prop where
  autoEnabled : keys.autoEnabled = some true
  autoVersion : keys.autoVersion = some JdHoldings.autoVersion
  base : ∀ base ∈ keys.baseCapital, minBaseCapital ≤ base ∧ base ≤ maxBaseCapital
  ratio : ∀ ratio ∈ keys.ratio, minRatio ≤ ratio ∧ ratio ≤ maxRatio
  target : keys.targetPrincipal = some (JdHoldings.targetPrincipal keys.baseCapital keys.ratio)

/-- The invariant of the capital keys. -/
structure CapitalKeys.Contract (keys : CapitalKeys) : Prop extends keys.Configured where
  notLaunched : keys.launchAuthorized ≠ some true → keys.effectivePrincipal = some 0
  launched : keys.launchAuthorized = some true → keys.Launched

/-! ## The target principal -/

theorem targetPrincipal_onGrid (base ratio : Option Decimal) :
    Quantize.OnGrid cent (targetPrincipal base ratio) := by
  cases base with
  | none => exact ⟨0, by simp [targetPrincipal]⟩
  | some base =>
      cases ratio with
      | none => exact ⟨0, by simp [targetPrincipal]⟩
      | some ratio => exact Quantize.down_onGrid _ _

/-- Any base and ratio in range give a target of at least one dollar. -/
theorem one_le_targetPrincipal {base ratio : Decimal} (hbase : minBaseCapital ≤ base)
    (hratio : minRatio ≤ ratio) : 1 ≤ targetPrincipal (some base) (some ratio) := by
  have hproduct : (1 : ℚ) ≤ base * ratio := by
    calc (1 : ℚ) = minBaseCapital * minRatio := by norm_num [minBaseCapital, minRatio]
      _ ≤ base * ratio := by
        refine mul_le_mul hbase hratio (by norm_num [minRatio]) ?_
        exact le_trans (by norm_num [minBaseCapital]) hbase
  have hcents : ((100 : ℕ) : ℚ) * cent ≤ base * ratio := by
    norm_num [cent]
    exact hproduct
  have hdown := Quantize.le_down_of_le cent_pos hcents
  calc (1 : ℚ) = ((100 : ℕ) : ℚ) * cent := by norm_num [cent]
    _ ≤ Quantize.down cent (base * ratio) := hdown

theorem normalizeMoney_ok {value base : Decimal} (hok : normalizeMoney value = .ok base) :
    minBaseCapital ≤ base ∧ base ≤ maxBaseCapital := by
  simp only [normalizeMoney, Except.bind_eq_ok, raiseIf_eq_ok, not_not] at hok
  obtain ⟨-, hrange, hbase⟩ := hok
  obtain rfl := Except.ok.inj hbase
  exact hrange

theorem normalizeRatioPercent_ok {percent ratio : Decimal}
    (hok : normalizeRatioPercent percent = .ok ratio) : minRatio ≤ ratio ∧ ratio ≤ maxRatio := by
  simp only [normalizeRatioPercent, Except.bind_eq_ok, raiseIf_eq_ok, not_not] at hok
  obtain ⟨-, ⟨hlow, hhigh⟩, hratio⟩ := hok
  obtain rfl := Except.ok.inj hratio
  exact Quantize.halfEven_mem_of_onGrid (by norm_num) ⟨100, by norm_num [minRatio]⟩
    ⟨10000, by norm_num [maxRatio]⟩ ⟨hlow, hhigh⟩

/-! ## What each operation does to the capital keys -/

variable {ι : Type}

/-- The keys after an account opened `principal` with some budget. -/
def CapitalKeys.withBudget (keys : CapitalKeys) (principal highWater riskBudget : Decimal) :
    CapitalKeys :=
  { keys with
    effectivePrincipal := some principal
    highWaterEquity := some highWater
    riskBudget := some riskBudget }

/-- A reset of the budget is overwritten by the next one. -/
private theorem withBudget_of_reset (system : SystemState) (principal highWater riskBudget : Decimal) :
    CapitalKeys.withBudget
        { system with highWaterEquity := some 0, riskBudget := some 0 : SystemState }.capital
        principal highWater riskBudget
      = system.capital.withBudget principal highWater riskBudget := rfl

private theorem capital_of_withFlow {repo repo' : Repository ι} {system : SystemState}
    {old new preEquity nav newUnits : Decimal}
    (hrepo : repo' = (repo.setSystem
      (system.withFlow old new preEquity nav newUnits)).invalidateTargetGeneration)
    (hnew : 0 ≤ new) :
    ∃ highWater riskBudget,
      repo'.system.capital = system.capital.withBudget new highWater riskBudget ∧
      repo'.system.capital.BudgetWithin new := by
  subst hrepo
  refine ⟨_, _, rfl, _, _, rfl, rfl, le_max_left _ _, le_max_left _ _, max_le ?_ (min_le_right _ _)⟩
  have hgain : 0 ≤ max 0 (max new (system.highWaterEquity.getD old + (new - old)) - new) :=
    le_max_left _ _
  linarith

/-- A committed flow to a principal on the cent grid opens that principal with a
budget that fits it, or the principal was open already. -/
theorem ProductionJHAutoService.applyExternalFlow_capital {config : StrategyConfig}
    {quotes : Quotes} {repo repo' : Repository ι} {old requested : Decimal} {event : CapitalEvent}
    (hok : ProductionJHAutoService.applyExternalFlow config quotes repo requested event = .ok repo')
    (hgrid : Quantize.OnGrid cent requested) (hpos : 0 < requested)
    (hold : repo.system.effectivePrincipal = some old) :
    (requested = old ∧ repo' = repo) ∨
      ∃ highWater riskBudget,
        repo'.system.capital = repo.system.capital.withBudget requested highWater riskBudget ∧
        repo'.system.capital.BudgetWithin requested := by
  have hnew : max 0 (Quantize.halfEven cent requested) = requested := by
    rw [Quantize.halfEven_of_onGrid cent_pos hgrid, max_eq_right hpos.le]
  have hsettings : repo.system.settings.effectivePrincipal = old := by
    simp [SystemState.settings, hold]
  unfold ProductionJHAutoService.applyExternalFlow at hok
  by_cases hlaunch : repo.system.settings.effectivePrincipal = 0 ∧ event = .launchStage1
  · -- The first AUTO flow starts from a reset high-water mark, which changes no other key.
    rw [if_pos hlaunch] at hok
    have hspec := JHAutoService.applyExternalFlow_ok hok
    simp only [hnew] at hspec
    rcases hspec with ⟨hsame, -⟩ | ⟨-, preEquity, nav, -, hrepo⟩
    · exact absurd (hsame.trans hlaunch.1) hpos.ne'
    · obtain ⟨highWater, riskBudget, hcapital, hbudget⟩ := capital_of_withFlow hrepo hpos.le
      rw [Repository.setSystem_system, withBudget_of_reset] at hcapital
      exact Or.inr ⟨highWater, riskBudget, hcapital, hbudget⟩
  · rw [if_neg hlaunch] at hok
    have hspec := JHAutoService.applyExternalFlow_ok hok
    simp only [hnew, hsettings] at hspec
    rcases hspec with hsame | ⟨-, preEquity, nav, -, hrepo⟩
    · exact Or.inl hsame
    · exact Or.inr (capital_of_withFlow hrepo hpos.le)

/-! ## Retargeting a launched account -/

/-- The principal of a launched account, and the target it was opened under. -/
structure CapitalKeys.Opened (keys : CapitalKeys) (effective target : Decimal) : Prop where
  effectivePrincipal : keys.effectivePrincipal = some effective
  pos : 0 < effective
  le : effective ≤ target
  onGrid : Quantize.OnGrid cent effective
  budget : keys.BudgetWithin effective

/-- The ramp stages that may still run aim at `target`. -/
def CapitalKeys.RampAims (keys : CapitalKeys) (target : Decimal) : Prop :=
  keys.rampStage.getD 0 ≠ 0 → keys.rampTargetPrincipal = some target ∧
    ∃ rampBase, keys.rampBasePrincipal = some rampBase ∧ 0 ≤ rampBase ∧ rampBase ≤ target

/-- A flow within the target keeps the account open under it. -/
private theorem opened_of_flow {config : StrategyConfig} {quotes : Quotes}
    {repo repo' : Repository ι} {old requested target : Decimal} {event : CapitalEvent}
    (hok : ProductionJHAutoService.applyExternalFlow config quotes repo requested event = .ok repo')
    (hgrid : Quantize.OnGrid cent requested) (hpos : 0 < requested) (hle : requested ≤ target)
    (hold : repo.system.effectivePrincipal = some old)
    (hbudget : requested = old → repo.system.capital.BudgetWithin old) :
    repo'.system.capital.Opened requested target ∧
      ∃ highWater riskBudget,
        repo'.system.capital = repo.system.capital.withBudget requested highWater riskBudget := by
  rcases ProductionJHAutoService.applyExternalFlow_capital hok hgrid hpos hold with
    ⟨rfl, rfl⟩ | ⟨highWater, riskBudget, hcapital, hwithin⟩
  · obtain ⟨highWater, riskBudget, hhwm, hrisk, hbounds⟩ := hbudget rfl
    refine ⟨⟨hold, hpos, hle, hgrid, highWater, riskBudget, hhwm, hrisk, hbounds⟩,
      highWater, riskBudget, ?_⟩
    have hcapital : repo'.system.capital.effectivePrincipal = some requested := hold
    rw [CapitalKeys.withBudget, ← hcapital, ← hhwm, ← hrisk]
  · exact ⟨⟨by rw [hcapital]; rfl, hpos, hle, hgrid, hwithin⟩, highWater, riskBudget, hcapital⟩

/-- The keys no flow and no ramp step touches. -/
def CapitalKeys.configuration (keys : CapitalKeys) :=
  (keys.autoEnabled, keys.autoVersion, keys.baseCapital, keys.ratio, keys.targetPrincipal,
    keys.launchAuthorized)

/-- The principal and the ramp of `keys'` were moved under the given target; the
configuration is that of `keys`. -/
structure CapitalKeys.Reopened (keys keys' : CapitalKeys) (target : Decimal) : Prop where
  opened : ∃ effective, keys'.Opened effective target
  ramp : keys'.RampAims target
  configuration : keys'.configuration = keys.configuration

/-- Retargeting moves the principal and the ramp under the new target. -/
private theorem retargetLivePrincipal_reopened {config : StrategyConfig} {env : AutoEnvironment ι}
    {repo repo' : Repository ι} {before : AutoSettings} {newTarget : Decimal}
    (hok : JHAutoService.retargetLivePrincipal config env repo before newTarget = .ok repo')
    (hopened : repo.system.capital.Opened before.effectivePrincipal before.targetPrincipal)
    (hramp : repo.system.capital.RampAims before.targetPrincipal)
    (hgrid : Quantize.OnGrid cent newTarget) (hpos : 0 < newTarget) :
    repo.system.capital.Reopened repo'.system.capital newTarget := by
  unfold JHAutoService.retargetLivePrincipal at hok
  split at hok
  · rename_i hsame
    subst hsame
    obtain rfl := Except.ok.inj hok
    exact ⟨⟨_, hopened⟩, hramp, rfl⟩
  · split at hok
    · -- An immediate reduction: the ramp ends and the principal falls to the target.
      rename_i hbelow
      obtain ⟨hreopened, highWater, riskBudget, hcapital⟩ :=
        opened_of_flow hok hgrid hpos le_rfl hopened.effectivePrincipal
          (fun hsame => absurd hsame hbelow.ne)
      refine ⟨⟨_, hreopened⟩, ?_, by rw [hcapital]; rfl⟩
      intro hstage
      rw [hcapital] at hstage
      exact absurd rfl hstage
    · rename_i hfits
      split at hok
      · -- A cancelled ramp: what is open fits under the new target.
        obtain rfl := Except.ok.inj hok
        refine ⟨⟨before.effectivePrincipal, hopened.effectivePrincipal, hopened.pos,
          not_lt.mp hfits, hopened.onGrid, hopened.budget⟩, ?_, rfl⟩
        intro hstage
        exact absurd rfl hstage
      · -- A staged increase from the open principal, half of the way at first.
        rename_i hnotbelow
        have hbase : before.effectivePrincipal ≤ newTarget := not_lt.mp hfits
        have hfirst : before.effectivePrincipal ≤
            before.effectivePrincipal + (newTarget - before.effectivePrincipal) * (1 / 2) := by
          linarith
        have hlow := Quantize.onGrid_le_down cent_pos hopened.onGrid hopened.pos.le hfirst
        have hhigh : Quantize.down cent
            (before.effectivePrincipal + (newTarget - before.effectivePrincipal) * (1 / 2))
              ≤ newTarget := by
          calc _ ≤ before.effectivePrincipal + (newTarget - before.effectivePrincipal) * (1 / 2) :=
                Quantize.down_le cent_pos (hopened.pos.le.trans hfirst)
            _ ≤ newTarget := by linarith
        obtain ⟨hreopened, highWater, riskBudget, hcapital⟩ :=
          opened_of_flow hok (Quantize.down_onGrid _ _) (hopened.pos.trans_le hlow) hhigh
            hopened.effectivePrincipal (fun _ => hopened.budget)
        refine ⟨⟨_, hreopened⟩, ?_, by rw [hcapital]; rfl⟩
        intro _
        rw [hcapital]
        exact ⟨rfl, before.effectivePrincipal, rfl, hopened.pos.le, hbase⟩

/-! ## The operations keep the contract -/

section Keys

variable {keys keys' : CapitalKeys}

theorem CapitalKeys.Configured.of_configuration (hconfigured : keys.Configured)
    (hsame : keys'.configuration = keys.configuration) : keys'.Configured := by
  simp only [CapitalKeys.configuration, Prod.mk.injEq] at hsame
  obtain ⟨henabled, hversion, hbase, hratio, htarget, -⟩ := hsame
  refine ⟨by rw [henabled, hconfigured.autoEnabled], by rw [hversion, hconfigured.autoVersion],
    ?_, ?_, ?_⟩
  · rw [hbase]; exact hconfigured.base
  · rw [hratio]; exact hconfigured.ratio
  · rw [hbase, hratio, htarget]; exact hconfigured.target

/-- A launched account is open under the target its configuration gives, and its
ramp aims there. -/
theorem CapitalKeys.Contract.opened (hcontract : keys.Contract)
    (hlaunch : keys.launchAuthorized = some true) :
    ∃ effective target, keys.targetPrincipal = some target ∧ keys.Opened effective target ∧
      keys.RampAims target := by
  obtain ⟨-, hramp, effective, target, heffective, htarget, hpos, hle, hgrid, hbudget⟩ :=
    hcontract.launched hlaunch
  refine ⟨effective, target, htarget, ⟨heffective, hpos, hle, hgrid, hbudget⟩, ?_⟩
  intro hstage
  obtain ⟨haims, rampBase, target', hrampBase, htarget', hnonneg, hwithin⟩ := hramp hstage
  obtain rfl : target = target' := Option.some.inj (htarget.symm.trans htarget')
  exact ⟨haims.trans htarget, rampBase, hrampBase, hnonneg, hwithin⟩

/-- A configured account that is open under its target meets the contract. -/
theorem CapitalKeys.Configured.contract_of_opened {effective target : Decimal}
    (hconfigured : keys.Configured)
    (hlaunch : keys.launchAuthorized = some true)
    (hboth : ∃ base ratio, keys.baseCapital = some base ∧ keys.ratio = some ratio)
    (htarget : keys.targetPrincipal = some target)
    (hopened : keys.Opened effective target) (hramp : keys.RampAims target) : keys.Contract := by
  refine ⟨hconfigured, fun hnot => absurd hlaunch hnot, fun _ => ⟨hboth, ?_, ?_⟩⟩
  · intro hstage
    obtain ⟨haims, rampBase, hrampBase, hnonneg, hwithin⟩ := hramp hstage
    exact ⟨haims.trans htarget.symm, rampBase, target, hrampBase, htarget, hnonneg, hwithin⟩
  · exact ⟨effective, target, hopened.effectivePrincipal, htarget, hopened.pos, hopened.le,
      hopened.onGrid, hopened.budget⟩

theorem CapitalKeys.Configured.one_le_target (hconfigured : keys.Configured)
    (hboth : ∃ base ratio, keys.baseCapital = some base ∧ keys.ratio = some ratio) :
    ∃ target, keys.targetPrincipal = some target ∧ 1 ≤ target ∧ Quantize.OnGrid cent target := by
  obtain ⟨base, ratio, hbase, hratio⟩ := hboth
  refine ⟨_, hconfigured.target, ?_, targetPrincipal_onGrid _ _⟩
  rw [hbase, hratio]
  exact one_le_targetPrincipal (hconfigured.base base hbase).1 (hconfigured.ratio ratio hratio).1

end Keys

/-- A value that was given or kept is in range when both are. -/
theorem mem_orElse {p : Decimal → Prop} {given kept : Option Decimal}
    (hgiven : ∀ value ∈ given, p value) (hkept : ∀ value ∈ kept, p value) :
    ∀ value ∈ (given <|> kept), p value := by
  cases given with
  | none => simpa using hkept
  | some value => simpa using hgiven

private theorem JHAutoService.setOperatorConfig_contract {config : StrategyConfig}
    {env : AutoEnvironment ι} {repo repo' : Repository ι} {base ratio : Option Decimal}
    (hok : JHAutoService.setOperatorConfig config env repo base ratio = .ok repo')
    (hcontract : repo.system.capital.Contract)
    (hbase : ∀ value ∈ base, minBaseCapital ≤ value ∧ value ≤ maxBaseCapital)
    (hratio : ∀ value ∈ ratio, minRatio ≤ value ∧ value ≤ maxRatio) :
    repo'.system.capital.Contract := by
  simp only [JHAutoService.setOperatorConfig, Except.bind_eq_ok, raiseIf_eq_ok] at hok
  obtain ⟨_, -, _, -, hok⟩ := hok
  set newBase := base <|> repo.system.settings.baseCapital with hnewBase
  set newRatio := ratio <|> repo.system.settings.ratio with hnewRatio
  set configured := repo.setSystem { repo.system with
    baseCapital := newBase
    ratio := newRatio
    targetPrincipal := some (targetPrincipal newBase newRatio)
    configRevision := some (repo.system.configRevision.getD 0 + 1) } with hconfiguredRepo
  have hconfigured : configured.system.capital.Configured :=
    ⟨hcontract.autoEnabled, hcontract.autoVersion, mem_orElse hbase hcontract.base,
      mem_orElse hratio hcontract.ratio, rfl⟩
  split at hok
  · -- Launched: the principal is retargeted.
    rename_i hauthorized
    have hlaunch : repo.system.launchAuthorized = some true := of_decide_eq_true hauthorized
    obtain ⟨effective, target, htarget, hopened, hramp⟩ := hcontract.opened hlaunch
    obtain ⟨oldBase, oldRatio, holdBase, holdRatio⟩ := (hcontract.launched hlaunch).configured
    have hboth : ∃ b r, newBase = some b ∧ newRatio = some r := by
      have hb : repo.system.settings.baseCapital = some oldBase := holdBase
      have hr : repo.system.settings.ratio = some oldRatio := holdRatio
      rw [hnewBase, hnewRatio, hb, hr]
      cases base <;> cases ratio <;> exact ⟨_, _, rfl, rfl⟩
    obtain ⟨newTarget, hnewTarget, hone, hgrid⟩ := hconfigured.one_le_target hboth
    obtain rfl : targetPrincipal newBase newRatio = newTarget := Option.some.inj hnewTarget
    have hbeforeEffective : repo.system.settings.effectivePrincipal = effective := by
      have heffective : repo.system.effectivePrincipal = some effective := hopened.effectivePrincipal
      simp [SystemState.settings, heffective]
    have hbeforeTarget : repo.system.settings.targetPrincipal = target := by
      have htarget' : repo.system.targetPrincipal = some target := htarget
      simp [SystemState.settings, htarget']
    have hreopened := retargetLivePrincipal_reopened hok
      (by rw [hbeforeEffective, hbeforeTarget]
          exact ⟨hopened.effectivePrincipal, hopened.pos, hopened.le, hopened.onGrid,
            hopened.budget⟩)
      (by rw [hbeforeTarget]; exact hramp) hgrid (zero_lt_one.trans_le hone)
    obtain ⟨opened, hopened'⟩ := hreopened.opened
    have hsame := hreopened.configuration
    refine (hconfigured.of_configuration hsame).contract_of_opened ?_ ?_ ?_ hopened'
      hreopened.ramp
    all_goals
      simp only [CapitalKeys.configuration, Prod.mk.injEq] at hsame
      obtain ⟨-, -, hsameBase, hsameRatio, hsameTarget, hsameLaunch⟩ := hsame
    · exact hsameLaunch.trans hlaunch
    · rw [hsameBase, hsameRatio]; exact hboth
    · exact hsameTarget
  · -- Not launched: nothing is open.
    rename_i hauthorized
    obtain rfl := Except.ok.inj hok
    have hlaunch : repo.system.launchAuthorized ≠ some true := by
      simpa [SystemState.settings] using hauthorized
    exact ⟨⟨hconfigured.autoEnabled, hconfigured.autoVersion, hconfigured.base, hconfigured.ratio,
      hconfigured.target⟩, fun _ => hcontract.notLaunched hlaunch,
      fun hauthorized' => absurd hauthorized' hlaunch⟩

private theorem HardenedProductionJHAutoService.setOperatorConfig_contract
    {config : StrategyConfig} {env : AutoEnvironment ι} {repo repo' : Repository ι}
    {base ratio : Option Decimal}
    (hok : HardenedProductionJHAutoService.setOperatorConfig config env repo base ratio = .ok repo')
    (hcontract : repo.system.capital.Contract)
    (hbase : ∀ value ∈ base, minBaseCapital ≤ value ∧ value ≤ maxBaseCapital)
    (hratio : ∀ value ∈ ratio, minRatio ≤ value ∧ value ≤ maxRatio) :
    repo'.system.capital.Contract := by
  unfold HardenedProductionJHAutoService.setOperatorConfig at hok
  -- Both branches change only flags around the base class.
  split at hok
  · simp only [Except.bind_eq_ok] at hok
    obtain ⟨updated, hupdated, _, -, hresult⟩ := hok
    obtain rfl := Except.ok.inj hresult
    have hkept := JHAutoService.setOperatorConfig_contract hupdated hcontract hbase hratio
    exact hkept
  · simp only [Except.bind_eq_ok] at hok
    obtain ⟨updated, hupdated, _, -, hresult⟩ := hok
    obtain rfl := Except.ok.inj hresult
    exact JHAutoService.setOperatorConfig_contract hupdated hcontract hbase hratio

theorem setOperatorConfig_contract {config : StrategyConfig} {env : AutoEnvironment ι}
    {repo repo' : Repository ι} {base ratio : Option Decimal}
    (hok : FinalOpsProductionJHAutoService.setOperatorConfig config env repo base ratio = .ok repo')
    (hcontract : repo.system.capital.Contract)
    (hbase : ∀ value ∈ base, minBaseCapital ≤ value ∧ value ≤ maxBaseCapital)
    (hratio : ∀ value ∈ ratio, minRatio ≤ value ∧ value ≤ maxRatio) :
    repo'.system.capital.Contract := by
  simp only [FinalOpsProductionJHAutoService.setOperatorConfig, Except.bind_eq_ok] at hok
  obtain ⟨updated, hupdated, hresult⟩ := hok
  have hkept := HardenedProductionJHAutoService.setOperatorConfig_contract hupdated hcontract
    hbase hratio
  split at hresult <;> obtain rfl := Except.ok.inj hresult <;> exact hkept

theorem setBaseCapital_contract {config : StrategyConfig} {env : AutoEnvironment ι}
    {repo repo' : Repository ι} {value : Decimal}
    (hok : setBaseCapital config env repo value = .ok repo')
    (hcontract : repo.system.capital.Contract) : repo'.system.capital.Contract := by
  simp only [setBaseCapital, Except.bind_eq_ok] at hok
  obtain ⟨base, hnormalized, hok⟩ := hok
  refine setOperatorConfig_contract hok hcontract ?_ (by simp)
  intro given hgiven
  obtain rfl := Option.some.inj hgiven
  exact normalizeMoney_ok hnormalized

theorem setRatioPercent_contract {config : StrategyConfig} {env : AutoEnvironment ι}
    {repo repo' : Repository ι} {percent : Decimal}
    (hok : setRatioPercent config env repo percent = .ok repo')
    (hcontract : repo.system.capital.Contract) : repo'.system.capital.Contract := by
  simp only [setRatioPercent, Except.bind_eq_ok] at hok
  obtain ⟨ratio, hnormalized, hok⟩ := hok
  refine setOperatorConfig_contract hok hcontract (by simp) ?_
  intro given hgiven
  obtain rfl := Option.some.inj hgiven
  exact normalizeRatioPercent_ok hnormalized

/-! ### Launch -/

/-- The preflight leaves the capital alone, and a first launch finds a full
configuration. -/
theorem JHAutoService.preflightLaunch_ok {env : AutoEnvironment ι} {repo repo' : Repository ι}
    (hok : JHAutoService.preflightLaunch env repo = .ok repo') :
    repo'.system.capital = repo.system.capital ∧ repo.system.settings.configured = true := by
  simp only [JHAutoService.preflightLaunch, Except.bind_eq_ok, raiseIf_eq_ok,
    Bool.not_eq_false] at hok
  obtain ⟨_, hconfigured, hok⟩ := hok
  refine ⟨?_, hconfigured⟩
  split at hok
  · obtain rfl := Except.ok.inj hok
    rfl
  · simp only [Except.bind_eq_ok] at hok
    obtain ⟨_, -, _, -, ⟨reconciled, mismatches⟩, hrun, _, -, _, -, _, -, _, -, hresult⟩ := hok
    obtain rfl := Except.ok.inj hresult
    exact env.reconciliation.same_capital hrun

private theorem JHAutoService.authorizeLaunch_contract {config : StrategyConfig}
    {env : AutoEnvironment ι} {repo repo' : Repository ι}
    (hok : JHAutoService.authorizeLaunch config env repo = .ok repo')
    (hcontract : repo.system.capital.Contract) : repo'.system.capital.Contract := by
  simp only [JHAutoService.authorizeLaunch, Except.bind_eq_ok] at hok
  obtain ⟨checked, hpreflight, hok⟩ := hok
  obtain ⟨hcapital, hsettings⟩ := JHAutoService.preflightLaunch_ok hpreflight
  have hchecked : checked.system.capital.Contract := by rw [hcapital]; exact hcontract
  split at hok
  · -- A repeated launch changes nothing.
    simp only [Except.bind_eq_ok] at hok
    obtain ⟨_, -, hresult⟩ := hok
    obtain rfl := Except.ok.inj hresult
    exact hchecked
  · rename_i hauthorized
    have hnot : checked.system.launchAuthorized ≠ some true := by
      simpa [SystemState.settings] using hauthorized
    have hboth : ∃ base ratio, checked.system.baseCapital = some base ∧
        checked.system.ratio = some ratio := by
      have hbase : checked.system.baseCapital = repo.system.baseCapital :=
        congrArg CapitalKeys.baseCapital hcapital
      have hratio : checked.system.ratio = repo.system.ratio :=
        congrArg CapitalKeys.ratio hcapital
      rw [hbase, hratio]
      simp only [AutoSettings.configured, SystemState.settings, Bool.and_eq_true] at hsettings
      exact ⟨_, _, Option.some_get hsettings.1.1 |>.symm, Option.some_get hsettings.1.2 |>.symm⟩
    obtain ⟨target, htarget, hone, hgrid⟩ := hchecked.toConfigured.one_le_target hboth
    have hbefore : checked.system.settings.targetPrincipal = target := by
      have htarget' : checked.system.targetPrincipal = some target := htarget
      simp [SystemState.settings, htarget']
    rw [hbefore] at hok
    -- Half of the target is open at first, and that is at least one cent.
    have hhalf : (0 : ℚ) ≤ target * (1 / 2) := by linarith
    have hpos : 0 < Quantize.down cent (target * (1 / 2)) := by
      have hcent : ((1 : ℕ) : ℚ) * cent ≤ target * (1 / 2) := by norm_num [cent]; linarith
      calc (0 : ℚ) < ((1 : ℕ) : ℚ) * cent := by norm_num [cent]
        _ ≤ Quantize.down cent (target * (1 / 2)) := Quantize.le_down_of_le cent_pos hcent
    have hle : Quantize.down cent (target * (1 / 2)) ≤ target := by
      calc _ ≤ target * (1 / 2) := Quantize.down_le cent_pos hhalf
        _ ≤ target := by linarith
    obtain ⟨hopened, highWater, riskBudget, hlaunched⟩ :=
      opened_of_flow hok (Quantize.down_onGrid _ _) hpos hle (hchecked.notLaunched hnot)
        (fun hzero => absurd hzero hpos.ne')
    have hconfigured : repo'.system.capital.Configured := by
      rw [hlaunched]
      exact ⟨hchecked.autoEnabled, hchecked.autoVersion, hchecked.base, hchecked.ratio,
        hchecked.target⟩
    refine hconfigured.contract_of_opened (by rw [hlaunched]; rfl) (by rw [hlaunched]; exact hboth)
      (by rw [hlaunched]; exact htarget) hopened ?_
    intro _
    rw [hlaunched]
    exact ⟨rfl, 0, rfl, le_rfl, zero_le_one.trans hone⟩

theorem authorizeLaunch_contract {config : StrategyConfig} {env : AutoEnvironment ι}
    {repo repo' : Repository ι}
    (hok : FinalOpsProductionJHAutoService.authorizeLaunch config env repo = .ok repo')
    (hcontract : repo.system.capital.Contract) : repo'.system.capital.Contract := by
  simp only [FinalOpsProductionJHAutoService.authorizeLaunch, Except.bind_eq_ok] at hok
  obtain ⟨launched, hlaunched, hresult⟩ := hok
  have hkept := JHAutoService.authorizeLaunch_contract hlaunched hcontract
  split at hresult <;> obtain rfl := Except.ok.inj hresult <;> exact hkept

/-! ### The ramp -/

theorem rampFraction_ok {stage : ℕ} {fraction : Decimal} (hok : rampFraction stage = .ok fraction) :
    1 / 2 ≤ fraction ∧ fraction ≤ 1 := by
  unfold rampFraction at hok
  split at hok
  · obtain rfl := Except.ok.inj hok; norm_num
  · obtain rfl := Except.ok.inj hok; norm_num
  · obtain rfl := Except.ok.inj hok; norm_num
  · cases hok

/-- Every stage opens a positive principal within the target. -/
private theorem stage_principal {rampBase target fraction : Decimal} (hbase : 0 ≤ rampBase)
    (hle : rampBase ≤ target) (hone : 1 ≤ target) (hhalf : 1 / 2 ≤ fraction)
    (hfraction : fraction ≤ 1) :
    0 < Quantize.down cent (rampBase + (target - rampBase) * fraction) ∧
      Quantize.down cent (rampBase + (target - rampBase) * fraction) ≤ target := by
  have hgap : 0 ≤ target - rampBase := by linarith
  have hlow : (1 : ℚ) / 2 ≤ rampBase + (target - rampBase) * fraction := by
    calc (1 : ℚ) / 2 ≤ rampBase + (target - rampBase) * (1 / 2) := by linarith
      _ ≤ rampBase + (target - rampBase) * fraction := by gcongr
  have hcent : ((1 : ℕ) : ℚ) * cent ≤ rampBase + (target - rampBase) * fraction := by
    norm_num [cent]; linarith
  constructor
  · calc (0 : ℚ) < ((1 : ℕ) : ℚ) * cent := by norm_num [cent]
      _ ≤ _ := Quantize.le_down_of_le cent_pos hcent
  · calc _ ≤ rampBase + (target - rampBase) * fraction :=
        Quantize.down_le cent_pos (by linarith)
      _ ≤ rampBase + (target - rampBase) * 1 := by gcongr
      _ = target := by ring

/-- The gates of `advance_ramp_if_ready`. -/
structure Repository.RampOpen (repo : Repository ι) : Prop where
  launchAuthorized : repo.system.launchAuthorized = some true
  stage : repo.system.settings.rampStage ≠ 0
  latch : repo.system.operatorHaltLatched ≠ some true
  quarantine : repo.system.startupQuarantine ≠ some true
  autoState : repo.system.autoState = some .running
  operatorBuyHalt : repo.system.operatorBuyHalt = some false
  safeMode : repo.portfolioSafeMode = false
  openOrders : repo.openOrders = []

/-- The date the stage was first seen filled: the stored one, or today's. -/
def Repository.filledDate (repo : Repository ι) (env : AutoEnvironment ι) : Date :=
  repo.system.rampStageFilledTradeDate.getD env.latestCompletedDate

/-- What a look at the ramp does. -/
inductive JHAutoService.RampEffect (config : StrategyConfig) (env : AutoEnvironment ι)
    (repo : Repository ι) : Repository ι × Bool → Prop
  | idle : RampEffect config env repo (repo, false)
  | withdrawn (gates : repo.RampOpen) (unfilled : repo.stageFilled env = false) :
      RampEffect config env repo
        (repo.setSystem { repo.system with rampStageFilledTradeDate := none }, false)
  | observed (gates : repo.RampOpen) (filled : repo.stageFilled env = true) :
      RampEffect config env repo (repo.setSystem
        { repo.system with rampStageFilledTradeDate := some (repo.filledDate env) }, false)
  | finished (gates : repo.RampOpen) (filled : repo.stageFilled env = true)
      (last : repo.system.settings.rampStage = 3) :
      RampEffect config env repo (repo.setSystem { repo.system with
        rampStage := some 0
        rampStageFilledTradeDate := none
        autoState := some .running }, true)
  | advanced {fraction : Decimal} {flowed : Repository ι} (gates : repo.RampOpen)
      (filled : repo.stageFilled env = true)
      (sessions : minimumStageSessions ≤ env.completedSessionsSince (repo.filledDate env))
      (fraction_eq : rampFraction (repo.system.settings.rampStage + 1) = .ok fraction)
      (flow : ProductionJHAutoService.applyExternalFlow config env.quotes
        (repo.setSystem { repo.system with
          rampStage := some (repo.system.settings.rampStage + 1)
          rampStageFilledTradeDate := none })
        (Quantize.down cent (repo.system.settings.rampBasePrincipal +
          (repo.system.settings.rampTargetPrincipal - repo.system.settings.rampBasePrincipal)
            * fraction))
        (.capitalRampStage (repo.system.settings.rampStage + 1)) = .ok flowed) :
      RampEffect config env repo (flowed, true)

theorem JHAutoService.advanceRampIfReady_effect {config : StrategyConfig}
    {env : AutoEnvironment ι} {repo : Repository ι} {result : Repository ι × Bool}
    (hok : JHAutoService.advanceRampIfReady config env repo = .ok result) :
    RampEffect config env repo result := by
  simp only [JHAutoService.advanceRampIfReady] at hok
  split_ifs at hok with hoff hgates hbusy hfilled hlast hsessions
  · obtain rfl := Except.ok.inj hok
    exact .idle
  · obtain rfl := Except.ok.inj hok
    exact .idle
  · obtain rfl := Except.ok.inj hok
    exact .idle
  all_goals
    have hopen : repo.RampOpen := by
      simp only [not_or, Bool.not_eq_false, Bool.not_eq_true, not_not] at hoff hgates hbusy
      obtain ⟨hlaunch, hstage⟩ := hoff
      obtain ⟨hlatch, hquarantine, hstate, hhalt⟩ := hgates
      refine ⟨of_decide_eq_true hlaunch, hstage, of_decide_eq_false hlatch,
        of_decide_eq_false hquarantine, ?_, hhalt, hbusy.1, hbusy.2⟩
      simp only [SystemState.settings] at hstate
      cases hkey : repo.system.autoState with
      | none => rw [hkey] at hstate; cases hstate
      | some state => rw [hkey] at hstate; exact congrArg some hstate
  · obtain rfl := Except.ok.inj hok
    exact .withdrawn hopen hfilled
  all_goals rw [Bool.not_eq_false] at hfilled
  · obtain rfl := Except.ok.inj hok
    exact .finished hopen hfilled hlast
  · obtain rfl := Except.ok.inj hok
    exact .observed hopen hfilled
  · simp only [Except.bind_eq_ok] at hok
    obtain ⟨fraction, hfraction, flowed, hflow, hresult⟩ := hok
    obtain rfl := Except.ok.inj hresult
    exact .advanced hopen hfilled (not_lt.mp hsessions) hfraction hflow

private theorem JHAutoService.advanceRampIfReady_contract {config : StrategyConfig}
    {env : AutoEnvironment ι} {repo : Repository ι} {result : Repository ι × Bool}
    (hok : JHAutoService.advanceRampIfReady config env repo = .ok result)
    (hcontract : repo.system.capital.Contract) : result.1.system.capital.Contract := by
  cases JHAutoService.advanceRampIfReady_effect hok with
  | idle => exact hcontract
  | withdrawn => exact hcontract
  | observed => exact hcontract
  | finished gates =>
      -- The last stage is over: the ramp is dropped, the principal stays.
      obtain ⟨effective, target, htarget, hopened, -⟩ := hcontract.opened gates.launchAuthorized
      refine CapitalKeys.Configured.contract_of_opened ⟨hcontract.autoEnabled,
        hcontract.autoVersion, hcontract.base, hcontract.ratio, hcontract.target⟩
        gates.launchAuthorized (hcontract.launched gates.launchAuthorized).configured
        htarget ⟨hopened.effectivePrincipal, hopened.pos, hopened.le, hopened.onGrid,
          hopened.budget⟩ ?_
      intro hzero
      exact absurd rfl hzero
  | @advanced fraction flowed gates filled sessions fraction_eq flow =>
      -- A further fraction of the way from the base of the ramp to its target.
      obtain ⟨effective, target, htarget, hopened, hramp⟩ :=
        hcontract.opened gates.launchAuthorized
      have hboth := (hcontract.launched gates.launchAuthorized).configured
      obtain ⟨haims, rampBase, hrampBase, hnonneg, hwithin⟩ := hramp gates.stage
      obtain ⟨target', htarget', hone, -⟩ := hcontract.toConfigured.one_le_target hboth
      obtain rfl : target = target' := Option.some.inj (htarget.symm.trans htarget')
      obtain ⟨hhalf, hfull⟩ := rampFraction_ok fraction_eq
      obtain ⟨hpos, hle⟩ := stage_principal hnonneg hwithin hone hhalf hfull
      have hbase : repo.system.settings.rampBasePrincipal = rampBase := by
        have hkey : repo.system.rampBasePrincipal = some rampBase := hrampBase
        simp [SystemState.settings, hkey]
      have haims' : repo.system.settings.rampTargetPrincipal = target := by
        have hkey : repo.system.rampTargetPrincipal = some target := haims
        simp [SystemState.settings, hkey]
      rw [hbase, haims'] at flow
      obtain ⟨hreopened, highWater, riskBudget, hcapital⟩ :=
        opened_of_flow flow (Quantize.down_onGrid _ _) hpos hle hopened.effectivePrincipal
          (fun _ => hopened.budget)
      refine CapitalKeys.Configured.contract_of_opened ?_ ?_ ?_ ?_ hreopened ?_
      · rw [hcapital]
        exact ⟨hcontract.autoEnabled, hcontract.autoVersion, hcontract.base, hcontract.ratio,
          hcontract.target⟩
      · rw [hcapital]; exact gates.launchAuthorized
      · rw [hcapital]; exact hboth
      · rw [hcapital]; exact htarget
      · intro _
        rw [hcapital]
        exact ⟨haims, rampBase, hrampBase, hnonneg, hwithin⟩

theorem advanceRampIfReady_contract {config : StrategyConfig} {env : AutoEnvironment ι}
    {repo : Repository ι} {result : Repository ι × Bool}
    (hok : FinalOpsProductionJHAutoService.advanceRampIfReady config env repo = .ok result)
    (hcontract : repo.system.capital.Contract) : result.1.system.capital.Contract := by
  simp only [FinalOpsProductionJHAutoService.advanceRampIfReady, Except.bind_eq_ok] at hok
  obtain ⟨advanced, hadvanced, hresult⟩ := hok
  have hkept := JHAutoService.advanceRampIfReady_contract hadvanced hcontract
  split at hresult <;> obtain rfl := Except.ok.inj hresult <;> exact hkept

/-! ### Equity observations -/

theorem recordV322Equity_contract {repo repo' : Repository ι} {markedEquity : Decimal}
    (hok : repo.recordV322Equity markedEquity = .ok repo')
    (hcontract : repo.system.capital.Contract) : repo'.system.capital.Contract := by
  simp only [Repository.recordV322Equity, Except.bind_eq_ok] at hok
  obtain ⟨system, hrecorded, hresult⟩ := hok
  obtain rfl := Except.ok.inj hresult
  unfold SystemState.recordV322Equity at hrecorded
  split at hrecorded
  · cases hrecorded
  · split at hrecorded
    · cases hrecorded
    · rename_i initial hinitial
      obtain rfl := Except.ok.inj hrecorded
      refine ⟨⟨hcontract.autoEnabled, hcontract.autoVersion, hcontract.base, hcontract.ratio,
        hcontract.target⟩, hcontract.notLaunched, ?_⟩
      intro hlaunch
      obtain ⟨hboth, hramp, effective, target, heffective, htarget, hpos, hle, hgrid, -⟩ :=
        hcontract.launched hlaunch
      -- The baseline of the observation is the principal that is open now.
      have hbaseline : initial = effective := by
        have henabled : repo.system.isAutoEnabled = true := decide_eq_true hcontract.autoEnabled
        have heffective' : repo.system.effectivePrincipal = some effective := heffective
        rw [SystemState.effectiveInitialCapital, if_pos henabled, heffective'] at hinitial
        simp only [if_neg (not_lt.mpr hpos.le)] at hinitial
        exact (Except.ok.inj hinitial).symm
      subst hbaseline
      refine ⟨hboth, hramp, initial, target, heffective, htarget, hpos, hle, hgrid, _, _, rfl, rfl,
        (le_max_right _ _).trans (le_max_right _ _), le_max_left _ _, max_le ?_ (min_le_left _ _)⟩
      have hgain : 0 ≤ max 0
          (max (repo.system.highWaterEquity.getD initial) (max markedEquity initial) - initial) :=
        le_max_left _ _
      linarith

/-! ## Reachable accounts -/

/-- No AUTO capital key has been written yet: an empty file, or the database of a
version without AUTO. -/
structure SystemState.BeforeAuto (system : SystemState) : Prop where
  baseCapital : system.baseCapital = none
  ratio : system.ratio = none
  targetPrincipal : system.targetPrincipal = none
  effectivePrincipal : system.effectivePrincipal = none
  launchAuthorized : system.launchAuthorized = none

theorem SystemState.BeforeAuto.bootstrap_contract {system : SystemState}
    (hbefore : system.BeforeAuto) : system.bootstrap.capital.Contract := by
  refine ⟨⟨rfl, rfl, ?_, ?_, ?_⟩, ?_, ?_⟩
  · simp [SystemState.capital, SystemState.bootstrap, hbefore.baseCapital]
  · simp [SystemState.capital, SystemState.bootstrap, hbefore.ratio]
  · simp [SystemState.capital, SystemState.bootstrap, hbefore.baseCapital,
      hbefore.targetPrincipal, JdHoldings.targetPrincipal]
  · simp [SystemState.capital, SystemState.bootstrap, hbefore.effectivePrincipal]
  · simp [SystemState.capital, SystemState.bootstrap, hbefore.launchAuthorized]

/-- A restart finds every key in place. -/
theorem bootstrap_contract {system : SystemState} (hcontract : system.capital.Contract) :
    system.bootstrap.capital.Contract := by
  have hstage : (system.bootstrap.rampStage).getD 0 = system.rampStage.getD 0 := by
    cases hkey : system.rampStage <;> simp [SystemState.bootstrap, hkey]
  have hlaunchKey : system.bootstrap.launchAuthorized = some true ↔
      system.launchAuthorized = some true := by
    cases hkey : system.launchAuthorized <;> simp [SystemState.bootstrap, hkey]
  refine ⟨⟨rfl, rfl, hcontract.base, hcontract.ratio, ?_⟩, ?_, ?_⟩
  · have htarget : (system.targetPrincipal <|> some 0)
        = (some (targetPrincipal system.baseCapital system.ratio) <|> some 0) :=
      congrArg (fun kept => kept <|> some 0) hcontract.target
    exact htarget
  · intro hnot
    have heffective : system.effectivePrincipal = some 0 :=
      hcontract.notLaunched fun hlaunch => hnot (hlaunchKey.mpr hlaunch)
    simp [SystemState.capital, SystemState.bootstrap, heffective]
  · intro hlaunch
    obtain ⟨hboth, hramp, effective, target, heffective, htarget', hprincipal⟩ :=
      hcontract.launched (hlaunchKey.mp hlaunch)
    have heffective' : system.effectivePrincipal = some effective := heffective
    have htarget'' : system.targetPrincipal = some target := htarget'
    refine ⟨hboth, ?_, effective, target, ?_, ?_, hprincipal⟩
    · intro hrunning
      have hrunning' : system.rampStage.getD 0 ≠ 0 := hstage ▸ hrunning
      obtain ⟨haims, rampBase, target', hrampBase, htargetEq, hbounds⟩ := hramp hrunning'
      have hrampBase' : system.rampBasePrincipal = some rampBase := hrampBase
      have haims' : system.rampTargetPrincipal = system.targetPrincipal := haims
      refine ⟨?_, rampBase, target', ?_, ?_, hbounds⟩
      · simp [SystemState.capital, SystemState.bootstrap, haims', htarget'']
      · simp [SystemState.capital, SystemState.bootstrap, hrampBase']
      · have htargetEq' : system.targetPrincipal = some target' := htargetEq
        simp [SystemState.capital, SystemState.bootstrap, htargetEq']
    · simp [SystemState.capital, SystemState.bootstrap, heffective']
    · simp [SystemState.capital, SystemState.bootstrap, htarget'']

/-- The transactions that move the capital. -/
inductive CapitalOp where
  | setBaseCapital (value : Decimal)
  | setRatioPercent (percent : Decimal)
  | authorizeLaunch
  | advanceRampIfReady
  | recordV322Equity (markedEquity : Decimal)

/-- One transaction; an exception rolls it back. -/
def CapitalOp.exec (config : StrategyConfig) (env : AutoEnvironment ι) (repo : Repository ι) :
    CapitalOp → Py (Repository ι)
  | .setBaseCapital value => JdHoldings.setBaseCapital config env repo value
  | .setRatioPercent percent => JdHoldings.setRatioPercent config env repo percent
  | .authorizeLaunch => FinalOpsProductionJHAutoService.authorizeLaunch config env repo
  | .advanceRampIfReady =>
      (FinalOpsProductionJHAutoService.advanceRampIfReady config env repo).map Prod.fst
  | .recordV322Equity markedEquity => repo.recordV322Equity markedEquity

theorem CapitalOp.exec_advanceRamp {config : StrategyConfig} {env : AutoEnvironment ι}
    {repo repo' : Repository ι}
    (hok : CapitalOp.exec config env repo .advanceRampIfReady = .ok repo') :
    ∃ result, FinalOpsProductionJHAutoService.advanceRampIfReady config env repo = .ok result ∧
      result.1 = repo' := by
  simp only [exec] at hok
  cases hadvance : FinalOpsProductionJHAutoService.advanceRampIfReady config env repo with
  | error error => rw [hadvance] at hok; cases hok
  | ok result =>
      rw [hadvance] at hok
      exact ⟨result, rfl, Except.ok.inj hok⟩

theorem CapitalOp.exec_contract {config : StrategyConfig} {env : AutoEnvironment ι}
    {repo repo' : Repository ι} {op : CapitalOp} (hok : op.exec config env repo = .ok repo')
    (hcontract : repo.system.capital.Contract) : repo'.system.capital.Contract := by
  cases op with
  | setBaseCapital value => exact setBaseCapital_contract hok hcontract
  | setRatioPercent percent => exact setRatioPercent_contract hok hcontract
  | authorizeLaunch => exact authorizeLaunch_contract hok hcontract
  | advanceRampIfReady =>
      obtain ⟨result, hadvance, rfl⟩ := exec_advanceRamp hok
      exact advanceRampIfReady_contract hadvance hcontract
  | recordV322Equity markedEquity => exact recordV322Equity_contract hok hcontract

/-- The repositories of the running program: the capital transactions in any order,
each in an environment of its own, among anything else that writes no capital key,
with restarts. -/
inductive CapitalReachable (config : StrategyConfig) : Repository ι → Prop
  | bootstrap {repo : Repository ι} (before : repo.system.BeforeAuto) :
      CapitalReachable config (repo.setSystem repo.system.bootstrap)
  | restart {repo : Repository ι} (reached : CapitalReachable config repo) :
      CapitalReachable config (repo.setSystem repo.system.bootstrap)
  | operation {repo repo' : Repository ι} (reached : CapitalReachable config repo)
      (env : AutoEnvironment ι) (op : CapitalOp) (committed : op.exec config env repo = .ok repo') :
      CapitalReachable config repo'
  | elsewhere {repo repo' : Repository ι} (reached : CapitalReachable config repo)
      (same : repo'.system.capital = repo.system.capital) : CapitalReachable config repo'

theorem CapitalReachable.contract {config : StrategyConfig} {repo : Repository ι}
    (hreached : CapitalReachable config repo) : repo.system.capital.Contract := by
  induction hreached with
  | bootstrap before => exact before.bootstrap_contract
  | restart _ ih => exact bootstrap_contract ih
  | operation _ env op committed ih => exact op.exec_contract committed ih
  | elsewhere _ same ih => rw [same]; exact ih

/-- The contract is what the numeric clauses of the live BUY guard ask for. -/
theorem CapitalKeys.Contract.requireNumbers {system : SystemState}
    (hcontract : system.capital.Contract) (hlaunch : system.launchAuthorized = some true) :
    system.guardView.requireNumbers = .ok () := by
  obtain ⟨⟨base, ratio, hbase, hratio⟩, -, effective, target, heffective, htarget, hpos, hle, -,
    highWater, riskBudget, hhighWater, hrisk, hhwm, hnonneg, hbudget⟩ := hcontract.launched hlaunch
  have hbaseRange := hcontract.base base hbase
  have hratioRange := hcontract.ratio ratio hratio
  have hexpected : target = Quantize.down cent (base * ratio) := by
    have hgiven := hcontract.target
    rw [htarget, hbase, hratio] at hgiven
    exact Option.some.inj hgiven
  simp only [SystemState.capital] at hbase hratio heffective htarget hhighWater hrisk
  simp only [GuardView.requireNumbers, SystemState.guardView, hbase, hratio, htarget, heffective,
    hhighWater, hrisk, requireDecimal, Except.bind_eq_ok, raiseIf_eq_ok]
  refine ⟨base, rfl, ratio, rfl, target, rfl, effective, rfl, highWater, rfl, riskBudget, rfl,
    (), not_not.mpr hbaseRange, (), not_not.mpr hratioRange, (), not_not.mpr hexpected, (), ?_, (),
    not_lt.mpr hhwm, ?_⟩
  · rintro (hzero | habove)
    · exact absurd hpos (not_lt.mpr hzero)
    · exact absurd hle (not_le.mpr habove)
  · rintro (hnegative | hexceeds)
    · exact absurd hnonneg (not_le.mpr hnegative)
    · have hfraction : V322Policy.hwmReinvestmentFraction = 3 / 4 := rfl
      rw [hfraction] at hexceeds
      have hcent := cent_pos
      linarith

/-- In every reachable repository the target principal is the base times the ratio
in whole cents, nothing is open before the launch, and afterwards the principal,
the ramp, the high-water mark and the risk budget are where the live BUY guard
wants them. -/
theorem capital_contract_of_reachable {config : StrategyConfig} {repo : Repository ι}
    (hreached : CapitalReachable config repo) :
    repo.system.targetPrincipal
        = some (targetPrincipal repo.system.baseCapital repo.system.ratio) ∧
      (repo.system.launchAuthorized ≠ some true → repo.system.effectivePrincipal = some 0) ∧
      (repo.system.launchAuthorized = some true →
        ∃ base ratio effective highWater riskBudget,
          repo.system.baseCapital = some base ∧ repo.system.ratio = some ratio ∧
          repo.system.effectivePrincipal = some effective ∧
          repo.system.highWaterEquity = some highWater ∧
          repo.system.riskBudget = some riskBudget ∧
          0 < effective ∧ effective ≤ Quantize.down cent (base * ratio) ∧
          (repo.system.rampStage.getD 0 ≠ 0 →
            repo.system.rampTargetPrincipal = repo.system.targetPrincipal) ∧
          effective ≤ highWater ∧ 0 ≤ riskBudget ∧
          riskBudget ≤ effective + 3 / 4 * max 0 (highWater - effective) ∧
          repo.system.guardView.requireNumbers = .ok ()) := by
  have hcontract := hreached.contract
  refine ⟨hcontract.target, hcontract.notLaunched, ?_⟩
  intro hlaunch
  obtain ⟨⟨base, ratio, hbase, hratio⟩, hramp, effective, target, heffective, htarget, hpos, hle,
    -, highWater, riskBudget, hhighWater, hrisk, hhwm, hnonneg, hbudget⟩ :=
    hcontract.launched hlaunch
  have hexpected : target = Quantize.down cent (base * ratio) := by
    have hgiven := hcontract.target
    rw [htarget, hbase, hratio] at hgiven
    exact Option.some.inj hgiven
  exact ⟨base, ratio, effective, highWater, riskBudget, hbase, hratio, heffective, hhighWater,
    hrisk, hpos, hexpected ▸ hle, fun hstage => (hramp hstage).1, hhwm, hnonneg, hbudget,
    hcontract.requireNumbers hlaunch⟩

/-- Transactions in one environment. -/
def CapitalOp.execAll (config : StrategyConfig) (env : AutoEnvironment ι) :
    List CapitalOp → Repository ι → Py (Repository ι)
  | [], repo => .ok repo
  | op :: ops, repo => do
      let repo ← op.exec config env repo
      CapitalOp.execAll config env ops repo

theorem CapitalReachable.of_execAll {config : StrategyConfig} {env : AutoEnvironment ι}
    {ops : List CapitalOp} :
    ∀ {repo repo' : Repository ι}, CapitalReachable config repo →
      CapitalOp.execAll config env ops repo = .ok repo' → CapitalReachable config repo' := by
  induction ops with
  | nil =>
      intro repo repo' hreached hok
      obtain rfl := Except.ok.inj hok
      exact hreached
  | cons op ops ih =>
      intro repo repo' hreached hok
      simp only [CapitalOp.execAll, Except.bind_eq_ok] at hok
      obtain ⟨next, hnext, hrest⟩ := hok
      exact ih (.operation hreached env op hnext) hrest

/-- A broker with enough money, and no mismatch. -/
def AutoEnvironment.quiet : AutoEnvironment ℕ where
  quotes := { allocation := fun _ => .ok 1, idleCash := .ok 1 }
  reconciliation := {
    run := fun repo => .ok (repo, false)
    same_capital := by
      intro repo repo' mismatch hok
      obtain ⟨rfl, -⟩ := Prod.mk.inj (Except.ok.inj hok)
      rfl }
  buyingPower := .ok 10000
  latestCompletedDate := 0
  completedSessionsSince := fun _ => 0
  completedAutoFills := 0
  now := 0

/-- An account configured, launched, marked and cut back. -/
theorem capital_contract_of_reachable_after_reduction :
    ∃ repo : Repository ℕ, CapitalReachable .strategyYaml repo ∧
      repo.system.effectivePrincipal = some 2000 ∧
      repo.system.guardView.requireNumbers = .ok () := by
  let empty : Repository ℕ := (Repository.initial ℕ).setSystem (Repository.initial ℕ).system.bootstrap
  let ops : List CapitalOp := [.setBaseCapital 10000, .setRatioPercent 50, .authorizeLaunch,
    .recordV322Equity 2600, .setRatioPercent 20]
  have hrun : ((CapitalOp.execAll .strategyYaml .quiet ops empty).map fun repo =>
      (repo.system.effectivePrincipal, repo.system.launchAuthorized))
        = .ok (some 2000, some true) := by decide +kernel
  cases hok : CapitalOp.execAll .strategyYaml .quiet ops empty with
  | error error => rw [hok] at hrun; cases hrun
  | ok repo =>
      rw [hok] at hrun
      obtain ⟨heffective, hlaunch⟩ := Prod.mk.inj (Except.ok.inj hrun)
      have hreached : CapitalReachable .strategyYaml repo :=
        .of_execAll (.bootstrap ⟨rfl, rfl, rfl, rfl, rfl⟩) hok
      obtain ⟨-, -, hlaunched⟩ := capital_contract_of_reachable hreached
      obtain ⟨_, _, _, _, _, -, -, -, -, -, -, -, -, -, -, -, hnumbers⟩ := hlaunched hlaunch
      exact ⟨repo, hreached, heffective, hnumbers⟩

end JdHoldings

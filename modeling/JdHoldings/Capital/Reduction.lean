import JdHoldings.Capital.Contract
import JdHoldings.Ledger.Operations

/-!
# Reducing the principal

A setting whose target lies below the open principal skips the ramp: the difference is
withdrawn at once, at the value of a unit.  The withdrawal is what may be refused.  The
units outstanding may not become negative, so an account can return what it is worth and
no more; after a loss an operator who asks for more than that is turned away, and the
principal stays where it was.

## Strategy

`setOperatorConfig` is followed once, down the one path a reduction takes
(`setOperatorConfig_reduction`), and gives a two-way equation: the written repository
or the error.  Everything the path reads besides the configuration is untouched by the
writes in front of it, so that the value of a unit can be stated in the state before
the call.
-/

namespace JdHoldings

variable {ι : Type}

/-! ## What a unit is worth -/

/-- The price at which units are given back, when the account is worth `equity`. -/
def SystemState.unitPrice (system : SystemState) (equity : Decimal) : Decimal :=
  if system.accountingStartedAt.isSome then
    let units := system.performanceUnits.getD 0
    let nav := if 0 < units then equity / units else system.performanceNav.getD 1
    if nav ≤ 0 then 1 else nav
  else 1

/-- The units outstanding cover a withdrawal. -/
def SystemState.Covers (system : SystemState) (equity withdrawal : Decimal) : Prop :=
  withdrawal ≤ system.unitPrice equity * (system.performanceUnits.getD 0 + 1 / 1000000)

instance (system : SystemState) (equity withdrawal : Decimal) :
    Decidable (system.Covers equity withdrawal) :=
  inferInstanceAs (Decidable (_ ≤ _))

theorem SystemState.unitPrice_pos (system : SystemState) (equity : Decimal) :
    0 < system.unitPrice equity := by
  have hpositive : ∀ nav : Decimal, 0 < if nav ≤ 0 then 1 else nav := by
    intro nav
    by_cases hnav : nav ≤ 0
    · rw [if_pos hnav]
      norm_num
    · rw [if_neg hnav]
      exact not_le.mp hnav
  unfold unitPrice
  by_cases hstarted : system.accountingStartedAt.isSome = true
  · rw [if_pos hstarted]
    exact hpositive _
  · rw [if_neg hstarted]
    norm_num

/-- An account that is worth something covers what it is worth, and a millionth of a
unit more. -/
theorem SystemState.covers_iff_of_worth {system : SystemState} {equity withdrawal units : Decimal}
    (hstarted : system.accountingStartedAt.isSome = true)
    (hunits : system.performanceUnits = some units) (hpos : 0 < units) (hworth : 0 < equity) :
    system.Covers equity withdrawal ↔ withdrawal ≤ equity + equity / units * (1 / 1000000) := by
  have hprice : system.unitPrice equity = equity / units := by
    have hnav : ¬equity / units ≤ 0 := not_le.mpr (div_pos hworth hpos)
    simp only [unitPrice, hstarted, if_true, hunits, Option.getD_some, hpos, hnav, if_false]
  have hwhole : equity / units * units = equity := div_mul_cancel₀ equity hpos.ne'
  rw [Covers, hprice, hunits, Option.getD_some, mul_add, hwhole]

/-- The units left after a withdrawal are negative exactly if it is not covered. -/
theorem SystemState.unitsAfterFlow_lt_iff (system : SystemState) (equity withdrawal : Decimal) :
    unitsAfterFlow (system.performanceUnits.getD 0) (-withdrawal) (system.unitPrice equity)
        < -(1 / 1000000) ↔ ¬system.Covers equity withdrawal := by
  have hpos := system.unitPrice_pos equity
  rw [unitsAfterFlow, if_pos hpos, Covers, not_le, neg_div]
  constructor
  · intro hnegative
    have hless : system.performanceUnits.getD 0 + 1 / 1000000 < withdrawal / system.unitPrice equity := by
      linarith
    rw [lt_div_iff₀ hpos] at hless
    linarith
  · intro huncovered
    have hless : system.performanceUnits.getD 0 + 1 / 1000000 < withdrawal / system.unitPrice equity := by
      rw [lt_div_iff₀ hpos]
      linarith
    linarith

/-- The flow of an open account is priced at the value of a unit. -/
theorem Repository.flowBasis_of_marked {config : StrategyConfig} {repo : Repository ι}
    {quotes : Quotes} {effective equity : Decimal}
    (hmarked : repo.markedManagedEquity config quotes = .ok equity) (hpos : 0 < effective) :
    ∃ preEquity, repo.flowBasis config quotes effective (repo.system.performanceUnits.getD 0)
      = .ok (preEquity, repo.system.unitPrice equity) := by
  have hequity : 0 ≤ equity := by
    simp only [Repository.markedManagedEquity, Except.bind_eq_ok] at hmarked
    obtain ⟨cash, -, value, -, hresult⟩ := hmarked
    obtain rfl := Except.ok.inj hresult
    exact le_max_left _ _
  unfold Repository.flowBasis SystemState.unitPrice
  by_cases hstarted : repo.system.accountingStartedAt.isSome = true
  · refine ⟨equity, ?_⟩
    rw [if_pos ⟨hstarted, hpos⟩, if_pos hstarted, hmarked, Except.ok_then]
    by_cases hunits : 0 < repo.system.performanceUnits.getD 0
    · simp only [hunits, hequity, and_self, if_true]
      rfl
    · simp only [hunits, false_and, if_false]
      rfl
  · refine ⟨effective, ?_⟩
    rw [if_neg fun h => hstarted h.1, if_neg hstarted]
    rfl

/-! ## The path of a reduction -/

/-- What a reduction to `newTarget` leaves in the keys. -/
structure SystemState.Reduced (system : SystemState) (newTarget : Decimal) : Prop where
  effectivePrincipal : system.effectivePrincipal = some newTarget
  targetPrincipal : system.targetPrincipal = some newTarget
  rampStage : system.rampStage = some 0
  targetQtyGeneration : system.targetQtyGeneration = none

/-- A withdrawal writes the new principal, or it is refused. -/
theorem applyExternalFlow_reduction (config : StrategyConfig) (quotes : Quotes)
    (repo : Repository ι) {effective equity newTarget : Decimal}
    (heffective : repo.system.effectivePrincipal = some effective)
    (hmarked : repo.markedManagedEquity config quotes = .ok equity)
    (hgrid : Quantize.OnGrid cent newTarget) (hnonneg : 0 ≤ newTarget)
    (hbelow : newTarget < effective) :
    (repo.system.Covers equity (effective - newTarget) →
      ∃ preEquity nav units, ProductionJHAutoService.applyExternalFlow config quotes repo newTarget
        .capitalReduction = .ok (repo.setSystem
          (repo.system.withFlow effective newTarget preEquity nav units)).invalidateTargetGeneration) ∧
      (¬repo.system.Covers equity (effective - newTarget) →
        ProductionJHAutoService.applyExternalFlow config quotes repo newTarget .capitalReduction
          = .error (.runtime "자금 회수 후 JH AUTO 성과 단위가 음수가 됩니다")) := by
  have hsettings : repo.system.settings.effectivePrincipal = effective := by
    simp only [SystemState.settings, heffective, Option.getD_some]
  have hnew : max 0 (Quantize.halfEven cent newTarget) = newTarget := by
    rw [Quantize.halfEven_of_onGrid cent_pos hgrid, max_eq_right hnonneg]
  obtain ⟨preEquity, hbasis⟩ := repo.flowBasis_of_marked hmarked (hnonneg.trans_lt hbelow)
  have hdelta : newTarget - effective = -(effective - newTarget) := (neg_sub _ _).symm
  have hmoves : ¬newTarget - effective = 0 := fun hzero => hbelow.ne (sub_eq_zero.mp hzero)
  simp only [ProductionJHAutoService.applyExternalFlow, reduceCtorEq, and_false, if_false,
    JHAutoService.applyExternalFlow, hsettings, hnew, hmoves, hbasis]
  rw [hdelta]
  have hnegative := repo.system.unitsAfterFlow_lt_iff equity (effective - newTarget)
  constructor
  · intro hcovered
    exact ⟨preEquity, _, _, if_neg fun h => hnegative.mp h hcovered⟩
  · intro huncovered
    exact if_pos (hnegative.mpr huncovered)

/-- Before the flow a reduction writes the configuration and ends the ramp. -/
def SystemState.retargeted (system : SystemState) (newBase newRatio : Option Decimal) : SystemState :=
  { system with
    baseCapital := newBase
    ratio := newRatio
    targetPrincipal := some (JdHoldings.targetPrincipal newBase newRatio)
    configRevision := some (system.configRevision.getD 0 + 1)
    rampStage := some 0
    rampBasePrincipal := some (JdHoldings.targetPrincipal newBase newRatio)
    rampTargetPrincipal := some (JdHoldings.targetPrincipal newBase newRatio) }

/-- With nothing open, a lower target comes to its flow. -/
theorem setOperatorConfig_of_below {config : StrategyConfig} {env : AutoEnvironment ι}
    {repo : Repository ι} {base ratio : Option Decimal} {effective target : Decimal}
    (hlaunched : repo.system.launchAuthorized = some true) (hopen : repo.openOrders = [])
    (heffective : repo.system.effectivePrincipal = some effective)
    (htarget : repo.system.targetPrincipal = some target) (hwithin : effective ≤ target)
    (hbelow : targetPrincipal (base <|> repo.system.baseCapital) (ratio <|> repo.system.ratio)
      < effective) :
    JHAutoService.setOperatorConfig config env repo base ratio
      = ProductionJHAutoService.applyExternalFlow config env.quotes
          (repo.setSystem (repo.system.retargeted (base <|> repo.system.baseCapital)
            (ratio <|> repo.system.ratio)))
          (targetPrincipal (base <|> repo.system.baseCapital) (ratio <|> repo.system.ratio))
          .capitalReduction := by
  have hauthorized : repo.system.settings.launchAuthorized = true := decide_eq_true hlaunched
  have hsettings : repo.system.settings.effectivePrincipal = effective := by
    simp only [SystemState.settings, heffective, Option.getD_some]
  have hsettings' : repo.system.settings.targetPrincipal = target := by
    simp only [SystemState.settings, htarget, Option.getD_some]
  have hbase : repo.system.settings.baseCapital = repo.system.baseCapital := rfl
  have hratio : repo.system.settings.ratio = repo.system.ratio := rfl
  have hlower := hbelow.trans_le hwithin
  have hquiet : ¬(repo.system.settings.launchAuthorized = true ∧ repo.openOrders ≠ []) :=
    fun h => h.2 hopen
  have hlowered : ¬(repo.system.settings.launchAuthorized = true ∧
      repo.system.settings.targetPrincipal < targetPrincipal (base <|> repo.system.baseCapital)
        (ratio <|> repo.system.ratio) ∧ repo.system.settings.rampStage ≠ 0) := by
    rintro ⟨-, hraised, -⟩
    rw [hsettings'] at hraised
    exact absurd hlower hraised.le.not_gt
  simp only [JHAutoService.setOperatorConfig, hbase, hratio]
  rw [(raiseIf_eq_ok (u := ())).mpr hquiet, Except.ok_then, (raiseIf_eq_ok (u := ())).mpr hlowered,
    Except.ok_then, if_pos hauthorized]
  simp only [JHAutoService.retargetLivePrincipal, hsettings, hsettings']
  rw [if_neg hlower.ne, if_pos hbelow]
  rfl

/-- A configuration in range, with the principal it opens, passes the validation. -/
theorem SystemState.validateCapitalContract_of {system : SystemState}
    {base ratio effective : Decimal} (requireConfigured : Bool)
    (henabled : system.autoEnabled = some true)
    (hversion : system.autoVersion = some JdHoldings.autoVersion)
    (hbase : system.baseCapital = some base) (hratio : system.ratio = some ratio)
    (hbaseRange : minBaseCapital ≤ base ∧ base ≤ maxBaseCapital)
    (hratioRange : minRatio ≤ ratio ∧ ratio ≤ maxRatio)
    (htarget : system.targetPrincipal = some (Quantize.down cent (base * ratio)))
    (heffective : system.effectivePrincipal = some effective) (hpos : 0 < effective)
    (hwithin : effective ≤ Quantize.down cent (base * ratio)) :
    system.validateCapitalContract requireConfigured = .ok () := by
  have hconfigured : system.settings.configured = true := by
    simp only [AutoSettings.configured, settings, hbase, hratio, htarget, Option.isSome_some,
      Option.getD_some, Bool.true_and, decide_eq_true_eq]
    exact hpos.trans_le hwithin
  have hopened : ¬(system.settings.launchAuthorized = true ∧
      (system.settings.effectivePrincipal ≤ 0 ∨
        system.settings.targetPrincipal < system.settings.effectivePrincipal)) := by
    simp only [settings, heffective, htarget, Option.getD_some]
    rintro ⟨-, hzero | habove⟩
    · exact absurd hpos hzero.not_gt
    · exact absurd hwithin habove.not_ge
  have htarget' : system.settings.targetPrincipal = Quantize.down cent (base * ratio) := by
    simp only [settings, htarget, Option.getD_some]
  have hbase' : system.settings.baseCapital = some base := hbase
  have hratio' : system.settings.ratio = some ratio := hratio
  simp only [validateCapitalContract, hconfigured, if_true, hbase', hratio', Except.bind_eq_ok,
    raiseIf_eq_ok]
  exact ⟨(), not_not.mpr henabled, (), not_not.mpr hversion, (), not_not.mpr hbaseRange, (),
    not_not.mpr hratioRange, (), not_not.mpr htarget', hopened⟩

/-- With nothing open and the account valued, a change to a lower target withdraws the
difference if the units cover it, and is refused otherwise. -/
theorem setOperatorConfig_reduction {config : StrategyConfig} {env : AutoEnvironment ι}
    {repo : Repository ι} {base ratio : Option Decimal} {effective equity : Decimal}
    (hcontract : repo.system.capital.Contract)
    (hlaunched : repo.system.launchAuthorized = some true) (hopen : repo.openOrders = [])
    (hmarked : repo.markedManagedEquity config env.quotes = .ok equity)
    (hbase : ∀ value ∈ base, minBaseCapital ≤ value ∧ value ≤ maxBaseCapital)
    (hratio : ∀ value ∈ ratio, minRatio ≤ value ∧ value ≤ maxRatio)
    (heffective : repo.system.effectivePrincipal = some effective)
    (hbelow : targetPrincipal (base <|> repo.system.baseCapital) (ratio <|> repo.system.ratio)
      < effective) :
    let newTarget := targetPrincipal (base <|> repo.system.baseCapital) (ratio <|> repo.system.ratio)
    (repo.system.Covers equity (effective - newTarget) →
      ∃ repo', FinalOpsProductionJHAutoService.setOperatorConfig config env repo base ratio
          = .ok repo' ∧ repo'.system.Reduced newTarget ∧
        ∀ symbol, (repo'.core symbol).targetQty = 0) ∧
      (¬repo.system.Covers equity (effective - newTarget) →
        FinalOpsProductionJHAutoService.setOperatorConfig config env repo base ratio
          = .error (.runtime "자금 회수 후 JH AUTO 성과 단위가 음수가 됩니다")) := by
  intro newTarget
  obtain ⟨⟨oldBase, oldRatio, holdBase, holdRatio⟩, -, effective', target, heffective', htarget,
    -, hwithin, -, -⟩ := hcontract.launched hlaunched
  obtain rfl : effective = effective' := Option.some.inj (heffective.symm.trans heffective')
  obtain ⟨newBase, hnewBase⟩ : ∃ b, (base <|> repo.system.baseCapital) = some b := by
    cases base with
    | none => exact ⟨oldBase, holdBase⟩
    | some given => exact ⟨given, rfl⟩
  obtain ⟨newRatio, hnewRatio⟩ : ∃ r, (ratio <|> repo.system.ratio) = some r := by
    cases ratio with
    | none => exact ⟨oldRatio, holdRatio⟩
    | some given => exact ⟨given, rfl⟩
  -- Stored or new, both numbers are in their ranges.
  have hbaseRange := mem_orElse hbase hcontract.base newBase hnewBase
  have hratioRange := mem_orElse hratio hcontract.ratio newRatio hnewRatio
  have hnewTarget : newTarget = Quantize.down cent (newBase * newRatio) := by
    simp only [newTarget, hnewBase, hnewRatio, targetPrincipal]
  have hone : 1 ≤ newTarget := by
    rw [show newTarget = targetPrincipal (some newBase) (some newRatio) by rw [hnewTarget]; rfl]
    exact one_le_targetPrincipal hbaseRange.1 hratioRange.1
  have hpos : 0 < newTarget := one_pos.trans_le hone
  -- The change closes BUY first, which none of the numbers depends on.
  let closed := repo.setSystem { repo.system with
    operatorBuyHalt := some true
    startupQuarantine := some true
    autoState := some .configuring }
  let retargeted := closed.setSystem (closed.system.retargeted (base <|> repo.system.baseCapital)
    (ratio <|> repo.system.ratio))
  -- Below the effective principal the change is one external flow.
  have hpath : JHAutoService.setOperatorConfig config env closed base ratio
      = ProductionJHAutoService.applyExternalFlow config env.quotes retargeted newTarget
          .capitalReduction :=
    setOperatorConfig_of_below hlaunched hopen heffective htarget hwithin hbelow
  obtain ⟨hcovered, hrefused⟩ := applyExternalFlow_reduction config env.quotes retargeted
    heffective hmarked (targetPrincipal_onGrid _ _) hpos.le hbelow
  have hauthorized : repo.system.settings.launchAuthorized = true := decide_eq_true hlaunched
  constructor
  · intro hcovers
    obtain ⟨preEquity, nav, units, hflow⟩ := hcovered hcovers
    let written := (retargeted.setSystem (retargeted.system.withFlow effective newTarget preEquity nav
      units)).invalidateTargetGeneration
    have hvalid : written.system.validateCapitalContract true = .ok () :=
      SystemState.validateCapitalContract_of true hcontract.autoEnabled hcontract.autoVersion
        hnewBase hnewRatio hbaseRange hratioRange (congrArg some hnewTarget) rfl hpos
        hnewTarget.le
    -- The hardened service leaves the account quarantined and halted.
    let left := written.setSystem { written.system with
      startupQuarantine := some true
      autoState := some .autoQuarantine
      operatorBuyHalt := some true }
    have hended : ¬(0 < left.system.settings.rampStage ∧
        (repo.system.settings.rampStage ≠ left.system.settings.rampStage ∨
          repo.system.settings.rampTargetPrincipal ≠ left.system.settings.rampTargetPrincipal)) :=
      fun h => absurd h.1 (lt_irrefl 0)
    have hchanged : HardenedProductionJHAutoService.setOperatorConfig config env repo base ratio
        = .ok left := by
      simp only [HardenedProductionJHAutoService.setOperatorConfig, if_pos hauthorized]
      rw [hpath, hflow, Except.ok_then, hvalid]
      rfl
    refine ⟨left, ?_, ⟨rfl, rfl, rfl, rfl⟩, fun symbol => rfl⟩
    simp only [FinalOpsProductionJHAutoService.setOperatorConfig, hchanged, Except.ok_then]
    rw [if_neg hended]
    rfl
  · -- The flow raises, and nothing after it runs.
    intro huncovered
    simp only [FinalOpsProductionJHAutoService.setOperatorConfig,
      HardenedProductionJHAutoService.setOperatorConfig, if_pos hauthorized]
    rw [hpath, hrefused huncovered]
    rfl

/-! ## The operator setting -/

/-- What the operator sets: `/auto capital` or `/auto ratio`. -/
inductive OperatorSetting where
  | baseCapital (value : Decimal)
  | ratioPercent (percent : Decimal)
deriving DecidableEq, Repr

namespace OperatorSetting

def op : OperatorSetting → CapitalOp
  | .baseCapital value => .setBaseCapital value
  | .ratioPercent percent => .setRatioPercent percent

/-- The base and the ratio that are given, in range. -/
def normalized : OperatorSetting → Py (Option Decimal × Option Decimal)
  | .baseCapital value => (normalizeMoney value).map fun base => (some base, none)
  | .ratioPercent percent => (normalizeRatioPercent percent).map fun ratio => (none, some ratio)

/-- The target principal under the setting. -/
def newTarget (system : SystemState) (setting : OperatorSetting) : Py Decimal :=
  setting.normalized.map fun (base, ratio) =>
    targetPrincipal (base <|> system.baseCapital) (ratio <|> system.ratio)

theorem exec_op {config : StrategyConfig} {env : AutoEnvironment ι} {repo : Repository ι}
    {setting : OperatorSetting} {base ratio : Option Decimal}
    (hnormalized : setting.normalized = .ok (base, ratio)) :
    setting.op.exec config env repo
      = FinalOpsProductionJHAutoService.setOperatorConfig config env repo base ratio := by
  cases setting with
  | baseCapital value =>
      simp only [normalized] at hnormalized
      cases hbase : normalizeMoney value with
      | error error =>
          rw [hbase] at hnormalized
          cases hnormalized
      | ok amount =>
          rw [hbase] at hnormalized
          obtain ⟨rfl, rfl⟩ := Prod.mk.inj (Except.ok.inj hnormalized)
          simp only [op, CapitalOp.exec, setBaseCapital, hbase, Except.ok_then]
  | ratioPercent percent =>
      simp only [normalized] at hnormalized
      cases hratio : normalizeRatioPercent percent with
      | error error =>
          rw [hratio] at hnormalized
          cases hnormalized
      | ok amount =>
          rw [hratio] at hnormalized
          obtain ⟨rfl, rfl⟩ := Prod.mk.inj (Except.ok.inj hnormalized)
          simp only [op, CapitalOp.exec, setRatioPercent, hratio, Except.ok_then]

theorem normalized_ok {setting : OperatorSetting} {base ratio : Option Decimal}
    (hnormalized : setting.normalized = .ok (base, ratio)) :
    (∀ value ∈ base, minBaseCapital ≤ value ∧ value ≤ maxBaseCapital) ∧
      ∀ value ∈ ratio, minRatio ≤ value ∧ value ≤ maxRatio := by
  cases setting with
  | baseCapital value =>
      simp only [normalized] at hnormalized
      cases hbase : normalizeMoney value with
      | error error =>
          rw [hbase] at hnormalized
          cases hnormalized
      | ok amount =>
          rw [hbase] at hnormalized
          obtain ⟨rfl, rfl⟩ := Prod.mk.inj (Except.ok.inj hnormalized)
          refine ⟨?_, nofun⟩
          intro given hgiven
          obtain rfl := Option.some.inj hgiven
          exact normalizeMoney_ok hbase
  | ratioPercent percent =>
      simp only [normalized] at hnormalized
      cases hratio : normalizeRatioPercent percent with
      | error error =>
          rw [hratio] at hnormalized
          cases hnormalized
      | ok amount =>
          rw [hratio] at hnormalized
          obtain ⟨rfl, rfl⟩ := Prod.mk.inj (Except.ok.inj hnormalized)
          refine ⟨nofun, ?_⟩
          intro given hgiven
          obtain rfl := Option.some.inj hgiven
          exact normalizeRatioPercent_ok hratio

end OperatorSetting

/-- A reduction of a launched account with nothing open and every price at hand takes
effect at once if the units outstanding cover what it withdraws, and is refused
otherwise. -/
theorem reduction_takes_effect_iff_covered {config : StrategyConfig} {env : AutoEnvironment ι}
    {repo : Repository ι} (hreached : CapitalReachable config repo)
    (hlaunched : repo.system.launchAuthorized = some true) (hopen : repo.openOrders = [])
    {equity : Decimal} (hmarked : repo.markedManagedEquity config env.quotes = .ok equity)
    {setting : OperatorSetting} {newTarget effective : Decimal}
    (hnew : setting.newTarget repo.system = .ok newTarget)
    (heffective : repo.system.effectivePrincipal = some effective) (hbelow : newTarget < effective) :
    (repo.system.Covers equity (effective - newTarget) →
      ∃ repo', setting.op.exec config env repo = .ok repo' ∧ repo'.system.Reduced newTarget ∧
        ∀ symbol, (repo'.core symbol).targetQty = 0) ∧
      (¬repo.system.Covers equity (effective - newTarget) →
        setting.op.exec config env repo
          = .error (.runtime "자금 회수 후 JH AUTO 성과 단위가 음수가 됩니다")) := by
  cases hnormalized : setting.normalized with
  | error error =>
      rw [OperatorSetting.newTarget, hnormalized] at hnew
      cases hnew
  | ok given =>
      obtain ⟨base, ratio⟩ := given
      rw [OperatorSetting.newTarget, hnormalized] at hnew
      obtain rfl := Except.ok.inj hnew
      obtain ⟨hbase, hratio⟩ := OperatorSetting.normalized_ok hnormalized
      rw [OperatorSetting.exec_op hnormalized]
      exact setOperatorConfig_reduction hreached.contract hlaunched hopen hmarked hbase hratio
        heffective hbelow

namespace AfterLoss

/-- 10,000 USD under delegation, of which the launch opened one half. -/
def launched : Repository ℕ :=
  ((CapitalOp.execAll .strategyYaml .quiet [.setBaseCapital 10000, .setRatioPercent 100,
    .authorizeLaunch] ((Repository.initial ℕ).setSystem (Repository.initial ℕ).system.bootstrap)
    ).toOption).getD (Repository.initial ℕ)

/-- BUY is open, and 40 shares were bought at 100 USD. -/
def invested : Repository ℕ :=
  [LedgerOp.reserveBuy 10000 (.core 1 .qqq 40 100 (by decide)) 1,
    .updateOrder 1
      { status := .exact .filled, filledQty := some 40, averageFillPrice := some 100 },
    .applyCoreFill 1].foldl (LedgerOp.step .strategyYaml) { launched with
      core := Function.update launched.core .qqq { targetWeight := 1, targetQty := 40 }
      system := { launched.system with
        liveCommissioned := some true
        operatorBuyHalt := some false
        startupQuarantine := some false
        autoState := some .running } }

/-- The share now trades at `price`. -/
def quoted (price : Decimal) : AutoEnvironment ℕ :=
  { AutoEnvironment.quiet with quotes := { allocation := fun _ => .ok price, idleCash := .ok price } }

theorem launched_reachable : CapitalReachable .strategyYaml launched := by
  have hrun : ((CapitalOp.execAll .strategyYaml .quiet [.setBaseCapital 10000, .setRatioPercent 100,
      .authorizeLaunch] ((Repository.initial ℕ).setSystem (Repository.initial ℕ).system.bootstrap)
      ).map fun _ => ()) = .ok () := by decide +kernel
  unfold launched
  cases hok : CapitalOp.execAll .strategyYaml .quiet [.setBaseCapital 10000, .setRatioPercent 100,
      .authorizeLaunch] ((Repository.initial ℕ).setSystem (Repository.initial ℕ).system.bootstrap) with
  | error error =>
      rw [hok] at hrun
      cases hrun
  | ok repo => exact .of_execAll (.bootstrap ⟨rfl, rfl, rfl, rfl, rfl⟩) hok

theorem invested_reachable : CapitalReachable .strategyYaml invested :=
  .elsewhere launched_reachable (by decide +kernel)

end AfterLoss

/-- At the price the shares were bought for, the principal falls from 5,000 to 3,000. -/
theorem reduction_takes_effect_iff_covered_at_cost :
    ∃ repo', (OperatorSetting.ratioPercent 30).op.exec .strategyYaml (AfterLoss.quoted 100)
        AfterLoss.invested = .ok repo' ∧ repo'.system.Reduced 3000 ∧
      ∀ symbol, (repo'.core symbol).targetQty = 0 := by
  have hmarked : AfterLoss.invested.markedManagedEquity .strategyYaml (AfterLoss.quoted 100).quotes
      = .ok 4996 := by decide +kernel
  have heffective : AfterLoss.invested.system.effectivePrincipal = some 5000 := by decide +kernel
  exact (reduction_takes_effect_iff_covered AfterLoss.invested_reachable (by decide +kernel)
    (by decide +kernel) hmarked (by decide +kernel) heffective (by decide +kernel)).1
      (by decide +kernel)

/-- At a tenth of it, the account is worth less than the 2,000 to withdraw, and the
reduction is refused. -/
theorem reduction_refused_after_loss :
    CapitalReachable .strategyYaml AfterLoss.invested ∧
      AfterLoss.invested.system.launchAuthorized = some true ∧
      AfterLoss.invested.openOrders = [] ∧
      AfterLoss.invested.markedManagedEquity .strategyYaml (AfterLoss.quoted 10).quotes = .ok 1396 ∧
      AfterLoss.invested.system.effectivePrincipal = some 5000 ∧
      (OperatorSetting.ratioPercent 30).newTarget AfterLoss.invested.system = .ok 3000 ∧
      (OperatorSetting.ratioPercent 30).op.exec .strategyYaml (AfterLoss.quoted 10) AfterLoss.invested
        = .error (.runtime "자금 회수 후 JH AUTO 성과 단위가 음수가 됩니다") := by
  have hopen : AfterLoss.invested.openOrders = [] := by decide +kernel
  have hrefused : ((OperatorSetting.ratioPercent 30).op.exec .strategyYaml (AfterLoss.quoted 10)
      AfterLoss.invested).map (fun _ => ())
        = .error (.runtime "자금 회수 후 JH AUTO 성과 단위가 음수가 됩니다") := by decide +kernel
  refine ⟨AfterLoss.invested_reachable, by decide +kernel, hopen, by decide +kernel,
    by decide +kernel, by decide +kernel, ?_⟩
  cases hexec : (OperatorSetting.ratioPercent 30).op.exec .strategyYaml (AfterLoss.quoted 10)
      AfterLoss.invested with
  | error error =>
      rw [hexec] at hrefused
      exact congrArg Except.error (Except.error.inj hrefused)
  | ok repo =>
      rw [hexec] at hrefused
      cases hrefused

end JdHoldings

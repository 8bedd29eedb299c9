import JdHoldings.Application.JhAutoGuard

/-!
# JH AUTO

Capital control of the automated account: how much principal the operator
delegates, how it is opened in stages, and the unit accounting that keeps
external flows out of the performance.

The service is a stack of three classes.  `JHAutoService` holds the arithmetic,
`HardenedProductionJHAutoService` closes BUY around a live capital change and
validates the result, and `FinalOpsProductionJHAutoService`, the one that runs in
production, makes the whole change one transaction under the BUY lock.  Where a
method is overridden, the definition below calls the override that dispatch
selects in production (`_apply_external_flow`, `_stage_filled`).

Because each operator change is one transaction, an exception anywhere in it
leaves the repository as it was; the definitions return it as an error.  Events,
notifications, active signals and the ramp start date are not part of the model:
nothing here reads them.
-/

namespace JdHoldings

variable {ι : Type}

/-! ## The outside world -/

/-- The keys that carry the delegated capital. -/
structure CapitalKeys where
  autoEnabled : Option Bool
  autoVersion : Option String
  baseCapital : Option Decimal
  ratio : Option Decimal
  targetPrincipal : Option Decimal
  effectivePrincipal : Option Decimal
  launchAuthorized : Option Bool
  rampStage : Option ℕ
  rampBasePrincipal : Option Decimal
  rampTargetPrincipal : Option Decimal
  highWaterEquity : Option Decimal
  riskBudget : Option Decimal
deriving DecidableEq, Repr

def SystemState.capital (system : SystemState) : CapitalKeys where
  autoEnabled := system.autoEnabled
  autoVersion := system.autoVersion
  baseCapital := system.baseCapital
  ratio := system.ratio
  targetPrincipal := system.targetPrincipal
  effectivePrincipal := system.effectivePrincipal
  launchAuthorized := system.launchAuthorized
  rampStage := system.rampStage
  rampBasePrincipal := system.rampBasePrincipal
  rampTargetPrincipal := system.rampTargetPrincipal
  highWaterEquity := system.highWaterEquity
  riskBudget := system.riskBudget

/-- `ReconciliationService.run`: the repository it leaves and whether it found a
mismatch.  It books fills and raises SAFE_MODE, and writes no capital key. -/
structure Reconciliation (ι : Type) where
  run : Repository ι → Py (Repository ι × Bool)
  same_capital : ∀ {repo repo' : Repository ι} {mismatch : Bool},
    run repo = .ok (repo', mismatch) → repo'.system.capital = repo.system.capital

/-- What a capital operation asks the broker, the clock and the cycle table. -/
structure AutoEnvironment (ι : Type) where
  quotes : Quotes
  reconciliation : Reconciliation ι
  buyingPower : Py Decimal
  latestCompletedDate : Date
  completedSessionsSince : Date → ℕ
  /-- Rows of `jh_auto_cycles` with a fill and a completion time. -/
  completedAutoFills : ℕ
  now : Timestamp

/-! ## Settings -/

/-- `AutoSettings`. -/
structure AutoSettings where
  baseCapital : Option Decimal
  ratio : Option Decimal
  targetPrincipal : Decimal
  effectivePrincipal : Decimal
  launchAuthorized : Bool
  quarantine : Bool
  operatorHaltLatched : Bool
  state : AutoState
  rampStage : ℕ
  rampBasePrincipal : Decimal
  rampTargetPrincipal : Decimal

/-- `JHAutoService.settings`. -/
def SystemState.settings (system : SystemState) : AutoSettings where
  baseCapital := system.baseCapital
  ratio := system.ratio
  targetPrincipal := system.targetPrincipal.getD 0
  effectivePrincipal := system.effectivePrincipal.getD 0
  launchAuthorized := decide (system.launchAuthorized = some true)
  quarantine := decide (system.startupQuarantine = some true)
  operatorHaltLatched := decide (system.operatorHaltLatched = some true)
  state := system.autoState.getD .setup
  rampStage := system.rampStage.getD 0
  rampBasePrincipal := system.rampBasePrincipal.getD 0
  rampTargetPrincipal := system.rampTargetPrincipal.getD 0

/-- `AutoSettings.configured`. -/
def AutoSettings.configured (settings : AutoSettings) : Bool :=
  settings.baseCapital.isSome && settings.ratio.isSome && decide (0 < settings.targetPrincipal)

/-- `RAMP_FRACTIONS`. -/
def rampFraction : ℕ → Py Decimal
  | 1 => .ok (1 / 2)
  | 2 => .ok (3 / 4)
  | 3 => .ok 1
  | _ => .error .key

def minimumStageSessions : ℕ := 3

/-- `bootstrap_repository`: missing keys get their defaults, the runtime version
is kept current, and no authorization is reset. -/
def SystemState.bootstrap (system : SystemState) : SystemState :=
  { system with
    autoEnabled := some true
    autoVersion := some JdHoldings.autoVersion
    targetPrincipal := system.targetPrincipal <|> some 0
    effectivePrincipal := system.effectivePrincipal <|> some 0
    launchAuthorized := system.launchAuthorized <|> some false
    startupQuarantine := system.startupQuarantine <|> some true
    autoState := system.autoState <|> some .setup
    operatorHaltLatched := system.operatorHaltLatched <|> some false
    rampStage := system.rampStage <|> some 0
    rampBasePrincipal := system.rampBasePrincipal <|> some 0
    rampTargetPrincipal := system.rampTargetPrincipal <|> some 0
    performanceUnits := system.performanceUnits <|> some 0
    performanceNav := system.performanceNav <|> some 1
    rampStageAutoFillSeen := system.rampStageAutoFillSeen <|> some false }

/-- `_normalize_money`. -/
def normalizeMoney (value : Decimal) : Py Decimal := do
  let amount := Quantize.down cent value
  raiseIf (¬(minBaseCapital ≤ amount ∧ amount ≤ maxBaseCapital))
    (.value "운용 기준자금은 100~10000000 USD 범위여야 합니다")
  return amount

/-- `_normalize_ratio_percent`. -/
def normalizeRatioPercent (percent : Decimal) : Py Decimal := do
  let ratio := percent / 100
  raiseIf (¬(minRatio ≤ ratio ∧ ratio ≤ maxRatio))
    (.value "자동운용비율은 1~100% 범위여야 합니다")
  return Quantize.halfEven (1 / 10000) ratio

/-- `_target_principal`. -/
def targetPrincipal : Option Decimal → Option Decimal → Decimal
  | some base, some ratio => Quantize.down cent (base * ratio)
  | _, _ => 0

/-! ## External flows -/

/-- The event types of `_apply_external_flow`. -/
inductive CapitalEvent where
  | capitalReduction
  | capitalIncreaseStage1
  | launchStage1
  | capitalRampStage (stage : ℕ)
deriving DecidableEq, Repr

/-- `_invalidate_target_generation`. -/
def Repository.invalidateTargetGeneration (repo : Repository ι) : Repository ι :=
  { repo with
    core := fun symbol => { repo.core symbol with targetQty := 0 }
    system := { repo.system with targetQtyGeneration := none } }

/-- The NAV and the equity an external flow is priced at. -/
def Repository.flowBasis (config : StrategyConfig) (repo : Repository ι) (quotes : Quotes)
    (oldEffective units : Decimal) : Py (Decimal × Decimal) := do
  if repo.system.accountingStartedAt.isSome ∧ 0 < oldEffective then
    let preEquity ← repo.markedManagedEquity config quotes
    let nav :=
      if 0 < units ∧ 0 ≤ preEquity then preEquity / units
      else repo.system.performanceNav.getD 1
    return (preEquity, if nav ≤ 0 then 1 else nav)
  else return (oldEffective, 1)

/-- The capital keys `_apply_external_flow` writes: the high-water mark and the
risk budget move with the principal, so that the flow is no gain. -/
def SystemState.withFlow (system : SystemState)
    (oldEffective newEffective preEquity nav newUnits : Decimal) : SystemState :=
  let delta := newEffective - oldEffective
  let oldHwm := system.highWaterEquity.getD oldEffective
  let adjustedHwm := max newEffective (oldHwm + delta)
  let postFlowEquity := max 0 (preEquity + delta)
  let gain := max 0 (adjustedHwm - newEffective)
  let riskBudget := min postFlowEquity (newEffective + 3 / 4 * gain)
  { system with
    effectivePrincipal := some newEffective
    performanceUnits := some newUnits
    performanceNav := some nav
    highWaterEquity := some adjustedHwm
    riskBudget := some (max 0 riskBudget) }

/-- The units outstanding after a flow of `delta` at the given NAV. -/
def unitsAfterFlow (units delta nav : Decimal) : Decimal :=
  units + if 0 < nav then delta / nav else delta

/-- `JHAutoService._apply_external_flow`. -/
def JHAutoService.applyExternalFlow (config : StrategyConfig) (quotes : Quotes)
    (repo : Repository ι) (requested : Decimal) : Py (Repository ι) :=
  let oldEffective := repo.system.settings.effectivePrincipal
  let newEffective := max 0 (Quantize.halfEven cent requested)
  let delta := newEffective - oldEffective
  if delta = 0 then .ok repo
  else
    let units := repo.system.performanceUnits.getD 0
    match repo.flowBasis config quotes oldEffective units with
    | .error error => .error error
    | .ok (preEquity, nav) =>
        let newUnits := unitsAfterFlow units delta nav
        if newUnits < -(1 / 1000000) then
          .error (.runtime "자금 회수 후 JH AUTO 성과 단위가 음수가 됩니다")
        else
          .ok (repo.setSystem
            (repo.system.withFlow oldEffective newEffective preEquity nav (max 0 newUnits))
            ).invalidateTargetGeneration

/-- What a committed external flow wrote. -/
theorem JHAutoService.applyExternalFlow_ok {config : StrategyConfig} {quotes : Quotes}
    {repo repo' : Repository ι} {requested : Decimal}
    (hok : JHAutoService.applyExternalFlow config quotes repo requested = .ok repo') :
    let oldEffective := repo.system.settings.effectivePrincipal
    let newEffective := max 0 (Quantize.halfEven cent requested)
    let units := repo.system.performanceUnits.getD 0
    (newEffective = oldEffective ∧ repo' = repo) ∨
      newEffective ≠ oldEffective ∧ ∃ preEquity nav,
        repo.flowBasis config quotes oldEffective units = .ok (preEquity, nav) ∧
        repo' = (repo.setSystem (repo.system.withFlow oldEffective newEffective preEquity nav
          (max 0 (unitsAfterFlow units (newEffective - oldEffective) nav)))
          ).invalidateTargetGeneration := by
  simp only [JHAutoService.applyExternalFlow] at hok
  intro oldEffective newEffective units
  split at hok
  · rename_i hzero
    exact Or.inl ⟨sub_eq_zero.mp hzero, (Except.ok.inj hok).symm⟩
  · rename_i hdelta
    split at hok
    · cases hok
    · rename_i preEquity nav hbasis
      split at hok
      · cases hok
      · exact Or.inr ⟨fun h => hdelta (sub_eq_zero.mpr h), preEquity, nav, hbasis,
          (Except.ok.inj hok).symm⟩

/-- `ProductionJHAutoService._apply_external_flow`: the first AUTO flow drops the
high-water mark of the account before AUTO. -/
def ProductionJHAutoService.applyExternalFlow (config : StrategyConfig) (quotes : Quotes)
    (repo : Repository ι) (requested : Decimal) (event : CapitalEvent) : Py (Repository ι) :=
  let repo :=
    if repo.system.settings.effectivePrincipal = 0 ∧ event = .launchStage1 then
      repo.setSystem { repo.system with highWaterEquity := some 0, riskBudget := some 0 }
    else repo
  JHAutoService.applyExternalFlow config quotes repo requested

/-! ## Operator configuration -/

/-- `_portfolio_safe_mode`. -/
def Repository.portfolioSafeMode (repo : Repository ι) : Bool :=
  decide (repo.system.portfolioSafeMode = some true) ||
    decide ((repo.positions .tqqq).state = .safeMode) ||
    decide ((repo.positions .soxl).state = .safeMode)

/-- `_retarget_live_principal`. -/
def JHAutoService.retargetLivePrincipal (config : StrategyConfig) (env : AutoEnvironment ι)
    (repo : Repository ι) (before : AutoSettings) (newTarget : Decimal) : Py (Repository ι) := do
  if newTarget = before.targetPrincipal then return repo
  else if newTarget < before.effectivePrincipal then
    -- Risk reduction is never delayed behind a staged ramp.
    let repo := repo.setSystem { repo.system with
      rampStage := some 0
      rampBasePrincipal := some newTarget
      rampTargetPrincipal := some newTarget }
    ProductionJHAutoService.applyExternalFlow config env.quotes repo newTarget .capitalReduction
  else if newTarget < before.targetPrincipal then
    -- The target fell to a principal that is already open: no further opening.
    return repo.setSystem { repo.system with
      rampStage := some 0
      rampBasePrincipal := some before.effectivePrincipal
      rampTargetPrincipal := some newTarget }
  else
    let base := before.effectivePrincipal
    let repo := repo.setSystem { repo.system with
      rampBasePrincipal := some base
      rampTargetPrincipal := some newTarget
      rampStage := some 1
      rampStageFilledTradeDate := none }
    let fraction ← rampFraction 1
    let first := base + (newTarget - base) * fraction
    ProductionJHAutoService.applyExternalFlow config env.quotes repo (Quantize.down cent first)
      .capitalIncreaseStage1

/-- `JHAutoService._set_operator_config`. -/
def JHAutoService.setOperatorConfig (config : StrategyConfig) (env : AutoEnvironment ι)
    (repo : Repository ι) (base ratio : Option Decimal) : Py (Repository ι) := do
  let before := repo.system.settings
  let newBase := base <|> before.baseCapital
  let newRatio := ratio <|> before.ratio
  let newTarget := targetPrincipal newBase newRatio
  raiseIf (before.launchAuthorized = true ∧ repo.openOrders ≠ [])
    (.runtime "진행 중 주문이 있어 자금 설정을 바꿀 수 없습니다")
  raiseIf (before.launchAuthorized = true ∧ before.targetPrincipal < newTarget ∧
      before.rampStage ≠ 0)
    (.runtime "현재 자금확대 단계가 끝난 뒤 추가 확대할 수 있습니다")
  let repo := repo.setSystem { repo.system with
    baseCapital := newBase
    ratio := newRatio
    targetPrincipal := some newTarget
    configRevision := some (repo.system.configRevision.getD 0 + 1) }
  if before.launchAuthorized then
    JHAutoService.retargetLivePrincipal config env repo before newTarget
  else
    return repo.setSystem { repo.system with
      autoState := some (if newBase.isSome ∧ newRatio.isSome then .ready else .setup) }

/-- `_validate_capital_contract`. -/
def SystemState.validateCapitalContract (system : SystemState) (requireConfigured : Bool) :
    Py Unit := do
  let settings := system.settings
  raiseIf (system.autoEnabled ≠ some true) (.runtime "JH AUTO 활성상태가 누락·손상되었습니다")
  raiseIf (system.autoVersion ≠ some JdHoldings.autoVersion)
    (.runtime "JH AUTO 버전 상태가 현재 코드와 일치하지 않습니다")
  if settings.configured then
    match settings.baseCapital, settings.ratio with
    | some base, some ratio =>
        raiseIf (¬(minBaseCapital ≤ base ∧ base ≤ maxBaseCapital))
          (.runtime "JH AUTO 총 투자금액 상태가 유효하지 않습니다")
        raiseIf (¬(minRatio ≤ ratio ∧ ratio ≤ maxRatio))
          (.runtime "JH AUTO 자동운용비율 상태가 유효하지 않습니다")
        raiseIf (settings.targetPrincipal ≠ Quantize.down cent (base * ratio))
          (.runtime "JH AUTO 목표 자동원금이 총 투자금액×자동운용비율과 다릅니다")
        raiseIf (settings.launchAuthorized = true ∧ (settings.effectivePrincipal ≤ 0 ∨
            settings.targetPrincipal < settings.effectivePrincipal))
          (.runtime "JH AUTO 현재 허용원금이 목표 자동원금 범위를 벗어났습니다")
    | _, _ => throw (.runtime "JH AUTO 총 투자금액 상태가 유효하지 않습니다")
  else
    raiseIf (requireConfigured = true)
      (.runtime "JH AUTO 총 투자금액과 자동운용비율 설정이 완전하지 않습니다")

/-- `HardenedProductionJHAutoService._set_operator_config`.  The quarantine of its
exception handler is rolled back with the surrounding transaction. -/
def HardenedProductionJHAutoService.setOperatorConfig (config : StrategyConfig)
    (env : AutoEnvironment ι) (repo : Repository ι) (base ratio : Option Decimal) :
    Py (Repository ι) := do
  if repo.system.settings.launchAuthorized then
    let closed := repo.setSystem { repo.system with
      operatorBuyHalt := some true
      startupQuarantine := some true
      autoState := some .configuring }
    let updated ← JHAutoService.setOperatorConfig config env closed base ratio
    updated.system.validateCapitalContract true
    return updated.setSystem { updated.system with
      startupQuarantine := some true
      autoState := some .autoQuarantine
      operatorBuyHalt := some true }
  else
    let updated ← JHAutoService.setOperatorConfig config env repo base ratio
    updated.system.validateCapitalContract false
    return updated

/-- `FinalOpsProductionJHAutoService._set_operator_config`. -/
def FinalOpsProductionJHAutoService.setOperatorConfig (config : StrategyConfig)
    (env : AutoEnvironment ι) (repo : Repository ι) (base ratio : Option Decimal) :
    Py (Repository ι) := do
  let before := repo.system.settings
  let repo ← HardenedProductionJHAutoService.setOperatorConfig config env repo base ratio
  let updated := repo.system.settings
  if 0 < updated.rampStage ∧ (before.rampStage ≠ updated.rampStage ∨
      before.rampTargetPrincipal ≠ updated.rampTargetPrincipal) then
    return repo.setSystem { repo.system with rampStageAutoFillSeen := some false }
  else return repo

/-- `set_base_capital`. -/
def setBaseCapital (config : StrategyConfig) (env : AutoEnvironment ι) (repo : Repository ι)
    (value : Decimal) : Py (Repository ι) := do
  let base ← normalizeMoney value
  FinalOpsProductionJHAutoService.setOperatorConfig config env repo (some base) none

/-- `set_ratio_percent`. -/
def setRatioPercent (config : StrategyConfig) (env : AutoEnvironment ι) (repo : Repository ι)
    (percent : Decimal) : Py (Repository ι) := do
  let ratio ← normalizeRatioPercent percent
  FinalOpsProductionJHAutoService.setOperatorConfig config env repo none (some ratio)

/-! ## Launch -/

/-- The allocation symbols whose ledger is not flat. -/
def Repository.dirtySymbols (repo : Repository ι) : List AllocationSymbol :=
  [.qqq, .soxl, .tqqq].filter fun symbol =>
    decide ((repo.core symbol).qty ≠ 0) || decide ((repo.core symbol).costBasis ≠ 0)

/-- `_preflight_launch`. -/
def JHAutoService.preflightLaunch (env : AutoEnvironment ι) (repo : Repository ι) :
    Py (Repository ι) := do
  let settings := repo.system.settings
  raiseIf (settings.configured = false)
    (.runtime "운용 기준자금과 자동운용비율을 먼저 설정해야 합니다")
  if settings.launchAuthorized then return repo
  raiseIf (repo.openOrders ≠ []) (.runtime "미체결 주문이 남아 있어 최초 자동운용을 시작할 수 없습니다")
  raiseIf (repo.dirtySymbols ≠ [])
    (.runtime ("최초 JH AUTO 시작은 관리종목 보유수량이 0인 청정 원장에서만 허용합니다 "
      ++ "(" ++ ", ".intercalate (repo.dirtySymbols.map AllocationSymbol.text) ++ ")"))
  let (repo, mismatches) ← env.reconciliation.run repo
  raiseIf (mismatches = true)
    (.runtime "실계좌와 JDSS 원장이 일치하지 않아 자동운용을 시작할 수 없습니다")
  let buyingPower ← env.buyingPower
  raiseIf (buyingPower < settings.targetPrincipal)
    (.runtime "토스 USD 매수가능금액이 목표 자동운용 원금보다 작습니다")
  raiseIf (repo.portfolioSafeMode = true)
    (.runtime "안전정지(SAFE_MODE)가 남아 있어 자동운용을 시작할 수 없습니다")
  return repo

/-- `JHAutoService.authorize_launch`. -/
def JHAutoService.authorizeLaunch (config : StrategyConfig) (env : AutoEnvironment ι)
    (repo : Repository ι) : Py (Repository ι) := do
  let repo ← JHAutoService.preflightLaunch env repo
  let before := repo.system.settings
  if before.launchAuthorized then
    raiseIf (before.effectivePrincipal ≤ 0 ∨ repo.system.performanceUnits.getD 0 ≤ 0)
      (.runtime "기존 시작승인 회계가 불완전합니다. 매수 차단을 유지하고 원장을 점검하세요")
    return repo
  let target := before.targetPrincipal
  let repo := repo.setSystem { repo.system with
    accountingStartedAt := some env.now
    launchAuthorized := some true
    startupQuarantine := some true
    autoState := some .startupQuarantine
    onboardingStatus := some .completed
    rampBasePrincipal := some 0
    rampTargetPrincipal := some target
    rampStage := some 1
    rampStageFilledTradeDate := none }
  let fraction ← rampFraction 1
  ProductionJHAutoService.applyExternalFlow config env.quotes repo
    (Quantize.down cent (target * fraction)) .launchStage1

/-- `FinalOpsProductionJHAutoService.authorize_launch`. -/
def FinalOpsProductionJHAutoService.authorizeLaunch (config : StrategyConfig)
    (env : AutoEnvironment ι) (repo : Repository ι) : Py (Repository ι) := do
  let wasAuthorized := repo.system.settings.launchAuthorized
  let repo ← JHAutoService.authorizeLaunch config env repo
  if wasAuthorized = false ∧ 0 < repo.system.settings.rampStage then
    return repo.setSystem { repo.system with rampStageAutoFillSeen := some false }
  else return repo

/-! ## The ramp -/

/-- `_stage_filled`, as the production class stacks it. -/
def Repository.stageFilled (env : AutoEnvironment ι) (repo : Repository ι) : Bool :=
  let settings := repo.system.settings
  -- JHAutoService: every frozen target is held and nothing is open.
  repo.system.targetQtyGeneration.isSome && repo.openOrders.isEmpty &&
    [AllocationSymbol.qqq, .tqqq, .soxl].all (fun symbol =>
      decide ((repo.core symbol).targetQty ≤ (repo.core symbol).qty)) &&
  -- HardenedProductionJHAutoService: the pilot stage had a real automated fill.
    (decide (settings.rampStage ≠ 1 ∨ settings.rampBasePrincipal ≠ 0) ||
      decide (0 < env.completedAutoFills)) &&
  -- FinalOpsProductionJHAutoService: so had this stage.
    decide (repo.system.rampStageAutoFillSeen = some true)

/-- `JHAutoService.advance_ramp_if_ready`: whether the stage advanced. -/
def JHAutoService.advanceRampIfReady (config : StrategyConfig) (env : AutoEnvironment ι)
    (repo : Repository ι) : Py (Repository ι × Bool) := do
  let settings := repo.system.settings
  if settings.launchAuthorized = false ∨ settings.rampStage = 0 then return (repo, false)
  if settings.operatorHaltLatched = true ∨ settings.quarantine = true ∨
      settings.state ≠ .running ∨ repo.system.operatorBuyHalt ≠ some false then
    return (repo, false)
  if repo.portfolioSafeMode = true ∨ repo.openOrders ≠ [] then return (repo, false)
  let completed := env.latestCompletedDate
  if repo.stageFilled env = false then
    return (repo.setSystem { repo.system with rampStageFilledTradeDate := none }, false)
  let filledDate := repo.system.rampStageFilledTradeDate.getD completed
  let repo := repo.setSystem { repo.system with rampStageFilledTradeDate := some filledDate }
  if settings.rampStage = 3 then
    return (repo.setSystem { repo.system with
      rampStage := some 0
      rampStageFilledTradeDate := none
      autoState := some .running }, true)
  if env.completedSessionsSince filledDate < minimumStageSessions then return (repo, false)
  let nextStage := settings.rampStage + 1
  let base := settings.rampBasePrincipal
  let target := settings.rampTargetPrincipal
  let fraction ← rampFraction nextStage
  let nextEffective := base + (target - base) * fraction
  let repo := repo.setSystem { repo.system with
    rampStage := some nextStage
    rampStageFilledTradeDate := none }
  let repo ← ProductionJHAutoService.applyExternalFlow config env.quotes repo
    (Quantize.down cent nextEffective) (.capitalRampStage nextStage)
  return (repo, true)

/-- `FinalOpsProductionJHAutoService.advance_ramp_if_ready`. -/
def FinalOpsProductionJHAutoService.advanceRampIfReady (config : StrategyConfig)
    (env : AutoEnvironment ι) (repo : Repository ι) : Py (Repository ι × Bool) := do
  let before := repo.system.settings
  let (repo, changed) ← JHAutoService.advanceRampIfReady config env repo
  if changed = true ∧ before.rampStage ≠ repo.system.settings.rampStage then
    return (repo.setSystem { repo.system with rampStageAutoFillSeen := some false }, changed)
  else return (repo, changed)

/-- `record_v322_equity` on the repository. -/
def Repository.recordV322Equity (repo : Repository ι) (markedEquity : Decimal) :
    Py (Repository ι) := do
  let system ← repo.system.recordV322Equity markedEquity
  return repo.setSystem system

/-! ## Performance -/

/-- `AutoPerformance`. -/
structure AutoPerformance where
  equity : Decimal
  cash : Decimal
  invested : Decimal
  netProfit : Decimal
  cumulativeReturn : Decimal
  nav : Decimal
  highWater : Decimal
  riskBudget : Decimal
  effectivePrincipal : Decimal
deriving DecidableEq, Repr

/-- `performance(record=False)`. -/
def Repository.performance (config : StrategyConfig) (repo : Repository ι) (quotes : Quotes) :
    Py AutoPerformance := do
  let settings := repo.system.settings
  if settings.launchAuthorized = false ∨ settings.effectivePrincipal ≤ 0 then
    return {
      equity := 0, cash := 0, invested := 0, netProfit := 0, cumulativeReturn := 0, nav := 1,
      highWater := 0, riskBudget := 0, effectivePrincipal := settings.effectivePrincipal }
  let equity ← repo.markedManagedEquity config quotes
  let rawCash ← repo.rawManagedCash config
  let cash := max 0 rawCash
  let initial ← repo.system.effectiveInitialCapital
  let units := repo.system.performanceUnits.getD 0
  let nav := if 0 < units then equity / units else 1
  return {
    equity := equity
    cash := cash
    invested := max 0 (equity - cash)
    netProfit := equity - settings.effectivePrincipal
    cumulativeReturn := nav - 1
    nav := nav
    highWater := repo.system.highWaterEquity.getD initial
    riskBudget := repo.system.riskBudget.getD initial
    effectivePrincipal := settings.effectivePrincipal }

end JdHoldings

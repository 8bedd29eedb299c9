import JdHoldings.Application.OperationalSafety
import JdHoldings.Capital.Contract

/-!
# The quarantine of JH AUTO

`quarantine` shuts BUY until the automation has proved the account safe again, and
`try_release_quarantine` is that proof: several checks without the lock, each of
which may write the state text, and a locked section that opens BUY.

An operator change of the capital is one transaction under the same lock.
-/

namespace JdHoldings

variable {τ ι : Type}

/-- The reads of `settings`, one key after the other.  Keys it does not read keep
their defaults. -/
def readSettings : Action τ ι SystemState := do
  let baseCapital ← getSystemValue SystemState.baseCapital
  let ratio ← getSystemValue SystemState.ratio
  let targetPrincipal ← getSystemValue SystemState.targetPrincipal
  let effectivePrincipal ← getSystemValue SystemState.effectivePrincipal
  let launchAuthorized ← getSystemValue SystemState.launchAuthorized
  let startupQuarantine ← getSystemValue SystemState.startupQuarantine
  let operatorHaltLatched ← getSystemValue SystemState.operatorHaltLatched
  let autoState ← getSystemValue SystemState.autoState
  let rampStage ← getSystemValue SystemState.rampStage
  let rampBasePrincipal ← getSystemValue SystemState.rampBasePrincipal
  let rampTargetPrincipal ← getSystemValue SystemState.rampTargetPrincipal
  return {
    baseCapital := baseCapital
    ratio := ratio
    targetPrincipal := targetPrincipal
    effectivePrincipal := effectivePrincipal
    launchAuthorized := launchAuthorized
    startupQuarantine := startupQuarantine
    operatorHaltLatched := operatorHaltLatched
    autoState := autoState
    rampStage := rampStage
    rampBasePrincipal := rampBasePrincipal
    rampTargetPrincipal := rampTargetPrincipal }

/-- `set_system_value(AUTO_STATE_KEY, …)`. -/
def setAutoState (state : AutoState) : Action τ ι Unit :=
  setSystemValue fun system => { system with autoState := some state }

/-- `_portfolio_safe_mode`. -/
def portfolioIsInSafeMode : Action τ ι Bool := do
  let flag ← getSystemValue SystemState.portfolioSafeMode
  if flag = some true then return true
  else
    let tqqq ← readRepo fun repo => (repo.positions .tqqq).state
    let soxl ← readRepo fun repo => (repo.positions .soxl).state
    return decide (tqqq = .safeMode) || decide (soxl = .safeMode)

namespace JHAutoService

/-- The body of `with BUY_EXECUTION_LOCK` in `quarantine`. -/
def quarantineSection (self : τ) : Action τ ι Unit := do
  setSystemValue fun system => { system with startupQuarantine := some true }
  setAutoState .autoQuarantine
  shutBuy self

/-- `quarantine`. -/
def quarantine (self : τ) : Action τ ι Unit := do
  Proc.withLock (quarantineSection self)
  record (.returned self)

variable [DecidableEq ι]

/-- The body of `with BUY_EXECUTION_LOCK` in `try_release_quarantine`. -/
def releaseSection (self : τ) : Action τ ι Bool := do
  let latch ← getSystemValue SystemState.operatorHaltLatched
  if latch = some true then
    setAutoState .operatorHalt
    return false
  else
    let safeMode ← portfolioIsInSafeMode
    let openOrders ← readRepo Repository.openOrders
    if safeMode || !openOrders.isEmpty then return false
    else
      openBuy self
      setSystemValue fun system => { system with startupQuarantine := some false }
      setAutoState .running
      return true

/-- `JHAutoService.try_release_quarantine`. -/
def tryReleaseQuarantine (self : τ) (safetyReady : Bool) : Action τ ι Bool := do
  let view ← readSettings
  let settings := view.settings
  if settings.launchAuthorized = false then
    setAutoState (if settings.configured then .ready else .setup)
    return false
  else if settings.operatorHaltLatched then
    setAutoState .operatorHalt
    return false
  else
    let safeMode ← portfolioIsInSafeMode
    if safeMode then
      setAutoState .safeMode
      return false
    else
      let openOrders ← readRepo Repository.openOrders
      if safetyReady = false ∨ openOrders.isEmpty = false then return false
      else Proc.withLock (releaseSection self)

end JHAutoService

/-- `_validate_capital_contract`, on what it reads. -/
def validateCapitalContract (requireConfigured : Bool) : Action τ ι Unit := do
  let view ← readSettings
  let autoEnabled ← getSystemValue SystemState.autoEnabled
  let autoVersion ← getSystemValue SystemState.autoVersion
  let contract : SystemState := { view with autoEnabled := autoEnabled, autoVersion := autoVersion }
  Proc.ofExcept (contract.validateCapitalContract requireConfigured)

variable [DecidableEq ι]

/-- `HardenedProductionJHAutoService.try_release_quarantine`. -/
def HardenedProductionJHAutoService.tryReleaseQuarantine (self : τ) (safetyReady : Bool) :
    Action τ ι Bool := do
  let view ← readSettings
  Proc.when (view.settings.launchAuthorized = true) (validateCapitalContract true)
  JHAutoService.tryReleaseQuarantine self safetyReady

/-- An operation under `atomic_auto_change`: the lock, and one transaction. -/
def atomicAutoChange (config : StrategyConfig) (env : AutoEnvironment ι) (op : CapitalOp) :
    Action τ ι Unit :=
  Proc.withLock (onRepo fun repo => op.exec config env repo)

end JdHoldings

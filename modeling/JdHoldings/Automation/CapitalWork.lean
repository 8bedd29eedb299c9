import JdHoldings.Application.Signals
import JdHoldings.Automation.Service
import JdHoldings.Library.Work

/-!
# The capital operations, statement by statement

The same methods as in the model of the service, with every commit, read and question
where the code has it, so that each of them can fail on its own.  `set_system_value`,
`log_event` and the other writers open a transaction of their own, which is a savepoint
here: the methods run inside `atomic_auto_change`.

Reads that follow one another without a write between them are one statement.  Writes of
keys and rows that nothing here reads can fail like the others and change nothing in
the model: event logs, time stamps, the text of the last error, the start date of a ramp
stage.
-/

namespace JdHoldings

/-! ## What the operations work on -/

/-- The event types in `jh_auto_capital_events`. -/
inductive CapitalEventType where
  | flow (event : CapitalEvent)
  | configChange
deriving DecidableEq, Repr

/-- A row of `jh_auto_capital_events`. -/
structure CapitalEventRow where
  eventType : CapitalEventType
  oldBaseCapital : Option Decimal
  newBaseCapital : Option Decimal
  oldRatio : Option Decimal
  newRatio : Option Decimal
  oldTargetPrincipal : Decimal
  newTargetPrincipal : Decimal
  oldEffectivePrincipal : Decimal
  newEffectivePrincipal : Decimal
  externalFlow : Decimal
deriving DecidableEq, Repr

/-- The database with the tables only these operations write. -/
structure CapitalBooks (ι : Type) where
  repo : Repository ι
  events : List CapitalEventRow
  signals : List SignalRow

namespace CapitalBooks

variable {ι : Type}

def setRepo (books : CapitalBooks ι) (repo : Repository ι) : CapitalBooks ι :=
  { books with repo := repo }

def setSystem (books : CapitalBooks ι) (system : SystemState) : CapitalBooks ι :=
  books.setRepo (books.repo.setSystem system)

end CapitalBooks

/-- What the operations ask the broker and the clock. -/
inductive CapitalQuery where
  | buyingPower
  | latestCompletedDate
  | completedSessionsSince (date : Date)
deriving DecidableEq

def CapitalQuery.Answer : CapitalQuery → Type
  | .buyingPower => Decimal
  | .latestCompletedDate => Date
  | .completedSessionsSince _ => ℕ

def AutoEnvironment.answer {ι : Type} (env : AutoEnvironment ι) :
    (query : CapitalQuery) → Py query.Answer
  | .buyingPower => env.buyingPower
  | .latestCompletedDate => .ok env.latestCompletedDate
  | .completedSessionsSince date => .ok (env.completedSessionsSince date)

/-- A method of the service on the books. -/
abbrev CapitalWork (ι α : Type) :=
  Work (CapitalBooks ι) CapitalQuery CapitalQuery.Answer PyError α

namespace CapitalWork

variable {ι α : Type}

/-! ## Statements -/

/-- Reads without a write between them. -/
def read (f : CapitalBooks ι → α) : CapitalWork ι α :=
  .statement fun books => .ok (f books, books)

/-- Reads whose result may be an exception. -/
def compute (f : CapitalBooks ι → Py α) : CapitalWork ι α :=
  .statement fun books => (f books).map fun value => (value, books)

def ofExcept : Py α → CapitalWork ι α
  | .ok value => .pure value
  | .error error => .throw error

/-- `if bad: raise error`. -/
def raiseWhen (bad : Prop) [Decidable bad] (error : PyError) : CapitalWork ι Unit :=
  if bad then .throw error else .pure ()

def when (c : Prop) [Decidable c] (p : CapitalWork ι Unit) : CapitalWork ι Unit :=
  if c then p else .pure ()

/-- A writer with a transaction of its own. -/
def commit (f : CapitalBooks ι → CapitalBooks ι) : CapitalWork ι Unit :=
  .transaction (.statement fun books => .ok ((), f books))

/-- `set_system_value` of one key. -/
def setKey (set : SystemState → SystemState) : CapitalWork ι Unit :=
  commit fun books => books.setSystem (set books.repo.system)

/-- A write of something that nothing here reads. -/
def writeUnread : CapitalWork ι Unit := commit id

def settings : CapitalWork ι AutoSettings := read fun books => books.repo.system.settings

/-! ## The external flow -/

/-- `_insert_capital_event`. -/
def insertCapitalEvent (eventType : CapitalEventType) (before : AutoSettings)
    (newBase newRatio : Option Decimal) (newTarget newEffective externalFlow : Decimal) :
    CapitalWork ι Unit :=
  commit fun books => { books with
    events := books.events ++ [{
      eventType := eventType
      oldBaseCapital := before.baseCapital
      newBaseCapital := newBase
      oldRatio := before.ratio
      newRatio := newRatio
      oldTargetPrincipal := before.targetPrincipal
      newTargetPrincipal := newTarget
      oldEffectivePrincipal := before.effectivePrincipal
      newEffectivePrincipal := newEffective
      externalFlow := externalFlow }] }

/-- `_invalidate_target_generation`. -/
def invalidateTargetGeneration (reason : String) : CapitalWork ι Unit := do
  commit fun books => { books with signals := invalidateActiveSignals books.signals .qqq reason }
  commit fun books => { books with signals := invalidateActiveSignals books.signals .tqqq reason }
  commit fun books => { books with signals := invalidateActiveSignals books.signals .soxl reason }
  commit fun books => books.setRepo { books.repo with
    core := fun symbol => { books.repo.core symbol with targetQty := 0 } }
  setKey fun system => { system with targetQtyGeneration := none }

/-- `JHAutoService._apply_external_flow`. -/
def applyExternalFlowBase (config : StrategyConfig) (env : AutoEnvironment ι) (requested : Decimal)
    (event : CapitalEvent) : CapitalWork ι Unit := do
  let before ← settings
  let oldEffective := before.effectivePrincipal
  let newEffective := max 0 (Quantize.halfEven cent requested)
  let delta := newEffective - oldEffective
  if delta = 0 then return ()
  else
    let units ← read fun books => books.repo.system.performanceUnits.getD 0
    let (preEquity, nav) ← compute fun books =>
      books.repo.flowBasis config env.quotes oldEffective units
    let newUnits := unitsAfterFlow units delta nav
    raiseWhen (newUnits < -(1 / 1000000)) (.runtime "자금 회수 후 JH AUTO 성과 단위가 음수가 됩니다")
    let flowed ← read fun books =>
      books.repo.system.withFlow oldEffective newEffective preEquity nav (max 0 newUnits)
    setKey fun system => { system with effectivePrincipal := flowed.effectivePrincipal }
    setKey fun system => { system with performanceUnits := flowed.performanceUnits }
    setKey fun system => { system with performanceNav := flowed.performanceNav }
    setKey fun system => { system with highWaterEquity := flowed.highWaterEquity }
    setKey fun system => { system with riskBudget := flowed.riskBudget }
    invalidateTargetGeneration "JH_AUTO_CAPITAL_CHANGED"
    let updated ← settings
    insertCapitalEvent (.flow event) before updated.baseCapital updated.ratio
      updated.targetPrincipal newEffective delta
    writeUnread

/-- `ProductionJHAutoService._apply_external_flow`. -/
def applyExternalFlow (config : StrategyConfig) (env : AutoEnvironment ι) (requested : Decimal)
    (event : CapitalEvent) : CapitalWork ι Unit :=
  .transaction do
    let before ← settings
    when (before.effectivePrincipal = 0 ∧ event = .launchStage1) do
      setKey fun system => { system with highWaterEquity := some 0 }
      setKey fun system => { system with riskBudget := some 0 }
    applyExternalFlowBase config env requested event

/-! ## The configuration -/

/-- `_retarget_live_principal`. -/
def retargetLivePrincipal (config : StrategyConfig) (env : AutoEnvironment ι)
    (before : AutoSettings) (newTarget : Decimal) : CapitalWork ι Unit := do
  if newTarget = before.targetPrincipal then return ()
  else if newTarget < before.effectivePrincipal then
    setKey fun system => { system with rampStage := some 0 }
    setKey fun system => { system with rampBasePrincipal := some newTarget }
    setKey fun system => { system with rampTargetPrincipal := some newTarget }
    applyExternalFlow config env newTarget .capitalReduction
  else if newTarget < before.targetPrincipal then
    setKey fun system => { system with rampStage := some 0 }
    setKey fun system => { system with rampBasePrincipal := some before.effectivePrincipal }
    setKey fun system => { system with rampTargetPrincipal := some newTarget }
  else
    let base := before.effectivePrincipal
    setKey fun system => { system with rampBasePrincipal := some base }
    setKey fun system => { system with rampTargetPrincipal := some newTarget }
    setKey fun system => { system with rampStage := some 1 }
    setKey fun system => { system with rampStageFilledTradeDate := none }
    let _ ← Work.ask CapitalQuery.latestCompletedDate
    writeUnread
    let fraction ← ofExcept (rampFraction 1)
    let first := base + (newTarget - base) * fraction
    applyExternalFlow config env (Quantize.down cent first) .capitalIncreaseStage1

/-- `JHAutoService._set_operator_config`. -/
def setOperatorConfigBase (config : StrategyConfig) (env : AutoEnvironment ι)
    (base ratio : Option Decimal) : CapitalWork ι AutoSettings :=
  .transaction do
    let before ← settings
    let newBase := base <|> before.baseCapital
    let newRatio := ratio <|> before.ratio
    let newTarget := targetPrincipal newBase newRatio
    let openOrders ← read fun books => books.repo.openOrders
    raiseWhen (before.launchAuthorized = true ∧ openOrders ≠ [])
      (.runtime "진행 중 주문이 있어 자금 설정을 바꿀 수 없습니다")
    raiseWhen (before.launchAuthorized = true ∧ before.targetPrincipal < newTarget ∧
        before.rampStage ≠ 0)
      (.runtime "현재 자금확대 단계가 끝난 뒤 추가 확대할 수 있습니다")
    when (newBase.isSome = true) (setKey fun system => { system with baseCapital := newBase })
    when (newRatio.isSome = true) (setKey fun system => { system with ratio := newRatio })
    setKey fun system => { system with targetPrincipal := some newTarget }
    let revision ← read fun books => books.repo.system.configRevision.getD 0
    setKey fun system => { system with configRevision := some (revision + 1) }
    if before.launchAuthorized then
      retargetLivePrincipal config env before newTarget
    else
      setKey fun system => { system with
        autoState := some (if newBase.isSome ∧ newRatio.isSome then .ready else .setup) }
      insertCapitalEvent .configChange before newBase newRatio newTarget before.effectivePrincipal 0
    settings

/-- `_validate_capital_contract`. -/
def validateCapitalContract (requireConfigured : Bool) : CapitalWork ι Unit :=
  compute fun books => books.repo.system.validateCapitalContract requireConfigured

/-- `quarantine`. -/
def quarantine : CapitalWork ι Unit := do
  setKey fun system => { system with startupQuarantine := some true }
  setKey fun system => { system with autoState := some .autoQuarantine }
  writeUnread
  setKey fun system => { system with operatorBuyHalt := some true }
  writeUnread
  writeUnread

/-- `HardenedProductionJHAutoService._set_operator_config`. -/
def setOperatorConfigHardened (config : StrategyConfig) (env : AutoEnvironment ι)
    (base ratio : Option Decimal) : CapitalWork ι AutoSettings := do
  let before ← settings
  if before.launchAuthorized then
    setKey fun system => { system with operatorBuyHalt := some true }
    writeUnread
    setKey fun system => { system with startupQuarantine := some true }
    setKey fun system => { system with autoState := some .configuring }
    let updated ← tryCatchThe PyError
      (do
        let updated ← setOperatorConfigBase config env base ratio
        validateCapitalContract true
        return updated)
      fun error => do
        quarantine
        throw error
    setKey fun system => { system with startupQuarantine := some true }
    setKey fun system => { system with autoState := some .autoQuarantine }
    setKey fun system => { system with operatorBuyHalt := some true }
    writeUnread
    return updated
  else
    let updated ← setOperatorConfigBase config env base ratio
    validateCapitalContract false
    return updated

/-- `FinalOpsProductionJHAutoService._set_operator_config` inside `atomic_auto_change`. -/
def setOperatorConfigBody (config : StrategyConfig) (env : AutoEnvironment ι)
    (base ratio : Option Decimal) : CapitalWork ι AutoSettings := do
  let before ← settings
  let updated ← setOperatorConfigHardened config env base ratio
  when (0 < updated.rampStage ∧ (before.rampStage ≠ updated.rampStage ∨
      before.rampTargetPrincipal ≠ updated.rampTargetPrincipal))
    (setKey fun system => { system with rampStageAutoFillSeen := some false })
  settings

/-! ## The launch -/

/-- `_preflight_launch`. -/
def preflightLaunch (env : AutoEnvironment ι) : CapitalWork ι Unit := do
  let settings ← settings
  raiseWhen (settings.configured = false)
    (.runtime "운용 기준자금과 자동운용비율을 먼저 설정해야 합니다")
  if settings.launchAuthorized then return ()
  else
    let openOrders ← read fun books => books.repo.openOrders
    raiseWhen (openOrders ≠ []) (.runtime "미체결 주문이 남아 있어 최초 자동운용을 시작할 수 없습니다")
    let dirty ← read fun books => books.repo.dirtySymbols
    raiseWhen (dirty ≠ [])
      (.runtime ("최초 JH AUTO 시작은 관리종목 보유수량이 0인 청정 원장에서만 허용합니다 "
        ++ "(" ++ ", ".intercalate (dirty.map AllocationSymbol.text) ++ ")"))
    let mismatches ← Work.statement fun books =>
      (env.reconciliation.run books.repo).map fun result => (result.2, books.setRepo result.1)
    raiseWhen (mismatches = true)
      (.runtime "실계좌와 JDSS 원장이 일치하지 않아 자동운용을 시작할 수 없습니다")
    let buyingPower ← Work.ask CapitalQuery.buyingPower
    raiseWhen ((show Decimal from buyingPower) < settings.targetPrincipal)
      (.runtime "토스 USD 매수가능금액이 목표 자동운용 원금보다 작습니다")
    let safeMode ← read fun books => books.repo.portfolioSafeMode
    raiseWhen (safeMode = true)
      (.runtime "안전정지(SAFE_MODE)가 남아 있어 자동운용을 시작할 수 없습니다")

/-- `JHAutoService.authorize_launch`. -/
def authorizeLaunchBase (config : StrategyConfig) (env : AutoEnvironment ι) :
    CapitalWork ι AutoSettings :=
  .transaction do
    preflightLaunch env
    let before ← settings
    if before.launchAuthorized then
      let units ← read fun books => books.repo.system.performanceUnits.getD 0
      raiseWhen (before.effectivePrincipal ≤ 0 ∨ units ≤ 0)
        (.runtime "기존 시작승인 회계가 불완전합니다. 매수 차단을 유지하고 원장을 점검하세요")
      return before
    else
      setKey fun system => { system with accountingStartedAt := some env.now }
      setKey fun system => { system with launchAuthorized := some true }
      writeUnread
      setKey fun system => { system with startupQuarantine := some true }
      setKey fun system => { system with autoState := some .startupQuarantine }
      setKey fun system => { system with onboardingStatus := some .completed }
      writeUnread
      writeUnread
      let target := before.targetPrincipal
      setKey fun system => { system with rampBasePrincipal := some 0 }
      setKey fun system => { system with rampTargetPrincipal := some target }
      setKey fun system => { system with rampStage := some 1 }
      setKey fun system => { system with rampStageFilledTradeDate := none }
      let _ ← Work.ask CapitalQuery.latestCompletedDate
      writeUnread
      let fraction ← ofExcept (rampFraction 1)
      applyExternalFlow config env (Quantize.down cent (target * fraction)) .launchStage1
      writeUnread
      settings

/-- `FinalOpsProductionJHAutoService.authorize_launch` inside `atomic_auto_change`. -/
def authorizeLaunchBody (config : StrategyConfig) (env : AutoEnvironment ι) :
    CapitalWork ι AutoSettings := do
  let before ← settings
  let updated ← authorizeLaunchBase config env
  when (before.launchAuthorized = false ∧ 0 < updated.rampStage)
    (setKey fun system => { system with rampStageAutoFillSeen := some false })
  settings

/-! ## The ramp -/

/-- `JHAutoService.advance_ramp_if_ready`. -/
def advanceRampBase (config : StrategyConfig) (env : AutoEnvironment ι) : CapitalWork ι Bool :=
  .transaction do
    let settings ← settings
    if settings.launchAuthorized = false ∨ settings.rampStage = 0 then return false
    else
      let halt ← read fun books => books.repo.system.operatorBuyHalt
      if settings.operatorHaltLatched = true ∨ settings.quarantine = true ∨
          settings.state ≠ .running ∨ halt ≠ some false then return false
      else
        let safeMode ← read fun books => books.repo.portfolioSafeMode
        let openOrders ← read fun books => books.repo.openOrders
        if safeMode = true ∨ openOrders ≠ [] then return false
        else
          let completed ← Work.ask CapitalQuery.latestCompletedDate
          let filled ← read fun books => books.repo.stageFilled env
          let filledRaw ← read fun books => books.repo.system.rampStageFilledTradeDate
          if filled = false then
            when (filledRaw.isSome = true)
              (setKey fun system => { system with rampStageFilledTradeDate := none })
            return false
          else
            when (filledRaw = none) do
              setKey fun system =>
                { system with rampStageFilledTradeDate := some (show Date from completed) }
              writeUnread
            let filledDate : Date := filledRaw.getD (show Date from completed)
            if settings.rampStage = 3 then
              setKey fun system => { system with rampStage := some 0 }
              setKey fun system => { system with rampStageFilledTradeDate := none }
              setKey fun system => { system with autoState := some .running }
              writeUnread
              return true
            else
              let sessions ← Work.ask (CapitalQuery.completedSessionsSince filledDate)
              if (show ℕ from sessions) < minimumStageSessions then return false
              else
                let nextStage := settings.rampStage + 1
                let base := settings.rampBasePrincipal
                let target := settings.rampTargetPrincipal
                let fraction ← ofExcept (rampFraction nextStage)
                let nextEffective := base + (target - base) * fraction
                setKey fun system => { system with rampStage := some nextStage }
                setKey fun system => { system with rampStageFilledTradeDate := none }
                writeUnread
                applyExternalFlow config env (Quantize.down cent nextEffective)
                  (.capitalRampStage nextStage)
                return true

/-- `FinalOpsProductionJHAutoService.advance_ramp_if_ready` inside `atomic_auto_change`. -/
def advanceRampBody (config : StrategyConfig) (env : AutoEnvironment ι) : CapitalWork ι Bool := do
  let before ← settings
  let changed ← advanceRampBase config env
  let after ← settings
  when (changed = true ∧ before.rampStage ≠ after.rampStage)
    (setKey fun system => { system with rampStageAutoFillSeen := some false })
  return changed

end CapitalWork

end JdHoldings

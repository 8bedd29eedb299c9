import JdHoldings.Automation.Quarantine
import JdHoldings.Library.Prog

/-!
# The start of the live process

`_run_locked_live` up to the point where the bot takes over: the keys of JH AUTO get
their defaults, BUY is halted, core fills that a crash left unbooked are booked, and the
account is put into the startup quarantine before the first reconciliation.

Every write is a commit of its own, so a start may die between any two of them.
-/

namespace JdHoldings

variable {τ ι : Type}

/-- The writes of `bootstrap_repository`, in their order: a default is written where the
key is missing, and what is installed is kept current at the end. -/
def SystemState.bootstrapWrites : List (SystemState → SystemState) :=
  [fun system => { system with autoEnabled := system.autoEnabled <|> some true },
    fun system => { system with autoVersion := system.autoVersion <|> some JdHoldings.autoVersion },
    fun system => { system with targetPrincipal := system.targetPrincipal <|> some 0 },
    fun system => { system with effectivePrincipal := system.effectivePrincipal <|> some 0 },
    fun system => { system with launchAuthorized := system.launchAuthorized <|> some false },
    fun system => { system with startupQuarantine := system.startupQuarantine <|> some true },
    fun system => { system with autoState := system.autoState <|> some .setup },
    fun system => { system with operatorHaltLatched := system.operatorHaltLatched <|> some false },
    fun system => { system with rampStage := system.rampStage <|> some 0 },
    fun system => { system with rampBasePrincipal := system.rampBasePrincipal <|> some 0 },
    fun system => { system with rampTargetPrincipal := system.rampTargetPrincipal <|> some 0 },
    fun system => { system with performanceUnits := system.performanceUnits <|> some 0 },
    fun system => { system with performanceNav := system.performanceNav <|> some 1 },
    fun system => { system with autoEnabled := some true },
    fun system => { system with autoVersion := some JdHoldings.autoVersion },
    fun system =>
      { system with rampStageAutoFillSeen := system.rampStageAutoFillSeen <|> some false }]

/-- Together they are the bootstrap. -/
theorem SystemState.bootstrapWrites_eq (system : SystemState) :
    SystemState.bootstrapWrites.foldl (fun system write => write system) system
      = system.bootstrap := rfl

/-- One commit after the other. -/
def writeAll : List (SystemState → SystemState) → Action τ ι Unit
  | [] => return ()
  | write :: rest => do
      setSystemValue write
      writeAll rest

/-- `bootstrap_repository`. -/
def bootstrapRepository : Action τ ι Unit := writeAll SystemState.bootstrapWrites

/-- `arm_live_startup_buy_halt`. -/
def armLiveStartupBuyHalt : Action τ ι Unit := do
  let commissioned ← getSystemValue SystemState.liveCommissioned
  Proc.raiseIf (commissioned ≠ some true)
    (.runtime "live 전용 원장이 commissioning 완료 상태가 아닙니다")
  setSystemValue fun system => { system with operatorBuyHalt := some true }

variable [DecidableEq ι]

/-- The loop of `recover_unapplied_core_fills`, one transaction an order. -/
def applyCoreFills : List ι → Action τ ι Unit
  | [] => return ()
  | clientOrderId :: rest => do
      onRepo fun repo => repo.applyCoreFill clientOrderId
      applyCoreFills rest

/-- `JHAutoService.arm_startup_quarantine`. -/
def JHAutoService.armStartupQuarantine : Action τ ι Unit := do
  setSystemValue fun system => { system with startupQuarantine := some true }
  let view ← readSettings
  setAutoState (if view.settings.launchAuthorized = true then .startupQuarantine else .setup)

/-- `_run_locked_live` from the armed halt to the first reconciliation.  The constructor of
the service runs the bootstrap a second time. -/
def startHalted (reconciliation : ReconciliationRun ι) : Action τ ι Unit := do
  let unapplied ← readRepo Repository.unappliedCoreFillOrderIds
  applyCoreFills unapplied
  bootstrapRepository
  JHAutoService.armStartupQuarantine
  let _ ← transact reconciliation

/-- `_run_locked_live` up to the first reconciliation. -/
def liveStart (reconciliation : ReconciliationRun ι) : Action τ ι Unit := do
  bootstrapRepository
  armLiveStartupBuyHalt
  startHalted reconciliation

end JdHoldings

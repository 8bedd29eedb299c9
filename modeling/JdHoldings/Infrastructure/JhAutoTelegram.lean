import JdHoldings.Automation.Service
import JdHoldings.Library.Attempt

/-!
# The operator console

The two-step changes of `JHAutoTelegramBotApp`.  A review shows what a new base capital, a new
ratio or the launch comes to, and leaves a request under a fresh token.  A confirmation takes
the request off the table and applies it, unless it is too old or the account is no longer the
one that was shown.

Both run under `BUY_EXECUTION_LOCK`, and every read is a step of its own; `settings` is read in
one, as the keys a review shows are written under that lock only.  What a review shows are
numbers here, without the text around them.  Two ghosts ride along: the reviews so far, and the
changes applied for them.
-/

namespace JdHoldings

variable {ι : Type}

/-- `AUTO_CONFIRM_TTL_SECONDS`. -/
def autoConfirmTtlSeconds : ℚ := 300

/-- `AutoSettings.ratio_percent`. -/
def AutoSettings.ratioPercent (settings : AutoSettings) : Option Decimal :=
  settings.ratio.map fun ratio => ratio * 100

/-! ## The state a review is for -/

/-- What is delegated to JH AUTO, and how far it is opened. -/
structure Delegation where
  baseCapital : Option Decimal
  ratio : Option Decimal
  targetPrincipal : Decimal
  effectivePrincipal : Decimal
  launchAuthorized : Bool
  rampStage : ℕ
  rampTargetPrincipal : Decimal
deriving DecidableEq

/-- The tuple of `confirmation_state`. -/
structure ConfirmationState extends Delegation where
  configRevision : ℕ
  operatorHaltLatched : Bool
deriving DecidableEq

def AutoSettings.delegation (settings : AutoSettings) : Delegation where
  baseCapital := settings.baseCapital
  ratio := settings.ratio
  targetPrincipal := settings.targetPrincipal
  effectivePrincipal := settings.effectivePrincipal
  launchAuthorized := settings.launchAuthorized
  rampStage := settings.rampStage
  rampTargetPrincipal := settings.rampTargetPrincipal

/-- `confirmation_state`. -/
def SystemState.confirmationState (system : SystemState) : ConfirmationState where
  toDelegation := system.settings.delegation
  configRevision := system.configRevision.getD 0
  operatorHaltLatched := system.settings.operatorHaltLatched

/-! ## Reviews -/

/-- The kind and the value of a request. -/
inductive AutoChange where
  | capital (value : Decimal)
  | ratio (percent : Decimal)
  | start
  | other (kind : String)

/-- The numbers a review shows. -/
inductive AutoReview where
  | capital (current proposed newTarget : Decimal)
  | ratio (currentPercent proposedPercent newTarget : Decimal)
  | start (base ratioPercent target firstPrincipal : Decimal)

/-- What `_review_change` shows. -/
def AutoSettings.review (settings : AutoSettings) : AutoChange → Py AutoReview
  | .capital value => do
      let proposed ← normalizeMoney value
      let ratio := settings.ratio.getD 0
      return .capital (settings.baseCapital.getD 0) proposed
        (JdHoldings.targetPrincipal (some proposed) (some ratio))
  | .ratio percent => do
      let proposedRatio ← normalizeRatioPercent percent
      let base := settings.baseCapital.getD 0
      return .ratio (settings.ratioPercent.getD 0) (proposedRatio * 100)
        (JdHoldings.targetPrincipal (some base) (some proposedRatio))
  | .start => do
      raiseIf (settings.configured = false) (.runtime "운용 기준자금과 자동운용비율을 먼저 설정해 주세요")
      raiseIf (settings.launchAuthorized = true)
        (.runtime "JH AUTO 최초 시작승인이 이미 완료되어 있습니다")
      let firstPrincipal := Quantize.down cent (settings.targetPrincipal * (1 / 2))
      return .start (settings.baseCapital.getD 0) (settings.ratioPercent.getD 0)
        settings.targetPrincipal firstPrincipal
  | .other _ => throw (.value "알 수 없는 JH AUTO 변경입니다")

/-- `_PendingAutoChange`, with the number of its review. -/
structure PendingAutoChange where
  change : AutoChange
  createdMonotonic : ℚ
  settingsState : ConfirmationState
  review : ℕ

/-- A review that was shown. -/
structure ShownReview where
  number : ℕ
  change : AutoChange
  shown : AutoReview
  createdMonotonic : ℚ
  state : ConfirmationState

/-- A change that was applied: for which review, when its request was taken, the state found
then, and the settings afterwards. -/
structure AppliedChange where
  review : ℕ
  takenMonotonic : ℚ
  found : ConfirmationState
  after : AutoSettings

structure ConsoleBooks (ι : Type) where
  repo : Repository ι
  /-- `_auto_pending`. -/
  pending : String → Option PendingAutoChange := fun _ => none
  reviews : List ShownReview := []
  applied : List AppliedChange := []

namespace ConsoleBooks

/-- A review is shown, and its request waits under the token. -/
def request (books : ConsoleBooks ι) (token : String) (change : AutoChange) (shown : AutoReview)
    (created : ℚ) (state : ConfirmationState) : ConsoleBooks ι :=
  { books with
    pending := Function.update books.pending token (some {
      change := change
      createdMonotonic := created
      settingsState := state
      review := books.reviews.length })
    reviews := {
      number := books.reviews.length
      change := change
      shown := shown
      createdMonotonic := created
      state := state } :: books.reviews }

/-- The requests that are not older than the limit. -/
def expire (books : ConsoleBooks ι) (now : ℚ) : ConsoleBooks ι :=
  { books with
    pending := fun token => (books.pending token).filter fun item =>
      decide (now - item.createdMonotonic ≤ autoConfirmTtlSeconds) }

/-- The request is off the table. -/
def drop (books : ConsoleBooks ι) (token : String) : ConsoleBooks ι :=
  { books with pending := Function.update books.pending token none }

/-- A change is applied. -/
def apply (books : ConsoleBooks ι) (item : PendingAutoChange) (taken : ℚ)
    (found : ConfirmationState) (repo : Repository ι) : ConsoleBooks ι :=
  { books with
    repo := repo
    applied := {
      review := item.review
      takenMonotonic := taken
      found := found
      after := repo.system.settings } :: books.applied }

end ConsoleBooks

/-! ## Programs -/

inductive ConsoleQuery where
  /-- `time.monotonic`. -/
  | monotonic
  /-- `secrets.token_hex`. -/
  | token
  /-- `ReconciliationService.run`: whether there are mismatches. -/
  | reconcile
  /-- What a capital operation finds around it. -/
  | environment

def ConsoleAnswer (ι : Type) : ConsoleQuery → Type
  | .monotonic => ℚ
  | .token => String
  | .reconcile => Py Bool
  | .environment => AutoEnvironment ι

abbrev ConsoleAction (ι α : Type) :=
  Proc (ConsoleBooks ι) ConsoleQuery (ConsoleAnswer ι) PyError α

namespace JHAutoTelegramBotApp

def readRepo {α : Type} (f : Repository ι → α) : ConsoleAction ι α :=
  Proc.read fun books => f books.repo

/-- `_expire_pending`, with the time it read. -/
def expirePending : ConsoleAction ι ℚ := do
  let now ← Proc.ask ConsoleQuery.monotonic
  Proc.modify fun books => books.expire now
  return now

/-- `_new_pending`. -/
def newPending (change : AutoChange) (shown : AutoReview) : ConsoleAction ι String := do
  let _ ← expirePending
  let token ← Proc.ask ConsoleQuery.token
  let created ← Proc.ask ConsoleQuery.monotonic
  let state ← readRepo fun repo => repo.system.confirmationState
  Proc.modify fun books => books.request token change shown created state
  return token

/-- `_review_change_locked`. -/
def reviewChangeLocked (change : AutoChange) : ConsoleAction ι (String × AutoReview) := do
  let settings ← readRepo fun repo => repo.system.settings
  let shown ← Proc.ofExcept (settings.review change)
  let token ← newPending change shown
  return (token, shown)

/-- `_review_change`. -/
def reviewChange (change : AutoChange) : ConsoleAction ι (String × AutoReview) :=
  Proc.withLock (reviewChangeLocked change)

/-- `self._auto_pending.pop(token, None)`. -/
def popPending (token : String) : ConsoleAction ι (Option PendingAutoChange) :=
  Proc.attempt fun books => (books.drop token, .ok (books.pending token))

/-- What `_confirm_pending_locked` checks before it moves capital. -/
def checkCapitalChange : ConsoleAction ι Unit := do
  let busy ← readRepo fun repo => decide (repo.openOrders ≠ [])
  Proc.raiseIf (busy = true) (.runtime "진행 중 주문이 있어 자동운용 설정을 바꿀 수 없습니다")
  let settings ← readRepo fun repo => repo.system.settings
  Proc.when (settings.launchAuthorized = true) do
    let answer ← Proc.ask ConsoleQuery.reconcile
    let mismatches ← Proc.ofExcept answer
    let safeMode ← (if mismatches then return true
      else readRepo fun repo => repo.portfolioSafeMode : ConsoleAction ι Bool)
    Proc.raiseIf (safeMode = true)
      (.runtime "계좌·원장 또는 안전상태가 정상일 때만 자금을 변경할 수 있습니다")

/-- A change of the service, in its transaction. -/
def applyChange (item : PendingAutoChange) (taken : ℚ) (found : ConfirmationState)
    (change : AutoEnvironment ι → Repository ι → Py (Repository ι)) :
    ConsoleAction ι AutoSettings := do
  let env ← Proc.ask ConsoleQuery.environment
  Proc.transaction fun books =>
    match change env books.repo with
    | .ok repo => .ok (books.apply item taken found repo, repo.system.settings)
    | .error error => .error error

/-- `quarantine`, whose lock is already held. -/
def quarantine : ConsoleAction ι Unit :=
  Proc.modify fun books => { books with repo := books.repo.setSystem { books.repo.system with
    startupQuarantine := some true
    autoState := some .autoQuarantine
    operatorBuyHalt := some true } }

/-- The launch of `_confirm_pending_locked`. -/
def confirmStart (config : StrategyConfig) (item : PendingAutoChange) (taken : ℚ)
    (found : ConfirmationState) : ConsoleAction ι AutoSettings := do
  let beforeOrders ← readRepo fun repo => repo.openOrders.length
  let updated ← applyChange item taken found
    (FinalOpsProductionJHAutoService.authorizeLaunch config)
  let afterOrders ← readRepo fun repo => repo.openOrders.length
  if afterOrders ≠ beforeOrders then
    quarantine
    throw (.runtime "최초 시작승인 처리 중 주문 상태가 바뀌어 안전격리했습니다")
  else return updated

/-- `_confirm_pending_locked`, with the settings its answer shows. -/
def confirmPendingLocked (config : StrategyConfig) (token : String) :
    ConsoleAction ι AutoSettings := do
  let taken ← expirePending
  match ← popPending token with
  | none => throw (.runtime "확인 요청이 만료되었거나 이미 사용되었습니다")
  | some item => do
      let found ← readRepo fun repo => repo.system.confirmationState
      Proc.raiseIf (item.settingsState ≠ found)
        (.runtime "검토 후 자금·운용상태가 변경되었습니다. /auto에서 다시 검토해 주세요")
      match item.change with
      | .capital value => do
          checkCapitalChange
          applyChange item taken found fun env repo => setBaseCapital config env repo value
      | .ratio percent => do
          checkCapitalChange
          applyChange item taken found fun env repo => setRatioPercent config env repo percent
      | .start => confirmStart config item taken found
      | .other _ => throw (.runtime "지원하지 않는 확인 요청입니다")

/-- `_confirm_pending`. -/
def confirmPending (config : StrategyConfig) (token : String) : ConsoleAction ι AutoSettings :=
  Proc.withLock (confirmPendingLocked config token)

/-- `auto_cancel_callback`. -/
def cancelPending (token : String) : ConsoleAction ι Unit :=
  Proc.withLock do
    let _ ← popPending token
    return ()

end JHAutoTelegramBotApp

end JdHoldings

import JdHoldings.Capital.Contract
import JdHoldings.Capital.Refinement
import JdHoldings.Ledger.Operations

/-!
# A capital operation happens or it does not

An operator change, the launch and a ramp step are one transaction each.  Whatever is
nested in it and wherever it fails, the database afterwards is the one before, or the one
a call leaves in which nothing failed.

That holds of the protection against failures as well: the quarantine that the handler of
a live change writes belongs to the transaction that is rolled back because the handler
raises again.  After a failed change BUY is closed exactly if it was closed before.
-/

namespace JdHoldings

namespace CapitalWork

variable {ι α β : Type}

/-! ## Nothing is swallowed -/

section Strict

@[simp] theorem strict_bind (p : CapitalWork ι β) (f : β → CapitalWork ι α) :
    (p >>= f).Strict ↔ p.Strict ∧ ∀ value, (f value).Strict := Iff.rfl

@[simp] theorem strict_pure (value : α) : (Pure.pure value : CapitalWork ι α).Strict := trivial

@[simp] theorem strict_ite (c : Prop) [Decidable c] (p q : CapitalWork ι α) :
    (if c then p else q).Strict ↔ (c → p.Strict) ∧ (¬c → q.Strict) := by
  by_cases hc : c
  · rw [if_pos hc]
    exact ⟨fun hp => ⟨fun _ => hp, fun hnot => absurd hc hnot⟩, fun h => h.1 hc⟩
  · rw [if_neg hc]
    exact ⟨fun hq => ⟨fun hyes => absurd hyes hc, fun _ => hq⟩, fun h => h.2 hc⟩

@[simp] theorem strict_tryCatch (p : CapitalWork ι α) (handler : PyError → CapitalWork ι α) :
    (tryCatchThe PyError p handler).Strict ↔ p.Strict ∧ ∀ error, (handler error).Fails := Iff.rfl

@[simp] theorem strict_ask (query : CapitalQuery) :
    (Work.ask query : CapitalWork ι query.Answer).Strict := trivial

@[simp] theorem strict_statement (f : CapitalBooks ι → Py (α × CapitalBooks ι)) :
    (Work.statement f : CapitalWork ι α).Strict := trivial

@[simp] theorem strict_transaction (body : CapitalWork ι α) :
    (Work.transaction body).Strict ↔ body.Strict := Iff.rfl

@[simp] theorem strict_read (f : CapitalBooks ι → α) : (read f).Strict := trivial

@[simp] theorem strict_settings : (settings : CapitalWork ι AutoSettings).Strict := trivial

@[simp] theorem strict_compute (f : CapitalBooks ι → Py α) : (compute f).Strict := trivial

@[simp] theorem strict_ofExcept (result : Py α) : (ofExcept result : CapitalWork ι α).Strict := by
  cases result with
  | error error => trivial
  | ok value => trivial

@[simp] theorem strict_commit (f : CapitalBooks ι → CapitalBooks ι) : (commit f).Strict := trivial

@[simp] theorem strict_setKey (set : SystemState → SystemState) :
    (setKey set : CapitalWork ι Unit).Strict := trivial

@[simp] theorem strict_writeUnread : (writeUnread : CapitalWork ι Unit).Strict := trivial

@[simp] theorem strict_raiseWhen (bad : Prop) [Decidable bad] (error : PyError) :
    (raiseWhen bad error : CapitalWork ι Unit).Strict := by
  unfold raiseWhen
  split
  · trivial
  · trivial

@[simp] theorem strict_when (c : Prop) [Decidable c] (p : CapitalWork ι Unit) :
    (when c p).Strict ↔ (c → p.Strict) := by
  rw [when, strict_ite]
  exact and_iff_left fun _ => trivial

end Strict

variable (config : StrategyConfig) (env : AutoEnvironment ι)

@[simp] theorem strict_applyExternalFlow (requested : Decimal) (event : CapitalEvent) :
    (applyExternalFlow config env requested event).Strict := by
  simp [applyExternalFlow, applyExternalFlowBase, invalidateTargetGeneration, insertCapitalEvent]

@[simp] theorem strict_retargetLivePrincipal (before : AutoSettings) (newTarget : Decimal) :
    (retargetLivePrincipal config env before newTarget).Strict := by
  simp [retargetLivePrincipal]

@[simp] theorem strict_setOperatorConfigBase (base ratio : Option Decimal) :
    (setOperatorConfigBase config env base ratio).Strict := by
  simp [setOperatorConfigBase, insertCapitalEvent]

/-- The handler of a live change quarantines and raises again. -/
theorem fails_quarantine (error : PyError) :
    (quarantine >>= fun _ => throw error : CapitalWork ι α).Fails :=
  Work.Fails.bind fun _ => Work.Fails.throw error

theorem strict_setOperatorConfigBody (base ratio : Option Decimal) :
    (setOperatorConfigBody config env base ratio).Strict := by
  simp [setOperatorConfigBody, setOperatorConfigHardened, validateCapitalContract, fails_quarantine]

@[simp] theorem strict_preflightLaunch : (preflightLaunch env).Strict := by
  refine ⟨strict_settings, fun settings => ⟨strict_raiseWhen _ _, fun _ => ?_⟩⟩
  refine (strict_ite _ _ _).mpr ⟨fun _ => trivial, fun _ => ?_⟩
  refine ⟨strict_read _, fun _ => ⟨strict_raiseWhen _ _, fun _ => ?_⟩⟩
  refine ⟨strict_read _, fun _ => ⟨strict_raiseWhen _ _, fun _ => ?_⟩⟩
  refine ⟨strict_statement _, fun _ => ⟨strict_raiseWhen _ _, fun _ => ?_⟩⟩
  refine ⟨strict_ask .buyingPower, fun _ => ⟨strict_raiseWhen _ _, fun _ => ?_⟩⟩
  exact ⟨strict_read _, fun _ => strict_raiseWhen _ _⟩

theorem strict_authorizeLaunchBody : (authorizeLaunchBody config env).Strict := by
  simp [authorizeLaunchBody, authorizeLaunchBase]

theorem strict_advanceRampBody : (advanceRampBody config env).Strict := by
  simp [advanceRampBody, advanceRampBase]

end CapitalWork

/-! ## The operations -/

variable {ι : Type}

/-- The operations of the production service that change the delegated capital. -/
inductive CapitalOperation where
  | setBaseCapital (value : Decimal)
  | setRatioPercent (percent : Decimal)
  | authorizeLaunch
  | advanceRampIfReady
deriving DecidableEq, Repr

namespace CapitalOperation

def Result : CapitalOperation → Type
  | .setBaseCapital _ | .setRatioPercent _ | .authorizeLaunch => AutoSettings
  | .advanceRampIfReady => Bool

/-- The operation on the books, statement by statement. -/
def work (config : StrategyConfig) (env : AutoEnvironment ι) :
    (operation : CapitalOperation) → CapitalWork ι operation.Result
  | .setBaseCapital value => do
      let base ← CapitalWork.ofExcept (normalizeMoney value)
      Work.transaction (CapitalWork.setOperatorConfigBody config env (some base) none)
  | .setRatioPercent percent => do
      let ratio ← CapitalWork.ofExcept (normalizeRatioPercent percent)
      Work.transaction (CapitalWork.setOperatorConfigBody config env none (some ratio))
  | .authorizeLaunch => Work.transaction (CapitalWork.authorizeLaunchBody config env)
  | .advanceRampIfReady => Work.transaction (CapitalWork.advanceRampBody config env)

/-- The transaction it is on the repository. -/
def transaction : CapitalOperation → CapitalOp
  | .setBaseCapital value => .setBaseCapital value
  | .setRatioPercent percent => .setRatioPercent percent
  | .authorizeLaunch => .authorizeLaunch
  | .advanceRampIfReady => .advanceRampIfReady

/-- A call, with what fails on the way: what it returns or raises, and the books it
leaves. -/
def call (config : StrategyConfig) (env : AutoEnvironment ι) (fault : ℕ → Option PyError)
    (operation : CapitalOperation) (books : CapitalBooks ι) :
    Py operation.Result × CapitalBooks ι :=
  let (result, session) :=
    (operation.work config env).run { answer := env.answer, fault := fault } { committed := books }
  (result, session.committed)

variable {config : StrategyConfig} {env : AutoEnvironment ι}

theorem map_fst (result : Py (Repository ι)) {α : Type} (g : Repository ι → α) :
    (result.map fun repo => (repo, g repo)).map Prod.fst = result := by
  cases result with
  | error error => rfl
  | ok repo => rfl

/-- A call in which nothing fails is the transaction of the service. -/
theorem outcome_work (operation : CapitalOperation) (books : CapitalBooks ι) :
    (CapitalWork.outcome ((operation.work config env).perform env.answer books)).map Prod.fst
      = operation.transaction.exec config env books.repo := by
  cases operation with
  | setBaseCapital value =>
      simp only [work, transaction, CapitalOp.exec, CapitalWork.outcome_ofExcept_bind,
        JdHoldings.setBaseCapital, Except.map_then]
      refine congrArg _ (funext fun base => ?_)
      exact (congrArg _ ((CapitalWork.outcome_transaction _).trans
        (CapitalWork.outcome_setOperatorConfigBody config env (some base) none))).trans (map_fst _ _)
  | setRatioPercent percent =>
      simp only [work, transaction, CapitalOp.exec, CapitalWork.outcome_ofExcept_bind,
        JdHoldings.setRatioPercent, Except.map_then]
      refine congrArg _ (funext fun ratio => ?_)
      exact (congrArg _ ((CapitalWork.outcome_transaction _).trans
        (CapitalWork.outcome_setOperatorConfigBody config env none (some ratio)))).trans (map_fst _ _)
  | authorizeLaunch =>
      exact (congrArg _ ((CapitalWork.outcome_transaction _).trans
        (CapitalWork.outcome_authorizeLaunchBody config env))).trans (map_fst _ _)
  | advanceRampIfReady =>
      exact congrArg _ ((CapitalWork.outcome_transaction _).trans
        (CapitalWork.outcome_advanceRampBody config env))

/-- A transaction on a connection without one leaves the books as they were, or does all
of what it does when nothing fails. -/
theorem transaction_spec {α : Type} {body : CapitalWork ι α} (hstrict : body.Strict)
    (fault : ℕ → Option PyError) (books : CapitalBooks ι) :
    let after := (Work.transaction body).run { answer := env.answer, fault := fault }
      { committed := books }
    (∃ error, after.1 = .error error ∧ after.2.committed = books) ∨
      ∃ value, after.1 = .ok value ∧
        (Work.transaction body).perform env.answer books = (.ok value, after.2.committed) := by
  intro after
  let surroundings : Work.Surroundings CapitalQuery CapitalQuery.Answer PyError :=
    { answer := env.answer, fault := fault }
  let session : Work.Session (CapitalBooks ι) := { committed := books }
  have hidle : session.working = none := rfl
  obtain hfailed | ⟨value, hvalue, hperform⟩ : _ ∨ ∃ value,
      ((Work.transaction body).run surroundings session).1 = .ok value ∧ _ :=
    Work.run_transaction hstrict hidle
  · exact Or.inl hfailed
  · right
    refine ⟨value, hvalue, ?_⟩
    rw [Work.perform_transaction, hperform]

/-- A call leaves the books as they were, or does all of what it does when nothing
fails. -/
theorem call_spec (config : StrategyConfig) (env : AutoEnvironment ι)
    (operation : CapitalOperation) (fault : ℕ → Option PyError)
    (books : CapitalBooks ι) :
    let after := operation.call config env fault books
    (∃ error, after.1 = .error error ∧ after.2 = books) ∨
      ∃ value, after.1 = .ok value ∧
        (operation.work config env).perform env.answer books = (.ok value, after.2) := by
  cases operation with
  | setBaseCapital value =>
      simp only [call, work]
      cases hbase : normalizeMoney value with
      | error error => exact Or.inl ⟨error, rfl, rfl⟩
      | ok base =>
          exact transaction_spec (CapitalWork.strict_setOperatorConfigBody config env (some base) none)
            fault books
  | setRatioPercent percent =>
      simp only [call, work]
      cases hratio : normalizeRatioPercent percent with
      | error error => exact Or.inl ⟨error, rfl, rfl⟩
      | ok ratio =>
          exact transaction_spec (CapitalWork.strict_setOperatorConfigBody config env none (some ratio))
            fault books
  | authorizeLaunch =>
      exact transaction_spec (CapitalWork.strict_authorizeLaunchBody config env) fault books
  | advanceRampIfReady =>
      exact transaction_spec (CapitalWork.strict_advanceRampBody config env) fault books

end CapitalOperation

/-- Wherever something fails in an operator change, the launch or a ramp step, the books
afterwards are the ones before, so that a later call does what it would have done then,
or they are the ones of the call in which nothing failed. -/
theorem capital_operation_all_or_nothing (config : StrategyConfig) (env : AutoEnvironment ι)
    (operation : CapitalOperation) (fault : ℕ → Option PyError) (books : CapitalBooks ι) :
    let after := operation.call config env fault books
    (∃ error, after.1 = .error error ∧ after.2 = books ∧
        ∀ (env' : AutoEnvironment ι) (fault' : ℕ → Option PyError),
          operation.call config env' fault' after.2 = operation.call config env' fault' books) ∨
      ∃ value, after.1 = .ok value ∧
        (operation.work config env).perform env.answer books = (.ok value, after.2) ∧
        operation.transaction.exec config env books.repo = .ok after.2.repo := by
  intro after
  obtain ⟨error, herror, hsame⟩ | ⟨value, hvalue, hperform⟩ :=
    operation.call_spec config env fault books
  · left
    refine ⟨error, herror, hsame, fun env' fault' => ?_⟩
    exact congrArg (operation.call config env' fault') hsame
  · right
    refine ⟨value, hvalue, hperform, ?_⟩
    rw [← CapitalOperation.outcome_work, hperform]
    rfl

/-! ## A live change that fails -/

/-- The capital is as it was, and BUY is closed. -/
structure SystemState.ChangeFailedClosed (before after : SystemState) : Prop where
  capital : after.capital = before.capital
  units : after.performanceUnits = before.performanceUnits
  nav : after.performanceNav = before.performanceNav
  filledDate : after.rampStageFilledTradeDate = before.rampStageFilledTradeDate
  fillSeen : after.rampStageAutoFillSeen = before.rampStageAutoFillSeen
  quarantine : after.startupQuarantine = some true
  halt : after.operatorBuyHalt = some true

/-- After an operation that raises BUY is closed exactly if it was closed already. -/
theorem failed_change_closed_iff (config : StrategyConfig) (env : AutoEnvironment ι)
    (operation : CapitalOperation) (fault : ℕ → Option PyError) (books : CapitalBooks ι)
    {error : PyError} (herror : (operation.call config env fault books).1 = .error error) :
    books.repo.system.ChangeFailedClosed (operation.call config env fault books).2.repo.system ↔
      books.repo.system.startupQuarantine = some true ∧
        books.repo.system.operatorBuyHalt = some true := by
  obtain ⟨-, -, hsame⟩ | ⟨value, hvalue, -⟩ :=
    operation.call_spec config env fault books
  · rw [hsame]
    constructor
    · exact fun hclosed => ⟨hclosed.quarantine, hclosed.halt⟩
    · exact fun hclosed => ⟨rfl, rfl, rfl, rfl, rfl, hclosed.1, hclosed.2⟩
  · rw [hvalue] at herror
    cases herror

namespace FailedChange

/-- A running account of 10,000 USD in cash. -/
def books : CapitalBooks ℕ where
  repo := Repository.launched
    { SystemState.launched 10000 10000 10000 with
      autoVersion := some autoVersion
      baseCapital := some 10000
      ratio := some 1
      targetPrincipal := some 10000
      rampStage := some 0
      performanceUnits := some 10000 } .qqq 0
  events := []
  signals := []

/-- Something in the middle of the change cannot be stored. -/
def storageFailure (clock : ℕ) : Option PyError :=
  if clock = 40 then some (.other "OSError") else none

/-- The operator halves the ratio. -/
def after : Py AutoSettings × CapitalBooks ℕ :=
  (CapitalOperation.setRatioPercent 50).call .strategyYaml .quiet storageFailure books

theorem after_raises : ∃ error, after.1 = .error error := by
  have hraised : after.1.map (·.effectivePrincipal) = .error (.other "OSError") := by decide +kernel
  cases herror : after.1 with
  | error error => exact ⟨error, rfl⟩
  | ok value =>
      rw [herror] at hraised
      cases hraised

end FailedChange

theorem failed_change_closed_iff_at_failure :
    FailedChange.books.repo.system.ChangeFailedClosed FailedChange.after.2.repo.system ↔
      FailedChange.books.repo.system.startupQuarantine = some true ∧
        FailedChange.books.repo.system.operatorBuyHalt = some true := by
  obtain ⟨error, herror⟩ := FailedChange.after_raises
  exact failed_change_closed_iff .strategyYaml .quiet (.setRatioPercent 50)
    FailedChange.storageFailure FailedChange.books herror

/-- The change of a running account fails, and BUY is as open as it was before. -/
theorem failed_change_leaves_buy_open :
    FailedChange.books.repo.system.launchAuthorized = some true ∧
      (∃ error, FailedChange.after.1 = .error error) ∧
      ¬FailedChange.books.repo.system.ChangeFailedClosed FailedChange.after.2.repo.system := by
  have hopen : FailedChange.after.2.repo.system.operatorBuyHalt = some false := by decide +kernel
  refine ⟨rfl, FailedChange.after_raises, fun hclosed => ?_⟩
  rw [hclosed.halt] at hopen
  cases hopen

end JdHoldings

import JdHoldings.Automation.CapitalWork

/-!
# Statement by statement and at once

The capital operations are modelled twice: as transactions on the repository, and
statement by statement on the books.  When nothing fails, the statements of an operation
come to the transaction: `outcome` forgets the tables only these operations write, and
one equation for each statement turns a script into the `do` block of the transaction.
-/

namespace JdHoldings

namespace CapitalBooks

variable {ι : Type} {books : CapitalBooks ι}

@[simp] theorem repo_setSystem (system : SystemState) :
    (books.setSystem system).repo = books.repo.setSystem system := rfl

@[simp] theorem setSystem_setSystem (system system' : SystemState) :
    (books.setSystem system).setSystem system' = books.setSystem system' := rfl

end CapitalBooks

namespace CapitalWork

variable {ι α β : Type} {answer : (query : CapitalQuery) → Py query.Answer} {books : CapitalBooks ι}

section Perform

@[simp] theorem perform_read (f : CapitalBooks ι → α) :
    (read f).perform answer books = (.ok (f books), books) := rfl

@[simp] theorem perform_settings :
    (settings : CapitalWork ι AutoSettings).perform answer books
      = (.ok books.repo.system.settings, books) := rfl

@[simp] theorem perform_commit (f : CapitalBooks ι → CapitalBooks ι) :
    (commit f).perform answer books = (.ok (), f books) := rfl

@[simp] theorem perform_setKey (set : SystemState → SystemState) :
    (setKey set).perform answer books = (.ok (), books.setSystem (set books.repo.system)) := rfl

@[simp] theorem perform_writeUnread :
    (writeUnread : CapitalWork ι Unit).perform answer books = (.ok (), books) := rfl

theorem perform_compute (f : CapitalBooks ι → Py α) :
    (compute f).perform answer books = (f books, books) := by
  unfold compute
  simp only [Work.perform]
  cases f books with
  | error error => rfl
  | ok value => rfl

theorem perform_ofExcept (result : Py α) :
    (ofExcept result : CapitalWork ι α).perform answer books = (result, books) := by
  cases result with
  | error error => rfl
  | ok value => rfl

theorem perform_raiseWhen (bad : Prop) [Decidable bad] (error : PyError) :
    (raiseWhen bad error : CapitalWork ι Unit).perform answer books = (raiseIf bad error, books) := by
  unfold raiseWhen raiseIf
  split
  · rfl
  · rfl

end Perform

/-- What is left of a run for who only looks at the repository. -/
def outcome : Py α × CapitalBooks ι → Py (Repository ι × α)
  | (.ok value, books) => .ok (books.repo, value)
  | (.error error, _) => .error error

theorem outcome_error {run : Py α × CapitalBooks ι} {error : PyError}
    (hrun : outcome run = .error error) : ∃ left, run = (.error error, left) := by
  obtain ⟨result, left⟩ := run
  cases result with
  | error error' =>
      obtain rfl : error' = error := Except.error.inj hrun
      exact ⟨left, rfl⟩
  | ok value => cases hrun

theorem outcome_ok {run : Py α × CapitalBooks ι} {repo : Repository ι} {value : α}
    (hrun : outcome run = .ok (repo, value)) : ∃ left, run = (.ok value, left) ∧ left.repo = repo := by
  obtain ⟨result, left⟩ := run
  cases result with
  | error error => cases hrun
  | ok value' =>
      obtain ⟨hrepo, rfl⟩ := Prod.mk.inj (Except.ok.inj hrun)
      exact ⟨left, rfl, hrepo⟩

theorem outcome_transaction (body : CapitalWork ι α) :
    outcome ((Work.transaction body).perform answer books) = outcome (body.perform answer books) := by
  rw [Work.perform_transaction]
  cases body.perform answer books with
  | mk result left =>
      cases result with
      | error error => rfl
      | ok value => rfl

theorem outcome_applyExternalFlowBase (config : StrategyConfig) (env : AutoEnvironment ι)
    (requested : Decimal) (event : CapitalEvent) :
    outcome ((applyExternalFlowBase config env requested event).perform env.answer books)
      = (JHAutoService.applyExternalFlow config env.quotes books.repo requested).map (·, ()) := by
  simp only [applyExternalFlowBase, JHAutoService.applyExternalFlow, Work.perform_bind, perform_settings]
  split
  · rfl
  · simp only [Work.perform_bind, perform_read, perform_compute]
    cases hbasis : books.repo.flowBasis config env.quotes books.repo.system.settings.effectivePrincipal
      (books.repo.system.performanceUnits.getD 0) with
    | error error => rfl
    | ok basis =>
        obtain ⟨preEquity, nav⟩ := basis
        simp only [perform_raiseWhen, raiseIf]
        by_cases hnegative : unitsAfterFlow (books.repo.system.performanceUnits.getD 0)
            (max 0 (Quantize.halfEven cent requested) - books.repo.system.settings.effectivePrincipal)
            nav < -(1 / 1000000)
        · rw [if_pos hnegative, if_pos hnegative]
          rfl
        · rw [if_neg hnegative, if_neg hnegative]
          simp only [Work.perform_bind, perform_settings, perform_setKey,
            perform_writeUnread, CapitalBooks.repo_setSystem, CapitalBooks.setSystem_setSystem, invalidateTargetGeneration, perform_commit, insertCapitalEvent, Repository.setSystem]
          rfl

theorem outcome_applyExternalFlow (config : StrategyConfig) (env : AutoEnvironment ι)
    (requested : Decimal) (event : CapitalEvent) :
    outcome ((applyExternalFlow config env requested event).perform env.answer books)
      = (ProductionJHAutoService.applyExternalFlow config env.quotes books.repo requested event).map
          (·, ()) := by
  rw [applyExternalFlow, outcome_transaction]
  simp only [Work.perform_bind, perform_settings, when, ProductionJHAutoService.applyExternalFlow]
  by_cases hlaunch : books.repo.system.settings.effectivePrincipal = 0 ∧ event = .launchStage1
  · rw [if_pos hlaunch, if_pos hlaunch]
    simp only [Work.perform_bind, perform_setKey, CapitalBooks.repo_setSystem,
      CapitalBooks.setSystem_setSystem]
    exact outcome_applyExternalFlowBase config env requested event
  · rw [if_neg hlaunch, if_neg hlaunch]
    exact outcome_applyExternalFlowBase config env requested event

theorem outcome_retargetLivePrincipal (config : StrategyConfig) (env : AutoEnvironment ι)
    (before : AutoSettings) (newTarget : Decimal) :
    outcome ((retargetLivePrincipal config env before newTarget).perform env.answer books)
      = (JHAutoService.retargetLivePrincipal config env books.repo before newTarget).map (·, ()) := by
  simp only [retargetLivePrincipal, JHAutoService.retargetLivePrincipal]
  split
  · rfl
  · split
    · simp only [Work.perform_bind, perform_setKey, CapitalBooks.repo_setSystem,
        CapitalBooks.setSystem_setSystem]
      exact outcome_applyExternalFlow config env newTarget .capitalReduction
    · split
      · simp only [Work.perform_bind, perform_setKey, CapitalBooks.repo_setSystem,
          CapitalBooks.setSystem_setSystem, Repository.setSystem_system]
        rfl
      · simp only [Work.perform_bind, perform_setKey, CapitalBooks.repo_setSystem,
          CapitalBooks.setSystem_setSystem, Repository.setSystem_system, Work.perform_ask, AutoEnvironment.answer,
          perform_writeUnread, perform_ofExcept, rampFraction]
        exact outcome_applyExternalFlow config env _ .capitalIncreaseStage1

/-! ### Building blocks -/

theorem outcome_bind {p : CapitalWork ι β} {f : β → CapitalWork ι α} {first : Py (Repository ι × β)}
    (rest : Repository ι → β → Py (Repository ι × α))
    (hp : outcome (p.perform answer books) = first)
    (hf : ∀ value left, outcome ((f value).perform answer left) = rest left.repo value) :
    outcome ((p >>= f).perform answer books) = first >>= fun result => rest result.1 result.2 := by
  cases first with
  | error error =>
      obtain ⟨left, hrun⟩ := outcome_error hp
      rw [Work.perform_bind, hrun]
      rfl
  | ok result =>
      obtain ⟨left, hrun, hrepo⟩ := outcome_ok hp
      rw [Work.perform_bind, hrun]
      exact (hf result.2 left).trans (by rw [hrepo]; rfl)

theorem outcome_settings_bind (f : AutoSettings → CapitalWork ι α) :
    outcome ((settings >>= f).perform answer books)
      = outcome ((f books.repo.system.settings).perform answer books) := rfl

theorem outcome_read_bind (g : CapitalBooks ι → β) (f : β → CapitalWork ι α) :
    outcome ((read g >>= f).perform answer books)
      = outcome ((f (g books)).perform answer books) := rfl

theorem outcome_raiseWhen_bind (bad : Prop) [Decidable bad] (error : PyError)
    (f : Unit → CapitalWork ι α) :
    outcome ((raiseWhen bad error >>= f).perform answer books)
      = raiseIf bad error >>= fun _ => outcome ((f ()).perform answer books) := by
  rw [Work.perform_bind, perform_raiseWhen]
  cases raiseIf bad error with
  | error error => rfl
  | ok value => rfl

theorem outcome_compute_bind (g : CapitalBooks ι → Py β) (f : β → CapitalWork ι α) :
    outcome ((compute g >>= f).perform answer books)
      = g books >>= fun value => outcome ((f value).perform answer books) := by
  rw [Work.perform_bind, perform_compute]
  cases g books with
  | error error => rfl
  | ok value => rfl

theorem outcome_ofExcept_bind (result : Py β) (f : β → CapitalWork ι α) :
    outcome ((ofExcept result >>= f).perform answer books)
      = result >>= fun value => outcome ((f value).perform answer books) := by
  rw [Work.perform_bind, perform_ofExcept]
  cases result with
  | error error => rfl
  | ok value => rfl

theorem outcome_ask_bind (query : CapitalQuery) (f : query.Answer → CapitalWork ι α) :
    outcome ((Work.ask query >>= f).perform answer books)
      = answer query >>= fun value => outcome ((f value).perform answer books) := by
  rw [Work.perform_bind, Work.perform_ask]
  cases answer query with
  | error error => rfl
  | ok value => rfl

theorem outcome_setKey_bind (set : SystemState → SystemState) (f : Unit → CapitalWork ι α) :
    outcome ((setKey set >>= f).perform answer books)
      = outcome ((f ()).perform answer (books.setSystem (set books.repo.system))) := rfl

theorem outcome_writeUnread_bind (f : Unit → CapitalWork ι α) :
    outcome ((writeUnread >>= f).perform answer books) = outcome ((f ()).perform answer books) := rfl

theorem outcome_raiseWhen (bad : Prop) [Decidable bad] (error : PyError) :
    outcome ((raiseWhen bad error : CapitalWork ι Unit).perform answer books)
      = (raiseIf bad error).map fun _ => (books.repo, ()) := by
  rw [perform_raiseWhen]
  cases raiseIf bad error with
  | error error => rfl
  | ok value => rfl

/-- The reconciliation of the launch works on the repository. -/
theorem outcome_reconcile_bind (reconcile : Repository ι → Py (Repository ι × β))
    (f : β → CapitalWork ι α) :
    outcome ((Work.statement (fun books : CapitalBooks ι =>
        (reconcile books.repo).map fun result => (result.2, books.setRepo result.1)) >>= f).perform
          answer books)
      = reconcile books.repo >>= fun result =>
          outcome ((f result.2).perform answer (books.setRepo result.1)) := by
  rw [Work.perform_bind, Work.perform]
  cases reconcile books.repo with
  | error error => rfl
  | ok result => rfl

/-- A write that is left out when it would change nothing. -/
theorem outcome_setKeyWhen_bind (c : Prop) [Decidable c] (set : SystemState → SystemState)
    (f : Unit → CapitalWork ι α) (hsame : ¬c → set books.repo.system = books.repo.system) :
    outcome ((when c (setKey set) >>= f).perform answer books)
      = outcome ((f ()).perform answer (books.setSystem (set books.repo.system))) := by
  by_cases hc : c
  · rw [when, if_pos hc]
    rfl
  · rw [when, if_neg hc, hsame hc]
    rfl

/-- What follows only looks at the repository. -/
theorem outcome_then {p : CapitalWork ι Unit} {f : Unit → CapitalWork ι α}
    {next : Py (Repository ι)} (g : Repository ι → α)
    (hp : outcome (p.perform answer books) = next.map (·, ()))
    (hf : ∀ left, outcome ((f ()).perform answer left) = .ok (left.repo, g left.repo)) :
    outcome ((p >>= f).perform answer books) = next >>= fun repo => .ok (repo, g repo) := by
  rw [outcome_bind (fun repo _ => .ok (repo, g repo)) hp fun _ left => hf left]
  cases next with
  | error error => rfl
  | ok repo => rfl

/-! ### The configuration -/

theorem keep_baseCapital {system : SystemState} {base before : Option Decimal}
    (hbefore : system.baseCapital = before) (hnone : ¬(base <|> before).isSome = true) :
    { system with baseCapital := base <|> before } = system := by
  have hsame : (base <|> before) = system.baseCapital := by
    cases base with
    | some value => exact absurd rfl hnone
    | none => exact hbefore.symm
  rw [hsame]

theorem keep_ratio {system : SystemState} {ratio before : Option Decimal}
    (hbefore : system.ratio = before) (hnone : ¬(ratio <|> before).isSome = true) :
    { system with ratio := ratio <|> before } = system := by
  have hsame : (ratio <|> before) = system.ratio := by
    cases ratio with
    | some value => exact absurd rfl hnone
    | none => exact hbefore.symm
  rw [hsame]

theorem outcome_setOperatorConfigBase (books : CapitalBooks ι) (config : StrategyConfig) (env : AutoEnvironment ι)
    (base ratio : Option Decimal) :
    outcome ((setOperatorConfigBase config env base ratio).perform env.answer books)
      = (JHAutoService.setOperatorConfig config env books.repo base ratio).map
          fun repo => (repo, repo.system.settings) := by
  rw [setOperatorConfigBase, outcome_transaction, outcome_settings_bind, outcome_read_bind,
    outcome_raiseWhen_bind, outcome_raiseWhen_bind, outcome_setKeyWhen_bind, outcome_setKeyWhen_bind]
  · simp only [outcome_setKey_bind, outcome_read_bind, CapitalBooks.repo_setSystem,
        CapitalBooks.setSystem_setSystem, Repository.setSystem_system]
    simp only [JHAutoService.setOperatorConfig, Except.map_then]
    refine congrArg _ (funext fun _ => congrArg _ (funext fun _ => ?_))
    by_cases hlaunched : books.repo.system.settings.launchAuthorized = true
    · rw [if_pos hlaunched, if_pos hlaunched]
      exact outcome_then (·.system.settings) (outcome_retargetLivePrincipal config env _ _)
        fun _ => rfl
    · rw [if_neg hlaunched, if_neg hlaunched]
      rfl
  · exact fun hnone => keep_ratio rfl hnone
  · exact fun hnone => keep_baseCapital rfl hnone

/-- A handler that quarantines and raises again does not change what comes out. -/
theorem outcome_tryCatch_quarantine (p : CapitalWork ι α) :
    outcome ((tryCatchThe PyError p fun error => do
        quarantine
        throw error).perform answer books) = outcome (p.perform answer books) := by
  rw [Work.perform_tryCatch]
  cases p.perform answer books with
  | mk result left =>
      cases result with
      | error error => rfl
      | ok value => rfl

/-- The base configuration and its validation. -/
theorem outcome_validated (config : StrategyConfig) (env : AutoEnvironment ι)
    (base ratio : Option Decimal) (requireConfigured : Bool) :
    outcome ((do
        let updated ← setOperatorConfigBase config env base ratio
        validateCapitalContract requireConfigured
        return updated : CapitalWork ι AutoSettings).perform env.answer books)
      = (do
        let repo ← JHAutoService.setOperatorConfig config env books.repo base ratio
        repo.system.validateCapitalContract requireConfigured
        return (repo, repo.system.settings)) := by
  have hbase := outcome_setOperatorConfigBase books config env base ratio
  cases hpure : JHAutoService.setOperatorConfig config env books.repo base ratio with
  | error error =>
      rw [hpure] at hbase
      obtain ⟨left, hrun⟩ := outcome_error hbase
      rw [Work.perform_bind, hrun]
      rfl
  | ok repo =>
      rw [hpure] at hbase
      obtain ⟨left, hrun, rfl⟩ := outcome_ok hbase
      rw [Work.perform_bind, hrun]
      simp only [validateCapitalContract, outcome_compute_bind]
      rfl

/-- The live change: BUY is closed before it, and closed and quarantined after it. -/
theorem outcome_setOperatorConfigHardened_live (config : StrategyConfig) (env : AutoEnvironment ι)
    (base ratio : Option Decimal) (hlaunched : books.repo.system.settings.launchAuthorized = true) :
    outcome ((setOperatorConfigHardened config env base ratio).perform env.answer books)
      = (do
        let closed := books.repo.setSystem { books.repo.system with
          operatorBuyHalt := some true
          startupQuarantine := some true
          autoState := some .configuring }
        let repo ← JHAutoService.setOperatorConfig config env closed base ratio
        repo.system.validateCapitalContract true
        return (repo.setSystem { repo.system with
          startupQuarantine := some true
          autoState := some .autoQuarantine
          operatorBuyHalt := some true }, repo.system.settings)) := by
  rw [setOperatorConfigHardened, outcome_settings_bind, if_pos hlaunched]
  simp only [outcome_setKey_bind, outcome_writeUnread_bind, CapitalBooks.repo_setSystem,
    CapitalBooks.setSystem_setSystem, Repository.setSystem_system]
  let closedAgain : Repository ι → AutoSettings → Py (Repository ι × AutoSettings) :=
    fun repo updated => .ok (repo.setSystem { repo.system with
      startupQuarantine := some true
      autoState := some .autoQuarantine
      operatorBuyHalt := some true }, updated)
  refine (outcome_bind closedAgain ((outcome_tryCatch_quarantine _).trans
    (outcome_validated config env base ratio true)) fun updated left => rfl).trans ?_
  rw [CapitalBooks.repo_setSystem]
  simp only [bind_assoc]
  rfl

/-- Before the launch there is nothing to close. -/
theorem outcome_setOperatorConfigHardened_idle (config : StrategyConfig) (env : AutoEnvironment ι)
    (base ratio : Option Decimal) (hidle : ¬books.repo.system.settings.launchAuthorized = true) :
    outcome ((setOperatorConfigHardened config env base ratio).perform env.answer books)
      = (do
        let repo ← JHAutoService.setOperatorConfig config env books.repo base ratio
        repo.system.validateCapitalContract false
        return (repo, repo.system.settings)) := by
  rw [setOperatorConfigHardened, outcome_settings_bind, if_neg hidle]
  exact outcome_validated config env base ratio false

/-- The fill flag of a stage that the change entered is cleared, and the settings are read
back. -/
theorem outcome_clearStageFill (before updated : AutoSettings)
    (hstage : updated.rampStage = books.repo.system.settings.rampStage)
    (htarget : updated.rampTargetPrincipal = books.repo.system.settings.rampTargetPrincipal) :
    outcome ((when (0 < updated.rampStage ∧ (before.rampStage ≠ updated.rampStage ∨
        before.rampTargetPrincipal ≠ updated.rampTargetPrincipal))
        (setKey fun system => { system with rampStageAutoFillSeen := some false }) >>=
          fun _ => settings).perform answer books)
      = Except.map (fun repo : Repository ι => (repo, repo.system.settings))
        (if 0 < books.repo.system.settings.rampStage ∧
            (before.rampStage ≠ books.repo.system.settings.rampStage ∨
              before.rampTargetPrincipal ≠ books.repo.system.settings.rampTargetPrincipal) then
          .ok (books.repo.setSystem { books.repo.system with rampStageAutoFillSeen := some false })
        else .ok books.repo) := by
  rw [hstage, htarget, when]
  split
  · rfl
  · rfl

theorem outcome_setOperatorConfigBody (config : StrategyConfig) (env : AutoEnvironment ι)
    (base ratio : Option Decimal) :
    outcome ((setOperatorConfigBody config env base ratio).perform env.answer books)
      = (FinalOpsProductionJHAutoService.setOperatorConfig config env books.repo base ratio).map
          fun repo => (repo, repo.system.settings) := by
  rw [setOperatorConfigBody, outcome_settings_bind]
  simp only [FinalOpsProductionJHAutoService.setOperatorConfig,
    HardenedProductionJHAutoService.setOperatorConfig]
  -- A launched account is quarantined first, and the contract is checked with the launch in it.
  by_cases hlaunched : books.repo.system.settings.launchAuthorized = true
  · rw [if_pos hlaunched]
    have hhardened := outcome_setOperatorConfigHardened_live config env base ratio hlaunched
    cases hpure : JHAutoService.setOperatorConfig config env (books.repo.setSystem
      { books.repo.system with
        operatorBuyHalt := some true
        startupQuarantine := some true
        autoState := some .configuring }) base ratio with
    | error error =>
        simp only [hpure] at hhardened
        obtain ⟨left, hrun⟩ := outcome_error hhardened
        rw [Work.perform_bind, hrun]
        rfl
    | ok repo =>
        cases hvalid : repo.system.validateCapitalContract true with
        | error error =>
            simp only [hpure, Except.ok_then, hvalid] at hhardened
            obtain ⟨left, hrun⟩ := outcome_error hhardened
            rw [Work.perform_bind, hrun]
            simp only [Except.ok_then, hvalid]
            rfl
        | ok valid =>
            simp only [hpure, Except.ok_then, hvalid] at hhardened
            obtain ⟨left, hrun, hrepo⟩ := outcome_ok hhardened
            rw [Work.perform_bind, hrun]
            simp only [Except.ok_then, hvalid]
            rw [← hrepo]
            -- The note of the stage fill is dropped when the settings changed.
            refine outcome_clearStageFill books.repo.system.settings repo.system.settings ?_ ?_
            · rw [hrepo]
              rfl
            · rw [hrepo]
              rfl
  · rw [if_neg hlaunched]
    have hhardened := outcome_setOperatorConfigHardened_idle config env base ratio hlaunched
    cases hpure : JHAutoService.setOperatorConfig config env books.repo base ratio with
    | error error =>
        simp only [hpure] at hhardened
        obtain ⟨left, hrun⟩ := outcome_error hhardened
        rw [Work.perform_bind, hrun]
        rfl
    | ok repo =>
        cases hvalid : repo.system.validateCapitalContract false with
        | error error =>
            simp only [hpure, Except.ok_then, hvalid] at hhardened
            obtain ⟨left, hrun⟩ := outcome_error hhardened
            rw [Work.perform_bind, hrun]
            simp only [Except.ok_then, hvalid]
            rfl
        | ok valid =>
            simp only [hpure, Except.ok_then, hvalid] at hhardened
            obtain ⟨left, hrun, hrepo⟩ := outcome_ok hhardened
            rw [Work.perform_bind, hrun]
            simp only [Except.ok_then, hvalid]
            rw [← hrepo]
            exact outcome_clearStageFill books.repo.system.settings _ rfl rfl

/-! ### The launch -/

theorem outcome_preflightLaunch (books : CapitalBooks ι) (env : AutoEnvironment ι) :
    outcome ((preflightLaunch env).perform env.answer books)
      = (JHAutoService.preflightLaunch env books.repo).map (·, ()) := by
  simp only [preflightLaunch, JHAutoService.preflightLaunch, outcome_settings_bind,
    outcome_raiseWhen_bind, Except.map_then]
  refine congrArg _ (funext fun _ => ?_)
  split
  · rfl
  · simp only [outcome_read_bind, outcome_raiseWhen_bind, outcome_reconcile_bind, outcome_ask_bind,
      outcome_raiseWhen, AutoEnvironment.answer, Except.map_then]
    rfl

theorem outcome_authorizeLaunchBase (books : CapitalBooks ι) (config : StrategyConfig) (env : AutoEnvironment ι) :
    outcome ((authorizeLaunchBase config env).perform env.answer books)
      = (JHAutoService.authorizeLaunch config env books.repo).map
          fun repo => (repo, repo.system.settings) := by
  rw [authorizeLaunchBase, outcome_transaction, JHAutoService.authorizeLaunch, Except.map_then]
  have hpreflight := outcome_preflightLaunch books env
  cases hpure : JHAutoService.preflightLaunch env books.repo with
  | error error =>
      rw [hpure] at hpreflight
      obtain ⟨left, hrun⟩ := outcome_error hpreflight
      rw [Work.perform_bind, hrun]
      rfl
  | ok repo =>
      rw [hpure] at hpreflight
      obtain ⟨left, hrun, rfl⟩ := outcome_ok hpreflight
      rw [Work.perform_bind, hrun, Except.ok_then]
      show outcome (Work.perform env.answer (settings >>= _) left) = _
      rw [outcome_settings_bind]
      simp only []
      by_cases hlaunched : left.repo.system.settings.launchAuthorized = true
      · rw [if_pos hlaunched, if_pos hlaunched, outcome_read_bind, outcome_raiseWhen_bind, Except.map_then]
        rfl
      · rw [if_neg hlaunched, if_neg hlaunched]
        simp only [outcome_setKey_bind, outcome_writeUnread_bind, outcome_ask_bind,
          outcome_ofExcept_bind, CapitalBooks.repo_setSystem,
          CapitalBooks.setSystem_setSystem, Repository.setSystem_system, AutoEnvironment.answer,
          Except.ok_then, rampFraction]
        exact outcome_then (·.system.settings)
          (outcome_applyExternalFlow config env _ .launchStage1) fun _ => rfl

theorem outcome_authorizeLaunchBody (config : StrategyConfig) (env : AutoEnvironment ι) :
    outcome ((authorizeLaunchBody config env).perform env.answer books)
      = (FinalOpsProductionJHAutoService.authorizeLaunch config env books.repo).map
          fun repo => (repo, repo.system.settings) := by
  rw [authorizeLaunchBody, outcome_settings_bind]
  simp only [FinalOpsProductionJHAutoService.authorizeLaunch]
  have hbase := outcome_authorizeLaunchBase books config env
  cases hpure : JHAutoService.authorizeLaunch config env books.repo with
  | error error =>
      rw [hpure] at hbase
      obtain ⟨left, hrun⟩ := outcome_error hbase
      rw [Work.perform_bind, hrun]
      rfl
  | ok repo =>
      rw [hpure] at hbase
      obtain ⟨left, hrun, rfl⟩ := outcome_ok hbase
      rw [Work.perform_bind, hrun, Except.ok_then]
      simp only [when]
      split
      · rfl
      · rfl

/-! ### The ramp -/

/-- The fill date of the stage is written when there is none. -/
theorem outcome_markFilled_bind (completed : Date) (f : Unit → CapitalWork ι α) :
    outcome ((when (books.repo.system.rampStageFilledTradeDate = none) (do
        setKey fun system => { system with rampStageFilledTradeDate := some completed }
        writeUnread) >>= f).perform answer books)
      = outcome ((f ()).perform answer (books.setSystem { books.repo.system with
          rampStageFilledTradeDate :=
            some (books.repo.system.rampStageFilledTradeDate.getD completed) })) := by
  cases hraw : books.repo.system.rampStageFilledTradeDate with
  | none =>
      rw [when, if_pos rfl]
      rfl
  | some date =>
      rw [when, if_neg nofun, Option.getD_some, ← hraw]
      rfl

/-- A fill date is dropped when there is one. -/
theorem outcome_dropFilled_bind (f : Unit → CapitalWork ι α) :
    outcome ((when (books.repo.system.rampStageFilledTradeDate.isSome = true)
        (setKey fun system => { system with rampStageFilledTradeDate := none }) >>= f).perform
          answer books)
      = outcome ((f ()).perform answer (books.setSystem { books.repo.system with
          rampStageFilledTradeDate := none })) := by
  refine outcome_setKeyWhen_bind _ _ f fun hnone => ?_
  rw [← Option.not_isSome_iff_eq_none.mp hnone]

theorem outcome_advanceRampBase (books : CapitalBooks ι) (config : StrategyConfig) (env : AutoEnvironment ι) :
    outcome ((advanceRampBase config env).perform env.answer books)
      = JHAutoService.advanceRampIfReady config env books.repo := by
  rw [advanceRampBase, outcome_transaction, outcome_settings_bind]
  simp only [JHAutoService.advanceRampIfReady]
  split
  · rfl
  rw [outcome_read_bind]
  split
  · rfl
  simp only [outcome_read_bind]
  split
  · rfl
  simp only [outcome_ask_bind, outcome_read_bind, AutoEnvironment.answer]
  show outcome _ = _
  by_cases hfilled : books.repo.stageFilled env = false
  · rw [if_pos hfilled, if_pos hfilled, outcome_dropFilled_bind]
    rfl
  · rw [if_neg hfilled, if_neg hfilled, outcome_markFilled_bind]
    by_cases hlast : books.repo.system.settings.rampStage = 3
    · rw [if_pos hlast, if_pos hlast]
      rfl
    · rw [if_neg hlast, if_neg hlast, outcome_ask_bind]
      show outcome _ = _
      by_cases hearly : env.completedSessionsSince
          (books.repo.system.rampStageFilledTradeDate.getD env.latestCompletedDate)
            < minimumStageSessions
      · rw [if_pos hearly, if_pos hearly]
        rfl
      · rw [if_neg hearly, if_neg hearly]
        simp only [outcome_ofExcept_bind, outcome_setKey_bind,
          outcome_writeUnread_bind, CapitalBooks.repo_setSystem, CapitalBooks.setSystem_setSystem,
          Repository.setSystem_system]
        refine congrArg _ (funext fun fraction => ?_)
        exact outcome_then (fun _ => true) (outcome_applyExternalFlow config env _ _) fun _ => rfl

theorem outcome_advanceRampBody (config : StrategyConfig) (env : AutoEnvironment ι) :
    outcome ((advanceRampBody config env).perform env.answer books)
      = FinalOpsProductionJHAutoService.advanceRampIfReady config env books.repo := by
  rw [advanceRampBody, outcome_settings_bind]
  simp only [FinalOpsProductionJHAutoService.advanceRampIfReady]
  have hbase := outcome_advanceRampBase books config env
  cases hpure : JHAutoService.advanceRampIfReady config env books.repo with
  | error error =>
      rw [hpure] at hbase
      obtain ⟨left, hrun⟩ := outcome_error hbase
      rw [Work.perform_bind, hrun]
      rfl
  | ok result =>
      obtain ⟨repo, changed⟩ := result
      rw [hpure] at hbase
      obtain ⟨left, hrun, rfl⟩ := outcome_ok hbase
      rw [Work.perform_bind, hrun, Except.ok_then]
      show outcome (Work.perform env.answer (settings >>= _) left) = _
      rw [outcome_settings_bind]
      simp only [when]
      split
      · rfl
      · rfl

end CapitalWork

end JdHoldings

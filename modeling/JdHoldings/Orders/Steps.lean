import JdHoldings.Orders.Discipline

/-!
# The steps of the other services

Every step of the order monitor, the reconciliation, the circuit breaker, the
quarantine and an operator change meets the order discipline in whatever state it
is taken, so that the programs put together from them do.  Only `submit` needs an
argument of its own.
-/

namespace JdHoldings

variable {τ ι α : Type} [DecidableEq ι] {old : ι → Prop} {self : τ} {held : Bool}

/-! ## Notes in the log -/

omit [DecidableEq ι] in
/-- The event is no POST of an order, places no BUY and does not move the halt. -/
def Event.isPlain : Event τ ι → Bool
  | .sent _ .post (.createOrder _) | .closed _ | .reopened _ => false
  | .placing _ request _ _ => decide (request.side = .sell)
  | _ => true

theorem Event.isPostOf_of_isPlain {event : Event τ ι} (hplain : event.isPlain = true) (id : ι) :
    event.isPostOf id = false := by
  cases event with
  | sent thread method request => cases method <;> cases request <;> simp_all [isPlain, isPostOf]
  | _ => rfl

omit [DecidableEq ι] in
theorem shut_of_isPlain {event : Event τ ι} (hplain : event.isPlain = true)
    (log : List (Event τ ι)) : shut (event :: log) = shut log := by
  cases event with
  | closed thread => cases hplain
  | reopened thread => cases hplain
  | _ => rfl

omit [DecidableEq ι] in
theorem Placings.of_isPlain {event : Event τ ι} (hplain : event.isPlain = true)
    {log : List (Event τ ι)} (hplacings : Placings log) : Placings (event :: log) := by
  cases event with
  | placing thread request system checks =>
      have hsell : request.side = .sell := of_decide_eq_true hplain
      exact ⟨fun hbuy => absurd (hsell.symm.trans hbuy) (by decide), hplacings⟩
  | _ => exact hplacings

theorem World.posts_record (world : World τ ι) (event : Event τ ι) (id : ι) :
    (world.record event).posts id = world.posts id + if event.isPostOf id then 1 else 0 := by
  simp only [posts, record_log, List.countP_cons]

/-- A note that is no POST keeps the invariant, if it fits the halt and the checks. -/
theorem OrderInvariant.record {world : World τ ι} (hinvariant : OrderInvariant old world)
    {event : Event τ ι} (hpost : ∀ id, event.isPostOf id = false)
    (hshut : shut (event :: world.log) = true → world.repo.system.operatorBuyHalt = some true)
    (hplacings : Placings (event :: world.log)) :
    Keeps self held world (world.record event) ∧ OrderInvariant old (world.record event) := by
  have hposts : ∀ id, (world.record event).posts id = world.posts id := fun id => by
    simp [World.posts_record, hpost]
  refine ⟨⟨fun _ h => h, fun _ _ => rfl, fun id _ => hposts id, fun _ => rfl,
    List.suffix_cons _ _⟩, ?_⟩
  exact {
    once := fun id => by rw [hposts]; exact hinvariant.once id
    reserved := fun id h => hinvariant.reserved id (by rwa [hposts] at h)
    old := fun id h => ⟨(hinvariant.old id h).1, by rw [hposts]; exact (hinvariant.old id h).2⟩
    halted := hshut
    placings := hplacings }

theorem tame_record {event : Event τ ι} (hplain : event.isPlain = true) :
    Proc.Tame (orderDiscipline old self) held (record event) :=
  .modify fun world hinvariant => hinvariant.record (Event.isPostOf_of_isPlain hplain)
    (fun h => hinvariant.halted (by rwa [shut_of_isPlain hplain] at h))
    (hinvariant.placings.of_isPlain hplain)

/-! ## Writes of the database -/

/-- A write that deletes no row, leaves BUY halted, and touches no boundary key
unless the lock is held. -/
structure Repository.Respects (held : Bool) (repo repo' : Repository ι) : Prop where
  rows : ∀ id, (repo.orders.get? id).isSome = true → (repo'.orders.get? id).isSome = true
  halted : repo.system.operatorBuyHalt = some true → repo'.system.operatorBuyHalt = some true
  boundary : held = false → repo'.system.boundary = repo.system.boundary

theorem OrderInvariant.setRepo {world : World τ ι} (hinvariant : OrderInvariant old world)
    {repo : Repository ι} (hrespects : world.repo.Respects held repo) :
    Keeps self held world (world.setRepo repo) ∧ OrderInvariant old (world.setRepo repo) := by
  refine ⟨⟨hrespects.rows, fun _ _ => rfl, fun _ _ => rfl, hrespects.boundary,
    List.suffix_rfl⟩, ?_⟩
  exact {
    once := hinvariant.once
    reserved := fun id h => hrespects.rows id (hinvariant.reserved id h)
    old := fun id h => ⟨hrespects.rows id (hinvariant.old id h).1, (hinvariant.old id h).2⟩
    halted := fun h => hrespects.halted (hinvariant.halted h)
    placings := hinvariant.placings }

theorem tame_setSystemValue {set : SystemState → SystemState}
    (hhalted : ∀ system, system.operatorBuyHalt = some true →
      (set system).operatorBuyHalt = some true)
    (hboundary : held = false → ∀ system, (set system).boundary = system.boundary) :
    Proc.Tame (orderDiscipline (ι := ι) old self) held (setSystemValue set) :=
  .modify fun _ hinvariant => hinvariant.setRepo
    ⟨fun _ h => h, hhalted _, fun hheld => hboundary hheld _⟩

theorem tame_transact {f : Repository ι → Py (Repository ι × α)}
    (hf : ∀ repo repo' value, f repo = .ok (repo', value) → repo.Respects held repo') :
    Proc.Tame (orderDiscipline old self) held (transact f) := by
  refine .transaction (orderDiscipline_lawful old self) fun world world' value hinvariant hok => ?_
  cases hresult : f world.repo with
  | error error => rw [hresult] at hok; cases hok
  | ok result =>
      rw [hresult] at hok
      obtain ⟨rfl, -⟩ := Prod.mk.inj (Except.ok.inj hok)
      exact hinvariant.setRepo (hf world.repo result.1 result.2 hresult)

theorem tame_onRepo {f : Repository ι → Py (Repository ι)}
    (hf : ∀ repo repo', f repo = .ok repo' → repo.Respects held repo') :
    Proc.Tame (orderDiscipline old self) held (onRepo f) := by
  refine tame_transact fun repo repo' value hok => ?_
  cases hresult : f repo with
  | error error => rw [hresult] at hok; cases hok
  | ok result =>
      rw [hresult] at hok
      obtain ⟨rfl, -⟩ := Prod.mk.inj (Except.ok.inj hok)
      exact hf repo result hresult

theorem Repository.respects_updateOrder {repo repo' : Repository ι} {clientOrderId : ι}
    {update : OrderUpdate} (hok : repo.updateOrder clientOrderId update = .ok repo') :
    repo.Respects held repo' := by
  obtain ⟨existing, row, status, hget, hupdated, rfl⟩ := Repository.updateOrder_ok hok
  have hkey : row.clientOrderId = clientOrderId :=
    hupdated.clientOrderId.trans (Table.key_of_get? hget)
  refine ⟨fun id h => ?_, fun h => h, fun _ => rfl⟩
  rwa [Table.isSome_get?_replace id (by rw [hkey]; exact hget)]

theorem tame_updateOrder (clientOrderId : ι) (update : OrderUpdate) :
    Proc.Tame (orderDiscipline old self) held (updateOrder clientOrderId update) :=
  tame_onRepo fun _ _ hok => Repository.respects_updateOrder hok

theorem tame_of_quiet {p : Action τ ι α} (hquiet : Proc.Quiet p) :
    Proc.Tame (orderDiscipline old self) held p := .of_quiet (orderDiscipline_lawful old self) hquiet

/-! ## Reads -/

section Quiet

omit [DecidableEq ι]

theorem quiet_readRepo (f : Repository ι → α) : Proc.Quiet (readRepo f : Action τ ι α) := .read _

theorem quiet_getSystemValue (key : SystemState → α) :
    Proc.Quiet (getSystemValue key : Action τ ι α) := .read _

theorem quiet_readSettings : Proc.Quiet (readSettings : Action τ ι SystemState) := by
  unfold readSettings
  iterate 11 refine .bind (quiet_getSystemValue _) fun _ => ?_
  exact .pure _

theorem quiet_validateCapitalContract (requireConfigured : Bool) :
    Proc.Quiet (validateCapitalContract requireConfigured : Action τ ι Unit) := by
  refine .bind quiet_readSettings fun _ => ?_
  iterate 2 refine .bind (quiet_getSystemValue _) fun _ => ?_
  exact .ofExcept _

theorem quiet_portfolioIsInSafeMode : Proc.Quiet (portfolioIsInSafeMode : Action τ ι Bool) := by
  refine .bind (quiet_getSystemValue _) fun flag => .ite (fun _ => .pure _) fun _ => ?_
  iterate 2 refine .bind (quiet_readRepo _) fun _ => ?_
  exact .pure _

theorem quiet_autoIsEnabled : Proc.Quiet (autoIsEnabled : Action τ ι Bool) :=
  .bind (quiet_getSystemValue _) fun _ => .pure _

theorem quiet_safeModeReasons :
    Proc.Quiet (OperatorSafetyService.safeModeReasons : Action τ ι (List String)) := by
  refine .bind (quiet_getSystemValue _) fun _ => ?_
  iterate 2 refine .bind (quiet_readRepo _) fun _ => ?_
  exact .pure _

theorem quiet_authenticate (force : Bool) :
    Proc.Quiet (TossClient.authenticate force : Action τ ι Unit) :=
  .bind (.ask _) fun _ => .ofExcept _

theorem quiet_refreshToken : Proc.Quiet (TossClient.refreshToken : Action τ ι Bool) := by
  refine .tryCatch (.bind (quiet_authenticate true) fun _ => .pure _) fun error => ?_
  cases error with
  | tossApi apiError => exact .pure _
  | _ => exact .raise _

theorem quiet_getOrder (orderId : BrokerOrderId) :
    Proc.Quiet (TossClient.getOrder orderId : Action τ ι (BrokerOrder ι)) :=
  .bind (.ask _) fun _ => .ofExcept _

theorem quiet_getBuyingPower : Proc.Quiet (TossClient.getBuyingPower : Action τ ι Decimal) :=
  .bind (.ask _) fun _ => .ofExcept _

end Quiet

/-! ## Requests -/

/-- A request that creates no order may be sent at any time. -/
theorem tame_sessionRequest {method : HttpMethod} {path : ApiRequest ι}
    (hplain : (Event.sent self method path).isPlain = true) :
    Proc.Tame (orderDiscipline old self) held (TossClient.sessionRequest self method path) := by
  refine .bind (tame_of_quiet (quiet_authenticate false)) fun _ => ?_
  refine .bind (tame_record hplain) fun _ => .bind (tame_of_quiet (.ask _)) fun outcome => ?_
  refine .bind (tame_record rfl) fun _ => tame_of_quiet ?_
  cases outcome <;> trivial

theorem tame_request {method : HttpMethod} {path : ApiRequest ι}
    (hplain : (Event.sent self method path).isPlain = true) (retries : ℕ) :
    Proc.Tame (orderDiscipline old self) held (TossClient.request self method path retries) := by
  induction retries with
  | zero => exact .bind (tame_sessionRequest hplain) fun _ => tame_of_quiet (.ofExcept _)
  | succ retries ih =>
      refine .bind (tame_sessionRequest hplain) fun response => ?_
      refine .ite (fun _ => ?_) fun _ => tame_of_quiet (.ofExcept _)
      refine .bind (tame_of_quiet quiet_refreshToken) fun refreshed => ?_
      exact .ite (fun _ => ih) fun _ => tame_of_quiet (.raise _)

theorem tame_cancelOrder (orderId : BrokerOrderId) :
    Proc.Tame (orderDiscipline (ι := ι) old self) held (TossClient.cancelOrder self orderId) := by
  refine .bind (tame_request rfl 1) fun result => tame_of_quiet ?_
  cases result with
  | missing => trivial
  | notObject => trivial
  | object order =>
      simp only
      split
      · exact .ite (fun _ => .raise _) fun _ => .pure _
      · trivial

/-! ## The circuit breaker -/

/-- A write of the halt and a note about it are one step under the lock. -/
private theorem OrderInvariant.moveHalt {world : World τ ι} (hinvariant : OrderInvariant old world)
    {repo : Repository ι} {event : Event τ ι} (hpost : ∀ id, event.isPostOf id = false)
    (hplacings : Placings (event :: world.log)) (horders : repo.orders = world.repo.orders)
    (hshut : shut (event :: world.log) = true → repo.system.operatorBuyHalt = some true) :
    Keeps self true world ((world.setRepo repo).record event) ∧
      OrderInvariant old ((world.setRepo repo).record event) := by
  have hposts : ∀ id, ((world.setRepo repo).record event).posts id = world.posts id := fun id => by
    simp [World.posts_record, hpost]
    rfl
  have hrows : ∀ id, world.Reserved id → ((world.setRepo repo).record event).Reserved id :=
    fun id h => by simpa [World.Reserved, horders] using h
  refine ⟨⟨hrows, fun _ _ => rfl, fun id _ => hposts id, fun h => Bool.noConfusion h,
    List.suffix_cons _ _⟩, ?_⟩
  exact {
    once := fun id => by rw [hposts]; exact hinvariant.once id
    reserved := fun id h => hrows id (hinvariant.reserved id (by rwa [hposts] at h))
    old := fun id h =>
      ⟨hrows id (hinvariant.old id h).1, by rw [hposts]; exact (hinvariant.old id h).2⟩
    halted := hshut
    placings := hplacings }

theorem tame_shutBuy : Proc.Tame (orderDiscipline (ι := ι) old self) true (shutBuy self) :=
  .modify fun _ hinvariant =>
    hinvariant.moveHalt (fun _ => rfl) hinvariant.placings rfl fun _ => rfl

theorem tame_openBuy : Proc.Tame (orderDiscipline (ι := ι) old self) true (openBuy self) :=
  .modify fun _ hinvariant =>
    hinvariant.moveHalt (fun _ => rfl) hinvariant.placings rfl nofun

theorem tame_cancelOpenBuys (orders : List (OrderRow ι)) :
    Proc.Tame (orderDiscipline old self) held
      (OperatorSafetyService.cancelOpenBuys self orders) := by
  induction orders with
  | nil => exact tame_of_quiet (.pure ())
  | cons order rest ih =>
      refine .bind ?_ fun _ => ih
      unfold OperatorSafetyService.cancelOpenBuy
      split
      · exact tame_of_quiet (.pure ())
      · refine .tryCatch ?_ fun _ => tame_of_quiet (.pure ())
        refine .bind (tame_cancelOrder _) fun _ => ?_
        exact .bind (tame_of_quiet (quiet_getOrder _)) fun _ => tame_of_quiet (.pure ())

/-- A key that is no boundary key may be written at any time, and the latch under
the lock. -/
theorem tame_setLatch (latch : Bool) :
    Proc.Tame (orderDiscipline (ι := ι) old self) true
      (setSystemValue fun system => { system with operatorHaltLatched := some latch }) :=
  tame_setSystemValue (fun _ h => h) nofun

theorem safe_halt : Proc.Safe (orderDiscipline (ι := ι) old self)
    (OperatorSafetyService.halt self) := by
  refine .bind (.withLock ?_) fun _ => .of_tame (tame_record rfl)
  refine .bind tame_shutBuy fun _ => .bind (tame_of_quiet quiet_autoIsEnabled) fun _ => ?_
  refine .bind (.when (orderDiscipline_lawful old self) (tame_setLatch true)) fun _ => ?_
  exact .bind (tame_of_quiet (quiet_readRepo _)) fun orders => tame_cancelOpenBuys orders

/-! ### Resuming -/

/-- A transaction of another service: it deletes no order row and leaves the
boundary keys alone. -/
def Elsewhere (f : Repository ι → Py (Repository ι × α)) : Prop :=
  ∀ repo repo' value, f repo = .ok (repo', value) →
    (∀ id, (repo.orders.get? id).isSome = true → (repo'.orders.get? id).isSome = true) ∧
      repo'.system.boundary = repo.system.boundary

theorem SystemState.halted_of_boundary {system system' : SystemState}
    (hboundary : system'.boundary = system.boundary)
    (hhalted : system.operatorBuyHalt = some true) : system'.operatorBuyHalt = some true := by
  have hhalt := congrArg BoundaryKeys.operatorBuyHalt hboundary
  exact hhalt.trans hhalted

theorem Elsewhere.tame {f : Repository ι → Py (Repository ι × α)} (helsewhere : Elsewhere f) :
    Proc.Tame (orderDiscipline old self) held (transact f) := by
  refine tame_transact fun repo repo' value hok => ?_
  obtain ⟨hrows, hboundary⟩ := helsewhere repo repo' value hok
  exact ⟨hrows, SystemState.halted_of_boundary hboundary, fun _ => hboundary⟩

theorem tame_recoverPosition (symbol : EnabledSymbol) (recovery : OperatorSafetyService.Recovery) :
    Proc.Tame (orderDiscipline (ι := ι) old self) held
      (OperatorSafetyService.recoverPosition symbol recovery) := by
  cases recovery with
  | running => exact tame_of_quiet (.pure ())
  | blocked => exact tame_of_quiet (.pure ())
  | recoverable =>
      refine tame_onRepo fun repo repo' hok => ?_
      rw [Repository.transitionPosition_ok hok]
      exact ⟨fun _ h => h, fun h => h, fun _ => rfl⟩

omit [DecidableEq ι] in
theorem quiet_inspectSafeMode (symbol : EnabledSymbol) :
    Proc.Quiet (OperatorSafetyService.inspectSafeMode symbol :
      Action τ ι OperatorSafetyService.Recovery) :=
  .bind (quiet_readRepo _) fun _ => .ite (fun _ => .pure _)
    fun _ => .bind (.ask _) fun _ => .pure _

theorem tame_recoverCleanReconciliationSafeMode :
    Proc.Tame (orderDiscipline (ι := ι) old self) held
      OperatorSafetyService.recoverCleanReconciliationSafeMode := by
  refine .bind (tame_of_quiet (quiet_inspectSafeMode _)) fun tqqq => ?_
  refine .bind (tame_of_quiet (quiet_inspectSafeMode _)) fun soxl => ?_
  refine .ite (fun _ => tame_of_quiet (.pure _)) fun _ => ?_
  refine .bind (tame_recoverPosition _ _) fun _ => .bind (tame_recoverPosition _ _) fun _ => ?_
  refine .bind (tame_of_quiet (quiet_getSystemValue _)) fun flag => ?_
  refine .bind (.when (orderDiscipline_lawful old self) ?_) fun _ => tame_of_quiet (.pure _)
  exact tame_setSystemValue (fun _ h => h) fun _ _ => rfl

theorem tame_proveClean {reconciliation : ReconciliationRun ι}
    (hreconciliation : Elsewhere reconciliation) :
    Proc.Tame (orderDiscipline old self) held
      (OperatorSafetyService.proveClean reconciliation) := by
  refine .bind hreconciliation.tame fun _ => .bind (tame_of_quiet (.raiseIf _ _)) fun _ => ?_
  refine .bind tame_recoverCleanReconciliationSafeMode fun _ => ?_
  refine .bind (tame_of_quiet (.raiseIf _ _)) fun _ => tame_of_quiet ?_
  refine .bind quiet_safeModeReasons fun _ => .bind (.raiseIf _ _) fun _ => ?_
  exact .bind (quiet_readRepo _) fun _ => .raiseIf _ _

theorem safe_resume {reconciliation : ReconciliationRun ι}
    (hreconciliation : Elsewhere reconciliation) :
    Proc.Safe (orderDiscipline old self) (OperatorSafetyService.resume self reconciliation) := by
  have hlawful := orderDiscipline_lawful (ι := ι) old self
  refine .bind (.of_quiet hlawful (quiet_getSystemValue _)) fun halt => ?_
  refine .bind (.of_quiet hlawful quiet_autoIsEnabled) fun enabled => ?_
  refine .bind (.of_quiet hlawful (quiet_getSystemValue _)) fun latch => ?_
  refine .bind (.of_quiet hlawful quiet_safeModeReasons) fun reasons => ?_
  refine .ite (.of_quiet hlawful (.pure ())) ?_
  -- The temporary halt only shuts.
  refine .bind (.when hlawful (.withLock (tame_setSystemValue (fun _ _ => rfl) nofun))) fun _ => ?_
  refine .bind (.of_tame (tame_proveClean hreconciliation)) fun _ => .withLock ?_
  refine .bind (tame_of_quiet (quiet_readRepo _)) fun _ => ?_
  refine .bind (tame_of_quiet (.raiseIf _ _)) fun _ => ?_
  refine .bind (tame_of_quiet quiet_safeModeReasons) fun _ => ?_
  refine .bind (tame_of_quiet (.raiseIf _ _)) fun _ => .bind tame_openBuy fun _ => ?_
  exact .bind (tame_of_quiet quiet_autoIsEnabled) fun _ => .when hlawful (tame_setLatch false)

/-! ## The quarantine -/

theorem tame_setAutoState (state : AutoState) :
    Proc.Tame (orderDiscipline (ι := ι) old self) held (setAutoState state) :=
  tame_setSystemValue (fun _ h => h) fun _ _ => rfl

theorem tame_setQuarantine (quarantined : Bool) :
    Proc.Tame (orderDiscipline (ι := ι) old self) true
      (setSystemValue fun system => { system with startupQuarantine := some quarantined }) :=
  tame_setSystemValue (fun _ h => h) nofun

theorem safe_quarantine :
    Proc.Safe (orderDiscipline (ι := ι) old self) (JHAutoService.quarantine self) := by
  refine .bind (.withLock ?_) fun _ => .of_tame (tame_record rfl)
  exact .bind (tame_setQuarantine true) fun _ => .bind (tame_setAutoState _) fun _ => tame_shutBuy

theorem tame_releaseSection :
    Proc.Tame (orderDiscipline (ι := ι) old self) true (JHAutoService.releaseSection self) := by
  refine .bind (tame_of_quiet (quiet_getSystemValue _)) fun latch => ?_
  refine .ite (fun _ => .bind (tame_setAutoState _) fun _ => tame_of_quiet (.pure _)) fun _ => ?_
  refine .bind (tame_of_quiet quiet_portfolioIsInSafeMode) fun safeMode => ?_
  refine .bind (tame_of_quiet (quiet_readRepo _)) fun openOrders => ?_
  refine .ite (fun _ => tame_of_quiet (.pure _)) fun _ => .bind tame_openBuy fun _ => ?_
  refine .bind (tame_setQuarantine false) fun _ => .bind (tame_setAutoState _) fun _ => ?_
  exact tame_of_quiet (.pure _)

theorem safe_tryReleaseQuarantine (safetyReady : Bool) :
    Proc.Safe (orderDiscipline (ι := ι) old self)
      (HardenedProductionJHAutoService.tryReleaseQuarantine self safetyReady) := by
  have hlawful := orderDiscipline_lawful (ι := ι) old self
  have hstate : ∀ state, Proc.Safe (orderDiscipline (ι := ι) old self)
      (do setAutoState state; return false) := fun state =>
    .bind (.of_tame (tame_setAutoState state)) fun _ => .of_quiet hlawful (.pure _)
  refine .bind (.of_quiet hlawful quiet_readSettings) fun view => ?_
  refine .bind (.when hlawful (.of_quiet hlawful (quiet_validateCapitalContract _))) fun _ => ?_
  refine .bind (.of_quiet hlawful quiet_readSettings) fun view => ?_
  refine .ite (hstate _) (.ite (hstate _) ?_)
  refine .bind (.of_quiet hlawful quiet_portfolioIsInSafeMode) fun safeMode => .ite (hstate _) ?_
  refine .bind (.of_quiet hlawful (quiet_readRepo _)) fun openOrders => ?_
  exact .ite (.of_quiet hlawful (.pure _)) (.withLock tame_releaseSection)

/-! ## An operator change -/

/-- A capital transaction respects the discipline when its reconciliation does. -/
theorem CapitalOp.respects {config : StrategyConfig} {env : AutoEnvironment ι} {op : CapitalOp}
    (hreconciliation : Elsewhere env.reconciliation.run) {repo repo' : Repository ι}
    (hok : op.exec config env repo = .ok repo') : repo.Respects true repo' := by
  obtain ⟨checked, hchecked, hsame⟩ := Repository.SameLedger.of_capitalOp hok
  have hrespects : repo.Respects true checked := by
    rcases hchecked with rfl | ⟨-, -, mismatches, hrun⟩
    · exact ⟨fun _ h => h, fun h => h, nofun⟩
    · obtain ⟨hrows, hboundary⟩ := hreconciliation repo checked mismatches hrun
      exact ⟨hrows, SystemState.halted_of_boundary hboundary, nofun⟩
  exact ⟨fun id h => by rw [hsame.orders]; exact hrespects.rows id h,
    fun h => hsame.halted (hrespects.halted h), nofun⟩

theorem safe_atomicAutoChange {config : StrategyConfig} {env : AutoEnvironment ι} {op : CapitalOp}
    (hreconciliation : Elsewhere env.reconciliation.run) :
    Proc.Safe (orderDiscipline old self) (atomicAutoChange config env op) :=
  .withLock (tame_onRepo fun _ _ hok => CapitalOp.respects hreconciliation hok)

end JdHoldings

import JdHoldings.Capital.SameLedger
import JdHoldings.Ledger.AccountRun

/-!
# Cash and positions count the same trades

Cash is rebuilt from the orders created since the launch; a core row is folded from
all bookings.  The two agree when nothing an earlier order has filled reaches a row
after the launch.

* A launch leaves empty rows and no open order (`authorizeLaunch_flat`).  What it does
  not look at are stored fills that no booking has reached: `carriedShares`.
* Since the launch, a row differs from the counted trades by just those shares
  (`positions_count_cash_trades_iff`).
-/

namespace JdHoldings

variable {ι : Type}

variable [DecidableEq ι]

/-- No order created before `start` receives further fills. -/
def Repository.FillsFrozen (start : Timestamp) (repo repo' : Repository ι) : Prop :=
  ∀ row ∈ repo.orders, row.createdAt < start →
    ∀ row', repo'.orders.get? row.clientOrderId = some row' → row'.filledQty = row.filledQty

/-- What can follow a launch at `start`. -/
inductive SinceLaunch (config : StrategyConfig) (start : Timestamp) (launched : Repository ι) :
    Repository ι → Prop
  | launched : SinceLaunch config start launched launched
  | step {repo repo' : Repository ι} (reached : SinceLaunch config start launched repo)
      (next : AccountStep config repo repo') (frozen : repo.FillsFrozen start repo') :
      SinceLaunch config start launched repo'

/-! ## What orders before the launch have filled -/

/-- The filled quantity of an order, if it was created before `start`. -/
def OrderRow.filledBefore (start : Timestamp) (row : OrderRow ι) : ℕ :=
  if row.createdAt < start then row.filledQty else 0

/-- What the orders created before `start` have filled beyond what is booked. -/
def Repository.carriedShares (repo : Repository ι) (start : Timestamp)
    (symbol : AllocationSymbol) : ℤ :=
  repo.moved symbol (fun row => row.filledBefore start) -
    repo.moved symbol fun row => repo.appliedFilledQty row.clientOrderId

/-- The quantity of an order that the reconstruction of the cash counts. -/
def SystemState.countedQty (system : SystemState) (row : OrderRow ι) : ℕ :=
  if system.inAccounting row then row.filledQty else 0

/-- Every core row holds what the counted orders have moved. -/
def Repository.PositionsCounted (repo : Repository ι) : Prop :=
  ∀ symbol, ((repo.core symbol).qty : ℤ) = repo.moved symbol fun row => repo.system.countedQty row

/-- The launch carries no fill over. -/
def Repository.NothingCarried (repo : Repository ι) (start : Timestamp) : Prop :=
  ∀ symbol, repo.carriedShares start symbol = 0

omit [DecidableEq ι] in
/-- Since the accounting started, an order counts unless it is older. -/
theorem SystemState.countedQty_eq {system : SystemState} {start : Timestamp}
    (henabled : system.autoEnabled = some true) (hstart : system.accountingStartedAt = some start)
    (row : OrderRow ι) : (system.countedQty row : ℤ) = row.filledQty - row.filledBefore start := by
  have haccounting : system.inAccounting row = decide (start ≤ row.createdAt) := by
    simp [inAccounting, isAutoEnabled, henabled, hstart]
  by_cases hbefore : row.createdAt < start
  · have hnot : ¬start ≤ row.createdAt := not_le.mpr hbefore
    simp [countedQty, OrderRow.filledBefore, haccounting, hbefore, hnot]
  · have hcounted : start ≤ row.createdAt := not_lt.mp hbefore
    simp [countedQty, OrderRow.filledBefore, haccounting, hbefore, hcounted]

omit [DecidableEq ι] in
theorem OrderRow.filledBefore_eq_of_updated {existing row : OrderRow ι} {status : OrderStatus}
    {update : OrderUpdate} {start : Timestamp} (hupdated : existing.Updated row status update)
    (hfrozen : existing.createdAt < start → row.filledQty = existing.filledQty) :
    row.filledBefore start = existing.filledBefore start := by
  by_cases hbefore : existing.createdAt < start
  · simp [filledBefore, hupdated.createdAt, hbefore, hfrozen hbefore]
  · simp [filledBefore, hupdated.createdAt, hbefore]

omit [DecidableEq ι] in
/-- A new order has filled nothing. -/
@[simp] theorem OrderRequest.filledBefore_newRow (request : OrderRequest ι)
    (now start : Timestamp) : (request.newRow now).filledBefore start = 0 := by
  by_cases hbefore : now < start <;> simp [OrderRow.filledBefore, newRow, hbefore]

/-- A step that freezes the older orders leaves what they have filled. -/
theorem LedgerOp.Effect.moved_filledBefore {config : StrategyConfig} {repo repo' : Repository ι}
    {op : LedgerOp ι} {start : Timestamp} (heffect : Effect config repo op repo')
    (hfrozen : repo.FillsFrozen start repo') (symbol : AllocationSymbol) :
    (repo'.moved symbol fun row => row.filledBefore start)
      = repo.moved symbol fun row => row.filledBefore start := by
  cases heffect with
  | unchanged => rfl
  | reservedBuy _ hfresh =>
      rw [Repository.moved_insert hfresh]
      simp
  | reservedSell hfresh =>
      rw [Repository.moved_insert hfresh]
      simp
  | @updated clientOrderId update existing row _ hget hupdated =>
      have hkey := Table.key_of_get? hget
      have hget' : repo.orders.get? row.clientOrderId = some existing :=
        (hupdated.clientOrderId.trans hkey) ▸ hget
      have hself : (repo.orders.replace row).get? existing.clientOrderId = some row :=
        hupdated.clientOrderId ▸ Table.get?_replace_self hget'
      have hsame := OrderRow.filledBefore_eq_of_updated hupdated fun hbefore =>
        hfrozen existing (Table.mem_of_get? hget) hbefore row hself
      rw [Repository.moved_replace hget' hupdated, hsame]
      simp
  | booked => rfl

/-! ## Since the launch -/

section Runs

variable {config : StrategyConfig} {repo repo' : Repository ι} {start : Timestamp}

/-- What holds of the account since a launch. -/
structure Repository.AfterLaunch (repo : Repository ι) (start : Timestamp)
    (launched : Repository ι) : Prop where
  wellBooked : repo.WellBooked
  untraced : ∀ symbol, repo.untraced symbol = launched.untraced symbol
  filledBefore : ∀ symbol, (repo.moved symbol fun row => row.filledBefore start)
    = launched.moved symbol fun row => row.filledBefore start
  autoEnabled : repo.system.autoEnabled = some true
  launchAuthorized : repo.system.launchAuthorized = some true
  accountingStartedAt : repo.system.accountingStartedAt = some start

/-- A transaction that freezes the older orders keeps all of it. -/
theorem Repository.AfterLaunch.step {launched : Repository ι}
    (hafter : repo.AfterLaunch start launched) (hstep : AccountStep config repo repo')
    (hfrozen : repo.FillsFrozen start repo') : repo'.AfterLaunch start launched := by
  have hwell := hstep.wellBooked hafter.wellBooked
  have huntraced : ∀ symbol, repo'.untraced symbol = launched.untraced symbol := by
    intro symbol
    rw [hstep.untraced_eq hafter.wellBooked symbol]
    exact hafter.untraced symbol
  cases hstep with
  | ledger op =>
      have heffect := op.step_effect config repo
      have hsystem := heffect.system_eq
      refine ⟨hwell, huntraced, ?_, ?_, ?_, ?_⟩
      · intro symbol
        rw [heffect.moved_filledBefore hfrozen symbol]
        exact hafter.filledBefore symbol
      · rw [hsystem]
        exact hafter.autoEnabled
      · rw [hsystem]
        exact hafter.launchAuthorized
      · rw [hsystem]
        exact hafter.accountingStartedAt
  | elsewhere same accounting =>
      have hkept := accounting hafter.launchAuthorized
      refine ⟨hwell, huntraced, ?_, ?_, ?_, ?_⟩
      · intro symbol
        rw [same.moved_eq]
        exact hafter.filledBefore symbol
      · exact hkept.autoEnabled.trans hafter.autoEnabled
      · exact hkept.launchAuthorized.trans hafter.launchAuthorized
      · exact hkept.accountingStartedAt.trans hafter.accountingStartedAt

theorem SinceLaunch.afterLaunch {launched : Repository ι}
    (hsince : SinceLaunch config start launched repo)
    (hlaunched : launched.AfterLaunch start launched) : repo.AfterLaunch start launched := by
  induction hsince with
  | launched => exact hlaunched
  | step _ next frozen ih => exact ih.step next frozen

/-- From empty rows, the rows stay with the counted orders as long as nothing was
carried over, and only then. -/
theorem Repository.AfterLaunch.positionsCounted_iff {launched : Repository ι}
    (hafter : repo.AfterLaunch start launched) (hempty : ∀ symbol, (launched.core symbol).qty = 0)
    (hbooked : repo.AllBooked) : repo.PositionsCounted ↔ launched.NothingCarried start := by
  have hgap : ∀ symbol, ((repo.core symbol).qty : ℤ)
      - (repo.moved symbol fun row => repo.system.countedQty row)
        = launched.carriedShares start symbol := by
    intro symbol
    have hcounted : (repo.moved symbol fun row => repo.system.countedQty row)
        = (repo.moved symbol fun row => row.filledQty)
          - repo.moved symbol fun row => row.filledBefore start := by
      rw [← Repository.moved_sub]
      refine Table.sum_congr fun row _ => ?_
      simp only [SystemState.countedQty_eq hafter.autoEnabled hafter.accountingStartedAt row]
    have hheld := Repository.qty_of_allBooked hbooked symbol
    have hold := hafter.filledBefore symbol
    have hstart := hafter.untraced symbol
    have hzero : ((launched.core symbol).qty : ℤ) = 0 := by rw [hempty symbol]; rfl
    rw [hcounted, hold, hheld, hstart, Repository.untraced, Repository.carriedShares, hzero]
    ring
  constructor
  · intro hsame symbol
    rw [← hgap symbol, hsame symbol, sub_self]
  · intro hnothing symbol
    have hnone := hgap symbol
    rw [hnothing symbol] at hnone
    exact sub_eq_zero.mp hnone

end Runs

/-! ## The launch -/

namespace SystemState.SameAccounting

omit [DecidableEq ι] in
theorem of_flow {config : StrategyConfig} {quotes : Quotes} {repo repo' : Repository ι}
    {requested : Decimal} {event : CapitalEvent}
    (hok : ProductionJHAutoService.applyExternalFlow config quotes repo requested event
      = .ok repo') : repo.system.SameAccounting repo'.system := by
  unfold ProductionJHAutoService.applyExternalFlow at hok
  split at hok
  · rcases JHAutoService.applyExternalFlow_ok hok with ⟨-, rfl⟩ | ⟨-, preEquity, nav, -, rfl⟩
    · exact ⟨rfl, rfl, rfl⟩
    · exact ⟨rfl, rfl, rfl⟩
  · rcases JHAutoService.applyExternalFlow_ok hok with ⟨-, rfl⟩ | ⟨-, preEquity, nav, -, rfl⟩
    · exact ⟨rfl, rfl, rfl⟩
    · exact ⟨rfl, rfl, rfl⟩

end SystemState.SameAccounting

/-- The reconciliation of the live program. -/
def Reconciliation.live (first second : BrokerReads ι) (tpPlan : EnabledSymbol → Bool) :
    Reconciliation ι where
  run repo :=
    match ResilientLiveReconciliationService.run first second tpPlan repo with
    | (repo', .ok report) => .ok (repo', !report.isEmpty)
    | (_, .error error) => .error error
  same_capital := by
    intro repo repo' mismatch hok
    have hsystem := ResilientLiveReconciliationService.run_system first second tpPlan repo
    split at hok
    · rename_i left report hrun
      rw [hrun] at hsystem
      obtain ⟨rfl, -⟩ := Prod.mk.inj (Except.ok.inj hok)
      unfold SystemState.SameButSafeMode at hsystem
      rw [hsystem]
      rfl
    · cases hok

/-- With no order open, a reconciliation moves no share. -/
theorem Reconciliation.live_sameTrades {first second : BrokerReads ι}
    {tpPlan : EnabledSymbol → Bool} {repo repo' : Repository ι} {mismatch : Bool}
    (hok : (live first second tpPlan).run repo = .ok (repo', mismatch))
    (hclosed : repo.openOrders = []) :
    repo.SameTrades repo' ∧ repo.system.SameButSafeMode repo'.system := by
  have hsystem := ResilientLiveReconciliationService.run_system first second tpPlan repo
  simp only [live] at hok
  split at hok
  · rename_i left report hrun
    rw [hrun] at hsystem
    obtain ⟨rfl, -⟩ := Prod.mk.inj (Except.ok.inj hok)
    obtain ⟨mid, recent, holdings, hrefresh, -, hsame, -, -⟩ :=
      ReconciliationService.run_ok (ResilientLiveReconciliationService.run_eq hrun)
    rw [hclosed] at hrefresh
    obtain ⟨rfl, -⟩ := Prod.mk.inj hrefresh
    refine ⟨⟨hsame.orders, hsame.coreFillProgress, ?_⟩, hsystem⟩
    intro symbol
    rw [hsame.core]
  · cases hok

/-- What a first launch has made sure of, and what it has written. -/
structure LaunchedFlat (now : Timestamp) (repo launched : Repository ι) : Prop where
  noOpenOrders : repo.openOrders = []
  empty : ∀ symbol, (repo.core symbol).qty = 0
  same : repo.SameTrades launched
  autoEnabled : launched.system.autoEnabled = repo.system.autoEnabled
  launchAuthorized : launched.system.launchAuthorized = some true
  accountingStartedAt : launched.system.accountingStartedAt = some now

omit [DecidableEq ι] in
/-- The preflight of a first launch finds no open order and empty rows. -/
theorem JHAutoService.preflightLaunch_flat {env : AutoEnvironment ι} {repo checked : Repository ι}
    (hok : JHAutoService.preflightLaunch env repo = .ok checked)
    (hnew : repo.system.launchAuthorized ≠ some true) :
    repo.openOrders = [] ∧ (∀ symbol, (repo.core symbol).qty = 0) ∧
      env.reconciliation.run repo = .ok (checked, false) := by
  simp only [JHAutoService.preflightLaunch, Except.bind_eq_ok] at hok
  obtain ⟨_, -, hok⟩ := hok
  split at hok
  · rename_i hlaunch
    exact absurd (of_decide_eq_true hlaunch) hnew
  · simp only [Except.bind_eq_ok, raiseIf_eq_ok, ne_eq, not_not, Bool.not_eq_true] at hok
    obtain ⟨_, hclosed, _, hclean, ⟨reconciled, mismatches⟩, hrun, _, hmatch, _, -, _, -, _, -,
      hresult⟩ := hok
    obtain rfl := Except.ok.inj hresult
    refine ⟨hclosed, ?_, ?_⟩
    · intro symbol
      by_contra hheld
      have hdirty : symbol ∈ repo.dirtySymbols := by
        refine List.mem_filter.mpr ⟨?_, ?_⟩
        · cases symbol <;> simp
        · simp [hheld]
      rw [hclean] at hdirty
      cases hdirty
    · have hfalse : mismatches = false := hmatch
      rw [hrun, hfalse]

theorem authorizeLaunch_flat {config : StrategyConfig} {env : AutoEnvironment ι}
    {first second : BrokerReads ι} {tpPlan : EnabledSymbol → Bool} {repo launched : Repository ι}
    (hok : FinalOpsProductionJHAutoService.authorizeLaunch config
      { env with reconciliation := .live first second tpPlan } repo = .ok launched)
    (hnew : repo.system.launchAuthorized ≠ some true) : LaunchedFlat env.now repo launched := by
  simp only [FinalOpsProductionJHAutoService.authorizeLaunch, JHAutoService.authorizeLaunch,
    Except.bind_eq_ok] at hok
  obtain ⟨opened, ⟨checked, hpreflight, hlaunch⟩, hresult⟩ := hok
  obtain ⟨hclosed, hempty, hrun⟩ := JHAutoService.preflightLaunch_flat hpreflight hnew
  obtain ⟨hsame, hsystem⟩ := Reconciliation.live_sameTrades hrun hclosed
  have hkept := hsystem.accounting
  have hfirst : checked.system.settings.launchAuthorized = false := by
    simpa [SystemState.settings, hkept.launchAuthorized] using hnew
  have hopened : LaunchedFlat env.now repo opened := by
    rw [hfirst] at hlaunch
    simp only [Bool.false_eq_true, if_false, Except.bind_eq_ok] at hlaunch
    obtain ⟨fraction, -, hflow⟩ := hlaunch
    have hledger := Repository.SameLedger.of_flow hflow
    have haccounting := SystemState.SameAccounting.of_flow hflow
    exact {
      noOpenOrders := hclosed
      empty := hempty
      same := {
        orders := hledger.orders.trans hsame.orders
        coreFillProgress := hledger.coreFillProgress.trans hsame.coreFillProgress
        qty := fun symbol => (hledger.qty symbol).trans (hsame.qty symbol) }
      autoEnabled := haccounting.autoEnabled.trans hkept.autoEnabled
      launchAuthorized := haccounting.launchAuthorized
      accountingStartedAt := haccounting.accountingStartedAt }
  split at hresult
  · obtain rfl := Except.ok.inj hresult
    exact { hopened with same := ⟨hopened.same.orders, hopened.same.coreFillProgress, hopened.same.qty⟩ }
  · obtain rfl := Except.ok.inj hresult
    exact hopened

/-- From a first launch on, in every state where no core fill waits to be booked, the
core rows hold exactly what the orders counted in the cash have moved, if and only if
the launch carried over no stored fill without its booking. -/
theorem positions_count_cash_trades_iff {config : StrategyConfig} {env : AutoEnvironment ι}
    {first second : BrokerReads ι} {tpPlan : EnabledSymbol → Bool}
    {repo launched repo' : Repository ι}
    (hlife : AccountRun config (Repository.initial ι) repo)
    (henabled : repo.system.isAutoEnabled = true)
    (hnew : repo.system.launchAuthorized ≠ some true)
    (hlaunch : FinalOpsProductionJHAutoService.authorizeLaunch config
      { env with reconciliation := .live first second tpPlan } repo = .ok launched)
    (hsince : SinceLaunch config env.now launched repo')
    (hnone : repo'.unappliedCoreFillOrderIds = []) :
    repo'.PositionsCounted ↔ launched.NothingCarried env.now := by
  have hflat := authorizeLaunch_flat hlaunch hnew
  have hwell := hflat.same.wellBooked (hlife.wellBooked .initial)
  have hafter : launched.AfterLaunch env.now launched := {
    wellBooked := hwell
    untraced := fun _ => rfl
    filledBefore := fun _ => rfl
    autoEnabled := hflat.autoEnabled.trans (of_decide_eq_true henabled)
    launchAuthorized := hflat.launchAuthorized
    accountingStartedAt := hflat.accountingStartedAt }
  have hreached := hsince.afterLaunch hafter
  refine hreached.positionsCounted_iff ?_ (hreached.wellBooked.allBooked hnone)
  intro symbol
  rw [hflat.same.qty, hflat.empty]

omit [DecidableEq ι] in
/-- A launch that finds every fill booked, and every order older than itself, carries
nothing over. -/
theorem Repository.NothingCarried.of_allBooked {launched : Repository ι} {start : Timestamp}
    (hbooked : launched.AllBooked) (holder : ∀ row ∈ launched.orders, row.createdAt < start) :
    launched.NothingCarried start := by
  intro symbol
  rw [Repository.carriedShares, ← Repository.moved_sub]
  have hzero : ∀ row ∈ launched.orders, row.direction symbol
      * ((row.filledBefore start : ℤ) - launched.appliedFilledQty row.clientOrderId) = 0 := by
    intro row hrow
    by_cases hcore : row.purpose.isCore = true
    · rw [hbooked row hrow hcore, OrderRow.filledBefore, if_pos (holder row hrow), sub_self, mul_zero]
    · rw [OrderRow.direction, if_neg (fun hboth => hcore hboth.1), zero_mul]
  rw [Repository.moved, Table.sum_congr hzero]
  simp [Table.sum]

/-! ## A fill stored before the launch -/

namespace LegacyOrders

theorem tenShares : 0 < 10 := by decide

/-- The BUY of a version without AUTO.  The monitor has stored the four shares it
filled before its day ended, and booked none of them. -/
def unbooked : List (LedgerOp ℕ) :=
  [.reserveBuy 100000 (.core 1 .qqq 10 100 tenShares) 1,
    .updateOrder 1 { status := .exact .submitted, brokerOrderId := some 7 },
    .updateOrder 1
      { status := .exact .partialFilled, filledQty := some 4, averageFillPrice := some 100 },
    .updateOrder 1
      { status := .exact .canceled, filledQty := some 4, averageFillPrice := some 100 }]

def sell : OrderRequest ℕ where
  clientOrderId := 2
  symbol := .allocation .qqq
  side := .sell
  orderType := .limit
  quantity := 4
  price := some 100
  purpose := .coreRebalanceSell
  quantity_pos := by decide
  side_eq := rfl

/-- The same, booked and sold again. -/
def sold : List (LedgerOp ℕ) :=
  unbooked ++ [.applyCoreFill 1, .reserveSell sell rfl 1,
    .updateOrder 2
      { status := .exact .filled, filledQty := some 4, averageFillPrice := some 100 },
    .applyCoreFill 2]

/-- An account configured after these orders. -/
def account (ops : List (LedgerOp ℕ)) : Repository ℕ :=
  let traded := ops.foldl (LedgerOp.step .strategyYaml) (Repository.launched {} .qqq 10)
  traded.setSystem { traded.system.bootstrap with
    baseCapital := some 10000
    ratio := some (1 / 2)
    targetPrincipal := some 5000
    autoState := some .ready }

/-- The broker holds nothing: the operator has sold what was filled by hand. -/
def reads : BrokerReads ℕ where
  getOrder _ := .error .key
  getHoldings := .ok []
  listOpenOrders _ := .ok []

def launch (ops : List (LedgerOp ℕ)) : Py (Repository ℕ) :=
  FinalOpsProductionJHAutoService.authorizeLaunch .strategyYaml
    { { AutoEnvironment.quiet with now := 2 } with
      reconciliation := .live reads reads fun _ => false } (account ops)

def launched (ops : List (LedgerOp ℕ)) : Repository ℕ :=
  match launch ops with
  | .ok repo => repo
  | .error _ => account ops

theorem launch_eq {ops : List (LedgerOp ℕ)} (hok : (launch ops).toBool = true) :
    launch ops = .ok (launched ops) := by
  unfold launched
  cases hlaunch : launch ops with
  | error error => rw [hlaunch] at hok; cases hok
  | ok repo => rfl

theorem accountRun (ops : List (LedgerOp ℕ)) :
    AccountRun .strategyYaml (Repository.initial ℕ) (account ops) := by
  have hops : ∀ repo : Repository ℕ,
      AccountRun .strategyYaml repo (ops.foldl (LedgerOp.step .strategyYaml) repo) := by
    induction ops with
    | nil => exact fun _ => .refl
    | cons op rest ih => exact fun repo => (ih _).head (.ledger op)
  have hsystem : ((ops.foldl (LedgerOp.step .strategyYaml)
      (Repository.launched {} .qqq 10)).system).launchAuthorized = none :=
    congrArg SystemState.launchAuthorized
      (LedgerOp.foldl_step_system .strategyYaml (Repository.launched {} .qqq 10) ops)
  have htargets : AccountStep .strategyYaml (Repository.initial ℕ) (Repository.launched {} .qqq 10) := by
    refine .elsewhere ⟨rfl, rfl, ?_⟩ (fun hauthorized => by cases hauthorized)
    intro symbol
    cases symbol <;> rfl
  refine ((hops _).head htargets).tail (.elsewhere ⟨rfl, rfl, fun _ => rfl⟩ ?_)
  intro hauthorized
  rw [hsystem] at hauthorized
  cases hauthorized

/-- The restart finds the order and books it. -/
theorem restarted :
    ∃ repo', (launched unbooked).applyCoreFill 1 = .ok repo' ∧
      recoverUnappliedCoreFills (launched unbooked) = (repo', .ok ()) ∧
      SinceLaunch .strategyYaml 2 (launched unbooked) repo' := by
  have hids : (launched unbooked).unappliedCoreFillOrderIds = [1] := by decide +kernel
  have hfound : (((launched unbooked).orders.get? 1).map fun row => row.purpose.isCore)
      = some true := by decide +kernel
  obtain ⟨row, hget, hcore⟩ := Option.map_eq_some_iff.mp hfound
  have hbooks : ((launched unbooked).applyCoreFill 1).toBool = true := by decide +kernel
  cases hok : (launched unbooked).applyCoreFill 1 with
  | error error => rw [hok] at hbooks; cases hbooks
  | ok repo' =>
      refine ⟨repo', rfl, ?_, .step .launched (.of_applyCoreFill ⟨row, hget, hcore⟩ hok) ?_⟩
      · simp only [recoverUnappliedCoreFills, hids, recoverCoreFills, hok]
      · obtain ⟨horders, -⟩ := Repository.applyCoreFill_frame hok hget hcore
        intro other hother _ other' hget'
        rw [horders, Table.get?_eq_some_iff.mpr ⟨hother, rfl⟩] at hget'
        rw [Option.some.inj hget']

end LegacyOrders

/-- The restart after the launch books the four shares, and no counted order has
bought them. -/
theorem stored_fill_enters_after_launch :
    ∃ repo launched repo' : Repository ℕ,
      AccountRun .strategyYaml (Repository.initial ℕ) repo ∧
      repo.system.isAutoEnabled = true ∧ repo.system.launchAuthorized ≠ some true ∧
      FinalOpsProductionJHAutoService.authorizeLaunch .strategyYaml
        { { AutoEnvironment.quiet with now := 2 } with
          reconciliation := .live LegacyOrders.reads LegacyOrders.reads fun _ => false } repo
          = .ok launched ∧
      recoverUnappliedCoreFills launched = (repo', .ok ()) ∧
      SinceLaunch .strategyYaml 2 launched repo' ∧
      repo'.unappliedCoreFillOrderIds = [] ∧ (repo'.core .qqq).qty = 4 ∧ ¬repo'.PositionsCounted := by
  obtain ⟨repo', hok, hrecovered, hsince⟩ := LegacyOrders.restarted
  have hstates : ((LegacyOrders.launched LegacyOrders.unbooked).applyCoreFill 1).map
      (fun repo => (repo.unappliedCoreFillOrderIds, (repo.core .qqq).qty,
        repo.moved .qqq fun row => repo.system.countedQty row)) = .ok ([], 4, 0) := by
    decide +kernel
  rw [hok] at hstates
  obtain ⟨hnone, hmoved⟩ := Prod.mk.inj (Except.ok.inj hstates)
  obtain ⟨hqty, hcounted⟩ := Prod.mk.inj hmoved
  refine ⟨LegacyOrders.account LegacyOrders.unbooked, _, repo', LegacyOrders.accountRun _,
    by decide +kernel, by decide +kernel, LegacyOrders.launch_eq (by decide +kernel), hrecovered,
    hsince, hnone, hqty, ?_⟩
  intro hsame
  have hqqq := hsame .qqq
  rw [hcounted, hqty] at hqqq
  cases hqqq

/-- Legacy orders that are booked and flat leave a launch where both sides agree. -/
theorem positions_count_cash_trades_iff_of_flat :
    (LegacyOrders.launched LegacyOrders.sold).PositionsCounted := by
  refine (positions_count_cash_trades_iff (LegacyOrders.accountRun LegacyOrders.sold)
    (by decide +kernel) (by decide +kernel) (LegacyOrders.launch_eq (by decide +kernel)) .launched
    (by decide +kernel)).mpr ?_
  intro symbol
  cases symbol <;> decide +kernel

end JdHoldings

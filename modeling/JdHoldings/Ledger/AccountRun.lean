import JdHoldings.Ledger.Positions
import JdHoldings.Reconciliation.Report

/-!
# Transactions of an account

`AccountStep` is one committed transaction of the running program: an operation on
the order ledger, or a write that moves no share.  Services are runs of such steps,
cut wherever an exception or a crash ends them, such as a reconciliation
(`ResilientLiveReconciliationService.run_accountRun`).

A run keeps the bookings with their orders, and it keeps the shares of a row no
booking accounts for.
-/

namespace JdHoldings

variable {ι : Type}

/-! ## Steps -/

/-- No order, no booking and no quantity differs. -/
structure Repository.SameTrades (repo repo' : Repository ι) : Prop where
  orders : repo'.orders = repo.orders
  coreFillProgress : repo'.coreFillProgress = repo.coreFillProgress
  qty : ∀ symbol, (repo'.core symbol).qty = (repo.core symbol).qty

/-- AUTO stays installed and launched, and the accounting keeps its start. -/
structure SystemState.SameAccounting (system system' : SystemState) : Prop where
  autoEnabled : system'.autoEnabled = system.autoEnabled
  launchAuthorized : system'.launchAuthorized = system.launchAuthorized
  accountingStartedAt : system'.accountingStartedAt = system.accountingStartedAt

/-- Only the SAFE_MODE flag of the portfolio may differ. -/
def SystemState.SameButSafeMode (system system' : SystemState) : Prop :=
  system' = { system with portfolioSafeMode := system'.portfolioSafeMode }

theorem SystemState.SameButSafeMode.refl (system : SystemState) : system.SameButSafeMode system :=
  rfl

theorem SystemState.SameButSafeMode.trans {system mid system' : SystemState}
    (hfront : system.SameButSafeMode mid) (hback : mid.SameButSafeMode system') :
    system.SameButSafeMode system' := by
  unfold SameButSafeMode at *
  rw [hback, hfront]

theorem SystemState.SameButSafeMode.accounting {system system' : SystemState}
    (hsame : system.SameButSafeMode system') : system.SameAccounting system' := by
  unfold SameButSafeMode at hsame
  refine ⟨?_, ?_, ?_⟩ <;> rw [hsame]

variable [DecidableEq ι]

/-- One committed transaction: on the order ledger, or anywhere else.  Nothing moves
the accounting of a launched account. -/
inductive AccountStep (config : StrategyConfig) (repo : Repository ι) : Repository ι → Prop
  | ledger (op : LedgerOp ι) : AccountStep config repo (op.step config repo)
  | elsewhere {repo' : Repository ι} (same : repo.SameTrades repo')
      (accounting : repo.system.launchAuthorized = some true →
        repo.system.SameAccounting repo'.system) : AccountStep config repo repo'

/-- Any number of transactions. -/
abbrev AccountRun (config : StrategyConfig) : Repository ι → Repository ι → Prop :=
  Relation.ReflTransGen (AccountStep config)

/-! ## What every run keeps -/

omit [DecidableEq ι] in
theorem Repository.SameTrades.moved_eq {repo repo' : Repository ι} (hsame : repo.SameTrades repo')
    (symbol : AllocationSymbol) (shares : OrderRow ι → ℤ) :
    repo'.moved symbol shares = repo.moved symbol shares := by
  rw [Repository.moved, Repository.moved, hsame.orders]

omit [DecidableEq ι] in
theorem Repository.SameTrades.appliedFilledQty_eq {repo repo' : Repository ι}
    (hsame : repo.SameTrades repo') (clientOrderId : ι) :
    repo'.appliedFilledQty clientOrderId = repo.appliedFilledQty clientOrderId := by
  simp only [Repository.appliedFilledQty, hsame.coreFillProgress]

omit [DecidableEq ι] in
theorem Repository.SameTrades.untraced_eq {repo repo' : Repository ι}
    (hsame : repo.SameTrades repo') (symbol : AllocationSymbol) :
    repo'.untraced symbol = repo.untraced symbol := by
  simp only [Repository.untraced, hsame.qty, hsame.moved_eq, hsame.appliedFilledQty_eq]

theorem Repository.SameTrades.wellBooked {repo repo' : Repository ι}
    (hsame : repo.SameTrades repo') (hwell : repo.WellBooked) : repo'.WellBooked := by
  constructor
  · intro clientOrderId hnone
    rw [hsame.appliedFilledQty_eq]
    exact hwell.unreserved clientOrderId (hsame.orders ▸ hnone)
  · intro row hrow
    rw [hsame.appliedFilledQty_eq]
    exact hwell.applied_le row (hsame.orders ▸ hrow)

section Runs

variable {config : StrategyConfig} {repo repo' : Repository ι} {start : Timestamp}

theorem AccountStep.wellBooked (hstep : AccountStep config repo repo') (hwell : repo.WellBooked) :
    repo'.WellBooked := by
  cases hstep with
  | ledger op => exact (op.step_effect config repo).wellBooked hwell
  | elsewhere same => exact same.wellBooked hwell

/-- Only the orders move shares. -/
theorem AccountStep.untraced_eq (hstep : AccountStep config repo repo') (hwell : repo.WellBooked)
    (symbol : AllocationSymbol) : repo'.untraced symbol = repo.untraced symbol := by
  cases hstep with
  | ledger op => exact (op.step_effect config repo).untraced_eq hwell symbol
  | elsewhere same => exact same.untraced_eq symbol

theorem AccountRun.wellBooked (hrun : AccountRun config repo repo') (hwell : repo.WellBooked) :
    repo'.WellBooked := by
  induction hrun with
  | refl => exact hwell
  | tail _ hstep ih => exact hstep.wellBooked ih

/-! ## Services as runs -/

/-- No transaction changes the purpose of an order. -/
theorem AccountStep.purpose_eq (hstep : AccountStep config repo repo') {clientOrderId : ι}
    {existing : OrderRow ι} (hget : repo.orders.get? clientOrderId = some existing) :
    ∃ row, repo'.orders.get? clientOrderId = some row ∧ row.purpose = existing.purpose := by
  have hinsert : ∀ (request : OrderRequest ι) (now : Timestamp),
      repo.orders.get? request.clientOrderId = none →
        (repo.orders.insertOrIgnore (request.newRow now)).1.get? clientOrderId = some existing := by
    intro request now hfresh
    have hne : clientOrderId ≠ request.clientOrderId := by
      rintro rfl
      rw [hfresh] at hget
      cases hget
    have hkey : clientOrderId ≠ (request.newRow now).clientOrderId := hne
    exact (Table.get?_insertOrIgnore_of_ne hkey).trans hget
  cases hstep with
  | elsewhere same => exact ⟨existing, same.orders ▸ hget, rfl⟩
  | ledger op =>
      have heffect := op.step_effect config repo
      generalize op.step config repo = repo' at heffect ⊢
      cases heffect with
      | unchanged => exact ⟨existing, hget, rfl⟩
      | reservedBuy _ hfresh => exact ⟨existing, hinsert _ _ hfresh, rfl⟩
      | reservedSell hfresh => exact ⟨existing, hinsert _ _ hfresh, rfl⟩
      | @updated updatedId update old row _ hold hupdated =>
          have hkey := (Table.key_of_get? hold).symm.trans hupdated.clientOrderId.symm
          rw [hkey] at hold
          by_cases hsame : clientOrderId = row.clientOrderId
          · subst hsame
            obtain rfl : old = existing := Option.some.inj (hold.symm.trans hget)
            exact ⟨row, Table.get?_replace_self hold, hupdated.purpose⟩
          · exact ⟨existing, (Table.get?_replace_of_ne hsame).trans hget, rfl⟩
      | booked => exact ⟨existing, hget, rfl⟩

theorem AccountRun.purpose_eq (hrun : AccountRun config repo repo') {clientOrderId : ι}
    {existing : OrderRow ι} (hget : repo.orders.get? clientOrderId = some existing) :
    ∃ row, repo'.orders.get? clientOrderId = some row ∧ row.purpose = existing.purpose := by
  induction hrun with
  | refl => exact ⟨existing, hget, rfl⟩
  | tail _ hstep ih =>
      obtain ⟨mid, hmid, hpurpose⟩ := ih
      obtain ⟨row, hrow, hsame⟩ := hstep.purpose_eq hmid
      exact ⟨row, hrow, hsame.trans hpurpose⟩

/-- The key belongs to a core order. -/
def Repository.IsCoreOrder (repo : Repository ι) (clientOrderId : ι) : Prop :=
  ∃ row, repo.orders.get? clientOrderId = some row ∧ row.purpose.isCore = true

theorem AccountRun.isCoreOrder (hrun : AccountRun config repo repo') {clientOrderId : ι}
    (hcore : repo.IsCoreOrder clientOrderId) : repo'.IsCoreOrder clientOrderId := by
  obtain ⟨existing, hget, hpurpose⟩ := hcore
  obtain ⟨row, hrow, hsame⟩ := hrun.purpose_eq hget
  exact ⟨row, hrow, hsame ▸ hpurpose⟩

theorem AccountStep.of_updateOrder {clientOrderId : ι} {update : OrderUpdate}
    (hok : repo.updateOrder clientOrderId update = .ok repo') : AccountStep config repo repo' := by
  have hstep : (LedgerOp.updateOrder clientOrderId update).step config repo = repo' := by
    simp only [LedgerOp.step, LedgerOp.exec, hok]
  exact hstep ▸ .ledger (.updateOrder clientOrderId update)

theorem AccountStep.of_applyCoreFill {clientOrderId : ι} (hcore : repo.IsCoreOrder clientOrderId)
    (hok : repo.applyCoreFill clientOrderId = .ok repo') : AccountStep config repo repo' := by
  obtain ⟨row, hget, hpurpose⟩ := hcore
  have hstep : (LedgerOp.applyCoreFill clientOrderId).step config repo = repo' := by
    simp only [LedgerOp.step, LedgerOp.exec, hget, hpurpose, if_true, hok]
  exact hstep ▸ .ledger (.applyCoreFill clientOrderId)

/-- A write of SAFE_MODE is a transaction that moves no share. -/
theorem AccountStep.of_safeMode (hsame : repo.SameQuantities repo')
    (hsystem : repo.system.SameButSafeMode repo'.system) : AccountStep config repo repo' := by
  refine .elsewhere ⟨hsame.orders, hsame.coreFillProgress, ?_⟩ fun _ => hsystem.accounting
  intro symbol
  rw [hsame.core]

end Runs

/-! ### The recovery at a restart -/

/-- The loop of `recover_unapplied_core_fills`. -/
def recoverCoreFills : List ι → Repository ι → Repository ι × Py Unit
  | [], repo => (repo, .ok ())
  | clientOrderId :: rest, repo =>
      match repo.applyCoreFill clientOrderId with
      | .error error => (repo, .error error)
      | .ok repo => recoverCoreFills rest repo

/-- `recover_unapplied_core_fills`. -/
def recoverUnappliedCoreFills (repo : Repository ι) : Repository ι × Py Unit :=
  recoverCoreFills repo.unappliedCoreFillOrderIds repo

section Services

variable {config : StrategyConfig} {repo repo' : Repository ι}

/-! ### Reconciliation -/

namespace ReconciliationService

variable {reads : BrokerReads ι} {tpPlan : EnabledSymbol → Bool}

omit [DecidableEq ι] in
theorem enterAllocationSafeMode_same (repo : Repository ι) (symbol : Symbol) :
    repo.SameQuantities (repo.enterAllocationSafeMode symbol) ∧
      repo.system.SameButSafeMode (repo.enterAllocationSafeMode symbol).system := by
  unfold Repository.enterAllocationSafeMode
  cases symbol.enabled? with
  | none => exact ⟨.setSystem _ _, rfl⟩
  | some enabled =>
      exact ⟨(Repository.SameQuantities.setSystem repo _).trans (.enterPositionSafeMode _ enabled), rfl⟩

theorem refreshCoreOrder_accountRun {row : OrderRow ι} {brokerOrderId : BrokerOrderId}
    (hcore : repo.IsCoreOrder row.clientOrderId) :
    AccountRun config repo (refreshCoreOrder reads repo row brokerOrderId).1 := by
  unfold refreshCoreOrder
  split
  · exact .refl
  · split
    · exact .refl
    · rename_i stored hstored
      have hrun : AccountRun config repo stored := .single (.of_updateOrder hstored)
      split
      · split
        · exact hrun
        · rename_i booked hbooked
          exact hrun.tail (.of_applyCoreFill (hrun.isCoreOrder hcore) hbooked)
      · exact hrun

theorem refreshOpenCoreOrders_accountRun {rows : List (OrderRow ι)} {recent : RecentFills}
    (hcore : ∀ row ∈ rows, row.purpose.isCore = true → repo.IsCoreOrder row.clientOrderId) :
    AccountRun config repo (refreshOpenCoreOrders reads rows repo recent).1 := by
  induction rows generalizing repo recent with
  | nil => exact .refl
  | cons row rest ih =>
      have hlater : ∀ {mid : Repository ι}, AccountRun config repo mid →
          ∀ other ∈ rest, other.purpose.isCore = true → mid.IsCoreOrder other.clientOrderId := by
        intro mid hrun other hother hpurpose
        exact hrun.isCoreOrder (hcore other (List.mem_cons_of_mem _ hother) hpurpose)
      simp only [refreshOpenCoreOrders]
      split
      · exact ih (hlater .refl)
      · rename_i brokerOrderId hid
        have hself := hcore row List.mem_cons_self (isCore_of_coreBrokerOrderId? hid).1
        have hrefresh : AccountRun config repo (refreshCoreOrder reads repo row brokerOrderId).1 :=
          refreshCoreOrder_accountRun hself
        split
        · rename_i mid error hmid
          rw [hmid] at hrefresh
          obtain ⟨hsame, hsystem⟩ := enterAllocationSafeMode_same mid row.symbol
          exact hrefresh.tail (.of_safeMode hsame hsystem)
        · rename_i mid receipt hmid
          rw [hmid] at hrefresh
          split
          · obtain ⟨hsame, hsystem⟩ := enterAllocationSafeMode_same mid row.symbol
            exact hrefresh.tail (.of_safeMode hsame hsystem)
          · exact hrefresh.trans (ih (hlater hrefresh))

omit [DecidableEq ι] in
theorem compareSymbols_system {holdings : List HoldingRow} {recent : RecentFills}
    (symbols : List AllocationSymbol) :
    (compareSymbols reads tpPlan holdings recent symbols repo).1.system = repo.system := by
  induction symbols generalizing repo with
  | nil => rfl
  | cons symbol rest ih =>
      simp only [compareSymbols]
      split
      · rfl
      · exact ih
      · cases symbol.enabled? with
        | none => exact ih
        | some enabled => exact ih

/-- A refresh writes no system key. -/
theorem refreshCoreOrder_system (row : OrderRow ι) (brokerOrderId : BrokerOrderId) :
    (refreshCoreOrder reads repo row brokerOrderId).1.system = repo.system := by
  unfold refreshCoreOrder
  split
  · rfl
  · split
    · rfl
    · rename_i stored hstored
      obtain ⟨existing, row', status, -, -, rfl⟩ := Repository.updateOrder_ok hstored
      split
      · split
        · rfl
        · rename_i booked hbooked
          obtain ⟨order, symbol, -, -, -, rfl | ⟨coreRow, -, rfl⟩⟩ :=
            Repository.applyCoreFill_ok hbooked
          · rfl
          · rfl
      · rfl

theorem refreshOpenCoreOrders_system (rows : List (OrderRow ι)) (recent : RecentFills) :
    repo.system.SameButSafeMode (refreshOpenCoreOrders reads rows repo recent).1.system := by
  induction rows generalizing repo recent with
  | nil => exact .refl _
  | cons row rest ih =>
      simp only [refreshOpenCoreOrders]
      split
      · exact ih recent
      · rename_i brokerOrderId hid
        have hrefresh : (refreshCoreOrder reads repo row brokerOrderId).1.system = repo.system :=
          refreshCoreOrder_system row brokerOrderId
        split
        · rename_i mid error hmid
          rw [hmid] at hrefresh
          have hkept : mid.system = repo.system := hrefresh
          rw [← hkept]
          exact (enterAllocationSafeMode_same mid row.symbol).2
        · rename_i mid receipt hmid
          rw [hmid] at hrefresh
          have hkept : mid.system = repo.system := hrefresh
          rw [← hkept]
          split
          · exact (enterAllocationSafeMode_same mid row.symbol).2
          · exact ih _

/-- A reconciliation writes no system key but the SAFE_MODE flag. -/
theorem run_system (reads : BrokerReads ι) (tpPlan : EnabledSymbol → Bool) (repo : Repository ι) :
    repo.system.SameButSafeMode (run reads tpPlan repo).1.system := by
  have hrefresh : repo.system.SameButSafeMode
      (refreshOpenCoreOrders reads repo.openOrders repo fun _ _ => 0).1.system :=
    refreshOpenCoreOrders_system repo.openOrders _
  unfold run
  split
  · rename_i mid error hmid
    rw [hmid] at hrefresh
    exact hrefresh
  · rename_i mid recent hmid
    rw [hmid] at hrefresh
    split
    · exact hrefresh.trans rfl
    · rename_i holdings hholdings
      have hsystem : (compareSymbols reads tpPlan holdings recent allocationSymbols mid).1.system
          = mid.system := compareSymbols_system allocationSymbols
      refine hrefresh.trans ?_
      cases hcompare : compareSymbols reads tpPlan holdings recent allocationSymbols mid with
      | mk compared result =>
          rw [hcompare] at hsystem
          have hkept : compared.system = mid.system := hsystem
          rw [← hkept]
          cases result with
          | error error => exact .refl _
          | ok report =>
              simp only
              split
              · exact .refl _
              · rfl

/-- A reconciliation, however it ends, is a run of transactions. -/
theorem run_accountRun : AccountRun config repo (run reads tpPlan repo).1 := by
  have hrefresh : AccountRun config repo
      (refreshOpenCoreOrders reads repo.openOrders repo fun _ _ => 0).1 := by
    refine refreshOpenCoreOrders_accountRun fun row hrow hpurpose => ?_
    exact ⟨row, Table.get?_eq_some_iff.mpr ⟨List.mem_of_mem_filter hrow, rfl⟩, hpurpose⟩
  unfold run
  split
  · rename_i mid error hmid
    rw [hmid] at hrefresh
    exact hrefresh
  · rename_i mid recent hmid
    rw [hmid] at hrefresh
    split
    · exact hrefresh.tail (.of_safeMode (.setSystem _ _) rfl)
    · rename_i holdings hholdings
      have hsystem : (compareSymbols reads tpPlan holdings recent allocationSymbols mid).1.system
          = mid.system := compareSymbols_system allocationSymbols
      cases hcompare : compareSymbols reads tpPlan holdings recent allocationSymbols mid with
      | mk compared result =>
          have hsame := compareSymbols_same hcompare
          rw [hcompare] at hsystem
          refine hrefresh.tail ?_
          cases result with
          | error error => exact .of_safeMode hsame (hsystem ▸ .refl _)
          | ok report =>
              simp only
              split
              · exact .of_safeMode hsame (hsystem ▸ .refl _)
              · refine .of_safeMode (hsame.trans (.setSystem _ _)) ?_
                have hkept : compared.system = mid.system := hsystem
                rw [← hkept]
                rfl

end ReconciliationService

theorem ResilientLiveReconciliationService.run_accountRun {first second : BrokerReads ι}
    {tpPlan : EnabledSymbol → Bool} : AccountRun config repo (run first second tpPlan repo).1 := by
  unfold run
  split
  · exact ReconciliationService.run_accountRun
  · split
    · exact .refl
    · exact ReconciliationService.run_accountRun

theorem ResilientLiveReconciliationService.run_system (first second : BrokerReads ι)
    (tpPlan : EnabledSymbol → Bool) (repo : Repository ι) :
    repo.system.SameButSafeMode (run first second tpPlan repo).1.system := by
  unfold run
  split
  · exact ReconciliationService.run_system first tpPlan repo
  · split
    · exact .refl _
    · exact ReconciliationService.run_system second tpPlan repo

end Services

end JdHoldings

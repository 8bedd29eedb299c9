import JdHoldings.Application.OrderMonitor
import JdHoldings.Reconciliation.Report
import JdHoldings.Safety.SafeMode

/-!
# Services that only enter SAFE_MODE

A reconciliation, and the order monitor on a core order, write SAFE_MODE and never take
it back.  Both are runs of `Alarm` steps on the ledger, and every such run is one of the
threads of `SafetyWorld` (`shows_of_alarms`): the position rows and the flag of the two
models agree before and after, and all that happens in between is that SAFE_MODE is
entered.
-/

namespace JdHoldings

variable {ι : Type}

/-- One write, as far as SAFE_MODE is concerned. -/
inductive Repository.Alarm (repo : Repository ι) : Repository ι → Prop
  | elsewhere {repo' : Repository ι} (positions : repo'.positions = repo.positions)
      (flag : repo'.system.portfolioSafeMode = repo.system.portfolioSafeMode) : Alarm repo repo'
  | enter (symbol : EnabledSymbol) : Alarm repo (repo.enterPositionSafeMode symbol)
  | raiseFlag : Alarm repo repo.setPortfolioSafeMode

/-- Any number of writes. -/
abbrev Repository.Alarms : Repository ι → Repository ι → Prop :=
  Relation.ReflTransGen Repository.Alarm

/-! ## Reconciliation -/

theorem Repository.alarms_enterAllocationSafeMode (repo : Repository ι) (symbol : Symbol) :
    repo.Alarms (repo.enterAllocationSafeMode symbol) := by
  unfold Repository.enterAllocationSafeMode
  cases symbol.enabled? with
  | none => exact .single .raiseFlag
  | some enabled => exact (Relation.ReflTransGen.single .raiseFlag).tail (.enter enabled)

theorem Repository.alarms_enterSymbolSafeMode (repo : Repository ι) (symbol : Symbol) :
    repo.Alarms (repo.enterSymbolSafeMode symbol) := by
  unfold Repository.enterSymbolSafeMode
  cases symbol.enabled? with
  | none => exact .single .raiseFlag
  | some enabled => exact .single (.enter enabled)

variable [DecidableEq ι] {repo repo' : Repository ι}

theorem Repository.Alarm.of_updateOrder {clientOrderId : ι} {update : OrderUpdate}
    (hok : repo.updateOrder clientOrderId update = .ok repo') : repo.Alarm repo' := by
  obtain ⟨existing, row, status, -, -, rfl⟩ := Repository.updateOrder_ok hok
  exact .elsewhere rfl rfl

theorem Repository.Alarm.of_applyCoreFill {clientOrderId : ι}
    (hok : repo.applyCoreFill clientOrderId = .ok repo') : repo.Alarm repo' := by
  obtain ⟨order, symbol, -, -, -, rfl | ⟨row, -, rfl⟩⟩ := Repository.applyCoreFill_ok hok
  · exact .elsewhere rfl rfl
  · exact .elsewhere rfl rfl

namespace ReconciliationService

variable {reads : BrokerReads ι} {tpPlan : EnabledSymbol → Bool}

theorem refreshCoreOrder_alarms (row : OrderRow ι) (brokerOrderId : BrokerOrderId) :
    repo.Alarms (refreshCoreOrder reads repo row brokerOrderId).1 := by
  unfold refreshCoreOrder
  split
  · exact .refl
  · split
    · exact .refl
    · rename_i stored hstored
      have hupdated : repo.Alarms stored := .single (.of_updateOrder hstored)
      split
      · split
        · exact hupdated
        · rename_i booked hbooked
          exact hupdated.tail (.of_applyCoreFill hbooked)
      · exact hupdated

theorem refreshOpenCoreOrders_alarms (rows : List (OrderRow ι)) (recent : RecentFills) :
    repo.Alarms (refreshOpenCoreOrders reads rows repo recent).1 := by
  induction rows generalizing repo recent with
  | nil => exact .refl
  | cons row rest ih =>
      simp only [refreshOpenCoreOrders]
      split
      · exact ih recent
      · rename_i brokerOrderId hid
        have hrefresh : repo.Alarms (refreshCoreOrder reads repo row brokerOrderId).1 :=
          refreshCoreOrder_alarms row brokerOrderId
        split
        · rename_i mid error hmid
          rw [hmid] at hrefresh
          exact hrefresh.trans (mid.alarms_enterAllocationSafeMode row.symbol)
        · rename_i mid receipt hmid
          rw [hmid] at hrefresh
          split
          · exact hrefresh.trans (mid.alarms_enterAllocationSafeMode row.symbol)
          · exact hrefresh.trans (ih _)

omit [DecidableEq ι] in
theorem compareSymbols_alarms {holdings : List HoldingRow} {recent : RecentFills}
    (symbols : List AllocationSymbol) :
    repo.Alarms (compareSymbols reads tpPlan holdings recent symbols repo).1 := by
  induction symbols generalizing repo with
  | nil => exact .refl
  | cons symbol rest ih =>
      simp only [compareSymbols]
      split
      · exact .refl
      · exact ih
      · cases symbol.enabled? with
        | none => exact ih
        | some enabled => exact .head (.enter enabled) ih

/-- A reconciliation, however it ends. -/
theorem run_alarms (reads : BrokerReads ι) (tpPlan : EnabledSymbol → Bool) (repo : Repository ι) :
    repo.Alarms (run reads tpPlan repo).1 := by
  have hrefresh : repo.Alarms (refreshOpenCoreOrders reads repo.openOrders repo fun _ _ => 0).1 :=
    refreshOpenCoreOrders_alarms repo.openOrders _
  unfold run
  split
  · rename_i mid error hmid
    rw [hmid] at hrefresh
    exact hrefresh
  · rename_i mid recent hmid
    rw [hmid] at hrefresh
    split
    · exact hrefresh.tail .raiseFlag
    · rename_i holdings hholdings
      have hcompare : mid.Alarms
          (compareSymbols reads tpPlan holdings recent allocationSymbols mid).1 :=
        compareSymbols_alarms allocationSymbols
      refine hrefresh.trans ?_
      simp only
      split
      next compared error hends =>
        rw [hends] at hcompare
        exact hcompare
      next compared report hends =>
        rw [hends] at hcompare
        dsimp only
        split
        · exact hcompare
        · exact hcompare.tail .raiseFlag

end ReconciliationService

theorem ResilientLiveReconciliationService.run_alarms (first second : BrokerReads ι)
    (tpPlan : EnabledSymbol → Bool) (repo : Repository ι) :
    repo.Alarms (run first second tpPlan repo).1 := by
  unfold run
  split
  · exact ReconciliationService.run_alarms first tpPlan repo
  · split
    · exact .refl
    · exact ReconciliationService.run_alarms second tpPlan repo

/-! ## The order monitor -/

theorem OrderManager.refreshOrder_alarms (answer : Py (BrokerOrder ι)) (clientOrderId : ι) :
    repo.Alarms (OrderManager.refreshOrder answer repo clientOrderId).1 := by
  unfold OrderManager.refreshOrder
  split
  · exact .refl
  · split
    · exact .refl
    · split
      · exact .refl
      · split
        · split
          · exact .refl
          · rename_i marked hmarked
            exact .single (.of_updateOrder hmarked)
        · split
          · exact .refl
          · rename_i stored hstored
            exact .single (.of_updateOrder hstored)

theorem MonitorEnvironment.refreshAfterCancel_alarms (env : MonitorEnvironment ι)
    (row : OrderRow ι) : repo.Alarms (env.refreshAfterCancel repo row).1 := by
  unfold MonitorEnvironment.refreshAfterCancel
  split
  · exact .refl
  · exact OrderManager.refreshOrder_alarms _ _

theorem Repository.alarms_of_bookNewFill {clientOrderId : ι} {before after : ℤ}
    (hok : repo.bookNewFill clientOrderId before after = .ok repo') : repo.Alarms repo' := by
  unfold Repository.bookNewFill at hok
  split at hok
  · exact .single (.of_applyCoreFill hok)
  · obtain rfl := Except.ok.inj hok
    exact .refl

omit [DecidableEq ι] in
theorem OrderMonitor.closeCoreOrder_alarms (row : OrderRow ι) (receipt : OrderReceipt ι) :
    repo.Alarms (OrderMonitor.closeCoreOrder row receipt repo) := by
  unfold OrderMonitor.closeCoreOrder
  split
  · exact repo.alarms_enterSymbolSafeMode row.symbol
  · exact .refl

theorem OrderMonitor.cancelExpired_alarms (env : MonitorEnvironment ι) (row : OrderRow ι)
    (receipt : OrderReceipt ι) : repo.Alarms (OrderMonitor.cancelExpired env row receipt repo).1 := by
  have hcancel : repo.Alarms (env.refreshAfterCancel repo row).1 := env.refreshAfterCancel_alarms row
  unfold OrderMonitor.cancelExpired
  split
  · rename_i mid error hmid
    rw [hmid] at hcancel
    exact hcancel.trans (mid.alarms_enterSymbolSafeMode row.symbol)
  · rename_i mid again hmid
    rw [hmid] at hcancel
    split
    · exact hcancel
    · rename_i booked hbooked
      have hbooked' : repo.Alarms booked := hcancel.trans (Repository.alarms_of_bookNewFill hbooked)
      split
      · exact hbooked'.trans (booked.alarms_enterSymbolSafeMode row.symbol)
      · exact hbooked'.trans (OrderMonitor.closeCoreOrder_alarms row again)

theorem OrderMonitor.handleCoreOrder_alarms (env : MonitorEnvironment ι) (row : OrderRow ι)
    (receipt : OrderReceipt ι) :
    repo.Alarms (OrderMonitor.handleCoreOrder env row receipt repo).1 := by
  unfold OrderMonitor.handleCoreOrder
  split
  · exact .refl
  · rename_i booked hbooked
    have hbooked' : repo.Alarms booked := Repository.alarms_of_bookNewFill hbooked
    split
    · exact hbooked'.trans (booked.alarms_enterSymbolSafeMode row.symbol)
    · split
      · exact hbooked'.trans (OrderMonitor.cancelExpired_alarms env row receipt)
      · exact hbooked'.trans (OrderMonitor.closeCoreOrder_alarms row receipt)

namespace FinalOpsOrderMonitor

theorem superHandleCoreOrder_alarms (env : MonitorEnvironment ι) (row : OrderRow ι)
    (receipt : OrderReceipt ι) : repo.Alarms (superHandleCoreOrder env row receipt repo).1 := by
  have hhandled : repo.Alarms (OrderMonitor.handleCoreOrder env row receipt repo).1 :=
    OrderMonitor.handleCoreOrder_alarms env row receipt
  refine hhandled.tail ?_
  simp only [superHandleCoreOrder, syncAutoCycle]
  split
  · exact .elsewhere rfl rfl
  · exact .elsewhere rfl rfl

theorem handleCoreOrder_alarms (env : MonitorEnvironment ι) (row : OrderRow ι)
    (receipt : OrderReceipt ι) : repo.Alarms (handleCoreOrder env row receipt repo).1 := by
  have hcancel : repo.Alarms (env.refreshAfterCancel repo row).1 := env.refreshAfterCancel_alarms row
  unfold handleCoreOrder
  split
  · split
    · rename_i mid error hmid
      rw [hmid] at hcancel
      exact hcancel.trans (mid.alarms_enterSymbolSafeMode row.symbol)
    · rename_i mid again hmid
      rw [hmid] at hcancel
      split
      · exact hcancel.trans (mid.alarms_enterSymbolSafeMode row.symbol)
      · exact hcancel.trans (superHandleCoreOrder_alarms env row again)
  · exact superHandleCoreOrder_alarms env row receipt

/-- What the monitor does with a core order, however it ends. -/
theorem monitorOrder_alarms (env : MonitorEnvironment ι) {row : OrderRow ι}
    (hcore : row.purpose.isCore = true) : repo.Alarms (monitorOrder env row repo).1 := by
  have hrefresh : repo.Alarms (OrderManager.refreshOrder (env.getOrder row.clientOrderId false) repo
      row.clientOrderId).1 := OrderManager.refreshOrder_alarms _ _
  unfold monitorOrder
  split
  · exact .refl
  · split
    · rename_i mid error hmid
      rw [hmid] at hrefresh
      split
      · exact hrefresh
      · exact hrefresh.trans (mid.alarms_enterSymbolSafeMode row.symbol)
    · rename_i mid receipt hmid
      rw [hmid] at hrefresh
      exact hrefresh.trans (handleCoreOrder_alarms env row receipt)

end FinalOpsOrderMonitor

/-! ## The same runs among the threads -/

namespace SafetyWorld

variable {τ : Type} [DecidableEq τ] {config : StrategyConfig} {capitalPerSymbol : Decimal}
  {world : SafetyWorld τ}

/-- The two models show the same positions and the same flag. -/
structure Shows (world : SafetyWorld τ) (repo : Repository ι) : Prop where
  positions : ∀ symbol, repo.positions symbol = (world.table.row symbol).value.snapshot
  flag : repo.system.portfolioSafeMode = world.portfolioSafeMode

/-- The moves with which a thread enters SAFE_MODE. -/
inductive IsAlarm (t : τ) : SafetyMove τ → Prop
  | read (symbol : EnabledSymbol) : IsAlarm t (.read t symbol .enterSafeMode)
  | transition : IsAlarm t (.transition t)
  | raiseFlag : IsAlarm t (.raiseFlag t)

/-- Entering SAFE_MODE endangers nothing. -/
theorem along_enter (t : τ) (symbol : EnabledSymbol) :
    Run.Along (step config capitalPerSymbol) RespectsSafeMode world
      [.read t symbol .enterSafeMode, .transition t] := by
  refine ⟨trivial, ?_, trivial⟩
  intro pending hpending
  have hcall : pending.call = .enterSafeMode := by
    have hread : some ⟨symbol, world.table.row symbol, .enterSafeMode⟩ = some pending := by
      rw [← hpending]
      exact (Optimistic.read_self world.table t symbol .enterSafeMode).symm
    rw [← Option.some.inj hread]
  intro _ _
  rw [hcall]
  exact id

omit [DecidableEq ι] in
/-- Entering SAFE_MODE on the ledger is a call of a thread. -/
theorem Shows.enter (t : τ) {repo : Repository ι} (hshows : world.Shows repo)
    (symbol : EnabledSymbol) :
    (world.run config capitalPerSymbol [.read t symbol .enterSafeMode, .transition t]).Shows
      (repo.enterPositionSafeMode symbol) := by
  refine ⟨?_, hshows.flag⟩
  have hrow : (world.run config capitalPerSymbol
      [.read t symbol .enterSafeMode, .transition t]).table.row =
      ((world.table.read t symbol .enterSafeMode).commit
        (PositionCall.write config capitalPerSymbol) t).row := rfl
  rw [hrow]
  by_cases hsafe : (world.table.row symbol).value.state = .safeMode
  · have hwrite : PositionCall.write config capitalPerSymbol .enterSafeMode (world.table.row symbol)
        (world.table.row symbol) = none := by
      simp [PositionCall.write, PositionCall.transition, hsafe]
    rw [Optimistic.commit_read_none t hwrite]
    intro other
    by_cases hother : other = symbol
    · subst hother
      simp [Repository.enterPositionSafeMode, hshows.positions other, PositionRow.snapshot, hsafe]
    · simp [Repository.enterPositionSafeMode, Function.update_of_ne hother, hshows.positions other]
  · have hwrite : PositionCall.write config capitalPerSymbol .enterSafeMode (world.table.row symbol)
        (world.table.row symbol) = some {
          value := { (world.table.row symbol).value with state := .safeMode }
          version := (world.table.row symbol).version + 1 } := by
      simp [PositionCall.write, PositionCall.transition, hsafe, transitionPosition, Except.toOption]
    rw [Optimistic.commit_read t hwrite]
    intro other
    by_cases hother : other = symbol
    · subst hother
      simp [Repository.enterPositionSafeMode, hshows.positions other, PositionRow.snapshot]
    · simp [Repository.enterPositionSafeMode, Function.update_of_ne hother, hshows.positions other]

omit [DecidableEq ι] in
theorem Shows.raiseFlag (t : τ) {repo : Repository ι} (hshows : world.Shows repo) :
    (world.run config capitalPerSymbol [.raiseFlag t]).Shows repo.setPortfolioSafeMode :=
  ⟨hshows.positions, rfl⟩

omit [DecidableEq ι] in
/-- What a service does to SAFE_MODE, one thread among the others does, and it respects
SAFE_MODE on the way. -/
theorem shows_of_alarms (t : τ) {repo repo' : Repository ι} (hshows : world.Shows repo)
    (halarms : repo.Alarms repo') :
    ∃ moves, (∀ move ∈ moves, IsAlarm t move) ∧
      Run.Along (step config capitalPerSymbol) RespectsSafeMode world moves ∧
      (world.run config capitalPerSymbol moves).Shows repo' := by
  induction halarms with
  | refl => exact ⟨[], by simp, trivial, hshows⟩
  | @tail mid repo' _ halarm ih =>
      obtain ⟨moves, hmoves, halong, hmid⟩ := ih
      cases halarm with
      | elsewhere positions flag =>
          refine ⟨moves, hmoves, halong, ?_, flag.trans hmid.flag⟩
          intro symbol
          rw [positions]
          exact hmid.positions symbol
      | enter symbol =>
          refine ⟨moves ++ [.read t symbol .enterSafeMode, .transition t], ?_, ?_, ?_⟩
          · intro move hmem
            rcases List.mem_append.mp hmem with hfront | hback
            · exact hmoves move hfront
            · simp only [List.mem_cons, List.not_mem_nil, or_false] at hback
              rcases hback with rfl | rfl
              · exact .read symbol
              · exact .transition
          · exact (Run.along_append _ _ _ _).mpr ⟨halong, along_enter t symbol⟩
          · rw [run_append]
            exact hmid.enter t symbol
      | raiseFlag =>
          refine ⟨moves ++ [.raiseFlag t], ?_, ?_, ?_⟩
          · intro move hmem
            rcases List.mem_append.mp hmem with hfront | hback
            · exact hmoves move hfront
            · rw [List.mem_singleton.mp hback]
              exact .raiseFlag
          · exact (Run.along_append _ _ _ _).mpr ⟨halong, trivial, trivial⟩
          · rw [run_append]
            exact hmid.raiseFlag t

end SafetyWorld

end JdHoldings

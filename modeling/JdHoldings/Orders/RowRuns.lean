import JdHoldings.Ledger.AccountRun
import JdHoldings.Monitor.Booking
import JdHoldings.Orders.RowLaw

/-!
# Runs of the order rows

The reconciliation and the monitor, as they are modelled, are runs of order steps
(`ReconciliationService.run_orderRun`, `FinalOpsOrderMonitor.runOnce_orderRun`), so what
holds of every run holds of the states they leave, and of the states in between.

The law of the rows is `order_rows_keep_their_law`.  Its last part depends on the
broker: the validations accept FILLED for one of two shares
(`filled_order_with_a_remainder`).
-/

namespace JdHoldings

variable {ι : Type} [DecidableEq ι]

section Runs

variable {config : StrategyConfig} {settings : RuntimeSettings} {conditions : OrderConditions ι}
  {repo repo' : Repository ι}

namespace OrderRun

theorem elsewhere (horders : repo'.orders = repo.orders) :
    OrderRun config settings conditions repo repo' := .single (.elsewhere horders)

theorem then_elsewhere {mid : Repository ι} (hrun : OrderRun config settings conditions repo mid)
    (horders : repo'.orders = mid.orders) : OrderRun config settings conditions repo repo' :=
  hrun.tail (.elsewhere horders)

/-- No run loses a row, takes a fill back or leaves a terminal status. -/
theorem rowsKept (hrun : OrderRun config settings conditions repo repo') : repo.RowsKept repo' := by
  induction hrun with
  | refl => exact .refl repo
  | tail _ hstep ih =>
      have hwrite : OrderWrite False _ _ := hstep.write fun h => h.elim
      exact ih.trans hwrite.rowsKept

/-- A run under the conditions leaves no FILLED row with a remainder. -/
theorem filledInFull (hrun : OrderRun config settings .inFull repo repo')
    (hfull : repo.FilledInFull) : repo'.FilledInFull := by
  induction hrun with
  | refl => exact hfull
  | tail _ hstep ih =>
      have hwrite : OrderWrite True _ _ := hstep.write fun _ => ⟨fun _ h => h, trivial⟩
      exact hwrite.filledInFull trivial ih

/-- A submission that meets no other thread is a run. -/
theorem submit_exec {τ : Type} (hfree : ¬conditions.ownQuantity)
    {answer : (query : Query ι) → Answer query}
    (hanswer : ∀ query, Reported conditions.reports query (answer query)) (thread : τ)
    (request : OrderRequest ι) (world : World τ ι) :
    OrderRun config settings conditions world.repo
      (Prog.exec answer (OrderManager.submit config settings thread request) world).1.repo := by
  -- What is left of the submission offers no step it did not offer.
  have hexec : ∀ (rest : Prog (World τ ι) (Query ι) Answer (Py (OrderReceipt ι)))
      (world : World τ ι),
      (∀ update, rest.Offers (Reported conditions.reports) update →
        Prog.Offers (Reported conditions.reports) update
          (OrderManager.submit config settings thread request)) →
        OrderRun config settings conditions world.repo (rest.exec answer world).1.repo := by
    intro rest
    induction rest with
    | done value => exact fun world _ => .refl
    | acquire rest ih => exact fun world hoffers => ih world hoffers
    | release rest ih => exact fun world hoffers => ih world hoffers
    | atom update next ih =>
        intro world hoffers
        refine .head (.submit thread request world update (hoffers update (Or.inl rfl))
          fun hown => absurd hown hfree) ?_
        exact ih world (update world) fun later hlater => hoffers later (Or.inr ⟨world, hlater⟩)
    | ask query next ih =>
        intro world hoffers
        exact ih (answer query) world fun later hlater =>
          hoffers later ⟨answer query, hanswer query, hlater⟩
  exact hexec _ world fun _ hoffered => hoffered

end OrderRun

/-! ## The services -/

namespace ReconciliationService

variable {reads : BrokerReads ι}

theorem refreshOpenCoreOrders_orderRun {rows : List (OrderRow ι)} {recent : RecentFills}
    (hreported : ∀ id order, reads.getOrder id = .ok order → conditions.reports order)
    (hread : ∀ row ∈ rows, ∃ stored, repo.orders.get? row.clientOrderId = some stored ∧
      stored.qty = row.qty) :
    OrderRun config settings conditions repo (refreshOpenCoreOrders reads rows repo recent).1 := by
  induction rows generalizing repo recent with
  | nil => exact .refl
  | cons row rest ih =>
      simp only [refreshOpenCoreOrders]
      split
      · exact ih fun other hother => hread other (List.mem_cons_of_mem _ hother)
      · rename_i brokerOrderId hid
        obtain ⟨stored, hstored, hqty⟩ := hread row List.mem_cons_self
        have hstep : OrderStep config settings conditions repo
            (refreshCoreOrder reads repo row brokerOrderId).1 := by
          refine .refreshCoreOrder reads brokerOrderId (hreported brokerOrderId) repo row ?_
          intro found hfound
          obtain rfl : stored = found := Option.some.inj (hstored.symm.trans hfound)
          exact hqty
        split
        · rename_i mid error hmid
          rw [hmid] at hstep
          exact (Relation.ReflTransGen.single hstep).tail
            (.elsewhere (enterAllocationSafeMode_same mid row.symbol).1.orders)
        · rename_i mid receipt hmid
          rw [hmid] at hstep
          have hrun : OrderRun config settings conditions repo mid := .single hstep
          split
          · exact hrun.then_elsewhere (enterAllocationSafeMode_same mid row.symbol).1.orders
          · refine hrun.trans (ih fun other hother => ?_)
            -- The rows keep their quantity while the loop runs.
            obtain ⟨stored, hstored, hqty⟩ := hread other (List.mem_cons_of_mem _ hother)
            obtain ⟨stored', hstored', hqty', -⟩ := hrun.rowsKept _ stored hstored
            exact ⟨stored', hstored', hqty'.trans hqty⟩

/-- A reconciliation, however it ends, is a run of order steps. -/
theorem run_orderRun (tpPlan : EnabledSymbol → Bool)
    (hreported : ∀ id order, reads.getOrder id = .ok order → conditions.reports order) :
    OrderRun config settings conditions repo (run reads tpPlan repo).1 := by
  have hrefresh : OrderRun config settings conditions repo
      (refreshOpenCoreOrders reads repo.openOrders repo fun _ _ => 0).1 := by
    refine refreshOpenCoreOrders_orderRun hreported fun row hrow => ⟨row, ?_, rfl⟩
    exact Table.get?_eq_some_iff.mpr ⟨List.mem_of_mem_filter hrow, rfl⟩
  unfold run
  split
  · rename_i mid error hmid
    rw [hmid] at hrefresh
    exact hrefresh
  · rename_i mid recent hmid
    rw [hmid] at hrefresh
    split
    · exact hrefresh.then_elsewhere rfl
    · rename_i holdings hholdings
      cases hcompare : compareSymbols reads tpPlan holdings recent allocationSymbols mid with
      | mk compared result =>
          have hsame := compareSymbols_same hcompare
          refine hrefresh.then_elsewhere ?_
          cases result with
          | error error => exact hsame.orders
          | ok report =>
              simp only
              split
              · exact hsame.orders
              · exact hsame.orders

end ReconciliationService

/-- The handlers of the direct positions write orders as every other service does. -/
structure DirectSleeve.OrderRuns (direct : DirectSleeve ι) (config : StrategyConfig)
    (settings : RuntimeSettings) (conditions : OrderConditions ι) : Prop where
  handle : ∀ row receipt (repo : Repository ι),
    OrderRun config settings conditions repo (direct.handle row receipt repo).1
  missing : ∀ row (repo : Repository ι),
    OrderRun config settings conditions repo (direct.missing row repo).1
  finish : ∀ repo : Repository ι, OrderRun config settings conditions repo (direct.finish repo).1

/-- The answers of a monitor run are of the kind the conditions allow. -/
def MonitorEnvironment.Reports (env : MonitorEnvironment ι) (conditions : OrderConditions ι) :
    Prop :=
  ∀ clientOrderId afterCancel order, env.getOrder clientOrderId afterCancel = .ok order →
    conditions.reports order

section Monitor

variable {env : MonitorEnvironment ι}

theorem Repository.bookNewFill_orders {clientOrderId : ι} {before after : ℤ}
    (hok : repo.bookNewFill clientOrderId before after = .ok repo') :
    repo'.orders = repo.orders := by
  unfold bookNewFill at hok
  split at hok
  · exact Repository.applyCoreFill_orders hok
  · rw [← Except.ok.inj hok]

theorem MonitorEnvironment.refreshAfterCancel_orderRun (hreports : env.Reports conditions)
    (row : OrderRow ι) :
    OrderRun config settings conditions repo (env.refreshAfterCancel repo row).1 := by
  unfold MonitorEnvironment.refreshAfterCancel
  split
  · exact .refl
  · exact .single (.refreshOrder _ (hreports row.clientOrderId true) repo row.clientOrderId)

theorem OrderMonitor.cancelExpired_orderRun (hreports : env.Reports conditions)
    (row : OrderRow ι) (receipt : OrderReceipt ι) :
    OrderRun config settings conditions repo (OrderMonitor.cancelExpired env row receipt repo).1 := by
  have hrefresh : OrderRun config settings conditions repo (env.refreshAfterCancel repo row).1 :=
    MonitorEnvironment.refreshAfterCancel_orderRun hreports row
  unfold OrderMonitor.cancelExpired
  split
  · rename_i mid error hmid
    rw [hmid] at hrefresh
    exact hrefresh.then_elsewhere (Repository.enterSymbolSafeMode_orders _ row.symbol)
  · rename_i mid again hmid
    rw [hmid] at hrefresh
    split
    · exact hrefresh
    · rename_i booked hbooked
      have hrun := hrefresh.then_elsewhere (Repository.bookNewFill_orders hbooked)
      split
      · exact hrun.then_elsewhere (Repository.enterSymbolSafeMode_orders _ row.symbol)
      · exact hrun.then_elsewhere (OrderMonitor.closeCoreOrder_orders _ row again)

theorem OrderMonitor.handleCoreOrder_orderRun (hreports : env.Reports conditions)
    (row : OrderRow ι) (receipt : OrderReceipt ι) :
    OrderRun config settings conditions repo
      (OrderMonitor.handleCoreOrder env row receipt repo).1 := by
  unfold OrderMonitor.handleCoreOrder
  split
  · exact .refl
  · rename_i booked hbooked
    have hrun : OrderRun config settings conditions repo booked :=
      .elsewhere (Repository.bookNewFill_orders hbooked)
    split
    · exact hrun.then_elsewhere (Repository.enterSymbolSafeMode_orders _ row.symbol)
    · split
      · exact hrun.trans (OrderMonitor.cancelExpired_orderRun hreports row receipt)
      · exact hrun.then_elsewhere (OrderMonitor.closeCoreOrder_orders _ row receipt)

namespace FinalOpsOrderMonitor

theorem superHandleCoreOrder_orderRun (hreports : env.Reports conditions) (row : OrderRow ι)
    (receipt : OrderReceipt ι) :
    OrderRun config settings conditions repo (superHandleCoreOrder env row receipt repo).1 := by
  have hrun : OrderRun config settings conditions repo
      (OrderMonitor.handleCoreOrder env row receipt repo).1 :=
    OrderMonitor.handleCoreOrder_orderRun hreports row receipt
  unfold superHandleCoreOrder
  cases hhandled : OrderMonitor.handleCoreOrder env row receipt repo with
  | mk handled result =>
      rw [hhandled] at hrun
      refine hrun.then_elsewhere ?_
      simp only [syncAutoCycle]
      split <;> rfl

theorem handleCoreOrder_orderRun (hreports : env.Reports conditions) (row : OrderRow ι)
    (receipt : OrderReceipt ι) :
    OrderRun config settings conditions repo (handleCoreOrder env row receipt repo).1 := by
  have hrefresh : OrderRun config settings conditions repo (env.refreshAfterCancel repo row).1 :=
    MonitorEnvironment.refreshAfterCancel_orderRun hreports row
  unfold handleCoreOrder
  split
  · split
    · rename_i mid error hmid
      rw [hmid] at hrefresh
      exact hrefresh.then_elsewhere (Repository.enterSymbolSafeMode_orders _ row.symbol)
    · rename_i mid again hmid
      rw [hmid] at hrefresh
      split
      · exact hrefresh.then_elsewhere (Repository.enterSymbolSafeMode_orders _ row.symbol)
      · exact hrefresh.trans (superHandleCoreOrder_orderRun hreports row again)
  · exact superHandleCoreOrder_orderRun hreports row receipt

theorem monitorOrder_orderRun (hreports : env.Reports conditions)
    (hdirect : env.direct.OrderRuns config settings conditions) (row : OrderRow ι) :
    OrderRun config settings conditions repo (monitorOrder env row repo).1 := by
  have hstep : OrderStep config settings conditions repo (OrderManager.refreshOrder
      (env.getOrder row.clientOrderId false) repo row.clientOrderId).1 :=
    .refreshOrder _ (hreports row.clientOrderId false) repo row.clientOrderId
  unfold monitorOrder
  split
  · exact .refl
  · split
    · rename_i mid error hmid
      rw [hmid] at hstep
      have hrun : OrderRun config settings conditions repo mid := .single hstep
      split
      · exact hrun
      · split
        · exact hrun.then_elsewhere (Repository.enterSymbolSafeMode_orders _ row.symbol)
        · exact hrun.trans (hdirect.missing row mid)
    · rename_i mid receipt hmid
      rw [hmid] at hstep
      have hrun : OrderRun config settings conditions repo mid := .single hstep
      split
      · exact hrun.trans (handleCoreOrder_orderRun hreports row receipt)
      · exact hrun.trans (hdirect.handle row receipt mid)

theorem monitorOrders_orderRun (hreports : env.Reports conditions)
    (hdirect : env.direct.OrderRuns config settings conditions) (rows : List (OrderRow ι)) :
    OrderRun config settings conditions repo (monitorOrders env rows repo).1 := by
  induction rows generalizing repo with
  | nil => exact .refl
  | cons row rest ih =>
      have hrun : OrderRun config settings conditions repo (monitorOrder env row repo).1 :=
        monitorOrder_orderRun hreports hdirect row
      simp only [monitorOrders]
      split
      · rename_i mid error hmid
        rw [hmid] at hrun
        exact hrun
      · rename_i mid u hmid
        rw [hmid] at hrun
        exact hrun.trans ih

/-- A run of the monitor, however it ends, is a run of order steps. -/
theorem runOnce_orderRun (hreports : env.Reports conditions)
    (hdirect : env.direct.OrderRuns config settings conditions) :
    OrderRun config settings conditions repo (runOnce env repo).1 := by
  have hrun : OrderRun config settings conditions repo
      (monitorOrders env repo.openOrders repo).1 :=
    monitorOrders_orderRun hreports hdirect repo.openOrders
  unfold runOnce
  split
  · rename_i mid error hmid
    rw [hmid] at hrun
    exact hrun
  · rename_i mid u hmid
    rw [hmid] at hrun
    exact hrun.trans (hdirect.finish mid)

end FinalOpsOrderMonitor

end Monitor

end Runs

/-! ## The law -/

/-- Whatever the broker answers and whoever takes the next step, no row is lost, no fill
is taken back or exceeds the quantity, and no terminal status is left.  As long as the
broker says FILLED of whole orders only, and nobody submits a stored id with another
quantity, a FILLED row has filled its quantity. -/
theorem order_rows_keep_their_law (config : StrategyConfig) (settings : RuntimeSettings)
    {start repo : Repository ι} :
    (OrderRun config settings .none start repo →
        start.RowsKept repo ∧ ∀ row ∈ repo.orders, row.filledQty ≤ row.qty) ∧
      (start.FilledInFull → OrderRun config settings .inFull start repo → repo.FilledInFull) :=
  ⟨fun hrun => ⟨hrun.rowsKept, fun row _ => row.filled_le⟩, fun hfull hrun => hrun.filledInFull hfull⟩

/-- The condition is exact: what a refresh stores as FILLED is filled where the broker has
said so of all shares. -/
theorem OrderManager.refreshOrder_filled_iff {answer : Py (BrokerOrder ι)}
    {repo stored : Repository ι} {clientOrderId : ι} {receipt : OrderReceipt ι}
    (hok : OrderManager.refreshOrder answer repo clientOrderId = (stored, .ok receipt))
    {row : OrderRow ι} (hrow : stored.orders.get? clientOrderId = some row) :
    row.filledQty = row.qty ↔ receipt.filledQuantity = receipt.quantity := by
  unfold OrderManager.refreshOrder at hok
  split at hok
  · cases hok
  · rename_i found hfound
    split at hok
    · cases hok
    · split at hok
      · cases hok
      · split at hok
        · split at hok <;> cases hok
        · rename_i hvalid
          split at hok
          · cases hok
          · rename_i stored' hstored
            obtain ⟨rfl, hreceipt⟩ := Prod.mk.inj hok
            obtain rfl := Except.ok.inj hreceipt
            obtain ⟨existing, row', status, hget, hupdated, rfl⟩ := Repository.updateOrder_ok hstored
            obtain rfl : found = existing := Option.some.inj (hfound.symm.trans hget)
            have hkey := hupdated.clientOrderId.trans (Table.key_of_get? hget)
            obtain rfl : row' = row := by
              rw [← hkey] at hrow hget
              exact Option.some.inj ((Table.get?_replace_self hget).symm.trans hrow)
            obtain ⟨hquantity, hnonneg⟩ := validateReceipt_quantities hvalid
            have hfilled := hupdated.filledQty
            simp only [OrderReceipt.toRefresh, Option.getD_some] at hfilled
            rw [hupdated.qty, hfilled]
            omega

/-! ### One of two shares -/

namespace FilledShort

/-- A commissioned ledger without orders. -/
def start : World Unit ℕ where
  repo := (Repository.initial ℕ).setSystem { liveCommissioned := some true }

theorem twoShares : 0 < 2 := by decide

def request : OrderRequest ℕ where
  clientOrderId := 1
  symbol := .allocation .qqq
  side := .sell
  orderType := .limit
  quantity := 2
  price := some 10
  purpose := .coreRebalanceSell
  quantity_pos := twoShares
  side_eq := rfl

/-- The broker takes the order under the id 7. -/
def answer : (query : Query ℕ) → Answer query
  | .authenticate _ => .ok ()
  | .send _ _ => .response
      { statusCode := 200
        body := .object (.object { clientOrderId := .value 1, orderId := .value 7 }) }
  | .getOrder _ => .error .key
  | .buyingPower => .ok 0
  | .price _ => .ok 10
  | .now => (1 : ℕ)
  | .regularSession => true
  | .activeTpPlan _ => false

/-- The ledger after the submission. -/
def submitted : Repository ℕ :=
  (Prog.exec answer (OrderManager.submit .strategyYaml ⟨true⟩ () request) start).1.repo

/-- What the broker says of the order, with the quantity it calls filled. -/
def reported (filled : ℤ) : BrokerOrder ℕ where
  json := { orderId := .value 7, quantity := .value 2 }
  status := .exact .filled
  filledQuantity := filled
  averageFilledPrice := some 10

def refreshed (filled : ℤ) : Repository ℕ :=
  (OrderManager.refreshOrder (.ok (reported filled)) submitted 1).1

end FilledShort

/-- The submitted order is stored as FILLED with one of its two shares. -/
theorem filled_order_with_a_remainder :
    ¬∀ repo : Repository ℕ,
      OrderRun .strategyYaml ⟨true⟩ .none FilledShort.start.repo repo → repo.FilledInFull := by
  intro hclaim
  have hsubmitted : OrderRun .strategyYaml ⟨true⟩ .none FilledShort.start.repo
      FilledShort.submitted := by
    refine .submit_exec id (fun query => ?_) () FilledShort.request FilledShort.start
    cases query <;> first | trivial | exact fun _ _ => trivial
  have hrun : OrderRun .strategyYaml ⟨true⟩ .none FilledShort.start.repo
      (FilledShort.refreshed 1) :=
    hsubmitted.tail (.refreshOrder _ (fun _ _ => trivial) _ 1)
  have hrow : ((FilledShort.refreshed 1).orders.get? 1).map
      (fun row => (row.status, row.filledQty, row.qty)) = some (.filled, 1, 2) := by
    decide +kernel
  obtain ⟨row, hget, hvalues⟩ := Option.map_eq_some_iff.mp hrow
  obtain ⟨hstatus, hfilled, hqty⟩ : row.status = .filled ∧ row.filledQty = 1 ∧ row.qty = 2 := by
    simpa using hvalues
  have hsame := hclaim _ hrun row (Table.mem_of_get? hget) hstatus
  omega

/-- With both shares in the answer the row is filled. -/
theorem order_rows_keep_their_law_filled : (FilledShort.refreshed 2).FilledInFull := by
  have hstart : FilledShort.submitted.FilledInFull := by
    intro row hrow hstatus
    have hall : FilledShort.submitted.orders.rows.map OrderRow.status = [.submitted] := by
      decide +kernel
    have hmem := List.mem_map_of_mem (f := OrderRow.status) hrow
    rw [hall, List.mem_singleton, hstatus] at hmem
    cases hmem
  have hreported : (FilledShort.reported 2).FilledInFull := by
    rintro clientOrderId _ ⟨⟩ _
    show (2 : ℤ) = Quantize.roundDown 2
    decide +kernel
  refine (order_rows_keep_their_law .strategyYaml ⟨true⟩).2 hstart
    (.single (.refreshOrder _ ?_ _ 1))
  rintro _ ⟨⟩
  exact hreported

end JdHoldings

import JdHoldings.Application.OrderMonitor

/-!
# What the order monitor books

`run_once` stores the answer of the broker first and decides afterwards whether to book
it, by comparing quantities: the quantity of the receipt it goes on with against the one
it read before the refresh, and after the cancel of an expired BUY against the one before
the cancel.  A stored fill therefore stays unbooked

* when the cancel of a stale BUY is not confirmed, for the monitor leaves before the
  comparison,
* when the last answer changes the average price alone, and
* when the stored quantity had not been booked before the run and does not grow in it.

`Settled` says on the answers and the state before the run that none of this happens to
an order.  It is exact (`monitor_books_iff_settled`).
-/

namespace JdHoldings

variable {ι : Type} [DecidableEq ι]

/-! ## Accepting an answer -/

/-- The receipt `refresh_order` makes of an answer, and the row it stores. -/
def OrderRow.accept (row : OrderRow ι) (answer : Py (BrokerOrder ι)) :
    Py (OrderReceipt ι × OrderRow ι) :=
  match row.receiptOf answer with
  | .error error => .error error
  | .ok receipt =>
      match validateReceipt receipt row.clientOrderId row.symbol row.side row.qty with
      | .error error => .error error
      | .ok _ =>
          match receipt.status.upper? with
          | none => .error .key
          | some status => (row.update status receipt.toRefresh).map fun stored => (receipt, stored)

/-- The accepted row differs from the row before as `update_order` says. -/
theorem OrderRow.accept_ok {row row' : OrderRow ι} {answer : Py (BrokerOrder ι)}
    {receipt : OrderReceipt ι} (hok : row.accept answer = .ok (receipt, row')) :
    row.receiptOf answer = .ok receipt ∧
      validateReceipt receipt row.clientOrderId row.symbol row.side row.qty = .ok () ∧
      ∃ status, receipt.status.upper? = some status ∧
        row.update status receipt.toRefresh = .ok row' := by
  unfold OrderRow.accept at hok
  split at hok
  · cases hok
  · rename_i made hmade
    split at hok
    · cases hok
    · rename_i hvalid
      split at hok
      · cases hok
      · rename_i status hstatus
        cases hupdate : row.update status made.toRefresh with
        | error error => simp [hupdate, Except.map] at hok
        | ok stored =>
            rw [hupdate] at hok
            obtain ⟨rfl, rfl⟩ := Prod.mk.inj (Except.ok.inj hok)
            exact ⟨hmade, hvalid, status, hstatus, hupdate⟩

theorem OrderRow.accept_updated {row row' : OrderRow ι} {answer : Py (BrokerOrder ι)}
    {receipt : OrderReceipt ι} (hok : row.accept answer = .ok (receipt, row')) :
    ∃ status, row.Updated row' status receipt.toRefresh := by
  obtain ⟨-, -, status, -, hupdate⟩ := OrderRow.accept_ok hok
  exact ⟨status, OrderRow.update_ok hupdate⟩

/-- The quantity of an accepted receipt is the stored one. -/
theorem OrderRow.accept_filledQty {row row' : OrderRow ι} {answer : Py (BrokerOrder ι)}
    {receipt : OrderReceipt ι} (hok : row.accept answer = .ok (receipt, row')) :
    receipt.filledQuantity = row'.filledQty := by
  obtain ⟨-, hvalid, status, -, hupdate⟩ := OrderRow.accept_ok hok
  have hnonneg := validateReceipt_nonneg hvalid
  have hfilled : row'.filledQty = receipt.filledQuantity.toNat :=
    (OrderRow.update_ok hupdate).filledQty
  omega

/-! ## Refreshing -/

theorem Repository.brokerOrderIdTaken_congr {repo : Repository ι} {row row' : OrderRow ι}
    (hkey : row'.clientOrderId = row.clientOrderId) (hid : row'.brokerOrderId = row.brokerOrderId) :
    repo.brokerOrderIdTaken row' = repo.brokerOrderIdTaken row := by
  simp only [brokerOrderIdTaken, hkey, hid]

/-- What is stored under the key of a row takes no broker id from the row. -/
theorem Repository.brokerOrderIdTaken_replace {repo repo' : Repository ι} {row stored : OrderRow ι}
    (hkey : stored.clientOrderId = row.clientOrderId)
    (horders : repo'.orders = repo.orders.replace stored) :
    repo'.brokerOrderIdTaken row = repo.brokerOrderIdTaken row := by
  simp only [brokerOrderIdTaken, horders, Table.replace, List.any_map]
  congr 1
  refine List.any_congr rfl fun other => ?_
  by_cases hother : other.clientOrderId = stored.clientOrderId
  · simp [hother, hkey]
  · simp [hother]

namespace OrderManager

variable {repo repo' : Repository ι} {row : OrderRow ι} {answer : Py (BrokerOrder ι)}

/-- `update_order` of a row whose broker id is its own. -/
theorem updateOrder_eq {update : OrderUpdate} {status : OrderStatus}
    (hget : repo.orders.get? row.clientOrderId = some row)
    (hfree : repo.brokerOrderIdTaken row = false) (hstatus : update.status.upper? = some status)
    (hid : update.brokerOrderId = none) :
    repo.updateOrder row.clientOrderId update
      = (row.update status update).map fun stored =>
          { repo with orders := repo.orders.replace stored } := by
  simp only [Repository.updateOrder, hstatus, hget]
  cases hupdate : row.update status update with
  | error error => rfl
  | ok stored =>
      have hupdated := OrderRow.update_ok hupdate
      have hsame : stored.brokerOrderId = row.brokerOrderId := by
        rw [hupdated.brokerOrderId, hid]
        rfl
      have hstill : repo.brokerOrderIdTaken stored = repo.brokerOrderIdTaken row :=
        Repository.brokerOrderIdTaken_congr hupdated.clientOrderId hsame
      simp only [hstill, hfree, Bool.false_eq_true, if_false, Except.map]

/-- A refresh whose answer is accepted. -/
theorem refreshOrder_of_accept {receipt : OrderReceipt ι} {stored : OrderRow ι}
    (hget : repo.orders.get? row.clientOrderId = some row) (hid : row.brokerOrderId.isSome = true)
    (hfree : repo.brokerOrderIdTaken row = false) (haccept : row.accept answer = .ok (receipt, stored)) :
    refreshOrder answer repo row.clientOrderId
      = ({ repo with orders := repo.orders.replace stored }, .ok receipt) := by
  obtain ⟨hreceipt, hvalid, status, hstatus, hupdate⟩ := OrderRow.accept_ok haccept
  have hsome : row.brokerOrderId.isNone = false := by
    rw [Option.isNone_eq_false_iff]
    exact hid
  have hwritten : repo.updateOrder row.clientOrderId receipt.toRefresh = _ :=
    updateOrder_eq hget hfree hstatus rfl
  rw [hupdate] at hwritten
  simp only [refreshOrder, hget, hsome, hreceipt, hvalid, hwritten, Except.map, Bool.false_eq_true,
    if_false]

/-- The answer of a refresh that returns was accepted. -/
theorem refreshOrder_ok {receipt : OrderReceipt ι}
    (hget : repo.orders.get? row.clientOrderId = some row)
    (hok : refreshOrder answer repo row.clientOrderId = (repo', .ok receipt)) :
    ∃ stored, row.accept answer = .ok (receipt, stored) ∧ row.brokerOrderId.isSome = true ∧
      repo.brokerOrderIdTaken row = false ∧
      repo' = { repo with orders := repo.orders.replace stored } := by
  simp only [refreshOrder, hget] at hok
  split at hok
  · cases hok
  · rename_i hid
    split at hok
    · cases hok
    · rename_i made hmade
      split at hok
      · split at hok <;> cases hok
      · rename_i hvalid
        split at hok
        · cases hok
        · rename_i written hwritten
          obtain ⟨rfl, hreceipt⟩ := Prod.mk.inj hok
          obtain rfl := Except.ok.inj hreceipt
          simp only [Repository.updateOrder, hget] at hwritten
          split at hwritten
          · cases hwritten
          · rename_i status hstatus
            split at hwritten
            · cases hwritten
            · rename_i stored hupdate
              split at hwritten
              · cases hwritten
              · rename_i hfree
                have hupdated := OrderRow.update_ok hupdate
                have haccept : row.accept answer = .ok (made, stored) := by
                  have hstatus' : made.status.upper? = some status := hstatus
                  simp only [OrderRow.accept, hmade, hvalid, hstatus', hupdate, Except.map]
                refine ⟨stored, haccept, ?_, ?_, (Except.ok.inj hwritten).symm⟩
                · rw [Option.isSome_iff_ne_none]
                  simpa using hid
                · rw [← Repository.brokerOrderIdTaken_congr hupdated.clientOrderId
                    (by rw [hupdated.brokerOrderId]; rfl)]
                  simpa using hfree

/-- What a refresh leaves of every other order, of all bookings, and of the order itself. -/
theorem refreshOrder_frame (answer : Py (BrokerOrder ι)) (repo : Repository ι) (clientOrderId : ι) :
    (refreshOrder answer repo clientOrderId).1.coreFillProgress = repo.coreFillProgress ∧
      (∀ other, other ≠ clientOrderId →
        (refreshOrder answer repo clientOrderId).1.orders.get? other = repo.orders.get? other) ∧
      ∀ row, repo.orders.get? clientOrderId = some row →
        ∃ kept, (refreshOrder answer repo clientOrderId).1.orders.get? clientOrderId = some kept ∧
          kept.purpose = row.purpose := by
  have hwrite : ∀ (update : OrderUpdate) (written : Repository ι),
      repo.updateOrder clientOrderId update = .ok written →
        written.coreFillProgress = repo.coreFillProgress ∧
          (∀ other, other ≠ clientOrderId → written.orders.get? other = repo.orders.get? other) ∧
          ∀ row, repo.orders.get? clientOrderId = some row →
            ∃ kept, written.orders.get? clientOrderId = some kept ∧ kept.purpose = row.purpose := by
    intro update written hwritten
    obtain ⟨existing, stored, status, hget, hupdated, rfl⟩ := Repository.updateOrder_ok hwritten
    have hkey := hupdated.clientOrderId.trans (Table.key_of_get? hget)
    refine ⟨rfl, fun other hne => Table.get?_replace_of_ne (hkey ▸ hne), fun row hrow => ?_⟩
    obtain rfl : existing = row := Option.some.inj (hget.symm.trans hrow)
    exact ⟨stored, hkey ▸ Table.get?_replace_self (hkey ▸ hget), hupdated.purpose⟩
  have hsame : repo.coreFillProgress = repo.coreFillProgress ∧
      (∀ other, other ≠ clientOrderId → repo.orders.get? other = repo.orders.get? other) ∧
      ∀ row, repo.orders.get? clientOrderId = some row →
        ∃ kept, repo.orders.get? clientOrderId = some kept ∧ kept.purpose = row.purpose :=
    ⟨rfl, fun _ _ => rfl, fun row hrow => ⟨row, hrow, rfl⟩⟩
  unfold refreshOrder
  split
  · exact hsame
  · split
    · exact hsame
    · split
      · exact hsame
      · split
        · split
          · exact hsame
          · rename_i marked hmarked
            exact hwrite _ marked hmarked
        · split
          · exact hsame
          · rename_i written hwritten
            exact hwrite _ written hwritten

/-- A refresh whose answer is refused raises and stores no fill. -/
theorem refreshOrder_of_refused {refused : PyError}
    (hget : repo.orders.get? row.clientOrderId = some row) (hid : row.brokerOrderId.isSome = true)
    (hfree : repo.brokerOrderIdTaken row = false) (hrefused : row.accept answer = .error refused) :
    ∃ error repo' kept, refreshOrder answer repo row.clientOrderId = (repo', .error error) ∧
      repo'.orders.get? row.clientOrderId = some kept ∧ kept.filledQty = row.filledQty ∧
      kept.cumulativeNotional = row.cumulativeNotional := by
  have hsome : row.brokerOrderId.isNone = false := by
    rw [Option.isNone_eq_false_iff]
    exact hid
  cases hreceipt : row.receiptOf answer with
  | error error =>
      refine ⟨error, repo, row, ?_, hget, rfl, rfl⟩
      simp only [refreshOrder, hget, hsome, hreceipt, Bool.false_eq_true, if_false]
  | ok receipt =>
      -- A receipt that is not of this order turns the row UNKNOWN, with its fill and its cost.
      cases hvalid : validateReceipt receipt row.clientOrderId row.symbol row.side row.qty with
      | error error =>
          cases hmarked : repo.updateOrder row.clientOrderId { status := .exact .unknown } with
          | error raised =>
              refine ⟨raised, repo, row, ?_, hget, rfl, rfl⟩
              simp only [refreshOrder, hget, hsome, hreceipt, hvalid, hmarked, Bool.false_eq_true,
                if_false]
          | ok marked =>
              obtain ⟨existing, stored, status, hexisting, hupdated, hwritten⟩ :=
                Repository.updateOrder_ok hmarked
              obtain rfl : row = existing := Option.some.inj (hget.symm.trans hexisting)
              refine ⟨error, marked, stored, ?_, ?_, hupdated.filledQty, ?_⟩
              · simp only [refreshOrder, hget, hsome, hreceipt, hvalid, hmarked, Bool.false_eq_true,
                  if_false]
              · rw [hwritten]
                exact hupdated.clientOrderId ▸
                  Table.get?_replace_self (hupdated.clientOrderId ▸ hget)
              · have haverage : stored.averageFillPrice = row.averageFillPrice := hupdated.average
                have hfilled : stored.filledQty = row.filledQty := hupdated.filledQty
                simp only [OrderRow.cumulativeNotional, OrderRow.fillPrice, OrderRow.fillPrice?,
                  haverage, hfilled, hupdated.price]
      | ok valid =>
          -- A receipt of the order that the row refuses writes nothing.
          have hwritten : ∃ error, repo.updateOrder row.clientOrderId receipt.toRefresh
              = .error error := by
            cases hstatus : receipt.status.upper? with
            | none =>
                have hnone : receipt.toRefresh.status.upper? = none := hstatus
                cases hwritten : repo.updateOrder row.clientOrderId receipt.toRefresh with
                | error error => exact ⟨error, rfl⟩
                | ok written => simp only [Repository.updateOrder, hnone, reduceCtorEq] at hwritten
            | some status =>
                cases hupdate : row.update status receipt.toRefresh with
                | ok stored =>
                    simp only [OrderRow.accept, hreceipt, hvalid, hstatus, hupdate, Except.map,
                      reduceCtorEq] at hrefused
                | error error =>
                    refine ⟨error, ?_⟩
                    have hupdateOrder : repo.updateOrder row.clientOrderId receipt.toRefresh = _ :=
                      updateOrder_eq hget hfree hstatus rfl
                    rw [hupdateOrder, hupdate]
                    rfl
          obtain ⟨error, hwritten⟩ := hwritten
          refine ⟨error, repo, row, ?_, hget, rfl, rfl⟩
          simp only [refreshOrder, hget, hsome, hreceipt, hvalid, hwritten, Bool.false_eq_true,
            if_false]

end OrderManager

/-! ## What is booked -/

/-- The booking of the order is what the row says. -/
def Repository.Booked (repo : Repository ι) (clientOrderId : ι) (row : OrderRow ι) : Prop :=
  repo.appliedFilledQty clientOrderId = row.filledQty ∧
    repo.appliedNotional clientOrderId = row.cumulativeNotional

/-- The stored quantity and notional of the order are booked. -/
def Repository.FullyBooked (repo : Repository ι) (clientOrderId : ι) : Prop :=
  ∀ row, repo.orders.get? clientOrderId = some row → repo.Booked clientOrderId row

omit [DecidableEq ι] in
theorem Repository.Booked.congr {repo repo' : Repository ι} {clientOrderId : ι} {row : OrderRow ι}
    (hprogress : repo'.coreFillProgress clientOrderId = repo.coreFillProgress clientOrderId) :
    repo'.Booked clientOrderId row ↔ repo.Booked clientOrderId row := by
  simp only [Repository.Booked, Repository.appliedFilledQty, Repository.appliedNotional, hprogress]

theorem Repository.fullyBooked_iff {repo : Repository ι} {clientOrderId : ι} {row : OrderRow ι}
    (hget : repo.orders.get? clientOrderId = some row) :
    repo.FullyBooked clientOrderId ↔ repo.Booked clientOrderId row := by
  constructor
  · intro hbooked
    exact hbooked row hget
  · intro hbooked other hother
    obtain rfl := Option.some.inj (hget.symm.trans hother)
    exact hbooked

/-- All orders but one are as they were, and that one keeps its purpose. -/
structure Repository.SameOthers (repo repo' : Repository ι) (clientOrderId : ι) : Prop where
  kept : ∀ row, repo.orders.get? clientOrderId = some row →
    ∃ row', repo'.orders.get? clientOrderId = some row' ∧ row'.purpose = row.purpose
  orders : ∀ other, other ≠ clientOrderId → repo'.orders.get? other = repo.orders.get? other
  progress : ∀ other, other ≠ clientOrderId →
    repo'.coreFillProgress other = repo.coreFillProgress other

namespace Repository.SameOthers

variable {repo mid repo' : Repository ι} {clientOrderId : ι}

theorem of_eq (horders : repo'.orders = repo.orders)
    (hprogress : repo'.coreFillProgress = repo.coreFillProgress) :
    repo.SameOthers repo' clientOrderId :=
  ⟨fun row hrow => ⟨row, horders ▸ hrow, rfl⟩, fun _ _ => by rw [horders],
    fun _ _ => by rw [hprogress]⟩

theorem trans (hfront : repo.SameOthers mid clientOrderId)
    (hback : mid.SameOthers repo' clientOrderId) : repo.SameOthers repo' clientOrderId := by
  refine ⟨fun row hrow => ?_,
    fun other hne => (hback.orders other hne).trans (hfront.orders other hne),
    fun other hne => (hback.progress other hne).trans (hfront.progress other hne)⟩
  obtain ⟨middle, hmiddle, hpurpose⟩ := hfront.kept row hrow
  obtain ⟨last, hlast, hpurpose'⟩ := hback.kept middle hmiddle
  exact ⟨last, hlast, hpurpose'.trans hpurpose⟩

theorem refreshOrder (answer : Py (BrokerOrder ι)) (repo : Repository ι) (clientOrderId : ι) :
    repo.SameOthers (OrderManager.refreshOrder answer repo clientOrderId).1 clientOrderId := by
  obtain ⟨hprogress, horders, hkept⟩ := OrderManager.refreshOrder_frame answer repo clientOrderId
  exact ⟨hkept, horders, fun other _ => congrFun hprogress other⟩

end Repository.SameOthers

section Writes

variable (repo : Repository ι)

omit [DecidableEq ι] in
@[simp] theorem Repository.enterSymbolSafeMode_orders (symbol : Symbol) :
    (repo.enterSymbolSafeMode symbol).orders = repo.orders := by
  unfold enterSymbolSafeMode
  split <;> rfl

omit [DecidableEq ι] in
@[simp] theorem Repository.enterSymbolSafeMode_progress (symbol : Symbol) :
    (repo.enterSymbolSafeMode symbol).coreFillProgress = repo.coreFillProgress := by
  unfold enterSymbolSafeMode
  split <;> rfl

omit [DecidableEq ι] in
@[simp] theorem OrderMonitor.closeCoreOrder_orders (row : OrderRow ι) (receipt : OrderReceipt ι) :
    (OrderMonitor.closeCoreOrder row receipt repo).orders = repo.orders := by
  unfold closeCoreOrder
  split <;> simp

omit [DecidableEq ι] in
@[simp] theorem OrderMonitor.closeCoreOrder_progress (row : OrderRow ι) (receipt : OrderReceipt ι) :
    (OrderMonitor.closeCoreOrder row receipt repo).coreFillProgress = repo.coreFillProgress := by
  unfold closeCoreOrder
  split <;> simp

variable (env : MonitorEnvironment ι) (row : OrderRow ι) (receipt : OrderReceipt ι)

@[simp] theorem FinalOpsOrderMonitor.syncAutoCycle_orders :
    (FinalOpsOrderMonitor.syncAutoCycle env row receipt repo).orders = repo.orders := by
  unfold syncAutoCycle
  split <;> rfl

@[simp] theorem FinalOpsOrderMonitor.syncAutoCycle_progress :
    (FinalOpsOrderMonitor.syncAutoCycle env row receipt repo).coreFillProgress
      = repo.coreFillProgress := by
  unfold syncAutoCycle
  split <;> rfl

theorem FinalOpsOrderMonitor.superHandleCoreOrder_eq :
    FinalOpsOrderMonitor.superHandleCoreOrder env row receipt repo
      = (syncAutoCycle env row receipt (OrderMonitor.handleCoreOrder env row receipt repo).1,
        (OrderMonitor.handleCoreOrder env row receipt repo).2) := rfl

end Writes

/-- A booking that is called for books what is stored; one that is not changes nothing. -/
theorem Repository.bookNewFill_ok {repo repo' : Repository ι} {clientOrderId : ι} {row : OrderRow ι}
    {before after : ℤ} (hget : repo.orders.get? clientOrderId = some row)
    (hok : repo.bookNewFill clientOrderId before after = .ok repo') :
    repo'.orders = repo.orders ∧ repo.SameOthers repo' clientOrderId ∧
      (before < after → repo'.Booked clientOrderId row) ∧ (after ≤ before → repo' = repo) := by
  unfold bookNewFill at hok
  split at hok
  · rename_i hgrown
    have happlied := Repository.applyCoreFill_applied hok hget
    obtain ⟨order, symbol, horder, -, -, rfl | ⟨core, -, rfl⟩⟩ := Repository.applyCoreFill_ok hok
    · exact ⟨rfl, .of_eq rfl rfl, fun _ => happlied, fun hle => absurd hgrown (not_lt.mpr hle)⟩
    · have hkey := Table.key_of_get? horder
      refine ⟨rfl, ⟨fun row hrow => ⟨row, hrow, rfl⟩, fun _ _ => rfl, fun other hne => ?_⟩,
        fun _ => happlied, fun hle => absurd hgrown (not_lt.mpr hle)⟩
      exact Function.update_of_ne (hkey ▸ hne) ..
  · rename_i hsame
    obtain rfl := Except.ok.inj hok
    exact ⟨rfl, .of_eq rfl rfl, fun hgrown => absurd hgrown hsame, fun _ => rfl⟩

/-! ## When everything stored is booked -/

namespace MonitorEnvironment

variable (env : MonitorEnvironment ι)

/-- The cancel goes through, and the answer behind it is accepted. -/
def confirm (row : OrderRow ι) : Py (OrderReceipt ι × OrderRow ι) :=
  match env.cancelOrder row.clientOrderId with
  | .error error => .error error
  | .ok _ => row.accept (env.getOrder row.clientOrderId true)

end MonitorEnvironment

/-- The stored row shows more shares than the one read before the run, or was booked. -/
def OrderRow.Caught (before stored : OrderRow ι) (repo : Repository ι) : Prop :=
  before.filledQty < stored.filledQty ∨ repo.Booked before.clientOrderId stored

/-- The condition on a receipt that `OrderMonitor._handle_core_order` goes on with. -/
def MonitorEnvironment.SettledFrom (env : MonitorEnvironment ι) (repo : Repository ι)
    (before stored : OrderRow ι) (receipt : OrderReceipt ι) : Prop :=
  if receipt.status ≠ .exact .unknown ∧ env.expired before receipt = true then
    match env.confirm stored with
    | .error _ => before.Caught stored repo
    | .ok (_, last) =>
        stored.filledQty < last.filledQty ∨
          if before.filledQty < stored.filledQty then
            last.cumulativeNotional = stored.cumulativeNotional
          else repo.Booked before.clientOrderId last
  else before.Caught stored repo

/-- The answers about an order leave nothing of it unbooked. -/
def MonitorEnvironment.Settled (env : MonitorEnvironment ι) (repo : Repository ι)
    (before : OrderRow ι) : Prop :=
  match before.accept (env.getOrder before.clientOrderId false) with
  | .error _ => True
  | .ok (receipt, stored) =>
      if env.stale before receipt = true then
        match env.confirm stored with
        | .error _ => repo.Booked before.clientOrderId stored
        | .ok (again, last) =>
            if again.isTerminal = false then repo.Booked before.clientOrderId last
            else env.SettledFrom repo before last again
      else env.SettledFrom repo before stored receipt

/-- An order that is being handled: what is stored of it, and that it can be refreshed. -/
structure Repository.Holds (repo : Repository ι) (row : OrderRow ι) : Prop where
  get? : repo.orders.get? row.clientOrderId = some row
  hasId : row.brokerOrderId.isSome = true
  free : repo.brokerOrderIdTaken row = false

/-- What storing an accepted answer leaves. -/
theorem Repository.Holds.store {repo repo' : Repository ι} {row stored : OrderRow ι}
    {answer : Py (BrokerOrder ι)} {receipt : OrderReceipt ι} (hholds : repo.Holds row)
    (haccept : row.accept answer = .ok (receipt, stored))
    (hrepo : repo' = { repo with orders := repo.orders.replace stored }) :
    repo'.Holds stored ∧ stored.clientOrderId = row.clientOrderId ∧
      row.filledQty ≤ stored.filledQty := by
  obtain ⟨status, hupdated⟩ := OrderRow.accept_updated haccept
  have hkey := hupdated.clientOrderId
  have hid : stored.brokerOrderId = row.brokerOrderId := by
    rw [hupdated.brokerOrderId]
    rfl
  refine ⟨⟨?_, hid ▸ hholds.hasId, ?_⟩, hkey, hupdated.filled_mono⟩
  · rw [hrepo]
    exact Table.get?_replace_self (hkey ▸ hholds.get?)
  · have hreplaced : repo'.brokerOrderIdTaken stored = repo.brokerOrderIdTaken stored :=
      Repository.brokerOrderIdTaken_replace rfl (hrepo ▸ rfl)
    rw [hreplaced,
      Repository.brokerOrderIdTaken_congr hkey hid]
    exact hholds.free

theorem Repository.Holds.of_orders {repo repo' : Repository ι} {row : OrderRow ι}
    (hholds : repo.Holds row) (horders : repo'.orders = repo.orders) : repo'.Holds row := by
  refine ⟨horders ▸ hholds.get?, hholds.hasId, ?_⟩
  have hfree := hholds.free
  simp only [Repository.brokerOrderIdTaken, horders] at hfree ⊢
  exact hfree

/-- `refreshAfterCancel` stores the confirmed answer, or keeps the fill. -/
theorem MonitorEnvironment.refreshAfterCancel_eq (env : MonitorEnvironment ι) {repo : Repository ι}
    {before row : OrderRow ι} (hholds : repo.Holds row)
    (hkey : row.clientOrderId = before.clientOrderId) :
    (∃ again last, env.confirm row = .ok (again, last) ∧
      env.refreshAfterCancel repo before
        = ({ repo with orders := repo.orders.replace last }, .ok again)) ∨
    (∃ refused error repo' kept, env.confirm row = .error refused ∧
      env.refreshAfterCancel repo before = (repo', .error error) ∧
      repo'.orders.get? row.clientOrderId = some kept ∧ kept.filledQty = row.filledQty ∧
      kept.cumulativeNotional = row.cumulativeNotional) := by
  unfold MonitorEnvironment.confirm MonitorEnvironment.refreshAfterCancel
  rw [← hkey]
  cases hcancel : env.cancelOrder row.clientOrderId with
  | error error => exact Or.inr ⟨error, error, repo, row, rfl, rfl, hholds.get?, rfl, rfl⟩
  | ok cancelled =>
      cases haccept : row.accept (env.getOrder row.clientOrderId true) with
      | error refused =>
          obtain ⟨error, repo', kept, hrefresh, hkept⟩ :=
            OrderManager.refreshOrder_of_refused hholds.get? hholds.hasId hholds.free haccept
          exact Or.inr ⟨refused, error, repo', kept, rfl, hrefresh, hkept⟩
      | ok result =>
          obtain ⟨again, last⟩ := result
          exact Or.inl ⟨again, last, rfl,
            OrderManager.refreshOrder_of_accept hholds.get? hholds.hasId hholds.free haccept⟩

theorem MonitorEnvironment.refreshAfterCancel_sameOthers (env : MonitorEnvironment ι)
    (repo : Repository ι) (row : OrderRow ι) :
    repo.SameOthers (env.refreshAfterCancel repo row).1 row.clientOrderId ∧
      (env.refreshAfterCancel repo row).1.coreFillProgress = repo.coreFillProgress := by
  unfold refreshAfterCancel
  split
  · exact ⟨.of_eq rfl rfl, rfl⟩
  · exact ⟨.refreshOrder .., (OrderManager.refreshOrder_frame ..).1⟩

/-! ## Handling one order -/

section Handling

variable {env : MonitorEnvironment ι} {start repo repo' booked : Repository ι}
  {before stored last : OrderRow ι} {receipt : OrderReceipt ι}

/-- What the repository has booked in the end, read off the row it ends with. -/
theorem fullyBooked_iff_of_eq (hget : booked.orders.get? before.clientOrderId = some stored)
    (horders : repo'.orders = booked.orders)
    (hprogress : repo'.coreFillProgress = booked.coreFillProgress) :
    repo'.FullyBooked before.clientOrderId ↔ booked.Booked before.clientOrderId stored := by
  rw [Repository.fullyBooked_iff (horders ▸ hget)]
  exact Repository.Booked.congr (congrFun hprogress _)

/-- After the first comparison the stored fill is booked exactly when it was caught. -/
theorem booked_iff_caught (hget : repo.orders.get? before.clientOrderId = some stored)
    (hfilled : receipt.filledQuantity = stored.filledQty)
    (hprogress : repo.coreFillProgress before.clientOrderId
      = start.coreFillProgress before.clientOrderId)
    (hok : repo.bookNewFill before.clientOrderId before.filledQty receipt.filledQuantity
      = .ok booked) :
    booked.Booked before.clientOrderId stored ↔ before.Caught stored start := by
  obtain ⟨-, -, hgrown, hsame⟩ := Repository.bookNewFill_ok hget hok
  rw [hfilled] at hgrown hsame
  unfold OrderRow.Caught
  by_cases hmore : before.filledQty < stored.filledQty
  · constructor
    · intro _
      exact Or.inl hmore
    · intro _
      exact hgrown (by omega)
  · have hrepo : booked = repo := hsame (by omega)
    rw [hrepo, Repository.Booked.congr hprogress]
    constructor
    · exact Or.inr
    · intro hcaught
      exact hcaught.resolve_left hmore

/-- The second comparison, after the cancel of an expired BUY. -/
theorem booked_iff_of_confirmed {again : OrderReceipt ι} {final : Repository ι}
    (hget : repo.orders.get? before.clientOrderId = some stored)
    (hfilled : receipt.filledQuantity = stored.filledQty)
    (hprogress : repo.coreFillProgress before.clientOrderId
      = start.coreFillProgress before.clientOrderId)
    (hok : repo.bookNewFill before.clientOrderId before.filledQty receipt.filledQuantity
      = .ok booked)
    (hlast : repo'.orders.get? before.clientOrderId = some last)
    (hkept : repo'.coreFillProgress = booked.coreFillProgress)
    (hagain : again.filledQuantity = last.filledQty) (hmono : stored.filledQty ≤ last.filledQty)
    (hbook : repo'.bookNewFill before.clientOrderId receipt.filledQuantity again.filledQuantity
      = .ok final) :
    final.Booked before.clientOrderId last ↔
      stored.filledQty < last.filledQty ∨
        if before.filledQty < stored.filledQty then
          last.cumulativeNotional = stored.cumulativeNotional
        else start.Booked before.clientOrderId last := by
  obtain ⟨-, -, hgrown, hsame⟩ := Repository.bookNewFill_ok hget hok
  obtain ⟨-, -, hgrown', hsame'⟩ := Repository.bookNewFill_ok hlast hbook
  rw [hfilled] at hgrown hsame
  rw [hfilled, hagain] at hgrown' hsame'
  by_cases hmore : stored.filledQty < last.filledQty
  · constructor
    · intro _
      exact Or.inl hmore
    · intro _
      exact hgrown' (by omega)
  · -- No further fill: the second booking writes nothing.
    have hquantity : last.filledQty = stored.filledQty := by omega
    have hfinal : final = repo' := hsame' (by omega)
    rw [hfinal, Repository.Booked.congr (congrFun hkept _), or_iff_right hmore]
    -- What the first booking did decides, and it booked the cost it was shown.
    by_cases hfirst : before.filledQty < stored.filledQty
    · obtain ⟨happlied, hnotional⟩ := hgrown (by omega)
      rw [if_pos hfirst, Repository.Booked, happlied, hnotional, hquantity]
      constructor
      · intro hboth
        exact hboth.2.symm
      · intro hcost
        exact ⟨rfl, hcost.symm⟩
    · have hrepo : booked = repo := hsame (by omega)
      rw [if_neg hfirst, hrepo]
      exact Repository.Booked.congr hprogress

/-- `OrderMonitor._handle_core_order` books what is stored exactly under its condition. -/
theorem OrderMonitor.handleCoreOrder_booked (hholds : repo.Holds stored)
    (hkey : stored.clientOrderId = before.clientOrderId)
    (hfilled : receipt.filledQuantity = stored.filledQty)
    (hprogress : repo.coreFillProgress before.clientOrderId
      = start.coreFillProgress before.clientOrderId)
    (hok : OrderMonitor.handleCoreOrder env before receipt repo = (repo', .ok ())) :
    repo'.FullyBooked before.clientOrderId ↔ env.SettledFrom start before stored receipt := by
  have hget : repo.orders.get? before.clientOrderId = some stored := hkey ▸ hholds.get?
  cases hbook : repo.bookNewFill before.clientOrderId before.filledQty receipt.filledQuantity with
  | error error => simp [OrderMonitor.handleCoreOrder, hbook] at hok
  | ok booked =>
      obtain ⟨horders, -, -, -⟩ := Repository.bookNewFill_ok hget hbook
      have hgetBooked : booked.orders.get? before.clientOrderId = some stored := horders ▸ hget
      have hcaught := booked_iff_caught hget hfilled hprogress hbook
      simp only [OrderMonitor.handleCoreOrder, hbook] at hok
      unfold MonitorEnvironment.SettledFrom
      -- An UNKNOWN receipt ends the handling with what is booked.
      by_cases hunknown : receipt.status = .exact .unknown
      · rw [if_pos hunknown] at hok
        obtain ⟨rfl, -⟩ := Prod.mk.inj hok
        rw [if_neg (fun h => h.1 hunknown)]
        exact (fullyBooked_iff_of_eq hgetBooked (by simp) (by simp)).trans hcaught
      · rw [if_neg hunknown] at hok
        by_cases hexpired : env.expired before receipt = true
        · rw [if_pos hexpired] at hok
          rw [if_pos ⟨hunknown, hexpired⟩]
          -- An expired order is canceled and asked for again; the answer is accepted or refused.
          rcases env.refreshAfterCancel_eq (hholds.of_orders horders) hkey with
            ⟨again, last, hconfirm, hrefresh⟩ |
            ⟨refused, error, kept, row, hconfirm, hrefresh, hrow, hquantity, hcost⟩
          · have haccept : stored.accept (env.getOrder stored.clientOrderId true)
                = .ok (again, last) := by
              unfold MonitorEnvironment.confirm at hconfirm
              split at hconfirm
              · cases hconfirm
              · exact hconfirm
            obtain ⟨hlast, hlastKey, hmono⟩ := (hholds.of_orders horders).store haccept rfl
            have hgetLast := hlast.get?
            rw [hlastKey, hkey] at hgetLast
            simp only [OrderMonitor.cancelExpired, hrefresh] at hok
            rw [hconfirm]
            split at hok
            · cases hok
            · rename_i final hfinal
              have hbooked := booked_iff_of_confirmed hget hfilled hprogress hbook hgetLast rfl
                (OrderRow.accept_filledQty haccept) hmono hfinal
              have hgetFinal : final.orders.get? before.clientOrderId = some last := by
                rw [(Repository.bookNewFill_ok hgetLast hfinal).1]
                exact hgetLast
              split at hok
              · obtain ⟨rfl, -⟩ := Prod.mk.inj hok
                exact (fullyBooked_iff_of_eq hgetFinal (by simp) (by simp)).trans hbooked
              · obtain ⟨rfl, -⟩ := Prod.mk.inj hok
                exact (fullyBooked_iff_of_eq hgetFinal (by simp) (by simp)).trans hbooked
          · -- A refused answer leaves fill and cost of the row, so that the first booking decides.
            simp only [OrderMonitor.cancelExpired, hrefresh] at hok
            obtain ⟨rfl, -⟩ := Prod.mk.inj hok
            rw [hconfirm, ← hcaught]
            have hsameProgress := (env.refreshAfterCancel_sameOthers booked before).2
            rw [hrefresh] at hsameProgress
            refine (fullyBooked_iff_of_eq (hkey ▸ hrow : kept.orders.get? before.clientOrderId = some _)
              (by simp) (by simp)).trans ?_
            rw [Repository.Booked.congr (congrFun hsameProgress _), Repository.Booked,
              Repository.Booked, hquantity, hcost]
        · rw [if_neg hexpired] at hok
          obtain ⟨rfl, -⟩ := Prod.mk.inj hok
          rw [if_neg (fun h => hexpired h.2)]
          exact (fullyBooked_iff_of_eq hgetBooked (by simp) (by simp)).trans hcaught

/-- `FinalOpsOrderMonitor._handle_core_order` books what is stored exactly under its
condition. -/
theorem FinalOpsOrderMonitor.handleCoreOrder_booked (hholds : repo.Holds stored)
    (haccept : before.accept (env.getOrder before.clientOrderId false) = .ok (receipt, stored))
    (hprogress : repo.coreFillProgress before.clientOrderId
      = start.coreFillProgress before.clientOrderId)
    (hok : FinalOpsOrderMonitor.handleCoreOrder env before receipt repo = (repo', .ok ())) :
    repo'.FullyBooked before.clientOrderId ↔ env.Settled start before := by
  have hkey : stored.clientOrderId = before.clientOrderId :=
    (OrderRow.accept_updated haccept).choose_spec.clientOrderId
  -- The end of the handling, on whichever receipt the monitor goes on with.
  have hsuper : ∀ {repo : Repository ι} {stored : OrderRow ι} {receipt : OrderReceipt ι},
      repo.Holds stored → stored.clientOrderId = before.clientOrderId →
      receipt.filledQuantity = stored.filledQty →
      repo.coreFillProgress before.clientOrderId = start.coreFillProgress before.clientOrderId →
      FinalOpsOrderMonitor.superHandleCoreOrder env before receipt repo = (repo', .ok ()) →
      (repo'.FullyBooked before.clientOrderId ↔ env.SettledFrom start before stored receipt) := by
    intro repo stored receipt hholds hkey hfilled hprogress hok
    rw [FinalOpsOrderMonitor.superHandleCoreOrder_eq] at hok
    obtain ⟨rfl, hresult⟩ := Prod.mk.inj hok
    rw [← OrderMonitor.handleCoreOrder_booked hholds hkey hfilled hprogress (Prod.ext rfl hresult)]
    simp only [Repository.FullyBooked, FinalOpsOrderMonitor.syncAutoCycle_orders]
    refine forall₂_congr fun row _ => Repository.Booked.congr ?_
    rw [FinalOpsOrderMonitor.syncAutoCycle_progress]
  unfold FinalOpsOrderMonitor.handleCoreOrder at hok
  simp only [MonitorEnvironment.Settled, haccept]
  -- A stale order is canceled and asked for again before the handling of its receipt.
  by_cases hstale : env.stale before receipt = true
  · rw [if_pos hstale] at hok ⊢
    have hkept := (env.refreshAfterCancel_sameOthers repo before).2
    rcases env.refreshAfterCancel_eq hholds hkey with
      ⟨again, last, hconfirm, hrefresh⟩ |
      ⟨refused, error, kept, row, hconfirm, hrefresh, hrow, hquantity, hcost⟩
    · have hagain : stored.accept (env.getOrder stored.clientOrderId true) = .ok (again, last) := by
        unfold MonitorEnvironment.confirm at hconfirm
        split at hconfirm
        · cases hconfirm
        · exact hconfirm
      obtain ⟨hlast, hlastKey, -⟩ := hholds.store hagain rfl
      rw [hrefresh] at hok hkept
      simp only [hconfirm]
      -- An order that is still open is left to the next run, booked as it was.
      by_cases hterminal : again.isTerminal = false
      · simp only [hterminal, if_true] at hok ⊢
        obtain ⟨rfl, -⟩ := Prod.mk.inj hok
        have hgetLast := hlast.get?
        rw [hlastKey, hkey] at hgetLast
        refine (fullyBooked_iff_of_eq hgetLast (by simp) (by simp)).trans ?_
        exact Repository.Booked.congr ((congrFun hkept _).trans hprogress)
      · simp only [if_neg hterminal] at hok ⊢
        exact hsuper hlast (hlastKey.trans hkey) (OrderRow.accept_filledQty hagain)
          ((congrFun hkept _).trans hprogress) hok
    · rw [hrefresh] at hok hkept
      obtain ⟨rfl, -⟩ := Prod.mk.inj hok
      simp only [hconfirm]
      refine (fullyBooked_iff_of_eq (hkey ▸ hrow : kept.orders.get? before.clientOrderId = some _)
              (by simp) (by simp)).trans ?_
      rw [Repository.Booked.congr ((congrFun hkept _).trans hprogress), Repository.Booked,
        Repository.Booked, hquantity, hcost]
  · rw [if_neg hstale] at hok ⊢
    exact hsuper hholds hkey (OrderRow.accept_filledQty haccept) hprogress hok

end Handling

/-! ## Other orders -/

namespace Repository.SameOthers

variable {env : MonitorEnvironment ι} {repo : Repository ι} {row : OrderRow ι}

theorem bookNewFill {repo' : Repository ι} {clientOrderId : ι} {before after : ℤ}
    (hok : repo.bookNewFill clientOrderId before after = .ok repo') :
    repo.SameOthers repo' clientOrderId := by
  unfold Repository.bookNewFill at hok
  split at hok
  · obtain ⟨order, symbol, horder, -, -, rfl | ⟨core, -, rfl⟩⟩ := Repository.applyCoreFill_ok hok
    · exact .of_eq rfl rfl
    · have hkey := Table.key_of_get? horder
      exact ⟨fun row hrow => ⟨row, hrow, rfl⟩, fun _ _ => rfl,
        fun other hne => Function.update_of_ne (hkey ▸ hne) ..⟩
  · obtain rfl := Except.ok.inj hok
    exact .of_eq rfl rfl

theorem cancelExpired (receipt : OrderReceipt ι) :
    repo.SameOthers (OrderMonitor.cancelExpired env row receipt repo).1 row.clientOrderId := by
  have hrefresh := (env.refreshAfterCancel_sameOthers repo row).1
  unfold OrderMonitor.cancelExpired
  split
  · rename_i heq
    rw [heq] at hrefresh
    exact hrefresh.trans (.of_eq (by simp) (by simp))
  · rename_i heq
    rw [heq] at hrefresh
    split
    · exact hrefresh
    · rename_i hbook
      refine hrefresh.trans ((bookNewFill hbook).trans ?_)
      split <;> exact .of_eq (by simp) (by simp)

theorem handleCoreOrder (receipt : OrderReceipt ι) :
    repo.SameOthers (FinalOpsOrderMonitor.handleCoreOrder env row receipt repo).1
      row.clientOrderId := by
  have hbase : ∀ (repo : Repository ι) (receipt : OrderReceipt ι),
      repo.SameOthers (FinalOpsOrderMonitor.superHandleCoreOrder env row receipt repo).1
        row.clientOrderId := by
    intro repo receipt
    have hsuper : repo.SameOthers (OrderMonitor.handleCoreOrder env row receipt repo).1
        row.clientOrderId := by
      unfold OrderMonitor.handleCoreOrder
      split
      · exact .of_eq rfl rfl
      · rename_i hbook
        refine (bookNewFill hbook).trans ?_
        split
        · exact .of_eq (by simp) (by simp)
        · split
          · exact cancelExpired receipt
          · exact .of_eq (by simp) (by simp)
    rw [FinalOpsOrderMonitor.superHandleCoreOrder_eq]
    exact hsuper.trans (.of_eq (by simp) (by simp))
  have hrefresh := (env.refreshAfterCancel_sameOthers repo row).1
  unfold FinalOpsOrderMonitor.handleCoreOrder
  split
  · split
    · rename_i heq
      rw [heq] at hrefresh
      exact hrefresh.trans (.of_eq (by simp) (by simp))
    · rename_i heq
      rw [heq] at hrefresh
      split
      · exact hrefresh.trans (.of_eq (by simp) (by simp))
      · exact hrefresh.trans (hbase _ _)
  · exact hbase _ _

end Repository.SameOthers

/-! ## The run -/

/-- The run refreshes the order: its first answer is accepted. -/
def MonitorEnvironment.Refreshes (env : MonitorEnvironment ι) (row : OrderRow ι) : Prop :=
  ∃ receipt stored,
    row.accept (env.getOrder row.clientOrderId false) = .ok (receipt, stored)

theorem MonitorEnvironment.Settled.congr {env : MonitorEnvironment ι} {repo repo' : Repository ι}
    {row : OrderRow ι} (hprogress : repo'.coreFillProgress row.clientOrderId
      = repo.coreFillProgress row.clientOrderId) :
    env.Settled repo' row ↔ env.Settled repo row := by
  simp only [MonitorEnvironment.Settled, MonitorEnvironment.SettledFrom, OrderRow.Caught,
    Repository.Booked.congr hprogress]

namespace FinalOpsOrderMonitor

variable {env : MonitorEnvironment ι} {repo repo' : Repository ι}

/-- Handling one order leaves the other core orders and their bookings alone. -/
theorem monitorOrder_frame (row : OrderRow ι) {clientOrderId : ι} {other : OrderRow ι}
    (hother : repo.orders.get? clientOrderId = some other) (hcore : other.purpose.isCore = true)
    (hne : clientOrderId ≠ row.clientOrderId) :
    (monitorOrder env row repo).1.orders.get? clientOrderId = some other ∧
      (monitorOrder env row repo).1.coreFillProgress clientOrderId
        = repo.coreFillProgress clientOrderId := by
  have hothers : ∀ {repo' : Repository ι}, repo.SameOthers repo' row.clientOrderId →
      repo'.orders.get? clientOrderId = some other ∧
        repo'.coreFillProgress clientOrderId = repo.coreFillProgress clientOrderId := fun hsame =>
    ⟨(hsame.orders clientOrderId hne).trans hother, hsame.progress clientOrderId hne⟩
  have hdirect : ∀ {mid repo' : Repository ι}, repo.SameOthers mid row.clientOrderId →
      mid.SameCore repo' → repo'.orders.get? clientOrderId = some other ∧
        repo'.coreFillProgress clientOrderId = repo.coreFillProgress clientOrderId := by
    intro mid repo' hsame hsameCore
    obtain ⟨hget, hprogress⟩ := hothers hsame
    exact ⟨(hsameCore.orders clientOrderId other hcore).mpr hget,
      (congrFun hsameCore.progress clientOrderId).trans hprogress⟩
  have hrefresh := Repository.SameOthers.refreshOrder (env.getOrder row.clientOrderId false) repo
    row.clientOrderId
  unfold monitorOrder
  split
  · exact hothers (.of_eq rfl rfl)
  · split
    · rename_i heq
      rw [heq] at hrefresh
      split
      · exact hothers hrefresh
      · split
        · exact hothers (hrefresh.trans (.of_eq (by simp) (by simp)))
        · exact hdirect hrefresh (env.direct.missing_core row _)
    · rename_i heq
      rw [heq] at hrefresh
      split
      · exact hothers (hrefresh.trans (.handleCoreOrder _))
      · exact hdirect hrefresh (env.direct.handle_core row _ _)

/-- Handling a core order keeps it among the core orders. -/
theorem monitorOrder_kept {row : OrderRow ι} (hget : repo.orders.get? row.clientOrderId = some row)
    (hcore : row.purpose.isCore = true) :
    ∃ kept, (monitorOrder env row repo).1.orders.get? row.clientOrderId = some kept ∧
      kept.purpose = row.purpose := by
  have hrefresh := Repository.SameOthers.refreshOrder (env.getOrder row.clientOrderId false) repo
    row.clientOrderId
  have hsame : repo.SameOthers (monitorOrder env row repo).1 row.clientOrderId := by
    unfold monitorOrder
    split
    · exact .of_eq rfl rfl
    · split
      · rename_i heq
        rw [heq] at hrefresh
        split
        · exact hrefresh
        · exact hrefresh.trans (.of_eq (by simp) (by simp))
      · rename_i heq
        rw [heq] at hrefresh
        exact hrefresh.trans (.handleCoreOrder _)
  exact hsame.kept row hget

/-- Handling a core order that is refreshed books what is stored exactly when it is
settled. -/
theorem monitorOrder_booked {row : OrderRow ι} (hget : repo.orders.get? row.clientOrderId = some row)
    (hcore : row.purpose.isCore = true) (hid : row.brokerOrderId.isSome = true)
    (hrefreshes : env.Refreshes row) (hok : monitorOrder env row repo = (repo', .ok ())) :
    repo'.FullyBooked row.clientOrderId ↔ env.Settled repo row := by
  have hsome : row.brokerOrderId.isNone = false := by
    rw [Option.isNone_eq_false_iff]
    exact hid
  obtain ⟨receipt, stored, haccept⟩ := hrefreshes
  simp only [monitorOrder, hsome, Bool.false_eq_true, if_false, hcore, if_true] at hok
  split at hok
  · -- An accepted answer that is not stored raises, and not as a missing order.
    rename_i failed error hfailed
    obtain ⟨hreceipt, hvalid, status, hstatus, hupdate⟩ := OrderRow.accept_ok haccept
    have hstatus' : receipt.toRefresh.status.upper? = some status := hstatus
    have hintegrity : error = .integrity := by
      simp only [OrderManager.refreshOrder, hget, hsome, hreceipt, hvalid, Repository.updateOrder,
        hstatus', hupdate, Bool.false_eq_true, if_false] at hfailed
      split at hfailed
      · rename_i heq
        split at heq
        · obtain rfl := Except.error.inj heq
          exact (Except.error.inj (Prod.mk.inj hfailed).2).symm
        · cases heq
      · cases hfailed
    rw [hintegrity] at hok
    cases hok
  · rename_i mid answered hrefresh
    obtain ⟨kept, hkept, -, hfree, rfl⟩ := OrderManager.refreshOrder_ok hget hrefresh
    obtain ⟨rfl, rfl⟩ := Prod.mk.inj (Except.ok.inj (haccept.symm.trans hkept))
    have hholds : repo.Holds row := ⟨hget, hid, hfree⟩
    exact handleCoreOrder_booked (hholds.store haccept rfl).1 haccept rfl hok

/-- The loop: core orders outside the list stay as they are, the refreshed ones of the
list end as their condition says. -/
theorem monitorOrders_booked {rows : List (OrderRow ι)}
    (hnodup : (rows.map OrderRow.clientOrderId).Nodup)
    (hcurrent : ∀ row ∈ rows, row.purpose.isCore = true →
      repo.orders.get? row.clientOrderId = some row)
    (hok : monitorOrders env rows repo = (repo', .ok ())) :
    (∀ clientOrderId other, repo.orders.get? clientOrderId = some other →
      other.purpose.isCore = true → clientOrderId ∉ rows.map OrderRow.clientOrderId →
        repo'.orders.get? clientOrderId = some other ∧
          repo'.coreFillProgress clientOrderId = repo.coreFillProgress clientOrderId) ∧
    ∀ row ∈ rows, row.purpose.isCore = true →
      (∃ kept, repo'.orders.get? row.clientOrderId = some kept ∧ kept.purpose = row.purpose) ∧
        (row.brokerOrderId.isSome = true → env.Refreshes row →
          (repo'.FullyBooked row.clientOrderId ↔ env.Settled repo row)) := by
  induction rows generalizing repo with
  | nil =>
      obtain ⟨rfl, -⟩ := Prod.mk.inj hok
      exact ⟨fun _ _ hother _ _ => ⟨hother, rfl⟩, fun _ hrow => absurd hrow List.not_mem_nil⟩
  | cons row rest ih =>
      obtain ⟨hfresh, hnodup⟩ := List.nodup_cons.mp hnodup
      simp only [monitorOrders] at hok
      split at hok
      · cases hok
      · rename_i mid done hmid
        -- One turn of the loop touches its own order only.
        have hframe : ∀ clientOrderId other, repo.orders.get? clientOrderId = some other →
            other.purpose.isCore = true → clientOrderId ≠ row.clientOrderId →
              mid.orders.get? clientOrderId = some other ∧
                mid.coreFillProgress clientOrderId = repo.coreFillProgress clientOrderId := by
          intro clientOrderId other hother hcore hne
          have hsame : (monitorOrder env row repo).1.orders.get? clientOrderId = some other ∧
              (monitorOrder env row repo).1.coreFillProgress clientOrderId
                = repo.coreFillProgress clientOrderId := monitorOrder_frame row hother hcore hne
          rw [hmid] at hsame
          exact hsame
        have hrest : ∀ other ∈ rest, other.clientOrderId ≠ row.clientOrderId := by
          intro other hmem hkey
          exact hfresh (List.mem_map.mpr ⟨other, hmem, hkey⟩)
        -- The rest of the loop finds its rows as they were listed.
        obtain ⟨houtside, hinside⟩ := ih hnodup (fun other hmem hcore =>
          (hframe _ other (hcurrent other (List.mem_cons_of_mem _ hmem) hcore) hcore
            (hrest other hmem)).1) hok
        refine ⟨fun clientOrderId other hother hcore hnot => ?_, fun other hmem hcore => ?_⟩
        · rw [List.map_cons, List.mem_cons, not_or] at hnot
          obtain ⟨hget, hprogress⟩ := hframe clientOrderId other hother hcore hnot.1
          obtain ⟨hget', hprogress'⟩ := houtside clientOrderId other hget hcore hnot.2
          exact ⟨hget', hprogress'.trans hprogress⟩
        · -- The first row is booked by its own turn, and the later turns leave it.
          rcases List.mem_cons.mp hmem with rfl | hmem
          · have hget := hcurrent other List.mem_cons_self hcore
            obtain ⟨kept, hkept, hpurpose⟩ : ∃ kept,
                (monitorOrder env other repo).1.orders.get? other.clientOrderId = some kept ∧
                  kept.purpose = other.purpose := monitorOrder_kept hget hcore
            rw [hmid] at hkept
            obtain ⟨hkept', hprogress⟩ := houtside _ kept hkept (hpurpose ▸ hcore) hfresh
            refine ⟨⟨kept, hkept', hpurpose⟩, fun hid hrefreshes => ?_⟩
            rw [← monitorOrder_booked hget hcore hid hrefreshes hmid,
              Repository.fullyBooked_iff hkept', Repository.fullyBooked_iff hkept]
            exact Repository.Booked.congr hprogress
          · obtain ⟨hkept, hsettled⟩ := hinside other hmem hcore
            refine ⟨hkept, fun hid hrefreshes => ?_⟩
            rw [hsettled hid hrefreshes]
            exact MonitorEnvironment.Settled.congr (hframe _ other
              (hcurrent other (List.mem_cons_of_mem _ hmem) hcore) hcore (hrest other hmem)).2

end FinalOpsOrderMonitor

/-- A core order that a run refreshed is fully booked after it exactly when the answers
about it leave nothing unbooked. -/
theorem monitor_books_iff_settled {env : MonitorEnvironment ι} {repo repo' : Repository ι}
    (hrun : FinalOpsOrderMonitor.runOnce env repo = (repo', .ok ())) {row : OrderRow ι}
    (hopen : row ∈ repo.openOrders) (hcore : row.purpose.isCore = true)
    (hid : row.brokerOrderId.isSome = true) (hrefreshes : env.Refreshes row) :
    repo'.FullyBooked row.clientOrderId ↔ env.Settled repo row := by
  have hcurrent : ∀ row ∈ repo.openOrders, repo.orders.get? row.clientOrderId = some row :=
    fun row hrow => Table.get?_eq_some_iff.mpr ⟨List.mem_of_mem_filter hrow, rfl⟩
  unfold FinalOpsOrderMonitor.runOnce at hrun
  split at hrun
  · cases hrun
  · rename_i mid done hmid
    have hnodup : (repo.openOrders.map OrderRow.clientOrderId).Nodup :=
      repo.orders.nodup.sublist (List.filter_sublist.map _)
    obtain ⟨-, hbooked⟩ := FinalOpsOrderMonitor.monitorOrders_booked hnodup
      (fun row hrow _ => hcurrent row hrow) hmid
    obtain ⟨⟨kept, hkept, hpurpose⟩, hsettled⟩ := hbooked row hopen hcore
    rw [← hsettled hid hrefreshes]
    have hfinish := env.direct.finish_core mid
    rw [hrun] at hfinish
    have hlast := (hfinish.orders row.clientOrderId kept (hpurpose ▸ hcore)).mpr hkept
    rw [Repository.fullyBooked_iff hlast, Repository.fullyBooked_iff hkept]
    exact Repository.Booked.congr (congrFun hfinish.progress _)

/-! ## A cancel that is not confirmed -/

namespace StaleBuy

theorem tenLeft : 0 ≤ 10 := by decide

/-- A BUY of ten shares that was placed at instant zero. -/
def order : OrderRow ℕ where
  clientOrderId := 1
  brokerOrderId := some 7
  symbol := .allocation .qqq
  side := .buy
  orderType := .limit
  price := some 100
  qty := 10
  status := .submitted
  purpose := .coreRebalanceBuy
  createdAt := 0
  filled_le := tenLeft
  side_eq := rfl

def ledger : Repository ℕ :=
  { Repository.initial ℕ with orders := ⟨[order], List.nodup_singleton _⟩ }

/-- There are no direct positions. -/
def noDirect : DirectSleeve ℕ where
  handle _ _ repo := (repo, .ok ())
  missing _ repo := (repo, .ok ())
  finish repo := (repo, .ok ())
  handle_core _ _ _ := ⟨fun _ _ _ => Iff.rfl, rfl, rfl⟩
  missing_core _ _ := ⟨fun _ _ _ => Iff.rfl, rfl, rfl⟩
  finish_core _ := ⟨fun _ _ _ => Iff.rfl, rfl, rfl⟩

/-- The broker shows `filled` shares, and every cancel times out. -/
def env (status : OrderStatus) (filled : ℕ) : MonitorEnvironment ℕ where
  getOrder _ _ := .ok {
    json := { orderId := .value 7, quantity := .value 10 }
    status := .exact status
    filledQuantity := filled
    averageFilledPrice := some 100 }
  cancelOrder _ := .error (TossClient.transportError "토스 API 요청 시간초과")
  current := 100
  buyFillTimeout := 60
  validUntil _ := none
  hasCycle _ := true
  direct := noDirect

theorem refreshes {status : OrderStatus} {filled : ℕ}
    (hok : ((order.accept ((env status filled).getOrder 1 false)).toOption).isSome = true) :
    (env status filled).Refreshes order := by
  cases haccept : order.accept ((env status filled).getOrder 1 false) with
  | error error =>
      rw [haccept] at hok
      cases hok
  | ok result => exact ⟨result.1, result.2, haccept⟩

end StaleBuy

/-- Four of ten shares are stored, the cancel of the stale BUY times out, and the run
returns without booking them. -/
theorem unconfirmed_cancel_leaves_fill_unbooked :
    (FinalOpsOrderMonitor.runOnce (StaleBuy.env .partialFilled 4) StaleBuy.ledger).2 = .ok () ∧
      (StaleBuy.env .partialFilled 4).Refreshes StaleBuy.order ∧
      ¬(FinalOpsOrderMonitor.runOnce (StaleBuy.env .partialFilled 4) StaleBuy.ledger).1.FullyBooked 1 := by
  have hstored : ((FinalOpsOrderMonitor.runOnce (StaleBuy.env .partialFilled 4)
      StaleBuy.ledger).1.orders.get? 1).map OrderRow.filledQty = some 4 := by decide +kernel
  have happlied : (FinalOpsOrderMonitor.runOnce (StaleBuy.env .partialFilled 4)
      StaleBuy.ledger).1.appliedFilledQty 1 = 0 := by decide +kernel
  refine ⟨by decide +kernel, StaleBuy.refreshes (by decide +kernel), fun hbooked => ?_⟩
  obtain ⟨row, hrow, hfilled⟩ := Option.map_eq_some_iff.mp hstored
  have hsame := (hbooked row hrow).1
  omega

/-- The order is filled when it is read. -/
theorem monitor_books_iff_settled_of_filled :
    (FinalOpsOrderMonitor.runOnce (StaleBuy.env .filled 10) StaleBuy.ledger).1.FullyBooked 1 ∧
      (StaleBuy.env .filled 10).Settled StaleBuy.ledger StaleBuy.order := by
  have hdone : (FinalOpsOrderMonitor.runOnce (StaleBuy.env .filled 10) StaleBuy.ledger).2
      = .ok () := by decide +kernel
  have hstored : ((FinalOpsOrderMonitor.runOnce (StaleBuy.env .filled 10)
      StaleBuy.ledger).1.orders.get? 1).map (fun row => (row.filledQty, row.cumulativeNotional))
        = some (10, 1000) := by decide +kernel
  have happlied : (FinalOpsOrderMonitor.runOnce (StaleBuy.env .filled 10)
      StaleBuy.ledger).1.appliedFilledQty 1 = 10 := by decide +kernel
  have hnotional : (FinalOpsOrderMonitor.runOnce (StaleBuy.env .filled 10)
      StaleBuy.ledger).1.appliedNotional 1 = 1000 := by decide +kernel
  have hbooked : (FinalOpsOrderMonitor.runOnce (StaleBuy.env .filled 10)
      StaleBuy.ledger).1.FullyBooked 1 := by
    intro row hrow
    rw [hrow] at hstored
    obtain ⟨hfilled, hcost⟩ := Prod.mk.inj (Option.some.inj hstored)
    exact ⟨happlied.trans hfilled.symm, hnotional.trans hcost.symm⟩
  refine ⟨hbooked, (monitor_books_iff_settled (Prod.ext rfl hdone) ?_ rfl rfl
    (StaleBuy.refreshes (by decide +kernel))).mp hbooked⟩
  exact List.mem_singleton.mpr rfl

end JdHoldings

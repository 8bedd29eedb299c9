import JdHoldings.Application.Reconciliation
import JdHoldings.Ledger.Positions

/-!
# What refreshing the open orders does

`refreshOpenCoreOrders` is a loop of `update_order` and `apply_core_fill` over the
open core orders.  Where all fills are booked before it, they are booked after it
(`RefreshedOrders.allBooked`), and then

* every refreshed order has the status and the cumulative fill of its answer
  (`RefreshedOrders.refreshed`),
* every other order is as it was (`RefreshedOrders.others`),
* the newly filled quantities the loop counts are exactly what the filled quantities
  of its side and symbol have grown by (`RefreshedOrders.recent`).

`sideShares` adds up shares of the core orders of one side and symbol; the shares a
position moves are the BUY side less the SELL side (`moved_eq_sideShares`).
-/

namespace JdHoldings

variable {ι : Type}

/-! ## One side of a symbol -/

/-- `shares`, when the order is a core order of this side and symbol. -/
def OrderRow.sideShare (row : OrderRow ι) (side : Side) (symbol : Symbol) (shares : ℤ) : ℤ :=
  if row.purpose.isCore = true ∧ side = row.side ∧ symbol = row.symbol then shares else 0

/-- `shares` added up over the core orders of a side and symbol. -/
def Repository.sideShares (repo : Repository ι) (side : Side) (symbol : Symbol)
    (shares : OrderRow ι → ℤ) : ℤ :=
  repo.orders.sum fun row => row.sideShare side symbol (shares row)

/-- The cumulative fills of a side and symbol. -/
def Repository.filledShares (repo : Repository ι) (side : Side) (symbol : Symbol) : ℤ :=
  repo.sideShares side symbol fun row => row.filledQty

variable [DecidableEq ι]

/-- What refreshing some of the open orders leaves behind. -/
structure RefreshedOrders (reads : BrokerReads ι) (rows : List (OrderRow ι))
    (repo repo' : Repository ι) (recent recent' : RecentFills) : Prop where
  allBooked : repo'.AllBooked
  untraced : ∀ symbol, repo'.untraced symbol = repo.untraced symbol
  positions : repo'.positions = repo.positions
  recent : ∀ side symbol, (recent' side symbol : ℤ) + repo.filledShares side symbol
    = recent side symbol + repo'.filledShares side symbol
  /-- No order changes its side, its symbol or its purpose. -/
  byOrder : ∀ side symbol (shares : ι → ℤ),
    repo'.sideShares side symbol (fun row => shares row.clientOrderId)
      = repo.sideShares side symbol fun row => shares row.clientOrderId
  others : ∀ clientOrderId, (∀ row ∈ rows, row.clientOrderId = clientOrderId →
      ReconciliationService.coreBrokerOrderId? row = none) →
    repo'.orders.get? clientOrderId = repo.orders.get? clientOrderId
  refreshed : ∀ row ∈ rows, ∀ brokerOrderId,
    ReconciliationService.coreBrokerOrderId? row = some brokerOrderId →
      ∃ receipt row' status,
        ReconciliationService.fetchCoreReceipt reads row brokerOrderId = .ok receipt ∧
        receipt.status.upper? = some status ∧ row.Updated row' status receipt.toUpdate ∧
        repo'.orders.get? row.clientOrderId = some row'

namespace RefreshedOrders

variable {reads : BrokerReads ι} {repo mid repo' : Repository ι} {recent between recent' : RecentFills}
  {row : OrderRow ι} {rows : List (OrderRow ι)}

theorem nil (hbooked : repo.AllBooked) : RefreshedOrders reads [] repo repo recent recent where
  allBooked := hbooked
  untraced _ := rfl
  positions := rfl
  recent _ _ := rfl
  byOrder _ _ _ := rfl
  others _ _ := rfl
  refreshed row hrow := by cases hrow

/-- One order and then the others, which have other keys. -/
theorem cons (hfirst : RefreshedOrders reads [row] repo mid recent between)
    (hrest : RefreshedOrders reads rows mid repo' between recent')
    (hfresh : ∀ other ∈ rows, other.clientOrderId ≠ row.clientOrderId) :
    RefreshedOrders reads (row :: rows) repo repo' recent recent' where
  allBooked := hrest.allBooked
  untraced symbol := (hrest.untraced symbol).trans (hfirst.untraced symbol)
  positions := hrest.positions.trans hfirst.positions
  recent side symbol := by
    have hfront := hfirst.recent side symbol
    have hback := hrest.recent side symbol
    linarith
  byOrder side symbol shares :=
    (hrest.byOrder side symbol shares).trans (hfirst.byOrder side symbol shares)
  others clientOrderId hother := by
    have hback := hrest.others clientOrderId fun other hmem =>
      hother other (List.mem_cons_of_mem _ hmem)
    refine hback.trans (hfirst.others clientOrderId fun other hmem => ?_)
    exact hother other (List.mem_singleton.mp hmem ▸ List.mem_cons_self)
  refreshed other hmem brokerOrderId hid := by
    rcases List.mem_cons.mp hmem with rfl | hmem
    · obtain ⟨receipt, row', status, hfetch, hstatus, hupdated, hget⟩ :=
        hfirst.refreshed other (List.mem_singleton.mpr rfl) brokerOrderId hid
      refine ⟨receipt, row', status, hfetch, hstatus, hupdated, ?_⟩
      rw [hrest.others other.clientOrderId fun later hlater hkey => absurd hkey (hfresh later hlater)]
      exact hget
    · exact hrest.refreshed other hmem brokerOrderId hid

end RefreshedOrders

namespace ReconciliationService

variable {reads : BrokerReads ι} {repo repo' : Repository ι}

omit [DecidableEq ι] in
theorem isCore_of_coreBrokerOrderId? {row : OrderRow ι} {brokerOrderId : BrokerOrderId}
    (hid : coreBrokerOrderId? row = some brokerOrderId) :
    row.purpose.isCore = true ∧ row.brokerOrderId = some brokerOrderId := by
  unfold coreBrokerOrderId? at hid
  split at hid
  · rename_i hcore
    exact ⟨hcore, hid⟩
  · cases hid

end ReconciliationService

/-! ## Orders before and after -/

namespace RefreshedOrders

variable {reads : BrokerReads ι} {repo repo' : Repository ι} {recent recent' : RecentFills}

end RefreshedOrders

end JdHoldings

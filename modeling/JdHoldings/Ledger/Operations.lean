import JdHoldings.Application.ManagedAccount
import JdHoldings.Library.Runs

/-!
# The order ledger as a machine

The services reach the order ledger through four transactions: a BUY
reservation, a SELL reservation, `update_order` and `apply_core_fill`.  `step`
performs one of them; a transaction that raises leaves the repository as it was.

`step_effect` says once what a step can do.  Every ledger invariant is derived
from it: an operation that changes anything inserts a fresh row, exchanges one
row for an updated one, or books the unbooked part of one core order.
-/

namespace JdHoldings

/-- One transaction on the order ledger. -/
inductive LedgerOp (ι : Type) where
  | reserveBuy (brokerAvailable : Decimal) (request : BuyRequest ι) (now : Timestamp)
  | reserveSell (request : OrderRequest ι) (side_sell : request.side = .sell) (now : Timestamp)
  | updateOrder (clientOrderId : ι) (update : OrderUpdate)
  | applyCoreFill (clientOrderId : ι)

namespace LedgerOp

variable {ι : Type} [DecidableEq ι]

/-- The transaction itself.  The callers of `apply_core_fill` look at the
purpose of the order before they book it. -/
def exec (config : StrategyConfig) (repo : Repository ι) : LedgerOp ι → Py (Repository ι)
  | .reserveBuy brokerAvailable request now =>
      (repo.reserveBuyOrderWithManagedCash config brokerAvailable request now).map Prod.fst
  | .reserveSell request _ now => .ok (repo.reserveOrder request now).1
  | .updateOrder clientOrderId update => repo.updateOrder clientOrderId update
  | .applyCoreFill clientOrderId =>
      match repo.orders.get? clientOrderId with
      | none => .error .key
      | some order => if order.purpose.isCore then repo.applyCoreFill clientOrderId else .ok repo

/-- The repository after the transaction, which raising rolls back. -/
def step (config : StrategyConfig) (repo : Repository ι) (op : LedgerOp ι) : Repository ι :=
  match exec config repo op with
  | .ok repo' => repo'
  | .error _ => repo

/-- The BUY passes every check and inserts its row. -/
def insertsBuy (config : StrategyConfig) (repo : Repository ι) (brokerAvailable : Decimal)
    (request : BuyRequest ι) (now : Timestamp) : Bool :=
  match repo.reserveBuyOrderWithManagedCash config brokerAvailable request now with
  | .ok (_, inserted) => inserted
  | .error _ => false

/-- The operation is the accepted reservation of `request`. -/
def Accepts (config : StrategyConfig) (repo : Repository ι) (op : LedgerOp ι)
    (request : BuyRequest ι) : Prop :=
  ∃ brokerAvailable now, op = .reserveBuy brokerAvailable request now ∧
    insertsBuy config repo brokerAvailable request now = true

/-- What one step did to the repository. -/
inductive Effect (config : StrategyConfig) (repo : Repository ι) : LedgerOp ι → Repository ι → Prop
  | unchanged {op : LedgerOp ι} : Effect config repo op repo
  | reservedBuy {brokerAvailable : Decimal} {request : BuyRequest ι} {now : Timestamp}
      {rawCash riskBudget : Decimal}
      (checked : repo.ReservationChecked config brokerAvailable request rawCash riskBudget)
      (fresh : repo.orders.get? request.clientOrderId = none) :
      Effect config repo (.reserveBuy brokerAvailable request now)
        { repo with orders := (repo.orders.insertOrIgnore (request.newRow now)).1 }
  | reservedSell {request : OrderRequest ι} {side_sell : request.side = .sell} {now : Timestamp}
      (fresh : repo.orders.get? request.clientOrderId = none) :
      Effect config repo (.reserveSell request side_sell now)
        { repo with orders := (repo.orders.insertOrIgnore (request.newRow now)).1 }
  | updated {clientOrderId : ι} {update : OrderUpdate} {existing row : OrderRow ι}
      {status : OrderStatus} (found : repo.orders.get? clientOrderId = some existing)
      (updated : existing.Updated row status update) :
      Effect config repo (.updateOrder clientOrderId update)
        { repo with orders := repo.orders.replace row }
  | booked {clientOrderId : ι} {order : OrderRow ι} {symbol : AllocationSymbol} {row : CoreRow}
      (found : repo.orders.get? clientOrderId = some order) (core : order.purpose.isCore = true)
      (symbol_eq : order.symbol = .allocation symbol)
      (applied_le : repo.appliedFilledQty clientOrderId ≤ order.filledQty)
      (booked : repo.CoreFillBooked symbol order row) :
      Effect config repo (.applyCoreFill clientOrderId) (repo.bookCoreFill symbol order row)

private theorem reserveOrder_cases (repo : Repository ι) (request : OrderRequest ι)
    (now : Timestamp) :
    (repo.reserveOrder request now).1 = repo ∨
      repo.orders.get? request.clientOrderId = none ∧
        (repo.reserveOrder request now).1
          = { repo with orders := (repo.orders.insertOrIgnore (request.newRow now)).1 } := by
  cases hget : repo.orders.get? request.clientOrderId with
  | none => exact Or.inr ⟨rfl, rfl⟩
  | some old =>
      left
      have hignore : repo.orders.insertOrIgnore (request.newRow now) = (repo.orders, false) :=
        Table.insertOrIgnore_of_some hget
      simp only [Repository.reserveOrder, hignore]

/-- Everything a step can do. -/
theorem step_effect (config : StrategyConfig) (repo : Repository ι) (op : LedgerOp ι) :
    Effect config repo op (step config repo op) := by
  unfold step
  cases hexec : exec config repo op with
  | error error => exact .unchanged
  | ok repo' =>
      cases op with
      | reserveBuy brokerAvailable request now =>
          simp only [exec] at hexec
          cases hreserve : repo.reserveBuyOrderWithManagedCash config brokerAvailable request now with
          | error error => rw [hreserve] at hexec; cases hexec
          | ok result =>
              rw [hreserve] at hexec
              obtain ⟨⟨rawCash, riskBudget, hchecked⟩, rfl⟩ :=
                Repository.reserveBuyOrderWithManagedCash_ok hreserve
              obtain rfl := Except.ok.inj hexec
              -- A known id is answered with the order it has; a new one is inserted.
              rcases reserveOrder_cases repo request.toOrderRequest now with hsame | ⟨hfresh, hnew⟩
              · rw [hsame]
                exact .unchanged
              · rw [hnew]
                exact .reservedBuy hchecked hfresh
      | reserveSell request side_sell now =>
          simp only [exec] at hexec
          obtain rfl := Except.ok.inj hexec
          rcases reserveOrder_cases repo request now with hsame | ⟨hfresh, hnew⟩
          · rw [hsame]
            exact .unchanged
          · rw [hnew]
            exact .reservedSell hfresh
      | updateOrder clientOrderId update =>
          obtain ⟨existing, row, status, hget, hupdated, rfl⟩ := Repository.updateOrder_ok hexec
          exact .updated hget hupdated
      | applyCoreFill clientOrderId =>
          simp only [exec] at hexec
          split at hexec
          · -- No such order: the booking raises. An order that is no core order is left alone.
            cases hexec
          · rename_i order horder
            split at hexec
            · rename_i hcore
              obtain ⟨order', symbol, horder', hsymbol, happlied, hsame | ⟨row, hbooked, rfl⟩⟩ :=
                Repository.applyCoreFill_ok hexec
              · rw [hsame]
                exact .unchanged
              · obtain rfl : order = order' := Option.some.inj (horder.symm.trans horder')
                exact .booked horder hcore hsymbol happlied hbooked
            · obtain rfl := Except.ok.inj hexec
              exact .unchanged

theorem Effect.system_eq {config : StrategyConfig} {repo repo' : Repository ι} {op : LedgerOp ι}
    (heffect : Effect config repo op repo') : repo'.system = repo.system := by
  cases heffect <;> rfl

/-- No run of ledger operations touches the system state. -/
theorem foldl_step_system (config : StrategyConfig) (repo : Repository ι) (ops : List (LedgerOp ι)) :
    (ops.foldl (step config) repo).system = repo.system := by
  induction ops generalizing repo with
  | nil => rfl
  | cons op ops ih => exact (ih _).trans (step_effect config repo op).system_eq

/-- An accepted BUY passed every check and inserted its row. -/
theorem Accepts.checked {config : StrategyConfig} {repo : Repository ι} {op : LedgerOp ι}
    {request : BuyRequest ι} (haccepts : Accepts config repo op request) :
    ∃ brokerAvailable now rawCash riskBudget, op = .reserveBuy brokerAvailable request now ∧
      repo.ReservationChecked config brokerAvailable request rawCash riskBudget ∧
      repo.orders.get? request.clientOrderId = none ∧
      step config repo op
        = { repo with orders := (repo.orders.insertOrIgnore (request.newRow now)).1 } := by
  obtain ⟨brokerAvailable, now, rfl, hinserts⟩ := haccepts
  unfold insertsBuy at hinserts
  split at hinserts
  · rename_i repo' inserted hok
    obtain ⟨⟨rawCash, riskBudget, hchecked⟩, hresult⟩ :=
      Repository.reserveBuyOrderWithManagedCash_ok hok
    obtain ⟨hrepo, hinserted⟩ := Prod.mk.inj hresult
    have hfresh : repo.orders.get? request.clientOrderId = none :=
      Table.insertOrIgnore_snd.mp (hinserted.symm.trans hinserts)
    have hexec : exec config repo (.reserveBuy brokerAvailable request now) = .ok repo' := by
      simp only [exec, hok]
      rfl
    refine ⟨brokerAvailable, now, rawCash, riskBudget, rfl, hchecked, hfresh, ?_⟩
    simp only [step, hexec]
    exact hrepo
  · cases hinserts

end LedgerOp

/-! ## A launched account -/

/-- The system state of an account that trades `effective` USD, before its first
order. -/
def SystemState.launched (effective highWater riskBudget : Decimal) : SystemState where
  operatorBuyHalt := some false
  liveCommissioned := some true
  highWaterEquity := some highWater
  riskBudget := some riskBudget
  autoEnabled := some true
  effectivePrincipal := some effective
  accountingStartedAt := some 0
  launchAuthorized := some true
  startupQuarantine := some false
  operatorHaltLatched := some false
  autoState := some .running

/-- A launched account with one frozen core target. -/
def Repository.launched (system : SystemState) (symbol : AllocationSymbol) (targetQty : ℕ) :
    Repository ℕ :=
  { Repository.initial ℕ with
    system := system
    core := Function.update (fun _ => {}) symbol { targetWeight := 1, targetQty := targetQty } }

end JdHoldings

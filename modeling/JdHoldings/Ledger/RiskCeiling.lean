import Mathlib.Data.Fintype.EquivFin
import JdHoldings.Ledger.Operations

/-!
# BUY reservations and the risk budget

A BUY may be accepted only while the capital already in positions, the open
reservations and the order itself fit into the risk budget.  The code measures
the first part by the booked cost basis alone.  Between the transaction that
stores a fill and the one that books it, the filled shares are neither reserved
nor booked, and the check does not see them.

* `unbookedBuyNotional` is that missing part, and `deployedCapital` the capital
  the broker has confirmed, booked or not.
* The cash ceiling often hides the gap, because the stored fill has already left
  the cash.  What it does not hide is profit kept outside the risk budget: as long
  as the unbooked fills are covered by what the cash ceiling leaves unused
  (`fillsCovered`), an accepted BUY respects the risk budget, and in a state where
  they are not there is a BUY that breaks it (`risk_budget_kept_iff`).
-/

namespace JdHoldings

variable {ι : Type}

/-- The BUY fills the broker has confirmed and `apply_core_fill` has not booked. -/
def Repository.unbookedBuyNotional (repo : Repository ι) : Decimal :=
  repo.orders.sum fun row =>
    if row.side = .buy then row.cumulativeNotional - repo.appliedNotional row.clientOrderId else 0

/-- The capital put into positions by confirmed fills, booked or not. -/
def Repository.deployedCapital (config : StrategyConfig) (repo : Repository ι) : Decimal :=
  repo.managedCostBasis config + repo.unbookedBuyNotional

/-- The unbooked fills are covered by the risk budget that the cash ceiling
leaves unused. -/
def Repository.fillsCovered (config : StrategyConfig) (repo : Repository ι) (rawCash riskBudget : Decimal) :
    Prop :=
  repo.unbookedBuyNotional ≤ max 0 (riskBudget - repo.managedCostBasis config - rawCash)

instance (config : StrategyConfig) (repo : Repository ι) (rawCash riskBudget : Decimal) :
    Decidable (repo.fillsCovered config rawCash riskBudget) :=
  inferInstanceAs (Decidable (_ ≤ _))

variable [DecidableEq ι]

/-! ## One reservation -/

omit [DecidableEq ι] in
/-- An accepted BUY keeps the deployed capital, the reservations and itself
within the risk budget when the unbooked fills are covered. -/
theorem Repository.ReservationChecked.within_risk_budget {config : StrategyConfig}
    {repo : Repository ι} {brokerAvailable : Decimal} {request : BuyRequest ι}
    {rawCash riskBudget : Decimal}
    (hchecked : repo.ReservationChecked config brokerAvailable request rawCash riskBudget)
    (hlimit : 0 < request.limit) (hcovered : repo.fillsCovered config rawCash riskBudget) :
    repo.deployedCapital config + repo.reservedOpenBuy config + request.required config
      ≤ riskBudget := by
  obtain ⟨hcash, hrisk, -⟩ := hchecked.room_of_pos hlimit
  rw [Repository.deployedCapital]
  -- Either nothing is unbooked, or the cash ceiling is the tighter one by as much.
  rcases le_max_iff.mp hcovered with hnone | hunused
  · linarith
  · linarith

private theorem limit_priced (limit : Decimal) : some limit = some limit := rfl

/-- A one-share entry BUY. -/
private def entryBuy (clientOrderId : ι) (limit : Decimal) : BuyRequest ι where
  clientOrderId := clientOrderId
  symbol := .allocation .tqqq
  side := .buy
  orderType := .limit
  quantity := 1
  price := some limit
  purpose := .entry 0
  quantity_pos := Nat.one_pos
  side_eq := rfl
  limit := limit
  side_buy := rfl
  price_eq := limit_priced limit

/-- In a state that can accept a BUY at all, every BUY it accepts respects the
risk budget exactly when the unbooked fills are covered. -/
theorem risk_budget_kept_iff [Infinite ι] {config : StrategyConfig} {repo : Repository ι}
    {rawCash riskBudget : Decimal} (hgates : repo.system.requireAutoReservationGates = .ok ())
    (hcash : repo.rawManagedCash config = .ok rawCash)
    (hrisk : repo.system.riskBudgetOrInitial = .ok riskBudget)
    (hroom : 0 < min (rawCash - repo.reservedOpenBuy config)
      (riskBudget - repo.managedCostBasis config - repo.reservedOpenBuy config)) :
    (∀ op request, LedgerOp.Accepts config repo op request → 0 < request.limit →
        repo.deployedCapital config + repo.reservedOpenBuy config + request.required config
          ≤ riskBudget) ↔
      repo.fillsCovered config rawCash riskBudget := by
  constructor
  · intro hkept
    -- The dearest BUY the state accepts takes all the room there is.
    -- It goes under an id no order has.
    obtain ⟨fresh, hfresh⟩ := Infinite.exists_notMem_finset
      (repo.orders.rows.map OrderRow.clientOrderId).toFinset
    have hget : repo.orders.get? fresh = none := by
      refine Table.get?_eq_none_iff.mpr fun row hrow hkey => hfresh ?_
      rw [List.mem_toFinset, ← hkey]
      exact List.mem_map_of_mem hrow
    have hfee := config.one_add_buyFee_pos
    generalize hA : min (rawCash - repo.reservedOpenBuy config)
      (riskBudget - repo.managedCostBasis config - repo.reservedOpenBuy config) = A at hroom
    have hrequired : (entryBuy fresh (A / (1 + config.buyFee))).required config = A := by
      simp only [BuyRequest.required, entryBuy, Nat.cast_one, one_mul]
      exact div_mul_cancel₀ _ hfee.ne'
    have htakes : (entryBuy fresh (A / (1 + config.buyFee))).required config ≤
        max 0 (min (rawCash - repo.reservedOpenBuy config)
          (min (riskBudget - repo.managedCostBasis config - repo.reservedOpenBuy config) A)) := by
      rw [hrequired, ← min_assoc, hA, min_self]
      exact le_max_right _ _
    have hreserve := Repository.reserveBuyOrderWithManagedCash_of_room 0 hgates hcash hrisk
      (fun hcore : (entryBuy fresh (A / (1 + config.buyFee))).purpose = .coreRebalanceBuy => by
        simp [entryBuy] at hcore) htakes
    have haccepts : LedgerOp.Accepts config repo
        (.reserveBuy A (entryBuy fresh (A / (1 + config.buyFee))) 0)
        (entryBuy fresh (A / (1 + config.buyFee))) := by
      refine ⟨A, 0, rfl, ?_⟩
      simp only [LedgerOp.insertsBuy, hreserve]
      exact Table.insertOrIgnore_snd.mpr hget
    have hceiling := hkept _ _ haccepts (div_pos hroom hfee)
    rw [hrequired, Repository.deployedCapital] at hceiling
    -- Whichever bound is the smaller one, the filled BUYs are within it.
    rcases min_choice (rawCash - repo.reservedOpenBuy config)
      (riskBudget - repo.managedCostBasis config - repo.reservedOpenBuy config) with hmin | hmin
    · exact le_max_of_le_right (by linarith)
    · exact le_max_of_le_left (by linarith)
  · intro hcovered op request haccepts hlimit
    obtain ⟨_, _, rawCash', riskBudget', -, hchecked, -, -⟩ := haccepts.checked
    obtain rfl := Except.ok.inj (hcash.symm.trans hchecked.cash_eq)
    obtain rfl := Except.ok.inj (hrisk.symm.trans hchecked.riskBudget_eq)
    exact hchecked.within_risk_budget hlimit hcovered

/-! ## Every run -/

namespace LedgerOp

/-- A reservation is attempted while the unbooked fills are covered. -/
def reservesCovered (config : StrategyConfig) (repo : Repository ι) : LedgerOp ι → Bool
  | .reserveBuy _ request _ =>
      match repo.rawManagedCash config, repo.system.riskBudgetOrInitial with
      | .ok rawCash, .ok riskBudget =>
          decide (0 < request.limit) && decide (repo.fillsCovered config rawCash riskBudget)
      | _, _ => true
  | _ => true

end LedgerOp

/-- In a run whose reservations are attempted while the unbooked fills are
covered, every accepted BUY keeps the confirmed fills, the open reservations and
itself within the risk budget. -/
theorem accepted_buys_within_risk_budget (config : StrategyConfig) (repo : Repository ι)
    (ops : List (LedgerOp ι))
    (hcovered : Run.Along (LedgerOp.step config)
      (fun repo op => op.reservesCovered config repo = true) repo ops) :
    Run.Along (LedgerOp.step config)
      (fun repo op => ∀ request riskBudget, op.Accepts config repo request →
        repo.system.riskBudgetOrInitial = .ok riskBudget →
          repo.deployedCapital config + repo.reservedOpenBuy config + request.required config
            ≤ riskBudget)
      repo ops := by
  refine hcovered.imp (I := fun _ => True) (fun _ _ _ _ => trivial) ?_ trivial
  intro repo op _ hcovered request riskBudget haccepts hrisk
  obtain ⟨_, _, rawCash, riskBudget', rfl, hchecked, -, -⟩ := haccepts.checked
  obtain rfl := Except.ok.inj (hrisk.symm.trans hchecked.riskBudget_eq)
  simp only [LedgerOp.reservesCovered, hchecked.cash_eq, hrisk, Bool.and_eq_true,
    decide_eq_true_eq] at hcovered
  exact hchecked.within_risk_budget hcovered.1 hcovered.2

/-! ## A fill that is stored and not booked -/

namespace UnbookedFill

/-- An account of 10,000 USD that made a profit: a risk budget of 14,491 USD
against 15,988 USD of cash once the first two orders are done. -/
def start : Repository ℕ := Repository.launched (SystemState.launched 10000 15988 14491) .qqq 1000

def sell : OrderRequest ℕ where
  clientOrderId := 2
  symbol := .allocation .qqq
  side := .sell
  orderType := .limit
  quantity := 300
  price := some 30
  purpose := .coreRebalanceSell
  quantity_pos := by decide
  side_eq := rfl

def filled (clientOrderId quantity : ℕ) (average : Decimal) : LedgerOp ℕ :=
  .updateOrder clientOrderId
    { status := .exact .filled, filledQty := some quantity, averageFillPrice := some average }

/-- A round trip with a profit. -/
def roundTrip : List (LedgerOp ℕ) :=
  [.reserveBuy 10000 (.core 1 .qqq 300 10 (by decide)) 1, filled 1 300 10, .applyCoreFill 1,
    .reserveSell sell rfl 2, filled 2 300 30, .applyCoreFill 2]

/-- A BUY whose fill is stored. -/
def storedFill : List (LedgerOp ℕ) :=
  [.reserveBuy 15000 (.core 3 .qqq 80 100 (by decide)) 3, filled 3 80 100]

end UnbookedFill

/-- After a stored fill of 8,000 USD the ledger still accepts a BUY of 7,007 USD
on a risk budget of 14,491 USD. -/
theorem unbooked_fill_exceeds_risk_budget :
    LedgerOp.insertsBuy .strategyYaml
        ((UnbookedFill.roundTrip ++ UnbookedFill.storedFill).foldl
          (LedgerOp.step .strategyYaml) UnbookedFill.start)
        15000 (.core 4 .qqq 70 100 (by decide)) 4 = true ∧
      (14491 : Decimal) <
        ((UnbookedFill.roundTrip ++ UnbookedFill.storedFill).foldl
            (LedgerOp.step .strategyYaml) UnbookedFill.start).deployedCapital .strategyYaml
          + ((UnbookedFill.roundTrip ++ UnbookedFill.storedFill).foldl
            (LedgerOp.step .strategyYaml) UnbookedFill.start).reservedOpenBuy .strategyYaml
          + (BuyRequest.core 4 .qqq 70 100 (by decide)).required .strategyYaml := by
  decide +kernel

/-- Once the fill is booked, the next BUY is measured against it. -/
theorem accepted_buys_within_risk_budget_once_booked :
    Run.Along (LedgerOp.step .strategyYaml)
      (fun repo op => ∀ request riskBudget, op.Accepts .strategyYaml repo request →
        repo.system.riskBudgetOrInitial = .ok riskBudget →
          repo.deployedCapital .strategyYaml + repo.reservedOpenBuy .strategyYaml
            + request.required .strategyYaml ≤ riskBudget)
      UnbookedFill.start
      (UnbookedFill.roundTrip ++ UnbookedFill.storedFill ++
        [.applyCoreFill 3, .reserveBuy 15000 (.core 4 .qqq 60 100 (by decide)) 4]) :=
  accepted_buys_within_risk_budget .strategyYaml UnbookedFill.start _ (by decide +kernel)

end JdHoldings

import JdHoldings.Ledger.Operations

/-!
# The cost basis of a core row

`apply_core_fill` keeps `qty`, `avg_price` and `cost_basis` of a row in step.  A
SELL that empties the row clears the other two.  A BUY adds its notional to the
cost basis whether or not shares are left to carry it.

* `CoreRow.Consistent` is what the three columns promise, `CoreRow.buyFill_consistent`
  and `CoreRow.sellFill_consistent` what the two branches make of it.
* The only operation that breaks it is a price correction of a BUY whose row has
  been sold out (`correctsSoldOut`): a run keeps the row consistent in every state
  exactly when it never makes one (`core_row_consistent_iff`).
-/

namespace JdHoldings

/-- The three columns of a row agree. -/
structure CoreRow.Consistent (row : CoreRow) : Prop where
  cost_nonneg : 0 ≤ row.costBasis
  cost_of_empty : row.qty = 0 → row.costBasis = 0
  avg_of_empty : row.qty = 0 → row.avgPrice = 0
  cost_eq : row.costBasis = row.avgPrice * row.qty

instance (row : CoreRow) : Decidable row.Consistent :=
  decidable_of_iff (0 ≤ row.costBasis ∧ (row.qty = 0 → row.costBasis = 0) ∧
      (row.qty = 0 → row.avgPrice = 0) ∧ row.costBasis = row.avgPrice * row.qty)
    ⟨fun h => ⟨h.1, h.2.1, h.2.2.1, h.2.2.2⟩, fun h => ⟨h.1, h.2, h.3, h.4⟩⟩

/-! ## The two branches -/

/-- A BUY leaves the row consistent unless it leaves cost on a row without shares. -/
theorem CoreRow.buyFill_consistent_iff {row row' : CoreRow} {delta : ℕ} {deltaNotional : Decimal}
    (hok : row.buyFill delta deltaNotional = .ok row') :
    row'.Consistent ↔ (row.qty + delta = 0 → row.costBasis + deltaNotional = 0) := by
  simp only [CoreRow.buyFill] at hok
  split at hok
  · cases hok
  · rename_i hcost
    obtain rfl := Except.ok.inj hok
    constructor
    · exact fun hconsistent => hconsistent.cost_of_empty
    · intro hempty
      refine ⟨not_lt.mp hcost, hempty, fun hqty => if_pos hqty, ?_⟩
      by_cases hqty : row.qty + delta = 0
      · simp only [if_pos hqty, hempty hqty, zero_mul]
      · have hshares : ((row.qty + delta : ℕ) : Decimal) ≠ 0 := Nat.cast_ne_zero.mpr hqty
        simp only [if_neg hqty]
        exact (div_mul_cancel₀ _ hshares).symm

/-- A SELL always leaves a consistent row behind. -/
theorem CoreRow.sellFill_consistent {row row' : CoreRow} {delta : ℕ} (hrow : row.Consistent)
    (hok : row.sellFill delta = .ok row') : row'.Consistent := by
  simp only [CoreRow.sellFill] at hok
  split at hok
  · cases hok
  · rename_i hdelta
    obtain rfl := Except.ok.inj hok
    by_cases hqty : row.qty - delta = 0
    · refine ⟨?_, fun _ => ?_, fun _ => if_pos hqty, rfl⟩ <;> simp [hqty]
    · -- Shares are left, so the row had some before and its average is a quotient.
      have hheld : row.qty ≠ 0 := by omega
      have havg : 0 ≤ row.avgPrice := by
        have hcost := hrow.cost_nonneg
        rw [hrow.cost_eq] at hcost
        exact nonneg_of_mul_nonneg_left hcost (Nat.cast_pos.mpr (Nat.pos_of_ne_zero hheld))
      refine ⟨?_, fun hempty => absurd hempty hqty, fun hempty => absurd hempty hqty, rfl⟩
      simp only [if_neg hqty]
      exact mul_nonneg havg (Nat.cast_nonneg _)

variable {ι : Type} [DecidableEq ι]

/-- The operation books nothing but a higher notional of a BUY, and no share of the
symbol is left. -/
def Repository.correctsSoldOut (repo : Repository ι) (symbol : AllocationSymbol) :
    LedgerOp ι → Bool
  | .applyCoreFill clientOrderId =>
      match repo.orders.get? clientOrderId with
      | some order =>
          order.purpose.isCore && decide (order.symbol = .allocation symbol) &&
            decide (order.side = .buy) && decide ((repo.core symbol).qty = 0) &&
            decide (order.filledQty = repo.appliedFilledQty clientOrderId) &&
            decide (repo.appliedNotional clientOrderId < order.cumulativeNotional)
      | none => false
  | _ => false

theorem Repository.correctsSoldOut_eq_true {repo : Repository ι} {symbol : AllocationSymbol}
    {op : LedgerOp ι} :
    repo.correctsSoldOut symbol op = true ↔
      ∃ clientOrderId order, op = .applyCoreFill clientOrderId ∧
        repo.orders.get? clientOrderId = some order ∧ order.purpose.isCore = true ∧
        order.symbol = .allocation symbol ∧ order.side = .buy ∧ (repo.core symbol).qty = 0 ∧
        order.filledQty = repo.appliedFilledQty clientOrderId ∧
        repo.appliedNotional clientOrderId < order.cumulativeNotional := by
  cases op with
  | applyCoreFill clientOrderId =>
      cases hget : repo.orders.get? clientOrderId with
      | none => simp [correctsSoldOut, hget]
      | some order => simp [correctsSoldOut, hget, and_assoc]
  | _ => simp [correctsSoldOut]

namespace LedgerOp

/-! ## One step -/

/-- A correction of a sold-out BUY is booked, and leaves cost on an empty row. -/
private theorem step_correctsSoldOut (config : StrategyConfig) {repo : Repository ι}
    {symbol : AllocationSymbol} {op : LedgerOp ι} (hrow : (repo.core symbol).Consistent)
    (hcorrects : repo.correctsSoldOut symbol op = true) :
    ¬((step config repo op).core symbol).Consistent := by
  obtain ⟨clientOrderId, order, rfl, hget, hcore, hsymbol, hside, hqty, hfilled, hnotional⟩ :=
    Repository.correctsSoldOut_eq_true.mp hcorrects
  have hcost : (repo.core symbol).costBasis = 0 := hrow.cost_of_empty hqty
  have hpositive : 0 < order.cumulativeNotional - repo.appliedNotional clientOrderId :=
    sub_pos.mpr hnotional
  have hallocation : order.symbol.allocation? = some symbol := by
    rw [hsymbol]
    rfl
  obtain ⟨row, hfill⟩ : ∃ row, (repo.core symbol).buyFill 0
      (order.cumulativeNotional - repo.appliedNotional clientOrderId) = .ok row := by
    refine ⟨_, if_neg ?_⟩
    rw [hcost, zero_add]
    exact not_lt.mpr hpositive.le
  have hexec : exec config repo (.applyCoreFill clientOrderId)
      = .ok (repo.bookCoreFill symbol order row) := by
    simp only [exec, hget, hcore, if_true, Repository.applyCoreFill, hfilled, lt_irrefl, if_false,
      hallocation, Nat.sub_self, false_and, hside, hfill, hpositive.ne', and_false]
    rfl
  simp only [step, hexec, Repository.bookCoreFill_core_self]
  rw [CoreRow.buyFill_consistent_iff hfill, hqty, hcost, zero_add]
  rw [zero_add]
  exact fun hempty => hpositive.ne' (hempty rfl)

/-- Every other step keeps the row consistent. -/
private theorem step_consistent (config : StrategyConfig) {repo : Repository ι}
    {symbol : AllocationSymbol} {op : LedgerOp ι} (hrow : (repo.core symbol).Consistent)
    (hkeeps : repo.correctsSoldOut symbol op = false) :
    ((step config repo op).core symbol).Consistent := by
  have heffect := step_effect config repo op
  generalize step config repo op = repo' at heffect
  cases heffect with
  | unchanged => exact hrow
  | reservedBuy checked fresh => exact hrow
  | reservedSell fresh => exact hrow
  | updated found updated => exact hrow
  | @booked clientOrderId order other row found core symbol_eq applied_le booked =>
      by_cases hother : symbol = other
      · subst hother
        rw [Repository.bookCoreFill_core_self]
        have hkey := Table.key_of_get? found
        cases booked with
        | sell hside hfill => exact CoreRow.sellFill_consistent hrow hfill
        | buy hside hfill =>
            rw [hkey] at hfill
            rw [CoreRow.buyFill_consistent_iff hfill]
            intro hempty
            obtain ⟨hqty, hdelta⟩ := Nat.add_eq_zero_iff.mp hempty
            have hcost := hrow.cost_of_empty hqty
            have hnext := (CoreRow.buyFill_ok hfill).2.2.1
            rw [(CoreRow.buyFill_ok hfill).2.1] at hnext
            -- A higher notional on the empty row is the excluded step.
            refine le_antisymm (le_of_not_gt fun hcorrected => ?_) hnext
            rw [hcost, zero_add] at hcorrected
            have hcorrects : repo.correctsSoldOut symbol (.applyCoreFill clientOrderId) = true :=
              Repository.correctsSoldOut_eq_true.mpr ⟨clientOrderId, order, rfl, found, core,
                symbol_eq, hside, hqty, by omega, sub_pos.mp hcorrected⟩
            exact absurd (hcorrects.symm.trans hkeeps) (by decide)
      · rw [Repository.bookCoreFill_core_of_ne _ _ _ _ hother]
        exact hrow

end LedgerOp

/-! ## The run -/

/-- The row is consistent in every state of a run exactly when no step corrects a
BUY whose row has been sold out. -/
theorem core_row_consistent_iff (config : StrategyConfig) (repo : Repository ι)
    (symbol : AllocationSymbol) (ops : List (LedgerOp ι)) (hstart : (repo.core symbol).Consistent) :
    (∀ front back, ops = front ++ back →
        ((front.foldl (LedgerOp.step config) repo).core symbol).Consistent) ↔
      Run.Along (LedgerOp.step config)
        (fun repo op => repo.correctsSoldOut symbol op = false) repo ops := by
  constructor
  · intro hall
    induction ops generalizing repo with
    | nil => trivial
    | cons op ops ih =>
        have hnext := hall [op] ops rfl
        refine ⟨?_, ih (LedgerOp.step config repo op) hnext ?_⟩
        · refine Bool.eq_false_iff.mpr fun hcorrects => ?_
          exact LedgerOp.step_correctsSoldOut config hstart hcorrects hnext
        · rintro front back rfl
          exact hall (op :: front) back rfl
  · rintro halong front back rfl
    exact (Run.Along.of_append halong).invariant (I := fun repo => (repo.core symbol).Consistent)
      (fun repo op hrow hkeeps => LedgerOp.step_consistent config hrow hkeeps) hstart

/-! ## A correction after the sale -/

namespace SoldOut

def start : Repository ℕ := Repository.launched (SystemState.launched 10000 10000 10000) .qqq 2

/-- A rebalancing SELL of one share. -/
def sell : OrderRequest ℕ where
  clientOrderId := 2
  symbol := .allocation .qqq
  side := .sell
  orderType := .limit
  quantity := 1
  price := some 11
  purpose := .coreRebalanceSell
  quantity_pos := by decide
  side_eq := rfl

/-- One of two shares is bought at 10 and sold again, and the broker then reports the
cancelled rest of the BUY with an average of 11. -/
def ops : List (LedgerOp ℕ) :=
  [.reserveBuy 10000 (.core 1 .qqq 2 12 (by decide)) 1,
    .updateOrder 1
      { status := .exact .partialFilled, filledQty := some 1, averageFillPrice := some 10 },
    .applyCoreFill 1,
    .reserveSell sell rfl 2,
    .updateOrder 2 { status := .exact .filled, filledQty := some 1, averageFillPrice := some 11 },
    .applyCoreFill 2,
    .updateOrder 1 { status := .exact .canceled, filledQty := some 1, averageFillPrice := some 11 },
    .applyCoreFill 1]

end SoldOut

/-- A corrected BUY leaves one dollar of cost on a row without shares. -/
theorem sold_out_correction_leaves_cost :
    (SoldOut.start.core .qqq).Consistent ∧
      ((SoldOut.ops.foldl (LedgerOp.step .strategyYaml) SoldOut.start).core .qqq).qty = 0 ∧
      ((SoldOut.ops.foldl (LedgerOp.step .strategyYaml) SoldOut.start).core .qqq).costBasis = 1 ∧
      ¬((SoldOut.ops.foldl (LedgerOp.step .strategyYaml) SoldOut.start).core .qqq).Consistent := by
  refine ⟨?_, ?_, ?_, ?_⟩ <;> decide +kernel

/-- Up to the correction the row is consistent. -/
theorem core_row_consistent_iff_until_correction :
    Run.Along (LedgerOp.step .strategyYaml)
        (fun repo op => repo.correctsSoldOut .qqq op = false) SoldOut.start (SoldOut.ops.take 7) ∧
      (((SoldOut.ops.take 7).foldl (LedgerOp.step .strategyYaml) SoldOut.start).core
        .qqq).Consistent := by
  have huncorrected : Run.Along (LedgerOp.step .strategyYaml)
      (fun repo op => repo.correctsSoldOut .qqq op = false) SoldOut.start (SoldOut.ops.take 7) := by
    decide +kernel
  have hall := (core_row_consistent_iff .strategyYaml SoldOut.start .qqq (SoldOut.ops.take 7)
    (by decide +kernel)).mpr huncorrected
  exact ⟨huncorrected, hall (SoldOut.ops.take 7) [] (List.append_nil _).symm⟩

end JdHoldings

import Mathlib.Algebra.Order.BigOperators.Group.List
import JdHoldings.Ledger.Operations

/-!
# The ledger never spends more than it was given

After an accepted BUY the reconstructed cash covers every open BUY reservation,
and no later operation undoes this.

Each order contributes its cash effect minus its reservation to that margin
(`spendable`).  A reservation is the only operation that lowers the sum, and it is
accepted only when the margin covers it.  A fill of an open BUY moves money from
the reservation to the cash effect, the fee included on both sides, so the sum
rises by the price improvement; a terminal status releases what is left; a SELL
only adds.

What the broker reports must fit that picture (`withinLimits`): new shares of an
open BUY cost at most the limit price each, a terminal BUY adds nothing, and the
cumulative proceeds of a SELL never fall.  A cumulative average below the limit
price is not enough: `average_below_limit_is_not_solvent` gives a late fill, an
upward correction of the average of a BUY, and a downward correction of a SELL
that leave the ledger short although no average ever exceeds its limit.
-/

namespace JdHoldings

variable {ι : Type}

/-! ## The contribution of one order -/

namespace OrderRow

/-- The cumulative fill the row has after an accepted update. -/
def reportedQty (existing : OrderRow ι) (update : OrderUpdate) : ℕ :=
  update.filledQty.getD existing.filledQty

/-- The cumulative notional the row has after an accepted update. -/
def reportedNotional (existing : OrderRow ι) (update : OrderUpdate) : Decimal :=
  ((update.averageFillPrice <|> existing.averageFillPrice <|> existing.price).getD 0)
    * existing.reportedQty update

/-- The update reports a fill the reservation of the order pays for. -/
def acceptsReport (existing : OrderRow ι) (update : OrderUpdate) : Bool :=
  match existing.side with
  | .buy =>
      decide (existing.reportedNotional update - existing.cumulativeNotional
        ≤ if existing.status.isTerminal then 0
          else ((existing.reportedQty update : ℚ) - existing.filledQty) * existing.price.getD 0)
  | .sell => decide (existing.cumulativeNotional ≤ existing.reportedNotional update)

/-- Every BUY is a limit order with a positive price. -/
def Priced (row : OrderRow ι) : Prop :=
  row.side = .buy → ∃ limit, row.price = some limit ∧ 0 < limit

/-- What the order leaves of the cash for further BUYs. -/
def spendable (config : StrategyConfig) (system : SystemState) (row : OrderRow ι) : Decimal :=
  system.cashEffect config row - row.reservedOpenBuy config

theorem Updated.cumulativeNotional_eq {existing row : OrderRow ι} {status : OrderStatus}
    {update : OrderUpdate} (hupdated : existing.Updated row status update) :
    row.cumulativeNotional = existing.reportedNotional update := by
  rw [cumulativeNotional, fillPrice, fillPrice?, hupdated.average, hupdated.price,
    hupdated.filledQty, reportedNotional, reportedQty]
  cases update.averageFillPrice <;> rfl

theorem reservedOpenBuy_of_sell {config : StrategyConfig} {row : OrderRow ι}
    (hside : row.side = .sell) : row.reservedOpenBuy config = 0 := by
  simp [reservedOpenBuy, hside]

theorem reservedOpenBuy_of_terminal {config : StrategyConfig} {row : OrderRow ι}
    (hterminal : row.status.isTerminal = true) : row.reservedOpenBuy config = 0 := by
  simp [reservedOpenBuy, hterminal]

theorem reservedOpenBuy_of_open {config : StrategyConfig} {row : OrderRow ι} {limit : Decimal}
    (hside : row.side = .buy) (hopen : row.status.isTerminal = false)
    (hprice : row.price = some limit) :
    row.reservedOpenBuy config = row.remaining * limit * (1 + config.buyFee) := by
  simp [reservedOpenBuy, hside, hopen, hprice]

theorem reservedOpenBuy_nonneg (config : StrategyConfig) {row : OrderRow ι} (hpriced : row.Priced) :
    0 ≤ row.reservedOpenBuy config := by
  unfold reservedOpenBuy
  split
  · rename_i hopen
    obtain ⟨limit, hprice, hlimit⟩ := hpriced hopen.1
    rw [hprice]
    exact mul_nonneg (mul_nonneg (Nat.cast_nonneg _) hlimit.le) config.one_add_buyFee_pos.le
  · exact le_refl 0

theorem cast_remaining (row : OrderRow ι) :
    (row.remaining : ℚ) = row.qty - row.filledQty := by
  rw [remaining, Nat.cast_sub row.filled_le]

theorem inAccounting_congr {system : SystemState} {row existing : OrderRow ι}
    (hcreated : row.createdAt = existing.createdAt) :
    system.inAccounting row = system.inAccounting existing := by
  simp [SystemState.inAccounting, hcreated]

/-- An update never raises a reservation. -/
theorem Updated.reservedOpenBuy_le {existing row : OrderRow ι}
    {status : OrderStatus} {update : OrderUpdate} (hupdated : existing.Updated row status update)
    (config : StrategyConfig) (hpriced : existing.Priced) : row.reservedOpenBuy config ≤ existing.reservedOpenBuy config := by
  have hnonneg := reservedOpenBuy_nonneg config hpriced
  cases hside : existing.side with
  | sell => rw [reservedOpenBuy_of_sell (hupdated.side.trans hside), reservedOpenBuy_of_sell hside]
  | buy =>
      obtain ⟨limit, hprice, hlimit⟩ := hpriced hside
      cases hrow : row.status.isTerminal with
      | true => rwa [reservedOpenBuy_of_terminal hrow]
      | false =>
          have hopen : existing.status.isTerminal = false := by
            by_contra hterminal
            have hkept := hupdated.terminal (by simpa using hterminal)
            rw [hkept] at hrow
            exact hterminal hrow
          rw [reservedOpenBuy_of_open hside hopen hprice,
            reservedOpenBuy_of_open (hupdated.side.trans hside) hrow
              (hupdated.price.trans hprice)]
          have hremaining : row.remaining ≤ existing.remaining := by
            have hmono := hupdated.filled_mono
            have hqty := hupdated.qty
            simp only [remaining]
            omega
          have hcast : (row.remaining : ℚ) ≤ existing.remaining := by exact_mod_cast hremaining
          exact mul_le_mul_of_nonneg_right (mul_le_mul_of_nonneg_right hcast hlimit.le)
            config.one_add_buyFee_pos.le

/-- A report the reservation pays for never lowers what a BUY leaves. -/
private theorem Updated.spendable_le_of_buy {config : StrategyConfig} {system : SystemState}
    {existing row : OrderRow ι} {status : OrderStatus} {update : OrderUpdate}
    (hupdated : existing.Updated row status update) (hside : existing.side = .buy)
    (hpriced : existing.Priced) (hreport : existing.acceptsReport update = true) :
    existing.spendable config system ≤ row.spendable config system := by
  obtain ⟨limit, hprice, hlimit⟩ := hpriced hside
  have hfee := config.one_add_buyFee_pos
  have hrowSide : row.side = .buy := hupdated.side.trans hside
  have hrowPrice : row.price = some limit := hupdated.price.trans hprice
  have hqty : (row.qty : ℚ) = existing.qty := by rw [hupdated.qty]
  have hmono : (existing.filledQty : ℚ) ≤ row.filledQty := by exact_mod_cast hupdated.filled_mono
  have hbound : (row.filledQty : ℚ) ≤ row.qty := by exact_mod_cast row.filled_le
  simp only [acceptsReport, hside, decide_eq_true_eq, hprice, Option.getD_some,
    ← hupdated.cumulativeNotional_eq] at hreport
  rw [show existing.reportedQty update = row.filledQty from hupdated.filledQty.symm] at hreport
  -- The money the new fill takes, and the money its reservation gives back.
  have hspent : (row.cumulativeNotional - existing.cumulativeNotional) * (1 + config.buyFee)
      ≤ existing.reservedOpenBuy config - row.reservedOpenBuy config := by
    cases hterminal : existing.status.isTerminal with
    | true =>
        have hrowTerminal : row.status.isTerminal = true := by
          rw [hupdated.terminal hterminal]
          exact hterminal
        rw [reservedOpenBuy_of_terminal hterminal, reservedOpenBuy_of_terminal hrowTerminal]
        simp only [hterminal, if_true] at hreport
        have hzero : (row.cumulativeNotional - existing.cumulativeNotional) * (1 + config.buyFee) ≤ 0 :=
          mul_nonpos_of_nonpos_of_nonneg hreport hfee.le
        linarith
    | false =>
        simp only [hterminal, Bool.false_eq_true, if_false] at hreport
        rw [reservedOpenBuy_of_open hside hterminal hprice, cast_remaining]
        have hfill : (row.cumulativeNotional - existing.cumulativeNotional) * (1 + config.buyFee)
            ≤ ((row.filledQty : ℚ) - existing.filledQty) * limit * (1 + config.buyFee) :=
          mul_le_mul_of_nonneg_right hreport hfee.le
        cases hrow : row.status.isTerminal with
        | true =>
            rw [reservedOpenBuy_of_terminal hrow]
            have hrest : ((row.filledQty : ℚ) - existing.filledQty) * limit * (1 + config.buyFee)
                ≤ ((existing.qty : ℚ) - existing.filledQty) * limit * (1 + config.buyFee) :=
              mul_le_mul_of_nonneg_right
                (mul_le_mul_of_nonneg_right (by linarith) hlimit.le) hfee.le
            linarith
        | false =>
            rw [reservedOpenBuy_of_open hrowSide hrow hrowPrice, cast_remaining, hqty]
            calc (row.cumulativeNotional - existing.cumulativeNotional) * (1 + config.buyFee)
                ≤ ((row.filledQty : ℚ) - existing.filledQty) * limit * (1 + config.buyFee) := hfill
              _ = _ := by ring
  have hreleased := hupdated.reservedOpenBuy_le config hpriced
  -- A BUY that counts in the cash pays its notional and its fee.
  have hcash : ∀ row : OrderRow ι, row.side = .buy →
      row.cashFlow config = -(row.cumulativeNotional * (1 + config.buyFee)) := by
    intro row hside
    simp only [cashFlow, hside]
  simp only [spendable, SystemState.cashEffect, inAccounting_congr hupdated.createdAt,
    hcash existing hside, hcash row hrowSide]
  split <;> linarith

/-- A report that keeps the proceeds never lowers what a SELL adds. -/
private theorem Updated.spendable_le_of_sell {config : StrategyConfig} {system : SystemState}
    {existing row : OrderRow ι} {status : OrderStatus} {update : OrderUpdate}
    (hupdated : existing.Updated row status update) (hside : existing.side = .sell)
    (hsellFee : config.sellFee ≤ 1) (hreport : existing.acceptsReport update = true) :
    existing.spendable config system ≤ row.spendable config system := by
  have hrowSide : row.side = .sell := hupdated.side.trans hside
  simp only [acceptsReport, hside, decide_eq_true_eq, ← hupdated.cumulativeNotional_eq] at hreport
  have hproceeds : existing.cumulativeNotional * (1 - config.sellFee)
      ≤ row.cumulativeNotional * (1 - config.sellFee) :=
    mul_le_mul_of_nonneg_right hreport (by linarith)
  simp only [spendable, SystemState.cashEffect, inAccounting_congr hupdated.createdAt, cashFlow,
    hside, hrowSide, reservedOpenBuy_of_sell hside, reservedOpenBuy_of_sell hrowSide, sub_zero]
  split
  · exact hproceeds
  · exact le_refl 0

theorem Updated.spendable_le {config : StrategyConfig}
    {existing row : OrderRow ι} {status : OrderStatus} {update : OrderUpdate}
    (hupdated : existing.Updated row status update) (hpriced : existing.Priced)
    (hsellFee : config.sellFee ≤ 1) (hreport : existing.acceptsReport update = true)
    (system : SystemState) : existing.spendable config system ≤ row.spendable config system := by
  cases hside : existing.side with
  | buy => exact hupdated.spendable_le_of_buy hside hpriced hreport
  | sell => exact hupdated.spendable_le_of_sell hside hsellFee hreport

theorem spendable_newRow_buy (config : StrategyConfig) (system : SystemState)
    (request : BuyRequest ι) (now : Timestamp) :
    (request.newRow now).spendable config system = -request.required config := by
  have hfilled : (request.newRow now).filledQty = 0 := rfl
  rw [spendable, SystemState.cashEffect, cashFlow_of_filledQty_zero hfilled, ite_self, zero_sub,
    reservedOpenBuy_of_open request.side_buy rfl request.price_eq]
  rfl

theorem spendable_newRow_sell (config : StrategyConfig) (system : SystemState)
    {request : OrderRequest ι} (hside : request.side = .sell) (now : Timestamp) :
    (request.newRow now).spendable config system = 0 := by
  have hfilled : (request.newRow now).filledQty = 0 := rfl
  rw [spendable, SystemState.cashEffect, cashFlow_of_filledQty_zero hfilled, ite_self, zero_sub,
    reservedOpenBuy_of_sell hside, neg_zero]

end OrderRow

/-! ## One step -/

/-- Every BUY on file has a positive limit price. -/
def Repository.BuysPriced (repo : Repository ι) : Prop := ∀ row ∈ repo.orders, row.Priced

/-- The cash left after every open BUY reservation, for a given principal. -/
def Repository.margin (config : StrategyConfig) (repo : Repository ι) (initial : Decimal) :
    Decimal :=
  initial + repo.orders.sum (OrderRow.spendable config repo.system)

theorem Repository.margin_eq (config : StrategyConfig) (repo : Repository ι) (initial : Decimal) :
    repo.margin config initial
      = initial + repo.netCashFlow config - repo.reservedOpenBuy config := by
  have hsplit := Table.sum_add repo.orders (OrderRow.spendable config repo.system)
    (OrderRow.reservedOpenBuy config)
  have hcash : repo.orders.sum (fun row =>
      row.spendable config repo.system + row.reservedOpenBuy config) = repo.netCashFlow config :=
    Table.sum_congr fun row _ => by rw [OrderRow.spendable, sub_add_cancel]
  rw [Repository.margin, Repository.reservedOpenBuy]
  linarith

/-- What the BUY fills of the ledger cost, fees included. -/
def Repository.cashSpent (config : StrategyConfig) (repo : Repository ι) : Decimal :=
  repo.orders.sum fun row =>
    if repo.system.inAccounting row ∧ row.side = .buy then
      row.cumulativeNotional * (1 + config.buyFee) else 0

/-- What the SELL fills of the ledger brought in, fees deducted. -/
def Repository.saleProceeds (config : StrategyConfig) (repo : Repository ι) : Decimal :=
  repo.orders.sum fun row =>
    if repo.system.inAccounting row ∧ row.side = .sell then
      row.cumulativeNotional * (1 - config.sellFee) else 0

theorem Repository.saleProceeds_eq (config : StrategyConfig) (repo : Repository ι) :
    repo.saleProceeds config = repo.netCashFlow config + repo.cashSpent config := by
  rw [netCashFlow, cashSpent, ← Table.sum_add]
  refine Table.sum_congr fun row _ => ?_
  cases hside : row.side <;> by_cases haccounting : repo.system.inAccounting row = true <;>
    simp [SystemState.cashEffect, OrderRow.cashFlow, hside, haccounting]

theorem Repository.BuysPriced.reservedOpenBuy_nonneg {repo : Repository ι}
    (hpriced : repo.BuysPriced) (config : StrategyConfig) : 0 ≤ repo.reservedOpenBuy config := by
  refine List.sum_nonneg fun reserved hreserved => ?_
  obtain ⟨row, hrow, rfl⟩ := List.mem_map.mp hreserved
  exact OrderRow.reservedOpenBuy_nonneg config (hpriced row hrow)

namespace LedgerOp

variable [DecidableEq ι]

/-- A BUY is reserved at a positive price. -/
def hasPositiveLimit : LedgerOp ι → Bool
  | .reserveBuy _ request _ => decide (0 < request.limit)
  | _ => true

/-- The operation reports no fill that the reservation of its order does not pay
for. -/
def reportsWithinLimits (repo : Repository ι) : LedgerOp ι → Bool
  | .updateOrder clientOrderId update =>
      match repo.orders.get? clientOrderId with
      | none => true
      | some existing => existing.acceptsReport update
  | _ => true

theorem Effect.buysPriced {config : StrategyConfig} {repo repo' : Repository ι} {op : LedgerOp ι}
    (heffect : Effect config repo op repo') (hpositive : op.hasPositiveLimit = true)
    (hpriced : repo.BuysPriced) : repo'.BuysPriced := by
  cases heffect with
  | unchanged => exact hpriced
  | @reservedBuy _ request now _ _ _ hfresh =>
      intro row hrow
      rcases (Table.mem_insertOrIgnore hfresh).mp hrow with hold | rfl
      · exact hpriced row hold
      · exact fun _ => ⟨request.limit, request.price_eq, of_decide_eq_true hpositive⟩
  | @reservedSell request hside now hfresh =>
      intro row hrow
      rcases (Table.mem_insertOrIgnore hfresh).mp hrow with hold | rfl
      · exact hpriced row hold
      · intro hbuy
        exact absurd (hside.symm.trans hbuy) (by decide)
  | @updated _ _ existing row _ hget hupdated =>
      intro other hother
      rcases Table.mem_replace hother with rfl | ⟨hold, -⟩
      · intro hbuy
        obtain ⟨limit, hprice, hlimit⟩ :=
          hpriced existing (Table.mem_of_get? hget) (hupdated.side.symm.trans hbuy)
        exact ⟨limit, hupdated.price.trans hprice, hlimit⟩
      · exact hpriced other hold
  | booked _ _ _ _ _ => exact hpriced

/-- An accepted BUY leaves a margin, whatever the margin was before. -/
private theorem margin_nonneg_of_reservation {config : StrategyConfig} {repo : Repository ι}
    {brokerAvailable : Decimal} {request : BuyRequest ι} {now : Timestamp}
    {rawCash riskBudget initial : Decimal}
    (hchecked : repo.ReservationChecked config brokerAvailable request rawCash riskBudget)
    (hfresh : repo.orders.get? request.clientOrderId = none) (hlimit : 0 < request.limit)
    (hinitial : repo.system.effectiveInitialCapital = .ok initial) :
    0 ≤ Repository.margin config
      { repo with orders := (repo.orders.insertOrIgnore (request.newRow now)).1 } initial := by
  obtain ⟨initial', hinitial', hcash⟩ := Repository.rawManagedCash_ok hchecked.cash_eq
  obtain rfl : initial = initial' := Except.ok.inj (hinitial.symm.trans hinitial')
  have hroom := (hchecked.room_of_pos hlimit).1
  have hfresh' : repo.orders.get? (request.newRow now).clientOrderId = none := hfresh
  have hsum := Table.sum_insertOrIgnore (OrderRow.spendable config repo.system) hfresh'
  have hmargin := repo.margin_eq config initial
  rw [OrderRow.spendable_newRow_buy] at hsum
  simp only [Repository.margin] at hmargin ⊢
  linarith

/-- An accepted BUY at a positive price leaves a margin. -/
theorem Accepts.margin_nonneg {config : StrategyConfig} {repo : Repository ι} {op : LedgerOp ι}
    {request : BuyRequest ι} {initial : Decimal} (haccepts : op.Accepts config repo request)
    (hpositive : op.hasPositiveLimit = true)
    (hinitial : repo.system.effectiveInitialCapital = .ok initial) :
    0 ≤ (op.step config repo).margin config initial := by
  obtain ⟨brokerAvailable, now, _, _, rfl, hchecked, hfresh, hstep⟩ := haccepts.checked
  rw [hstep]
  exact margin_nonneg_of_reservation hchecked hfresh (of_decide_eq_true hpositive) hinitial

/-- A step whose reports stay within the limits keeps the margin. -/
theorem Effect.margin_nonneg {config : StrategyConfig} {repo repo' : Repository ι} {op : LedgerOp ι}
    {initial : Decimal} (heffect : Effect config repo op repo')
    (hinitial : repo.system.effectiveInitialCapital = .ok initial)
    (hpositive : op.hasPositiveLimit = true) (hreports : op.reportsWithinLimits repo = true)
    (hpriced : repo.BuysPriced) (hsellFee : config.sellFee ≤ 1)
    (hmargin : 0 ≤ repo.margin config initial) : 0 ≤ repo'.margin config initial := by
  cases heffect with
  | unchanged => exact hmargin
  | reservedBuy hchecked hfresh =>
      exact margin_nonneg_of_reservation hchecked hfresh (of_decide_eq_true hpositive) hinitial
  | @reservedSell request hside now hfresh =>
      have hfresh' : repo.orders.get? (request.newRow now).clientOrderId = none := hfresh
      have hsum := Table.sum_insertOrIgnore (OrderRow.spendable config repo.system) hfresh'
      rw [OrderRow.spendable_newRow_sell config _ hside, add_zero] at hsum
      simp only [Repository.margin] at hmargin ⊢
      rwa [hsum]
  | @updated clientOrderId update existing row status hget hupdated =>
      obtain rfl := Table.key_of_get? hget
      have hget' : repo.orders.get? row.clientOrderId = some existing := by
        rw [hupdated.clientOrderId]
        exact hget
      have hexchange := Table.sum_exchange (OrderRow.spendable config repo.system)
        (OrderRow.spendable config repo.system) hget' fun _ _ _ => rfl
      have hreport : existing.acceptsReport update = true := by
        simpa [reportsWithinLimits, hget] using hreports
      have hspendable := hupdated.spendable_le (hpriced existing (Table.mem_of_get? hget))
        hsellFee hreport
      simp only [Repository.margin] at hmargin ⊢
      linarith [hspendable repo.system]
  | booked _ _ _ _ _ => exact hmargin

/-- A run whose reports stay within the limits keeps the margin. -/
theorem foldl_step_margin_nonneg {config : StrategyConfig} {repo : Repository ι}
    {ops : List (LedgerOp ι)} {initial : Decimal} (hsellFee : config.sellFee ≤ 1)
    (hpositive : Run.Along (step config) (fun _ op => op.hasPositiveLimit = true) repo ops)
    (hreports : Run.Along (step config) (fun repo op => op.reportsWithinLimits repo = true) repo ops)
    (hinitial : repo.system.effectiveInitialCapital = .ok initial) (hpriced : repo.BuysPriced)
    (hmargin : 0 ≤ repo.margin config initial) :
    (ops.foldl (step config) repo).BuysPriced ∧
      0 ≤ (ops.foldl (step config) repo).margin config initial := by
  have hinv := (hpositive.and hreports).invariant
    (I := fun repo => repo.system.effectiveInitialCapital = .ok initial ∧ repo.BuysPriced ∧
      0 ≤ repo.margin config initial) ?_ ⟨hinitial, hpriced, hmargin⟩
  · exact hinv.2
  · rintro repo op ⟨hinitial, hpriced, hmargin⟩ ⟨hpositive, hreports⟩
    have heffect := step_effect config repo op
    refine ⟨heffect.system_eq ▸ hinitial, heffect.buysPriced hpositive hpriced, ?_⟩
    exact heffect.margin_nonneg hinitial hpositive hreports hpriced hsellFee hmargin

end LedgerOp

/-! ## Every run -/

variable [DecidableEq ι]

/-- From a ledger without orders, once a BUY was accepted the reconstructed cash
covers the open BUY reservations after every later operation, and what the BUYs
cost never exceeds the principal and the proceeds of the SELLs. -/
theorem accepted_buy_stays_covered (config : StrategyConfig) (repo : Repository ι)
    (before after : List (LedgerOp ι)) (op : LedgerOp ι) (request : BuyRequest ι)
    (hsellFee : config.sellFee ≤ 1) (hempty : repo.orders.rows = [])
    (hpositive : Run.Along (LedgerOp.step config) (fun _ op => op.hasPositiveLimit = true) repo
      (before ++ op :: after))
    (haccepts : op.Accepts config (before.foldl (LedgerOp.step config) repo) request)
    (hreports : Run.Along (LedgerOp.step config)
      (fun repo op => op.reportsWithinLimits repo = true)
      (op.step config (before.foldl (LedgerOp.step config) repo)) after) (cash : Decimal)
    (hcash : ((before ++ op :: after).foldl (LedgerOp.step config) repo).rawManagedCash config
      = .ok cash) :
    0 ≤ cash - ((before ++ op :: after).foldl (LedgerOp.step config) repo).reservedOpenBuy config ∧
      ∃ initial, repo.system.effectiveInitialCapital = .ok initial ∧
        ((before ++ op :: after).foldl (LedgerOp.step config) repo).cashSpent config
          ≤ initial
            + ((before ++ op :: after).foldl (LedgerOp.step config) repo).saleProceeds config := by
  obtain ⟨hbefore, hpositiveOp, hafter⟩ := (Run.along_append _ _ _ _).mp hpositive
  have hpriced : (before.foldl (LedgerOp.step config) repo).BuysPriced :=
    hbefore.invariant
      (fun repo op hpriced h => (LedgerOp.step_effect config repo op).buysPriced h hpriced)
      fun row hrow => by simp [Table.mem_def, hempty] at hrow
  have heffect := LedgerOp.step_effect config (before.foldl (LedgerOp.step config) repo) op
  obtain ⟨initial, hinitial, rfl⟩ := Repository.rawManagedCash_ok hcash
  rw [LedgerOp.foldl_step_system] at hinitial
  have hstart : (op.step config (before.foldl (LedgerOp.step config) repo)).system = repo.system :=
    heffect.system_eq.trans (LedgerOp.foldl_step_system _ _ _)
  have hmargin := haccepts.margin_nonneg hpositiveOp
    (LedgerOp.foldl_step_system config repo before ▸ hinitial)
  obtain ⟨hpriced', hfinal⟩ := LedgerOp.foldl_step_margin_nonneg hsellFee hafter hreports
    (hstart ▸ hinitial) (heffect.buysPriced hpositiveOp hpriced) hmargin
  rw [← List.foldl_cons, ← List.foldl_append, Repository.margin_eq] at hfinal
  refine ⟨hfinal, initial, hinitial, ?_⟩
  rw [← List.foldl_cons, ← List.foldl_append] at hpriced'
  have hreserved := hpriced'.reservedOpenBuy_nonneg config
  rw [Repository.saleProceeds_eq]
  linarith

/-! ## Reports that a reservation does not pay for -/

/-- No reported average of a BUY exceeds the limit price. -/
def Repository.averagesWithinLimit (repo : Repository ι) : Bool :=
  repo.orders.rows.all fun row =>
    decide (row.side = .sell) || decide (row.averageFillPrice.getD 0 ≤ row.price.getD 0)

/-- The open BUY reservations exceed the reconstructed cash. -/
def Repository.overspent (config : StrategyConfig) (repo : Repository ι) : Bool :=
  match repo.rawManagedCash config with
  | .ok cash => decide (cash - repo.reservedOpenBuy config < 0)
  | .error _ => false

namespace Overspending

/-- An account of 10,000 USD whose risk budget leaves room for its profit. -/
def start : Repository ℕ := Repository.launched (SystemState.launched 10000 20000 20000) .qqq 1000

def buy (clientOrderId quantity : ℕ) (limit : Decimal) (quantity_pos : 0 < quantity) : LedgerOp ℕ :=
  .reserveBuy 50000 (.core clientOrderId .qqq quantity limit quantity_pos) 1

def report (clientOrderId : ℕ) (status : OrderStatus) (filled : ℕ) (average : Decimal) :
    LedgerOp ℕ :=
  .updateOrder clientOrderId
    { status := .exact status, filledQty := some filled, averageFillPrice := some average }

/-- Operations before a BUY, the BUY, and what the broker reports after it. -/
structure Case where
  before : List (LedgerOp ℕ)
  request : BuyRequest ℕ
  report : LedgerOp ℕ

/-- A cancelled BUY fills after its room went to a second one. -/
def lateFill : Case where
  before := [buy 1 90 100 (by decide), .updateOrder 1 { status := .exact .canceled }]
  request := .core 2 .qqq 90 100 (by decide)
  report := report 1 .canceled 90 100

/-- The average of a partial BUY is corrected up to its limit. -/
def raisedAverage : Case where
  before := [buy 1 90 100 (by decide), report 1 .partialFilled 50 50]
  request := .core 2 .qqq 30 100 (by decide)
  report := report 1 .partialFilled 50 100

/-- A SELL of ten-dollar shares. -/
def sell : OrderRequest ℕ where
  clientOrderId := 1
  symbol := .allocation .tqqq
  side := .sell
  orderType := .limit
  quantity := 100
  price := some 10
  purpose := .coreRebalanceSell
  quantity_pos := by decide
  side_eq := rfl

/-- The average of a SELL is corrected down after its proceeds were reserved. -/
def loweredProceeds : Case where
  before := [.reserveSell sell rfl 1, report 1 .filled 100 100]
  request := .core 2 .qqq 190 100 (by decide)
  report := report 1 .filled 100 10

/-- The BUY is accepted, no average of a BUY ever exceeds its limit price, and
the report leaves the ledger overspent. -/
abbrev Case.Overspends (c : Case) : Prop :=
  LedgerOp.insertsBuy .strategyYaml
      (c.before.foldl (LedgerOp.step .strategyYaml) start) 50000 c.request 1 = true ∧
    Run.Along (LedgerOp.step .strategyYaml) (fun repo _ => repo.averagesWithinLimit = true)
      start (c.before ++ [.reserveBuy 50000 c.request 1, c.report, c.report]) ∧
    ((c.before ++ [.reserveBuy 50000 c.request 1, c.report]).foldl
      (LedgerOp.step .strategyYaml) start).overspent .strategyYaml = true

end Overspending

/-- Three ledgers accept a BUY and are overspent after the next report, although
no reported average of a BUY exceeds its limit price at any time. -/
theorem average_below_limit_is_not_solvent :
    Overspending.lateFill.Overspends ∧ Overspending.raisedAverage.Overspends ∧
      Overspending.loweredProceeds.Overspends := by
  decide +kernel

/-- A BUY that fills below its limit, and a cancelled remainder. -/
theorem accepted_buy_stays_covered_of_fills :
    ∃ cash, (((([] : List (LedgerOp ℕ)) ++ Overspending.buy 1 90 100 (by decide) ::
        [Overspending.report 1 .partialFilled 50 50, Overspending.report 1 .canceled 60 55]).foldl
        (LedgerOp.step .strategyYaml) Overspending.start).rawManagedCash .strategyYaml = .ok cash) ∧
      0 ≤ cash - ((([] : List (LedgerOp ℕ)) ++ Overspending.buy 1 90 100 (by decide) ::
        [Overspending.report 1 .partialFilled 50 50, Overspending.report 1 .canceled 60 55]).foldl
        (LedgerOp.step .strategyYaml) Overspending.start).reservedOpenBuy .strategyYaml := by
  refine ⟨10000 - 3300 * (1001 / 1000), by decide +kernel, ?_⟩
  exact (accepted_buy_stays_covered .strategyYaml Overspending.start [] _
    (Overspending.buy 1 90 100 (by decide)) (.core 1 .qqq 90 100 (by decide)) (by decide +kernel) rfl
    (by decide +kernel) ⟨50000, 1, rfl, by decide +kernel⟩ (by decide +kernel) _
    (by decide +kernel)).1

end JdHoldings

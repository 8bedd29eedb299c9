import Mathlib.Algebra.Group.Prod
import JdHoldings.Ledger.AccountRun
import JdHoldings.Ledger.CostBasis

/-!
# The core ledger does not remember how it was booked

`apply_core_fill` books the difference between what an order has filled and what its
progress row says.  Quantity and notional move together, so both are kept in one
`lot`, and what holds for the pair is proved once.

* `Repository.outside` is the part of a core row that no booked BUY accounts for.
  As long as no SELL of the symbol is booked, no operation changes it
  (`LedgerOp.Effect.outside_eq`).
* An order whose last observation has been booked stays booked in full
  (`BookedLast.booked`), and so does every order after the recovery
  (`recoverUnappliedCoreFills_booked`).
* Where every BUY is booked in full, the row is its outside part and what the BUYs have
  filled (`Repository.lot_of_booked`).  Two runs with the same final fills therefore end
  in the same row (`core_fills_order_independent`).
-/

namespace JdHoldings

variable {ι : Type}

/-! ## Lots -/

/-- Shares and what they cost, before fees. -/
abbrev Lot := ℤ × Decimal

/-- What the row holds. -/
def CoreRow.lot (row : CoreRow) : Lot := (row.qty, row.costBasis)

/-- What the order has filled. -/
def OrderRow.filledLot (row : OrderRow ι) : Lot := (row.filledQty, row.cumulativeNotional)

/-- What has been booked for an order. -/
def Repository.appliedLot (repo : Repository ι) (clientOrderId : ι) : Lot :=
  (repo.appliedFilledQty clientOrderId, repo.appliedNotional clientOrderId)

/-- The row is a core BUY of the symbol. -/
def OrderRow.BuysCore (row : OrderRow ι) (symbol : AllocationSymbol) : Prop :=
  row.purpose.isCore = true ∧ row.side = .buy ∧ row.symbol = .allocation symbol

instance (row : OrderRow ι) (symbol : AllocationSymbol) : Decidable (row.BuysCore symbol) :=
  inferInstanceAs (Decidable (_ ∧ _ ∧ _))

/-- What the core BUYs of a symbol add up to. -/
def Repository.bought (repo : Repository ι) (symbol : AllocationSymbol) (lot : OrderRow ι → Lot) :
    Lot :=
  repo.orders.sum fun row => if row.BuysCore symbol then lot row else 0

/-- What a core row holds beyond the booked part of its BUYs. -/
def Repository.outside (repo : Repository ι) (symbol : AllocationSymbol) : Lot :=
  (repo.core symbol).lot - repo.bought symbol fun row => repo.appliedLot row.clientOrderId

/-- Every core BUY of the symbol is booked in full. -/
def Repository.BuysBooked (repo : Repository ι) (symbol : AllocationSymbol) : Prop :=
  ∀ row ∈ repo.orders, row.BuysCore symbol → repo.appliedLot row.clientOrderId = row.filledLot

/-- Where the BUYs are booked in full, the row is made of them and of its outside
part. -/
theorem Repository.lot_of_booked {repo : Repository ι} {symbol : AllocationSymbol}
    (hbooked : repo.BuysBooked symbol) :
    (repo.core symbol).lot = repo.outside symbol + repo.bought symbol OrderRow.filledLot := by
  have hsame : (repo.bought symbol fun row => repo.appliedLot row.clientOrderId)
      = repo.bought symbol OrderRow.filledLot := by
    refine Table.sum_congr fun row hrow => ?_
    by_cases hbuys : row.BuysCore symbol
    · simp only [if_pos hbuys, hbooked row hrow hbuys]
    · simp only [if_neg hbuys]
  rw [outside, hsame, sub_add_cancel]

theorem CoreRow.buyFill_lot {row row' : CoreRow} {delta : ℕ} {deltaNotional : Decimal}
    (hok : row.buyFill delta deltaNotional = .ok row') :
    row'.lot = row.lot + ((delta : ℤ), deltaNotional) := by
  obtain ⟨hqty, hcost, -⟩ := CoreRow.buyFill_ok hok
  refine Prod.ext ?_ hcost
  show (row'.qty : ℤ) = row.qty + delta
  rw [hqty, Nat.cast_add]

theorem OrderRow.Updated.buysCore_iff {existing row : OrderRow ι} {status : OrderStatus}
    {update : OrderUpdate} (hupdated : existing.Updated row status update)
    (symbol : AllocationSymbol) : row.BuysCore symbol ↔ existing.BuysCore symbol := by
  simp only [OrderRow.BuysCore, hupdated.purpose, hupdated.side, hupdated.symbol]

variable [DecidableEq ι]

/-! ## The progress table -/

/-- What the progress table promises about the orders: its rows refer to stored orders,
and they book no more than these have filled. -/
structure Repository.ProgressKept (repo : Repository ι) : Prop where
  stored : ∀ clientOrderId, repo.orders.get? clientOrderId = none →
    repo.appliedLot clientOrderId = 0
  applied_le : ∀ row ∈ repo.orders, repo.appliedFilledQty row.clientOrderId ≤ row.filledQty
  notional_of_zero : ∀ clientOrderId, repo.appliedFilledQty clientOrderId = 0 →
    repo.appliedNotional clientOrderId = 0

theorem Repository.ProgressKept.initial : (Repository.initial ι).ProgressKept :=
  ⟨fun _ _ => rfl, fun row hrow => absurd hrow (Table.not_mem_empty row), fun _ _ => rfl⟩

/-- An order without fills is booked in full. -/
theorem Repository.ProgressKept.appliedLot_of_unfilled {repo : Repository ι} {row : OrderRow ι}
    (hkept : repo.ProgressKept) (hrow : row ∈ repo.orders) (hunfilled : row.filledQty = 0) :
    repo.appliedLot row.clientOrderId = row.filledLot := by
  have happlied : repo.appliedFilledQty row.clientOrderId = 0 := by
    have hle := hkept.applied_le row hrow
    omega
  refine Prod.ext ?_ ?_
  · show ((repo.appliedFilledQty row.clientOrderId : ℕ) : ℤ) = row.filledQty
    rw [happlied, hunfilled]
  · show repo.appliedNotional row.clientOrderId = row.cumulativeNotional
    rw [hkept.notional_of_zero _ happlied, OrderRow.cumulativeNotional_of_filledQty_zero hunfilled]

section BookCoreFill

variable (repo : Repository ι) (symbol : AllocationSymbol) (order : OrderRow ι) (row : CoreRow)

omit [DecidableEq ι] in
theorem Repository.appliedLot_eq_filledLot_iff {clientOrderId : ι} :
    repo.appliedLot clientOrderId = order.filledLot ↔
      repo.appliedFilledQty clientOrderId = order.filledQty ∧
        repo.appliedNotional clientOrderId = order.cumulativeNotional := by
  simp [appliedLot, OrderRow.filledLot]

@[simp] theorem Repository.appliedLot_bookCoreFill_self :
    (repo.bookCoreFill symbol order row).appliedLot order.clientOrderId = order.filledLot := by
  simp [appliedLot, OrderRow.filledLot]

theorem Repository.appliedLot_bookCoreFill_of_ne {other : ι} (hne : other ≠ order.clientOrderId) :
    (repo.bookCoreFill symbol order row).appliedLot other = repo.appliedLot other := by
  simp [appliedLot, appliedFilledQty_bookCoreFill_of_ne _ _ _ _ hne,
    appliedNotional_bookCoreFill_of_ne _ _ _ _ hne]

end BookCoreFill

/-- Nothing is left to book: the call changes nothing. -/
theorem Repository.applyCoreFill_of_applied {repo repo' : Repository ι} {clientOrderId : ι}
    {order : OrderRow ι} (hok : repo.applyCoreFill clientOrderId = .ok repo')
    (hget : repo.orders.get? clientOrderId = some order)
    (happlied : repo.appliedLot clientOrderId = order.filledLot) : repo' = repo := by
  obtain ⟨hqty, hnotional⟩ := (repo.appliedLot_eq_filledLot_iff order).mp happlied
  simp only [applyCoreFill, hget, hqty, hnotional, lt_irrefl, if_false, Nat.sub_self, sub_self,
    and_self, if_true] at hok
  split at hok
  · cases hok
  · exact (Except.ok.inj hok).symm

/-! ## What a step does to the lots -/

/-- The operation books something of a core SELL of the symbol. -/
def Repository.booksSell (repo : Repository ι) (symbol : AllocationSymbol) : LedgerOp ι → Bool
  | .applyCoreFill clientOrderId =>
      match repo.orders.get? clientOrderId with
      | some order =>
          order.purpose.isCore && decide (order.symbol = .allocation symbol) &&
            decide (order.side = .sell) && decide (repo.appliedLot clientOrderId ≠ order.filledLot)
      | none => false
  | _ => false

/-- A reservation brings in a row without fills. -/
private theorem bought_insert {repo : Repository ι} {request : OrderRequest ι} {now : Timestamp}
    (hfresh : repo.orders.get? request.clientOrderId = none) (symbol : AllocationSymbol)
    (lot : OrderRow ι → Lot) (hzero : lot (request.newRow now) = 0) :
    Repository.bought { repo with orders := (repo.orders.insertOrIgnore (request.newRow now)).1 }
        symbol lot
      = repo.bought symbol lot := by
  have hnew : repo.orders.get? (request.newRow now).clientOrderId = none := hfresh
  have hinsert := Table.sum_insertOrIgnore
    (fun row => if row.BuysCore symbol then lot row else 0) hnew
  simp only [hzero, ite_self, add_zero] at hinsert
  exact hinsert

/-- An update moves no booking. -/
private theorem bought_replace {repo : Repository ι} {existing row : OrderRow ι}
    {status : OrderStatus} {update : OrderUpdate}
    (hget : repo.orders.get? row.clientOrderId = some existing)
    (hupdated : existing.Updated row status update) (symbol : AllocationSymbol)
    (lot : OrderRow ι → Lot) (hsame : lot row = lot existing) :
    Repository.bought { repo with orders := repo.orders.replace row } symbol lot
      = repo.bought symbol lot := by
  have hexchange := Table.sum_exchange (fun row => if row.BuysCore symbol then lot row else 0)
    (fun row => if row.BuysCore symbol then lot row else 0) hget (fun _ _ _ => rfl)
  simp only [hupdated.buysCore_iff, hsame] at hexchange
  exact add_right_cancel hexchange

/-- A booking of a BUY moves the same lot in the row and in the progress. -/
theorem Repository.outside_bookCoreFill {repo : Repository ι} {order : OrderRow ι}
    {booked : AllocationSymbol} {row : CoreRow}
    (hget : repo.orders.get? order.clientOrderId = some order)
    (hcore : order.purpose.isCore = true) (hsymbol : order.symbol = .allocation booked)
    (happlied : repo.appliedFilledQty order.clientOrderId ≤ order.filledQty)
    (hbooked : repo.CoreFillBooked booked order row) {symbol : AllocationSymbol}
    (hbuys : booked = symbol → order.side = .buy) :
    (repo.bookCoreFill booked order row).outside symbol = repo.outside symbol := by
  have hreweigh := Table.sum_reweigh
    (fun row => if row.BuysCore symbol then repo.appliedLot row.clientOrderId else 0)
    (fun other => if other.BuysCore symbol then
      (repo.bookCoreFill booked order row).appliedLot other.clientOrderId else 0) hget
    (fun other _ hne => by rw [Repository.appliedLot_bookCoreFill_of_ne _ _ _ _ hne])
  simp only [Repository.appliedLot_bookCoreFill_self] at hreweigh
  simp only [Repository.outside, Repository.bought, Repository.bookCoreFill_orders]
  by_cases hsame : booked = symbol
  · subst hsame
    have hside : order.side = .buy := hbuys rfl
    have hbuy : order.BuysCore booked := ⟨hcore, hside, hsymbol⟩
    have hlot : row.lot = (repo.core booked).lot
        + (order.filledLot - repo.appliedLot order.clientOrderId) := by
      cases hbooked with
      | sell hsell => rw [hside] at hsell; cases hsell
      | buy _ hfill =>
          rw [CoreRow.buyFill_lot hfill, Nat.cast_sub happlied]
          rfl
    simp only [if_pos hbuy] at hreweigh
    rw [Repository.bookCoreFill_core_self, hlot, sub_eq_sub_iff_add_eq_add, add_assoc]
    refine congrArg ((repo.core booked).lot + ·) ?_
    have hadd := congrArg (· - repo.appliedLot order.clientOrderId) hreweigh
    simp only [add_sub_cancel_right] at hadd
    rw [hadd, add_sub_assoc, add_comm]
  · have hnot : ¬order.BuysCore symbol := by
      rintro ⟨-, -, hother⟩
      rw [hsymbol] at hother
      exact hsame (Symbol.allocation.inj hother)
    simp only [if_neg hnot, add_zero] at hreweigh
    rw [Repository.bookCoreFill_core_of_ne _ _ _ _ (Ne.symm hsame), hreweigh]

namespace LedgerOp

/-- A repeated booking changes nothing. -/
theorem step_applyCoreFill_of_applied (config : StrategyConfig) {repo : Repository ι}
    {clientOrderId : ι} {order : OrderRow ι} (hget : repo.orders.get? clientOrderId = some order)
    (happlied : repo.appliedLot clientOrderId = order.filledLot) :
    step config repo (.applyCoreFill clientOrderId) = repo := by
  simp only [step, exec, hget]
  by_cases hcore : order.purpose.isCore = true
  · simp only [if_pos hcore]
    cases hok : repo.applyCoreFill clientOrderId with
    | error error => rfl
    | ok repo' => exact Repository.applyCoreFill_of_applied hok hget happlied
  · simp only [if_neg hcore]

/-- A step that books no SELL of the symbol leaves the outside part of its row. -/
theorem step_outside (config : StrategyConfig) {repo : Repository ι} (hkept : repo.ProgressKept)
    {symbol : AllocationSymbol} {op : LedgerOp ι} (hbuys : repo.booksSell symbol op = false) :
    (step config repo op).outside symbol = repo.outside symbol := by
  by_cases hrepeated : ∃ clientOrderId order, op = .applyCoreFill clientOrderId ∧
      repo.orders.get? clientOrderId = some order ∧
      repo.appliedLot clientOrderId = order.filledLot
  · obtain ⟨clientOrderId, order, rfl, hget, happlied⟩ := hrepeated
    rw [step_applyCoreFill_of_applied config hget happlied]
  have heffect := step_effect config repo op
  generalize step config repo op = repo' at heffect
  cases heffect with
  | unchanged => rfl
  | reservedBuy _ hfresh =>
      exact congrArg ((repo.core symbol).lot - ·)
        (bought_insert hfresh symbol _ (hkept.stored _ hfresh))
  | reservedSell hfresh =>
      exact congrArg ((repo.core symbol).lot - ·)
        (bought_insert hfresh symbol _ (hkept.stored _ hfresh))
  | @updated clientOrderId update existing row _ hget hupdated =>
      have hkey := (Table.key_of_get? hget).symm.trans hupdated.clientOrderId.symm
      refine congrArg ((repo.core symbol).lot - ·) (bought_replace (hkey ▸ hget) hupdated symbol
        (fun row => repo.appliedLot row.clientOrderId) ?_)
      simp only [hupdated.clientOrderId]
  | @booked clientOrderId order booked row hget hcore hsymbol happlied hbooked =>
      have hkey := Table.key_of_get? hget
      refine Repository.outside_bookCoreFill (hkey ▸ hget) hcore hsymbol (hkey ▸ happlied) hbooked
        fun hsame => ?_
      subst hsame
      have hpending : repo.appliedLot clientOrderId ≠ order.filledLot := by
        intro hequal
        exact hrepeated ⟨clientOrderId, order, rfl, hget, hequal⟩
      cases hside : order.side with
      | buy => rfl
      | sell =>
          simp [Repository.booksSell, hget, hcore, hsymbol, hside, hpending] at hbuys

/-- Every step keeps what the progress table promises. -/
theorem step_progressKept (config : StrategyConfig) {repo : Repository ι}
    (hkept : repo.ProgressKept) (op : LedgerOp ι) : (step config repo op).ProgressKept := by
  have hwell : repo.WellBooked := ⟨fun clientOrderId hnone => by
    have hlot := congrArg Prod.fst (hkept.stored clientOrderId hnone)
    exact Int.ofNat.inj hlot, hkept.applied_le⟩
  have heffect := step_effect config repo op
  have hwell' := heffect.wellBooked hwell
  generalize step config repo op = repo' at heffect hwell'
  have hzero : ∀ clientOrderId, repo'.appliedFilledQty clientOrderId = 0 →
      repo'.appliedNotional clientOrderId = 0 := by
    intro other happlied
    cases heffect with
    | unchanged => exact hkept.notional_of_zero other happlied
    | reservedBuy => exact hkept.notional_of_zero other happlied
    | reservedSell => exact hkept.notional_of_zero other happlied
    | updated => exact hkept.notional_of_zero other happlied
    | @booked clientOrderId order booked row hget =>
        by_cases hsame : other = order.clientOrderId
        · subst hsame
          rw [Repository.appliedFilledQty_bookCoreFill_self] at happlied
          rw [Repository.appliedNotional_bookCoreFill_self]
          exact OrderRow.cumulativeNotional_of_filledQty_zero happlied
        · rw [Repository.appliedFilledQty_bookCoreFill_of_ne _ _ _ _ hsame] at happlied
          rw [Repository.appliedNotional_bookCoreFill_of_ne _ _ _ _ hsame]
          exact hkept.notional_of_zero other happlied
  refine ⟨fun clientOrderId hnone => ?_, hwell'.applied_le, hzero⟩
  have happlied := hwell'.unreserved clientOrderId hnone
  exact Prod.ext (congrArg Nat.cast happlied) (hzero clientOrderId happlied)

end LedgerOp

/-! ## The last booking of an order -/

namespace LedgerOp

/-- The operation stores an observation of the order. -/
def Observes (clientOrderId : ι) : LedgerOp ι → Prop
  | .updateOrder other _ => other = clientOrderId
  | _ => False

instance (clientOrderId : ι) (op : LedgerOp ι) : Decidable (op.Observes clientOrderId) := by
  cases op <;> unfold Observes <;> infer_instance

end LedgerOp

/-- The stored order is booked in full. -/
def Repository.BookedInFull (repo : Repository ι) (clientOrderId : ι) : Prop :=
  ∃ order, repo.orders.get? clientOrderId = some order ∧
    repo.appliedLot clientOrderId = order.filledLot

namespace LedgerOp

/-- Only a new observation gives an order something to book. -/
theorem step_bookedInFull (config : StrategyConfig) {repo : Repository ι} {clientOrderId : ι}
    {op : LedgerOp ι} (hbooked : repo.BookedInFull clientOrderId)
    (hquiet : ¬op.Observes clientOrderId) :
    (step config repo op).BookedInFull clientOrderId := by
  obtain ⟨order, hget, happlied⟩ := hbooked
  have hinsert : ∀ {request : OrderRequest ι} {now : Timestamp},
      repo.orders.get? request.clientOrderId = none →
        Repository.BookedInFull
          { repo with orders := (repo.orders.insertOrIgnore (request.newRow now)).1 }
          clientOrderId := by
    intro request now hfresh
    refine ⟨order, (Table.get?_insertOrIgnore_of_ne fun hsame => ?_).trans hget, happlied⟩
    have hnone : repo.orders.get? clientOrderId = none := hsame ▸ hfresh
    rw [hget] at hnone
    cases hnone
  have heffect := step_effect config repo op
  generalize step config repo op = repo' at heffect
  cases heffect with
  | unchanged => exact ⟨order, hget, happlied⟩
  | reservedBuy _ hfresh => exact hinsert hfresh
  | reservedSell hfresh => exact hinsert hfresh
  | @updated other update existing row _ hfound hupdated =>
      have hkey := hupdated.clientOrderId.trans (Table.key_of_get? hfound)
      refine ⟨order, (Table.get?_replace_of_ne fun hsame => hquiet ?_).trans hget, happlied⟩
      exact (hsame.trans hkey).symm
  | @booked other found booked row hfound =>
      by_cases hsame : clientOrderId = found.clientOrderId
      · obtain rfl : other = clientOrderId := (Table.key_of_get? hfound).symm.trans hsame.symm
        refine ⟨found, hfound, ?_⟩
        rw [hsame, Repository.appliedLot_bookCoreFill_self]
      · refine ⟨order, hget, ?_⟩
        rw [Repository.appliedLot_bookCoreFill_of_ne _ _ _ _ hsame]
        exact happlied

end LedgerOp

/-- A call of `apply_core_fill` that raises nothing books the order in full. -/
theorem Repository.applyCoreFill_bookedInFull (config : StrategyConfig)
    {repo booked : Repository ι} {clientOrderId : ι} (hcore : repo.IsCoreOrder clientOrderId)
    (hok : repo.applyCoreFill clientOrderId = .ok booked) :
    LedgerOp.step config repo (.applyCoreFill clientOrderId) = booked ∧
      booked.orders = repo.orders ∧ booked.BookedInFull clientOrderId := by
  obtain ⟨order, hget, hpurpose⟩ := hcore
  have horders := (Repository.applyCoreFill_frame hok hget hpurpose).1
  refine ⟨?_, horders, order, horders ▸ hget, ?_⟩
  · simp only [LedgerOp.step, LedgerOp.exec, hget, if_pos hpurpose, hok]
  · exact (booked.appliedLot_eq_filledLot_iff order).mpr
      (Repository.applyCoreFill_applied hok hget)

/-- In the run, a booking of the order succeeded after its last observation. -/
def BookedLast (config : StrategyConfig) (start : Repository ι) (ops : List (LedgerOp ι))
    (clientOrderId : ι) : Prop :=
  ∃ front back, ops = front ++ .applyCoreFill clientOrderId :: back ∧
    (front.foldl (LedgerOp.step config) start).IsCoreOrder clientOrderId ∧
    (∃ booked, (front.foldl (LedgerOp.step config) start).applyCoreFill clientOrderId = .ok booked)
      ∧ ∀ op ∈ back, ¬op.Observes clientOrderId

theorem BookedLast.bookedInFull {config : StrategyConfig} {start : Repository ι}
    {ops : List (LedgerOp ι)} {clientOrderId : ι} (hlast : BookedLast config start ops clientOrderId) :
    (ops.foldl (LedgerOp.step config) start).BookedInFull clientOrderId := by
  obtain ⟨front, back, rfl, hcore, ⟨booked, hok⟩, hquiet⟩ := hlast
  obtain ⟨hstep, -, hbooked⟩ := Repository.applyCoreFill_bookedInFull config hcore hok
  rw [List.foldl_append, List.foldl_cons, hstep]
  clear hok hstep hcore
  induction back generalizing booked with
  | nil => exact hbooked
  | cons op ops ih =>
      refine ih (fun op hmem => hquiet op (List.mem_cons_of_mem _ hmem)) _ ?_
      exact LedgerOp.step_bookedInFull config hbooked (hquiet op List.mem_cons_self)

/-! ## What an order has filled in the end -/

/-- The cumulative quantity and the average price of a core BUY that has filled
anything. -/
def Repository.finalFill (repo : Repository ι) (symbol : AllocationSymbol) (clientOrderId : ι) :
    Option (ℕ × Decimal) :=
  match repo.orders.get? clientOrderId with
  | some row =>
      if row.BuysCore symbol ∧ 0 < row.filledQty then some (row.filledQty, row.fillPrice) else none
  | none => none

/-- The final fills are all that the sum over the BUYs sees. -/
theorem Repository.bought_filledLot_eq {repo repo' : Repository ι} {symbol : AllocationSymbol}
    (hfills : ∀ clientOrderId, repo.finalFill symbol clientOrderId
      = repo'.finalFill symbol clientOrderId) :
    repo.bought symbol OrderRow.filledLot = repo'.bought symbol OrderRow.filledLot := by
  have hweight : ∀ (repo : Repository ι) (clientOrderId : ι),
      repo.orders.weightAt (fun row => if row.BuysCore symbol then row.filledLot else 0)
          clientOrderId
        = ((repo.finalFill symbol clientOrderId).map
            fun fill => (((fill.1 : ℕ) : ℤ), fill.2 * (fill.1 : Decimal))).getD 0 := by
    intro repo clientOrderId
    cases hget : repo.orders.get? clientOrderId with
    | none => simp [Table.weightAt, finalFill, hget]
    | some row =>
        by_cases hbuys : row.BuysCore symbol
        · rcases Nat.eq_zero_or_pos row.filledQty with hzero | hpositive
          · simp [Table.weightAt, finalFill, hget, hbuys, hzero, OrderRow.filledLot]
          · simp [Table.weightAt, finalFill, hget, hbuys, hpositive, OrderRow.filledLot,
              OrderRow.cumulativeNotional]
        · simp [Table.weightAt, finalFill, hget, hbuys]
  refine Table.sum_eq_of_weightAt fun clientOrderId => ?_
  rw [hweight, hweight, hfills]

/-! ## The whole run -/

namespace LedgerOp

/-- What a run without SELL bookings keeps. -/
theorem run_outside (config : StrategyConfig) {start : Repository ι} {symbol : AllocationSymbol}
    {ops : List (LedgerOp ι)} (hkept : start.ProgressKept)
    (hbuys : Run.Along (step config) (fun repo op => repo.booksSell symbol op = false) start ops) :
    (ops.foldl (step config) start).ProgressKept ∧
      (ops.foldl (step config) start).outside symbol = start.outside symbol := by
  refine hbuys.invariant (I := fun repo => repo.ProgressKept ∧
    repo.outside symbol = start.outside symbol) ?_ ⟨hkept, rfl⟩
  rintro repo op ⟨hkept, hsame⟩ hbuys
  exact ⟨step_progressKept config hkept op, (step_outside config hkept hbuys).trans hsame⟩

end LedgerOp

/-- Orders without fills need no booking. -/
theorem Repository.ProgressKept.buysBooked {repo : Repository ι} {symbol : AllocationSymbol}
    (hkept : repo.ProgressKept)
    (hfilled : ∀ row ∈ repo.orders, row.BuysCore symbol → 0 < row.filledQty →
      repo.BookedInFull row.clientOrderId) : repo.BuysBooked symbol := by
  intro row hrow hbuys
  rcases Nat.eq_zero_or_pos row.filledQty with hzero | hpositive
  · exact hkept.appliedLot_of_unfilled hrow hzero
  · obtain ⟨order, hget, happlied⟩ := hfilled row hrow hbuys hpositive
    obtain rfl : row = order :=
      Table.eq_of_key_eq hrow (Table.mem_of_get? hget) (Table.key_of_get? hget).symm
    exact happlied

/-! ### Recovery -/

/-- A recovery that raises nothing is a run of bookings, and leaves what it booked booked
in full. -/
private theorem recoverCoreFills_run (config : StrategyConfig) {ids : List ι}
    {repo recovered : Repository ι} (hcore : ∀ id ∈ ids, repo.IsCoreOrder id)
    (hok : recoverCoreFills ids repo = (recovered, .ok ())) :
    recovered = (ids.map LedgerOp.applyCoreFill).foldl (LedgerOp.step config) repo ∧
      recovered.orders = repo.orders ∧
      (∀ id, repo.BookedInFull id → recovered.BookedInFull id) ∧
      ∀ id ∈ ids, recovered.BookedInFull id := by
  induction ids generalizing repo with
  | nil =>
      obtain rfl : repo = recovered := congrArg Prod.fst hok
      exact ⟨rfl, rfl, fun _ hbooked => hbooked, fun _ hmem => absurd hmem List.not_mem_nil⟩
  | cons id rest ih =>
      simp only [recoverCoreFills] at hok
      split at hok
      · cases hok
      · rename_i booked hbook
        obtain ⟨hstep, horders, hself⟩ :=
          Repository.applyCoreFill_bookedInFull config (hcore id List.mem_cons_self) hbook
        have hcore' : ∀ other ∈ rest, booked.IsCoreOrder other := by
          intro other hother
          obtain ⟨row, hrow, hcore⟩ := hcore other (List.mem_cons_of_mem _ hother)
          exact ⟨row, horders ▸ hrow, hcore⟩
        obtain ⟨hrun, hsame, hkeeps, hrest⟩ := ih hcore' hok
        refine ⟨?_, hsame.trans horders, fun other hbooked => ?_, fun other hother => ?_⟩
        · rw [List.map_cons, List.foldl_cons, hstep]
          exact hrun
        · refine hkeeps other ?_
          rw [← hstep]
          exact LedgerOp.step_bookedInFull config hbooked fun hobserves => hobserves
        · rcases List.mem_cons.mp hother with rfl | hother
          · exact hkeeps other hself
          · exact hrest other hother

theorem recoverUnappliedCoreFills_run (config : StrategyConfig) {repo recovered : Repository ι}
    (hok : recoverUnappliedCoreFills repo = (recovered, .ok ())) :
    recovered = (repo.unappliedCoreFillOrderIds.map LedgerOp.applyCoreFill).foldl
        (LedgerOp.step config) repo ∧
      recovered.orders = repo.orders ∧
      (∀ id, repo.BookedInFull id → recovered.BookedInFull id) ∧
      ∀ id ∈ repo.unappliedCoreFillOrderIds, recovered.BookedInFull id := by
  refine recoverCoreFills_run config (fun id hid => ?_) hok
  obtain ⟨row, hrow, rfl⟩ := List.mem_map.mp hid
  obtain ⟨hstored, hpending⟩ := List.mem_filter.mp hrow
  simp only [Bool.and_eq_true] at hpending
  exact ⟨row, Table.get?_eq_some_iff.mpr ⟨hstored, rfl⟩, hpending.1.1⟩

namespace LedgerOp

theorem step_applyCoreFill_orders (config : StrategyConfig) (repo : Repository ι)
    (clientOrderId : ι) :
    (step config repo (.applyCoreFill clientOrderId)).orders = repo.orders := by
  have heffect := step_effect config repo (.applyCoreFill clientOrderId)
  generalize step config repo (.applyCoreFill clientOrderId) = repo' at heffect
  cases heffect <;> rfl

/-- Booking BUYs books no SELL. -/
theorem along_applyCoreFill (config : StrategyConfig) {repo : Repository ι}
    {symbol : AllocationSymbol} {ids : List ι}
    (hbuys : ∀ order ∈ repo.orders, order.clientOrderId ∈ ids →
      order.symbol = .allocation symbol → order.side = .buy) :
    Run.Along (step config) (fun repo op => repo.booksSell symbol op = false) repo
      (ids.map .applyCoreFill) := by
  induction ids generalizing repo with
  | nil => trivial
  | cons id rest ih =>
      refine ⟨?_, ih fun order horder hrest => ?_⟩
      · cases hget : repo.orders.get? id with
        | none => simp [Repository.booksSell, hget]
        | some order =>
            have hkey := Table.key_of_get? hget
            by_cases hsymbol : order.symbol = .allocation symbol
            · have hside : order.side = .buy :=
                hbuys order (Table.mem_of_get? hget) (hkey ▸ List.mem_cons_self) hsymbol
              simp [Repository.booksSell, hget, hside]
            · simp [Repository.booksSell, hget, hsymbol]
      · rw [step_applyCoreFill_orders] at horder
        exact hbuys order horder (List.mem_cons_of_mem _ hrest)

end LedgerOp

/-- After the recovery every BUY of the symbol is booked in full. -/
theorem recoverUnappliedCoreFills_booked (config : StrategyConfig) {repo recovered : Repository ι}
    {symbol : AllocationSymbol} (hkept : repo.ProgressKept)
    (hok : recoverUnappliedCoreFills repo = (recovered, .ok ()))
    (hpending : ∀ order ∈ repo.orders, order.clientOrderId ∈ repo.unappliedCoreFillOrderIds →
      order.symbol = .allocation symbol → order.side = .buy) :
    recovered.BuysBooked symbol ∧ recovered.outside symbol = repo.outside symbol ∧
      recovered.orders = repo.orders := by
  obtain ⟨hrun, horders, hkeeps, hdone⟩ := recoverUnappliedCoreFills_run config hok
  obtain ⟨hkept', houtside⟩ := LedgerOp.run_outside config hkept
    (LedgerOp.along_applyCoreFill config hpending)
  rw [← hrun] at hkept' houtside
  refine ⟨hkept'.buysBooked fun row hrow hbuys hfilled => ?_, houtside, horders⟩
  rw [horders] at hrow
  by_cases hlisted : row.clientOrderId ∈ repo.unappliedCoreFillOrderIds
  · exact hdone _ hlisted
  · -- What the query leaves out agrees with its progress row.
    refine hkeeps _ ⟨row, Table.get?_eq_some_iff.mpr ⟨hrow, rfl⟩, ?_⟩
    by_contra hdiffers
    refine hlisted (List.mem_map.mpr ⟨row, List.mem_filter.mpr ⟨hrow, ?_⟩, rfl⟩)
    rw [repo.appliedLot_eq_filledLot_iff row, not_and_or] at hdiffers
    simp only [hbuys.1, hfilled, decide_true, Bool.true_and, Bool.and_true, Bool.or_eq_true,
      decide_eq_true_eq]
    exact hdiffers.imp Ne.symm Ne.symm

/-! ## Two runs -/

/-- Two runs that book no SELL of the symbol and leave its BUYs with the same cumulative
quantities and average prices end with the same shares and the same cost, however the
fills were observed and booked on the way; a restart that interrupts the second one
recovers them as well. -/
theorem core_fills_order_independent (config : StrategyConfig) {start : Repository ι}
    (hkept : start.ProgressKept) (symbol : AllocationSymbol) {ops ops' : List (LedgerOp ι)}
    (hbuys : Run.Along (LedgerOp.step config)
      (fun repo op => repo.booksSell symbol op = false) start ops)
    (hbuys' : Run.Along (LedgerOp.step config)
      (fun repo op => repo.booksSell symbol op = false) start ops')
    (hfills : ∀ clientOrderId,
      (ops.foldl (LedgerOp.step config) start).finalFill symbol clientOrderId
        = (ops'.foldl (LedgerOp.step config) start).finalFill symbol clientOrderId)
    (hlast : ∀ clientOrderId,
      ((ops.foldl (LedgerOp.step config) start).finalFill symbol clientOrderId).isSome = true →
        BookedLast config start ops clientOrderId) :
    ((∀ clientOrderId,
        ((ops'.foldl (LedgerOp.step config) start).finalFill symbol clientOrderId).isSome = true →
          BookedLast config start ops' clientOrderId) →
      ((ops.foldl (LedgerOp.step config) start).core symbol).qty
          = ((ops'.foldl (LedgerOp.step config) start).core symbol).qty ∧
        ((ops.foldl (LedgerOp.step config) start).core symbol).costBasis
          = ((ops'.foldl (LedgerOp.step config) start).core symbol).costBasis) ∧
    ∀ recovered : Repository ι,
      recoverUnappliedCoreFills (ops'.foldl (LedgerOp.step config) start) = (recovered, .ok ()) →
      (∀ order ∈ (ops'.foldl (LedgerOp.step config) start).orders,
        order.clientOrderId
            ∈ (ops'.foldl (LedgerOp.step config) start).unappliedCoreFillOrderIds →
          order.symbol = .allocation symbol → order.side = .buy) →
      ((ops.foldl (LedgerOp.step config) start).core symbol).qty = (recovered.core symbol).qty ∧
        ((ops.foldl (LedgerOp.step config) start).core symbol).costBasis
          = (recovered.core symbol).costBasis := by
  obtain ⟨hend, houtside⟩ := LedgerOp.run_outside config hkept hbuys
  obtain ⟨hend', houtside'⟩ := LedgerOp.run_outside config hkept hbuys'
  have hbooked : ∀ {ops : List (LedgerOp ι)},
      (ops.foldl (LedgerOp.step config) start).ProgressKept →
      (∀ clientOrderId,
        ((ops.foldl (LedgerOp.step config) start).finalFill symbol clientOrderId).isSome = true →
          BookedLast config start ops clientOrderId) →
      (ops.foldl (LedgerOp.step config) start).BuysBooked symbol := by
    intro ops hkept hlast
    refine hkept.buysBooked fun row hrow hbuys hfilled => (hlast _ ?_).bookedInFull
    have hget := Table.get?_eq_some_iff.mpr ⟨hrow, rfl⟩
    simp [Repository.finalFill, hget, hbuys, hfilled]
  -- Equal lots are equal quantities and equal costs.
  have hlots : ∀ {row row' : CoreRow}, row.lot = row'.lot →
      row.qty = row'.qty ∧ row.costBasis = row'.costBasis := fun hlot =>
    ⟨Int.ofNat.inj (congrArg Prod.fst hlot), congrArg Prod.snd hlot⟩
  have hlot := Repository.lot_of_booked (hbooked hend hlast)
  rw [houtside, Repository.bought_filledLot_eq hfills] at hlot
  constructor
  · intro hlast'
    have hlot' := Repository.lot_of_booked (hbooked hend' hlast')
    rw [houtside'] at hlot'
    exact hlots (hlot.trans hlot'.symm)
  · -- Recovery books what is behind, and the orders stay as the run left them.
    intro recovered hok hpending
    obtain ⟨hdone, hsame, horders⟩ := recoverUnappliedCoreFills_booked config hend' hok hpending
    have hlot' := Repository.lot_of_booked hdone
    rw [hsame, houtside', Repository.bought, horders] at hlot'
    exact hlots (hlot.trans hlot'.symm)

/-! ### A crash between two bookings -/

private theorem finalFill_eq_none {repo : Repository ι} (symbol : AllocationSymbol)
    {clientOrderId : ι} (hnone : clientOrderId ∉ repo.orders.rows.map OrderRow.clientOrderId) :
    repo.finalFill symbol clientOrderId = none := by
  have hget : repo.orders.get? clientOrderId = none :=
    Table.get?_eq_none_iff.mpr fun row hrow hkey => hnone (List.mem_map.mpr ⟨row, hrow, hkey⟩)
  simp [Repository.finalFill, hget]

namespace Interrupted

def start : Repository ℕ := Repository.launched (SystemState.launched 10000 10000 10000) .qqq 9

theorem threeShares : 0 < 3 := by decide

theorem twoShares : 0 < 2 := by decide

def reservations : List (LedgerOp ℕ) :=
  [.reserveBuy 10000 (.core 1 .qqq 3 12 threeShares) 1,
    .reserveBuy 10000 (.core 2 .qqq 2 12 twoShares) 2]

def observe (clientOrderId filled : ℕ) (average : Decimal) : LedgerOp ℕ :=
  .updateOrder clientOrderId
    { status := .exact .partialFilled, filledQty := some filled, averageFillPrice := some average }

/-- Every observation is booked at once, the corrected average of the first among
them. -/
def bookedAtOnce : List (LedgerOp ℕ) :=
  reservations ++ [observe 1 1 10, .applyCoreFill 1, observe 1 1 11, .applyCoreFill 1,
    observe 2 2 9, .applyCoreFill 2, observe 1 3 12, .applyCoreFill 1]

/-- The process stops with one booking behind and one missing. -/
def stopped : List (LedgerOp ℕ) :=
  reservations ++ [observe 2 2 9, observe 1 2 10, .applyCoreFill 1, observe 1 3 12]

end Interrupted

/-- The restart books the 54 dollars of the run without a stop. -/
theorem core_fills_order_independent_after_a_stop :
    ((recoverUnappliedCoreFills
        (Interrupted.stopped.foldl (LedgerOp.step .strategyYaml) Interrupted.start)).1.core
          .qqq).qty = 5 ∧
      ((recoverUnappliedCoreFills
        (Interrupted.stopped.foldl (LedgerOp.step .strategyYaml) Interrupted.start)).1.core
          .qqq).costBasis = 54 := by
  have hkept : Interrupted.start.ProgressKept :=
    ⟨fun _ _ => rfl, fun row hrow => absurd hrow (Table.not_mem_empty row), fun _ _ => rfl⟩
  have hkeys : ∀ ops ∈ [Interrupted.bookedAtOnce, Interrupted.stopped],
      (ops.foldl (LedgerOp.step .strategyYaml) Interrupted.start).orders.rows.map
        OrderRow.clientOrderId = [1, 2] := by decide +kernel
  have hfills : ∀ clientOrderId,
      (Interrupted.bookedAtOnce.foldl (LedgerOp.step .strategyYaml) Interrupted.start).finalFill
          .qqq clientOrderId
        = (Interrupted.stopped.foldl (LedgerOp.step .strategyYaml) Interrupted.start).finalFill
            .qqq clientOrderId := by
    intro clientOrderId
    by_cases hlisted : clientOrderId ∈ [1, 2]
    · -- Two orders exist; every other id has no fill in either run.
      revert clientOrderId
      decide +kernel
    · rw [finalFill_eq_none .qqq (by rw [hkeys _ (by simp)]; exact hlisted),
        finalFill_eq_none .qqq (by rw [hkeys _ (by simp)]; exact hlisted)]
  have hlast : ∀ clientOrderId,
      ((Interrupted.bookedAtOnce.foldl (LedgerOp.step .strategyYaml) Interrupted.start).finalFill
        .qqq clientOrderId).isSome = true →
      BookedLast .strategyYaml Interrupted.start Interrupted.bookedAtOnce clientOrderId := by
    intro clientOrderId hfilled
    have hbooks : ∀ {result : Py (Repository ℕ)}, result.toBool = true →
        ∃ booked, result = .ok booked := by
      intro result hok
      cases result with
      | error error => cases hok
      | ok booked => exact ⟨booked, rfl⟩
    have hcore : ∀ {repo : Repository ℕ},
        ((repo.orders.get? clientOrderId).map fun row => row.purpose.isCore) = some true →
          repo.IsCoreOrder clientOrderId := by
      intro repo hmap
      exact Option.map_eq_some_iff.mp hmap
    by_cases hlisted : clientOrderId ∈ [1, 2]
    · -- The last observation of each order is booked by the call at this place.
      rcases List.mem_pair.mp hlisted with rfl | rfl
      · exact ⟨Interrupted.bookedAtOnce.take 9, [], rfl, hcore (by decide +kernel),
          hbooks (by decide +kernel), by decide⟩
      · exact ⟨Interrupted.bookedAtOnce.take 7, Interrupted.bookedAtOnce.drop 8, rfl,
          hcore (by decide +kernel), hbooks (by decide +kernel), by decide⟩
    · rw [finalFill_eq_none .qqq (by rw [hkeys _ (by simp)]; exact hlisted)] at hfilled
      cases hfilled
  have hbuys : Run.Along (LedgerOp.step .strategyYaml)
      (fun repo op => repo.booksSell .qqq op = false) Interrupted.start
      Interrupted.bookedAtOnce := by decide +kernel
  have hbuys' : Run.Along (LedgerOp.step .strategyYaml)
      (fun repo op => repo.booksSell .qqq op = false) Interrupted.start Interrupted.stopped := by
    decide +kernel
  obtain ⟨hqty, hcost⟩ := (core_fills_order_independent .strategyYaml hkept .qqq hbuys hbuys' hfills
    hlast).2 _ (Prod.ext rfl (by decide +kernel)) (by decide +kernel)
  rw [← hqty, ← hcost]
  constructor <;> decide +kernel

end JdHoldings

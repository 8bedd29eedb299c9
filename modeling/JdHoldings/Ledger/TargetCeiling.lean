import JdHoldings.Ledger.Operations

/-!
# Core BUYs stay within the frozen target

The shares of an allocation symbol that are held, plus the BUY shares that are
ordered or filled but not booked, never exceed the frozen target quantity.

A share moves through the three parts of that sum in separate transactions: a
reservation adds it to the committed quantity, a refresh turns it from pending
into filled inside the committed quantity, and a booking moves it to the held
quantity.  The step lemma follows the share: a reservation is measured against
the room that is left, an update never raises the commitment of an order, and a
booking moves exactly what it takes.

The one exception is a late fill.  `update_order` freezes the status of a
terminal order but lets its cumulative fill grow, so a cancelled order whose room
was given to another BUY can still come back with shares.  `LateFill` names that
step, and the ceiling holds in every run without it.
-/

namespace JdHoldings

variable {ι : Type}

/-- The target of a symbol is the frozen quantity and not a fresh calculation. -/
def Repository.TargetFrozen (repo : Repository ι) (symbol : AllocationSymbol) : Prop :=
  0 < (repo.core symbol).targetQty ∨ (repo.core symbol).targetWeight = 0

/-- Held plus committed shares of a symbol. -/
def Repository.heldPlusCommitted (repo : Repository ι) (symbol : AllocationSymbol) : ℕ :=
  (repo.core symbol).qty + repo.committedCoreBuyQuantity (.allocation symbol)

/-- Held plus committed shares fit into the frozen target. -/
def Repository.WithinTarget (repo : Repository ι) (symbol : AllocationSymbol) : Prop :=
  repo.heldPlusCommitted symbol ≤ (repo.core symbol).targetQty

instance (repo : Repository ι) (symbol : AllocationSymbol) : Decidable (repo.WithinTarget symbol) :=
  inferInstanceAs (Decidable (_ ≤ _))

namespace LedgerOp

/-- The step raises the cumulative fill of a terminal core BUY of the symbol. -/
def isLateFill [DecidableEq ι] (symbol : AllocationSymbol) (repo : Repository ι) : LedgerOp ι → Bool
  | .updateOrder clientOrderId update =>
      match repo.orders.get? clientOrderId with
      | none => false
      | some existing =>
          decide (existing.symbol = .allocation symbol) &&
            decide (existing.purpose = .coreRebalanceBuy) && existing.status.isTerminal &&
            decide (existing.filledQty < update.filledQty.getD existing.filledQty)
  | _ => false

end LedgerOp

/-! ## The commitment of one order -/

namespace OrderRow

theorem committedCoreBuy_of_side_sell {symbol : Symbol} {applied : ℕ} {row : OrderRow ι}
    (hside : row.side = .sell) : row.committedCoreBuy symbol applied = 0 := by
  simp [committedCoreBuy, hside]

theorem committedCoreBuy_of_symbol_ne {symbol : Symbol} {applied : ℕ} {row : OrderRow ι}
    (hsymbol : row.symbol ≠ symbol) : row.committedCoreBuy symbol applied = 0 := by
  simp [committedCoreBuy, hsymbol]

theorem committedCoreBuy_of_coreBuy {symbol : Symbol} {applied : ℕ} {row : OrderRow ι}
    (hsymbol : row.symbol = symbol) (hpurpose : row.purpose = .coreRebalanceBuy) :
    row.committedCoreBuy symbol applied
      = if row.status.isOpen then row.qty - applied else row.filledQty - applied :=
  if_pos ⟨hsymbol, side_of_coreRebalanceBuy hpurpose, hpurpose⟩

theorem committedCoreBuy_newRow_le (request : OrderRequest ι) (now : Timestamp) (symbol : Symbol)
    (applied : ℕ) : (request.newRow now).committedCoreBuy symbol applied ≤ request.quantity := by
  simp only [committedCoreBuy, OrderRequest.newRow, OrderStatus.isOpen, if_true]
  split
  · exact Nat.sub_le _ _
  · exact Nat.zero_le _

/-- An update that is not a late fill never raises the commitment of its order. -/
theorem Updated.committedCoreBuy_le {existing row : OrderRow ι} {status : OrderStatus}
    {update : OrderUpdate} {symbol : Symbol} (hupdated : existing.Updated row status update)
    (applied : ℕ)
    (hlate : existing.symbol = symbol → existing.purpose = .coreRebalanceBuy →
      existing.status.isTerminal = true → row.filledQty ≤ existing.filledQty) :
    row.committedCoreBuy symbol applied ≤ existing.committedCoreBuy symbol applied := by
  unfold committedCoreBuy
  rw [hupdated.symbol, hupdated.side, hupdated.purpose]
  split
  · rename_i hcore
    have hbound : row.filledQty ≤ existing.qty := hupdated.qty ▸ row.filled_le
    cases hterminal : existing.status.isTerminal with
    | true =>
        have hkeep := hlate hcore.1 hcore.2.2 hterminal
        simp only [hupdated.terminal hterminal, OrderStatus.isOpen_eq_not_isTerminal, hterminal]
        simp only [Bool.not_true, Bool.false_eq_true, if_false]
        omega
    | false =>
        simp only [OrderStatus.isOpen_eq_not_isTerminal, hterminal, hupdated.qty]
        split
        · simp
        · simp only [Bool.not_false, if_true]
          omega
  · exact le_refl 0

end OrderRow

/-! ## One step -/

variable [DecidableEq ι]

namespace LedgerOp

/-- A step never touches a frozen target. -/
theorem Effect.target_eq {config : StrategyConfig} {repo repo' : Repository ι} {op : LedgerOp ι}
    (heffect : Effect config repo op repo') (symbol : AllocationSymbol) :
    (repo'.core symbol).targetQty = (repo.core symbol).targetQty ∧
      (repo'.core symbol).targetWeight = (repo.core symbol).targetWeight := by
  cases heffect with
  | unchanged => exact ⟨rfl, rfl⟩
  | reservedBuy _ _ => exact ⟨rfl, rfl⟩
  | reservedSell _ => exact ⟨rfl, rfl⟩
  | updated _ _ => exact ⟨rfl, rfl⟩
  | @booked _ _ bookedSymbol row _ _ _ _ hbooked =>
      by_cases hsymbol : symbol = bookedSymbol
      · subst hsymbol
        rw [Repository.bookCoreFill_core_self]
        cases hbooked with
        | buy _ hfill => exact (CoreRow.buyFill_ok hfill).2.2.2
        | sell _ hfill => exact (CoreRow.sellFill_ok hfill).2
      · rw [Repository.bookCoreFill_core_of_ne _ _ _ _ hsymbol]
        exact ⟨rfl, rfl⟩

end LedgerOp

omit [DecidableEq ι] in
/-- What a core BUY is measured against is the frozen target. -/
theorem Repository.TargetFrozen.coreBuyTarget_eq {repo : Repository ι} {symbol : AllocationSymbol}
    (hfrozen : repo.TargetFrozen symbol) (config : StrategyConfig) (riskBudget price : Decimal) :
    repo.coreBuyTarget config riskBudget symbol price = (repo.core symbol).targetQty := by
  unfold Repository.coreBuyTarget
  split
  · rename_i hfresh
    rcases hfrozen with hqty | hweight
    · omega
    · rw [hweight] at hfresh
      exact absurd hfresh.2 (lt_irrefl 0)
  · rfl

section Insert

variable {repo : Repository ι} {request : OrderRequest ι} {now : Timestamp}
  {symbol : AllocationSymbol}

private theorem heldPlusCommitted_insert (fresh : repo.orders.get? request.clientOrderId = none) :
    Repository.heldPlusCommitted
        { repo with orders := (repo.orders.insertOrIgnore (request.newRow now)).1 } symbol
      = repo.heldPlusCommitted symbol
        + (request.newRow now).committedCoreBuy (.allocation symbol)
          (repo.appliedFilledQty request.clientOrderId) := by
  have hfresh : repo.orders.get? (request.newRow now).clientOrderId = none := fresh
  have hsum := Table.sum_insertOrIgnore
    (fun row => row.committedCoreBuy (.allocation symbol) (repo.appliedFilledQty row.clientOrderId))
    hfresh
  simp only [Repository.heldPlusCommitted, Repository.committedCoreBuyQuantity]
  rw [add_assoc]
  exact congrArg _ hsum

end Insert

private theorem heldPlusCommitted_replace {repo : Repository ι} {existing row : OrderRow ι}
    {status : OrderStatus} {update : OrderUpdate} {symbol : AllocationSymbol}
    (hget : repo.orders.get? existing.clientOrderId = some existing)
    (hupdated : existing.Updated row status update)
    (hlate : existing.symbol = .allocation symbol → existing.purpose = .coreRebalanceBuy →
      existing.status.isTerminal = true → row.filledQty ≤ existing.filledQty) :
    Repository.heldPlusCommitted { repo with orders := repo.orders.replace row } symbol
      ≤ repo.heldPlusCommitted symbol := by
  have hget' : repo.orders.get? row.clientOrderId = some existing := by
    rw [hupdated.clientOrderId]
    exact hget
  have hexchange := Table.sum_exchange
    (fun row => row.committedCoreBuy (.allocation symbol)
      (repo.appliedFilledQty row.clientOrderId))
    (fun row => row.committedCoreBuy (.allocation symbol)
      (repo.appliedFilledQty row.clientOrderId)) hget' (fun _ _ _ => rfl)
  have hrow := hupdated.committedCoreBuy_le
    (repo.appliedFilledQty existing.clientOrderId) hlate
  simp only [hupdated.clientOrderId] at hexchange
  have hcommitted : Repository.committedCoreBuyQuantity
      { repo with orders := repo.orders.replace row } (.allocation symbol)
        ≤ repo.committedCoreBuyQuantity (.allocation symbol) := by
    simp only [Repository.committedCoreBuyQuantity, Repository.appliedFilledQty] at hexchange hrow ⊢
    omega
  simpa [Repository.heldPlusCommitted] using hcommitted

/-- Booking moves shares from committed to held, or lowers the held shares. -/
private theorem heldPlusCommitted_book {repo : Repository ι} {order : OrderRow ι}
    {booked symbol : AllocationSymbol} {row : CoreRow}
    (hget : repo.orders.get? order.clientOrderId = some order)
    (hcore : order.purpose.isCore = true) (hsymbol : order.symbol = .allocation booked)
    (happlied : repo.appliedFilledQty order.clientOrderId ≤ order.filledQty)
    (hbooked : repo.CoreFillBooked booked order row) :
    (repo.bookCoreFill booked order row).heldPlusCommitted symbol
      ≤ repo.heldPlusCommitted symbol := by
  have hreweigh := Table.sum_reweigh
    (fun row => row.committedCoreBuy (.allocation symbol)
      (repo.appliedFilledQty row.clientOrderId))
    (fun other => other.committedCoreBuy (.allocation symbol)
      ((repo.bookCoreFill booked order row).appliedFilledQty other.clientOrderId)) hget
    (fun other _ hne => by
      rw [Repository.appliedFilledQty_bookCoreFill_of_ne _ _ _ _ hne])
  simp only [Repository.appliedFilledQty_bookCoreFill_self] at hreweigh
  simp only [Repository.heldPlusCommitted, Repository.committedCoreBuyQuantity,
    Repository.bookCoreFill_orders]
  -- The booked symbol takes the shares that stop being committed; the other symbols see nothing.
  by_cases hsame : symbol = booked
  · subst hsame
    rw [Repository.bookCoreFill_core_self]
    have hfilled := order.filled_le
    cases hbooked with
    | buy hside hfill =>
        obtain ⟨hqty, -⟩ := CoreRow.buyFill_ok hfill
        have hpurpose : order.purpose = .coreRebalanceBuy := by
          have hpurposeSide : order.purpose.side = .buy := order.side_eq ▸ hside
          cases hp : order.purpose <;> simp_all [Purpose.isCore, Purpose.side]
        rw [OrderRow.committedCoreBuy_of_coreBuy hsymbol hpurpose,
          OrderRow.committedCoreBuy_of_coreBuy hsymbol hpurpose] at hreweigh
        split at hreweigh <;> omega
    | sell hside hfill =>
        obtain ⟨hqty, -⟩ := CoreRow.sellFill_ok hfill
        simp only [OrderRow.committedCoreBuy_of_side_sell hside] at hreweigh
        omega
  · rw [Repository.bookCoreFill_core_of_ne _ _ _ _ hsame]
    have hne : order.symbol ≠ .allocation symbol := by
      rw [hsymbol]
      simpa using Ne.symm hsame
    simp only [OrderRow.committedCoreBuy_of_symbol_ne hne] at hreweigh
    omega

/-- A reservation that passed the target check leaves the symbol within it,
whatever was held or committed before. -/
private theorem withinTarget_of_reservation {config : StrategyConfig} {repo : Repository ι}
    {brokerAvailable : Decimal} {request : BuyRequest ι} {now : Timestamp}
    {rawCash riskBudget : Decimal} {symbol : AllocationSymbol}
    (hchecked : repo.ReservationChecked config brokerAvailable request rawCash riskBudget)
    (hfresh : repo.orders.get? request.clientOrderId = none)
    (hpurpose : request.purpose = .coreRebalanceBuy)
    (hsymbol : request.symbol = .allocation symbol) (hfrozen : repo.TargetFrozen symbol) :
    Repository.WithinTarget
      { repo with orders := (repo.orders.insertOrIgnore (request.newRow now)).1 } symbol := by
  obtain ⟨target, htarget, hroom⟩ := hchecked.target hpurpose
  obtain rfl : symbol = target := by simpa using hsymbol.symm.trans htarget
  rw [hfrozen.coreBuyTarget_eq, hsymbol] at hroom
  have hnew := OrderRow.committedCoreBuy_newRow_le request.toOrderRequest now (.allocation symbol)
    (repo.appliedFilledQty request.clientOrderId)
  have hpos := request.quantity_pos
  rw [Repository.WithinTarget, heldPlusCommitted_insert hfresh, Repository.heldPlusCommitted]
  change _ ≤ (repo.core symbol).targetQty
  omega

namespace LedgerOp

/-- Every step without a late fill keeps a symbol within its frozen target. -/
theorem Effect.withinTarget {config : StrategyConfig} {repo repo' : Repository ι} {op : LedgerOp ι}
    {symbol : AllocationSymbol} (heffect : Effect config repo op repo')
    (hfrozen : repo.TargetFrozen symbol) (hlate : op.isLateFill symbol repo = false)
    (hwithin : repo.WithinTarget symbol) : repo'.WithinTarget symbol := by
  have htarget := (heffect.target_eq symbol).1
  cases heffect with
  | unchanged => exact hwithin
  | @reservedBuy _ request now _ _ hchecked hfresh =>
      by_cases hcore : request.purpose = .coreRebalanceBuy ∧ request.symbol = .allocation symbol
      · exact withinTarget_of_reservation hchecked hfresh hcore.1 hcore.2 hfrozen
      · have hzero : (request.newRow now).committedCoreBuy (.allocation symbol)
            (repo.appliedFilledQty request.clientOrderId) = 0 :=
          if_neg fun h => hcore ⟨h.2.2, h.1⟩
        rw [Repository.WithinTarget, heldPlusCommitted_insert hfresh, hzero]
        exact hwithin
  | @reservedSell request hside now hfresh =>
      rw [Repository.WithinTarget, heldPlusCommitted_insert hfresh,
        OrderRow.committedCoreBuy_of_side_sell hside]
      exact hwithin
  | @updated clientOrderId update existing row status hget hupdated =>
      obtain rfl := Table.key_of_get? hget
      have hkeep : existing.symbol = .allocation symbol → existing.purpose = .coreRebalanceBuy →
          existing.status.isTerminal = true → row.filledQty ≤ existing.filledQty := by
        intro hsymbol hpurpose hterminal
        simp only [isLateFill, hget, hsymbol, hpurpose, hterminal, decide_true, Bool.and_true,
          Bool.true_and, decide_eq_false_iff_not, not_lt] at hlate
        rw [hupdated.filledQty]
        exact hlate
      exact (heldPlusCommitted_replace hget hupdated hkeep).trans hwithin
  | @booked clientOrderId order bookedSymbol row hget hcore hsymbol happlied hbooked =>
      obtain rfl := Table.key_of_get? hget
      rw [Repository.WithinTarget, htarget]
      exact (heldPlusCommitted_book hget hcore hsymbol happlied hbooked).trans hwithin

theorem Effect.targetFrozen {config : StrategyConfig} {repo repo' : Repository ι} {op : LedgerOp ι}
    {symbol : AllocationSymbol} (heffect : Effect config repo op repo')
    (hfrozen : repo.TargetFrozen symbol) : repo'.TargetFrozen symbol := by
  obtain ⟨hqty, hweight⟩ := heffect.target_eq symbol
  rwa [Repository.TargetFrozen, hqty, hweight]

/-- An accepted core BUY leaves its symbol within the frozen target. -/
theorem Accepts.withinTarget {config : StrategyConfig} {repo : Repository ι} {op : LedgerOp ι}
    {request : BuyRequest ι} {symbol : AllocationSymbol}
    (haccepts : op.Accepts config repo request) (hfrozen : repo.TargetFrozen symbol)
    (hpurpose : request.purpose = .coreRebalanceBuy)
    (hsymbol : request.symbol = .allocation symbol) :
    (step config repo op).WithinTarget symbol := by
  obtain ⟨_, now, _, _, _, hchecked, hfresh, hstep⟩ := haccepts.checked
  rw [hstep]
  exact withinTarget_of_reservation hchecked hfresh hpurpose hsymbol hfrozen

end LedgerOp

/-! ## Every run -/

/-- In a run without late fills, every step keeps a symbol with a frozen target
within it, every accepted core BUY brings it there, and so a run that starts
within the target ends within it. -/
theorem core_buys_within_frozen_target (config : StrategyConfig) (symbol : AllocationSymbol)
    (repo : Repository ι) (ops : List (LedgerOp ι)) (hfrozen : repo.TargetFrozen symbol)
    (hlate : Run.Along (LedgerOp.step config)
      (fun repo op => op.isLateFill symbol repo = false) repo ops) :
    Run.Along (LedgerOp.step config)
      (fun repo op =>
        (repo.WithinTarget symbol → (op.step config repo).WithinTarget symbol) ∧
          ∀ request, op.Accepts config repo request → request.purpose = .coreRebalanceBuy →
            request.symbol = .allocation symbol → (op.step config repo).WithinTarget symbol)
      repo ops ∧
      (repo.WithinTarget symbol → (ops.foldl (LedgerOp.step config) repo).WithinTarget symbol) := by
  refine ⟨hlate.imp (I := fun repo => repo.TargetFrozen symbol) ?_ ?_ hfrozen, fun hwithin => ?_⟩
  · intro repo op hfrozen _
    exact (LedgerOp.step_effect config repo op).targetFrozen hfrozen
  · intro repo op hfrozen hlate
    refine ⟨(LedgerOp.step_effect config repo op).withinTarget hfrozen hlate, ?_⟩
    intro request haccepts hpurpose hsymbol
    exact haccepts.withinTarget hfrozen hpurpose hsymbol
  · refine (hlate.invariant (I := fun repo => repo.TargetFrozen symbol ∧ repo.WithinTarget symbol)
      ?_ ⟨hfrozen, hwithin⟩).2
    rintro repo op ⟨hfrozen, hwithin⟩ hlate
    have heffect := LedgerOp.step_effect config repo op
    exact ⟨heffect.targetFrozen hfrozen, heffect.withinTarget hfrozen hlate hwithin⟩

/-! ## The late fill -/

namespace LateFill

/-- Ten QQQ shares are the frozen target. -/
def start : Repository ℕ := Repository.launched (SystemState.launched 10000 10000 10000) .qqq 10

theorem tenShares : 0 < 10 := by decide

/-- A BUY of the whole target is cancelled without a fill, and its room is given
to a second BUY. -/
def ops : List (LedgerOp ℕ) :=
  [.reserveBuy 10000 (.core 1 .qqq 10 100 tenShares) 1,
    .updateOrder 1 { status := .exact .canceled, filledQty := some 0 },
    .reserveBuy 10000 (.core 2 .qqq 10 100 tenShares) 2]

/-- The broker then reports shares of the cancelled order after all. -/
def lateFill : LedgerOp ℕ :=
  .updateOrder 1 { status := .exact .canceled, filledQty := some 4, averageFillPrice := some 100 }

end LateFill

/-- A late fill leaves more shares held and committed than the frozen target. -/
theorem late_fill_exceeds_target :
    (LateFill.ops.foldl (LedgerOp.step .strategyYaml) LateFill.start).TargetFrozen .qqq ∧
      (LateFill.ops.foldl (LedgerOp.step .strategyYaml) LateFill.start).WithinTarget .qqq ∧
      ¬(LateFill.lateFill.step .strategyYaml
        (LateFill.ops.foldl (LedgerOp.step .strategyYaml) LateFill.start)).WithinTarget .qqq := by
  refine ⟨Or.inl ?_, ?_, ?_⟩ <;> decide +kernel

theorem core_buys_within_frozen_target_of_ops :
    (LateFill.ops.foldl (LedgerOp.step .strategyYaml) LateFill.start).WithinTarget .qqq :=
  (core_buys_within_frozen_target .strategyYaml .qqq LateFill.start LateFill.ops
    (Or.inl (by decide)) (by decide +kernel)).2 (by decide +kernel)

end JdHoldings

import JdHoldings.Application.Database

/-!
# The SGOV position

`apply_idle_cash_fill` books the fills of the orders that keep idle capital in SGOV.  The
row of `idle_cash_state` is written where shares have been added to the order, the row of
`idle_cash_fill_progress` every time (`applyIdleCashFill_ok`).
-/

namespace JdHoldings

/-- `purpose.startswith("SGOV_")`. -/
def Purpose.isSgov : Purpose → Bool
  | .sgovSweepBuy | .sgovEntryRelease => true
  | _ => false

/-- What `apply_idle_cash_fill` reads and writes: the repository, the symbol of its only row of
`idle_cash_state`, the rows of `idle_cash_fill_progress`, and the orders marked as applied. -/
structure IdleCashLedger (ι : Type) where
  repo : Repository ι
  idleSymbol : Symbol
  fillProgress : ι → Option FillProgress := fun _ => none
  applied : ι → Bool := fun _ => false

/-- What a fill of SGOV does to the position. -/
def IdleCashState.fill (state : IdleCashState) (side : Side) (deltaQty : ℕ)
    (deltaNotional : Decimal) : Py IdleCashState :=
  match side with
  | .buy =>
      let newQty := state.managedQuantity + deltaQty
      .ok {
        managedQuantity := newQty
        averagePrice := (state.averagePrice * state.managedQuantity + deltaNotional) / newQty }
  | .sell =>
      if state.managedQuantity < deltaQty then
        .error (.stateConflict "JDSS 관리 SGOV 수량보다 많은 매도 체결입니다")
      else
        let managedQty := state.managedQuantity - deltaQty
        .ok {
          managedQuantity := managedQty
          averagePrice := if managedQty = 0 then 0 else state.averagePrice }

namespace IdleCashLedger

variable {ι : Type} [DecidableEq ι]

def appliedQty (ledger : IdleCashLedger ι) (clientOrderId : ι) : ℕ :=
  ((ledger.fillProgress clientOrderId).map FillProgress.appliedFilledQty).getD 0

def appliedNotional (ledger : IdleCashLedger ι) (clientOrderId : ι) : Decimal :=
  ((ledger.fillProgress clientOrderId).map FillProgress.appliedNotional).getD 0

/-- The writes that end `apply_idle_cash_fill`. -/
def bookFill (ledger : IdleCashLedger ι) (order : OrderRow ι) (state : IdleCashState) :
    IdleCashLedger ι :=
  let notional :=
    if 0 < order.filledQty then order.cumulativeNotional
    else ledger.appliedNotional order.clientOrderId
  { ledger with
    repo := { ledger.repo with idleCash := state }
    fillProgress := Function.update ledger.fillProgress order.clientOrderId
      (some ⟨order.filledQty, notional⟩)
    applied :=
      if order.status.isTerminal then Function.update ledger.applied order.clientOrderId true
      else ledger.applied }

/-- `apply_idle_cash_fill`. -/
def applyIdleCashFill (ledger : IdleCashLedger ι) (clientOrderId : ι) : Py (IdleCashLedger ι) :=
  match ledger.repo.orders.get? clientOrderId with
  | none => .error .key
  | some order =>
      if order.purpose.isSgov = false then .error (.value "SGOV 자금관리 주문이 아닙니다")
      else if order.symbol ≠ ledger.idleSymbol then .error .key
      else if order.filledQty < ledger.appliedQty clientOrderId then
        .error (.stateConflict "SGOV 누적 체결수량이 이전 반영값보다 작습니다")
      else
        let deltaQty := order.filledQty - ledger.appliedQty clientOrderId
        if 0 < deltaQty then
          let deltaNotional := order.cumulativeNotional - ledger.appliedNotional clientOrderId
          if deltaNotional < 0 then
            .error (.stateConflict "SGOV 누적 체결금액이 이전 반영값보다 작습니다")
          else
            (ledger.repo.idleCash.fill order.side deltaQty deltaNotional).map
              (ledger.bookFill order)
        else .ok (ledger.bookFill order ledger.repo.idleCash)

section BookFill

variable (ledger : IdleCashLedger ι) (order : OrderRow ι) (state : IdleCashState)

@[simp] theorem bookFill_orders : (ledger.bookFill order state).repo.orders = ledger.repo.orders :=
  rfl

@[simp] theorem bookFill_idleCash : (ledger.bookFill order state).repo.idleCash = state := rfl

@[simp] theorem appliedQty_bookFill_self :
    (ledger.bookFill order state).appliedQty order.clientOrderId = order.filledQty := by
  simp [bookFill, appliedQty]

theorem appliedQty_bookFill_of_ne {other : ι} (hne : other ≠ order.clientOrderId) :
    (ledger.bookFill order state).appliedQty other = ledger.appliedQty other := by
  simp [bookFill, appliedQty, hne]

theorem appliedNotional_bookFill_self :
    (ledger.bookFill order state).appliedNotional order.clientOrderId =
      if 0 < order.filledQty then order.cumulativeNotional
      else ledger.appliedNotional order.clientOrderId := by
  simp [bookFill, appliedNotional]

theorem appliedNotional_bookFill_of_ne {other : ι} (hne : other ≠ order.clientOrderId) :
    (ledger.bookFill order state).appliedNotional other = ledger.appliedNotional other := by
  simp [bookFill, appliedNotional, hne]

end BookFill

/-- A booking: what it needs of the order, and the position it leaves. -/
inductive FillBooked (ledger : IdleCashLedger ι) (order : OrderRow ι) : IdleCashState → Prop
  | added {state : IdleCashState}
      (more : ledger.appliedQty order.clientOrderId < order.filledQty)
      (filled : ledger.repo.idleCash.fill order.side
        (order.filledQty - ledger.appliedQty order.clientOrderId)
        (order.cumulativeNotional - ledger.appliedNotional order.clientOrderId) = .ok state) :
      FillBooked ledger order state
  /-- No share has been added: the position stays, whatever the notional. -/
  | same (equal : order.filledQty = ledger.appliedQty order.clientOrderId) :
      FillBooked ledger order ledger.repo.idleCash

/-- What a committed `apply_idle_cash_fill` has done. -/
theorem applyIdleCashFill_ok {ledger ledger' : IdleCashLedger ι} {clientOrderId : ι}
    (hok : ledger.applyIdleCashFill clientOrderId = .ok ledger') :
    ∃ order state, ledger.repo.orders.get? clientOrderId = some order ∧
      order.purpose.isSgov = true ∧ order.symbol = ledger.idleSymbol ∧
      ledger.FillBooked order state ∧ ledger' = ledger.bookFill order state := by
  unfold applyIdleCashFill at hok
  split at hok
  · cases hok
  next order hget =>
    have hkey := Table.key_of_get? hget
    split at hok
    · cases hok
    next hsgov =>
      split at hok
      · cases hok
      next hsymbol =>
        split at hok
        · cases hok
        next hmono =>
          rw [Bool.not_eq_false] at hsgov
          rw [not_not] at hsymbol
          simp only at hok
          split at hok
          next hmore =>
            split at hok
            · cases hok
            · cases hfill : ledger.repo.idleCash.fill order.side
                (order.filledQty - ledger.appliedQty clientOrderId)
                (order.cumulativeNotional - ledger.appliedNotional clientOrderId) with
              | error error =>
                  rw [hfill] at hok
                  cases hok
              | ok state =>
                  rw [hfill] at hok
                  refine ⟨order, state, hget, hsgov, hsymbol, .added ?_ ?_,
                    (Except.ok.inj hok).symm⟩
                  · rw [hkey]
                    omega
                  · rw [hkey]
                    exact hfill
          next hsame =>
            refine ⟨order, _, hget, hsgov, hsymbol, .same ?_, (Except.ok.inj hok).symm⟩
            rw [hkey]
            omega

end IdleCashLedger

end JdHoldings

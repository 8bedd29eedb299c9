import JdHoldings.Application.IdleCash
import JdHoldings.Library.Runs

/-!
# The SGOV position and its orders

SGOV BUY orders are reserved, updated and booked, in any order and as often as one likes.
The progress rows say what is booked of each order, and the position should hold just that
(`Recorded`).

A booking that adds shares keeps the two together, and so does one that finds nothing new.
A booking that finds another notional at the same quantity writes it into the progress row
only (`correctsNotional`): `apply_core_fill` moves the cost basis by the difference,
`apply_idle_cash_fill` leaves the average price as it was.  The position holds what the
progress rows say in every state of a run exactly when no such booking is made
(`idle_cash_follows_orders_iff`).
-/

namespace JdHoldings

/-- One transaction on SGOV orders. -/
inductive IdleCashOp (ι : Type) where
  | reserveOrder (request : OrderRequest ι) (now : Timestamp)
  | updateOrder (clientOrderId : ι) (update : OrderUpdate)
  | applyIdleCashFill (clientOrderId : ι)

namespace IdleCashLedger

variable {ι : Type} [DecidableEq ι]

def exec (ledger : IdleCashLedger ι) : IdleCashOp ι → Py (IdleCashLedger ι)
  | .reserveOrder request now =>
      .ok { ledger with repo := (ledger.repo.reserveOrder request now).1 }
  | .updateOrder clientOrderId update =>
      (ledger.repo.updateOrder clientOrderId update).map fun repo => { ledger with repo := repo }
  | .applyIdleCashFill clientOrderId => ledger.applyIdleCashFill clientOrderId

/-- The ledger after the transaction, which raising rolls back. -/
def step (ledger : IdleCashLedger ι) (op : IdleCashOp ι) : IdleCashLedger ι :=
  match ledger.exec op with
  | .ok ledger' => ledger'
  | .error _ => ledger

/-- What one step did. -/
inductive Effect (ledger : IdleCashLedger ι) : IdleCashOp ι → IdleCashLedger ι → Prop
  | unchanged {op : IdleCashOp ι} : Effect ledger op ledger
  | reserved {request : OrderRequest ι} {now : Timestamp}
      (fresh : ledger.repo.orders.get? request.clientOrderId = none) :
      Effect ledger (.reserveOrder request now) { ledger with
        repo := { ledger.repo with
          orders := (ledger.repo.orders.insertOrIgnore (request.newRow now)).1 } }
  | updated {clientOrderId : ι} {update : OrderUpdate} {existing row : OrderRow ι}
      {status : OrderStatus} (found : ledger.repo.orders.get? clientOrderId = some existing)
      (updated : existing.Updated row status update) :
      Effect ledger (.updateOrder clientOrderId update) { ledger with
        repo := { ledger.repo with orders := ledger.repo.orders.replace row } }
  | booked {clientOrderId : ι} {order : OrderRow ι} {state : IdleCashState}
      (found : ledger.repo.orders.get? clientOrderId = some order)
      (sgov : order.purpose.isSgov = true) (symbol : order.symbol = ledger.idleSymbol)
      (booked : ledger.FillBooked order state) :
      Effect ledger (.applyIdleCashFill clientOrderId) (ledger.bookFill order state)

theorem step_effect (ledger : IdleCashLedger ι) (op : IdleCashOp ι) :
    ledger.Effect op (ledger.step op) := by
  unfold step
  cases hexec : ledger.exec op with
  | error error => exact .unchanged
  | ok ledger' =>
      cases op with
      | reserveOrder request now =>
          cases hexec
          simp only [Repository.reserveOrder]
          cases hget : ledger.repo.orders.get? request.clientOrderId with
          | none => exact .reserved hget
          | some old =>
              have hignored : ledger.repo.orders.insertOrIgnore (request.newRow now) =
                  (ledger.repo.orders, false) := Table.insertOrIgnore_of_some hget
              rw [hignored]
              exact .unchanged
      | updateOrder clientOrderId update =>
          cases hupdate : ledger.repo.updateOrder clientOrderId update with
          | error error =>
              simp only [exec, hupdate] at hexec
              cases hexec
          | ok repo =>
              simp only [exec, hupdate] at hexec
              obtain ⟨existing, row, status, hget, hupdated, rfl⟩ := Repository.updateOrder_ok hupdate
              obtain rfl := Except.ok.inj hexec
              exact .updated hget hupdated
      | applyIdleCashFill clientOrderId =>
          obtain ⟨order, state, hget, hsgov, hsymbol, hbooked, rfl⟩ := applyIdleCashFill_ok hexec
          exact .booked hget hsgov hsymbol hbooked

/-! ## The BUY orders and the position -/

/-- The sum of a figure of the SGOV BUY orders. -/
def sweeps (ledger : IdleCashLedger ι) (figure : OrderRow ι → Decimal) : Decimal :=
  ledger.repo.orders.sum fun row => if row.purpose = .sgovSweepBuy then figure row else 0

/-- The position holds what is booked of the orders. -/
structure Recorded (ledger : IdleCashLedger ι) : Prop where
  qty : (ledger.repo.idleCash.managedQuantity : Decimal) =
    ledger.sweeps fun row => ledger.appliedQty row.clientOrderId
  notional : ledger.repo.idleCash.managedQuantity * ledger.repo.idleCash.averagePrice =
    ledger.sweeps fun row => ledger.appliedNotional row.clientOrderId

/-- The position holds what the orders have filled at last. -/
structure FollowsOrders (ledger : IdleCashLedger ι) : Prop where
  qty : (ledger.repo.idleCash.managedQuantity : Decimal) = ledger.sweeps fun row => row.filledQty
  notional : ledger.repo.idleCash.managedQuantity * ledger.repo.idleCash.averagePrice =
    ledger.sweeps OrderRow.cumulativeNotional

/-- Every BUY order is recorded as booked as it stands. -/
def AllBooked (ledger : IdleCashLedger ι) : Prop :=
  ∀ row ∈ ledger.repo.orders, row.purpose = .sgovSweepBuy →
    ledger.appliedQty row.clientOrderId = row.filledQty ∧
      ledger.appliedNotional row.clientOrderId = row.cumulativeNotional

instance (ledger : IdleCashLedger ι) : Decidable ledger.AllBooked :=
  inferInstanceAs (Decidable (∀ row ∈ ledger.repo.orders.rows, row.purpose = .sgovSweepBuy →
    ledger.appliedQty row.clientOrderId = row.filledQty ∧
      ledger.appliedNotional row.clientOrderId = row.cumulativeNotional))

/-- Bookings are of BUY orders. -/
def BooksBuy (ledger : IdleCashLedger ι) : IdleCashOp ι → Prop
  | .applyIdleCashFill clientOrderId =>
      ∀ order ∈ ledger.repo.orders.get? clientOrderId, order.side = .buy
  | _ => True

instance (ledger : IdleCashLedger ι) (op : IdleCashOp ι) : Decidable (ledger.BooksBuy op) :=
  match op with
  | .applyIdleCashFill clientOrderId =>
      inferInstanceAs
        (Decidable (∀ order ∈ ledger.repo.orders.get? clientOrderId, order.side = .buy))
  | .reserveOrder _ _ => .isTrue trivial
  | .updateOrder _ _ => .isTrue trivial

/-- The operation books another notional at the quantity booked. -/
def correctsNotional (ledger : IdleCashLedger ι) : IdleCashOp ι → Bool
  | .applyIdleCashFill clientOrderId =>
      match ledger.repo.orders.get? clientOrderId with
      | some order =>
          order.purpose.isSgov && decide (order.symbol = ledger.idleSymbol) &&
            decide (0 < order.filledQty) &&
            decide (order.filledQty = ledger.appliedQty clientOrderId) &&
            decide (order.cumulativeNotional ≠ ledger.appliedNotional clientOrderId)
      | none => false
  | _ => false

/-- Only orders have progress, the foreign key of the table. -/
def WellKept (ledger : IdleCashLedger ι) : Prop :=
  ∀ clientOrderId, ledger.repo.orders.get? clientOrderId = none →
    ledger.fillProgress clientOrderId = none

omit [DecidableEq ι] in
theorem Recorded.followsOrders {ledger : IdleCashLedger ι} (hrecorded : ledger.Recorded)
    (hbooked : ledger.AllBooked) : ledger.FollowsOrders := by
  constructor
  · rw [hrecorded.qty]
    refine Table.sum_congr fun row hrow => ?_
    by_cases hsweep : row.purpose = .sgovSweepBuy
    · simp only [if_pos hsweep, (hbooked row hrow hsweep).1]
    · rw [if_neg hsweep, if_neg hsweep]
  · rw [hrecorded.notional]
    refine Table.sum_congr fun row hrow => ?_
    by_cases hsweep : row.purpose = .sgovSweepBuy
    · simp only [if_pos hsweep, (hbooked row hrow hsweep).2]
    · rw [if_neg hsweep, if_neg hsweep]

/-- A BUY adds its shares and its notional to the position. -/
theorem fill_buy {state state' : IdleCashState} {deltaQty : ℕ} {deltaNotional : Decimal}
    (hmore : 0 < deltaQty) (hfill : state.fill .buy deltaQty deltaNotional = .ok state') :
    state'.managedQuantity = state.managedQuantity + deltaQty ∧
      state'.managedQuantity * state'.averagePrice =
        state.managedQuantity * state.averagePrice + deltaNotional := by
  obtain rfl := Except.ok.inj hfill
  have hshares : ((state.managedQuantity + deltaQty : ℕ) : Decimal) ≠ 0 :=
    Nat.cast_ne_zero.mpr (by omega)
  refine ⟨rfl, ?_⟩
  simp only
  rw [mul_div_cancel₀ _ hshares, mul_comm state.averagePrice]

/-- A booking moves a sum over the orders by what it moves at its own order. -/
theorem sweeps_bookFill {ledger : IdleCashLedger ι} {order : OrderRow ι} (state : IdleCashState)
    (hget : ledger.repo.orders.get? order.clientOrderId = some order)
    (hsweep : order.purpose = .sgovSweepBuy) (figure figure' : OrderRow ι → Decimal)
    (hoff : ∀ other ∈ ledger.repo.orders, other.clientOrderId ≠ order.clientOrderId →
      figure' other = figure other) :
    (ledger.bookFill order state).sweeps figure' + figure order =
      ledger.sweeps figure + figure' order := by
  have hreweigh := Table.sum_reweigh
    (fun row => if row.purpose = .sgovSweepBuy then figure row else 0)
    (fun row => if row.purpose = .sgovSweepBuy then figure' row else 0) hget
    fun other hother hne => by simp only [hoff other hother hne]
  simp only [if_pos hsweep] at hreweigh
  exact hreweigh

omit [DecidableEq ι] in
theorem sgovSweepBuy_of_side {order : OrderRow ι} (hsgov : order.purpose.isSgov = true)
    (hside : order.side = .buy) : order.purpose = .sgovSweepBuy := by
  have hpurpose := order.side_eq
  cases hp : order.purpose <;> simp_all [Purpose.isSgov, Purpose.side]

theorem WellKept.step {ledger : IdleCashLedger ι} (hkept : ledger.WellKept) (op : IdleCashOp ι) :
    (ledger.step op).WellKept := by
  have heffect := ledger.step_effect op
  generalize ledger.step op = ledger' at heffect
  intro other hnone
  cases heffect with
  | unchanged => exact hkept other hnone
  | @reserved request now fresh =>
      refine hkept other (Option.not_isSome_iff_eq_none.mp fun hsome => ?_)
      have hstill : ((ledger.repo.orders.insertOrIgnore (request.newRow now)).1.get? other).isSome =
          true := Table.isSome_get?_insertOrIgnore hsome
      rw [hnone] at hstill
      cases hstill
  | @updated clientOrderId update existing row status found updated =>
      have hkey : row.clientOrderId = clientOrderId :=
        updated.clientOrderId.trans (Table.key_of_get? found)
      refine hkept other (Option.not_isSome_iff_eq_none.mp fun hsome => ?_)
      have hfound : ledger.repo.orders.get? row.clientOrderId = some existing := by
        rw [hkey, found]
      have hstill := Table.isSome_get?_replace other hfound
      rw [hsome, hnone] at hstill
      cases hstill
  | @booked clientOrderId order state found sgov symbol booked =>
      have hne : other ≠ order.clientOrderId := by
        rintro rfl
        rw [Table.key_of_get? found] at hnone
        rw [bookFill_orders, found] at hnone
        cases hnone
      rw [bookFill]
      simp only [Function.update_of_ne hne]
      exact hkept other hnone

/-- A booking that adds shares, or finds nothing new, keeps position and progress together. -/
theorem Recorded.bookFill {ledger : IdleCashLedger ι} (hrecorded : ledger.Recorded)
    {order : OrderRow ι} {state : IdleCashState}
    (hget : ledger.repo.orders.get? order.clientOrderId = some order)
    (hsweep : order.purpose = .sgovSweepBuy) (hside : order.side = .buy)
    (hbooked : ledger.FillBooked order state)
    (hkeeps : 0 < order.filledQty → order.filledQty = ledger.appliedQty order.clientOrderId →
      order.cumulativeNotional = ledger.appliedNotional order.clientOrderId) :
    (ledger.bookFill order state).Recorded := by
  have hqty := sweeps_bookFill state hget hsweep
    (fun row => (ledger.appliedQty row.clientOrderId : Decimal))
    (fun row => ((ledger.bookFill order state).appliedQty row.clientOrderId : Decimal))
    fun other _ hne => by simp only [appliedQty_bookFill_of_ne _ _ _ hne]
  have hnotional := sweeps_bookFill state hget hsweep
    (fun row => ledger.appliedNotional row.clientOrderId)
    (fun row => (ledger.bookFill order state).appliedNotional row.clientOrderId)
    fun other _ hne => by simp only [appliedNotional_bookFill_of_ne _ _ _ hne]
  simp only [appliedQty_bookFill_self, appliedNotional_bookFill_self] at hqty hnotional
  cases hbooked with
  | added more filled =>
      -- New shares come with their notional.
      rw [hside] at filled
      have hpositive : 0 < order.filledQty := by omega
      obtain ⟨hstateQty, hstateNotional⟩ := fill_buy (by omega) filled
      rw [if_pos hpositive] at hnotional
      constructor
      · rw [bookFill_idleCash, hstateQty]
        push_cast [Nat.cast_sub more.le]
        linarith [hrecorded.qty]
      · rw [bookFill_idleCash, hstateNotional]
        linarith [hrecorded.notional]
  | same equal =>
      -- No new shares: the notional stays what it was, and so must the figure booked.
      constructor
      · rw [bookFill_idleCash]
        rw [equal] at hqty
        linarith [hrecorded.qty]
      · rw [bookFill_idleCash]
        have hsame : (if 0 < order.filledQty then order.cumulativeNotional
            else ledger.appliedNotional order.clientOrderId) =
              ledger.appliedNotional order.clientOrderId := by
          split
          next hpositive => exact hkeeps hpositive equal
          next => rfl
        rw [hsame] at hnotional
        linarith [hrecorded.notional]

theorem correctsNotional_eq_true {ledger : IdleCashLedger ι} {op : IdleCashOp ι} :
    ledger.correctsNotional op = true ↔
      ∃ clientOrderId order, op = .applyIdleCashFill clientOrderId ∧
        ledger.repo.orders.get? clientOrderId = some order ∧ order.purpose.isSgov = true ∧
        order.symbol = ledger.idleSymbol ∧ 0 < order.filledQty ∧
        order.filledQty = ledger.appliedQty clientOrderId ∧
        order.cumulativeNotional ≠ ledger.appliedNotional clientOrderId := by
  cases op with
  | applyIdleCashFill clientOrderId =>
      cases hget : ledger.repo.orders.get? clientOrderId with
      | none => simp [correctsNotional, hget]
      | some order => simp [correctsNotional, hget, and_assoc]
  | _ => simp [correctsNotional]

/-- A step that corrects nothing keeps position and progress together. -/
theorem Recorded.step {ledger : IdleCashLedger ι} (hrecorded : ledger.Recorded)
    (hkept : ledger.WellKept) {op : IdleCashOp ι} (hbuy : ledger.BooksBuy op)
    (hkeeps : ledger.correctsNotional op = false) : (ledger.step op).Recorded := by
  have heffect := ledger.step_effect op
  generalize ledger.step op = ledger' at heffect
  cases heffect with
  | unchanged => exact hrecorded
  | @reserved request now fresh =>
      -- A new order has no progress, so both sums stay.
      have hnone := hkept _ fresh
      constructor
      · refine hrecorded.qty.trans ?_
        rw [sweeps, sweeps, Table.sum_insertOrIgnore _ fresh]
        simp [appliedQty, OrderRequest.newRow, hnone]
      · refine hrecorded.notional.trans ?_
        rw [sweeps, sweeps, Table.sum_insertOrIgnore _ fresh]
        simp [appliedNotional, OrderRequest.newRow, hnone]
  | @updated clientOrderId update existing row status found updated =>
      -- An update writes the order, never its progress.
      have hkey : row.clientOrderId = clientOrderId :=
        updated.clientOrderId.trans (Table.key_of_get? found)
      have hsum : ∀ figure : ι → Decimal,
          (ledger.repo.orders.replace row).sum
            (fun row => if row.purpose = .sgovSweepBuy then figure row.clientOrderId else 0) =
          ledger.repo.orders.sum
            fun row => if row.purpose = .sgovSweepBuy then figure row.clientOrderId else 0 := by
        intro figure
        have hexchange := Table.sum_exchange
          (fun row : OrderRow ι =>
            if row.purpose = .sgovSweepBuy then figure row.clientOrderId else 0)
          (fun row => if row.purpose = .sgovSweepBuy then figure row.clientOrderId else 0)
          (hkey.symm ▸ found) fun _ _ _ => rfl
        rw [updated.purpose, updated.clientOrderId] at hexchange
        exact add_right_cancel hexchange
      exact ⟨hrecorded.qty.trans (hsum fun key => ledger.appliedQty key).symm,
        hrecorded.notional.trans (hsum ledger.appliedNotional).symm⟩
  | @booked clientOrderId order state found sgov symbol booked =>
      have hside := hbuy order found
      have hkey := Table.key_of_get? found
      refine hrecorded.bookFill (hkey.symm ▸ found) (sgovSweepBuy_of_side sgov hside) hside booked ?_
      intro hpositive hsame
      by_contra hdiffers
      rw [hkey] at hsame hdiffers
      have hcorrects := correctsNotional_eq_true.mpr
        ⟨clientOrderId, order, rfl, found, sgov, symbol, hpositive, hsame, hdiffers⟩
      exact absurd (hcorrects.symm.trans hkeeps) (by decide)

/-- A step that corrects the notional parts them. -/
theorem Recorded.step_correctsNotional {ledger : IdleCashLedger ι} (hrecorded : ledger.Recorded)
    {op : IdleCashOp ι} (hbuy : ledger.BooksBuy op)
    (hcorrects : ledger.correctsNotional op = true) : ¬(ledger.step op).Recorded := by
  obtain ⟨clientOrderId, order, rfl, hget, hsgov, hsymbol, hpositive, hsame, hdiffers⟩ :=
    correctsNotional_eq_true.mp hcorrects
  have hkey := Table.key_of_get? hget
  have hsweep := sgovSweepBuy_of_side hsgov (hbuy order hget)
  have hstep : ledger.step (.applyIdleCashFill clientOrderId) =
      ledger.bookFill order ledger.repo.idleCash := by
    simp only [IdleCashLedger.step, exec, applyIdleCashFill, hget, hsgov, hsymbol, hsame,
      lt_irrefl, if_false, Nat.sub_self, ne_eq, not_true_eq_false, Bool.true_eq_false]
  rw [hstep]
  intro hafter
  have hnotional := sweeps_bookFill ledger.repo.idleCash (hkey.symm ▸ hget) hsweep
    (fun row => ledger.appliedNotional row.clientOrderId)
    (fun row => (ledger.bookFill order ledger.repo.idleCash).appliedNotional row.clientOrderId)
    fun other _ hne => by simp only [appliedNotional_bookFill_of_ne _ _ _ hne]
  simp only [appliedNotional_bookFill_self, if_pos hpositive] at hnotional
  have hheld := hafter.notional
  rw [bookFill_idleCash, hrecorded.notional] at hheld
  rw [← hheld, hkey] at hnotional
  exact hdiffers (add_left_cancel hnotional).symm

/-- The position of an idle-cash row that nothing has been booked into. -/
structure Fresh (ledger : IdleCashLedger ι) : Prop where
  position : ledger.repo.idleCash = {}
  progress : ∀ clientOrderId, ledger.fillProgress clientOrderId = none

omit [DecidableEq ι] in
theorem Fresh.recorded {ledger : IdleCashLedger ι} (hfresh : ledger.Fresh) : ledger.Recorded := by
  have hsum : ∀ figure : OrderRow ι → Decimal, (∀ row, figure row = 0) → ledger.sweeps figure = 0 := by
    intro figure hzero
    refine List.sum_eq_zero fun weight hweight => ?_
    obtain ⟨row, -, rfl⟩ := List.mem_map.mp hweight
    simp [hzero]
  constructor
  · rw [hsum _ fun row => by simp [appliedQty, hfresh.progress], hfresh.position]
    rfl
  · rw [hsum _ fun row => by simp [appliedNotional, hfresh.progress], hfresh.position]
    simp

section Runs

variable {ledger : IdleCashLedger ι} {ops : List (IdleCashOp ι)}

/-- A run of BUY bookings that corrects nothing keeps position and progress together. -/
theorem Recorded.foldl (hrecorded : ledger.Recorded) (hkept : ledger.WellKept)
    (hbuys : Run.Along IdleCashLedger.step BooksBuy ledger ops)
    (hkeeps : Run.Along IdleCashLedger.step (fun ledger op => ledger.correctsNotional op = false)
      ledger ops) : (ops.foldl IdleCashLedger.step ledger).Recorded := by
  have hboth := (hbuys.and hkeeps).invariant
    (I := fun ledger => ledger.Recorded ∧ ledger.WellKept)
    (fun state op hstate hop => ⟨hstate.1.step hstate.2 hop.1 hop.2, hstate.2.step op⟩)
    ⟨hrecorded, hkept⟩
  exact hboth.1

/-- Conversely, the first correction parts them. -/
theorem Recorded.along (hrecorded : ledger.Recorded) (hkept : ledger.WellKept)
    (hbuys : Run.Along IdleCashLedger.step BooksBuy ledger ops)
    (hall : ∀ front back, ops = front ++ back →
      (front.foldl IdleCashLedger.step ledger).Recorded) :
    Run.Along IdleCashLedger.step (fun ledger op => ledger.correctsNotional op = false)
      ledger ops := by
  induction ops generalizing ledger with
  | nil => trivial
  | cons op ops ih =>
      obtain ⟨hbuy, hbuys⟩ := hbuys
      have hnext : (ledger.step op).Recorded := hall [op] ops rfl
      refine ⟨Bool.eq_false_iff.mpr fun hcorrects => ?_, ih hnext (hkept.step op) hbuys ?_⟩
      · exact hrecorded.step_correctsNotional hbuy hcorrects hnext
      · rintro front back rfl
        exact hall (op :: front) back rfl

/-- A run of reservations, updates and bookings of SGOV BUY orders keeps the position at what is
booked of the orders exactly when no booking finds another notional at the quantity it has
booked; and then, wherever every order is booked as it stands, the position holds what the
orders have filled. -/
theorem idle_cash_follows_orders_iff (hfresh : ledger.Fresh)
    (hbuys : Run.Along IdleCashLedger.step BooksBuy ledger ops) :
    ((∀ front back, ops = front ++ back → (front.foldl IdleCashLedger.step ledger).Recorded) ↔
      Run.Along IdleCashLedger.step (fun ledger op => ledger.correctsNotional op = false)
        ledger ops) ∧
    (Run.Along IdleCashLedger.step (fun ledger op => ledger.correctsNotional op = false)
        ledger ops →
      ∀ front back, ops = front ++ back → (front.foldl IdleCashLedger.step ledger).AllBooked →
        (front.foldl IdleCashLedger.step ledger).FollowsOrders) := by
  have hkept : ledger.WellKept := fun clientOrderId _ => hfresh.progress clientOrderId
  have hrecorded : ∀ front back, ops = front ++ back →
      Run.Along IdleCashLedger.step (fun ledger op => ledger.correctsNotional op = false)
        ledger ops → (front.foldl IdleCashLedger.step ledger).Recorded := by
    rintro front back rfl hkeeps
    exact hfresh.recorded.foldl hkept hbuys.of_append hkeeps.of_append
  refine ⟨⟨hfresh.recorded.along hkept hbuys, fun hkeeps front back happend => ?_⟩, ?_⟩
  · exact hrecorded front back happend hkeeps
  · intro hkeeps front back happend hbooked
    exact (hrecorded front back happend hkeeps).followsOrders hbooked

end Runs

namespace Corrected

def start : IdleCashLedger ℕ where
  repo := Repository.initial ℕ
  idleSymbol := .other 1

/-- A BUY of ten shares of SGOV. -/
def sweep : OrderRequest ℕ where
  clientOrderId := 1
  symbol := .other 1
  side := .buy
  orderType := .limit
  quantity := 10
  price := some 101
  purpose := .sgovSweepBuy
  quantity_pos := by decide
  side_eq := rfl

/-- Ten shares at 100, booked; the broker then corrects the average to 101. -/
def ops : List (IdleCashOp ℕ) :=
  [.reserveOrder sweep 1,
    .updateOrder 1 { status := .exact .filled, filledQty := some 10, averageFillPrice := some 100 },
    .applyIdleCashFill 1,
    .updateOrder 1 { status := .exact .filled, filledQty := some 10, averageFillPrice := some 101 },
    .applyIdleCashFill 1,
    .applyIdleCashFill 1]

end Corrected

open Corrected in
/-- The correction is booked, and the position still has the price before it. -/
theorem idle_cash_keeps_old_price :
    ¬∀ ops : List (IdleCashOp ℕ), Run.Along IdleCashLedger.step BooksBuy start ops →
      (ops.foldl IdleCashLedger.step start).AllBooked →
        (ops.foldl IdleCashLedger.step start).FollowsOrders := by
  intro hfollows
  have hfinal := hfollows Corrected.ops (by decide +kernel) (by decide +kernel)
  exact absurd hfinal.notional (by decide +kernel)

open Corrected in
/-- Up to the correction the position follows. -/
theorem idle_cash_follows_orders_iff_until_correction :
    ((∀ front back, Corrected.ops.take 4 = front ++ back →
        (front.foldl IdleCashLedger.step start).Recorded) ↔
      Run.Along IdleCashLedger.step (fun ledger op => ledger.correctsNotional op = false) start
        (Corrected.ops.take 4)) ∧
    (Run.Along IdleCashLedger.step (fun ledger op => ledger.correctsNotional op = false) start
        (Corrected.ops.take 4) →
      ∀ front back, Corrected.ops.take 4 = front ++ back →
        (front.foldl IdleCashLedger.step start).AllBooked →
        (front.foldl IdleCashLedger.step start).FollowsOrders) :=
  idle_cash_follows_orders_iff ⟨rfl, fun _ => rfl⟩ (by decide +kernel)

end IdleCashLedger

end JdHoldings

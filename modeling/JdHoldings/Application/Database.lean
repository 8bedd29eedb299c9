import Mathlib.Logic.Function.Basic
import JdHoldings.Core.Models
import JdHoldings.Library.Table

/-!
# The repository

The persisted state and the transactions of `SQLiteRepository` that the ledger
claims rest on.  Every function is one `transaction()`: it either returns the
committed state or raises, and a transaction that raises is rolled back.

* **Orders.**  A row can only be built with `filledQty ≤ qty`, the bound that
  `update_order` enforces, and with the side of its purpose.  Client ids are the
  unique key of the table.
* **Core positions.**  There is exactly one row for each allocation symbol;
  `_initialize` inserts them and nothing deletes them.
* **System state.**  The key/value table is a record of the keys the modelled
  code reads.  A flag is `none` when its row is missing or holds a text other
  than `"0"` and `"1"`; a number is `none` when its row is missing or empty.
-/

namespace JdHoldings

/-- Broker order ids; the code compares them only. -/
abbrev BrokerOrderId := ℕ

/-- A trading date; the code compares dates only. -/
abbrev Date := ℕ

/-! ## Rows -/

/-- A row of `orders`. -/
structure OrderRow (ι : Type*) where
  clientOrderId : ι
  brokerOrderId : Option BrokerOrderId := none
  symbol : Symbol
  side : Side
  orderType : OrderType
  price : Option Decimal
  qty : ℕ
  filledQty : ℕ := 0
  averageFillPrice : Option Decimal := none
  status : OrderStatus := .created
  purpose : Purpose
  createdAt : Timestamp
  filled_le : filledQty ≤ qty
  side_eq : side = purpose.side

/-- A row of `core_positions`. -/
structure CoreRow where
  qty : ℕ := 0
  avgPrice : Decimal := 0
  costBasis : Decimal := 0
  targetWeight : Decimal := 0
  targetQty : ℕ := 0
  trendActive : Bool := false
  signalTradeDate : Option Date := none
deriving DecidableEq, Repr

/-- A row of `core_fill_progress`. -/
structure FillProgress where
  appliedFilledQty : ℕ
  appliedNotional : Decimal
deriving DecidableEq, Repr

inductive PositionState where
  | empty
  | waitingApproval (stage : Fin 4)
  | waitingFill (stage : Fin 4)
  | holding (stage : Fin 4)
  | partialTp1
  | waitingRebuyApproval
  | waitingRebuyFill
  | holdingRebuy
  | cooldown
  | safeMode
deriving DecidableEq, Repr

instance neZeroFour : NeZero 4 := ⟨by decide⟩

def stageText : Fin 4 → String
  | 0 => "1ST"
  | 1 => "2ND"
  | 2 => "3RD"
  | 3 => "4TH"

/-- The text stored in the database. -/
def PositionState.text : PositionState → String
  | .empty => "EMPTY"
  | .waitingApproval stage => s!"WAITING_{stageText stage}_APPROVAL"
  | .waitingFill stage => s!"WAITING_{stageText stage}_FILL"
  | .holding stage => s!"HOLDING_{stageText stage}"
  | .partialTp1 => "PARTIAL_TP_1"
  | .waitingRebuyApproval => "WAITING_REBUY_APPROVAL"
  | .waitingRebuyFill => "WAITING_REBUY_FILL"
  | .holdingRebuy => "HOLDING_REBUY"
  | .cooldown => "COOLDOWN"
  | .safeMode => "SAFE_MODE"

/-- A row of `positions`. -/
structure PositionSnapshot where
  state : PositionState := .empty
  quantity : ℕ := 0
  currentCostBasis : Decimal := 0
deriving DecidableEq, Repr

/-- The row of `idle_cash_state`. -/
structure IdleCashState where
  managedQuantity : ℕ := 0
  averagePrice : Decimal := 0
deriving DecidableEq, Repr

/-- The texts written into `jh_auto_state`. -/
inductive AutoState where
  | setup
  | ready
  | startupQuarantine
  | autoQuarantine
  | operatorHalt
  | safeMode
  | configuring
  | running
deriving DecidableEq, Repr

/-- The texts written into `v322_initial_onboarding_status`. -/
inductive OnboardingStatus where
  | notStarted
  | active
  | completed
  | bypassed
  | disabled
deriving DecidableEq, Repr

/-- The rows of `system_state`. -/
structure SystemState where
  operatorBuyHalt : Option Bool := none
  portfolioSafeMode : Option Bool := none
  liveCommissioned : Option Bool := none
  onboardingStatus : Option OnboardingStatus := none
  highWaterEquity : Option Decimal := none
  riskBudget : Option Decimal := none
  targetQtyGeneration : Option Date := none
  autoEnabled : Option Bool := none
  autoVersion : Option String := none
  configRevision : Option ℕ := none
  baseCapital : Option Decimal := none
  ratio : Option Decimal := none
  targetPrincipal : Option Decimal := none
  effectivePrincipal : Option Decimal := none
  accountingStartedAt : Option Timestamp := none
  launchAuthorized : Option Bool := none
  startupQuarantine : Option Bool := none
  operatorHaltLatched : Option Bool := none
  autoState : Option AutoState := none
  rampStage : Option ℕ := none
  rampBasePrincipal : Option Decimal := none
  rampTargetPrincipal : Option Decimal := none
  rampStageFilledTradeDate : Option Date := none
  rampStageAutoFillSeen : Option Bool := none
  performanceUnits : Option Decimal := none
  performanceNav : Option Decimal := none
deriving DecidableEq, Repr

/-- The database behind a `SQLiteRepository`. -/
structure Repository (ι : Type*) where
  orders : Table ι (OrderRow ι) OrderRow.clientOrderId
  core : AllocationSymbol → CoreRow
  coreFillProgress : ι → Option FillProgress
  positions : EnabledSymbol → PositionSnapshot
  idleCash : IdleCashState
  system : SystemState

/-- The database `_initialize` leaves in an empty file. -/
def Repository.initial (ι : Type*) : Repository ι where
  orders := Table.empty
  core := fun _ => {}
  coreFillProgress := fun _ => none
  positions := fun _ => {}
  idleCash := {}
  system := {}

variable {ι : Type*}

/-- A transaction that rewrites `system_state` alone. -/
def Repository.setSystem (repo : Repository ι) (system : SystemState) : Repository ι :=
  { repo with system := system }

@[simp] theorem Repository.setSystem_system (repo : Repository ι) (system : SystemState) :
    (repo.setSystem system).system = system := rfl

@[simp] theorem Repository.setSystem_orders (repo : Repository ι) (system : SystemState) :
    (repo.setSystem system).orders = repo.orders := rfl

@[simp] theorem Repository.setSystem_core (repo : Repository ι) (system : SystemState) :
    (repo.setSystem system).core = repo.core := rfl

/-- `transition_position` without further updates.  The version column counts the
changes of a row and is not part of the model. -/
def Repository.transitionPosition (repo : Repository ι) (symbol : EnabledSymbol)
    (expected new : PositionState) : Py (Repository ι) :=
  let current := repo.positions symbol
  if current.state ≠ expected then
    .error (.stateConflict s!"상태 충돌: expected={expected.text}, actual={current.state.text}")
  else
    .ok { repo with
      positions := Function.update repo.positions symbol { current with state := new } }

theorem Repository.transitionPosition_ok {repo repo' : Repository ι} {symbol : EnabledSymbol}
    {expected new : PositionState} (hok : repo.transitionPosition symbol expected new = .ok repo') :
    repo' = { repo with
      positions := Function.update repo.positions symbol
        ({ repo.positions symbol with state := new }) } := by
  simp only [Repository.transitionPosition] at hok
  split at hok
  · cases hok
  · exact (Except.ok.inj hok).symm

/-! ## Reading an order -/

namespace OrderRow

/-- `average_fill_price or price`. -/
def fillPrice? (row : OrderRow ι) : Option Decimal := row.averageFillPrice <|> row.price

/-- `_decimal(average_fill_price or price)`. -/
def fillPrice (row : OrderRow ι) : Decimal := row.fillPrice?.getD 0

/-- What the broker reports as filled so far, before fees. -/
def cumulativeNotional (row : OrderRow ι) : Decimal := row.fillPrice * row.filledQty

/-- `max(0, qty - filled_qty)`. -/
def remaining (row : OrderRow ι) : ℕ := row.qty - row.filledQty

theorem side_of_coreRebalanceBuy {row : OrderRow ι} (hpurpose : row.purpose = .coreRebalanceBuy) :
    row.side = .buy := by
  rw [row.side_eq, hpurpose]
  rfl

@[simp] theorem cumulativeNotional_of_filledQty_zero {row : OrderRow ι} (hfilled : row.filledQty = 0) :
    row.cumulativeNotional = 0 := by
  simp [cumulativeNotional, hfilled]

end OrderRow

/-- The row a reservation inserts. -/
def OrderRequest.newRow (request : OrderRequest ι) (now : Timestamp) : OrderRow ι where
  clientOrderId := request.clientOrderId
  symbol := request.symbol
  side := request.side
  orderType := request.orderType
  price := request.price
  qty := request.quantity
  purpose := request.purpose
  createdAt := now
  filled_le := Nat.zero_le _
  side_eq := request.side_eq

section Orders

variable [DecidableEq ι]

/-- `get_order_by_client_id`. -/
def Repository.getOrderByClientId (repo : Repository ι) (clientOrderId : ι) :
    Option (OrderRow ι) :=
  repo.orders.get? clientOrderId

/-- `open_orders`. -/
def Repository.openOrders (repo : Repository ι) : List (OrderRow ι) :=
  repo.orders.rows.filter fun row => row.status.isOpen

/-- `reserve_order`: whether the row was inserted. -/
def Repository.reserveOrder (repo : Repository ι) (request : OrderRequest ι) (now : Timestamp) :
    Repository ι × Bool :=
  let inserted := repo.orders.insertOrIgnore (request.newRow now)
  ({ repo with orders := inserted.1 }, inserted.2)

/-! ## `update_order` -/

/-- The arguments of `update_order` besides the key. -/
structure OrderUpdate where
  status : StatusText
  brokerOrderId : Option BrokerOrderId := none
  filledQty : Option ℕ := none
  averageFillPrice : Option Decimal := none
deriving DecidableEq, Repr

/-- The checks of `update_order` on the row, and the row it writes. -/
def OrderRow.update (existing : OrderRow ι) (status : OrderStatus) (update : OrderUpdate) :
    Py (OrderRow ι) :=
  if existing.status.isTerminal ∧ status ≠ existing.status then
    .error (.stateConflict s!"종료 주문 상태를 되돌릴 수 없습니다: {existing.status.text} -> {status.text}")
  else
    let row : OrderRow ι := { existing with
      status := status
      brokerOrderId := update.brokerOrderId <|> existing.brokerOrderId
      averageFillPrice := update.averageFillPrice <|> existing.averageFillPrice }
    match update.filledQty with
    | none => .ok row
    | some filled =>
        if filled < existing.filledQty then
          .error (.stateConflict "주문 누적 체결수량이 이전 저장값보다 작습니다")
        else if h : existing.qty < filled then
          .error (.stateConflict "주문 누적 체결수량이 주문수량을 초과합니다")
        else if 0 < filled ∧ ∃ average ∈ update.averageFillPrice, average ≤ 0 then
          .error (.stateConflict "체결평균가는 0보다 커야 합니다")
        else .ok { row with filledQty := filled, filled_le := Nat.le_of_not_lt h }

/-- `broker_order_id TEXT UNIQUE`: another row already holds the id. -/
def Repository.brokerOrderIdTaken (repo : Repository ι) (row : OrderRow ι) : Bool :=
  row.brokerOrderId.isSome &&
    repo.orders.rows.any fun other =>
      decide (other.clientOrderId ≠ row.clientOrderId) &&
        decide (other.brokerOrderId = row.brokerOrderId)

/-- `update_order`. -/
def Repository.updateOrder (repo : Repository ι) (clientOrderId : ι) (update : OrderUpdate) :
    Py (Repository ι) :=
  match update.status.upper? with
  | none => .error (.value s!"지원하지 않는 주문 상태입니다: {update.status.shown}")
  | some status =>
      match repo.orders.get? clientOrderId with
      | none => .error .key
      | some existing =>
          match existing.update status update with
          | .error error => .error error
          | .ok row =>
              if repo.brokerOrderIdTaken row then .error .integrity
              else .ok { repo with orders := repo.orders.replace row }

/-- How a row that `update_order` accepted differs from the row before. -/
structure OrderRow.Updated (existing row : OrderRow ι) (status : OrderStatus) (update : OrderUpdate) :
    Prop where
  clientOrderId : row.clientOrderId = existing.clientOrderId
  brokerOrderId : row.brokerOrderId = (update.brokerOrderId <|> existing.brokerOrderId)
  symbol : row.symbol = existing.symbol
  side : row.side = existing.side
  price : row.price = existing.price
  qty : row.qty = existing.qty
  purpose : row.purpose = existing.purpose
  createdAt : row.createdAt = existing.createdAt
  status : row.status = status
  terminal : existing.status.isTerminal = true → row.status = existing.status
  filledQty : row.filledQty = update.filledQty.getD existing.filledQty
  filled_mono : existing.filledQty ≤ row.filledQty
  average : row.averageFillPrice = (update.averageFillPrice <|> existing.averageFillPrice)

omit [DecidableEq ι] in
theorem OrderRow.update_ok {existing row : OrderRow ι} {status : OrderStatus} {update : OrderUpdate}
    (hok : existing.update status update = .ok row) : existing.Updated row status update := by
  unfold OrderRow.update at hok
  split at hok
  · cases hok
  · rename_i hterminal
    have hstatus : existing.status.isTerminal = true → status = existing.status := by
      intro h
      by_contra hne
      exact hterminal ⟨h, hne⟩
    cases hfilled : update.filledQty with
    | none =>
        simp only [hfilled] at hok
        obtain rfl := Except.ok.inj hok
        exact ⟨rfl, rfl, rfl, rfl, rfl, rfl, rfl, rfl, rfl, hstatus, by simp [hfilled], le_refl _,
          rfl⟩
    | some filled =>
        simp only [hfilled] at hok
        split at hok
        · cases hok
        · rename_i hmono
          split at hok
          · cases hok
          · split at hok
            · cases hok
            · obtain rfl := Except.ok.inj hok
              exact ⟨rfl, rfl, rfl, rfl, rfl, rfl, rfl, rfl, rfl, hstatus, by simp [hfilled],
                Nat.le_of_not_lt hmono, rfl⟩

/-- A committed `update_order` exchanges one row for an updated one. -/
theorem Repository.updateOrder_ok_of_status {repo repo' : Repository ι} {clientOrderId : ι}
    {update : OrderUpdate} (hok : repo.updateOrder clientOrderId update = .ok repo') :
    ∃ existing row status, repo.orders.get? clientOrderId = some existing ∧
      update.status.upper? = some status ∧ existing.Updated row status update ∧
      repo' = { repo with orders := repo.orders.replace row } := by
  unfold Repository.updateOrder at hok
  split at hok
  · cases hok
  · rename_i status hstatus
    split at hok
    · cases hok
    · rename_i existing hexisting
      split at hok
      · cases hok
      · rename_i row hrow
        split at hok
        · cases hok
        · exact ⟨existing, row, status, hexisting, hstatus, OrderRow.update_ok hrow,
            (Except.ok.inj hok).symm⟩

theorem Repository.updateOrder_ok {repo repo' : Repository ι} {clientOrderId : ι}
    {update : OrderUpdate} (hok : repo.updateOrder clientOrderId update = .ok repo') :
    ∃ existing row status, repo.orders.get? clientOrderId = some existing ∧
      existing.Updated row status update ∧
      repo' = { repo with orders := repo.orders.replace row } := by
  obtain ⟨existing, row, status, hget, -, hupdated, rfl⟩ := Repository.updateOrder_ok_of_status hok
  exact ⟨existing, row, status, hget, hupdated, rfl⟩

/-! ## `apply_core_fill` -/

/-- The BUY branch of `apply_core_fill`. -/
def CoreRow.buyFill (row : CoreRow) (delta : ℕ) (deltaNotional : Decimal) : Py CoreRow :=
  let nextQty := row.qty + delta
  let nextCost := row.costBasis + deltaNotional
  if nextCost < 0 then .error (.stateConflict "코어 체결가 정정으로 원가가 음수가 됩니다")
  else
    .ok { row with
      qty := nextQty
      avgPrice := if nextQty = 0 then 0 else nextCost / nextQty
      costBasis := nextCost }

/-- The SELL branch of `apply_core_fill`. -/
def CoreRow.sellFill (row : CoreRow) (delta : ℕ) : Py CoreRow :=
  if row.qty < delta then .error (.stateConflict "코어 보유수량보다 많은 매도 체결입니다")
  else
    let nextQty := row.qty - delta
    let nextAvg := if nextQty = 0 then 0 else row.avgPrice
    .ok { row with qty := nextQty, avgPrice := nextAvg, costBasis := nextAvg * nextQty }

/-- `COALESCE(applied_filled_qty, 0)`. -/
def Repository.appliedFilledQty (repo : Repository ι) (clientOrderId : ι) : ℕ :=
  ((repo.coreFillProgress clientOrderId).map FillProgress.appliedFilledQty).getD 0

/-- `COALESCE(applied_notional, '0')`. -/
def Repository.appliedNotional (repo : Repository ι) (clientOrderId : ι) : Decimal :=
  ((repo.coreFillProgress clientOrderId).map FillProgress.appliedNotional).getD 0

/-- The two writes that end `apply_core_fill`. -/
def Repository.bookCoreFill (repo : Repository ι) (symbol : AllocationSymbol) (order : OrderRow ι)
    (row : CoreRow) : Repository ι :=
  { repo with
    core := Function.update repo.core symbol row
    coreFillProgress := Function.update repo.coreFillProgress order.clientOrderId
      (some ⟨order.filledQty, order.cumulativeNotional⟩) }

section BookCoreFill

variable (repo : Repository ι) (symbol : AllocationSymbol) (order : OrderRow ι) (row : CoreRow)

@[simp] theorem Repository.bookCoreFill_orders :
    (repo.bookCoreFill symbol order row).orders = repo.orders := rfl

@[simp] theorem Repository.bookCoreFill_system :
    (repo.bookCoreFill symbol order row).system = repo.system := rfl

@[simp] theorem Repository.bookCoreFill_core_self :
    (repo.bookCoreFill symbol order row).core symbol = row := by
  simp [bookCoreFill]

theorem Repository.bookCoreFill_core_of_ne {other : AllocationSymbol} (hne : other ≠ symbol) :
    (repo.bookCoreFill symbol order row).core other = repo.core other := by
  simp [bookCoreFill, hne]

@[simp] theorem Repository.appliedFilledQty_bookCoreFill_self :
    (repo.bookCoreFill symbol order row).appliedFilledQty order.clientOrderId
      = order.filledQty := by
  simp [bookCoreFill, appliedFilledQty]

theorem Repository.appliedFilledQty_bookCoreFill_of_ne {other : ι}
    (hne : other ≠ order.clientOrderId) :
    (repo.bookCoreFill symbol order row).appliedFilledQty other = repo.appliedFilledQty other := by
  simp [bookCoreFill, appliedFilledQty, hne]

@[simp] theorem Repository.appliedNotional_bookCoreFill_self :
    (repo.bookCoreFill symbol order row).appliedNotional order.clientOrderId
      = order.cumulativeNotional := by
  simp [bookCoreFill, appliedNotional]

theorem Repository.appliedNotional_bookCoreFill_of_ne {other : ι}
    (hne : other ≠ order.clientOrderId) :
    (repo.bookCoreFill symbol order row).appliedNotional other = repo.appliedNotional other := by
  simp [bookCoreFill, appliedNotional, hne]

end BookCoreFill

/-- `apply_core_fill`. -/
def Repository.applyCoreFill (repo : Repository ι) (clientOrderId : ι) : Py (Repository ι) :=
  match repo.orders.get? clientOrderId with
  | none => .error .key
  | some order =>
      let applied := repo.appliedFilledQty clientOrderId
      if order.filledQty < applied then
        .error (.stateConflict "코어 누적 체결수량이 이전 반영값보다 작습니다")
      else
        let delta := order.filledQty - applied
        match order.symbol.allocation? with
        | none => .error .key
        | some symbol =>
            let deltaNotional := order.cumulativeNotional - repo.appliedNotional clientOrderId
            if 0 < delta ∧ deltaNotional < 0 then
              .error (.stateConflict "코어 누적 체결금액이 이전 반영값보다 작습니다")
            else if delta = 0 ∧ deltaNotional = 0 then .ok repo
            else
              match order.side with
              | .buy =>
                  ((repo.core symbol).buyFill delta deltaNotional).map
                    (repo.bookCoreFill symbol order)
              | .sell =>
                  ((repo.core symbol).sellFill delta).map (repo.bookCoreFill symbol order)

theorem CoreRow.buyFill_ok {row row' : CoreRow} {delta : ℕ} {deltaNotional : Decimal}
    (hok : row.buyFill delta deltaNotional = .ok row') :
    row'.qty = row.qty + delta ∧ row'.costBasis = row.costBasis + deltaNotional ∧
      0 ≤ row'.costBasis ∧ row'.targetQty = row.targetQty ∧ row'.targetWeight = row.targetWeight := by
  simp only [CoreRow.buyFill] at hok
  split at hok
  · cases hok
  · rename_i hcost
    obtain rfl := Except.ok.inj hok
    exact ⟨rfl, rfl, not_lt.mp hcost, rfl, rfl⟩

theorem CoreRow.sellFill_ok {row row' : CoreRow} {delta : ℕ} (hok : row.sellFill delta = .ok row') :
    row'.qty + delta = row.qty ∧ row'.targetQty = row.targetQty ∧
      row'.targetWeight = row.targetWeight := by
  simp only [CoreRow.sellFill] at hok
  split at hok
  · cases hok
  · rename_i hdelta
    obtain rfl := Except.ok.inj hok
    exact ⟨Nat.sub_add_cancel (not_lt.mp hdelta), rfl, rfl⟩

/-- What a committed `apply_core_fill` booked for `order` into `row`. -/
inductive Repository.CoreFillBooked (repo : Repository ι) (symbol : AllocationSymbol)
    (order : OrderRow ι) (row : CoreRow) : Prop
  | buy (hside : order.side = .buy)
      (hfill : (repo.core symbol).buyFill
        (order.filledQty - repo.appliedFilledQty order.clientOrderId)
        (order.cumulativeNotional - repo.appliedNotional order.clientOrderId) = .ok row)
  | sell (hside : order.side = .sell)
      (hfill : (repo.core symbol).sellFill
        (order.filledQty - repo.appliedFilledQty order.clientOrderId) = .ok row)

/-- A committed `apply_core_fill` either finds everything booked or books the
whole difference between the order and its progress row. -/
theorem Repository.applyCoreFill_ok {repo repo' : Repository ι} {clientOrderId : ι}
    (hok : repo.applyCoreFill clientOrderId = .ok repo') :
    ∃ order symbol, repo.orders.get? clientOrderId = some order ∧
      order.symbol = .allocation symbol ∧
      repo.appliedFilledQty clientOrderId ≤ order.filledQty ∧
      (repo' = repo ∨ ∃ row, repo.CoreFillBooked symbol order row ∧
        repo' = repo.bookCoreFill symbol order row) := by
  unfold Repository.applyCoreFill at hok
  split at hok
  · cases hok
  · rename_i order horder
    have hkey := Table.key_of_get? horder
    simp only at hok
    split at hok
    · cases hok
    · rename_i happlied
      split at hok
      · cases hok
      · rename_i symbol hsymbol
        refine ⟨order, symbol, horder, Symbol.allocation?_eq_some hsymbol, not_lt.mp happlied, ?_⟩
        split at hok
        · cases hok
        · split at hok
          · -- Neither shares nor money are new: nothing is written.
            exact Or.inl (Except.ok.inj hok).symm
          · right
            split at hok
            · rename_i hside
              cases hfill : (repo.core symbol).buyFill
                  (order.filledQty - repo.appliedFilledQty clientOrderId)
                  (order.cumulativeNotional - repo.appliedNotional clientOrderId) with
              | error error => simp [hfill, Except.map] at hok
              | ok row =>
                  rw [hfill] at hok
                  exact ⟨row, .buy hside (by rw [hkey]; exact hfill), (Except.ok.inj hok).symm⟩
            · rename_i hside
              cases hfill : (repo.core symbol).sellFill
                  (order.filledQty - repo.appliedFilledQty clientOrderId) with
              | error error => simp [hfill, Except.map] at hok
              | ok row =>
                  rw [hfill] at hok
                  exact ⟨row, .sell hside (by rw [hkey]; exact hfill), (Except.ok.inj hok).symm⟩

/-- A booking leaves the orders as they are. -/
theorem Repository.applyCoreFill_orders {repo repo' : Repository ι} {clientOrderId : ι}
    (hok : repo.applyCoreFill clientOrderId = .ok repo') : repo'.orders = repo.orders := by
  obtain ⟨_, _, -, -, -, rfl | ⟨_, -, rfl⟩⟩ := Repository.applyCoreFill_ok hok <;> rfl

/-- After `apply_core_fill` the stored fill of the order is booked in full. -/
theorem Repository.applyCoreFill_applied {repo repo' : Repository ι} {clientOrderId : ι}
    {order : OrderRow ι} (hok : repo.applyCoreFill clientOrderId = .ok repo')
    (hget : repo.orders.get? clientOrderId = some order) :
    repo'.appliedFilledQty clientOrderId = order.filledQty ∧
      repo'.appliedNotional clientOrderId = order.cumulativeNotional := by
  have hkey := Table.key_of_get? hget
  have hbook : ∀ (symbol : AllocationSymbol) (fill : Py CoreRow),
      fill.map (repo.bookCoreFill symbol order) = .ok repo' →
        repo'.appliedFilledQty clientOrderId = order.filledQty ∧
          repo'.appliedNotional clientOrderId = order.cumulativeNotional := by
    intro symbol fill hfill
    cases fill with
    | error error => cases hfill
    | ok row =>
        obtain rfl := Except.ok.inj hfill
        rw [← hkey]
        exact ⟨appliedFilledQty_bookCoreFill_self .., appliedNotional_bookCoreFill_self ..⟩
  simp only [Repository.applyCoreFill, hget] at hok
  split at hok
  · cases hok
  · rename_i happlied
    split at hok
    · cases hok
    · split at hok
      · cases hok
      · split at hok
        · rename_i hsame
          obtain rfl := Except.ok.inj hok
          exact ⟨by omega, (sub_eq_zero.mp hsame.2).symm⟩
        · split at hok
          · exact hbook _ _ hok
          · exact hbook _ _ hok

/-- `unapplied_core_fill_order_ids`. -/
def Repository.unappliedCoreFillOrderIds (repo : Repository ι) : List ι :=
  (repo.orders.rows.filter fun row =>
    row.purpose.isCore && decide (0 < row.filledQty) &&
      (decide (row.filledQty ≠ repo.appliedFilledQty row.clientOrderId) ||
        decide (row.cumulativeNotional ≠ repo.appliedNotional row.clientOrderId))).map
    OrderRow.clientOrderId

end Orders

end JdHoldings

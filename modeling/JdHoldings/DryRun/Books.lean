import Mathlib.Logic.Relation
import Mathlib.Tactic.FieldSimp
import Mathlib.Tactic.Linarith
import JdHoldings.Application.Broker

/-!
# The books of the dry-run broker

Every call of the dry-run broker is a sequence of five `Change`s: nothing about the orders, an
order is placed, it is filled and booked, it is filled and refused by the holdings, or it is
canceled.  Three results are read off them.

* The books balance (`dry_run_books_balance`): cash and holdings are those of the start
  changed by the fills that are applied, an order is filled never or in full, and never at a price
  its limit forbids.
* An order is placed once (`dry_run_places_once`): whatever happens after a placing, the
  client id finds the same order again, and a report that was final is repeated.
-/

namespace JdHoldings

variable {ι : Type}

/-- What a share of the order adds to the holdings. -/
def Side.sign : Side → ℤ
  | .buy => 1
  | .sell => -1

namespace DryRunOrder

/-- Nothing of the order is filled. -/
structure Unfilled (order : DryRunOrder ι) : Prop where
  filledQuantity : order.filledQuantity = 0
  averageFilledPrice : order.averageFilledPrice = none
  filledAmount : order.filledAmount = none
  appliedFilledQuantity : order.appliedFilledQuantity = 0
  appliedFilledAmount : order.appliedFilledAmount = 0

/-- A price the limit of the order does not forbid. -/
def Allows (order : DryRunOrder ι) (price : Decimal) : Prop :=
  order.orderType = .limit → ∃ limit, order.price = some limit ∧ order.side.reaches price limit = true

/-- The lives of an order: it waits or is canceled with nothing filled, or it is filled in full at
an allowed price, and either all of it is applied or, when the broker refused to, nothing. -/
inductive Shape (order : DryRunOrder ι) : Prop
  | unfilled (hstatus : order.status = .pending ∨ order.status = .canceled)
      (hunfilled : order.Unfilled)
  | booked (price : Decimal) (waiting : DryRunOrder ι) (hunfilled : waiting.Unfilled)
      (hallowed : waiting.Allows price) (heq : order = (waiting.settled price).applied)
  | refused (price : Decimal) (waiting : DryRunOrder ι) (hunfilled : waiting.Unfilled)
      (hallowed : waiting.Allows price) (heq : order = waiting.settled price)

/-- The cash that the order has moved, as an expense. -/
def spent (order : DryRunOrder ι) : Decimal := order.side.sign * order.appliedFilledAmount

/-- The shares of a symbol that the order has moved. -/
def moved (symbol : Symbol) (order : DryRunOrder ι) : ℤ :=
  if order.symbol = symbol then order.side.sign * order.appliedFilledQuantity else 0

theorem Unfilled.spent_eq {order : DryRunOrder ι} (hunfilled : order.Unfilled) :
    order.spent = 0 := by
  rw [spent, hunfilled.appliedFilledAmount, mul_zero]

theorem Unfilled.moved_eq {order : DryRunOrder ι} (hunfilled : order.Unfilled)
    (symbol : Symbol) : order.moved symbol = 0 := by
  rw [moved, hunfilled.appliedFilledQuantity, Nat.cast_zero, mul_zero, ite_self]

end DryRunOrder

namespace DryRunBroker

/-- One change of the broker. -/
inductive Change (broker : DryRunBroker ι) : DryRunBroker ι → Prop
  | idle (prices : Symbol → Option Decimal) (sequence : ℕ) (hle : broker.sequence ≤ sequence) :
      Change broker { broker with prices := prices, sequence := sequence }
  | placed (prices : Symbol → Option Decimal) (order : DryRunOrder ι)
      (hid : order.orderId = broker.sequence + 1)
      (hclient : ∀ other ∈ broker.orders, other.clientOrderId ≠ order.clientOrderId)
      (hquantity : 0 < order.quantity) (hpending : order.status = .pending)
      (hunfilled : order.Unfilled) :
      Change broker { broker with
        prices := prices, sequence := broker.sequence + 1, orders := broker.orders.assign order }
  | booked (order : DryRunOrder ι) (price : Decimal) (holding : DryRunHolding) (cash : Decimal)
      (hmem : order ∈ broker.orders) (hpending : order.status = .pending)
      (hallowed : order.Allows price) (hsymbol : holding.symbol = order.symbol)
      (hquantity : (holding.quantity : ℤ)
        = (broker.holding order.symbol).quantity + order.side.sign * order.quantity)
      (hcash : cash = -(order.side.sign * (price * order.quantity))) :
      Change broker (broker.bookFill (order.settled price) holding cash)
  | refused (order : DryRunOrder ι) (price : Decimal) (hmem : order ∈ broker.orders)
      (hpending : order.status = .pending) (hallowed : order.Allows price) :
      Change broker { broker with orders := broker.orders.assign (order.settled price) }
  | canceled (order : DryRunOrder ι) (hmem : order ∈ broker.orders)
      (hpending : order.status = .pending) :
      Change broker { broker with orders := broker.orders.assign { order with status := .canceled } }

/-- What is known of the orders at any time. -/
structure Sound (broker : DryRunBroker ι) : Prop where
  shape : ∀ order ∈ broker.orders, order.Shape
  quantity_pos : ∀ order ∈ broker.orders, 0 < order.quantity
  fresh : ∀ order ∈ broker.orders, order.orderId ≤ broker.sequence
  client : ∀ order ∈ broker.orders, ∀ other ∈ broker.orders,
    order.clientOrderId = other.clientOrderId → order = other

/-- The changes of a call. -/
abbrev Changes : DryRunBroker ι → DryRunBroker ι → Prop := Relation.ReflTransGen Change

/-! ## A change keeps the orders sound -/

section Sound

variable {broker broker' : DryRunBroker ι} {order : DryRunOrder ι} {price : Decimal}

/-- A waiting order is pending, and nothing of it is filled. -/
theorem Sound.pending (hsound : Sound broker) (hmem : order ∈ broker.orders)
    (hwaiting : order.isWaiting = true) : order.status = .pending ∧ order.Unfilled := by
  rw [DryRunOrder.isWaiting, Bool.or_eq_true, decide_eq_true_eq, decide_eq_true_eq] at hwaiting
  cases hsound.shape order hmem with
  | unfilled hstatus hunfilled =>
      rcases hstatus with hpending | hcanceled
      · exact ⟨hpending, hunfilled⟩
      · rw [hcanceled] at hwaiting
        rcases hwaiting with hwaiting | hwaiting <;> cases hwaiting
  | booked price waiting hunfilled hallowed heq =>
      rw [heq] at hwaiting
      rcases hwaiting with hwaiting | hwaiting <;> cases hwaiting
  | refused price waiting hunfilled hallowed heq =>
      rw [heq] at hwaiting
      rcases hwaiting with hwaiting | hwaiting <;> cases hwaiting

/-- Rewriting an order under its own ids keeps the orders sound. -/
theorem Sound.rewrite (hsound : Sound broker) {old : DryRunOrder ι} (order : DryRunOrder ι) (hold : old ∈ broker.orders)
    (hid : order.orderId = old.orderId) (hclient : order.clientOrderId = old.clientOrderId)
    (hquantity : order.quantity = old.quantity) (hshape : order.Shape)
    (horders : broker'.orders = broker.orders.assign order)
    (hsequence : broker'.sequence = broker.sequence) : Sound broker' := by
  have hother : ∀ other ∈ broker.orders, other.orderId ≠ order.orderId →
      other.clientOrderId ≠ order.clientOrderId := by
    intro other hmem hne hsame
    rw [hsound.client other hmem old hold (hsame.trans hclient)] at hne
    exact hne hid.symm
  constructor
  · intro other hmem
    rw [horders, Table.mem_assign] at hmem
    rcases hmem with rfl | ⟨hmem, -⟩
    · exact hshape
    · exact hsound.shape other hmem
  · intro other hmem
    rw [horders, Table.mem_assign] at hmem
    rcases hmem with rfl | ⟨hmem, -⟩
    · rw [hquantity]
      exact hsound.quantity_pos old hold
    · exact hsound.quantity_pos other hmem
  · intro other hmem
    rw [hsequence]
    rw [horders, Table.mem_assign] at hmem
    rcases hmem with rfl | ⟨hmem, -⟩
    · rw [hid]
      exact hsound.fresh old hold
    · exact hsound.fresh other hmem
  · intro first hfirst second hsecond hsame
    rw [horders, Table.mem_assign] at hfirst hsecond
    rcases hfirst with rfl | ⟨hfirst, hne⟩
    · rcases hsecond with rfl | ⟨hsecond, hne'⟩
      · rfl
      · exact absurd hsame.symm (hother second hsecond hne')
    · rcases hsecond with rfl | ⟨hsecond, -⟩
      · exact absurd hsame (hother first hfirst hne)
      · exact hsound.client first hfirst second hsecond hsame

theorem Sound.change (hsound : Sound broker) (hchange : Change broker broker') : Sound broker' := by
  cases hchange with
  | idle prices sequence hle =>
      exact ⟨hsound.shape, hsound.quantity_pos,
        fun order hmem => (hsound.fresh order hmem).trans hle, hsound.client⟩
  | placed prices order hid hclient hquantity hpending hunfilled =>
      constructor
      · intro other hmem
        rcases Table.mem_assign.mp hmem with rfl | ⟨hmem, -⟩
        · exact .unfilled (.inl hpending) hunfilled
        · exact hsound.shape other hmem
      · intro other hmem
        rcases Table.mem_assign.mp hmem with rfl | ⟨hmem, -⟩
        · exact hquantity
        · exact hsound.quantity_pos other hmem
      · intro other hmem
        rcases Table.mem_assign.mp hmem with rfl | ⟨hmem, -⟩
        · exact hid.le
        · exact Nat.le_succ_of_le (hsound.fresh other hmem)
      · -- The id of a new client order is on no stored one.
        intro first hfirst second hsecond hsame
        rcases Table.mem_assign.mp hfirst with rfl | ⟨hfirst, -⟩
        · rcases Table.mem_assign.mp hsecond with rfl | ⟨hsecond, -⟩
          · rfl
          · exact absurd hsame.symm (hclient second hsecond)
        · rcases Table.mem_assign.mp hsecond with hsecond | ⟨hsecond, -⟩
          · rw [hsecond] at hsame
            exact absurd hsame (hclient first hfirst)
          · exact hsound.client first hfirst second hsecond hsame
  | booked order price holding cash hmem hpending hallowed =>
      have hwaiting : order.isWaiting = true := by simp [DryRunOrder.isWaiting, hpending]
      exact hsound.rewrite (order.settled price).applied hmem rfl rfl rfl
        (.booked price order (hsound.pending hmem hwaiting).2 hallowed rfl) rfl rfl
  | refused order price hmem hpending hallowed =>
      have hwaiting : order.isWaiting = true := by simp [DryRunOrder.isWaiting, hpending]
      exact hsound.rewrite (order.settled price) hmem rfl rfl rfl
        (.refused price order (hsound.pending hmem hwaiting).2 hallowed rfl) rfl rfl
  | canceled order hmem hpending =>
      have hwaiting : order.isWaiting = true := by simp [DryRunOrder.isWaiting, hpending]
      obtain ⟨-, hunfilled⟩ := hsound.pending hmem hwaiting
      exact hsound.rewrite { order with status := .canceled } hmem rfl rfl rfl
        (.unfilled (.inr rfl) { hunfilled with }) rfl rfl

theorem Sound.changes (hsound : Sound broker) (hchanges : Changes broker broker') :
    Sound broker' := by
  induction hchanges with
  | refl => exact hsound
  | tail _ hchange ih => exact ih.change hchange

end Sound

/-! ## The changes of a fill -/

section Fill

variable {broker : DryRunBroker ι} {order : DryRunOrder ι} {price : Decimal}

theorem filledAt_eq (hunfilled : order.Unfilled) (hquantity : 0 < order.quantity) :
    order.filledAt price = order.settled price := by
  have hne : (order.quantity : ℚ) ≠ 0 := by positivity
  simp only [DryRunOrder.filledAt, DryRunOrder.settled, hunfilled.filledQuantity, Nat.cast_zero,
    mul_zero, zero_add, Nat.sub_zero]
  rw [mul_div_cancel_right₀ _ hne]

variable (broker) in
/-- A fill that has just been written is booked or refused. -/
theorem applyFill_change (hmem : order ∈ broker.orders) (hpending : order.status = .pending)
    (hunfilled : order.Unfilled) (hquantity : 0 < order.quantity) (hallowed : order.Allows price) :
    Change broker (DryRunBroker.applyFill
      { broker with orders := broker.orders.assign (order.settled price) } (order.settled price)).1 := by
  have hbook : ∀ holding : DryRunHolding, ∀ cash : Decimal,
      DryRunBroker.bookFill { broker with orders := broker.orders.assign (order.settled price) }
        (order.settled price) holding cash = broker.bookFill (order.settled price) holding cash := by
    intro holding cash
    simp only [bookFill]
    rw [Table.assign_assign]
    rfl
  have hdelta : (order.settled price).filledQuantity - (order.settled price).appliedFilledQuantity
      = order.quantity := by
    simp [DryRunOrder.settled, hunfilled.appliedFilledQuantity]
  have hnotional : (order.settled price).cumulativeNotional - (order.settled price).appliedFilledAmount
      = price * order.quantity := by
    simp [DryRunOrder.settled, DryRunOrder.cumulativeNotional, hunfilled.appliedFilledAmount]
  have hholding : DryRunBroker.holding
      { broker with orders := broker.orders.assign (order.settled price) }
      (order.settled price).symbol = broker.holding order.symbol := rfl
  unfold applyFill
  simp only [hdelta, hnotional, hbook, hholding]
  split
  · exact .refused order price hmem hpending hallowed
  rw [if_neg hquantity.ne']
  split
  next hside =>
    -- A BUY pays and receives, and is never short of shares.
    have hbuy : order.side = .buy := hside
    refine .booked order price _ _ hmem hpending hallowed rfl ?_ ?_
    · rw [hbuy]
      push_cast [Side.sign]
      ring
    · rw [hbuy]
      norm_num [Side.sign]
  next hside =>
    have hsell : order.side = .sell := hside
    split
    · -- A SELL of more than is held raises, with the order already settled.
      exact .refused order price hmem hpending hallowed
    next henough =>
      refine .booked order price _ _ hmem hpending hallowed rfl ?_ ?_
      · rw [hsell]
        push_cast [Side.sign, Nat.cast_sub (not_lt.mp henough)]
        ring
      · rw [hsell]
        norm_num [Side.sign]

theorem fillRemainingOrder_changes (hsound : Sound broker) (hmem : order ∈ broker.orders)
    (hallowed : order.Allows price) :
    Changes broker (broker.fillRemainingOrder order price).1 := by
  have hquantity := hsound.quantity_pos order hmem
  unfold fillRemainingOrder
  split
  · exact .refl
  next hwaiting =>
    obtain ⟨hpending, hunfilled⟩ := hsound.pending hmem (Bool.eq_true_of_not_eq_false hwaiting)
    rw [if_neg (by rw [hunfilled.filledQuantity]; omega), filledAt_eq hunfilled hquantity]
    exact .single (applyFill_change broker hmem hpending hunfilled hquantity hallowed)

variable (price) in
theorem fillIfReached_changes (hsound : Sound broker) (hmem : order ∈ broker.orders) :
    Changes broker (broker.fillIfReached order price).1 := by
  unfold fillIfReached
  split
  · exact .refl
  next limit hlimit =>
    split
    next hreached =>
      exact fillRemainingOrder_changes hsound hmem fun _ => ⟨limit, hlimit, hreached⟩
    · exact .refl

/-- Every round of the loop starts from a sound broker. -/
theorem fillOrders_changes {symbol : Symbol} (orderIds : List BrokerOrderId)
    (hsound : Sound broker) : Changes broker (fillOrders symbol price orderIds broker).1 := by
  induction orderIds generalizing broker with
  | nil => exact .refl
  | cons orderId orderIds ih =>
      unfold fillOrders
      split
      · exact ih hsound
      next order hget =>
        split
        · exact ih hsound
        · have hfill := fillIfReached_changes price hsound (Table.mem_of_get? hget)
          split
          next filled u hfilled =>
            rw [hfilled] at hfill
            exact hfill.trans (ih (hsound.changes hfill))
          next filled error hfilled =>
            rw [hfilled] at hfill
            exact hfill

end Fill

/-! ## The changes of a call -/

section Call

variable {broker : DryRunBroker ι}

/-- Looking up a price may at most store it. -/
theorem getPrice_eq (broker : DryRunBroker ι) (source : PriceSource) (symbol : Symbol) :
    ∃ prices, (broker.getPrice source symbol).1 = { broker with prices := prices } := by
  unfold getPrice
  split
  · split <;> exact ⟨broker.prices, rfl⟩
  · exact ⟨_, rfl⟩
  · exact ⟨broker.prices, rfl⟩

theorem cancelOrder_changes (hsound : Sound broker) (orderId : BrokerOrderId) :
    Changes broker (broker.cancelOrder orderId).1 := by
  unfold cancelOrder
  split
  · exact .refl
  next order hget =>
    split
    next hwaiting =>
      have hmem := Table.mem_of_get? hget
      exact .single (.canceled order hmem (hsound.pending hmem hwaiting).1)
    · exact .refl

theorem fillOpenOrders_changes (hsound : Sound broker) (source : PriceSource) (symbol : Symbol) :
    Changes broker (broker.fillOpenOrders source symbol).1 := by
  obtain ⟨prices, hprices⟩ := getPrice_eq broker source symbol
  have hidle : Change broker { broker with prices := prices } := .idle prices _ le_rfl
  unfold fillOpenOrders
  split
  next quoted error hquoted =>
    rw [hquoted] at hprices
    rw [show quoted = _ from hprices]
    exact .single hidle
  next quoted current hquoted =>
    rw [hquoted] at hprices
    rw [show quoted = _ from hprices]
    exact .head hidle (fillOrders_changes _ (hsound.change hidle))

theorem getOrder_changes (hsound : Sound broker) (source : PriceSource) (orderId : BrokerOrderId) :
    Changes broker (broker.getOrder source orderId).1 := by
  unfold getOrder
  split
  · exact .refl
  · exact .refl
  next order answer hget =>
    split
    · obtain ⟨prices, hprices⟩ := getPrice_eq broker (.dataSource answer) order.symbol
      have hidle : Change broker { broker with prices := prices } := .idle prices _ le_rfl
      split
      next quoted error hquoted =>
        rw [hquoted] at hprices
        rw [show quoted = _ from hprices]
        exact .single hidle
      next quoted current hquoted =>
        rw [hquoted] at hprices
        obtain rfl : quoted = { broker with prices := prices } := hprices
        have hfill := fillIfReached_changes current (hsound.change hidle)
          (Table.mem_of_get? hget)
        split
        next filled error hfilled =>
          rw [hfilled] at hfill
          exact .head hidle hfill
        next filled u hfilled =>
          rw [hfilled] at hfill
          exact .head hidle hfill
    · exact .refl

/-- An order that is filled at the market was placed within its limit. -/
theorem newOrder_allows {orderId : BrokerOrderId} {request : OrderRequest ι} {marketPrice : Decimal}
    (hfillable : isFillable request marketPrice = true) :
    (newOrder orderId request).Allows marketPrice := by
  intro htype
  rw [isFillable, show request.orderType = .limit from htype] at hfillable
  cases hprice : request.price with
  | none =>
      rw [hprice] at hfillable
      cases hfillable
  | some limit =>
      rw [hprice] at hfillable
      exact ⟨limit, hprice, hfillable⟩

variable [DecidableEq ι]

theorem placeOrder_changes (source : PriceSource) (request : OrderRequest ι) :
    Changes broker (broker.placeOrder source request).1 := by
  unfold placeOrder
  split
  · exact .refl
  next hnone =>
    have hclient : ∀ other ∈ broker.orders, other.clientOrderId ≠ request.clientOrderId := by
      intro other hmem
      simpa using List.find?_eq_none.mp hnone other hmem
    obtain ⟨prices, hprices⟩ :=
      getPrice_eq { broker with sequence := broker.sequence + 1 } source request.symbol
    dsimp only
    split
    next quoted error hquoted =>
      rw [hquoted] at hprices
      rw [show quoted = _ from hprices]
      exact .single (.idle prices _ (Nat.le_succ _))
    next quoted marketPrice hquoted =>
      rw [hquoted] at hprices
      obtain rfl : quoted = { broker with sequence := broker.sequence + 1, prices := prices } := hprices
      have hplaced : Change broker { broker with
          prices := prices
          sequence := broker.sequence + 1
          orders := broker.orders.assign (newOrder (broker.sequence + 1) request) } :=
        .placed prices _ rfl hclient request.quantity_pos rfl ⟨rfl, rfl, rfl, rfl, rfl⟩
      dsimp only
      split
      next hfillable =>
        -- The order is placed, and filled by the change after that.
        have hfilled := applyFill_change { broker with
            prices := prices
            sequence := broker.sequence + 1
            orders := broker.orders.assign (newOrder (broker.sequence + 1) request) }
          (Table.mem_assign.mpr (.inl rfl)) rfl ⟨rfl, rfl, rfl, rfl, rfl⟩ request.quantity_pos
          (newOrder_allows hfillable)
        have hsame : (broker.orders.assign (newOrder (broker.sequence + 1) request)).assign
            ((newOrder (broker.sequence + 1) request).settled marketPrice)
            = broker.orders.assign ((newOrder (broker.sequence + 1) request).settled marketPrice) :=
          Table.assign_assign rfl
        dsimp only at hfilled
        rw [hsame] at hfilled
        exact .head hplaced (.single hfilled)
      · exact .single hplaced

end Call

end DryRunBroker

/-! ## Runs -/

/-- A call of the dry-run broker that may change it. -/
inductive DryRunCall (ι : Type) where
  | setPrice (symbol : Symbol) (price : Decimal)
  | getPrice (source : PriceSource) (symbol : Symbol)
  | placeOrder (source : PriceSource) (request : OrderRequest ι)
  | cancelOrder (orderId : BrokerOrderId)
  | fillOpenOrders (source : PriceSource) (symbol : Symbol)
  | getOrder (source : PriceSource) (orderId : BrokerOrderId)

namespace DryRunBroker

/-- The broker when it is built, and the holdings it is given. -/
def opening (prices : Symbol → Option Decimal) (buyingPower : Decimal)
    (holdings : Table Symbol DryRunHolding DryRunHolding.symbol) : DryRunBroker ι where
  prices := prices
  buyingPower := buyingPower
  holdings := holdings

section Step

variable [DecidableEq ι] {broker broker' : DryRunBroker ι}

/-- What a call leaves, whether it returns or raises. -/
def step (broker : DryRunBroker ι) : DryRunCall ι → DryRunBroker ι
  | .setPrice symbol price => broker.setPrice symbol price
  | .getPrice source symbol => (broker.getPrice source symbol).1
  | .placeOrder source request => (broker.placeOrder source request).1
  | .cancelOrder orderId => (broker.cancelOrder orderId).1
  | .fillOpenOrders source symbol => (broker.fillOpenOrders source symbol).1
  | .getOrder source orderId => (broker.getOrder source orderId).1

theorem step_changes (hsound : Sound broker) (call : DryRunCall ι) :
    Changes broker (broker.step call) := by
  cases call with
  | setPrice symbol price => exact .single (.idle _ _ le_rfl)
  | getPrice source symbol =>
      obtain ⟨prices, hprices⟩ := getPrice_eq broker source symbol
      rw [step, hprices]
      exact .single (.idle _ _ le_rfl)
  | placeOrder source request => exact placeOrder_changes source request
  | cancelOrder orderId => exact cancelOrder_changes hsound orderId
  | fillOpenOrders source symbol => exact fillOpenOrders_changes hsound source symbol
  | getOrder source orderId => exact getOrder_changes hsound source orderId

/-- A run is a sequence of changes, too. -/
theorem run_changes (hsound : Sound broker) (calls : List (DryRunCall ι)) :
    Changes broker (calls.foldl step broker) := by
  induction calls generalizing broker with
  | nil => exact .refl
  | cons call calls ih =>
      have hfirst := step_changes hsound call
      exact hfirst.trans (ih (hsound.changes hfirst))

omit [DecidableEq ι] in
theorem opening_sound (prices : Symbol → Option Decimal) (buyingPower : Decimal)
    (holdings : Table Symbol DryRunHolding DryRunHolding.symbol) :
    Sound (opening prices buyingPower holdings : DryRunBroker ι) := by
  constructor
  · intro order hmem
    exact absurd hmem (Table.not_mem_empty order)
  · intro order hmem
    exact absurd hmem (Table.not_mem_empty order)
  · intro order hmem
    exact absurd hmem (Table.not_mem_empty order)
  · intro order hmem
    exact absurd hmem (Table.not_mem_empty order)

end Step

/-! ## The books -/

/-- Cash and holdings are those of the start, changed by the fills that are applied. -/
structure Balanced (start broker : DryRunBroker ι) : Prop where
  cash : broker.buyingPower + broker.orders.sum DryRunOrder.spent = start.buyingPower
  shares : ∀ symbol, ((broker.holding symbol).quantity : ℤ) =
    (start.holding symbol).quantity + broker.orders.sum (DryRunOrder.moved symbol)

section Balance

variable {start broker broker' : DryRunBroker ι}

/-- An order that weighed nothing is rewritten. -/
theorem sum_assign_order {M : Type} [AddCommMonoid M] {weight : DryRunOrder ι → M}
    (order : DryRunOrder ι)
    (hold : ∀ old, broker.orders.get? order.orderId = some old → weight old = 0) :
    (broker.orders.assign order).sum weight = broker.orders.sum weight + weight order := by
  have hassign : (broker.orders.assign order).sum weight
      + broker.orders.weightAt weight order.orderId = broker.orders.sum weight + weight order :=
    Table.sum_assign weight
  have hzero : broker.orders.weightAt weight order.orderId = 0 := by
    unfold Table.weightAt
    cases hget : broker.orders.get? order.orderId with
    | none => rfl
    | some old => exact hold old hget
  rwa [hzero, add_zero] at hassign

/-- An order of which nothing is applied moves nothing, before and after it is rewritten. -/
theorem Balanced.rewrite (hbalanced : Balanced start broker) (order : DryRunOrder ι)
    (hold : ∀ old, broker.orders.get? order.orderId = some old → old.Unfilled)
    (hamount : order.appliedFilledAmount = 0) (hquantity : order.appliedFilledQuantity = 0)
    (horders : broker'.orders = broker.orders.assign order)
    (hcash : broker'.buyingPower = broker.buyingPower) (hheld : broker'.holdings = broker.holdings) :
    Balanced start broker' := by
  constructor
  · rw [horders, hcash, sum_assign_order order fun old hget => (hold old hget).spent_eq,
      DryRunOrder.spent, hamount, mul_zero, add_zero]
    exact hbalanced.cash
  · intro symbol
    have hmoved : order.moved symbol = 0 := by
      rw [DryRunOrder.moved, hquantity, Nat.cast_zero, mul_zero, ite_self]
    have hsame : broker'.holding symbol = broker.holding symbol := by
      rw [holding, holding, hheld]
    rw [horders, hsame, sum_assign_order order fun old hget => (hold old hget).moved_eq symbol,
      hmoved, add_zero]
    exact hbalanced.shares symbol

theorem Balanced.change (hsound : Sound broker) (hbalanced : Balanced start broker)
    (hchange : Change broker broker') : Balanced start broker' := by
  -- What is found under the id of a pending order is that order, and nothing of it is filled.
  have hfound : ∀ order ∈ broker.orders, order.status = .pending → ∀ old,
      broker.orders.get? order.orderId = some old → old.Unfilled := by
    intro order hmem hpending old hget
    rw [Table.get?_eq_some_iff.mpr ⟨hmem, rfl⟩] at hget
    cases hget
    exact (hsound.pending hmem (by simp [DryRunOrder.isWaiting, hpending])).2
  cases hchange with
  | idle prices sequence hle => exact ⟨hbalanced.cash, hbalanced.shares⟩
  | placed prices order hid hclient hquantity hpending hunfilled =>
      refine hbalanced.rewrite order ?_ hunfilled.appliedFilledAmount hunfilled.appliedFilledQuantity
        rfl rfl rfl
      intro old hget
      have hle := hsound.fresh old (Table.mem_of_get? hget)
      rw [Table.key_of_get? hget, hid] at hle
      exact absurd hle (Nat.not_succ_le_self _)
  | booked order price holding cash hmem hpending hallowed hsymbol hquantity hcash =>
      have hold := hfound order hmem hpending
      constructor
      · have hspent := sum_assign_order (order.settled price).applied
          fun old hget => (hold old hget).spent_eq
        rw [bookFill_orders, bookFill_buyingPower, hspent, hcash,
          show ((order.settled price).applied).spent = order.side.sign * (price * order.quantity)
            from rfl]
        linarith [hbalanced.cash]
      · intro symbol
        have hmoved := sum_assign_order (order.settled price).applied
          fun old hget => (hold old hget).moved_eq symbol
        have hshares := hbalanced.shares symbol
        rw [bookFill_orders, hmoved, show ((order.settled price).applied).moved symbol
          = if order.symbol = symbol then order.side.sign * order.quantity else 0 from rfl]
        by_cases hsame : order.symbol = symbol
        · subst hsame
          rw [if_pos rfl, ← add_assoc, ← hshares, ← hquantity, ← hsymbol, holding_bookFill_self]
        · rw [if_neg hsame, add_zero, ← hshares, holding_bookFill_of_ne]
          rw [hsymbol]
          exact fun heq => hsame heq.symm
  | refused order price hmem hpending hallowed =>
      have hunfilled := hfound order hmem hpending order (Table.get?_eq_some_iff.mpr ⟨hmem, rfl⟩)
      exact hbalanced.rewrite (order.settled price) (hfound order hmem hpending)
        hunfilled.appliedFilledAmount hunfilled.appliedFilledQuantity rfl rfl rfl
  | canceled order hmem hpending =>
      have hunfilled := hfound order hmem hpending order (Table.get?_eq_some_iff.mpr ⟨hmem, rfl⟩)
      exact hbalanced.rewrite { order with status := .canceled } (hfound order hmem hpending)
        hunfilled.appliedFilledAmount hunfilled.appliedFilledQuantity rfl rfl rfl

theorem Balanced.changes (hsound : Sound broker) (hbalanced : Balanced start broker)
    (hchanges : Changes broker broker') : Balanced start broker' := by
  induction hchanges with
  | refl => exact hbalanced
  | tail hbefore hchange ih => exact ih.change (hsound.changes hbefore) hchange

end Balance

end DryRunBroker

open DryRunBroker in
/-- In every run of the dry-run broker its cash and its holdings are those of the start, less and
plus what the applied fills have moved.  An order is filled in full or not at all, at a price its
limit allows, and its fill is applied in full or, where the broker raised instead, not at all. -/
theorem dry_run_books_balance [DecidableEq ι] (prices : Symbol → Option Decimal)
    (buyingPower : Decimal) (holdings : Table Symbol DryRunHolding DryRunHolding.symbol)
    (calls : List (DryRunCall ι)) :
    let start := opening prices buyingPower holdings
    let broker := calls.foldl step start
    broker.buyingPower = buyingPower - broker.orders.sum DryRunOrder.spent ∧
      (∀ symbol, ((broker.holding symbol).quantity : ℤ) =
        (start.holding symbol).quantity + broker.orders.sum (DryRunOrder.moved symbol)) ∧
      ∀ order ∈ broker.orders, order.Shape := by
  intro start broker
  have hopening : Sound start := opening_sound prices buyingPower holdings
  have hchanges := run_changes hopening calls
  have hbalanced : Balanced start broker := by
    refine Balanced.changes hopening ⟨?_, ?_⟩ hchanges
    · exact add_zero _
    · exact fun symbol => (add_zero _).symm
  refine ⟨?_, hbalanced.shares, (hopening.changes hchanges).shape⟩
  have hcash := hbalanced.cash
  change _ = buyingPower at hcash
  linarith

/-! ## Placing once -/

/-- How an order may look later. -/
structure DryRunOrder.Later (order later : DryRunOrder ι) : Prop where
  clientOrderId : later.clientOrderId = order.clientOrderId
  orderId : later.orderId = order.orderId
  quantity : later.quantity = order.quantity
  filled_le : order.filledQuantity ≤ later.filledQuantity
  final : order.status ≠ .pending → later.status = order.status ∧
    later.filledQuantity = order.filledQuantity ∧
    later.averageFilledPrice = order.averageFilledPrice

namespace DryRunOrder.Later

variable {order later last : DryRunOrder ι}

theorem refl (order : DryRunOrder ι) : order.Later order :=
  ⟨rfl, rfl, rfl, le_rfl, fun _ => ⟨rfl, rfl, rfl⟩⟩

theorem trans (hfirst : order.Later later) (hsecond : later.Later last) : order.Later last := by
  refine ⟨hsecond.clientOrderId.trans hfirst.clientOrderId, hsecond.orderId.trans hfirst.orderId,
    hsecond.quantity.trans hfirst.quantity, hfirst.filled_le.trans hsecond.filled_le, ?_⟩
  intro hfinal
  obtain ⟨hstatus, hfilled, haverage⟩ := hfirst.final hfinal
  obtain ⟨hstatus', hfilled', haverage'⟩ := hsecond.final (hstatus ▸ hfinal)
  exact ⟨hstatus'.trans hstatus, hfilled'.trans hfilled, haverage'.trans haverage⟩

/-- A pending order may become anything under its own ids. -/
theorem of_pending (hpending : order.status = .pending) (hunfilled : order.Unfilled)
    (hclient : later.clientOrderId = order.clientOrderId) (hid : later.orderId = order.orderId)
    (hquantity : later.quantity = order.quantity) : order.Later later := by
  refine ⟨hclient, hid, hquantity, ?_, fun hfinal => absurd hpending hfinal⟩
  rw [hunfilled.filledQuantity]
  exact Nat.zero_le _

/-- What is reported of an order that is no longer pending is reported again. -/
theorem receipt_eq (hlater : order.Later later) (hfinal : order.status ≠ .pending) (clientOrderId : ι) :
    later.receipt clientOrderId = order.receipt clientOrderId := by
  obtain ⟨hstatus, hfilled, haverage⟩ := hlater.final hfinal
  simp only [receipt, hlater.orderId, hlater.quantity, hstatus, hfilled, haverage]

end DryRunOrder.Later

namespace DryRunBroker

section Later

variable {broker broker' : DryRunBroker ι} {order : DryRunOrder ι}

/-- Under the id of an order the assignment finds the order itself. -/
theorem Sound.later_assign {new : DryRunOrder ι} (hmem : order ∈ broker.orders)
    (hnew : ∀ old ∈ broker.orders, old.orderId = new.orderId → old.Later new) :
    ∃ later ∈ broker.orders.assign new, order.Later later := by
  by_cases hsame : order.orderId = new.orderId
  · exact ⟨new, Table.mem_assign.mpr (.inl rfl), hnew order hmem hsame⟩
  · exact ⟨order, Table.mem_assign.mpr (.inr ⟨hmem, hsame⟩), .refl order⟩

theorem Sound.later (hsound : Sound broker) (hchange : Change broker broker')
    (hmem : order ∈ broker.orders) : ∃ later ∈ broker'.orders, order.Later later := by
  have hunfilled : ∀ pending ∈ broker.orders, pending.status = .pending → pending.Unfilled :=
    fun pending hpending hstatus =>
      (hsound.pending hpending (by simp [DryRunOrder.isWaiting, hstatus])).2
  have hrewrite : ∀ (pending new : DryRunOrder ι), pending ∈ broker.orders →
      pending.status = .pending → new.clientOrderId = pending.clientOrderId →
      new.orderId = pending.orderId → new.quantity = pending.quantity →
      ∃ later ∈ broker.orders.assign new, order.Later later := by
    intro pending new hpending hstatus hclient hid hquantity
    refine Sound.later_assign hmem ?_
    intro old hold hsame
    obtain rfl := Table.eq_of_key_eq hold hpending (hsame.trans hid)
    exact .of_pending hstatus (hunfilled _ hold hstatus) hclient hid hquantity
  cases hchange with
  | idle prices sequence hle => exact ⟨order, hmem, .refl order⟩
  | placed prices new hid hclient hquantity hpending hnew =>
      refine Sound.later_assign hmem ?_
      intro old hold hsame
      have hle := hsound.fresh old hold
      rw [hsame, hid] at hle
      exact absurd hle (Nat.not_succ_le_self _)
  | booked pending price holding cash hpending hstatus =>
      exact hrewrite pending _ hpending hstatus rfl rfl rfl
  | refused pending price hpending hstatus => exact hrewrite pending _ hpending hstatus rfl rfl rfl
  | canceled pending hpending hstatus => exact hrewrite pending _ hpending hstatus rfl rfl rfl

theorem Sound.later_changes (hsound : Sound broker) (hchanges : Changes broker broker')
    (hmem : order ∈ broker.orders) : ∃ later ∈ broker'.orders, order.Later later := by
  induction hchanges with
  | refl => exact ⟨order, hmem, .refl order⟩
  | tail hbefore hchange ih =>
      obtain ⟨later, hlater, hfirst⟩ := ih
      obtain ⟨last, hlast, hsecond⟩ := (hsound.changes hbefore).later hchange hlater
      exact ⟨last, hlast, hfirst.trans hsecond⟩

variable [DecidableEq ι] {request again : OrderRequest ι} {source : PriceSource}
  {receipt : OrderReceipt ι}

omit [DecidableEq ι] in
variable (broker) in
/-- Applying a fill changes nothing that is reported of the order. -/
theorem applyFill_receipt (hmem : order ∈ broker.orders) :
    ∃ later ∈ (broker.applyFill order).1.orders,
      later.clientOrderId = order.clientOrderId ∧ later.receipt = order.receipt := by
  have hbooked : ∀ item cash, ∃ later ∈ (broker.bookFill order item cash).orders,
      later.clientOrderId = order.clientOrderId ∧ later.receipt = order.receipt :=
    fun item cash => ⟨order.applied, Table.mem_assign.mpr (.inl rfl), rfl, rfl⟩
  unfold applyFill
  dsimp only
  split
  · exact ⟨order, hmem, rfl, rfl⟩
  · split
    · exact ⟨order, hmem, rfl, rfl⟩
    · split
      · exact hbooked _ _
      · split
        · exact ⟨order, hmem, rfl, rfl⟩
        · exact hbooked _ _

/-- A placing that returns leaves the order that its receipt is about. -/
theorem placeOrder_ok (hok : (broker.placeOrder source request).2 = .ok receipt) :
    ∃ order ∈ (broker.placeOrder source request).1.orders,
      order.clientOrderId = request.clientOrderId ∧
      order.receipt request.clientOrderId = receipt := by
  unfold placeOrder at hok ⊢
  split
  next existing hfound =>
    rw [hfound] at hok
    exact ⟨existing, List.mem_of_find?_eq_some hfound, by simpa using List.find?_some hfound,
      Except.ok.inj hok⟩
  next hnone =>
    rw [hnone] at hok
    dsimp only at hok ⊢
    split
    next quoted error hquoted =>
      rw [hquoted] at hok
      cases hok
    next quoted marketPrice hquoted =>
      rw [hquoted] at hok
      dsimp only at hok ⊢
      split
      next hfillable =>
        rw [if_pos hfillable] at hok
        obtain ⟨later, hlater, hclient, hreceipt⟩ := applyFill_receipt { quoted with
          orders := quoted.orders.assign ((newOrder quoted.sequence request).settled marketPrice) }
          (Table.mem_assign.mpr (.inl rfl))
        refine ⟨later, hlater, hclient, ?_⟩
        rw [hreceipt]
        generalize DryRunBroker.applyFill _ _ = result at hok
        obtain ⟨applied, outcome⟩ := result
        cases outcome with
        | error error => cases hok
        | ok u => exact Except.ok.inj hok
      next hwaiting =>
        rw [if_neg hwaiting] at hok
        exact ⟨_, Table.mem_assign.mpr (.inl rfl), rfl, Except.ok.inj hok⟩

/-- The client id of an order finds it, and nothing changes. -/
theorem Sound.placeOrder_again (hsound : Sound broker) (hmem : order ∈ broker.orders)
    (hclient : order.clientOrderId = again.clientOrderId) :
    broker.placeOrder source again = (broker, .ok (order.receipt again.clientOrderId)) := by
  have hfound : broker.orders.rows.find?
      (fun other => decide (other.clientOrderId = again.clientOrderId)) = some order := by
    cases hfind : broker.orders.rows.find?
        (fun other => decide (other.clientOrderId = again.clientOrderId)) with
    | none => exact absurd hclient (by simpa using List.find?_eq_none.mp hfind order hmem)
    | some other =>
        have hother : other.clientOrderId = again.clientOrderId := by
          simpa using List.find?_some hfind
        rw [hsound.client other (List.mem_of_find?_eq_some hfind) order hmem
          (hother.trans hclient.symm)]
  unfold placeOrder
  rw [hfound]

end Later

end DryRunBroker

open DryRunBroker in
/-- In every run of the dry-run broker an order is placed once: whatever calls follow a placing that
returned, placing its client id again changes nothing and reports the same order, with no less
filled, and with the same report once the order was not pending. -/
theorem dry_run_places_once [DecidableEq ι] (prices : Symbol → Option Decimal)
    (buyingPower : Decimal) (holdings : Table Symbol DryRunHolding DryRunHolding.symbol)
    (before after : List (DryRunCall ι)) {source source' : PriceSource}
    {request again : OrderRequest ι} (hagain : again.clientOrderId = request.clientOrderId)
    {receipt : OrderReceipt ι}
    (hplaced : ((before.foldl step (opening prices buyingPower holdings)).placeOrder source request).2
      = .ok receipt) :
    let broker := (before ++ .placeOrder source request :: after).foldl step
      (opening prices buyingPower holdings)
    ∃ receipt', broker.placeOrder source' again = (broker, .ok receipt') ∧
      receipt'.brokerOrderId = receipt.brokerOrderId ∧ receipt'.quantity = receipt.quantity ∧
      receipt.filledQuantity ≤ receipt'.filledQuantity ∧
      (receipt.status ≠ .exact .pending → receipt' = receipt) := by
  intro broker
  have hopening : Sound (opening prices buyingPower holdings : DryRunBroker ι) :=
    opening_sound prices buyingPower holdings
  have hbefore := hopening.changes (run_changes hopening before)
  have hrun : broker = after.foldl step
      ((before.foldl step (opening prices buyingPower holdings)).placeOrder source request).1 :=
    List.foldl_append ..
  generalize before.foldl step (opening prices buyingPower holdings) = start
    at hbefore hplaced hrun
  have hstep := hbefore.changes (placeOrder_changes source request)
  obtain ⟨order, hmem, hclient, rfl⟩ := placeOrder_ok hplaced
  have hchanges := run_changes hstep after
  rw [← hrun] at hchanges
  obtain ⟨later, hlater, hsince⟩ := hstep.later_changes hchanges hmem
  refine ⟨later.receipt again.clientOrderId,
    (hstep.changes hchanges).placeOrder_again hlater
      ((hsince.clientOrderId.trans hclient).trans hagain.symm),
    congrArg some hsince.orderId, congrArg Nat.cast hsince.quantity,
    Int.ofNat_le.mpr hsince.filled_le, ?_⟩
  intro hfinal
  rw [hagain]
  exact hsince.receipt_eq (fun hpending => hfinal (congrArg StatusText.exact hpending)) _

namespace WaitingBuy

theorem threeShares : 0 < 3 := Nat.succ_pos 2

/-- A BUY of three shares ten dollars below the market. -/
def request : OrderRequest ℕ where
  clientOrderId := 7
  symbol := .allocation .tqqq
  side := .buy
  orderType := .limit
  quantity := 3
  price := some 90
  purpose := .coreRebalanceBuy
  quantity_pos := threeShares
  side_eq := rfl

def prices (_ : Symbol) : Option Decimal := some 100

theorem waits : ((DryRunBroker.opening prices 1000 .empty).placeOrder .cached request).2
    = .ok ((DryRunBroker.newOrder 1 request).receipt 7) := by
  have hbelow : DryRunBroker.isFillable request 100 = false := by decide +kernel
  simp only [DryRunBroker.placeOrder, DryRunBroker.opening, Table.empty, List.find?_nil,
    DryRunBroker.getPrice, prices, hbelow, Bool.false_eq_true, if_false]
  rfl

end WaitingBuy

open WaitingBuy DryRunBroker in
/-- The order is placed, canceled, and placed again. -/
theorem dry_run_places_once_waiting :
    let broker := ([] ++ DryRunCall.placeOrder .cached request :: [.cancelOrder 1]).foldl step
      (opening prices 1000 .empty)
    ∃ receipt', broker.placeOrder .cached request = (broker, .ok receipt') ∧
      receipt'.brokerOrderId = some 1 ∧ receipt'.quantity = 3 ∧ 0 ≤ receipt'.filledQuantity ∧
      (StatusText.exact .pending ≠ .exact .pending →
        receipt' = (newOrder 1 request).receipt 7) :=
  dry_run_places_once prices 1000 .empty [] [.cancelOrder 1] rfl waits

end JdHoldings

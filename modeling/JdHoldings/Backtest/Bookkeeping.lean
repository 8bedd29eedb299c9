import Mathlib.Algebra.Order.BigOperators.Group.List
import JdHoldings.Backtest.Holdings

/-!
# The books of the virtual engine

Between two sessions the engine either holds nothing, and is as it was before its first
cycle but for the cash, or it is in a cycle (`Booked`).  Entries, additional entries,
rebuys and both take-profits lead from one of the two to the other, in any order the
prices bring, and keep the books: the shares, the cost basis, the cash, and the cash flow
of the cycle add up to the trades.

Three of the amounts are not exact.  The pnl of a closed cycle is rounded to cents for the
report; the budget of an additional entry is rounded twice, and can exceed the exposure cap
by a cent; and the loader admits fees and rates with which a sale costs money, and the cash
can run out (`books_not_exact`).
-/

namespace JdHoldings

/-! ## What the loader admits -/

/-- What `validate_config` asks of these values.  The loader keeps the stage weights too,
and `cumulative_weights` are their running sums. -/
structure VirtualConfig.Admitted (config : VirtualConfig) : Prop where
  weights : ∃ stageWeights : List Decimal, stageWeights ≠ [] ∧
    (∀ weight ∈ stageWeights, 0 < weight) ∧ stageWeights.sum ≤ 1 ∧
    config.cumulativeWeights = (stageWeights.scanl (· + ·) 0).tail
  stages : config.stages.map Prod.fst = List.range' 2 (config.cumulativeWeights.length - 1)
  drops : (config.stages.map fun stage => stage.2.minDropFromAnchor).Pairwise (· < ·)
  scores : (config.stages.map fun stage => stage.2.minScore).Pairwise (· ≤ ·)
  entryScore_le : config.entryScore ≤ 100
  rates : config.takeProfit.tp1Base < config.takeProfit.tp2Base
  fraction_pos : 0 < config.takeProfit.tp1Fraction
  fraction_lt : config.takeProfit.tp1Fraction < 1
  buyFee_nonneg : 0 ≤ config.buyFee
  sellFee_nonneg : 0 ≤ config.sellFee
  capital_pos : 0 < config.capitalPerSymbol
  chase_nonneg : 0 ≤ config.entryMaxChasePct
  stopLoss : config.stopLossEnabled = false

/-- The running sums of positive weights lie above the start, and up to the whole sum. -/
theorem mem_tail_scanl {weights : List Decimal} {start sum : Decimal}
    (hpos : ∀ weight ∈ weights, 0 < weight)
    (hsum : sum ∈ (weights.scanl (· + ·) start).tail) :
    start < sum ∧ sum ≤ start + weights.sum := by
  induction weights generalizing start with
  | nil => cases hsum
  | cons weight rest ih =>
      have hweight : 0 < weight := hpos weight List.mem_cons_self
      have hrest : ∀ weight ∈ rest, 0 < weight := fun weight hmem =>
        hpos weight (List.mem_cons_of_mem _ hmem)
      have hnonneg : 0 ≤ rest.sum := List.sum_nonneg fun weight hmem => (hrest weight hmem).le
      rw [List.sum_cons]
      rw [List.scanl_cons, List.tail_cons] at hsum
      have hcases : sum = start + weight ∨ sum ∈ (rest.scanl (· + ·) (start + weight)).tail := by
        cases rest with
        | nil => simpa using hsum
        | cons next rest => simpa [List.scanl_cons] using hsum
      rcases hcases with rfl | hlater
      · constructor
        · linarith
        · linarith
      · obtain ⟨hlow, hhigh⟩ := ih hrest hlater
        constructor
        · linarith
        · linarith

theorem VirtualConfig.Admitted.weight_mem {config : VirtualConfig} (hconfig : config.Admitted)
    {weight : Decimal} (hweight : weight ∈ config.cumulativeWeights) : 0 < weight ∧ weight ≤ 1 := by
  obtain ⟨stageWeights, -, hpos, hsum, hcumulative⟩ := hconfig.weights
  rw [hcumulative] at hweight
  obtain ⟨hlow, hhigh⟩ := mem_tail_scanl hpos hweight
  constructor
  · exact hlow
  · linarith

/-! ## What a decision plans -/

/-- The budget of a stage: its share of the cap, less what is already staged. -/
def StageBudget (config : VirtualConfig) (cap staged budget : Decimal) : Prop :=
  ∃ weight ∈ config.cumulativeWeights,
    budget = quantizeCents (max 0 (quantizeCents (cap * weight) - staged))

theorem stageBudget_of_calculate {config : VirtualConfig} {cap staged target budget : Decimal}
    {stage : ℕ} (hbudget : calculateStageBudget config cap stage staged = .ok (target, budget)) :
    StageBudget config cap staged budget := by
  unfold calculateStageBudget at hbudget
  split at hbudget
  · cases hbudget
  · split at hbudget
    · cases hbudget
    next weight hweight =>
      cases hbudget
      exact ⟨weight, List.mem_of_getElem? hweight, rfl⟩

/-- What is spent within the budget of a stage exceeds the cap by a cent at most: the share
is rounded to cents, and so is the budget. -/
theorem StageBudget.staged_le {config : VirtualConfig} (hconfig : config.Admitted)
    {cap staged budget gross : Decimal} (hbudget : StageBudget config cap staged budget)
    (hstaged : 0 ≤ staged) (hgross : 0 < gross) (hle : gross ≤ budget) :
    staged + gross ≤ cap + 1 / 100 := by
  have htick : (0 : ℚ) < 1 / 100 := by norm_num
  obtain ⟨weight, hweight, hbudget⟩ := hbudget
  obtain ⟨hpos, hone⟩ := hconfig.weight_mem hweight
  -- something is left of the target
  have htarget : staged < quantizeCents (cap * weight) := by
    by_contra hnot
    have hnothing : budget ≤ 0 := by
      rw [hbudget, max_eq_left (by linarith)]
      exact Quantize.halfEven_nonpos htick (le_refl 0)
    linarith
  have hrounded : quantizeCents (cap * weight) ≤ cap * weight + 1 / 100 / 2 :=
    Quantize.halfEven_le_add_half htick _
  have hcap : 0 < cap * weight := by
    by_contra hnot
    have hnonpos : quantizeCents (cap * weight) ≤ 0 :=
      Quantize.halfEven_nonpos htick (not_lt.mp hnot)
    linarith
  have hshare : cap * weight ≤ cap := by
    have hcap : 0 < cap := pos_of_mul_pos_left hcap hpos.le
    exact mul_le_of_le_one_right hcap.le hone
  have hspent : budget ≤ quantizeCents (cap * weight) - staged + 1 / 100 / 2 := by
    rw [hbudget, max_eq_right (by linarith)]
    exact Quantize.halfEven_le_add_half htick _
  linarith

/-- What an allowed decision plans for a position. -/
inductive Planned (config : VirtualConfig) (position : VirtualPosition) (decision : TradeDecision) :
    Prop where
  | first (action : decision.action = .firstEntryCandidate) (empty : position.state = .empty)
      (budget : StageBudget config decision.cycleExposureCap 0 decision.plannedBudget)
  | add (action : decision.action = .addEntryCandidate) (held : position.state ≠ .empty)
      (budget : StageBudget config decision.cycleExposureCap position.stagedEntryCapital
        decision.plannedBudget)
  | rebuy (action : decision.action = .rebuyCandidate) (held : position.state ≠ .empty)

/-- Nothing speaks against an order in a state only if the state is allowed. -/
theorem state_mem_of_eligible {config : VirtualConfig} {state : PositionState}
    {allowedStates : List PositionState} {score : ScoreResult} {required minimum : ℕ}
    {capital : Decimal} {later : List String}
    (hreasons : evaluateEligibility config state allowedStates score required minimum capital
      ++ later = []) : state ∈ allowedStates := by
  by_contra hnot
  unfold evaluateEligibility at hreasons
  simp only [List.append_eq_nil_iff] at hreasons
  have hstate := hreasons.1.1.1.1.1.1
  by_cases hsafe : state = .safeMode
  · simp [hsafe] at hstate
  · simp [hsafe, hnot] at hstate

theorem expectedHoldingState_ne_empty {stage : ℕ} {state : PositionState}
    (hstate : expectedHoldingState stage = .ok state) : state ≠ .empty := by
  unfold expectedHoldingState at hstate
  split at hstate <;> cases hstate <;> decide

theorem evaluateEntry_planned {config : VirtualConfig} {snapshot : IndicatorSnapshot}
    {score : ScoreResult} {position : VirtualPosition}
    {sectors : Option (List (String × IndicatorSnapshot))} {decision : TradeDecision}
    (hdecision : evaluateEntry config snapshot score position sectors = .ok decision)
    (hallowed : decision.allowed = true) : Planned config position decision := by
  obtain ⟨⟨target, budget⟩, hbudget, hdecision⟩ := Except.bind_eq_ok.mp hdecision
  cases hdecision
  have hnone := List.isEmpty_iff.mp hallowed
  have hempty : position.state = .empty := by
    rw [List.append_assoc] at hnone
    exact List.mem_singleton.mp (state_mem_of_eligible hnone)
  exact .first (if_pos hallowed) hempty (stageBudget_of_calculate hbudget)

theorem evaluateAdditionalEntry_planned {config : VirtualConfig} {snapshot : IndicatorSnapshot}
    {score : ScoreResult} {position : VirtualPosition} {stage : ℕ} {rule : StageRule}
    {sectors : Option (List (String × IndicatorSnapshot))} {decision : TradeDecision}
    (hdecision : evaluateAdditionalEntry config snapshot score position stage rule sectors
      = .ok decision) (hallowed : decision.allowed = true) : Planned config position decision := by
  obtain ⟨⟨target, budget⟩, hbudget, hdecision⟩ := Except.bind_eq_ok.mp hdecision
  obtain ⟨held, hheld, hdecision⟩ := Except.bind_eq_ok.mp hdecision
  cases hdecision
  have hnone := List.isEmpty_iff.mp hallowed
  have hstate : position.state = held := by
    rw [List.append_assoc] at hnone
    exact List.mem_singleton.mp (state_mem_of_eligible hnone)
  refine .add (if_pos hallowed) ?_ (stageBudget_of_calculate hbudget)
  rw [hstate]
  exact expectedHoldingState_ne_empty hheld

theorem evaluateRebuy_planned {config : VirtualConfig} {snapshot : IndicatorSnapshot}
    {score : ScoreResult} {position : VirtualPosition}
    (hallowed : (evaluateRebuy config snapshot score position).allowed = true) :
    Planned config position (evaluateRebuy config snapshot score position) := by
  unfold evaluateRebuy at hallowed ⊢
  dsimp only at hallowed ⊢
  have hstate : position.state = .partialTp1 := by
    have hnone := List.isEmpty_iff.mp hallowed
    simp only [List.append_assoc] at hnone
    exact List.mem_singleton.mp (state_mem_of_eligible hnone)
  rw [if_pos hallowed]
  refine .rebuy rfl ?_
  rw [hstate]
  decide

/-- An allowed decision of the strategy is one of the three. -/
theorem evaluateStrategy_planned {config : VirtualConfig} {snapshot : IndicatorSnapshot}
    {score : ScoreResult} {position : VirtualPosition}
    {sectors : Option (List (String × IndicatorSnapshot))} {decision : TradeDecision}
    (hdecision : evaluateStrategy config snapshot score position sectors = .ok decision)
    (hallowed : decision.allowed = true) : Planned config position decision := by
  unfold evaluateStrategy at hdecision
  split at hdecision
  · exact evaluateEntry_planned hdecision hallowed
  · obtain ⟨matched, -, hdecision⟩ := Except.bind_eq_ok.mp hdecision
    split at hdecision
    · exact evaluateAdditionalEntry_planned hdecision hallowed
    · split at hdecision
      · rw [← Except.ok.inj hdecision] at hallowed ⊢
        exact evaluateRebuy_planned hallowed
      · rw [← Except.ok.inj hdecision] at hallowed
        cases hallowed

/-! ## What a fill pays -/

/-- A pending entry that is filled buys shares at a price above zero, and pays for them no
more than there is and no more than planned. -/
theorem executePending_pays {config : VirtualConfig} {slippage : Decimal}
    {pending : PendingEntry} {state : SimulationState} {timestamp : Session}
    {nextOpen : Decimal} {fill : SimulationState × Trade}
    (hfill : executePending config slippage pending state timestamp nextOpen
      = .ok (.ok fill)) :
    ∃ (fillPrice : Decimal) (quantity : ℕ),
      fillPending config pending state timestamp fillPrice quantity = .ok fill ∧
      0 < fillPrice ∧ 0 < quantity ∧
      (quantity : Decimal) * fillPrice * (1 + config.buyFee) ≤ state.cash ∧
      (quantity : Decimal) * fillPrice * (1 + config.buyFee) ≤ pending.decision.plannedBudget := by
  unfold executePending at hfill
  dsimp only at hfill
  split at hfill
  · cases hfill
  · split at hfill
    · cases hfill
    · obtain ⟨ceiling, -, hfill⟩ := Except.bind_eq_ok.mp hfill
      split at hfill
      · cases hfill
      · split at hfill
        · cases hfill
        next hquantity =>
          split at hfill
          · cases hfill
          next hpays =>
            obtain ⟨made, hmade, hfill⟩ := Except.bind_eq_ok.mp hfill
            cases hfill
            rw [not_or, not_lt, not_lt] at hpays
            refine ⟨_, _, hmade, ?_, not_lt.mp hquantity, hpays.1, hpays.2⟩
            -- at no other price the budget pays for a share
            by_contra hprice
            refine hquantity ?_
            unfold calculateOrderQuantity
            rw [if_pos (Or.inr (not_lt.mp hprice))]
            exact Nat.one_pos

/-! ## The trades of a cycle -/

/-- The cash a trade brings, fees included. -/
def Trade.flow (trade : Trade) : Decimal :=
  match trade.side with
  | .buy => -((trade.quantity : Decimal) * trade.price + trade.fee)
  | .sell => (trade.quantity : Decimal) * trade.price - trade.fee

/-- The cash some trades bring. -/
def cashFlow (trades : List Trade) : Decimal := (trades.map Trade.flow).sum

theorem cashFlow_concat (trades : List Trade) (trade : Trade) :
    cashFlow (trades ++ [trade]) = cashFlow trades + trade.flow := by
  simp [cashFlow]

theorem netQuantity_concat (trades : List Trade) (trade : Trade) :
    netQuantity (trades ++ [trade]) = netQuantity trades + trade.signed := by
  simp [netQuantity]

/-- The trades of a cycle. -/
def cycleTrades (trades : List Trade) (cycleId : Option ℕ) : List Trade :=
  trades.filter fun trade => trade.cycleId = cycleId

theorem cycleTrades_concat_self {trades : List Trade} {trade : Trade} {cycleId : Option ℕ}
    (hcycle : trade.cycleId = cycleId) :
    cycleTrades (trades ++ [trade]) cycleId = cycleTrades trades cycleId ++ [trade] := by
  simp [cycleTrades, hcycle]

theorem cycleTrades_concat_other {trades : List Trade} {trade : Trade} {cycleId : Option ℕ}
    (hcycle : trade.cycleId ≠ cycleId) :
    cycleTrades (trades ++ [trade]) cycleId = cycleTrades trades cycleId := by
  simp [cycleTrades, hcycle]

/-- A cycle no trade carries has no trades. -/
theorem cycleTrades_eq_nil {trades : List Trade} {cycleId : Option ℕ}
    (hnone : ∀ trade ∈ trades, trade.cycleId ≠ cycleId) : cycleTrades trades cycleId = [] :=
  List.filter_eq_nil_iff.mpr fun trade htrade => by simpa using hnone trade htrade

/-- What the state says of the trades so far and of the cycles closed. -/
structure Recorded (config : VirtualConfig) (state : SimulationState) (trades : List Trade)
    (closed : List ClosedCycle) : Prop where
  /-- Cycles are numbered from one. -/
  numbered : ∀ trade ∈ trades, ∃ number ≤ state.cycleNumber, trade.cycleId = some number
  shares : (state.quantity : ℤ) = netQuantity (cycleTrades trades state.cycleId)
  flows : state.cycleCashflows = cashFlow (cycleTrades trades state.cycleId)
  cash : state.cash = config.capitalPerSymbol + cashFlow trades
  closed : ∀ cycle ∈ closed, ∃ number ≤ state.cycleNumber, cycle.cycleId = some number ∧
    state.cycleId ≠ some number ∧
    cycle.pnl = quantizeCents (cashFlow (cycleTrades trades (some number)))

namespace Recorded

variable {config : VirtualConfig} {state next : SimulationState} {trades : List Trade}
  {closed : List ClosedCycle}

/-- A trade of the cycle that moves shares and cash by what it says. -/
theorem trade {trade : Trade} {number : ℕ} (hrecorded : Recorded config state trades closed)
    (hopen : state.cycleId = some number) (hle : number ≤ state.cycleNumber)
    (htrade : trade.cycleId = state.cycleId) (hcycle : next.cycleId = state.cycleId)
    (hnumber : next.cycleNumber = state.cycleNumber)
    (hquantity : (next.quantity : ℤ) = state.quantity + trade.signed)
    (hflows : next.cycleCashflows = state.cycleCashflows + trade.flow)
    (hcash : next.cash = state.cash + trade.flow) :
    Recorded config next (trades ++ [trade]) closed := by
  constructor
  case numbered =>
    intro other hother
    rw [hnumber]
    rcases List.mem_append.mp hother with hother | hother
    · exact hrecorded.numbered other hother
    · rw [List.mem_singleton.mp hother]
      exact ⟨number, hle, htrade.trans hopen⟩
  case shares =>
    rw [hcycle, cycleTrades_concat_self htrade, netQuantity_concat, ← hrecorded.shares, hquantity]
  case flows =>
    rw [hcycle, cycleTrades_concat_self htrade, cashFlow_concat, ← hrecorded.flows, hflows]
  case cash =>
    rw [cashFlow_concat, hcash, hrecorded.cash, add_assoc]
  case closed =>
    intro cycle hmem
    obtain ⟨earlier, hearlier, hid, hother, hpnl⟩ := hrecorded.closed cycle hmem
    refine ⟨earlier, hnumber ▸ hearlier, hid, hcycle ▸ hother, ?_⟩
    rw [cycleTrades_concat_other (htrade ▸ hother), hpnl]

/-- Between the cycles there are no shares, and no flows. -/
theorem of_none (hrecorded : Recorded config state trades closed) (hnone : state.cycleId = none) :
    cycleTrades trades state.cycleId = [] := by
  refine cycleTrades_eq_nil fun trade htrade hsame => ?_
  obtain ⟨number, -, hnumber⟩ := hrecorded.numbered trade htrade
  rw [hsame, hnone] at hnumber
  cases hnumber

/-- A new cycle has a number no trade carries. -/
theorem openCycle (hrecorded : Recorded config state trades closed) (hnone : state.cycleId = none) :
    Recorded config { state with
      cycleNumber := state.cycleNumber + 1
      cycleId := some (state.cycleNumber + 1) } trades closed := by
  have hold := hrecorded.of_none hnone
  have hnew : cycleTrades trades (some (state.cycleNumber + 1)) = [] := by
    refine cycleTrades_eq_nil fun trade htrade hsame => ?_
    obtain ⟨number, hle, hnumber⟩ := hrecorded.numbered trade htrade
    have hnumber' : number = state.cycleNumber + 1 := Option.some.inj (hnumber.symm.trans hsame)
    omega
  constructor
  case numbered =>
    intro trade htrade
    obtain ⟨number, hle, hnumber⟩ := hrecorded.numbered trade htrade
    exact ⟨number, Nat.le_succ_of_le hle, hnumber⟩
  case shares =>
    rw [hnew, ← hold]
    exact hrecorded.shares
  case flows =>
    rw [hnew, ← hold]
    exact hrecorded.flows
  case cash => exact hrecorded.cash
  case closed =>
    intro cycle hmem
    obtain ⟨number, hle, hid, -, hpnl⟩ := hrecorded.closed cycle hmem
    refine ⟨number, Nat.le_succ_of_le hle, hid, ?_, hpnl⟩
    simp only [ne_eq, Option.some.injEq]
    omega

/-- A cycle without shares is closed with the cash it brought, in cents. -/
theorem closeCycle {timestamp : Session} {number : ℕ}
    (hrecorded : Recorded config state trades closed) (hopen : state.cycleId = some number)
    (hle : number ≤ state.cycleNumber) :
    Recorded config state.resetCycle trades (closed ++ [state.closedCycle timestamp]) := by
  have hnone : cycleTrades trades none = [] := by
    refine cycleTrades_eq_nil fun trade htrade hsame => ?_
    obtain ⟨number, -, hnumber⟩ := hrecorded.numbered trade htrade
    rw [hsame] at hnumber
    cases hnumber
  constructor
  case numbered => exact hrecorded.numbered
  case shares =>
    simp only [SimulationState.resetCycle, hnone]
    rfl
  case flows =>
    simp only [SimulationState.resetCycle, hnone]
    rfl
  case cash => exact hrecorded.cash
  case closed =>
    intro cycle hmem
    rcases List.mem_append.mp hmem with hmem | hmem
    · obtain ⟨earlier, hearlier, hid, -, hpnl⟩ := hrecorded.closed cycle hmem
      exact ⟨earlier, hearlier, hid, Option.some_ne_none _ ∘ Eq.symm, hpnl⟩
    · rw [List.mem_singleton.mp hmem]
      refine ⟨number, hle, hopen, Option.some_ne_none _ ∘ Eq.symm, ?_⟩
      simp only [SimulationState.closedCycle, hrecorded.flows, hopen]

end Recorded

/-! ## Inside and outside of a cycle -/

/-- A sale does not cost money. -/
structure VirtualConfig.SalesPay (config : VirtualConfig) : Prop where
  sellFee_le : config.sellFee ≤ 1
  tp1Base_ge : -1 ≤ config.takeProfit.tp1Base

theorem ceilToTick_nonneg {value : Decimal} (hvalue : 0 ≤ value) : 0 ≤ ceilToTick value := by
  unfold ceilToTick
  have hceil : 0 ≤ ⌈value / (1 / 100)⌉ := Int.ceil_nonneg (div_nonneg hvalue (by norm_num))
  exact mul_nonneg (by exact_mod_cast hceil) (by norm_num)

/-- No take-profit price is below zero. -/
theorem calculateTakeProfit_nonneg {config : VirtualConfig} (hconfig : config.Admitted)
    (hsales : config.SalesPay) {averagePrice atrPct : Decimal} {quantity : ℕ} {plan : TakeProfitPlan}
    (hplan : calculateTakeProfit config averagePrice quantity atrPct = .ok plan) :
    0 ≤ plan.tp1Price ∧ 0 ≤ plan.tp2Price := by
  unfold calculateTakeProfit at hplan
  split at hplan
  · cases hplan
  next hprice =>
    split at hplan
    · cases hplan
    · cases hplan
      have haverage : 0 ≤ averagePrice := (not_le.mp hprice).le
      have hfirst := hsales.tp1Base_ge
      have hsecond := hconfig.rates
      have hrate : ∀ base multiplier : Decimal, -1 ≤ base →
          0 ≤ averagePrice * (1 + if config.takeProfit.useAtr = true then max base multiplier
            else base) := by
        intro base multiplier hbase
        refine mul_nonneg haverage ?_
        split
        · linarith [le_max_left base multiplier]
        · linarith
      exact ⟨ceilToTick_nonneg (hrate _ _ hfirst), ceilToTick_nonneg (hrate _ _ (by linarith))⟩

/-- The books inside of a cycle. -/
structure Holding (config : VirtualConfig) (state : SimulationState) (trades : List Trade)
    (closed : List ClosedCycle) : Prop extends Recorded config state trades closed where
  held : state.state ≠ .empty
  cycle : state.cycleId = some state.cycleNumber
  basis : state.currentCostBasis = state.averagePrice * state.quantity
  staged_nonneg : 0 ≤ state.stagedEntryCapital
  staged_le : state.stagedEntryCapital ≤ state.cycleExposureCap + 1 / 100
  cash_nonneg : config.SalesPay → 0 ≤ state.cash
  prices_nonneg : config.SalesPay → ∀ plan, state.tpPlan = some plan →
    0 ≤ plan.tp1Price ∧ 0 ≤ plan.tp2Price

/-- The books between two sessions. -/
inductive Booked (config : VirtualConfig) (state : SimulationState) (trades : List Trade)
    (closed : List ClosedCycle) : Prop where
  | idle (recorded : Recorded config state trades closed) (reset : state.resetCycle = state)
      (cash_nonneg : config.SalesPay → 0 ≤ state.cash)
  | holding (holding : Holding config state trades closed) (shares : 0 < state.quantity)

section Books

variable {config : VirtualConfig} {state : SimulationState} {trades : List Trade}
  {closed : List ClosedCycle}

theorem Booked.initial (hconfig : config.Admitted) :
    Booked config (initialLoop config).state [] [] := by
  have hrecorded : Recorded config (initialLoop config).state [] [] := by
    constructor <;> simp [initialLoop, cashFlow, netQuantity, cycleTrades]
  exact .idle hrecorded rfl fun _ => hconfig.capital_pos.le

/-- A position that holds something is inside of a cycle. -/
theorem Booked.holding_of_held (hbooked : Booked config state trades closed)
    (hheld : state.state ≠ .empty) :
    Holding config state trades closed ∧ 0 < state.quantity := by
  cases hbooked with
  | idle _ hreset _ =>
      refine absurd ?_ hheld
      rw [← hreset]
      rfl
  | holding hholding hshares => exact ⟨hholding, hshares⟩

theorem Booked.idle_of_empty (hbooked : Booked config state trades closed)
    (hempty : state.state = .empty) :
    Recorded config state trades closed ∧ state.resetCycle = state := by
  cases hbooked with
  | idle hrecorded hreset _ => exact ⟨hrecorded, hreset⟩
  | holding hholding _ => exact absurd hempty hholding.held

/-! ## Buying -/

section Fill

variable {pending : PendingEntry} {filled : SimulationState} {trade : Trade} {timestamp : Session}
  {fillPrice : Decimal} {quantity : ℕ}

/-- The parts of a fill that do not depend on what it was for: one trade of the cycle the
state is in then, and the shares at their cost. -/
structure Filled (config : VirtualConfig) (state filled : SimulationState) (trade : Trade)
    (fillPrice : Decimal) (quantity : ℕ) : Prop where
  trade_cycle : trade.cycleId = filled.cycleId
  quantity_eq : filled.quantity = state.quantity + quantity
  signed : trade.signed = quantity
  flow : trade.flow = -((quantity : Decimal) * fillPrice * (1 + config.buyFee))
  flows : filled.cycleCashflows = state.cycleCashflows + trade.flow
  cash : filled.cash = state.cash + trade.flow
  basis : 0 < quantity → filled.currentCostBasis = filled.averagePrice * filled.quantity
  plan : ∃ averagePrice held atrPct plan,
    calculateTakeProfit config averagePrice held atrPct = .ok plan ∧ filled.tpPlan = some plan

/-- What an entry is for leaves shares and cash alone. -/
theorem SimulationState.afterEntry_frame {entered : SimulationState} {decision : TradeDecision}
    {gross : Decimal} (hentered : state.afterEntry decision fillPrice gross = .ok entered) :
    entered.quantity = state.quantity ∧ entered.averagePrice = state.averagePrice ∧
      entered.currentCostBasis = state.currentCostBasis ∧ entered.cash = state.cash ∧
      entered.cycleCashflows = state.cycleCashflows := by
  unfold afterEntry at hentered
  cases haction : decision.action with
  | addEntryCandidate =>
      simp only [haction] at hentered
      obtain ⟨held, -, hentered⟩ := Except.bind_eq_ok.mp hentered
      cases hentered
      exact ⟨rfl, rfl, rfl, rfl, rfl⟩
  | firstEntryCandidate | noAction | rebuyCandidate | riskReview | coreRebalanceBuy =>
      simp only [haction] at hentered
      cases hentered
      exact ⟨rfl, rfl, rfl, rfl, rfl⟩

/-- The state a pending entry is entered from: the shares are bought. -/
def SimulationState.bought (state : SimulationState) (config : VirtualConfig) (fillPrice : Decimal)
    (quantity : ℕ) : SimulationState :=
  { state with
    quantity := state.quantity + quantity
    averagePrice := (state.currentCostBasis + (quantity : Decimal) * fillPrice) /
      ((state.quantity + quantity : ℕ) : Decimal)
    currentCostBasis := state.currentCostBasis + (quantity : Decimal) * fillPrice
    cash := state.cash - (quantity : Decimal) * fillPrice * (1 + config.buyFee)
    cycleCashflows :=
      state.cycleCashflows - (quantity : Decimal) * fillPrice * (1 + config.buyFee) }

theorem fillPending_filled
    (hfill : fillPending config pending state timestamp fillPrice quantity = .ok (filled, trade)) :
    ∃ entered, (state.bought config fillPrice quantity).afterEntry pending.decision fillPrice
        ((quantity : Decimal) * fillPrice * (1 + config.buyFee)) = .ok entered ∧
      (∃ plan, filled = { entered with tpPlan := some plan, tp1Done := false }) ∧
      Filled config state filled trade fillPrice quantity := by
  obtain ⟨entered, hentered, hfill⟩ := Except.bind_eq_ok.mp hfill
  obtain ⟨plan, hplan, hfill⟩ := Except.bind_eq_ok.mp hfill
  cases hfill
  obtain ⟨hquantity, haverage, hcost, hcash, hflows⟩ :=
    SimulationState.afterEntry_frame hentered
  refine ⟨entered, hentered, ⟨plan, rfl⟩, ?_⟩
  have hpaid : ∀ before : Decimal,
      before - (quantity : Decimal) * fillPrice * (1 + config.buyFee) =
        before + -((quantity : Decimal) * fillPrice + ((quantity : Decimal) * fillPrice *
          (1 + config.buyFee) - (quantity : Decimal) * fillPrice)) := by
    intro before
    ring
  constructor
  case trade_cycle => rfl
  case quantity_eq => exact hquantity
  case signed => rfl
  case flow =>
    have hflow := hpaid 0
    rw [zero_sub, zero_add] at hflow
    exact hflow.symm
  case flows => exact hflows.trans (hpaid state.cycleCashflows)
  case cash => exact hcash.trans (hpaid state.cash)
  case basis =>
    intro hpos
    have hheld : ((state.quantity + quantity : ℕ) : Decimal) ≠ 0 := by
      exact_mod_cast (Nat.add_pos_right state.quantity hpos).ne'
    simp only [hquantity, haverage, hcost]
    rw [div_mul_cancel₀ _ hheld]
  case plan => exact ⟨_, _, _, plan, hplan, rfl⟩

/-- A fill keeps the books of the cycle it is booked in. -/
theorem Filled.holding {base : SimulationState}
    (hfilled : Filled config state filled trade fillPrice quantity) (hconfig : config.Admitted)
    (hpos : 0 < quantity)
    (hcash : (quantity : Decimal) * fillPrice * (1 + config.buyFee) ≤ state.cash)
    (hrecorded : Recorded config base trades closed)
    (hbase : base.quantity = state.quantity ∧ base.cash = state.cash ∧
      base.cycleCashflows = state.cycleCashflows)
    (hcycle : filled.cycleId = some filled.cycleNumber) (hsame : base.cycleId = filled.cycleId)
    (hnumber : base.cycleNumber = filled.cycleNumber) (hheld : filled.state ≠ .empty)
    (hstaged : 0 ≤ filled.stagedEntryCapital)
    (hle : filled.stagedEntryCapital ≤ filled.cycleExposureCap + 1 / 100) :
    Holding config filled (trades ++ [trade]) closed ∧ 0 < filled.quantity := by
  obtain ⟨hquantity, hcash', hflows⟩ := hbase
  have hbought : Recorded config filled (trades ++ [trade]) closed := by
    refine hrecorded.trade (hsame.trans hcycle) (le_of_eq hnumber.symm)
      (hfilled.trade_cycle.trans hsame.symm) hsame.symm hnumber.symm ?_ ?_ ?_
    · rw [hfilled.quantity_eq, hfilled.signed, hquantity]
      push_cast
      rfl
    · rw [hfilled.flows, hflows]
    · rw [hfilled.cash, hcash']
  have hshares : 0 < filled.quantity := by
    rw [hfilled.quantity_eq]
    omega
  refine ⟨⟨hbought, hheld, hcycle, hfilled.basis hpos, hstaged, hle, ?_, ?_⟩, hshares⟩
  · intro _
    rw [hfilled.cash, hfilled.flow]
    linarith
  · intro hsales plan hplan
    obtain ⟨_, _, _, made, hmade, hsome⟩ := hfilled.plan
    obtain rfl : made = plan := Option.some.inj (hsome.symm.trans hplan)
    exact calculateTakeProfit_nonneg hconfig hsales hmade

/-- A planned entry that is filled leads into a cycle, or goes on in it. -/
theorem Booked.fill (hbooked : Booked config state trades closed) (hconfig : config.Admitted)
    (hplanned : Planned config state.snapshot pending.decision)
    (hfill : fillPending config pending state timestamp fillPrice quantity = .ok (filled, trade))
    (hprice : 0 < fillPrice) (hpos : 0 < quantity)
    (hcash : (quantity : Decimal) * fillPrice * (1 + config.buyFee) ≤ state.cash)
    (hbudget : (quantity : Decimal) * fillPrice * (1 + config.buyFee) ≤
      pending.decision.plannedBudget) :
    Holding config filled (trades ++ [trade]) closed ∧ 0 < filled.quantity := by
  obtain ⟨entered, hentered, ⟨plan, hfilled⟩, hparts⟩ := fillPending_filled hfill
  have hgross : 0 < (quantity : Decimal) * fillPrice * (1 + config.buyFee) := by
    have hshares : (0 : Decimal) < quantity := by exact_mod_cast hpos
    have hfee := hconfig.buyFee_nonneg
    positivity
  cases hplanned with
  | first haction hempty hstage =>
      -- The first BUY of a cycle opens it.
      simp only [SimulationState.afterEntry, haction] at hentered
      cases hentered
      obtain ⟨hrecorded, hreset⟩ := hbooked.idle_of_empty hempty
      have hnone : state.cycleId = none := by rw [← hreset]; rfl
      have hle := hstage.staged_le hconfig (le_refl 0) hgross hbudget
      rw [zero_add] at hle
      subst hfilled
      exact hparts.holding hconfig hpos hcash (hrecorded.openCycle hnone) ⟨rfl, rfl, rfl⟩ rfl rfl
        rfl nofun hgross.le hle
  | add haction hheld hstage =>
      -- A further stage adds to the money staged so far.
      obtain ⟨hholding, -⟩ := hbooked.holding_of_held hheld
      simp only [SimulationState.afterEntry, haction] at hentered
      obtain ⟨holds, hholds, hentered⟩ := Except.bind_eq_ok.mp hentered
      cases hentered
      have hle := hstage.staged_le hconfig hholding.staged_nonneg hgross hbudget
      have hstaged := hholding.staged_nonneg
      subst hfilled
      refine hparts.holding hconfig hpos hcash hholding.toRecorded ⟨rfl, rfl, rfl⟩ hholding.cycle
        rfl rfl (expectedHoldingState_ne_empty hholds) ?_ hle
      exact add_nonneg hstaged hgross.le
  | rebuy haction hheld =>
      -- A rebuy stays in its stage and stages no more money.
      obtain ⟨hholding, -⟩ := hbooked.holding_of_held hheld
      simp only [SimulationState.afterEntry, haction] at hentered
      cases hentered
      subst hfilled
      exact hparts.holding hconfig hpos hcash hholding.toRecorded ⟨rfl, rfl, rfl⟩ hholding.cycle
        rfl rfl nofun hholding.staged_nonneg hholding.staged_le

end Fill

/-! ## Selling -/

/-- The marks of the strategy that no book reads. -/
theorem Holding.marked (hholding : Holding config state trades closed) {marks : PositionState}
    {filledQty : ℕ} {done armed : Bool} (hmarks : marks ≠ .empty) :
    Holding config { state with
      state := marks, tp1FilledQty := filledQty, tp1Done := done, rebuyRecoveryArmed := armed }
      trades closed where
  numbered := hholding.numbered
  shares := hholding.shares
  flows := hholding.flows
  cash := hholding.cash
  closed := hholding.closed
  held := hmarks
  cycle := hholding.cycle
  basis := hholding.basis
  staged_nonneg := hholding.staged_nonneg
  staged_le := hholding.staged_le
  cash_nonneg := hholding.cash_nonneg
  prices_nonneg := hholding.prices_nonneg

/-- A sale keeps the books of the cycle. -/
theorem Holding.sell (hholding : Holding config state trades closed) (timestamp : Session)
    {price : Decimal} (quantity : ℕ) (purpose : TradePurpose)
    (hprice : config.SalesPay → 0 ≤ price) :
    Holding config (state.sell config timestamp price quantity purpose).1
      (trades ++ [(state.sell config timestamp price quantity purpose).2]) closed := by
  have hrecorded : Recorded config (state.sell config timestamp price quantity purpose).1
      (trades ++ [(state.sell config timestamp price quantity purpose).2]) closed :=
    hholding.toRecorded.trade hholding.cycle (le_refl _) rfl rfl rfl
      (state.sell_quantity config timestamp price quantity purpose) rfl rfl
  refine ⟨hrecorded, hholding.held, hholding.cycle, rfl, hholding.staged_nonneg,
    hholding.staged_le, fun hsales => ?_, hholding.prices_nonneg⟩
  have hcash := hholding.cash_nonneg hsales
  have hgross : 0 ≤ ((min quantity state.quantity : ℕ) : Decimal) * price :=
    mul_nonneg (Nat.cast_nonneg _) (hprice hsales)
  have hfee := mul_le_of_le_one_right hgross hsales.sellFee_le
  simp only [SimulationState.sell]
  linarith

section TakeProfit

variable {plan : TakeProfitPlan}

theorem Holding.takeFirstProfit (hholding : Holding config state trades closed)
    (hplan : state.tpPlan = some plan) (timestamp : Session) (high : Decimal) :
    Holding config (state.takeFirstProfit config plan timestamp high).1
      (trades ++ (state.takeFirstProfit config plan timestamp high).2) closed ∧
    (state.takeFirstProfit config plan timestamp high).1.tpPlan = some plan := by
  unfold SimulationState.takeFirstProfit
  split
  · have hsold := hholding.sell timestamp (min plan.tp1Quantity state.quantity) .tp1
      fun hsales => (hholding.prices_nonneg hsales plan hplan).1
    dsimp only
    split
    · exact ⟨hsold.marked nofun, hplan⟩
    · exact ⟨hsold.marked hsold.held, hplan⟩
  · rw [List.append_nil]
    exact ⟨hholding, hplan⟩

theorem Holding.takeSecondProfit (hholding : Holding config state trades closed)
    (hplan : state.tpPlan = some plan) (timestamp : Session) (high : Decimal) :
    Holding config (state.takeSecondProfit config plan timestamp high).1
      (trades ++ (state.takeSecondProfit config plan timestamp high).2) closed := by
  unfold SimulationState.takeSecondProfit
  split
  · exact hholding.sell timestamp state.quantity .tp2
      fun hsales => (hholding.prices_nonneg hsales plan hplan).2
  · rw [List.append_nil]
    exact hholding

/-- The take-profits of a session sell within the cycle, and close it when nothing is left. -/
theorem Booked.processTakeProfit (hbooked : Booked config state trades closed)
    (timestamp : Session) (high : Decimal) :
    Booked config (processTakeProfit config state timestamp high).1
      (trades ++ (processTakeProfit config state timestamp high).2)
      (closed ++ closedCycles config state timestamp high) := by
  cases hbooked with
  | idle hrecorded hreset hcash =>
      have hnone : state.tpPlan = none := by rw [← hreset]; rfl
      simp only [JdHoldings.processTakeProfit, closedCycles, hnone, List.append_nil]
      exact .idle hrecorded hreset hcash
  | holding hholding hshares =>
      cases hplan : state.tpPlan with
      | none =>
          simp only [JdHoldings.processTakeProfit, closedCycles, hplan, List.append_nil]
          exact .holding hholding hshares
      | some plan =>
          obtain ⟨hfirst, hkept⟩ := hholding.takeFirstProfit hplan timestamp high
          have hsecond := hfirst.takeSecondProfit hkept timestamp high
          simp only [JdHoldings.processTakeProfit, closedCycles, hplan, if_neg hshares.ne',
            ← List.append_assoc]
          split
          · exact .idle (hsecond.toRecorded.closeCycle hsecond.cycle (le_refl _)) rfl
              hsecond.cash_nonneg
          next hleft =>
            rw [List.append_nil]
            exact .holding hsecond (Nat.pos_of_ne_zero hleft)

end TakeProfit

/-! ## A session -/

theorem Booked.armRecovery (hbooked : Booked config state trades closed)
    (snapshot : IndicatorSnapshot) :
    Booked config (state.armRecovery config snapshot) trades closed := by
  unfold SimulationState.armRecovery
  split
  next harmed =>
    have hheld : state.state ≠ .empty := by
      rw [harmed.1]
      decide
    obtain ⟨hholding, hshares⟩ := hbooked.holding_of_held hheld
    exact .holding (hholding.marked hheld) hshares
  · exact hbooked

/-- The pending entry of a session keeps the books. -/
theorem Booked.settlePending (hbooked : Booked config state trades closed)
    (hconfig : config.Admitted) {slippage nextOpen : Decimal} {pending : Option PendingEntry}
    (hplanned : ∀ entry, pending = some entry → Planned config state.snapshot entry.decision)
    {opened : SimulationState} {bought : List Trade} {timestamp : Session}
    (hsettle : settlePending config slippage pending state timestamp nextOpen
      = .ok (opened, bought)) : Booked config opened (trades ++ bought) closed := by
  cases pending with
  | none =>
      cases hsettle
      rwa [List.append_nil]
  | some entry =>
      obtain ⟨outcome, houtcome, hsettle⟩ := Except.bind_eq_ok.mp hsettle
      cases outcome with
      | error reason =>
          cases hsettle
          rwa [List.append_nil]
      | ok fill =>
          obtain ⟨filled, trade⟩ := fill
          cases hsettle
          obtain ⟨fillPrice, quantity, hfill, hprice, hpos, hcash, hbudget⟩ :=
            executePending_pays houtcome
          obtain ⟨hholding, hshares⟩ := hbooked.fill hconfig (hplanned entry rfl) hfill hprice hpos
            hcash hbudget
          exact .holding hholding hshares

/-- The books of the loop, and what is pending in it. -/
structure LoopState.Kept (config : VirtualConfig) (loop : LoopState) : Prop where
  booked : Booked config loop.state loop.trades loop.closedCycles
  planned : ∀ entry, loop.pending = some entry →
    Planned config loop.state.snapshot entry.decision

end Books

/-- A session keeps the books when no idle cash yields. -/
theorem LoopState.Kept.session {parts : EngineParts} {config : VirtualConfig} {input : EngineInput}
    {loop next : LoopState} {day : Session × EngineDay} (hkept : loop.Kept config)
    (hconfig : config.Admitted) (hidle : config.idleCashEnabled = false)
    (hstep : parts.sessionStep config input loop day = .ok next) : next.Kept config := by
  have haccrued : loop.state.accrue config day.2.idleReturn = loop.state := by
    simp [SimulationState.accrue, hidle]
  obtain ⟨snapshot, -, hstep⟩ := Except.bind_eq_ok.mp hstep
  obtain ⟨spy, -, hstep⟩ := Except.bind_eq_ok.mp hstep
  obtain ⟨qqq, -, hstep⟩ := Except.bind_eq_ok.mp hstep
  obtain ⟨regime, -, hstep⟩ := Except.bind_eq_ok.mp hstep
  obtain ⟨sectors, -, hstep⟩ := Except.bind_eq_ok.mp hstep
  obtain ⟨⟨opened, bought⟩, hsettle, hstep⟩ := Except.bind_eq_ok.mp hstep
  obtain ⟨decision, hdecision, hstep⟩ := Except.bind_eq_ok.mp hstep
  cases hstep
  rw [haccrued] at hsettle
  constructor
  case booked =>
    have hopened := hkept.booked.settlePending hconfig hkept.planned hsettle
    exact (hopened.processTakeProfit day.1 snapshot.high).armRecovery snapshot
  case planned =>
    intro entry hentry
    dsimp only at hentry
    split at hentry
    next hallowed =>
      cases hentry
      exact evaluateStrategy_planned hdecision hallowed
    · cases hentry

/-- So does a run of sessions. -/
theorem LoopState.Kept.sessions {parts : EngineParts} {config : VirtualConfig}
    {input : EngineInput} {days : List (Session × EngineDay)} {loop final : LoopState}
    (hkept : loop.Kept config) (hconfig : config.Admitted)
    (hidle : config.idleCashEnabled = false)
    (hloop : days.foldlM (parts.sessionStep config input) loop = .ok final) :
    final.Kept config := by
  induction days generalizing loop with
  | nil =>
      cases hloop
      exact hkept
  | cons day days ih =>
      obtain ⟨next, hstep, hloop⟩ := Except.bind_eq_ok.mp (by simpa using hloop)
      exact ih (hkept.session hconfig hidle hstep) hloop

/-! ## The books of a run -/

/-- The loop of `run` is in this state after some of its sessions. -/
def EngineParts.Reaches (parts : EngineParts) (config : VirtualConfig) (input : EngineInput)
    (loop : LoopState) : Prop :=
  ∃ days front, parts.days config input = .ok days ∧ front <+: days.rows ∧
    front.foldlM (parts.sessionStep config input) (initialLoop config) = .ok loop

/-- What the books say after a session. -/
structure LoopState.Sound (config : VirtualConfig) (loop : LoopState) : Prop where
  cash_nonneg : config.SalesPay → 0 ≤ loop.state.cash
  basis : loop.state.currentCostBasis = loop.state.averagePrice * loop.state.quantity
  empty_iff : loop.state.state = .empty ↔ loop.state.quantity = 0
  staged_le : loop.state.stagedEntryCapital ≤ loop.state.cycleExposureCap + 1 / 100
  shares : (loop.state.quantity : ℤ) = netQuantity (cycleTrades loop.trades loop.state.cycleId)
  cash : loop.state.cash = config.capitalPerSymbol + cashFlow loop.trades
  pnl : ∀ cycle ∈ loop.closedCycles,
    cycle.pnl = quantizeCents (cashFlow (cycleTrades loop.trades cycle.cycleId))

theorem Recorded.pnl {config : VirtualConfig} {state : SimulationState} {trades : List Trade}
    {closed : List ClosedCycle} (hrecorded : Recorded config state trades closed) :
    ∀ cycle ∈ closed, cycle.pnl = quantizeCents (cashFlow (cycleTrades trades cycle.cycleId)) := by
  intro cycle hcycle
  obtain ⟨number, -, hid, -, hpnl⟩ := hrecorded.closed cycle hcycle
  rw [hid, hpnl]

theorem LoopState.Kept.sound {config : VirtualConfig} {loop : LoopState}
    (hkept : loop.Kept config) : loop.Sound config := by
  cases hkept.booked with
  | idle hrecorded hreset hcash =>
      refine ⟨hcash, ?_, ?_, ?_, hrecorded.shares, hrecorded.cash, hrecorded.pnl⟩
      · rw [← hreset]
        simp [SimulationState.resetCycle]
      · rw [← hreset]
        simp [SimulationState.resetCycle]
      · rw [← hreset]
        simp [SimulationState.resetCycle]
  | holding hholding hshares =>
      refine ⟨hholding.cash_nonneg, hholding.basis, ?_, hholding.staged_le, hholding.shares,
        hholding.cash, hholding.pnl⟩
      constructor
      · intro hempty
        exact absurd hempty hholding.held
      · intro hzero
        omega

/-- For every price history and every configuration the loader admits, without idle cash,
the books are kept after every session. -/
theorem books_kept {parts : EngineParts} {config : VirtualConfig} {input : EngineInput}
    {loop : LoopState} (hconfig : config.Admitted) (hidle : config.idleCashEnabled = false)
    (hreached : parts.Reaches config input loop) : loop.Sound config := by
  obtain ⟨days, front, -, -, hloop⟩ := hreached
  have hinitial : (initialLoop config).Kept config := by
    refine ⟨Booked.initial hconfig, ?_⟩
    intro entry hentry
    cases hentry
  exact (hinitial.sessions hconfig hidle hloop).sound

/-! ## Amounts that are not exact -/

theorem VirtualConfig.strategyYaml_admitted : strategyYaml.Admitted where
  weights := by
    refine ⟨[4 / 10, 3 / 10, 2 / 10], nofun, ?_, ?_, ?_⟩
    · simp
    · norm_num
    · norm_num [strategyYaml]
  stages := by simp [strategyYaml, List.range']
  drops := by norm_num [strategyYaml]
  scores := by simp [strategyYaml]
  entryScore_le := by simp [strategyYaml]
  rates := by norm_num [strategyYaml]
  fraction_pos := by norm_num [strategyYaml]
  fraction_lt := by norm_num [strategyYaml]
  buyFee_nonneg := by norm_num [strategyYaml]
  sellFee_nonneg := by norm_num [strategyYaml]
  capital_pos := by norm_num [strategyYaml]
  chase_nonneg := by norm_num [strategyYaml]
  stopLoss := rfl

/-- What is true of the last state of a run is true of one it reaches. -/
theorem exists_reached {parts : EngineParts} {config : VirtualConfig} {input : EngineInput}
    {P : LoopState → Prop} [DecidablePred P]
    (hlast : (parts.days config input >>= fun days =>
      days.rows.foldlM (parts.sessionStep config input) (initialLoop config)).toOption.any
        (fun loop => decide (P loop)) = true) :
    ∃ loop, parts.Reaches config input loop ∧ P loop := by
  obtain ⟨loop, hloop, hlast⟩ := (Option.any_eq_true _ _).mp hlast
  cases hrun : parts.days config input >>= fun days =>
      days.rows.foldlM (parts.sessionStep config input) (initialLoop config) with
  | error error =>
      rw [hrun] at hloop
      cases hloop
  | ok last =>
      rw [hrun] at hloop
      cases hloop
      obtain ⟨days, hdays, hrun⟩ := Except.bind_eq_ok.mp hrun
      exact ⟨loop, ⟨days, days.rows, hdays, List.prefix_rfl, hrun⟩, of_decide_eq_true hlast⟩

/-- After a history with an entry and both take-profits. -/
theorem books_kept_missing_sessions :
    ∃ loop, SampleFrames.parts.Reaches VirtualConfig.strategyYaml MissingSessions.input loop ∧
      loop.closedCycles ≠ [] ∧ loop.Sound VirtualConfig.strategyYaml := by
  obtain ⟨loop, hreached, hclosed⟩ :
      ∃ loop, SampleFrames.parts.Reaches VirtualConfig.strategyYaml MissingSessions.input loop ∧
        loop.closedCycles ≠ [] :=
    exists_reached (by decide +kernel)
  exact ⟨loop, hreached, hclosed, books_kept VirtualConfig.strategyYaml_admitted rfl hreached⟩

namespace Staged

/-- Two stages, half of the cap each, and a cap of half the capital. -/
def config : VirtualConfig := { VirtualConfig.strategyYaml with
  buyFee := 0
  score82To87 := 1 / 2
  score88To91 := 1 / 2
  score92To100 := 1 / 2
  cumulativeWeights := [1 / 2, 1]
  stages := [(2, ⟨2 / 100, 55⟩)] }

/-- After a signal the sixty-first session opens at 98.0391 and closes at 95 with another one,
and the next session opens at 94.3398. -/
def tqqq : Frame := SampleFrames.frame 64 fun day =>
  match day with
  | 60 => SampleFrames.bar 95 101 94 100 2000
  | 61 => SampleFrames.bar (980391 / 10000) 99 90 95 2000
  | 62 => SampleFrames.bar (943398 / 10000) 95 94 (945 / 10) 1000
  | 63 => SampleFrames.calm 95
  | 64 => SampleFrames.calm 95
  | _ => SampleFrames.bar 110 110 110 110 1000

def input : EngineInput := { MissingSessions.input with
  symbolData := tqqq
  slippage := 0 }

theorem config_admitted : config.Admitted where
  weights := by
    refine ⟨[1 / 2, 1 / 2], nofun, ?_, ?_, ?_⟩
    · simp
    · norm_num
    · norm_num [config]
  stages := by simp [config]
  drops := by simp [config]
  scores := by simp [config]
  entryScore_le := VirtualConfig.strategyYaml_admitted.entryScore_le
  rates := VirtualConfig.strategyYaml_admitted.rates
  fraction_pos := VirtualConfig.strategyYaml_admitted.fraction_pos
  fraction_lt := VirtualConfig.strategyYaml_admitted.fraction_lt
  buyFee_nonneg := le_refl 0
  sellFee_nonneg := VirtualConfig.strategyYaml_admitted.sellFee_nonneg
  capital_pos := VirtualConfig.strategyYaml_admitted.capital_pos
  chase_nonneg := VirtualConfig.strategyYaml_admitted.chase_nonneg
  stopLoss := rfl

end Staged

/-- A sale that costs ten times what it brings. -/
def costlySales : VirtualConfig := { VirtualConfig.strategyYaml with sellFee := 10 }

theorem costlySales_admitted : costlySales.Admitted :=
  { VirtualConfig.strategyYaml_admitted with sellFee_nonneg := by norm_num [costlySales] }

/-- Under configurations the loader admits, a closed cycle brings 630.32741 and reports
630.33, a second stage is bought for a staged capital of 10000.0035 under a cap of 10000, and
the cash falls below zero. -/
theorem books_not_exact :
    (∃ loop, SampleFrames.parts.Reaches VirtualConfig.strategyYaml MissingSessions.input loop ∧
      ∃ cycle ∈ loop.closedCycles,
        cycle.pnl ≠ cashFlow (cycleTrades loop.trades cycle.cycleId)) ∧
    (∃ loop, SampleFrames.parts.Reaches Staged.config Staged.input loop ∧
      loop.state.cycleExposureCap < loop.state.stagedEntryCapital) ∧
    (∃ loop, SampleFrames.parts.Reaches costlySales MissingSessions.input loop ∧
      loop.state.cash < 0) ∧
    VirtualConfig.strategyYaml.Admitted ∧ Staged.config.Admitted ∧ costlySales.Admitted :=
  ⟨exists_reached (by decide +kernel), exists_reached (by decide +kernel),
    exists_reached (by decide +kernel), VirtualConfig.strategyYaml_admitted,
    Staged.config_admitted, costlySales_admitted⟩

end JdHoldings

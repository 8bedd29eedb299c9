import JdHoldings.Backtest.LiveSession

/-!
# The live allocator beside its backtest

Both hold whole shares of the same symbols and change them when the target row changes.
They look at the account at different moments: the allocator freezes its quantities with
the risk budget of the last close, and the backtest sizes with the equity at the open.

`Mirrors` relates the ledger of the live account to the account of the backtest, and
`AtClose` relates everything the two carry from one close to the next session.

* The passes of the allocator keep step with the two loops of `_rebalance`, order by
  order (`Mirrors.sellDown`, `Mirrors.buyUp`), because a rebalance is never short of
  cash (`rebalance_covered`).
* The frozen quantities are the desired ones when the clamp of the budget reads the
  same at the close and at the open (`SameClamp`).
-/

namespace JdHoldings

open PortfolioBacktestEngine

variable {ι : Type}

/-- The fees of the live account, without slippage. -/
def StrategyConfig.costs (config : StrategyConfig) : Costs where
  buyFee := config.buyFee
  sellFee := config.sellFee
  slippage := 0

/-- The ledger holds what the account of the backtest holds. -/
structure Repository.Mirrors (config : StrategyConfig) (repo : Repository ι) (account : Account) :
    Prop where
  settled : repo.Settled config account.cash fun symbol => (account.quantities symbol).toNat
  nonneg : ∀ symbol, 0 ≤ account.quantities symbol

/-- The ids of the orders of different symbols, sides and generations differ. -/
def OrderDesk.Distinct (desk : OrderDesk ι) : Prop :=
  ∀ date symbol side date' symbol' side',
    desk.clientOrderId date symbol side = desk.clientOrderId date' symbol' side' →
      date = date' ∧ symbol = symbol' ∧ side = side'

/-- Orders created at the instant belong to the ledger. -/
def SystemState.counts (system : SystemState) (now : Timestamp) : Prop :=
  system.isAutoEnabled = true → ∃ start ∈ system.accountingStartedAt, start ≤ now

theorem SystemState.counts.inAccounting {system : SystemState} {now : Timestamp}
    (hcounts : system.counts now) {row : OrderRow ι} (hcreated : row.createdAt = now) :
    system.inAccounting row = true := by
  cases hauto : system.isAutoEnabled with
  | false => simp [SystemState.inAccounting, hauto]
  | true =>
      obtain ⟨start, hstart, hle⟩ := hcounts hauto
      simp only [SystemState.inAccounting, hauto, Bool.not_true, Bool.false_or, decide_eq_true_eq, hcreated]
      exact ⟨start, hstart, hle⟩

section Passes

variable [DecidableEq ι] {config : StrategyConfig} {desk : OrderDesk ι} {repo : Repository ι}
  {account : Account} {generation : Date} {now : Timestamp} {opens : AllocationSymbol → Decimal}
  {wanted : AllocationSymbol → ℤ}

/-- What a step of a pass leaves: the ledgers still agree, the targets stand, and no id was
spent but the given ones. -/
structure Repository.PassDone (config : StrategyConfig) (repo repo' : Repository ι)
    (account : Account) (spent : ι → Prop) : Prop where
  mirrors : repo'.Mirrors config account
  targets : repo.SameTargets repo'
  unused : ∀ other, ¬spent other → repo.Unused other → repo'.Unused other

omit [DecidableEq ι] in
theorem Repository.Mirrors.qty_eq (hmirrors : repo.Mirrors config account)
    (symbol : AllocationSymbol) : ((repo.core symbol).qty : ℤ) = account.quantities symbol := by
  rw [hmirrors.settled.qty symbol]
  exact Int.toNat_of_nonneg (hmirrors.nonneg symbol)

omit [DecidableEq ι] in
/-- Settled shares after an update, read as an account. -/
private theorem mirrors_of_update {repo' : Repository ι} {symbol : AllocationSymbol} {cash : Decimal}
    {shares : ℕ} {quantity : ℤ} (hmirrors : repo.Mirrors config account)
    (hsettled : repo'.Settled config cash
      (Function.update (fun symbol => (account.quantities symbol).toNat) symbol shares))
    (hquantity : quantity = shares) :
    repo'.Mirrors config ⟨cash, Function.update account.quantities symbol quantity⟩ := by
  have hshares : Function.update (fun symbol => (account.quantities symbol).toNat) symbol shares
      = fun other => (Function.update account.quantities symbol quantity other).toNat := by
    funext other
    by_cases hother : other = symbol
    · subst hother
      simp [hquantity]
    · simp [hother]
  rw [hshares] at hsettled
  refine ⟨hsettled, ?_⟩
  intro other
  by_cases hother : other = symbol
  · subst hother
    simp [hquantity]
  · simpa [hother] using hmirrors.nonneg other

/-- The SELL of the allocator is the SELL of the backtest. -/
theorem Repository.Mirrors.sellDown (hmirrors : repo.Mirrors config account)
    {symbol : AllocationSymbol} (hwanted : wanted symbol = (repo.core symbol).targetQty)
    (hunused : repo.Unused (desk.clientOrderId generation symbol .sell))
    (hprice : 0 < opens symbol) (hcounts : repo.system.counts now) :
    ∃ repo', repo.sellDown config desk generation now opens symbol = .ok repo' ∧
      repo.PassDone config repo' (sell config.costs wanted opens account symbol)
        (· = desk.clientOrderId generation symbol .sell) := by
  have hqty := hmirrors.qty_eq symbol
  have hheld := hmirrors.settled.qty symbol
  unfold Repository.sellDown
  by_cases hmore : (repo.core symbol).targetQty < (repo.core symbol).qty
  · have hpos : 0 < (repo.core symbol).qty - (repo.core symbol).targetQty := by omega
    have hsold : ∃ repo', repo.fillInFull (desk.sellRequest config generation opens symbol _ hpos)
        (opens symbol) now = .ok repo' ∧ repo.FillDone config repo' _ _ _ :=
      hmirrors.settled.sellInFull hunused rfl rfl hprice (hcounts.inAccounting rfl)
        (show (repo.core symbol).qty - (repo.core symbol).targetQty ≤ _ by omega)
    obtain ⟨repo', hfill, hdone⟩ := hsold
    have hcash : account.cash + opens symbol * ((repo.core symbol).qty - (repo.core symbol).targetQty
        : ℕ) * (1 - config.sellFee)
        = account.cash + proceeds config.costs wanted opens account symbol := by
      rw [proceeds, hwanted, ← hqty, max_eq_right (by omega), Nat.cast_sub hmore.le]
      simp only [StrategyConfig.costs]
      push_cast
      ring
    simp only [dif_pos hmore]
    refine ⟨repo', hfill, ?_, hdone.targets, hdone.unused⟩
    rw [sell_eq, ← hcash]
    exact mirrors_of_update hmirrors hdone.settled
      (show min (account.quantities symbol) (wanted symbol)
        = (((account.quantities symbol).toNat
          - ((repo.core symbol).qty - (repo.core symbol).targetQty) : ℕ) : ℤ) by omega)
  · have hkeep : min (account.quantities symbol) (wanted symbol) = account.quantities symbol :=
      min_eq_left (by omega)
    have hnothing : proceeds config.costs wanted opens account symbol = 0 := by
      rw [proceeds, max_eq_left (by omega)]
      simp
    rw [sell_eq, hkeep, hnothing, add_zero, Function.update_eq_self]
    simp only [dif_neg hmore]
    exact ⟨repo, rfl, hmirrors, .refl repo, fun other _ hfree => hfree⟩

theorem gross_pos (config : StrategyConfig) {prices : AllocationSymbol → Decimal}
    {symbol : AllocationSymbol} (hprice : 0 < prices symbol) :
    0 < prices symbol * (1 + config.costs.slippage) * (1 + config.costs.buyFee) := by
  show 0 < prices symbol * (1 + 0) * (1 + config.buyFee)
  rw [add_zero, mul_one]
  exact mul_pos hprice config.one_add_buyFee_pos

/-- The BUY of the allocator is the BUY of the backtest, when it fits and the cash covers it. -/
theorem Repository.Mirrors.buyUp (hmirrors : repo.Mirrors config account)
    {symbol : AllocationSymbol} (hwanted : wanted symbol = (repo.core symbol).targetQty)
    (hunused : repo.Unused (desk.clientOrderId generation symbol .buy))
    (hprice : 0 < opens symbol) (hcounts : repo.system.counts now) (hmay : repo.MayBuy)
    (hfits : repo.buyFits config desk now opens symbol = true)
    (hcovered : 0 < outlay config.costs wanted opens account symbol →
      outlay config.costs wanted opens account symbol ≤ account.cash) :
    ∃ repo', repo.buyUp config desk generation now opens symbol = .ok repo' ∧
      repo.PassDone config repo' (buy config.costs wanted opens account symbol)
        (· = desk.clientOrderId generation symbol .buy) := by
  have hqty := hmirrors.qty_eq symbol
  have hheld := hmirrors.settled.qty symbol
  have hcommitted := hmirrors.settled.committedCoreBuyQuantity (.allocation symbol)
  have hopen : repo.openQuantity symbol = (repo.core symbol).targetQty - (repo.core symbol).qty := by
    rw [Repository.openQuantity, hcommitted, Nat.sub_zero]
  rw [buy_eq (gross_pos config hprice) hcovered]
  -- What is missing to the target is bought in full, or nothing is missing.
  by_cases hless : 0 < repo.openQuantity symbol
  · obtain ⟨limit, hbuy⟩ := Repository.buyUp_of_fits hmay hless hfits
    have hbought : ∃ repo', repo.fillInFull (desk.buyRequest generation symbol limit _
        hless).toOrderRequest (opens symbol) now = .ok repo' ∧ repo.FillDone config repo' _ _ _ :=
      hmirrors.settled.buyInFull hunused rfl rfl hprice (hcounts.inAccounting rfl)
    obtain ⟨repo', hfill, hdone⟩ := hbought
    have hcash : account.cash - opens symbol * (repo.openQuantity symbol : ℕ) * (1 + config.buyFee)
        = account.cash - outlay config.costs wanted opens account symbol := by
      rw [outlay, hwanted, ← hqty, max_eq_right (by omega), hopen, Nat.cast_sub (by omega)]
      simp only [StrategyConfig.costs]
      push_cast
      ring
    refine ⟨repo', hbuy.trans hfill, ?_, hdone.targets, hdone.unused⟩
    rw [← hcash]
    exact mirrors_of_update hmirrors hdone.settled
      (show max (account.quantities symbol) (wanted symbol)
        = (((account.quantities symbol).toNat + repo.openQuantity symbol : ℕ) : ℤ) by omega)
  · have hkeep : max (account.quantities symbol) (wanted symbol) = account.quantities symbol :=
      max_eq_left (by omega)
    have hnothing : outlay config.costs wanted opens account symbol = 0 := by
      rw [outlay, max_eq_left (by omega)]
      simp
    rw [hkeep, hnothing, sub_zero, Function.update_eq_self, Repository.buyUp,
      if_pos (Or.inl (Nat.eq_zero_of_not_pos hless))]
    exact ⟨repo, rfl, hmirrors, .refl repo, fun other _ hfree => hfree⟩

/-! ## The passes -/

omit [DecidableEq ι] in
theorem Repository.SameTargets.counts {repo' : Repository ι} (htargets : repo.SameTargets repo')
    (hcounts : repo.system.counts now) : repo'.system.counts now := by
  rw [htargets.system]
  exact hcounts

/-- One pass over the symbols, given what each of its turns does. -/
private theorem passAll (side : Side) {symbols : List AllocationSymbol}
    {turn : Repository ι → AllocationSymbol → Py (Repository ι)}
    {trade : Account → AllocationSymbol → Account}
    (Ready : Repository ι → Account → List AllocationSymbol → Prop) (hdesk : desk.Distinct)
    (hturn : ∀ {repo : Repository ι} {account : Account} {symbol symbols}, symbol ∉ symbols →
      repo.Mirrors config account → Ready repo account (symbol :: symbols) →
      wanted symbol = (repo.core symbol).targetQty →
      repo.Unused (desk.clientOrderId generation symbol side) → repo.system.counts now →
      ∃ repo', turn repo symbol = .ok repo' ∧
        repo.PassDone config repo' (trade account symbol)
          (· = desk.clientOrderId generation symbol side) ∧
        Ready repo' (trade account symbol) symbols)
    (hnodup : symbols.Nodup) (hmirrors : repo.Mirrors config account)
    (hready : Ready repo account symbols)
    (hwanted : ∀ symbol ∈ symbols, wanted symbol = (repo.core symbol).targetQty)
    (hunused : ∀ symbol ∈ symbols, repo.Unused (desk.clientOrderId generation symbol side))
    (hcounts : repo.system.counts now) :
    ∃ repo', symbols.foldlM turn repo = .ok repo' ∧
      repo.PassDone config repo' (symbols.foldl trade account)
        (fun other => ∃ symbol ∈ symbols, other = desk.clientOrderId generation symbol side) := by
  induction symbols generalizing repo account with
  | nil => exact ⟨repo, rfl, hmirrors, .refl repo, fun other _ hfree => hfree⟩
  | cons first symbols ih =>
      obtain ⟨hfirst, hrest⟩ := List.nodup_cons.mp hnodup
      obtain ⟨middle, hstep, hdone, hready'⟩ := hturn hfirst hmirrors hready
        (hwanted first (List.mem_cons_self ..)) (hunused first (List.mem_cons_self ..)) hcounts
      -- The id of the first order is none of the later ones.
      have hlater : ∀ symbol ∈ symbols,
          middle.Unused (desk.clientOrderId generation symbol side) := by
        intro symbol hmem
        refine hdone.unused _ (fun hsame => hfirst ?_) (hunused symbol (List.mem_cons_of_mem _ hmem))
        obtain ⟨-, rfl, -⟩ := hdesk _ _ _ _ _ _ hsame
        exact hmem
      have hstill : ∀ symbol ∈ symbols, wanted symbol = (middle.core symbol).targetQty := by
        intro symbol hmem
        rw [hdone.targets.targetQty symbol]
        exact hwanted symbol (List.mem_cons_of_mem _ hmem)
      obtain ⟨repo', hrun, hafter⟩ := ih hrest hdone.mirrors hready' hstill hlater
        (hdone.targets.counts hcounts)
      refine ⟨repo', ?_, hafter.mirrors, hdone.targets.trans hafter.targets, ?_⟩
      · rw [List.foldlM_cons, hstep]
        exact hrun
      · intro other hnot hfree
        refine hafter.unused other (fun ⟨symbol, hmem, hsame⟩ => hnot ⟨symbol, ?_, hsame⟩)
          (hdone.unused other (fun hsame => hnot ⟨first, List.mem_cons_self .., hsame⟩) hfree)
        exact List.mem_cons_of_mem _ hmem

/-- The SELLs of a frozen generation are those of the rebalance of the backtest. -/
theorem Repository.Mirrors.sells (hdesk : desk.Distinct) (hmirrors : repo.Mirrors config account)
    (hwanted : ∀ symbol, wanted symbol = (repo.core symbol).targetQty)
    (hunused : ∀ symbol side, repo.Unused (desk.clientOrderId generation symbol side))
    (hprices : ∀ symbol, 0 < opens symbol) (hcounts : repo.system.counts now) :
    ∃ sold, allocationSymbols.foldlM (Repository.sellDown config desk generation now opens) repo
        = .ok sold ∧
      repo.PassDone config sold (allocationSymbols.foldl (sell config.costs wanted opens) account)
        (fun other => ∃ symbol ∈ allocationSymbols,
          other = desk.clientOrderId generation symbol .sell) := by
  refine passAll .sell (fun _ _ _ => True) hdesk ?_ (by decide : allocationSymbols.Nodup) hmirrors
    trivial (fun symbol _ => hwanted symbol) (fun symbol _ => hunused symbol .sell) hcounts
  intro repo account symbol symbols _ hmirrors _ hwanted hunused hcounts
  obtain ⟨repo', hstep, hdone⟩ := hmirrors.sellDown hwanted hunused (hprices symbol) hcounts
  exact ⟨repo', hstep, hdone, trivial⟩

/-- The BUYs of a frozen generation are those of the rebalance of the backtest, when they fit. -/
theorem Repository.Mirrors.buys (hdesk : desk.Distinct) (hmirrors : repo.Mirrors config account)
    (hwanted : ∀ symbol, wanted symbol = (repo.core symbol).targetQty)
    (hunused : ∀ symbol, repo.Unused (desk.clientOrderId generation symbol .buy))
    (hprices : ∀ symbol, 0 < opens symbol) (hcounts : repo.system.counts now) (hmay : repo.MayBuy)
    (hfits : repo.buysFit config desk generation now opens allocationSymbols = true)
    (hcovered : Covered config.costs wanted opens account allocationSymbols) :
    ∃ repo', allocationSymbols.foldlM (Repository.buyUp config desk generation now opens) repo
        = .ok repo' ∧
      repo.PassDone config repo' (allocationSymbols.foldl (buy config.costs wanted opens) account)
        (fun other => ∃ symbol ∈ allocationSymbols,
          other = desk.clientOrderId generation symbol .buy) := by
  have hgross : ∀ symbol, 0 < opens symbol * (1 + config.costs.slippage)
      * (1 + config.costs.buyFee) := fun symbol => gross_pos config (hprices symbol)
  refine passAll .buy (fun repo account symbols => repo.MayBuy ∧
      Covered config.costs wanted opens account symbols ∧
      repo.buysFit config desk generation now opens symbols = true) hdesk ?_
    (by decide : allocationSymbols.Nodup) hmirrors ⟨hmay, hcovered, hfits⟩
    (fun symbol _ => hwanted symbol) (fun symbol _ => hunused symbol) hcounts
  intro repo account symbol symbols hfirst hmirrors hready hwanted hunused hcounts
  obtain ⟨hmay, hcovered, hfits⟩ := hready
  rw [Repository.buysFit, Bool.and_eq_true] at hfits
  obtain ⟨hfit, hrest⟩ := hfits
  obtain ⟨repo', hstep, hdone⟩ := hmirrors.buyUp hwanted hunused (hprices symbol) hcounts hmay hfit
    (hcovered.head hgross)
  simp only [hstep] at hrest
  exact ⟨repo', hstep, hdone, hdone.targets.mayBuy hmay, hcovered.tail hgross hfirst, hrest⟩

/-- The SELLs and then the BUYs of a frozen generation are the rebalance of the backtest. -/
theorem Repository.Mirrors.rebalance (hdesk : desk.Distinct) (hmirrors : repo.Mirrors config account)
    (hwanted : ∀ symbol, wanted symbol = (repo.core symbol).targetQty)
    (hunused : ∀ symbol side, repo.Unused (desk.clientOrderId generation symbol side))
    (hprices : ∀ symbol, 0 < opens symbol) (hcounts : repo.system.counts now) (hmay : repo.MayBuy)
    (hcovered : Covered config.costs wanted opens
      (allocationSymbols.foldl (sell config.costs wanted opens) account) allocationSymbols) :
    ∃ sold, allocationSymbols.foldlM (Repository.sellDown config desk generation now opens) repo
        = .ok sold ∧
      (sold.buysFit config desk generation now opens allocationSymbols = true →
        ∃ repo', allocationSymbols.foldlM (Repository.buyUp config desk generation now opens) sold
            = .ok repo' ∧
          repo.PassDone config repo' (allocationSymbols.foldl (buy config.costs wanted opens)
            (allocationSymbols.foldl (sell config.costs wanted opens) account))
            (fun other => ∃ symbol side, other = desk.clientOrderId generation symbol side)) := by
  obtain ⟨sold, hsells, hsold⟩ := hmirrors.sells hdesk hwanted hunused hprices hcounts
  refine ⟨sold, hsells, ?_⟩
  intro hfits
  have hstill : ∀ symbol, wanted symbol = (sold.core symbol).targetQty := by
    intro symbol
    rw [hsold.targets.targetQty symbol]
    exact hwanted symbol
  have hfree : ∀ symbol, sold.Unused (desk.clientOrderId generation symbol .buy) := by
    intro symbol
    refine hsold.unused _ (fun ⟨other, _, hsame⟩ => ?_) (hunused symbol .buy)
    obtain ⟨-, -, hside⟩ := hdesk _ _ _ _ _ _ hsame
    cases hside
  obtain ⟨repo', hbuys, hbought⟩ := hsold.mirrors.buys hdesk hstill hfree hprices
    (hsold.targets.counts hcounts) (hsold.targets.mayBuy hmay) hfits hcovered
  refine ⟨repo', hbuys, hbought.mirrors, hsold.targets.trans hbought.targets, ?_⟩
  intro other hnot hother
  refine hbought.unused other (fun ⟨symbol, _, hsame⟩ => hnot ⟨symbol, .buy, hsame⟩) ?_
  exact hsold.unused other (fun ⟨symbol, _, hsame⟩ => hnot ⟨symbol, .sell, hsame⟩) hother

/-- A pass over an account that holds its targets places nothing. -/
theorem Repository.passes_of_held (config : StrategyConfig) (desk : OrderDesk ι)
    (generation : Date) (now : Timestamp) (opens : AllocationSymbol → Decimal)
    (hheld : ∀ symbol, (repo.core symbol).targetQty = (repo.core symbol).qty) :
    allocationSymbols.foldlM (Repository.sellDown config desk generation now opens) repo = .ok repo ∧
      allocationSymbols.foldlM (Repository.buyUp config desk generation now opens) repo
        = .ok repo := by
  have hsell : ∀ symbol, repo.sellDown config desk generation now opens symbol = .ok repo := by
    intro symbol
    simp [Repository.sellDown, hheld symbol]
  have hbuy : ∀ symbol, repo.buyUp config desk generation now opens symbol = .ok repo := by
    intro symbol
    simp [Repository.buyUp, Repository.openQuantity, hheld symbol]
  constructor
  · simp only [allocationSymbols, List.foldlM_cons, List.foldlM_nil, hsell, Except.ok_then]
    rfl
  · simp only [allocationSymbols, List.foldlM_cons, List.foldlM_nil, hbuy, Except.ok_then]
    rfl

/-! ## From close to close -/

/-- The frozen quantity of a symbol is the desired one, for the same budget. -/
theorem desired_eq_targetQuantity (config : StrategyConfig) {target : Weights}
    {prices : AllocationSymbol → Decimal} {symbol : AllocationSymbol} {budget : Decimal}
    (hprice : 0 < prices symbol) (hweight : 0 ≤ target symbol) (hbudget : 0 ≤ budget) :
    desired config.costs target prices budget symbol
      = targetQuantity budget (target symbol) (prices symbol) config.buyFee := by
  have hgross : 0 < prices symbol * (1 + config.buyFee) :=
    mul_pos hprice config.one_add_buyFee_pos
  have hshare : 0 ≤ budget * target symbol / (prices symbol * (1 + config.buyFee)) :=
    div_nonneg (mul_nonneg hbudget hweight) hgross.le
  have hdesired : desired config.costs target prices budget symbol
      = ⌊budget * target symbol / (prices symbol * (1 + config.buyFee))⌋ := by
    show ⌊budget * target symbol / (prices symbol * (1 + 0) * (1 + config.buyFee))⌋ = _
    rw [add_zero, mul_one]
  rw [hdesired]
  by_cases hnothing : budget ≤ 0 ∨ target symbol ≤ 0 ∨ prices symbol ≤ 0
  · have hzero : budget * target symbol = 0 := by
      rcases hnothing with hbroke | hout | hprice'
      · rw [le_antisymm hbroke hbudget, zero_mul]
      · rw [le_antisymm hout hweight, mul_zero]
      · exact absurd hprice (not_lt.mpr hprice')
    simp [targetQuantity, hnothing, hzero]
  · rw [targetQuantity, if_neg hnothing]
    simp only [Quantize.roundDown, if_pos hshare]
    exact (Int.toNat_of_nonneg (Int.floor_nonneg.mpr hshare)).symm

/-- Where the allocator stands with its generation, `date` being the last close. -/
inductive Repository.Generation (repo : Repository ι) (state : State) (date : Date) : Prop
  /-- No weight was ever stored. -/
  | unborn (hdates : ∀ symbol, (repo.core symbol).signalTradeDate = none)
      (htargets : ∀ symbol, (repo.core symbol).targetQty = 0)
      (hpending : ∀ symbol, state.pending symbol = 0)
      (hheld : ∀ symbol, state.quantities symbol = 0)
  /-- The last close changed the weights. -/
  | stored (hdates : ∀ symbol, (repo.core symbol).signalTradeDate = some date)
      (hopen : repo.system.targetQtyGeneration = none) (hchanged : state.current ≠ some state.pending)
  /-- The weights stand, and the account holds its frozen quantities. -/
  | frozen (generation : Date) (hle : generation ≤ date)
      (hdates : ∀ symbol, (repo.core symbol).signalTradeDate = some generation)
      (hfrozen : repo.system.targetQtyGeneration = some generation)
      (hheld : ∀ symbol, state.quantities symbol = (repo.core symbol).targetQty)
      (hsame : state.current = some state.pending)

/-- What the two systems share between a close and the next session. -/
structure Repository.AtClose (config : StrategyConfig) (desk : OrderDesk ι) (repo : Repository ι)
    (state : State) (date : Date) (closeEquity : Decimal) : Prop where
  mirrors : repo.Mirrors config state.toAccount
  highWater : max V322Policy.initialCapital
    (repo.system.highWaterEquity.getD V322Policy.initialCapital) = state.highWater
  budget : repo.system.riskBudget = some (sizingEquity state.highWater closeEquity)
  weights : ∀ symbol, (repo.core symbol).targetWeight = state.pending symbol
  target : state.pending.IsTarget
  counts : ∀ later, repo.system.counts (desk.clock later)
  mayBuy : repo.MayBuy
  unused : ∀ later symbol side, date ≤ later → repo.Unused (desk.clientOrderId later symbol side)
  generation : repo.Generation state date

/-- What they share between an open and the close of the date `next`. -/
structure Repository.AtOpen (config : StrategyConfig) (desk : OrderDesk ι) (repo : Repository ι)
    (state : State) (next : Date) : Prop where
  mirrors : repo.Mirrors config state.toAccount
  highWater : max V322Policy.initialCapital
    (repo.system.highWaterEquity.getD V322Policy.initialCapital) = state.highWater
  weights : ∀ symbol, (repo.core symbol).targetWeight = state.pending symbol
  counts : ∀ later, repo.system.counts (desk.clock later)
  mayBuy : repo.MayBuy
  unused : ∀ later symbol side, next ≤ later → repo.Unused (desk.clientOrderId later symbol side)
  generation : repo.Generation state next
  executed : ∀ target, state.current = some target → target = state.pending

/-- The state of the backtest after the open of a session. -/
def afterOpen (config : StrategyConfig) (state : State) (bars : BacktestSession) : State :=
  { state with toAccount := trade config.costs bars state, current := some state.pending }

/-- The clamp of the risk budget reads the same at the last close and at the open, if the
session executes another target. -/
def SameClamp (config : StrategyConfig) (state : State) (closeEquity : Decimal)
    (bars : BacktestSession) : Prop :=
  state.current ≠ some state.pending →
    sizingEquity state.highWater (state.toAccount.equity config.costs bars.opens)
      = sizingEquity state.highWater closeEquity

omit [DecidableEq ι] in
/-- Rewriting targets and keys of the allocator moves no cash and no shares. -/
theorem Repository.Settled.withCore {cash : Decimal} {shares : AllocationSymbol → ℕ}
    (hsettled : repo.Settled config cash shares) {core : AllocationSymbol → CoreRow}
    {system : SystemState}
    (hcore : ∀ symbol, (core symbol).qty = (repo.core symbol).qty ∧
      (core symbol).costBasis = (repo.core symbol).costBasis ∧
      (core symbol).avgPrice = (repo.core symbol).avgPrice)
    (hprincipal : system.effectiveInitialCapital = repo.system.effectiveInitialCapital)
    (hauto : system.isAutoEnabled = repo.system.isAutoEnabled)
    (hstarted : system.accountingStartedAt = repo.system.accountingStartedAt) :
    (repo.withCore core system).Settled config cash shares where
  principal := hprincipal.trans hsettled.principal
  started := by
    show system.isAutoEnabled = true → system.accountingStartedAt.isSome = true
    rw [hauto, hstarted]
    exact hsettled.started
  cash_eq := by
    have heffect : system.cashEffect (ι := ι) config = repo.system.cashEffect config := by
      funext row
      have hcounted : system.inAccounting row = repo.system.inAccounting row := by
        rw [Bool.eq_iff_iff]
        simp [SystemState.inAccounting, hauto, hstarted]
      rw [SystemState.cashEffect, SystemState.cashEffect, hcounted]
    rw [hsettled.cash_eq]
    show _ = V322Policy.initialCapital + repo.orders.sum (system.cashEffect config)
    rw [heffect]
    rfl
  qty symbol := (hcore symbol).1.trans (hsettled.qty symbol)
  cost_nonneg symbol := by
    show 0 ≤ (core symbol).costBasis
    rw [(hcore symbol).2.1]
    exact hsettled.cost_nonneg symbol
  avg_nonneg symbol := by
    show 0 ≤ (core symbol).avgPrice
    rw [(hcore symbol).2.2]
    exact hsettled.avg_nonneg symbol
  direct := hsettled.direct
  filled row hrow :=
    have hfilled := hsettled.filled row hrow
    ⟨hfilled.status, hfilled.priced, hfilled.applied⟩

/-- A session that trades nothing leaves everything but the generation. -/
theorem Repository.AtClose.untraded {state : State} {date : Date} {closeEquity : Decimal}
    {bars : BacktestSession} (hclose : repo.AtClose config desk state date closeEquity)
    (htrade : trade config.costs bars state = state.toAccount)
    (hgeneration : repo.Generation { state with current := some state.pending } (date + 1)) :
    repo.AtOpen config desk (afterOpen config state bars) (date + 1) := by
  have hstate : afterOpen config state bars = { state with current := some state.pending } := by
    rw [afterOpen, htrade]
  rw [hstate]
  exact
    { mirrors := hclose.mirrors
      highWater := hclose.highWater
      weights := hclose.weights
      counts := hclose.counts
      mayBuy := hclose.mayBuy
      unused := fun later symbol side hlater =>
        hclose.unused later symbol side (Nat.le_of_succ_le hlater)
      generation := hgeneration
      executed := fun _ hexecuted => (Option.some.inj hexecuted).symm }

/-- The quantities the backtest wants at the open. -/
def desiredAtOpen (config : StrategyConfig) (state : State) (opens : AllocationSymbol → Decimal) :
    AllocationSymbol → ℤ :=
  desired config.costs state.pending opens
    (sizingEquity state.highWater (state.toAccount.equity config.costs opens))

/-- The ledger with the targets of a generation frozen and nothing traded yet. -/
structure Repository.FrozenAt (config : StrategyConfig) (desk : OrderDesk ι)
    (repo frozen : Repository ι) (state : State) (date : Date)
    (opens : AllocationSymbol → Decimal) : Prop where
  mirrors : frozen.Mirrors config state.toAccount
  system : frozen.system = { repo.system with targetQtyGeneration := some date }
  signalTradeDate : ∀ symbol, (frozen.core symbol).signalTradeDate = some date
  targetWeight : ∀ symbol, (frozen.core symbol).targetWeight = state.pending symbol
  targetQty : ∀ symbol, desiredAtOpen config state opens symbol = (frozen.core symbol).targetQty
  unused : ∀ later symbol side, date ≤ later →
    frozen.Unused (desk.clientOrderId later symbol side)
  counts : ∀ later, frozen.system.counts (desk.clock later)
  mayBuy : frozen.MayBuy

/-- Freezing writes the quantities the backtest wants, and nothing else of what both share. -/
theorem Repository.AtClose.freeze {state : State} {date : Date} {closeEquity : Decimal}
    {bars : BacktestSession} (hclose : repo.AtClose config desk state date closeEquity)
    (hprices : ∀ symbol, 0 < bars.opens symbol)
    (hclamp : sizingEquity state.highWater (state.toAccount.equity config.costs bars.opens)
      = sizingEquity state.highWater closeEquity) :
    ∃ frozen, repo.freeze config date (fun symbol => .ok (bars.opens symbol)) = .ok frozen ∧
      repo.FrozenAt config desk frozen state date bars.opens := by
  have hbudget : repo.system.riskBudgetOrInitial
      = .ok (sizingEquity state.highWater closeEquity) := by
    rw [SystemState.riskBudgetOrInitial, hclose.mirrors.settled.principal, hclose.budget]
    rfl
  have hwanted : ∀ symbol, desiredAtOpen config state bars.opens symbol
      = targetQuantity (sizingEquity state.highWater closeEquity)
          (repo.core symbol).targetWeight (bars.opens symbol) config.buyFee := by
    intro symbol
    rw [desiredAtOpen, hclamp, hclose.weights symbol]
    exact desired_eq_targetQuantity config (hprices symbol) (hclose.target.nonneg symbol)
      (sizingEquity_nonneg _ _)
  refine ⟨_, Repository.freeze_eq config repo hbudget date bars.opens, ?_⟩
  exact
    { mirrors := ⟨hclose.mirrors.settled.withCore (fun symbol => ⟨rfl, rfl, rfl⟩) rfl rfl rfl,
        hclose.mirrors.nonneg⟩
      system := rfl
      signalTradeDate := fun _ => rfl
      targetWeight := hclose.weights
      targetQty := hwanted
      unused := fun later symbol side hlater =>
        have hbefore := hclose.unused later symbol side hlater
        ⟨hbefore.order, hbefore.progress⟩
      counts := hclose.counts
      mayBuy := ⟨hclose.mayBuy.gates, hclose.mayBuy.safe⟩ }

/-- The open of a session that executes new targets: they are frozen and traded. -/
theorem Repository.AtClose.openPass_of_stored {state : State} {date : Date} {closeEquity : Decimal}
    {bars : BacktestSession} (hdesk : desk.Distinct)
    (hclose : repo.AtClose config desk state date closeEquity)
    (hprices : ∀ symbol, 0 < bars.opens symbol)
    (hclamp : SameClamp config state closeEquity bars)
    (hfits : repo.openFits config desk (desk.clock (date + 1)) bars.opens = true)
    (hdates : ∀ symbol, (repo.core symbol).signalTradeDate = some date)
    (hopen : repo.system.targetQtyGeneration = none)
    (hchanged : state.current ≠ some state.pending) :
    ∃ opened, repo.openPass config desk (desk.clock (date + 1)) bars.opens = .ok opened ∧
      opened.AtOpen config desk (afterOpen config state bars) (date + 1) ∧
      ∀ symbol, ((opened.core symbol).targetQty : ℤ)
        = desiredAtOpen config state bars.opens symbol := by
  obtain ⟨frozen, hfreeze, hfrozen⟩ := hclose.freeze hprices (hclamp hchanged)
  have hbuyFee : 0 ≤ config.costs.buyFee := config.buyFee_nonneg
  have hsellFee : 0 ≤ config.costs.sellFee := config.sellFee_nonneg
  have hcovered := rebalance_covered state.highWater rfl hbuyFee hsellFee hclose.target hprices
    hclose.mirrors.nonneg
  have hreached := rebalance_quantities state.highWater rfl hbuyFee hsellFee hclose.target hprices
    hclose.mirrors.nonneg
  have hstate : (afterOpen config state bars).toAccount = rebalance config.costs state.pending
      bars.opens (sizingEquity state.highWater (state.toAccount.equity config.costs bars.opens))
      state.toAccount := by
    rw [afterOpen, trade, if_neg hchanged]
  -- The SELL pass goes through; the BUY pass goes through when every BUY fits.
  obtain ⟨sold, hsells, hbought⟩ := hfrozen.mirrors.rebalance hdesk hfrozen.targetQty
    (fun symbol side => hfrozen.unused date symbol side le_rfl) hprices (hfrozen.counts (date + 1))
    hfrozen.mayBuy hcovered
  have hsellPass : repo.sellPass config desk date (desk.clock (date + 1)) bars.opens
      = .ok sold := by
    simp only [Repository.sellPass, hopen, ne_eq, reduceCtorEq, not_false_eq_true, if_true,
      hfreeze, Except.ok_then, hsells]
  rw [Repository.openFits, repo.generation?_of_same hdates] at hfits
  simp only [hsellPass] at hfits
  obtain ⟨opened, hbuys, hdone⟩ := hbought hfits
  have hsystem : opened.system = { repo.system with targetQtyGeneration := some date } :=
    hdone.targets.system.trans hfrozen.system
  have htargets : ∀ symbol, ((opened.core symbol).targetQty : ℤ)
      = desiredAtOpen config state bars.opens symbol := by
    intro symbol
    rw [hdone.targets.targetQty symbol, hfrozen.targetQty symbol]
  refine ⟨opened, ?_, ?_, htargets⟩
  · rw [Repository.openPass, repo.generation?_of_same hdates]
    simp only [hsellPass, Except.ok_then, hbuys]
  · exact
      { mirrors := by
          rw [hstate]
          exact hdone.mirrors
        highWater := by
          rw [hsystem]
          exact hclose.highWater
        weights := fun symbol =>
          (hdone.targets.targetWeight symbol).trans (hfrozen.targetWeight symbol)
        counts := fun later => hdone.targets.counts (hfrozen.counts later)
        mayBuy := hdone.targets.mayBuy hfrozen.mayBuy
        unused := by
          intro later symbol side hlater
          refine hdone.unused _ ?_ (hfrozen.unused later symbol side (Nat.le_of_succ_le hlater))
          -- Client order ids of different dates differ.
          rintro ⟨other, side', hsame⟩
          exact absurd (hdesk _ _ _ _ _ _ hsame).1 (Nat.lt_of_succ_le hlater).ne'
        generation := by
          refine .frozen date (Nat.le_succ date) ?_ ?_ ?_ rfl
          · intro symbol
            exact (hdone.targets.signalTradeDate symbol).trans (hfrozen.signalTradeDate symbol)
          · rw [hsystem]
          · intro symbol
            rw [htargets symbol, hstate]
            exact hreached symbol
        executed := fun _ hexecuted => (Option.some.inj hexecuted).symm }

/-- The open of a session. -/
theorem Repository.AtClose.openPass {state : State} {date : Date} {closeEquity : Decimal}
    {bars : BacktestSession} (hdesk : desk.Distinct)
    (hclose : repo.AtClose config desk state date closeEquity)
    (hprices : ∀ symbol, 0 < bars.opens symbol)
    (hclamp : SameClamp config state closeEquity bars)
    (hfits : repo.openFits config desk (desk.clock (date + 1)) bars.opens = true) :
    ∃ opened, repo.openPass config desk (desk.clock (date + 1)) bars.opens = .ok opened ∧
      opened.AtOpen config desk (afterOpen config state bars) (date + 1) ∧
      (state.current ≠ some state.pending → ∀ symbol, ((opened.core symbol).targetQty : ℤ)
        = desired config.costs state.pending bars.opens (sizingEquity state.highWater
          (state.toAccount.equity config.costs bars.opens)) symbol) := by
  cases hclose.generation with
  | unborn hdates htargets hpending hheld =>
      -- There is nothing to freeze, and the backtest wants what it holds: nothing.
      have hwanted : ∀ sizing symbol, desired config.costs state.pending bars.opens sizing symbol
          = 0 := by
        intro sizing symbol
        simp [desired, hpending symbol]
      have htrade : trade config.costs bars state = state.toAccount := by
        unfold trade
        split
        · rfl
        · exact rebalance_of_held (fun symbol => gross_pos config (hprices symbol))
            fun symbol => (hwanted _ symbol).trans (hheld symbol).symm
      refine ⟨repo, ?_, hclose.untraded htrade (.unborn hdates htargets hpending hheld), ?_⟩
      · rw [Repository.openPass, repo.generation?_of_none hdates]
      · intro _ symbol
        rw [hwanted, htargets symbol]
        rfl
  | frozen generation hle hdates hfrozen hheld hsame =>
      -- The targets stand: neither side trades today.
      have htrade : trade config.costs bars state = state.toAccount := by
        unfold trade
        rw [if_pos hsame]
      have hqty : ∀ symbol, (repo.core symbol).targetQty = (repo.core symbol).qty := by
        intro symbol
        have hshares := hclose.mirrors.qty_eq symbol
        have htarget := hheld symbol
        omega
      obtain ⟨hsell, hbuy⟩ := Repository.passes_of_held config desk generation
        (desk.clock (date + 1)) bars.opens hqty
      refine ⟨repo, ?_, hclose.untraded htrade
        (.frozen generation (Nat.le_succ_of_le hle) hdates hfrozen hheld rfl),
        fun hchanged => absurd hsame hchanged⟩
      have hsells : repo.sellPass config desk generation (desk.clock (date + 1)) bars.opens
          = .ok repo := by
        simp only [Repository.sellPass, hfrozen, ne_eq, not_true_eq_false, if_false,
          Except.ok_then, hsell]
      rw [Repository.openPass, repo.generation?_of_same hdates]
      simp only [hsells, Except.ok_then, hbuy]
  | stored hdates hopen hchanged =>
      obtain ⟨opened, hpass, hopened, htargets⟩ :=
        hclose.openPass_of_stored hdesk hprices hclamp hfits hdates hopen hchanged
      exact ⟨opened, hpass, hopened, fun _ => htargets⟩

omit [DecidableEq ι] in
/-- The live account is marked at its worth, or at nothing. -/
theorem Repository.Mirrors.completedMarkedEquity (hmirrors : repo.Mirrors config account)
    (closes : AllocationSymbol → Decimal) :
    repo.completedMarkedEquity config closes = .ok (max 0 (account.equity config.costs closes)) := by
  have hshares : ∀ symbol, ((repo.core symbol).qty : Decimal) = account.quantities symbol := by
    intro symbol
    exact_mod_cast hmirrors.qty_eq symbol
  have hdirect := hmirrors.settled.direct
  simp only [Repository.completedMarkedEquity, hmirrors.settled.rawManagedCash, Except.ok_then,
    Repository.corePositions, List.map_cons, List.map_nil, List.sum_cons, List.sum_nil, hshares,
    hdirect, Nat.cast_zero, zero_mul, add_zero, Account.equity, allocationSymbols,
    StrategyConfig.costs]
  refine congrArg Except.ok (congrArg (max 0) ?_)
  ring

/-- Clamping the mark at zero leaves the budget. -/
private theorem sizingEquity_max_zero (highWater equity : Decimal) :
    sizingEquity highWater (max 0 equity) = sizingEquity highWater equity := by
  rcases le_total 0 equity with hworth | hbroke
  · rw [max_eq_right hworth]
  · have hnothing : sizingEquity highWater 0 = 0 := max_eq_left (min_le_right _ _)
    have hless : sizingEquity highWater equity = 0 :=
      max_eq_left ((min_le_right _ _).trans hbroke)
    rw [max_eq_left hbroke, hnothing, hless]

/-- What the close records. -/
private theorem recordV322Equity_atClose {system : SystemState} {highWater : Decimal}
    (equity : Decimal)
    (hprincipal : system.effectiveInitialCapital = .ok V322Policy.initialCapital)
    (hhighWater : max V322Policy.initialCapital
      (system.highWaterEquity.getD V322Policy.initialCapital) = highWater) :
    system.recordV322Equity (max 0 equity) = .ok { system with
      highWaterEquity := some (advanceHighWater highWater equity)
      riskBudget := some (sizingEquity (advanceHighWater highWater equity) equity) } := by
  have hpositive : 0 ≤ V322Policy.initialCapital := by norm_num [V322Policy.initialCapital]
  have hmark : max (system.highWaterEquity.getD V322Policy.initialCapital)
      (max (max 0 equity) V322Policy.initialCapital) = advanceHighWater highWater equity := by
    rw [advanceHighWater, ← hhighWater, max_comm 0 equity, max_assoc equity,
      max_eq_right hpositive]
    ac_rfl
  have hnonneg : ¬max 0 equity < 0 := not_lt.mpr (le_max_left _ _)
  simp only [SystemState.recordV322Equity, if_neg hnonneg, hprincipal, hmark]
  rw [← sizingEquity_max_zero, sizingEquity, max_comm 0 (_ - _)]

omit [DecidableEq ι] in
/-- The weights a close compares. -/
private theorem targetChanged_iff (newWeights : Weights) :
    repo.targetChanged newWeights = true ↔
      ∃ symbol, (repo.core symbol).targetWeight ≠ newWeights symbol := by
  simp only [Repository.targetChanged, List.any_eq_true, decide_eq_true_eq]
  constructor
  · rintro ⟨symbol, -, hchanged⟩
    exact ⟨symbol, hchanged⟩
  · rintro ⟨symbol, hchanged⟩
    exact ⟨symbol, by cases symbol <;> decide, hchanged⟩

/-- The close of a session. -/
theorem Repository.AtOpen.closePass {state : State} {next : Date} {bars : BacktestSession}
    (hopen : repo.AtOpen config desk state next) (htarget : bars.target.IsTarget) :
    ∃ repo', repo.closePass config next bars.closes bars.target = .ok repo' ∧
      repo'.AtClose config desk
        { state with
          highWater := advanceHighWater state.highWater
            (state.toAccount.equity config.costs bars.closes)
          pending := bars.target }
        next (state.toAccount.equity config.costs bars.closes) := by
  generalize hequity : state.toAccount.equity config.costs bars.closes = equity
  have hmark := hopen.mirrors.completedMarkedEquity bars.closes
  rw [hequity] at hmark
  have hrecord := recordV322Equity_atClose equity hopen.mirrors.settled.principal hopen.highWater
  generalize hwrites : ({ repo.system with
      highWaterEquity := some (advanceHighWater state.highWater equity)
      riskBudget := some (sizingEquity (advanceHighWater state.highWater equity) equity) } :
      SystemState) = system at hrecord
  have hrise : V322Policy.initialCapital ≤ advanceHighWater state.highWater equity := by
    rw [← hopen.highWater]
    exact le_max_of_le_left (le_max_left _ _)
  have hpass : repo.closePass config next bars.closes bars.target
      = .ok (if (repo.setSystem system).targetChanged bars.target then
          (repo.setSystem system).storeTargets next bars.target else repo.setSystem system) := by
    simp only [Repository.closePass, hmark, hrecord, Except.ok_then]
    rfl
  rw [hpass]
  refine ⟨_, rfl, ?_⟩
  -- Live stores targets exactly when a weight changes, which is when the backtest sees a new
  -- allocation.
  by_cases hchanged : (repo.setSystem system).targetChanged bars.target = true
  · rw [if_pos hchanged, Repository.storeTargets_eq]
    obtain ⟨symbol, hsymbol⟩ := (targetChanged_iff bars.target).mp hchanged
    -- What is executed today is not what is pending.
    have hnew : state.current ≠ some bars.target := by
      intro hsame
      refine hsymbol ?_
      rw [hopen.executed _ hsame]
      exact hopen.weights symbol
    subst hwrites
    exact
      { mirrors := ⟨hopen.mirrors.settled.withCore (fun symbol => ⟨rfl, rfl, rfl⟩) rfl rfl rfl,
          hopen.mirrors.nonneg⟩
        highWater := max_eq_right hrise
        budget := rfl
        weights := fun _ => rfl
        target := htarget
        counts := hopen.counts
        mayBuy := ⟨hopen.mayBuy.gates, hopen.mayBuy.safe⟩
        unused := fun later symbol side hlater =>
          have hbefore := hopen.unused later symbol side hlater
          ⟨hbefore.order, hbefore.progress⟩
        generation := .stored (fun _ => rfl) rfl hnew }
  · rw [if_neg hchanged]
    have hsame : state.pending = bars.target := by
      funext symbol
      rw [← hopen.weights symbol]
      by_contra hne
      exact hchanged ((targetChanged_iff bars.target).mpr ⟨symbol, hne⟩)
    subst hwrites
    exact
      { mirrors := ⟨hopen.mirrors.settled.withCore (fun symbol => ⟨rfl, rfl, rfl⟩) rfl rfl rfl,
          hopen.mirrors.nonneg⟩
        highWater := max_eq_right hrise
        budget := rfl
        weights := fun symbol => by
          rw [← hsame]
          exact hopen.weights symbol
        target := htarget
        counts := hopen.counts
        mayBuy := ⟨hopen.mayBuy.gates, hopen.mayBuy.safe⟩
        unused := fun later symbol side hlater =>
          have hbefore := hopen.unused later symbol side hlater
          ⟨hbefore.order, hbefore.progress⟩
        generation := by
          rw [← hsame]
          cases hopen.generation with
          | unborn hdates htargets hpending hheld =>
              exact .unborn hdates htargets hpending hheld
          | stored hdates hkey hnew => exact .stored hdates hkey hnew
          | frozen generation hle hdates hfrozen hheld hcurrent =>
              exact .frozen generation hle hdates hfrozen hheld hcurrent }

end Passes

end JdHoldings

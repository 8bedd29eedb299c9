import JdHoldings.Application.AllocationTradingService
import JdHoldings.Application.InitialOnboarding

/-!
# Moving a position to its target

`_apply_target` compares the shares held with the target of the allocator.  What is above it
is sold at once; what is below it is announced by a BUY signal that an operator, or AUTO,
turns into an order later.  While the first entry is staged, the target is the part of it
that is open (`InitialOnboarding.applyTarget`).
-/

namespace JdHoldings

variable {ι : Type}

/-! ## The signal of a core BUY -/

/-- The columns of the unique key of `signals` agree. -/
def CoreSignal.SameKey (row new : CoreSignal) : Prop :=
  row.symbol = new.symbol ∧ row.tradeDate = new.tradeDate ∧ row.action = new.action ∧
    row.strategyVersion = new.strategyVersion ∧ row.configVersion = new.configVersion

instance (row new : CoreSignal) : Decidable (row.SameKey new) :=
  inferInstanceAs (Decidable (_ ∧ _))

/-- The row a signal that is over is rewritten to. -/
def CoreSignal.reactivate (row new : CoreSignal) : CoreSignal :=
  { row with
    status := .active
    processed := false
    expiredReason := none
    signalClose := new.signalClose
    maxChasePrice := new.maxChasePrice
    plannedBudget := new.plannedBudget
    validUntil := new.validUntil }

/-- `create_core_buy_signal` with `reactivate_existing`: the table it leaves, the id of the row,
and whether the signal is announced. -/
def createCoreBuySignal (signals : List CoreSignal) (new : CoreSignal) :
    List CoreSignal × SignalId × Bool :=
  match signals.find? fun row => decide (row.SameKey new) with
  | none =>
      let inserted := { new with signalId := signals.length + 1 }
      (signals ++ [inserted], inserted.signalId, true)
  | some row =>
      if row.status = .active ∨ row.status = .unknown then (signals, row.signalId, false)
      else
        (signals.map fun other =>
          if other.signalId = row.signalId then other.reactivate new else other, row.signalId, true)

/-! ## Targets -/

/-- What `_apply_target` finds around it: the versions and the chase limit of the config, the
prices of the broker, and the close of the next session. -/
structure TargetContext where
  version : String
  configVersion : String
  entryMaxChasePct : Decimal
  price : AllocationSymbol → Py Decimal
  validUntil : Utc

/-- What `_apply_target` does with a position. -/
inductive TargetAction where
  | nothing
  /-- `_sell_core` of a quantity. -/
  | sell (quantity : ℕ)
  | announced (signalId : SignalId)
deriving DecidableEq, Repr

/-- `_symbol_is_safe`. -/
def Repository.symbolIsSafe (repo : Repository ι) (symbol : AllocationSymbol) : Bool :=
  decide (repo.system.portfolioSafeMode = some true) ||
    match (Symbol.allocation symbol).enabled? with
    | none => false
    | some enabled => decide ((repo.positions enabled).state = .safeMode)

/-- The BUY signal of a number of shares at a price. -/
def TargetContext.buySignal (context : TargetContext) (config : StrategyConfig)
    (symbol : AllocationSymbol) (tradeDate : Date) (quantity : ℕ) (price : Decimal) : CoreSignal where
  signalId := 0
  symbol := symbol
  tradeDate := tradeDate
  action := .coreRebalanceBuy
  signalClose := price
  maxChasePrice := price * (1 + context.entryMaxChasePct)
  plannedBudget := quantity * price * (1 + config.buyLimitBuffer) * (1 + config.buyFee)
  validUntil := context.validUntil
  strategyVersion := context.version
  configVersion := context.configVersion

/-- `_apply_target` for a target quantity: the signals it leaves, and what it does. -/
def moveToTarget (config : StrategyConfig) (context : TargetContext) (repo : Repository ι)
    (signals : List CoreSignal) (symbol : AllocationSymbol) (target : ℕ) (allowBuy : Bool) :
    Py (List CoreSignal × TargetAction) :=
  let core := repo.core symbol
  if target < core.qty ∧ allowBuy = false then do
    let _ ← context.price symbol
    return (signals, .sell (core.qty - target))
  else if target ≤ core.qty ∨ allowBuy = false then .ok (signals, .nothing)
  else
    let difference := target - core.qty - repo.committedCoreBuyQuantity (.allocation symbol)
    if difference = 0 then .ok (signals, .nothing)
    else if repo.symbolIsSafe symbol then .ok (signals, .nothing)
    else do
      let price ← context.price symbol
      match core.signalTradeDate with
      | none => .error (.value "Invalid isoformat string: 'None'")
      | some tradeDate =>
          let (signals, signalId, created) := createCoreBuySignal signals
            (context.buySignal config symbol tradeDate difference price)
          return (signals, if created then .announced signalId else .nothing)

/-- `PortfolioService._apply_target`. -/
def PortfolioService.applyTarget (config : StrategyConfig) (context : TargetContext)
    (repo : Repository ι) (signals : List CoreSignal) (symbol : AllocationSymbol)
    (allowBuy : Bool) : Py (List CoreSignal × TargetAction) :=
  moveToTarget config context repo signals symbol (repo.core symbol).targetQty allowBuy

/-- `_apply_target` while the first entry may be staged. -/
def InitialOnboarding.applyTarget (policy : InitialOnboardingPolicy) (config : StrategyConfig)
    (context : TargetContext) (store : OnboardingStore ι) (signals : List CoreSignal)
    (symbol : AllocationSymbol) (allowBuy : Bool) : Py (List CoreSignal × TargetAction) :=
  match onboardingStatus policy store with
  | .completed | .bypassed | .disabled =>
      PortfolioService.applyTarget config context store.repo signals symbol allowBuy
  | _ => do
      let target ← effectiveTargetQuantity policy store (store.repo.core symbol)
      moveToTarget config context store.repo signals symbol target allowBuy

/-! ## What is announced -/

/-- The ids of the table are numbered from one. -/
structure DistinctIds (signals : List CoreSignal) : Prop where
  nodup : (signals.map fun row => row.signalId).Nodup
  le_length : ∀ row ∈ signals, row.signalId ≤ signals.length

section Announced

variable {signals signals' : List CoreSignal} {new row : CoreSignal} {signalId : SignalId}
  {created : Bool}

theorem DistinctIds.createCoreBuySignal (hids : DistinctIds signals)
    (hcreated : createCoreBuySignal signals new = (signals', signalId, created)) :
    DistinctIds signals' := by
  unfold JdHoldings.createCoreBuySignal at hcreated
  split at hcreated
  · cases hcreated
    constructor
    · rw [List.map_append, List.nodup_append]
      refine ⟨hids.nodup, List.nodup_singleton _, ?_⟩
      intro id hold id' hnew hsame
      obtain ⟨row, hrow, rfl⟩ := List.mem_map.mp hold
      have hle := hids.le_length row hrow
      rw [hsame, List.mem_singleton.mp hnew] at hle
      exact absurd hle (Nat.not_succ_le_self _)
    · intro row hrow
      rw [List.length_append, List.length_singleton]
      rcases List.mem_append.mp hrow with hold | hnew
      · exact Nat.le_succ_of_le (hids.le_length row hold)
      · rw [List.mem_singleton.mp hnew]
  · split at hcreated
    · cases hcreated
      exact hids
    · cases hcreated
      constructor
      · rw [List.map_map]
        convert hids.nodup using 2
        funext row
        dsimp only [Function.comp_apply]
        split <;> rfl
      · intro row hrow
        obtain ⟨other, hother, rfl⟩ := List.mem_map.mp hrow
        rw [List.length_map]
        split <;> exact hids.le_length other hother

/-- The announced row has the prices and the budget it is announced with. -/
theorem createCoreBuySignal_announced (hids : DistinctIds signals)
    (hcreated : createCoreBuySignal signals new = (signals', signalId, true)) (hrow : row ∈ signals')
    (hid : row.signalId = signalId) :
    row.symbol = new.symbol ∧ row.action = new.action ∧ row.signalClose = new.signalClose ∧
      row.plannedBudget = new.plannedBudget := by
  unfold createCoreBuySignal at hcreated
  split at hcreated
  · cases hcreated
    rcases List.mem_append.mp hrow with hold | hnew
    · have hle := hids.le_length row hold
      rw [hid] at hle
      exact absurd hle (Nat.not_succ_le_self _)
    · rw [List.mem_singleton.mp hnew]
      exact ⟨rfl, rfl, rfl, rfl⟩
  next found hfound =>
    split at hcreated
    · cases hcreated
    · cases hcreated
      obtain ⟨other, hother, rfl⟩ := List.mem_map.mp hrow
      have hsame : other.signalId = found.signalId := by
        split at hid
        · assumption
        · exact hid
      obtain rfl := List.inj_on_of_nodup_map hids.nodup hother (List.mem_of_find?_eq_some hfound) hsame
      have hkey := List.find?_some hfound
      rw [decide_eq_true_eq] at hkey
      obtain ⟨hsymbol, -, haction, -⟩ := hkey
      rw [if_pos rfl]
      exact ⟨hsymbol, haction, rfl, rfl⟩

variable {config : StrategyConfig} {context : TargetContext} {repo : Repository ι}
  {symbol : AllocationSymbol} {target : ℕ} {allowBuy : Bool}

/-- A signal is announced for what the target leaves open. -/
theorem moveToTarget_announced (hids : DistinctIds signals)
    (hmoved : moveToTarget config context repo signals symbol target allowBuy
      = .ok (signals', .announced signalId)) (hrow : row ∈ signals') (hid : row.signalId = signalId) :
    ∃ quantity : ℕ, 0 < quantity ∧
      (repo.core symbol).qty + repo.committedCoreBuyQuantity (.allocation symbol) + quantity
        = target ∧
      row.symbol = symbol ∧ row.action = .coreRebalanceBuy ∧
      row.plannedBudget = quantity * row.signalClose * (1 + config.buyLimitBuffer)
        * (1 + config.buyFee) := by
  unfold moveToTarget at hmoved
  dsimp only at hmoved
  split at hmoved
  · obtain ⟨price, -, hsold⟩ := Except.bind_eq_ok.mp hmoved
    cases hsold
  split at hmoved
  · cases hmoved
  split at hmoved
  · cases hmoved
  next hopen =>
    split at hmoved
    · cases hmoved
    · obtain ⟨price, -, hmoved⟩ := Except.bind_eq_ok.mp hmoved
      split at hmoved
      · cases hmoved
      next tradeDate hdate =>
        generalize hcreated : createCoreBuySignal signals _ = result at hmoved
        obtain ⟨after, id, created⟩ := result
        cases created with
        | false => cases hmoved
        | true =>
            cases hmoved
            obtain ⟨hsymbol, haction, hclose, hbudget⟩ :=
              createCoreBuySignal_announced hids hcreated hrow hid
            refine ⟨_, Nat.pos_of_ne_zero hopen, by omega, hsymbol, haction, ?_⟩
            rw [hbudget, hclose]
            rfl

end Announced

/-! ## The quote of an announced signal -/

section Quoted

open AllocationTradingService

variable {config : StrategyConfig} (context : TargetContext) {repo : Repository ι}
  {symbol : AllocationSymbol} {quantity : ℕ} {price limit : Decimal}

/-- A signal is planned with the quantity it is announced for. -/
theorem plannedQuantity_buySignal (tradeDate : Date)
    (hprice : 0 < price * (1 + config.buyLimitBuffer)) :
    plannedQuantity config (context.buySignal config symbol tradeDate quantity price) = quantity := by
  have hshare : 0 < price * (1 + config.buyLimitBuffer) * (1 + config.buyFee) :=
    mul_pos hprice config.one_add_buyFee_pos
  have hbudget : (context.buySignal config symbol tradeDate quantity price).plannedBudget
      = quantity * (price * (1 + config.buyLimitBuffer) * (1 + config.buyFee)) := by
    show (quantity : Decimal) * price * (1 + config.buyLimitBuffer) * (1 + config.buyFee) = _
    ring
  have hclose : (context.buySignal config symbol tradeDate quantity price).signalClose = price := rfl
  simp only [plannedQuantity, hclose, hbudget, if_pos hshare, mul_div_cancel_right₀ _ hshare.ne',
    Quantize.roundDown, if_pos (Nat.cast_nonneg quantity), Int.floor_natCast]

/-- At the price of its announcement a signal is quoted for all of its quantity, where the frozen
target leaves it open. -/
theorem priceQuote_buySignal (tradeDate : Date) (session : MarketSession)
    (hlimit : calculateLimitPrice price (price * (1 + context.entryMaxChasePct)) config = .ok limit)
    (hpositive : 0 < limit) (hsome : 0 < quantity)
    (hopen : (repo.core symbol).targetQty - (repo.core symbol).qty
      - repo.committedCoreBuyQuantity (.allocation symbol) = quantity) :
    ∃ quote, priceQuote config repo (context.buySignal config symbol tradeDate quantity price)
        session price = .ok quote ∧ quote.quantity = quantity ∧ quote.limitPrice = limit := by
  have hbelow := calculateLimitPrice_le_buffered hlimit hpositive
  have hplanned : plannedQuantity config
      (context.buySignal config symbol tradeDate quantity price) = quantity :=
    plannedQuantity_buySignal context tradeDate (hpositive.trans_le hbelow)
  -- The target is frozen, for it leaves shares open.
  have htarget : currentTarget config repo
      (context.buySignal config symbol tradeDate quantity price) = (repo.core symbol).targetQty :=
    if_pos (show 0 < (repo.core symbol).targetQty by omega)
  have hmaximum : (maximumQuantity config repo
      (context.buySignal config symbol tradeDate quantity price)).toNat = quantity := by
    have hsymbol : (context.buySignal config symbol tradeDate quantity price).symbol = symbol := rfl
    simp only [maximumQuantity, hplanned, htarget, hsymbol]
    omega
  have hbudget : (quantity : Decimal) * limit * (1 + config.buyFee)
      ≤ (context.buySignal config symbol tradeDate quantity price).plannedBudget := by
    show _ ≤ (quantity : Decimal) * price * (1 + config.buyLimitBuffer) * (1 + config.buyFee)
    rw [mul_assoc (quantity : Decimal) price]
    have hfee := config.one_add_buyFee_pos
    gcongr
  have hquantity := calculateOrderQuantity_eq_maximum config.one_add_buyFee_pos hpositive hsome
    hbudget
  have hceiling : (context.buySignal config symbol tradeDate quantity price).maxChasePrice
      = price * (1 + context.entryMaxChasePct) := rfl
  have hnonempty : ¬quantity < 1 := by omega
  simp only [priceQuote, hceiling, hlimit, hmaximum, hquantity, Except.mapError, Except.ok_then,
    raiseIf, if_neg hnonempty]
  exact ⟨_, rfl, rfl, rfl⟩

end Quoted

end JdHoldings

import JdHoldings.Application.ManagedAccount
import JdHoldings.Core.Allocation

/-!
# The allocator and its targets

What `PortfolioService.run_allocation` reads and writes in the repository: the equity of
a completed close, the target row it stores when a weight changed, and the quantities it
freezes when the next session has begun.

A target generation is the close its weights were decided at.  `storeTargets` opens it
with no quantities, `freeze` gives it its quantities once, and the key
`v322_target_qty_generation` says whether that has happened.
-/

namespace JdHoldings

variable {ι : Type}

/-- `core_positions()`: the rows in the order of their symbols. -/
def Repository.corePositions (repo : Repository ι) : List (AllocationSymbol × CoreRow) :=
  [AllocationSymbol.qqq, .soxl, .tqqq].map fun symbol => (symbol, repo.core symbol)

/-! ## The completed close -/

/-- `_completed_marked_equity`, for a completed session in the index of every frame. -/
def Repository.completedMarkedEquity (config : StrategyConfig) (repo : Repository ι)
    (closes : AllocationSymbol → Decimal) : Py Decimal := do
  let cash ← repo.rawManagedCash config
  let sellMultiplier := 1 - config.sellFee
  let core := (repo.corePositions.map fun (symbol, row) =>
    row.qty * closes symbol * sellMultiplier).sum
  let direct := (repo.positions .tqqq).quantity * closes .tqqq * sellMultiplier
    + (repo.positions .soxl).quantity * closes .soxl * sellMultiplier
  return max 0 (cash + core + direct)

/-! ## Targets -/

/-- `set_core_target`. -/
def Repository.setCoreTarget (repo : Repository ι) (symbol : AllocationSymbol) (active : Bool)
    (targetWeight : Decimal) (signalTradeDate : Date) (targetQty : Option ℕ) : Repository ι :=
  let row := repo.core symbol
  { repo with core := Function.update repo.core symbol { row with
      trendActive := active
      targetWeight := targetWeight
      signalTradeDate := some signalTradeDate
      targetQty := targetQty.getD row.targetQty } }

/-- `changed` in `run_allocation`. -/
def Repository.targetChanged (repo : Repository ι) (newWeights : Weights) : Bool :=
  allocationSymbols.any fun symbol => decide ((repo.core symbol).targetWeight ≠ newWeights symbol)

/-- The new generation, still without quantities. -/
def Repository.storeTargets (repo : Repository ι) (completed : Date) (newWeights : Weights) :
    Repository ι :=
  let stored := allocationSymbols.foldl (fun repo symbol =>
    repo.setCoreTarget symbol (decide (0 < newWeights symbol)) (newWeights symbol) completed
      (some 0)) repo
  stored.setSystem { stored.system with targetQtyGeneration := none }

/-- `generations`. -/
def Repository.generations (repo : Repository ι) : List Date :=
  (repo.corePositions.filterMap fun (_, row) => row.signalTradeDate).dedup

/-- The generation of the allocator, when the rows agree on one. -/
def Repository.generation? (repo : Repository ι) : Option Date :=
  match repo.generations with
  | [generation] => some generation
  | _ => none

/-- `fixed_targets`: every price is read before anything is written. -/
def Repository.fixedTargets (config : StrategyConfig) (repo : Repository ι) (riskBudget : Decimal)
    (getPrice : AllocationSymbol → Py Decimal) : Py (AllocationSymbol → ℕ) := do
  let target (symbol : AllocationSymbol) : Py ℕ := do
    let price ← getPrice symbol
    return targetQuantity riskBudget (repo.core symbol).targetWeight price config.buyFee
  let qqq ← target .qqq
  let tqqq ← target .tqqq
  let soxl ← target .soxl
  return fun
    | .qqq => qqq
    | .tqqq => tqqq
    | .soxl => soxl

/-- The quantities of a generation. -/
def Repository.freeze (config : StrategyConfig) (repo : Repository ι) (generation : Date)
    (getPrice : AllocationSymbol → Py Decimal) : Py (Repository ι) := do
  let riskBudget ← repo.system.riskBudgetOrInitial
  let fixedTargets ← repo.fixedTargets config riskBudget getPrice
  let frozen := allocationSymbols.foldl (fun repo symbol =>
    let core := repo.core symbol
    repo.setCoreTarget symbol (decide (0 < core.targetWeight)) core.targetWeight generation
      (some (fixedTargets symbol))) repo
  return frozen.setSystem { frozen.system with targetQtyGeneration := some generation }

/-! ## What the writes leave alone -/

section Frame

variable (repo : Repository ι)

@[simp] theorem Repository.setCoreTarget_system (symbol : AllocationSymbol) (active : Bool)
    (targetWeight : Decimal) (date : Date) (targetQty : Option ℕ) :
    (repo.setCoreTarget symbol active targetWeight date targetQty).system = repo.system := rfl

/-- The repository with other core rows and another system state. -/
def Repository.withCore (core : AllocationSymbol → CoreRow) (system : SystemState) :
    Repository ι :=
  { repo with core := core, system := system }

theorem Repository.storeTargets_eq (completed : Date) (newWeights : Weights) :
    repo.storeTargets completed newWeights = repo.withCore
      (fun symbol => { repo.core symbol with
        trendActive := decide (0 < newWeights symbol)
        targetWeight := newWeights symbol
        signalTradeDate := some completed
        targetQty := 0 })
      { repo.system with targetQtyGeneration := none } := by
  have hcore : (repo.storeTargets completed newWeights).core = fun symbol => { repo.core symbol with
      trendActive := decide (0 < newWeights symbol)
      targetWeight := newWeights symbol
      signalTradeDate := some completed
      targetQty := 0 } := by
    funext symbol
    cases symbol <;> rfl
  exact congrArg (fun core => repo.withCore core { repo.system with targetQtyGeneration := none })
    hcore

theorem Repository.generation?_of_same {generation : Date}
    (hsame : ∀ symbol, (repo.core symbol).signalTradeDate = some generation) :
    repo.generation? = some generation := by
  have hgenerations : repo.generations = [generation] := by
    simp [generations, corePositions, hsame]
  rw [generation?, hgenerations]

theorem Repository.generation?_of_none
    (hnone : ∀ symbol, (repo.core symbol).signalTradeDate = none) : repo.generation? = none := by
  have hgenerations : repo.generations = [] := by simp [generations, corePositions, hnone]
  rw [generation?, hgenerations]

end Frame

/-- What freezing at given prices writes. -/
theorem Repository.freeze_eq (config : StrategyConfig) (repo : Repository ι) {riskBudget : Decimal}
    (hbudget : repo.system.riskBudgetOrInitial = .ok riskBudget) (generation : Date)
    (prices : AllocationSymbol → Decimal) :
    repo.freeze config generation (fun symbol => .ok (prices symbol)) = .ok (repo.withCore
      (fun symbol => { repo.core symbol with
        trendActive := decide (0 < (repo.core symbol).targetWeight)
        signalTradeDate := some generation
        targetQty := targetQuantity riskBudget (repo.core symbol).targetWeight (prices symbol)
          config.buyFee })
      { repo.system with targetQtyGeneration := some generation }) := by
  simp only [freeze, hbudget, fixedTargets, Except.ok_then]
  refine congrArg Except.ok ?_
  refine congrArg (fun core => repo.withCore core
    { repo.system with targetQtyGeneration := some generation }) ?_
  funext symbol
  cases symbol <;> rfl

end JdHoldings

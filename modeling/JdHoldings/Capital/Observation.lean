import Mathlib.Data.List.Induction
import Mathlib.Data.List.Infix
import JdHoldings.Capital.SameLedger
import JdHoldings.Ledger.Operations

/-!
# Equity observations

`run_allocation` marks the account at the closes of the completed session and
records the result as high-water mark.  The mark is put together from four reads,
each a transaction of its own, and recorded in a fifth: cash, the core rows, the
two rows of the old direct positions, then `record_v322_equity` against whatever
principal is current by then.  The operator and a reconciliation work on the same
database in another thread.

What the record may show is the true gain of one instant, and the instant is the
cash read.  Between it and the record three things can spoil the mark:

- a SELL fill was stored and not booked when the cash was read, so its proceeds
  and its shares are both counted,
- a BUY fill is stored after the cash was read and booked before the core rows
  are, so its shares are counted and still unpaid,
- the principal falls before the record, so that the money taken out is a gain.

`SharedOp.Settled` excludes the three, and every run of settled steps records true
gains only.  The last one needs no bad luck with fills: an operator reduction
between two reads is enough (`reduction_recorded_as_gain`).
-/

namespace JdHoldings

variable {ι : Type}

/-! ## Stored fills that no booking has moved -/

def OrderRow.unbookedFill (symbol : AllocationSymbol) (side : Side) (applied : ℕ)
    (row : OrderRow ι) : ℕ :=
  if row.symbol = .allocation symbol ∧ row.side = side ∧ row.purpose.isCore = true then
    row.filledQty - applied
  else 0

/-- The core shares a side has filled and `apply_core_fill` has not booked. -/
def Repository.unbookedFill (repo : Repository ι) (side : Side) (symbol : AllocationSymbol) : ℕ :=
  repo.orders.sum fun row => row.unbookedFill symbol side (repo.appliedFilledQty row.clientOrderId)

/-- The shares booked, or bought and still to be booked. -/
def Repository.bookableQuantity (repo : Repository ι) (symbol : AllocationSymbol) : ℕ :=
  (repo.core symbol).qty + repo.unbookedFill .buy symbol

/-- The step raises the cumulative fill of a core BUY. -/
def LedgerOp.storesBuyFill [DecidableEq ι] (repo : Repository ι) : LedgerOp ι → Bool
  | .updateOrder clientOrderId update =>
      match repo.orders.get? clientOrderId with
      | none => false
      | some existing =>
          decide (existing.side = .buy) && existing.purpose.isCore &&
            decide (existing.filledQty < update.filledQty.getD existing.filledQty)
  | _ => false

section Booking

variable [DecidableEq ι]

private theorem unbookedFill_insert {repo : Repository ι} {request : OrderRequest ι}
    {now : Timestamp} (hfresh : repo.orders.get? request.clientOrderId = none) (side : Side)
    (symbol : AllocationSymbol) :
    Repository.unbookedFill
        { repo with orders := (repo.orders.insertOrIgnore (request.newRow now)).1 } side symbol
      = repo.unbookedFill side symbol := by
  have hnew : repo.orders.get? (request.newRow now).clientOrderId = none := hfresh
  have hsum := Table.sum_insertOrIgnore
    (fun row => row.unbookedFill symbol side (repo.appliedFilledQty row.clientOrderId)) hnew
  have hzero : (request.newRow now).unbookedFill symbol side
      (repo.appliedFilledQty request.clientOrderId) = 0 := by
    simp [OrderRow.unbookedFill, OrderRequest.newRow]
  calc _ = repo.unbookedFill side symbol + (request.newRow now).unbookedFill symbol side
        (repo.appliedFilledQty request.clientOrderId) := hsum
    _ = repo.unbookedFill side symbol := by rw [hzero, add_zero]

private theorem unbookedFill_replace {repo : Repository ι} {existing row : OrderRow ι}
    {status : OrderStatus} {update : OrderUpdate}
    (hget : repo.orders.get? existing.clientOrderId = some existing)
    (hupdated : existing.Updated row status update) (side : Side) (symbol : AllocationSymbol)
    (hfilled : existing.side = side → existing.purpose.isCore = true →
      row.filledQty = existing.filledQty) :
    Repository.unbookedFill { repo with orders := repo.orders.replace row } side symbol
      = repo.unbookedFill side symbol := by
  have hget' : repo.orders.get? row.clientOrderId = some existing := by
    rw [hupdated.clientOrderId]
    exact hget
  have hexchange := Table.sum_exchange
    (fun row => row.unbookedFill symbol side (repo.appliedFilledQty row.clientOrderId))
    (fun row => row.unbookedFill symbol side (repo.appliedFilledQty row.clientOrderId)) hget'
    (fun _ _ _ => rfl)
  have hrow : row.unbookedFill symbol side (repo.appliedFilledQty row.clientOrderId)
      = existing.unbookedFill symbol side (repo.appliedFilledQty existing.clientOrderId) := by
    unfold OrderRow.unbookedFill
    rw [hupdated.clientOrderId, hupdated.symbol, hupdated.side, hupdated.purpose]
    split
    · rename_i hcore
      rw [hfilled hcore.2.1 hcore.2.2]
    · rfl
  rw [hrow] at hexchange
  exact Nat.add_right_cancel hexchange

/-- Booking a BUY moves shares inside the bookable quantity; booking a SELL takes
shares out of it. -/
private theorem bookableQuantity_book {repo : Repository ι} {order : OrderRow ι}
    {booked symbol : AllocationSymbol} {row : CoreRow}
    (hget : repo.orders.get? order.clientOrderId = some order)
    (hcore : order.purpose.isCore = true) (hsymbol : order.symbol = .allocation booked)
    (hbooked : repo.CoreFillBooked booked order row) :
    (repo.bookCoreFill booked order row).bookableQuantity symbol ≤ repo.bookableQuantity symbol := by
  have hreweigh := Table.sum_reweigh
    (fun row => row.unbookedFill symbol .buy (repo.appliedFilledQty row.clientOrderId))
    (fun other => other.unbookedFill symbol .buy
      ((repo.bookCoreFill booked order row).appliedFilledQty other.clientOrderId)) hget
    (fun other _ hne => by rw [Repository.appliedFilledQty_bookCoreFill_of_ne _ _ _ _ hne])
  simp only [Repository.appliedFilledQty_bookCoreFill_self] at hreweigh
  simp only [Repository.bookableQuantity, Repository.unbookedFill, Repository.bookCoreFill_orders]
  by_cases hsame : symbol = booked
  · subst hsame
    rw [Repository.bookCoreFill_core_self]
    cases hbooked with
    | buy hside hfill =>
        obtain ⟨hqty, -⟩ := CoreRow.buyFill_ok hfill
        have hall : ∀ applied,
            order.unbookedFill symbol .buy applied = order.filledQty - applied := by
          intro applied
          simp [OrderRow.unbookedFill, hsymbol, hside, hcore]
        simp only [hall] at hreweigh
        omega
    | sell hside hfill =>
        obtain ⟨hqty, -⟩ := CoreRow.sellFill_ok hfill
        have hzero : ∀ applied, order.unbookedFill symbol .buy applied = 0 := by
          intro applied
          simp [OrderRow.unbookedFill, hside]
        simp only [hzero] at hreweigh
        omega
  · rw [Repository.bookCoreFill_core_of_ne _ _ _ _ hsame]
    have hzero : ∀ applied, order.unbookedFill symbol .buy applied = 0 := by
      intro applied
      simp [OrderRow.unbookedFill, hsymbol, Ne.symm hsame]
    simp only [hzero] at hreweigh
    omega

/-- While no BUY fill is stored, the bookable quantities do not grow. -/
theorem LedgerOp.Effect.bookableQuantity_le {config : StrategyConfig} {repo repo' : Repository ι}
    {op : LedgerOp ι} (heffect : LedgerOp.Effect config repo op repo')
    (hstores : op.storesBuyFill repo = false) (symbol : AllocationSymbol) :
    repo'.bookableQuantity symbol ≤ repo.bookableQuantity symbol := by
  cases heffect with
  | unchanged => exact le_rfl
  | reservedBuy _ hfresh =>
      exact (congrArg (_ + ·) (unbookedFill_insert hfresh .buy symbol)).le
  | reservedSell hfresh =>
      exact (congrArg (_ + ·) (unbookedFill_insert hfresh .buy symbol)).le
  | @updated _ _ existing row _ hget hupdated =>
      have hkey := Table.key_of_get? hget
      have hsame := unbookedFill_replace (by rw [hkey]; exact hget) hupdated .buy symbol
        (fun hside hcore => by
          have hkeep := hupdated.filledQty
          have hmono := hupdated.filled_mono
          simp only [storesBuyFill, hget, hside, hcore, decide_true, Bool.true_and,
            decide_eq_false_iff_not, not_lt] at hstores
          omega)
      exact (congrArg (_ + ·) hsame).le
  | booked hget hcore hsymbol _ hbooked =>
      have hkey := Table.key_of_get? hget
      exact bookableQuantity_book (by rw [hkey]; exact hget) hcore hsymbol hbooked

end Booking

namespace Repository.SameLedger

variable {repo repo' : Repository ι}

theorem unbookedFill_eq (hsame : repo.SameLedger repo') (side : Side) (symbol : AllocationSymbol) :
    repo'.unbookedFill side symbol = repo.unbookedFill side symbol := by
  simp only [Repository.unbookedFill, Repository.appliedFilledQty, hsame.orders,
    hsame.coreFillProgress]

theorem bookableQuantity_eq (hsame : repo.SameLedger repo') (symbol : AllocationSymbol) :
    repo'.bookableQuantity symbol = repo.bookableQuantity symbol := by
  rw [bookableQuantity, bookableQuantity, hsame.qty, hsame.unbookedFill_eq]

end Repository.SameLedger

/-! ## Marking at completed closes -/

/-- The completed closes of a session; a symbol without one is not marked. -/
def Closes := AllocationSymbol → Option Decimal

/-- Prices are not negative. -/
def Closes.Nonneg (closes : Closes) : Prop := ∀ symbol, ∀ close ∈ closes symbol, 0 ≤ close

/-- What a quantity would bring at the close. -/
def Closes.value (config : StrategyConfig) (closes : Closes) (symbol : AllocationSymbol)
    (quantity : Decimal) : Decimal :=
  match closes symbol with
  | some close => quantity * close * (1 - config.sellFee)
  | none => 0

theorem Closes.value_le {config : StrategyConfig} {closes : Closes} (hcloses : closes.Nonneg)
    (hfee : config.sellFee ≤ 1) (symbol : AllocationSymbol) {quantity quantity' : Decimal}
    (hle : quantity ≤ quantity') :
    closes.value config symbol quantity ≤ closes.value config symbol quantity' := by
  unfold Closes.value
  split
  · rename_i close hclose
    have hprice := hcloses symbol close hclose
    have hmultiplier : 0 ≤ 1 - config.sellFee := by linarith
    gcongr
  · exact le_rfl

def EnabledSymbol.allocation : EnabledSymbol → AllocationSymbol
  | .tqqq => .tqqq
  | .soxl => .soxl

/-- The principal gains are measured against. -/
def SystemState.baseline (system : SystemState) : Decimal :=
  match system.effectiveInitialCapital with
  | .ok initial => initial
  | .error _ => 0

theorem SystemState.baseline_of_ok {system : SystemState} {initial : Decimal}
    (hinitial : system.effectiveInitialCapital = .ok initial) : system.baseline = initial := by
  rw [baseline, hinitial]

theorem SystemState.baseline_nonneg (system : SystemState) : 0 ≤ system.baseline := by
  unfold baseline
  split
  · rename_i initial hinitial
    exact effectiveInitialCapital_nonneg hinitial
  · exact le_rfl

namespace Repository

/-- The shares the broker holds for the core sleeve: the booked ones and what
stored fills still have to move. -/
def trueQuantity (repo : Repository ι) (symbol : AllocationSymbol) : Decimal :=
  (repo.core symbol).qty + repo.unbookedFill .buy symbol - repo.unbookedFill .sell symbol

/-- The equity of an instant, whatever is booked by then. -/
def trueMarkedEquity (config : StrategyConfig) (closes : Closes) (repo : Repository ι) : Decimal :=
  repo.system.baseline + repo.netCashFlow config
    + (closes.value config .qqq (repo.trueQuantity .qqq)
      + closes.value config .soxl (repo.trueQuantity .soxl)
      + closes.value config .tqqq (repo.trueQuantity .tqqq))
    + closes.value config .tqqq (repo.positions .tqqq).quantity
    + closes.value config .soxl (repo.positions .soxl).quantity

/-- The gain of an instant. -/
def trueGain (config : StrategyConfig) (closes : Closes) (repo : Repository ι) : Decimal :=
  repo.trueMarkedEquity config closes - repo.system.baseline

/-- The gain on record, as `record_v322_equity` takes it from the two numbers. -/
def highWaterGain (repo : Repository ι) : Decimal :=
  max 0 (repo.system.highWaterEquity.getD repo.system.baseline - repo.system.baseline)

/-- The loop over `core_positions` in `_completed_marked_equity`. -/
def coreValue (config : StrategyConfig) (closes : Closes) (repo : Repository ι) : Decimal :=
  closes.value config .qqq (repo.core .qqq).qty + closes.value config .soxl (repo.core .soxl).qty
    + closes.value config .tqqq (repo.core .tqqq).qty

/-- One turn of the loop over `enabled_symbols`: a held position without a close
raises. -/
def positionValue (config : StrategyConfig) (closes : Closes) (repo : Repository ι)
    (symbol : EnabledSymbol) : Py Decimal :=
  if (repo.positions symbol).quantity = 0 then .ok 0
  else if (closes symbol.allocation).isNone then .error .key
  else .ok (closes.value config symbol.allocation (repo.positions symbol).quantity)

theorem positionValue_ok {config : StrategyConfig} {closes : Closes} {repo : Repository ι}
    {symbol : EnabledSymbol} {value : Decimal}
    (hok : repo.positionValue config closes symbol = .ok value) :
    value = closes.value config symbol.allocation (repo.positions symbol).quantity := by
  unfold positionValue at hok
  split at hok
  · rename_i hzero
    obtain rfl := Except.ok.inj hok
    simp [hzero, Closes.value]
    split <;> rfl
  · split at hok
    · cases hok
    · exact (Except.ok.inj hok).symm

/-- A record never shows more than the gain before it and the gain of the mark. -/
theorem highWaterGain_of_record {repo repo' : Repository ι} {markedEquity : Decimal}
    (hok : repo.recordV322Equity markedEquity = .ok repo') :
    repo'.highWaterGain ≤ max repo.highWaterGain (markedEquity - repo.system.baseline) := by
  simp only [recordV322Equity, Except.bind_eq_ok] at hok
  obtain ⟨system, hrecorded, hresult⟩ := hok
  obtain rfl := Except.ok.inj hresult
  unfold SystemState.recordV322Equity at hrecorded
  split at hrecorded
  · cases hrecorded
  · split at hrecorded
    · cases hrecorded
    · rename_i initial hinitial
      obtain rfl := Except.ok.inj hrecorded
      have hbefore := SystemState.baseline_of_ok hinitial
      have hafter : ({ repo.system with
          highWaterEquity := some
            (max (repo.system.highWaterEquity.getD initial) (max markedEquity initial))
          riskBudget := some (max 0 (min (initial + V322Policy.hwmReinvestmentFraction *
            max 0 (max (repo.system.highWaterEquity.getD initial) (max markedEquity initial)
              - initial)) markedEquity)) } : SystemState).baseline = initial := hbefore
      simp only [highWaterGain, setSystem_system, hafter, hbefore, Option.getD_some]
      refine max_le (le_max_of_le_left (le_max_left _ _)) ?_
      rcases max_cases (repo.system.highWaterEquity.getD initial) (max markedEquity initial) with
        ⟨hmax, -⟩ | ⟨hmax, -⟩
      · rw [hmax]
        exact le_max_of_le_left (le_max_right _ _)
      · rw [hmax]
        rcases max_cases markedEquity initial with ⟨hmarked, -⟩ | ⟨hmarked, -⟩
        · rw [hmarked]
          exact le_max_right _ _
        · rw [hmarked, sub_self]
          exact le_max_of_le_left (le_max_left _ _)

end Repository

/-! ## Observation and operator, interleaved -/

/-- How far the observation of the scheduler thread has come, with the closes it
marks at and the value it has added up. -/
inductive Observation where
  | idle
  | cashRead (closes : Closes) (value : Decimal)
  | coreRead (closes : Closes) (value : Decimal)
  | tqqqRead (closes : Closes) (value : Decimal)
  | marked (closes : Closes) (equity : Decimal)

/-- The database and the scheduler thread. -/
structure Shared (ι : Type) where
  repo : Repository ι
  observation : Observation

/-- A transaction of the scheduler thread, or one of another thread. -/
inductive SharedOp (ι : Type) where
  | start (closes : Closes)
  | proceed
  | ledger (op : LedgerOp ι)
  | capital (env : AutoEnvironment ι) (op : CapitalOp)

/-- The next transaction of a running observation; an exception ends it. -/
def Shared.proceed (config : StrategyConfig) (shared : Shared ι) : Shared ι :=
  match shared.observation with
  | .idle => shared
  | .cashRead closes value =>
      { shared with observation := .coreRead closes (value + shared.repo.coreValue config closes) }
  | .coreRead closes value =>
      match shared.repo.positionValue config closes .tqqq with
      | .ok position => { shared with observation := .tqqqRead closes (value + position) }
      | .error _ => { shared with observation := .idle }
  | .tqqqRead closes value =>
      match shared.repo.positionValue config closes .soxl with
      | .ok position => { shared with observation := .marked closes (max 0 (value + position)) }
      | .error _ => { shared with observation := .idle }
  | .marked _ equity =>
      match shared.repo.recordV322Equity equity with
      | .ok repo => ⟨repo, .idle⟩
      | .error _ => { shared with observation := .idle }

def SharedOp.step [DecidableEq ι] (config : StrategyConfig) (shared : Shared ι) :
    SharedOp ι → Shared ι
  | .start closes =>
      match shared.observation, shared.repo.rawManagedCash config with
      | .idle, .ok cash => { shared with observation := .cashRead closes cash }
      | _, _ => shared
  | .proceed => shared.proceed config
  | .ledger op => { shared with repo := op.step config shared.repo }
  | .capital env op =>
      match op.exec config env shared.repo with
      | .ok repo => { shared with repo := repo }
      | .error _ => shared

/-- A ledger transaction beside a running observation: between the cash and the core rows
none stores a BUY fill. -/
def Observation.Admits [DecidableEq ι] (observation : Observation) (repo : Repository ι)
    (op : LedgerOp ι) : Prop :=
  match observation with
  | .cashRead _ _ => op.storesBuyFill repo = false
  | _ => True

/-- The reconciliation in the preflight of a first launch works in ledger transactions, and
those are admitted like any other. -/
def CapitalOp.LaunchAdmitted [DecidableEq ι] (config : StrategyConfig) (env : AutoEnvironment ι)
    (observation : Observation) (repo : Repository ι) : CapitalOp → Prop
  | .authorizeLaunch => repo.system.launchAuthorized ≠ some true →
      ∀ checked mismatches, env.reconciliation.run repo = .ok (checked, mismatches) →
        ∃ ops, Run.Along (fun repo op => LedgerOp.step config repo op) observation.Admits repo ops ∧
          (ops.foldl (fun repo op => LedgerOp.step config repo op) repo).SameLedger checked
  | _ => True

/-- Nothing that spoils a mark: no SELL fill waits to be booked when the cash is
read, no BUY fill is stored between the cash and the core rows, and no capital
change lowers the principal before the record. -/
def SharedOp.Settled [DecidableEq ι] (config : StrategyConfig) (shared : Shared ι) :
    SharedOp ι → Prop
  | .start closes => closes.Nonneg ∧ ∀ symbol, shared.repo.unbookedFill .sell symbol = 0
  | .proceed => True
  | .ledger op => shared.observation.Admits shared.repo op
  | .capital env op =>
      match shared.observation with
      | .idle => True
      | _ => op.LaunchAdmitted config env shared.observation shared.repo ∧
          shared.repo.system.baseline
            ≤ ((SharedOp.capital env op).step config shared).repo.system.baseline

/-! ## The mark against the instant of the cash read -/

/-- The equity of an instant without the direct positions. -/
def Repository.trueCoreEquity (config : StrategyConfig) (closes : Closes) (repo : Repository ι) :
    Decimal :=
  repo.system.baseline + repo.netCashFlow config
    + (closes.value config .qqq (repo.trueQuantity .qqq)
      + closes.value config .soxl (repo.trueQuantity .soxl)
      + closes.value config .tqqq (repo.trueQuantity .tqqq))

/-- What is added up so far, bounded by the true parts at the instant `origin`. -/
def Observation.Bounded (config : StrategyConfig) (origin repo : Repository ι) :
    Observation → Prop
  | .idle => False
  | .cashRead closes value => closes.Nonneg ∧
      value = origin.system.baseline + origin.netCashFlow config ∧
      ∀ symbol, (repo.bookableQuantity symbol : Decimal) ≤ origin.trueQuantity symbol
  | .coreRead closes value => value ≤ origin.trueCoreEquity config closes
  | .tqqqRead closes value => value ≤ origin.trueCoreEquity config closes
      + closes.value config .tqqq (origin.positions .tqqq).quantity
  | .marked closes equity => equity ≤ max 0 (origin.trueMarkedEquity config closes)

/-- A running observation whose cash was read at the instant `origin`. -/
structure Shared.Since (config : StrategyConfig) (origin : Repository ι) (shared : Shared ι) :
    Prop where
  positions : shared.repo.positions = origin.positions
  baseline_le : origin.system.baseline ≤ shared.repo.system.baseline
  bounded : shared.observation.Bounded config origin shared.repo

section Steps

variable {config : StrategyConfig} {origin : Repository ι} {shared : Shared ι}

/-- The core rows show no more than was bookable. -/
private theorem coreValue_le (hfee : config.sellFee ≤ 1) {closes : Closes}
    (hcloses : closes.Nonneg) {repo : Repository ι}
    (hbookable : ∀ symbol,
      (repo.bookableQuantity symbol : Decimal) ≤ origin.trueQuantity symbol) :
    repo.coreValue config closes ≤ closes.value config .qqq (origin.trueQuantity .qqq)
      + closes.value config .soxl (origin.trueQuantity .soxl)
      + closes.value config .tqqq (origin.trueQuantity .tqqq) := by
  have hqty : ∀ symbol, ((repo.core symbol).qty : Decimal) ≤ origin.trueQuantity symbol := by
    intro symbol
    refine le_trans ?_ (hbookable symbol)
    exact_mod_cast Nat.le_add_right _ _
  unfold Repository.coreValue
  have hqqq := Closes.value_le hcloses hfee .qqq (hqty .qqq)
  have hsoxl := Closes.value_le hcloses hfee .soxl (hqty .soxl)
  have htqqq := Closes.value_le hcloses hfee .tqqq (hqty .tqqq)
  linarith

/-- The next read keeps the bound, or the observation is over. -/
theorem Shared.Since.proceed (hfee : config.sellFee ≤ 1) (hsince : shared.Since config origin) :
    (shared.proceed config).observation = .idle ∨ (shared.proceed config).Since config origin := by
  obtain ⟨repo, observation⟩ := shared
  obtain ⟨hpositions, hbaseline, hbounded⟩ := hsince
  cases observation with
  | idle => exact absurd hbounded id
  | cashRead closes value =>
      obtain ⟨hcloses, rfl, hbookable⟩ := hbounded
      right
      exact ⟨hpositions, hbaseline, add_le_add_right (coreValue_le hfee hcloses hbookable) _⟩
  | coreRead closes value =>
      simp only [Shared.proceed]
      split
      · rename_i position hposition
        obtain rfl := Repository.positionValue_ok hposition
        have hsame : repo.positions = origin.positions := hpositions
        rw [hsame]
        right
        exact ⟨hpositions, hbaseline, add_le_add_left hbounded _⟩
      · exact Or.inl rfl
  | tqqqRead closes value =>
      simp only [Shared.proceed]
      split
      · rename_i position hposition
        obtain rfl := Repository.positionValue_ok hposition
        have hsame : repo.positions = origin.positions := hpositions
        rw [hsame]
        right
        exact ⟨hpositions, hbaseline, max_le_max_left 0 (add_le_add_left hbounded _)⟩
      · exact Or.inl rfl
  | marked closes equity =>
      simp only [Shared.proceed]
      split <;> exact Or.inl rfl

variable [DecidableEq ι]

/-- A settled ledger step keeps the bound. -/
theorem Shared.Since.ledger {op : LedgerOp ι} (hsince : shared.Since config origin)
    (hsettled : (SharedOp.ledger op).Settled config shared) :
    ((SharedOp.ledger op).step config shared).Since config origin := by
  obtain ⟨repo, observation⟩ := shared
  obtain ⟨hpositions, hbaseline, hbounded⟩ := hsince
  have heffect := LedgerOp.step_effect config repo op
  have hsystem := heffect.system_eq
  have hkept : (op.step config repo).positions = repo.positions := by
    generalize op.step config repo = repo' at heffect
    cases heffect <;> rfl
  refine ⟨hkept.trans hpositions, ?_, ?_⟩
  · have hsame : ((SharedOp.ledger op).step config ⟨repo, observation⟩).repo.system
        = repo.system := hsystem
    rw [hsame]
    exact hbaseline
  · cases observation with
    | cashRead closes value =>
        obtain ⟨hcloses, hvalue, hbookable⟩ := hbounded
        refine ⟨hcloses, hvalue, fun symbol => le_trans ?_ (hbookable symbol)⟩
        exact_mod_cast heffect.bookableQuantity_le hsettled symbol
    | idle => exact hbounded
    | coreRead closes value => exact hbounded
    | tqqqRead closes value => exact hbounded
    | marked closes equity => exact hbounded

omit [DecidableEq ι] in
/-- So does a rewrite that leaves the ledger alone and does not lower the principal. -/
theorem Shared.Since.sameLedger {repo' : Repository ι} (hsince : shared.Since config origin)
    (hsame : shared.repo.SameLedger repo')
    (hbaseline : origin.system.baseline ≤ repo'.system.baseline) :
    Shared.Since config origin ⟨repo', shared.observation⟩ := by
  obtain ⟨repo, observation⟩ := shared
  obtain ⟨hpositions, -, hbounded⟩ := hsince
  refine ⟨hsame.positions.trans hpositions, hbaseline, ?_⟩
  cases observation with
  | cashRead closes value =>
      obtain ⟨hcloses, hvalue, hbookable⟩ := hbounded
      refine ⟨hcloses, hvalue, fun symbol => ?_⟩
      have hquantity : repo'.bookableQuantity symbol = repo.bookableQuantity symbol :=
        hsame.bookableQuantity_eq symbol
      show (repo'.bookableQuantity symbol : Decimal) ≤ _
      rw [hquantity]
      exact hbookable symbol
  | idle => exact hbounded
  | coreRead closes value => exact hbounded
  | tqqqRead closes value => exact hbounded
  | marked closes equity => exact hbounded

/-- Admitted ledger transactions keep the bound, however many they are. -/
theorem Shared.Since.ledgerRun (ops : List (LedgerOp ι)) :
    ∀ {shared : Shared ι}, shared.Since config origin →
      Run.Along (fun repo op => LedgerOp.step config repo op) shared.observation.Admits
        shared.repo ops →
      Shared.Since config origin
        ⟨ops.foldl (fun repo op => LedgerOp.step config repo op) shared.repo,
          shared.observation⟩ := by
  induction ops with
  | nil => exact fun hsince _ => hsince
  | cons op ops ih =>
      intro shared hsince hadmitted
      exact ih (hsince.ledger hadmitted.1) hadmitted.2

/-- So does a settled capital change. -/
theorem Shared.Since.capital {env : AutoEnvironment ι} {op : CapitalOp}
    (hsince : shared.Since config origin)
    (hsettled : (SharedOp.capital env op).Settled config shared) :
    ((SharedOp.capital env op).step config shared).Since config origin := by
  have hrunning : op.LaunchAdmitted config env shared.observation shared.repo ∧
      shared.repo.system.baseline
        ≤ ((SharedOp.capital env op).step config shared).repo.system.baseline := by
    obtain ⟨repo, observation⟩ := shared
    cases observation with
    | idle => exact absurd hsince.bounded id
    | cashRead closes value => exact hsettled
    | coreRead closes value => exact hsettled
    | tqqqRead closes value => exact hsettled
    | marked closes equity => exact hsettled
  obtain ⟨hlaunch, hraised⟩ := hrunning
  simp only [SharedOp.step] at hraised ⊢
  cases hexec : op.exec config env shared.repo with
  | error error => exact hsince
  | ok repo' =>
      simp only [hexec] at hraised
      have hbaseline : origin.system.baseline ≤ repo'.system.baseline :=
        hsince.baseline_le.trans hraised
      obtain ⟨checked, hchecked, hsame⟩ := Repository.SameLedger.of_capitalOp hexec
      rcases hchecked with rfl | ⟨rfl, hfirst, mismatches, hrun⟩
      · exact hsince.sameLedger hsame hbaseline
      · -- a first launch: its reconciliation first, then the capital keys
        obtain ⟨ops, hadmitted, hledger⟩ := hlaunch hfirst checked mismatches hrun
        exact (hsince.ledgerRun ops hadmitted).sameLedger (hledger.trans hsame) hbaseline

/-- A settled start fixes the instant. -/
theorem SharedOp.start_since {closes : Closes} {cash : Decimal} {repo : Repository ι}
    (hcash : repo.rawManagedCash config = .ok cash)
    (hsettled : (SharedOp.start closes).Settled config (⟨repo, .idle⟩ : Shared ι)) :
    Shared.Since config repo ⟨repo, .cashRead closes cash⟩ := by
  obtain ⟨hcloses, hnoSell⟩ := hsettled
  obtain ⟨initial, hinitial, hcash⟩ := Repository.rawManagedCash_ok hcash
  refine ⟨rfl, le_rfl, hcloses, ?_, fun symbol => ?_⟩
  · rw [SystemState.baseline_of_ok hinitial]
    exact hcash
  · have hnone : repo.unbookedFill .sell symbol = 0 := hnoSell symbol
    simp [Repository.trueQuantity, Repository.bookableQuantity, hnone]

end Steps

/-! ## Runs -/

variable [DecidableEq ι]

/-- Along a settled run, a running observation is bounded by the instant of its
cash read. -/
theorem observation_since {config : StrategyConfig} (hfee : config.sellFee ≤ 1) {start : Shared ι}
    (hidle : start.observation = .idle) (ops : List (SharedOp ι)) :
    Run.Along (SharedOp.step config) (SharedOp.Settled config) start ops →
      (ops.foldl (SharedOp.step config) start).observation = .idle ∨
        ∃ front, front <+: ops ∧ (ops.foldl (SharedOp.step config) start).Since config
          (front.foldl (SharedOp.step config) start).repo := by
  induction ops using List.reverseRecOn with
  | nil => exact fun _ => Or.inl hidle
  | append_singleton ops op ih =>
      intro hsettled
      obtain ⟨hbefore, hop, -⟩ := (Run.along_append _ _ _ _).mp hsettled
      simp only [List.foldl_append, List.foldl_cons, List.foldl_nil]
      set shared := ops.foldl (SharedOp.step config) start with hshared
      have hearlier : ∀ {shared' : Shared ι},
          (∃ front, front <+: ops ∧ shared'.Since config
            (front.foldl (SharedOp.step config) start).repo) →
          ∃ front, front <+: ops ++ [op] ∧ shared'.Since config
            (front.foldl (SharedOp.step config) start).repo := by
        rintro shared' ⟨front, hprefix, hsince⟩
        exact ⟨front, hprefix.trans (List.prefix_append _ _), hsince⟩
      cases op with
      | start closes =>
          simp only [SharedOp.step]
          split
          · rename_i cash hidle' hcash
            -- The new observation starts at this very instant.
            refine Or.inr ⟨ops, List.prefix_append _ _, ?_⟩
            rw [← hshared]
            have hop' : (SharedOp.start closes).Settled config (⟨shared.repo, .idle⟩ : Shared ι) :=
              hop
            exact SharedOp.start_since hcash hop'
          · exact (ih hbefore).imp_right hearlier
      | proceed =>
          -- A step of the observation: a record ends it, anything else leaves it underway.
          rcases ih hbefore with hnone | ⟨front, hprefix, hsince⟩
          · left
            simp only [SharedOp.step, Shared.proceed, hnone]
          · exact (hsince.proceed hfee).imp_right fun h => hearlier ⟨front, hprefix, h⟩
      | ledger op =>
          rcases ih hbefore with hnone | ⟨front, hprefix, hsince⟩
          · exact Or.inl hnone
          · exact Or.inr (hearlier ⟨front, hprefix, hsince.ledger hop⟩)
      | capital env op =>
          rcases ih hbefore with hnone | ⟨front, hprefix, hsince⟩
          · left
            simp only [SharedOp.step]
            split <;> exact hnone
          · exact Or.inr (hearlier ⟨front, hprefix, hsince.capital hop⟩)

/-- Every record of the run shows at most the gain before it and the true gain of
some instant of the run. -/
def RecordsTrueGains (config : StrategyConfig) (start : Shared ι) (ops : List (SharedOp ι)) : Prop :=
  ∀ before after closes equity, ops = before ++ SharedOp.proceed :: after →
    (before.foldl (SharedOp.step config) start).observation = .marked closes equity →
      ∃ front, front <+: before ∧
        ((before ++ [SharedOp.proceed]).foldl (SharedOp.step config) start).repo.highWaterGain
          ≤ max (before.foldl (SharedOp.step config) start).repo.highWaterGain
            ((front.foldl (SharedOp.step config) start).repo.trueGain config closes)

/-- Settled runs record true gains. -/
theorem observation_records_true_gains (config : StrategyConfig) (hfee : config.sellFee ≤ 1)
    (start : Shared ι) (hidle : start.observation = .idle) (ops : List (SharedOp ι))
    (hsettled : Run.Along (SharedOp.step config) (SharedOp.Settled config) start ops) :
    RecordsTrueGains config start ops := by
  rintro before after closes equity rfl hmarked
  rcases observation_since hfee hidle before hsettled.of_append with
    hnone | ⟨front, hprefix, hpositions, hbaseline, hbounded⟩
  · rw [hmarked] at hnone
    cases hnone
  · refine ⟨front, hprefix, ?_⟩
    rw [hmarked] at hbounded
    rw [List.foldl_append, List.foldl_cons, List.foldl_nil]
    simp only [SharedOp.step, Shared.proceed, hmarked]
    split
    · rename_i repo' hrecord
      refine (Repository.highWaterGain_of_record hrecord).trans (max_le (le_max_left _ _) ?_)
      have hnonneg := SystemState.baseline_nonneg
        (before.foldl (SharedOp.step config) start).repo.system
      rcases le_max_iff.mp hbounded with hzero | htrue
      · exact le_max_of_le_left (le_trans (by linarith) (le_max_left _ _))
      · refine le_max_of_le_right ?_
        rw [Repository.trueGain]
        linarith
    · exact le_max_left _ _

/-! ## A reduction between two reads -/

namespace ReducedDuringObservation

/-- 10,000 USD of cash, nothing held, nothing gained. -/
def start : Shared ℕ where
  repo := Repository.launched
    { SystemState.launched 10000 10000 10000 with
      autoVersion := some autoVersion
      baseCapital := some 10000
      ratio := some 1
      targetPrincipal := some 10000
      rampStage := some 0
      performanceUnits := some 10000 } .qqq 0
  observation := .idle

def closes : Closes := fun _ => some 100

def mark : List (SharedOp ℕ) := [.start closes, .proceed, .proceed, .proceed]

/-- The operator halves the ratio after the last read. -/
def reduced : List (SharedOp ℕ) := mark ++ [.capital .quiet (.setRatioPercent 50)]

def ops : List (SharedOp ℕ) := reduced ++ [.proceed]

end ReducedDuringObservation

omit [DecidableEq ι] in
theorem Repository.positionValue_of_flat {config : StrategyConfig} {closes : Closes}
    {repo : Repository ι} {symbol : EnabledSymbol} (hflat : (repo.positions symbol).quantity = 0) :
    repo.positionValue config closes symbol = .ok 0 := by
  rw [Repository.positionValue, if_pos hflat]

/-- The mark of an account without direct positions. -/
theorem mark_of_flat {config : StrategyConfig} {repo : Repository ι} {closes : Closes}
    {cash : Decimal} (hcash : repo.rawManagedCash config = .ok cash)
    (htqqq : (repo.positions .tqqq).quantity = 0) (hsoxl : (repo.positions .soxl).quantity = 0) :
    [SharedOp.start closes, .proceed, .proceed, .proceed].foldl (SharedOp.step config)
        ⟨repo, .idle⟩
      = ⟨repo, .marked closes (max 0 (cash + repo.coreValue config closes))⟩ := by
  simp only [List.foldl_cons, List.foldl_nil, SharedOp.step, hcash, Shared.proceed,
    Repository.positionValue_of_flat htqqq, Repository.positionValue_of_flat hsoxl, add_zero]

theorem SharedOp.capital_observation (config : StrategyConfig) (shared : Shared ι)
    (env : AutoEnvironment ι) (op : CapitalOp) :
    ((SharedOp.capital env op).step config shared).observation = shared.observation := by
  simp only [SharedOp.step]
  split <;> rfl

/-- The 5,000 USD taken out are recorded as a gain of 5,000 USD, and no instant of
the run had one. -/
theorem reduction_recorded_as_gain :
    ¬RecordsTrueGains .strategyYaml ReducedDuringObservation.start
      ReducedDuringObservation.ops := by
  intro htrue
  have hmark : ReducedDuringObservation.mark.foldl (SharedOp.step .strategyYaml)
      ReducedDuringObservation.start = _ :=
    mark_of_flat (show ReducedDuringObservation.start.repo.rawManagedCash .strategyYaml
      = .ok 10000 by decide +kernel) rfl rfl
  obtain ⟨front, hprefix, hgain⟩ := htrue
    (ReducedDuringObservation.reduced) []
    ReducedDuringObservation.closes _ rfl (by
      rw [ReducedDuringObservation.reduced, List.foldl_append, List.foldl_cons, List.foldl_nil, SharedOp.capital_observation, hmark])
  have hnone : ∀ front ∈ (ReducedDuringObservation.reduced).inits,
      (front.foldl (SharedOp.step .strategyYaml) ReducedDuringObservation.start).repo.trueGain
        .strategyYaml ReducedDuringObservation.closes ≤ 0 := by
    decide +kernel
  have hbefore : ((ReducedDuringObservation.reduced).foldl
      (SharedOp.step .strategyYaml) ReducedDuringObservation.start).repo.highWaterGain = 0 := by
    decide +kernel
  have hafter : ((ReducedDuringObservation.reduced ++
      [SharedOp.proceed]).foldl (SharedOp.step .strategyYaml)
        ReducedDuringObservation.start).repo.highWaterGain = 5000 := by
    decide +kernel
  have hfront := hnone front ((List.mem_inits _ _).mpr hprefix)
  rw [hbefore, hafter, max_eq_left hfront] at hgain
  exact absurd hgain (by norm_num)

/-- An increase between two reads is settled. -/
theorem observation_records_true_gains_after_increase :
    RecordsTrueGains .strategyYaml ReducedDuringObservation.start
      [.start ReducedDuringObservation.closes, .proceed, .proceed,
        .capital .quiet (.setBaseCapital 20000), .proceed, .proceed] := by
  refine observation_records_true_gains .strategyYaml (by decide +kernel) _ rfl _
    ⟨⟨?_, ?_⟩, trivial, trivial, ⟨trivial, by decide +kernel⟩, trivial, trivial, trivial⟩
  · rintro symbol close hclose
    obtain rfl := Option.some.inj hclose
    norm_num
  · intro symbol
    rfl

end JdHoldings

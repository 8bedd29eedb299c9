import JdHoldings.Ledger.Operations

/-!
# Positions against orders

A core row is folded from the bookings one at a time; the orders keep the
cumulative quantity of each order.  What connects the two is the quantity booked
for each order.

* `Repository.moved` adds up, over the core orders of a symbol, the shares a
  quantity of each order moves: a BUY in, a SELL out.
* `Repository.untraced` is what a row holds beyond the booked shares of its orders.
  No operation on the ledger changes it (`LedgerOp.Effect.untraced_eq`): a booking
  moves the same number of shares on both sides, everything else moves none.
* Where all stored fills are booked, the row is therefore its untraced shares and
  the filled quantities (`Repository.qty_of_allBooked`).
-/

namespace JdHoldings

variable {ι : Type}

/-- What one share of the order does to the core row of a symbol. -/
def OrderRow.direction (row : OrderRow ι) (symbol : AllocationSymbol) : ℤ :=
  if row.purpose.isCore = true ∧ row.symbol = .allocation symbol then
    match row.side with
    | .buy => 1
    | .sell => -1
  else 0

/-- What `shares` of each core order do to the row of a symbol. -/
def Repository.moved (repo : Repository ι) (symbol : AllocationSymbol) (shares : OrderRow ι → ℤ) :
    ℤ :=
  repo.orders.sum fun row => row.direction symbol * shares row

theorem Repository.moved_sub (repo : Repository ι) (symbol : AllocationSymbol)
    (shares shares' : OrderRow ι → ℤ) :
    (repo.moved symbol fun row => shares row - shares' row)
      = repo.moved symbol shares - repo.moved symbol shares' := by
  rw [eq_sub_iff_add_eq, moved, moved, moved, ← Table.sum_add]
  refine Table.sum_congr fun row _ => ?_
  ring

/-- The shares of a row that no booking accounts for. -/
def Repository.untraced (repo : Repository ι) (symbol : AllocationSymbol) : ℤ :=
  (repo.core symbol).qty -
    repo.moved symbol fun row => repo.appliedFilledQty row.clientOrderId

/-- Bookings belong to orders and do not exceed what is filled. -/
structure Repository.WellBooked [DecidableEq ι] (repo : Repository ι) : Prop where
  unreserved : ∀ clientOrderId, repo.orders.get? clientOrderId = none →
    repo.appliedFilledQty clientOrderId = 0
  applied_le : ∀ row ∈ repo.orders, repo.appliedFilledQty row.clientOrderId ≤ row.filledQty

/-- The stored quantity of every core order is booked. -/
def Repository.AllBooked (repo : Repository ι) : Prop :=
  ∀ row ∈ repo.orders, row.purpose.isCore = true →
    repo.appliedFilledQty row.clientOrderId = row.filledQty

/-- Where all stored quantities are booked, a row holds its untraced shares and what
its orders have filled. -/
theorem Repository.qty_of_allBooked {repo : Repository ι} (hbooked : repo.AllBooked)
    (symbol : AllocationSymbol) :
    ((repo.core symbol).qty : ℤ)
      = repo.untraced symbol + repo.moved symbol fun row => row.filledQty := by
  have hsame : (repo.moved symbol fun row => repo.appliedFilledQty row.clientOrderId)
      = repo.moved symbol fun row => row.filledQty := by
    refine Table.sum_congr fun row hrow => ?_
    by_cases hcore : row.purpose.isCore = true
    · simp only [hbooked row hrow hcore]
    · simp [OrderRow.direction, hcore]
  rw [untraced, hsame, sub_add_cancel]

variable [DecidableEq ι]

/-- Nothing waits to be booked. -/
theorem Repository.WellBooked.allBooked {repo : Repository ι} (hwell : repo.WellBooked)
    (hnone : repo.unappliedCoreFillOrderIds = []) : repo.AllBooked := by
  intro row hrow hcore
  by_contra hdiffers
  have hle := hwell.applied_le row hrow
  have hpending : row.clientOrderId ∈ repo.unappliedCoreFillOrderIds := by
    refine List.mem_map.mpr ⟨row, List.mem_filter.mpr ⟨hrow, ?_⟩, rfl⟩
    have hpositive : 0 < row.filledQty := by omega
    simp [hcore, hpositive, Ne.symm hdiffers]
  rw [hnone] at hpending
  cases hpending

theorem Repository.WellBooked.initial : (Repository.initial ι).WellBooked :=
  ⟨fun _ _ => rfl, fun row hrow => absurd hrow (Table.not_mem_empty row)⟩

/-! ## The quantities move together -/

omit [DecidableEq ι] in
theorem OrderRow.Updated.direction_eq {existing row : OrderRow ι} {status : OrderStatus}
    {update : OrderUpdate} (hupdated : existing.Updated row status update)
    (symbol : AllocationSymbol) : row.direction symbol = existing.direction symbol := by
  simp only [OrderRow.direction, hupdated.purpose, hupdated.symbol, hupdated.side]

/-- An update changes what the orders of a symbol move by what it changes at its own
row. -/
theorem Repository.moved_replace {repo : Repository ι} {existing row : OrderRow ι}
    {status : OrderStatus} {update : OrderUpdate}
    (hget : repo.orders.get? row.clientOrderId = some existing)
    (hupdated : existing.Updated row status update) (symbol : AllocationSymbol)
    (shares : OrderRow ι → ℤ) :
    Repository.moved { repo with orders := repo.orders.replace row } symbol shares
      = repo.moved symbol shares + existing.direction symbol * (shares row - shares existing) := by
  have hexchange := Table.sum_exchange (fun row => row.direction symbol * shares row)
    (fun row => row.direction symbol * shares row) hget (fun _ _ _ => rfl)
  simp only [hupdated.direction_eq] at hexchange
  have hmoved : Repository.moved { repo with orders := repo.orders.replace row } symbol shares
      + existing.direction symbol * shares existing
        = repo.moved symbol shares + existing.direction symbol * shares row := hexchange
  rw [mul_sub]
  linarith

/-- A new order moves what it is said to move, and nothing else changes. -/
theorem Repository.moved_insert {repo : Repository ι} {request : OrderRequest ι} {now : Timestamp}
    (hfresh : repo.orders.get? request.clientOrderId = none) (symbol : AllocationSymbol)
    (shares : OrderRow ι → ℤ) :
    Repository.moved { repo with orders := (repo.orders.insertOrIgnore (request.newRow now)).1 }
        symbol shares
      = repo.moved symbol shares
        + (request.newRow now).direction symbol * shares (request.newRow now) :=
  Table.sum_insertOrIgnore _ (show repo.orders.get? (request.newRow now).clientOrderId = none from
    hfresh)

/-- A reservation changes no quantity. -/
private theorem untraced_insert {repo : Repository ι} {request : OrderRequest ι} {now : Timestamp}
    (hwell : repo.WellBooked) (hfresh : repo.orders.get? request.clientOrderId = none)
    (symbol : AllocationSymbol) :
    Repository.untraced { repo with orders := (repo.orders.insertOrIgnore (request.newRow now)).1 }
        symbol
      = repo.untraced symbol := by
  have hzero : repo.appliedFilledQty (request.newRow now).clientOrderId = 0 :=
    hwell.unreserved _ hfresh
  have hmoved : Repository.moved
      { repo with orders := (repo.orders.insertOrIgnore (request.newRow now)).1 } symbol
        (fun row => repo.appliedFilledQty row.clientOrderId) = _ :=
    Repository.moved_insert hfresh symbol _
  simp only [hzero, Nat.cast_zero, mul_zero, add_zero] at hmoved
  exact congrArg (((repo.core symbol).qty : ℤ) - ·) hmoved

private theorem Repository.WellBooked.insert {repo : Repository ι} {request : OrderRequest ι}
    {now : Timestamp} (hwell : repo.WellBooked)
    (hfresh : repo.orders.get? request.clientOrderId = none) :
    Repository.WellBooked
      { repo with orders := (repo.orders.insertOrIgnore (request.newRow now)).1 } := by
  constructor
  · intro clientOrderId hnone
    refine hwell.unreserved clientOrderId ?_
    by_contra hfound
    obtain ⟨row, hrow⟩ := Option.ne_none_iff_exists'.mp hfound
    have hkept : ((repo.orders.insertOrIgnore (request.newRow now)).1.get? clientOrderId).isSome
        = true := Table.isSome_get?_insertOrIgnore (Option.isSome_iff_exists.mpr ⟨row, hrow⟩)
    rw [hnone] at hkept
    cases hkept
  · intro row hrow
    have hnew : repo.orders.get? (request.newRow now).clientOrderId = none := hfresh
    rcases (Table.mem_insertOrIgnore hnew).mp hrow with hold | rfl
    · exact hwell.applied_le row hold
    · exact (hwell.unreserved _ hfresh).le

omit [DecidableEq ι] in
/-- A booking moves the same number of shares in the row and in the progress. -/
private theorem qty_of_booked {repo : Repository ι} {order : OrderRow ι}
    {booked : AllocationSymbol} {row : CoreRow} (hcore : order.purpose.isCore = true)
    (hsymbol : order.symbol = .allocation booked)
    (happlied : repo.appliedFilledQty order.clientOrderId ≤ order.filledQty)
    (hbooked : repo.CoreFillBooked booked order row) :
    (row.qty : ℤ) = (repo.core booked).qty + order.direction booked
      * (order.filledQty - repo.appliedFilledQty order.clientOrderId) := by
  cases hbooked with
  | buy hside hfill =>
      obtain ⟨hqty, -⟩ := CoreRow.buyFill_ok hfill
      have hdirection : order.direction booked = 1 := by
        simp [OrderRow.direction, hcore, hsymbol, hside]
      rw [hdirection, one_mul]
      omega
  | sell hside hfill =>
      obtain ⟨hqty, -⟩ := CoreRow.sellFill_ok hfill
      have hdirection : order.direction booked = -1 := by
        simp [OrderRow.direction, hcore, hsymbol, hside]
      rw [hdirection, neg_one_mul]
      omega

/-- Exchanging a row for an updated one books nothing. -/
theorem Repository.untraced_replace {repo : Repository ι} {existing row : OrderRow ι}
    {status : OrderStatus} {update : OrderUpdate}
    (hget : repo.orders.get? row.clientOrderId = some existing)
    (hupdated : existing.Updated row status update) (symbol : AllocationSymbol) :
    Repository.untraced { repo with orders := repo.orders.replace row } symbol
      = repo.untraced symbol := by
  have hmoved := Repository.moved_replace hget hupdated symbol
    (fun row => repo.appliedFilledQty row.clientOrderId)
  simp only [hupdated.clientOrderId, sub_self, mul_zero, add_zero] at hmoved
  exact congrArg (((repo.core symbol).qty : ℤ) - ·) hmoved

/-- A booking moves the shares it adds to the progress of the order. -/
theorem Repository.untraced_bookCoreFill {repo : Repository ι} {order : OrderRow ι}
    {booked : AllocationSymbol} {row : CoreRow}
    (hget : repo.orders.get? order.clientOrderId = some order)
    (hcore : order.purpose.isCore = true) (hsymbol : order.symbol = .allocation booked)
    (happlied : repo.appliedFilledQty order.clientOrderId ≤ order.filledQty)
    (hbooked : repo.CoreFillBooked booked order row) (symbol : AllocationSymbol) :
    (repo.bookCoreFill booked order row).untraced symbol = repo.untraced symbol := by
  have hqty := qty_of_booked hcore hsymbol happlied hbooked
  have hreweigh := Table.sum_reweigh
    (fun row => row.direction symbol * (repo.appliedFilledQty row.clientOrderId : ℤ))
    (fun other => other.direction symbol
      * ((repo.bookCoreFill booked order row).appliedFilledQty other.clientOrderId : ℤ)) hget
    (fun other _ hne => by rw [Repository.appliedFilledQty_bookCoreFill_of_ne _ _ _ _ hne])
  simp only [Repository.appliedFilledQty_bookCoreFill_self] at hreweigh
  simp only [Repository.untraced, Repository.moved, Repository.bookCoreFill_orders]
  by_cases hsame : symbol = booked
  · subst hsame
    rw [Repository.bookCoreFill_core_self, hqty, mul_sub]
    linarith
  · have hzero : order.direction symbol = 0 := by
      simp [OrderRow.direction, hsymbol, Ne.symm hsame]
    rw [Repository.bookCoreFill_core_of_ne _ _ _ _ hsame]
    simp only [hzero, zero_mul, add_zero] at hreweigh
    rw [hreweigh]

/-- `apply_core_fill` books one core order and changes nothing else. -/
theorem Repository.applyCoreFill_frame {repo repo' : Repository ι} {clientOrderId : ι}
    {order : OrderRow ι} (hok : repo.applyCoreFill clientOrderId = .ok repo')
    (hget : repo.orders.get? clientOrderId = some order) (hcore : order.purpose.isCore = true) :
    repo'.orders = repo.orders ∧ repo'.positions = repo.positions ∧ repo'.system = repo.system ∧
      (∀ symbol, repo'.untraced symbol = repo.untraced symbol) ∧
      ∀ other, other ≠ clientOrderId →
        repo'.appliedFilledQty other = repo.appliedFilledQty other := by
  obtain ⟨found, symbol, hfound, hsymbol, happlied, rfl | ⟨row, hbooked, rfl⟩⟩ :=
    Repository.applyCoreFill_ok hok
  · exact ⟨rfl, rfl, rfl, fun _ => rfl, fun _ _ => rfl⟩
  · obtain rfl : found = order := Option.some.inj (hfound.symm.trans hget)
    have hkey := Table.key_of_get? hget
    rw [← hkey] at happlied hget
    refine ⟨rfl, rfl, rfl, Repository.untraced_bookCoreFill hget hcore hsymbol happlied hbooked, ?_⟩
    intro other hne
    exact Repository.appliedFilledQty_bookCoreFill_of_ne _ _ _ _ (hkey ▸ hne)

namespace LedgerOp

/-- No operation changes the shares no booking accounts for. -/
theorem Effect.untraced_eq {config : StrategyConfig} {repo repo' : Repository ι} {op : LedgerOp ι}
    (heffect : Effect config repo op repo') (hwell : repo.WellBooked) (symbol : AllocationSymbol) :
    repo'.untraced symbol = repo.untraced symbol := by
  cases heffect with
  | unchanged => rfl
  | reservedBuy _ hfresh => exact untraced_insert hwell hfresh symbol
  | reservedSell hfresh => exact untraced_insert hwell hfresh symbol
  | @updated clientOrderId update existing row _ hget hupdated =>
      have hkey := (Table.key_of_get? hget).symm.trans hupdated.clientOrderId.symm
      exact Repository.untraced_replace (hkey ▸ hget) hupdated symbol
  | @booked clientOrderId order booked row hget hcore hsymbol happlied hbooked =>
      have hkey := Table.key_of_get? hget
      rw [← hkey] at happlied hget
      exact Repository.untraced_bookCoreFill hget hcore hsymbol happlied hbooked symbol

/-- Bookings stay with their orders. -/
theorem Effect.wellBooked {config : StrategyConfig} {repo repo' : Repository ι} {op : LedgerOp ι}
    (heffect : Effect config repo op repo') (hwell : repo.WellBooked) : repo'.WellBooked := by
  cases heffect with
  | unchanged => exact hwell
  | reservedBuy _ hfresh => exact hwell.insert hfresh
  | reservedSell hfresh => exact hwell.insert hfresh
  | @updated clientOrderId update existing row _ hget hupdated =>
      have hkey := (Table.key_of_get? hget).symm.trans hupdated.clientOrderId.symm
      rw [hkey] at hget
      constructor
      · intro other hnone
        refine hwell.unreserved other ?_
        have hsame : ((repo.orders.replace row).get? other).isSome
            = (repo.orders.get? other).isSome := Table.isSome_get?_replace other hget
        rw [hnone] at hsame
        simpa using hsame.symm
      · intro other hother
        rcases Table.mem_replace hother with rfl | ⟨hold, -⟩
        · have hle := hwell.applied_le existing (Table.mem_of_get? hget)
          rw [← hupdated.clientOrderId] at hle
          exact hle.trans hupdated.filled_mono
        · exact hwell.applied_le other hold
  | @booked clientOrderId order booked row hget hcore hsymbol happlied hbooked =>
      have hkey := Table.key_of_get? hget
      rw [← hkey] at hget
      constructor
      · intro other hnone
        by_cases hsame : other = order.clientOrderId
        · subst hsame
          exact absurd (hget.symm.trans hnone) (by simp)
        · rw [Repository.appliedFilledQty_bookCoreFill_of_ne _ _ _ _ hsame]
          exact hwell.unreserved other hnone
      · intro other hother
        by_cases hsame : other.clientOrderId = order.clientOrderId
        · obtain rfl : other = order :=
            Table.eq_of_key_eq hother (Table.mem_of_get? hget) hsame
          exact (Repository.appliedFilledQty_bookCoreFill_self _ _ _ _).le
        · rw [Repository.appliedFilledQty_bookCoreFill_of_ne _ _ _ _ hsame]
          exact hwell.applied_le other hother

end LedgerOp

end JdHoldings

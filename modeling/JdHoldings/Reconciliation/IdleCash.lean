import JdHoldings.Application.IdleCash
import JdHoldings.Reconciliation.Report

/-!
# The SGOV position and the broker

With idle cash enabled, `run` ends by comparing the SGOV position with the holdings.  It
looks SGOV up in the map its loop over the holdings has made, and that loop skips every
symbol outside the allocation (`brokerHoldings_of_not_allocation`).  So the comparison
always finds no share, and reports every position that is not empty: a shortfall is
never missed, and a position that the broker holds in full is reported as well
(`sgov_compared_iff`).
-/

namespace JdHoldings

/-- The texts `run` reports for SGOV. -/
inductive SgovIssue where
  | managedQtyExceedsBroker (managed : ℕ) (brokerQty : ℤ)
  | unknownOrderStatus
  | unknownOrderWithoutBrokerId
  | missingBrokerId (issue : ReconciliationIssue)
  | brokerDbOpenOrderMismatch
  | openOrderLookupFailed
deriving DecidableEq, Repr

variable {ι : Type} [DecidableEq ι]

namespace ReconciliationService

/-- `broker_holdings`: the rows of the allocation symbols, the last of several. -/
def brokerHoldings (rawHoldings : List HoldingRow) : Symbol → Option HoldingRow :=
  rawHoldings.foldl (fun held item =>
    if item.symbol.allocation? = none then held
    else Function.update held item.symbol (some item)) fun _ => none

/-- `int(Decimal(str(holding["quantity"])))`, or 0 without a row. -/
def sgovBrokerQty : Option HoldingRow → Py ℤ
  | none => .ok 0
  | some holding =>
      match holding.quantity with
      | none => .error (.other "InvalidOperation")
      | some (.finite quantity) => .ok (Quantize.roundDown quantity)
      | some (.infinity _) => .error (.other "OverflowError")
      | some (.nan _) => .error (.value "cannot convert NaN to integer")

omit [DecidableEq ι] in
/-- The open SGOV orders of the ledger. -/
def openSgovOrders (repo : Repository ι) (cashSymbol : Symbol) : List (OrderRow ι) :=
  repo.openOrders.filter fun order => decide (order.symbol = cashSymbol) && order.purpose.isSgov

omit [DecidableEq ι] in
/-- The SGOV issues of `run`. -/
def sgovIssues (managed : ℕ) (brokerQty : ℤ) (localOrders : List (OrderRow ι))
    (listed : Py (List BrokerOrderId)) : List SgovIssue :=
  let unknown := localOrders.filter fun order => decide (order.status = .unknown)
  (if brokerQty < managed then [.managedQtyExceedsBroker managed brokerQty] else []) ++
    (if unknown.isEmpty then []
      else .unknownOrderStatus ::
        (if unknown.any fun order => order.brokerOrderId.isNone then [.unknownOrderWithoutBrokerId]
          else [])) ++
    (missingBrokerIdIssue localOrders).map .missingBrokerId ++
    match listed with
    | .error _ => [.openOrderLookupFailed]
    | .ok brokerIds =>
        if (localOrders.filterMap OrderRow.brokerOrderId).toFinset = brokerIds.toFinset then []
        else [.brokerDbOpenOrderMismatch]

/-- The end of `run` with idle cash enabled: the value of `idle_cash_safe_mode`, and the issues. -/
def checkIdleCash (cashSymbol : Symbol) (rawHoldings : List HoldingRow)
    (listed : Py (List BrokerOrderId)) (repo : Repository ι) (idleCashSafeMode : Option Bool) :
    Option Bool × Py (List SgovIssue) :=
  match sgovBrokerQty (brokerHoldings rawHoldings cashSymbol) with
  | .error error => (idleCashSafeMode, .error error)
  | .ok brokerQty =>
      let issues := sgovIssues repo.idleCash.managedQuantity brokerQty
        (openSgovOrders repo cashSymbol) listed
      (some !issues.isEmpty, .ok issues)

omit [DecidableEq ι] in
/-- The rows `get_holdings` answers with. -/
def holdingsOf (reads : BrokerReads ι) : List HoldingRow := reads.getHoldings.toOption.getD []

/-- `run` with idle cash enabled, whose holdings are those `run` has read. -/
def runIdleCash (cashSymbol : Symbol) (reads : BrokerReads ι) (listed : Py (List BrokerOrderId))
    (tpPlan : EnabledSymbol → Bool) (repo : Repository ι) (idleCashSafeMode : Option Bool) :
    (Repository ι × Option Bool) × Py (Report × List SgovIssue) :=
  match run reads tpPlan repo with
  | (repo', .error error) => ((repo', idleCashSafeMode), .error error)
  | (repo', .ok report) =>
      let (idleCashSafeMode', issues) := checkIdleCash cashSymbol (holdingsOf reads) listed repo'
        idleCashSafeMode
      ((repo', idleCashSafeMode'), issues.map fun issues => (report, issues))

/-- No row outside the allocation is kept. -/
theorem brokerHoldings_of_not_allocation {symbol : Symbol} (hsymbol : symbol.allocation? = none)
    (rawHoldings : List HoldingRow) : brokerHoldings rawHoldings symbol = none := by
  induction rawHoldings using List.reverseRecOn with
  | nil => rfl
  | append_singleton items item ih =>
      rw [brokerHoldings, List.foldl_append, List.foldl_cons, List.foldl_nil]
      split
      · exact ih
      next hallocation =>
        have hne : symbol ≠ item.symbol := by
          rintro rfl
          exact hallocation hsymbol
        rw [Function.update_of_ne hne]
        exact ih

end ReconciliationService

/-! ## The SGOV orders during the run -/

/-- The SGOV position and the SGOV orders are the same. -/
structure Repository.SameSgov (repo repo' : Repository ι) : Prop where
  idleCash : repo'.idleCash = repo.idleCash
  rows : ∀ row : OrderRow ι, row.purpose.isSgov = true →
    (row ∈ repo'.orders ↔ row ∈ repo.orders)

namespace Repository.SameSgov

variable {repo mid repo' : Repository ι}

omit [DecidableEq ι] in
theorem of_orders (hidle : repo'.idleCash = repo.idleCash) (horders : repo'.orders = repo.orders) :
    repo.SameSgov repo' :=
  ⟨hidle, fun row _ => by rw [horders]⟩

omit [DecidableEq ι] in
theorem trans (hfront : repo.SameSgov mid) (hback : mid.SameSgov repo') : repo.SameSgov repo' :=
  ⟨hback.idleCash.trans hfront.idleCash, fun row hsgov =>
    (hback.rows row hsgov).trans (hfront.rows row hsgov)⟩

/-- An update of a core order. -/
theorem replace {existing row : OrderRow ι} {status : OrderStatus} {update : OrderUpdate}
    (hget : repo.orders.get? existing.clientOrderId = some existing)
    (hcore : existing.purpose.isCore = true) (hupdated : existing.Updated row status update) :
    repo.SameSgov { repo with orders := repo.orders.replace row } := by
  have hkey := hupdated.clientOrderId
  have hnotSgov : ∀ purpose : Purpose, purpose.isCore = true → purpose.isSgov ≠ true := by
    intro purpose
    cases purpose <;> simp [Purpose.isCore, Purpose.isSgov]
  refine ⟨rfl, fun other hsgov => ⟨fun hmem => ?_, fun hmem => ?_⟩⟩
  · rcases Table.mem_replace hmem with rfl | ⟨hold, -⟩
    · rw [hupdated.purpose] at hsgov
      exact absurd hsgov (hnotSgov _ hcore)
    · exact hold
  · have hne : other.clientOrderId ≠ row.clientOrderId := by
      intro hsame
      have hother : other = existing :=
        Table.eq_of_key_eq hmem (Table.mem_of_get? hget) (hsame.trans hkey)
      exact hnotSgov _ hcore (hother ▸ hsgov)
    have hother := Table.get?_eq_some_iff.mpr ⟨hmem, rfl⟩
    rw [← Table.get?_replace_of_ne hne] at hother
    exact Table.mem_of_get? hother

omit [DecidableEq ι] in
theorem openSgovOrders_eq_nil_iff (hsame : repo.SameSgov repo') (cashSymbol : Symbol) :
    ReconciliationService.openSgovOrders repo' cashSymbol = [] ↔
      ReconciliationService.openSgovOrders repo cashSymbol = [] := by
  have hmem : ∀ row, row ∈ ReconciliationService.openSgovOrders repo' cashSymbol ↔
      row ∈ ReconciliationService.openSgovOrders repo cashSymbol := by
    intro row
    simp only [ReconciliationService.openSgovOrders, Repository.openOrders, List.mem_filter,
      Bool.and_eq_true]
    constructor
    · rintro ⟨⟨hrow, hopen⟩, hsymbol, hsgov⟩
      exact ⟨⟨(hsame.rows row hsgov).mp hrow, hopen⟩, hsymbol, hsgov⟩
    · rintro ⟨⟨hrow, hopen⟩, hsymbol, hsgov⟩
      exact ⟨⟨(hsame.rows row hsgov).mpr hrow, hopen⟩, hsymbol, hsgov⟩
  rw [List.eq_nil_iff_forall_not_mem, List.eq_nil_iff_forall_not_mem]
  exact forall_congr' fun row => not_congr (hmem row)

end Repository.SameSgov

namespace ReconciliationService

variable {repo repo' : Repository ι} {reads : BrokerReads ι} {tpPlan : EnabledSymbol → Bool}
  {holdings : List HoldingRow} {recent : RecentFills}

/-- Refreshing a core order leaves the SGOV orders, and every other order, as they were. -/
theorem refreshCoreOrder_sameSgov {row : OrderRow ι} {brokerOrderId : BrokerOrderId}
    {receipt : OrderReceipt ι} (hcore : row.purpose.isCore = true)
    (hget : repo.orders.get? row.clientOrderId = some row)
    (hok : refreshCoreOrder reads repo row brokerOrderId = (repo', .ok receipt)) :
    repo.SameSgov repo' ∧ ∀ other, other ≠ row.clientOrderId →
      repo'.orders.get? other = repo.orders.get? other := by
  unfold refreshCoreOrder at hok
  split at hok
  · cases hok
  next answered hfetch =>
    split at hok
    · cases hok
    next stored hstored =>
      obtain ⟨existing, row', status, hexisting, hupdated, rfl⟩ := Repository.updateOrder_ok hstored
      obtain rfl : row = existing := Option.some.inj (hget.symm.trans hexisting)
      have hreplaced := Repository.SameSgov.replace hget hcore hupdated
      have hself : (repo.orders.replace row').get? row.clientOrderId = some row' :=
        hupdated.clientOrderId ▸ Table.get?_replace_self (hupdated.clientOrderId ▸ hget)
      have hothers : ∀ other, other ≠ row.clientOrderId →
          (repo.orders.replace row').get? other = repo.orders.get? other := by
        intro other hne
        exact Table.get?_replace_of_ne (hupdated.clientOrderId ▸ hne)
      split at hok
      next hpositive =>
        split at hok
        · cases hok
        next booked hbooked =>
          cases hok
          have horders := (Repository.applyCoreFill_frame hbooked hself
            (hupdated.purpose ▸ hcore)).1
          have hidle : repo'.idleCash = repo.idleCash := by
            obtain ⟨-, -, -, -, -, rfl | ⟨-, -, rfl⟩⟩ := Repository.applyCoreFill_ok hbooked
            · rfl
            · rfl
          refine ⟨hreplaced.trans (.of_orders hidle horders), ?_⟩
          rw [horders]
          exact hothers
      next hnone =>
        cases hok
        exact ⟨hreplaced, hothers⟩

theorem refreshOpenCoreOrders_sameSgov {rows : List (OrderRow ι)} {recent' : RecentFills}
    (hok : refreshOpenCoreOrders reads rows repo recent = (repo', .ok recent'))
    (hnodup : (rows.map OrderRow.clientOrderId).Nodup)
    (hcurrent : ∀ row ∈ rows, repo.orders.get? row.clientOrderId = some row) :
    repo.SameSgov repo' := by
  induction rows generalizing repo recent with
  | nil =>
      cases hok
      exact .of_orders rfl rfl
  | cons row rest ih =>
      obtain ⟨hfresh, hnodup⟩ := List.nodup_cons.mp hnodup
      have hrest : ∀ other ∈ rest, repo.orders.get? other.clientOrderId = some other :=
        fun other hother => hcurrent other (List.mem_cons_of_mem _ hother)
      simp only [refreshOpenCoreOrders] at hok
      split at hok
      · exact ih hok hnodup hrest
      next brokerOrderId hid =>
        split at hok
        · cases hok
        next mid receipt hrefresh =>
          split at hok
          · cases hok
          · obtain ⟨hcore, -⟩ := isCore_of_coreBrokerOrderId? hid
            obtain ⟨hfirst, hothers⟩ :=
              refreshCoreOrder_sameSgov hcore (hcurrent row List.mem_cons_self) hrefresh
            refine hfirst.trans (ih hok hnodup fun other hother => ?_)
            have hne : other.clientOrderId ≠ row.clientOrderId := fun hsame =>
              hfresh (List.mem_map.mpr ⟨other, hother, hsame⟩)
            rw [hothers _ hne]
            exact hrest other hother

omit [DecidableEq ι] in
theorem compareSymbols_sameSgov {symbols : List AllocationSymbol} {report : Report}
    (hrun : compareSymbols reads tpPlan holdings recent symbols repo = (repo', .ok report)) :
    repo'.idleCash = repo.idleCash ∧ repo'.orders = repo.orders := by
  induction symbols generalizing repo repo' report with
  | nil =>
      cases hrun
      exact ⟨rfl, rfl⟩
  | cons symbol rest ih =>
      obtain ⟨issues, -, ⟨-, hrest⟩ | ⟨-, entered, later, hentered, hrest, -⟩⟩ :=
        compareSymbols_cons hrun
      · exact ih hrest
      · obtain ⟨hidle, horders⟩ := ih hrest
        rcases hentered with rfl | ⟨enabled, rfl⟩
        · exact ⟨hidle, horders⟩
        · exact ⟨hidle, horders⟩

theorem run_sameSgov {report : Report} (hrun : run reads tpPlan repo = (repo', .ok report)) :
    repo.SameSgov repo' := by
  unfold run at hrun
  split at hrun
  · cases hrun
  next mid recent hrefresh =>
    have hmid := refreshOpenCoreOrders_sameSgov hrefresh repo.openOrders_nodup fun row hrow =>
      Table.get?_eq_some_iff.mpr ⟨(List.mem_filter.mp hrow).1, rfl⟩
    split at hrun
    · cases hrun
    next holdings hholdings =>
      split at hrun
      · cases hrun
      next compared found hcompare =>
        obtain ⟨hlast, -⟩ := Prod.mk.inj hrun
        obtain ⟨hidle, horders⟩ := compareSymbols_sameSgov hcompare
        refine hmid.trans ?_
        rw [← hlast]
        split
        · exact .of_orders hidle horders
        · exact .of_orders hidle horders

/-! ## The comparison -/

/-- The shares of SGOV that the holdings show. -/
def sgovShares (cashSymbol : Symbol) (rawHoldings : List HoldingRow) : Decimal :=
  ((rawHoldings.filter fun row => decide (row.symbol = cashSymbol)).map fun row =>
    match row.quantity with
    | some (.finite quantity) => quantity
    | _ => 0).sum

omit [DecidableEq ι] in
/-- Without open orders, only the quantity can be an issue. -/
theorem sgovIssues_of_no_orders (managed : ℕ) (brokerQty : ℤ) :
    sgovIssues managed brokerQty ([] : List (OrderRow ι)) (.ok []) =
      if brokerQty < managed then [.managedQtyExceedsBroker managed brokerQty] else [] := by
  simp [sgovIssues, missingBrokerIdIssue]

/-- The parts of a run with idle cash that returns: the SGOV row is not in the map. -/
theorem runIdleCash_ok {cashSymbol : Symbol} (hcash : cashSymbol.allocation? = none)
    {listed : Py (List BrokerOrderId)} {flag flag' : Option Bool} {report : Report}
    {issues : List SgovIssue}
    (hrun : runIdleCash cashSymbol reads listed tpPlan repo flag =
      ((repo', flag'), .ok (report, issues))) :
    repo.SameSgov repo' ∧
      issues = sgovIssues repo.idleCash.managedQuantity 0 (openSgovOrders repo' cashSymbol) listed ∧
      flag' = some !issues.isEmpty := by
  unfold runIdleCash at hrun
  split at hrun
  · cases hrun
  next mid found hrun' =>
    have hsame := run_sameSgov hrun'
    simp only [checkIdleCash, brokerHoldings_of_not_allocation hcash, sgovBrokerQty, Except.map,
      Prod.mk.injEq, Except.ok.injEq] at hrun
    obtain ⟨⟨rfl, rfl⟩, -, rfl⟩ := hrun
    rw [hsame.idleCash]
    exact ⟨hsame, rfl, rfl⟩

end ReconciliationService

open ReconciliationService

/-- What a run with idle cash should say about SGOV: nothing when the broker holds the position
and no SGOV order is open, and a shortfall when it does not hold it. -/
structure SgovCompared (repo : Repository ι) (cashSymbol : Symbol) (reads : BrokerReads ι)
    (listed : Py (List BrokerOrderId)) (issues : List SgovIssue) (flag : Option Bool) : Prop where
  covered : repo.idleCash.managedQuantity ≤ sgovShares cashSymbol (holdingsOf reads) →
    openSgovOrders repo cashSymbol = [] → listed = .ok [] → issues = [] ∧ flag = some false
  short : 0 ≤ sgovShares cashSymbol (holdingsOf reads) →
    sgovShares cashSymbol (holdingsOf reads) < repo.idleCash.managedQuantity →
      ∃ brokerQty, .managedQtyExceedsBroker repo.idleCash.managedQuantity brokerQty ∈ issues

/-- A run compares SGOV rightly exactly when there is nothing to compare: no share is managed,
or the broker holds fewer, or an SGOV order is open. -/
theorem sgov_compared_iff {code : ℕ} {reads : BrokerReads ι} {listed : Py (List BrokerOrderId)}
    {tpPlan : EnabledSymbol → Bool} {repo repo' : Repository ι} {flag flag' : Option Bool}
    {report : ReconciliationService.Report} {issues : List SgovIssue}
    (hrun : runIdleCash (.other code) reads listed tpPlan repo flag =
      ((repo', flag'), .ok (report, issues))) :
    SgovCompared repo (.other code) reads listed issues flag' ↔
      repo.idleCash.managedQuantity = 0 ∨
        sgovShares (.other code) (holdingsOf reads) < repo.idleCash.managedQuantity ∨
        openSgovOrders repo (.other code) ≠ [] ∨ listed ≠ .ok [] := by
  obtain ⟨hsame, hissues, hflag⟩ := runIdleCash_ok rfl hrun
  -- The comparison always sees zero shares at the broker, so any managed share is an issue.
  have hshort : 0 < repo.idleCash.managedQuantity →
      .managedQtyExceedsBroker repo.idleCash.managedQuantity 0 ∈ issues := by
    intro hpositive
    rw [hissues]
    unfold sgovIssues
    rw [if_pos (by exact_mod_cast hpositive)]
    simp
  constructor
  · intro hcompared
    by_contra hnot
    simp only [ne_eq, not_or, not_lt, not_not] at hnot
    obtain ⟨hmanaged, hcovered, hlocal, hlisted⟩ := hnot
    obtain ⟨hnone, -⟩ := hcompared.covered hcovered hlocal hlisted
    have hmem := hshort (Nat.pos_of_ne_zero hmanaged)
    rw [hnone] at hmem
    cases hmem
  · intro hcondition
    constructor
    case covered =>
      intro hcovered hlocal hlisted
      have hmanaged : repo.idleCash.managedQuantity = 0 := by
        rcases hcondition with hzero | hless | hopen | hlist
        · exact hzero
        · exact absurd hcovered (not_le.mpr hless)
        · exact absurd hlocal hopen
        · exact absurd hlisted hlist
      rw [(hsame.openSgovOrders_eq_nil_iff _).mpr hlocal, hlisted, sgovIssues_of_no_orders,
        hmanaged] at hissues
      have hnone : issues = [] := hissues
      rw [hnone] at hflag
      exact ⟨hnone, hflag⟩
    case short =>
      intro hnonneg hless
      have hpositive : (0 : Decimal) < repo.idleCash.managedQuantity := lt_of_le_of_lt hnonneg hless
      exact ⟨0, hshort (by exact_mod_cast hpositive)⟩

namespace HeldInFull

/-- Ten shares of SGOV are managed. -/
def repo : Repository ℕ := { Repository.initial ℕ with idleCash := ⟨10, 100⟩ }

/-- The broker holds the ten shares, and nothing else. -/
def reads : BrokerReads ℕ where
  getOrder _ := .error .key
  getHoldings := .ok [⟨.other 1, some (.finite 10)⟩]
  listOpenOrders _ := .ok []

theorem run_eq :
    runIdleCash (.other 1) reads (.ok []) (fun _ => false) repo none =
      ((repo, some true), .ok ([], [.managedQtyExceedsBroker 10 0])) := rfl

end HeldInFull

/-- Ten shares managed, ten shares held: reported as a shortfall, and SAFE_MODE is set. -/
theorem sgov_held_in_full_is_reported :
    ¬∀ (repo repo' : Repository ℕ) (reads : BrokerReads ℕ) (listed : Py (List BrokerOrderId))
      (flag flag' : Option Bool) (report : ReconciliationService.Report) (issues : List SgovIssue),
      runIdleCash (.other 1) reads listed (fun _ => false) repo flag =
        ((repo', flag'), .ok (report, issues)) →
      SgovCompared repo (.other 1) reads listed issues flag' := by
  intro hcompared
  have hresult := hcompared _ _ _ _ _ _ _ _ HeldInFull.run_eq
  have hcovered : (HeldInFull.repo.idleCash.managedQuantity : Decimal) ≤
      sgovShares (.other 1) (holdingsOf HeldInFull.reads) := by
    decide +kernel
  obtain ⟨hnone, -⟩ := hresult.covered hcovered rfl rfl
  cases hnone

theorem sgov_compared_iff_held_in_full :
    SgovCompared HeldInFull.repo (.other 1) HeldInFull.reads (.ok [])
        [.managedQtyExceedsBroker 10 0] (some true) ↔
      HeldInFull.repo.idleCash.managedQuantity = 0 ∨
        sgovShares (.other 1) (holdingsOf HeldInFull.reads) <
          HeldInFull.repo.idleCash.managedQuantity ∨
        openSgovOrders HeldInFull.repo (.other 1) ≠ [] ∨
        (.ok [] : Py (List BrokerOrderId)) ≠ .ok [] :=
  sgov_compared_iff HeldInFull.run_eq

end JdHoldings

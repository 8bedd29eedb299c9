import JdHoldings.Backtest.Parity
import JdHoldings.Core.Replay

/-!
# Whole histories of the live allocator and its backtest

Both start with the initial capital and nothing else, on the target row of the day before
the first session.

`run_allocation` says that it freezes the quantities at the next open to keep its sizing
aligned with the backtest.  The price it freezes them at is the one of the backtest; the
risk budget is not: it was clamped at the equity of the last close, and the backtest
clamps at the equity of the open.  As long as a change of target never meets an account
below its budget cap whose worth has moved overnight (`SameClamps`), and the available
managed cash covers every BUY at its limit (`historyFits`), the two hold the same shares
and the same cash after every session (`live_holdings_follow_backtest`).  One overnight gap
after a loss is enough to part them (`overnight_gap_parts_holdings`).

Both are computed exactly here; the source computes the backtest in binary floats.
-/

namespace JdHoldings

open PortfolioBacktestEngine

variable {ι : Type} [DecidableEq ι]

/-- The live account over a history: the close before it, and its sessions. -/
def Repository.liveHistory (config : StrategyConfig) (desk : OrderDesk ι)
    (priorCloses : AllocationSymbol → Decimal) (prior : Weights) (sessions : List BacktestSession)
    (repo : Repository ι) : Py (Repository ι) := do
  let repo ← repo.closePass config 0 priorCloses prior
  (enumerateFrom 0 sessions).foldlM (Repository.liveSession config desk) repo

/-- The BUYs of a history fit. -/
def Repository.historyFits (config : StrategyConfig) (desk : OrderDesk ι)
    (priorCloses : AllocationSymbol → Decimal) (prior : Weights) (sessions : List BacktestSession)
    (repo : Repository ι) : Bool :=
  match repo.closePass config 0 priorCloses prior with
  | .ok repo => repo.sessionsFit config desk (enumerateFrom 0 sessions)
  | .error _ => true

/-- A live account that may buy and has never traded, with the initial capital as its
principal. -/
structure Repository.Fresh (desk : OrderDesk ι) (repo : Repository ι) : Prop where
  orders : repo.orders = Table.empty
  progress : ∀ clientOrderId, repo.coreFillProgress clientOrderId = none
  core : ∀ symbol, repo.core symbol = {}
  direct : ∀ symbol, (repo.positions symbol).quantity = 0
  principal : repo.system.effectiveInitialCapital = .ok V322Policy.initialCapital
  highWater : repo.system.highWaterEquity.getD V322Policy.initialCapital ≤ V322Policy.initialCapital
  counts : ∀ date, repo.system.counts (desk.clock date)
  mayBuy : repo.MayBuy

/-- Bars with prices, and a row of `replay_targets`. -/
structure BacktestSession.Regular (session : BacktestSession) : Prop where
  opens_pos : ∀ symbol, 0 < session.opens symbol
  target : session.target.IsTarget

/-- At every session of the history the budget is clamped alike at the last close and at
the open, if the session executes another target. -/
def SameClamps (config : StrategyConfig) (policy : InitialOnboardingPolicy) :
    State → Decimal → List (ℕ × BacktestSession) → Prop
  | _, _, [] => True
  | state, closeEquity, session :: sessions =>
      SameClamp config state closeEquity session.2 ∧
        SameClamps config policy (step config.costs policy state session)
          ((step config.costs policy state session).toAccount.equity config.costs session.2.closes)
          sessions

section History

variable {config : StrategyConfig} {desk : OrderDesk ι} {policy : InitialOnboardingPolicy}
  {repo : Repository ι}

/-- The state of the backtest after a session, once onboarding is over. -/
theorem step_eq (hcompleted : OnboardingCompleted policy) (state : State) (index : ℕ)
    {bars : BacktestSession} (htarget : bars.target.IsTarget) :
    step config.costs policy state (index, bars) =
      { afterOpen config state bars with
        highWater := advanceHighWater state.highWater
          ((afterOpen config state bars).toAccount.equity config.costs bars.closes)
        pending := bars.target } := by
  rw [step, hcompleted, weightsFromTarget_of_isTarget htarget]
  rfl

/-- One session. -/
theorem Repository.AtClose.liveSession {state : State} {date : ℕ} {closeEquity : Decimal}
    {bars : BacktestSession} (hdesk : desk.Distinct) (hcompleted : OnboardingCompleted policy)
    (hregular : bars.Regular) (hclose : repo.AtClose config desk state date closeEquity)
    (hclamp : SameClamp config state closeEquity bars)
    (hfits : repo.openFits config desk (desk.clock (date + 1)) bars.opens = true) :
    ∃ opened repo', repo.openPass config desk (desk.clock (date + 1)) bars.opens = .ok opened ∧
      opened.closePass config (date + 1) bars.closes bars.target = .ok repo' ∧
      (state.current ≠ some state.pending → ∀ symbol, ((opened.core symbol).targetQty : ℤ)
        = desired config.costs state.pending bars.opens (sizingEquity state.highWater
          (state.toAccount.equity config.costs bars.opens)) symbol) ∧
      repo'.AtClose config desk (step config.costs policy state (date, bars)) (date + 1)
        ((step config.costs policy state (date, bars)).toAccount.equity config.costs bars.closes) := by
  obtain ⟨opened, hpass, hopen, hfrozen⟩ := hclose.openPass hdesk hregular.opens_pos hclamp hfits
  obtain ⟨repo', hclosed, hafter⟩ := hopen.closePass hregular.target
  refine ⟨opened, repo', hpass, hclosed, hfrozen, ?_⟩
  rw [step_eq hcompleted state date hregular.target]
  exact hafter

/-- A history of sessions. -/
theorem Repository.AtClose.liveSessions {state : State} {date : ℕ} {closeEquity : Decimal}
    (hdesk : desk.Distinct) (hcompleted : OnboardingCompleted policy)
    (sessions : List BacktestSession) (hregular : ∀ bars ∈ sessions, bars.Regular)
    (hclose : repo.AtClose config desk state date closeEquity)
    (later : List (ℕ × BacktestSession))
    (hclamps : SameClamps config policy state closeEquity (enumerateFrom date sessions ++ later))
    (hfits : repo.sessionsFit config desk (enumerateFrom date sessions ++ later) = true) :
    ∃ repo' closeEquity', (enumerateFrom date sessions).foldlM (Repository.liveSession config desk)
        repo = .ok repo' ∧
      repo'.AtClose config desk (run config.costs policy state (enumerateFrom date sessions))
        (date + sessions.length) closeEquity' ∧
      SameClamps config policy (run config.costs policy state (enumerateFrom date sessions))
        closeEquity' later ∧
      repo'.sessionsFit config desk later = true := by
  induction sessions generalizing repo state date closeEquity with
  | nil => exact ⟨repo, closeEquity, rfl, hclose, hclamps, hfits⟩
  | cons bars sessions ih =>
      obtain ⟨hclamp, hrest⟩ := hclamps
      rw [enumerateFrom, List.cons_append, Repository.sessionsFit, Bool.and_eq_true] at hfits
      obtain ⟨hfit, hfits⟩ := hfits
      obtain ⟨opened, middle, hpass, hclosed, -, hafter⟩ := hclose.liveSession hdesk hcompleted
        (hregular bars (List.mem_cons_self ..)) hclamp hfit
      have hsession : repo.liveSession config desk (date, bars) = .ok middle := by
        rw [Repository.liveSession, hpass]
        exact hclosed
      simp only [hsession] at hfits
      obtain ⟨repo', closeEquity', hrun, hend, hleft⟩ := ih
        (fun other hother => hregular other (List.mem_cons_of_mem _ hother)) hafter hrest hfits
      have hlength : date + 1 + sessions.length = date + (bars :: sessions).length := by
        rw [List.length_cons]
        omega
      refine ⟨repo', closeEquity', ?_, ?_, hleft⟩
      · rw [enumerateFrom, List.foldlM_cons, hsession]
        exact hrun
      · rw [← hlength]
        exact hend

/-- The account before the first session. -/
theorem Repository.Fresh.atOpen (hfresh : repo.Fresh desk) :
    repo.AtOpen config desk
      { cash := V322Policy.initialCapital, quantities := fun _ => 0
        highWater := V322Policy.initialCapital, pending := fun _ => 0, current := none } 0 := by
  have hqty : ∀ symbol, (repo.core symbol).qty = 0 := by
    intro symbol
    rw [hfresh.core symbol]
  refine
    { mirrors := ⟨?_, fun _ => le_refl 0⟩
      highWater := max_eq_left hfresh.highWater
      weights := ?_
      counts := hfresh.counts
      mayBuy := hfresh.mayBuy
      unused := ?_
      generation := .unborn ?_ ?_ (fun _ => rfl) fun _ => rfl
      executed := nofun }
  · exact
      { principal := hfresh.principal
        started := by
          intro hauto
          obtain ⟨start, hstart, -⟩ := hfresh.counts 0 hauto
          exact Option.isSome_iff_exists.mpr ⟨start, hstart⟩
        cash_eq := by simp [Repository.netCashFlow, hfresh.orders]
        qty := hqty
        cost_nonneg := by
          intro symbol
          rw [hfresh.core symbol]
        avg_nonneg := by
          intro symbol
          rw [hfresh.core symbol]
        direct := hfresh.direct
        filled := by
          intro row hrow
          rw [hfresh.orders] at hrow
          exact absurd hrow (Table.not_mem_empty row) }
  · intro symbol
    rw [hfresh.core symbol]
  · intro later symbol side _
    exact ⟨by rw [hfresh.orders]; rfl, hfresh.progress _⟩
  · intro symbol
    rw [hfresh.core symbol]
  · intro symbol
    rw [hfresh.core symbol]

/-- The close before the first session. -/
theorem Repository.Fresh.atClose (hfresh : repo.Fresh desk)
    (hcompleted : OnboardingCompleted policy) {prior : Weights} (hprior : prior.IsTarget)
    (priorCloses : AllocationSymbol → Decimal) :
    ∃ repo', repo.closePass config 0 priorCloses prior = .ok repo' ∧
      repo'.AtClose config desk (start policy prior) 0 V322Policy.initialCapital := by
  let bars : BacktestSession := ⟨priorCloses, priorCloses, prior⟩
  have hpass : ∃ repo', repo.closePass config 0 bars.closes bars.target = .ok repo' ∧
      repo'.AtClose config desk _ 0 _ := hfresh.atOpen.closePass hprior
  obtain ⟨repo', hclosed, hclose⟩ := hpass
  refine ⟨repo', hclosed, ?_⟩
  have hequity : Account.equity config.costs bars.closes
      ⟨V322Policy.initialCapital, fun _ => 0⟩ = V322Policy.initialCapital := by
    simp [Account.equity, allocationSymbols]
  have hstart : start policy prior = { cash := V322Policy.initialCapital, quantities := fun _ => 0
                                       highWater := V322Policy.initialCapital, pending := prior
                                       current := none } := by
    rw [start, hcompleted, weightsFromTarget_of_isTarget hprior]
  rw [hstart]
  simp only [hequity, advanceHighWater, max_self] at hclose
  exact hclose

/-- After every session of such a history, the frozen quantities are the desired ones and
both hold the same. -/
theorem live_holdings_follow_backtest (hdesk : desk.Distinct) (hfresh : repo.Fresh desk)
    (hcompleted : OnboardingCompleted policy) (priorCloses : AllocationSymbol → Decimal)
    {prior : Weights} (hprior : prior.IsTarget) (sessions : List BacktestSession)
    (last : BacktestSession) (hregular : ∀ bars ∈ sessions ++ [last], bars.Regular)
    (hclamps : SameClamps config policy (start policy prior) V322Policy.initialCapital
      (enumerateFrom 0 (sessions ++ [last])))
    (hfits : repo.historyFits config desk priorCloses prior (sessions ++ [last]) = true) :
    let before := run config.costs policy (start policy prior) (enumerateFrom 0 sessions)
    let after := run config.costs policy (start policy prior) (enumerateFrom 0 (sessions ++ [last]))
    ∃ repo' opened repo'', repo.liveHistory config desk priorCloses prior sessions = .ok repo' ∧
      repo'.openPass config desk (desk.clock (sessions.length + 1)) last.opens = .ok opened ∧
      opened.closePass config (sessions.length + 1) last.closes last.target = .ok repo'' ∧
      (before.current ≠ some before.pending → ∀ symbol, ((opened.core symbol).targetQty : ℤ)
        = desired config.costs before.pending last.opens (sizingEquity before.highWater
          (before.toAccount.equity config.costs last.opens)) symbol) ∧
      (∀ symbol, ((repo''.core symbol).qty : ℤ) = after.quantities symbol) ∧
      repo''.rawManagedCash config = .ok after.cash := by
  intro before after
  have hstart : ∃ first, repo.closePass config 0 priorCloses prior = .ok first ∧ _ :=
    hfresh.atClose hcompleted hprior priorCloses
  obtain ⟨first, hfirst, hclose⟩ := hstart
  have hsplit : enumerateFrom 0 (sessions ++ [last])
      = enumerateFrom 0 sessions ++ [(sessions.length, last)] := by
    rw [enumerateFrom_append, Nat.zero_add]
    rfl
  simp only [Repository.historyFits, hfirst] at hfits
  rw [hsplit] at hclamps hfits
  -- The history before the last session, by induction over its sessions.
  obtain ⟨repo', closeEquity, hrun, hbefore, ⟨hclamp, -⟩, hlastFits⟩ := hclose.liveSessions hdesk
    hcompleted sessions (fun bars hbars => hregular bars (List.mem_append_left _ hbars)) _ hclamps
    hfits
  rw [Nat.zero_add] at hbefore
  rw [Repository.sessionsFit, Bool.and_eq_true] at hlastFits
  -- The last session, where the frozen quantities are read.
  obtain ⟨opened, repo'', hpass, hclosed, hfrozen, hafter⟩ := hbefore.liveSession hdesk hcompleted
    (hregular last (List.mem_append_right _ (List.mem_singleton.mpr rfl))) hclamp hlastFits.1
  have hlast : after = step config.costs policy before (sessions.length, last) := by
    show run config.costs policy (start policy prior) (enumerateFrom 0 (sessions ++ [last])) = _
    rw [hsplit, run, List.foldl_append]
    rfl
  refine ⟨repo', opened, repo'', ?_, hpass, hclosed, hfrozen, ?_, ?_⟩
  · rw [Repository.liveHistory, hfirst]
    exact hrun
  · intro symbol
    rw [hlast]
    exact hafter.mirrors.qty_eq symbol
  · rw [hlast]
    exact hafter.mirrors.settled.rawManagedCash

end History

namespace OvernightGap

/-- A launched account with the initial capital as its principal. -/
def repo : Repository ℕ :=
  (Repository.initial ℕ).setSystem { (Repository.initial ℕ).system with
    autoEnabled := some true
    launchAuthorized := some true
    startupQuarantine := some false
    operatorHaltLatched := some false
    autoState := some .running
    effectivePrincipal := some V322Policy.initialCapital
    accountingStartedAt := some 0 }

/-- The desk of `strategy.yaml`, whose broker would pay for everything. -/
def desk : OrderDesk ℕ where
  clientOrderId := fun (date : ℕ) symbol side =>
    6 * date + 2 * (match symbol with | .qqq => 0 | .tqqq => 1 | .soxl => 2)
      + (match side with | .buy => 0 | .sell => 1)
  clock _ := 0
  version := "3.2.2"
  configVersion := "3.2.2"
  entryMaxChasePct := 1 / 20
  validUntil _ := QuotedAtOpen.signal.validUntil
  buyingPower _ _ := 50000

def policy : InitialOnboardingPolicy := ⟨false, [], 0⟩

/-- The row of the defensive leverage: one half in QQQ. -/
def defensive : Weights :=
  applyJdssOverlay (baseWeights V322Policy.leverageDefensive false) false false

/-- The same with a position of the strategy in TQQQ. -/
def overlaid : Weights :=
  applyJdssOverlay (baseWeights V322Policy.leverageDefensive false) true false

/-- Every share at one price at the open and another at the close. -/
def session (opens closes : Decimal) : BacktestSession :=
  ⟨fun _ => opens, fun _ => closes, overlaid⟩

theorem fresh : repo.Fresh desk where
  orders := rfl
  progress _ := rfl
  core _ := rfl
  direct _ := rfl
  principal := by decide +kernel
  highWater := le_refl _
  counts _ _ := ⟨0, rfl, le_refl 0⟩
  mayBuy :=
    { gates := by decide +kernel
      safe := by
        intro symbol
        cases symbol <;> rfl }

theorem distinct : desk.Distinct := by
  intro (date : ℕ) symbol side (date' : ℕ) symbol' side' hsame
  cases symbol <;> cases side <;> cases symbol' <;> cases side' <;> simp only [desk] at hsame <;>
    first
    | omega
    | exact ⟨show (date : ℕ) = date' by omega, rfl, rfl⟩

theorem defensive_isTarget : defensive.IsTarget :=
  replayTarget_isTarget (by norm_num [V322Policy.leverageDefensive]) false false false

theorem session_regular {opens closes : Decimal} (hopens : 0 < opens) :
    (session opens closes).Regular :=
  ⟨fun _ => hopens,
    replayTarget_isTarget (by norm_num [V322Policy.leverageDefensive]) false true false⟩

end OvernightGap

section Gap

open OvernightGap

/-- Without a gap, the account follows the backtest into the position of the strategy. -/
theorem live_holdings_follow_backtest_at_par :
    ∃ before opened after,
      OvernightGap.repo.liveHistory .strategyYaml desk (fun _ => 100) defensive [session 100 80]
        = .ok before ∧
      before.openPass .strategyYaml desk 0 (fun _ => 80) = .ok opened ∧
      opened.closePass .strategyYaml 2 (fun _ => 80) overlaid = .ok after ∧
      ∀ symbol, ((after.core symbol).qty : ℤ) = (run StrategyConfig.strategyYaml.costs policy
        (start policy defensive) (enumerateFrom 0 [session 100 80, session 80 80])
          ).quantities symbol := by
  have hregular : ∀ bars ∈ [session 100 80] ++ [session 80 80], bars.Regular := by
    intro bars hbars
    simp only [List.cons_append, List.nil_append, List.mem_cons, List.not_mem_nil, or_false]
      at hbars
    rcases hbars with rfl | rfl
    · exact session_regular (by norm_num)
    · exact session_regular (by norm_num)
  have hclamps : SameClamps .strategyYaml policy (start policy defensive) V322Policy.initialCapital
      (enumerateFrom 0 ([session 100 80] ++ [session 80 80])) :=
    ⟨fun _ => by decide +kernel, fun _ => by decide +kernel, trivial⟩
  obtain ⟨before, opened, after, hhistory, hopen, hclose, -, hqty, -⟩ :=
    live_holdings_follow_backtest distinct fresh (onboardingCompleted_of_disabled rfl)
      (fun _ => 100) defensive_isTarget [session 100 80] (session 80 80) hregular hclamps
      (by decide +kernel)
  exact ⟨before, opened, after, hhistory, hopen, hclose, hqty⟩

/-- The shares close at 80 USD, where the strategy takes a position in TQQQ, and open at 90 USD.
The allocator freezes 224 and 24 shares, and the backtest holds 237 and 26. -/
theorem overnight_gap_parts_holdings :
    (desk.Distinct ∧ OvernightGap.repo.Fresh desk ∧ OnboardingCompleted policy ∧
        defensive.IsTarget ∧ (session 100 80).Regular ∧ (session 90 90).Regular ∧
        OvernightGap.repo.historyFits .strategyYaml desk (fun _ => 100) defensive
          [session 100 80, session 90 90] = true) ∧
      ∃ before opened,
        OvernightGap.repo.liveHistory .strategyYaml desk (fun _ => 100) defensive [session 100 80]
          = .ok before ∧
        before.openPass .strategyYaml desk 0 (fun _ => 90) = .ok opened ∧
        ((opened.core .qqq).targetQty = 224 ∧ (opened.core .tqqq).targetQty = 24) ∧
        ((opened.core .qqq).qty = 224 ∧ (opened.core .tqqq).qty = 24) ∧
        (run StrategyConfig.strategyYaml.costs policy (start policy defensive)
          (enumerateFrom 0 [session 100 80, session 90 90])).quantities .qqq = 237 ∧
        (run StrategyConfig.strategyYaml.costs policy (start policy defensive)
          (enumerateFrom 0 [session 100 80, session 90 90])).quantities .tqqq = 26 := by
  have hrun : (do
      let before ← OvernightGap.repo.liveHistory .strategyYaml desk (fun _ => 100) defensive
        [session 100 80]
      let opened ← before.openPass .strategyYaml desk 0 (fun _ => 90)
      return (((opened.core .qqq).targetQty, (opened.core .tqqq).targetQty),
        ((opened.core .qqq).qty, (opened.core .tqqq).qty)))
      = (.ok ((224, 24), (224, 24)) : Py ((ℕ × ℕ) × (ℕ × ℕ))) := by decide +kernel
  simp only [Except.bind_eq_ok] at hrun
  obtain ⟨before, hbefore, opened, hopened, hread⟩ := hrun
  obtain ⟨htarget, hheld⟩ := Prod.mk.inj (Except.ok.inj hread)
  exact ⟨⟨distinct, fresh, onboardingCompleted_of_disabled rfl, defensive_isTarget,
      session_regular (by norm_num), session_regular (by norm_num), by decide +kernel⟩,
    before, opened, hbefore, hopened, Prod.mk.inj htarget, Prod.mk.inj hheld, by decide +kernel,
    by decide +kernel⟩

end Gap

end JdHoldings

import JdHoldings.Application.AllocationTargets

/-!
# What a stage lets the account buy

The cap of a stage acts where a BUY is announced: the signal is given the budget of the
shares the stage leaves open.  A quote divides that budget by the price it was planned at, so
whatever has happened since, it is for no more shares than were announced
(`quotes_stay_within_stage`).

The cap is one of every single quote.  A signal that is reopened after a partial fill keeps
its budget, so its next quote is for the announced shares again, although some of them are
held by then.
-/

namespace JdHoldings

open InitialOnboarding AllocationTradingService

section Cap

variable {ι : Type} {policy : InitialOnboardingPolicy} {config : StrategyConfig}
  {context : TargetContext} {store : OnboardingStore ι} {signals signals' : List CoreSignal}
  {symbol : AllocationSymbol} {allowBuy : Bool} {signalId : SignalId} {row : CoreSignal}

/-- A budget of some shares at the price of the signal plans no other number of them. -/
theorem plannedQuantity_le {quantity : ℕ}
    (hbudget : row.plannedBudget = quantity * row.signalClose * (1 + config.buyLimitBuffer)
      * (1 + config.buyFee)) : plannedQuantity config row ≤ quantity := by
  unfold plannedQuantity
  dsimp only
  split
  next hpos =>
    have hshares : row.plannedBudget
        / (row.signalClose * (1 + config.buyLimitBuffer) * (1 + config.buyFee)) = quantity := by
      rw [hbudget, mul_assoc, mul_assoc, ← mul_assoc row.signalClose]
      exact mul_div_cancel_right₀ _ hpos.ne'
    rw [hshares, show ((quantity : ℕ) : Decimal) = ((quantity : ℤ) : ℚ) by norm_cast,
      Quantize.roundDown_intCast]
  · exact Int.natCast_nonneg quantity

/-- An announced target is what the stage opens of the target of the allocator. -/
theorem applyTarget_announced (hids : DistinctIds signals)
    (happlied : applyTarget policy config context store signals symbol allowBuy
      = .ok (signals', .announced signalId)) (hrow : row ∈ signals') (hid : row.signalId = signalId) :
    ∃ (quantity : ℕ) (fraction : Decimal), effectiveFraction policy store = .ok fraction ∧
      (((store.repo.core symbol).qty + store.repo.committedCoreBuyQuantity (.allocation symbol)
        + quantity : ℕ) : Decimal) ≤ (store.repo.core symbol).targetQty * fraction ∧
      row.symbol = symbol ∧ row.action = .coreRebalanceBuy ∧
      row.plannedBudget = quantity * row.signalClose * (1 + config.buyLimitBuffer)
        * (1 + config.buyFee) := by
  unfold applyTarget at happlied
  cases hstatus : onboardingStatus policy store with
  | notStarted =>
      -- What is held already fills the target, so nothing is announced.
      simp only [hstatus, effectiveTargetQuantity, Except.ok_then] at happlied
      obtain ⟨quantity, hpos, htarget, -⟩ := moveToTarget_announced hids happlied hrow hid
      omega
  | active =>
      simp only [hstatus, effectiveTargetQuantity, scaledTargetQuantity, Except.bind_eq_ok,
        raiseIf_eq_ok, not_not] at happlied
      obtain ⟨target, ⟨fraction, hfraction, -, ⟨hnonneg, hle⟩, htarget⟩, hmoved⟩ := happlied
      obtain ⟨quantity, -, hsum, hsignal⟩ := moveToTarget_announced hids hmoved hrow hid
      refine ⟨quantity, fraction, hfraction, ?_, hsignal⟩
      have hscaled := scaledTargetQuantity_eq hnonneg hle (store.repo.core symbol).targetQty
      rw [scaledTargetQuantity, (raiseIf_eq_ok (u := ())).mpr (not_not.mpr ⟨hnonneg, hle⟩),
        Except.ok_then, htarget] at hscaled
      rw [hsum, Except.ok.inj hscaled]
      exact Nat.floor_le (mul_nonneg (Nat.cast_nonneg _) hnonneg)
  | completed | bypassed | disabled =>
      -- Outside the onboarding the whole target is open.
      simp only [hstatus, PortfolioService.applyTarget] at happlied
      obtain ⟨quantity, -, hsum, hsignal⟩ := moveToTarget_announced hids happlied hrow hid
      refine ⟨quantity, 1, by simp only [effectiveFraction, hstatus], ?_, hsignal⟩
      rw [hsum, mul_one]

/-- A quote of an announced signal is for no more shares than its announcement has found open, and
together with what was held and ordered then it is within the share of the target that the
stage opens. -/
theorem quotes_stay_within_stage (hids : DistinctIds signals)
    (happlied : applyTarget policy config context store signals symbol allowBuy
      = .ok (signals', .announced signalId)) (hrow : row ∈ signals') (hid : row.signalId = signalId)
    {service : QuoteService ι} {later later' : Repository ι} {row' : CoreSignal} {current : Utc}
    {allowCashRelease : Bool} {quote : ReviewQuote}
    (hissued : buildQuote service config later row current allowCashRelease
      = ((later', row'), .ok quote)) :
    ∃ fraction : Decimal, effectiveFraction policy store = .ok fraction ∧
      (((store.repo.core symbol).qty + store.repo.committedCoreBuyQuantity (.allocation symbol)
        + quote.quantity : ℕ) : Decimal) ≤ (store.repo.core symbol).targetQty * fraction := by
  obtain ⟨quantity, fraction, hfraction, hcap, -, haction, hbudget⟩ :=
    applyTarget_announced hids happlied hrow hid
  obtain ⟨hpriced, -⟩ := buildQuote_ok haction hissued
  have hquoted : (quote.quantity : ℤ) ≤ quantity :=
    hpriced.isGreatest.1.2.1.trans (plannedQuantity_le hbudget)
  refine ⟨fraction, hfraction, le_trans ?_ hcap⟩
  exact_mod_cast Nat.add_le_add_left (Nat.cast_le.mp hquoted) _

end Cap

deriving instance DecidableEq for CoreSignal

namespace HalfOpen

open QuotedAtOpen

/-- One half, and the rest. -/
def policy : InitialOnboardingPolicy := ⟨true, [1 / 2, 1], 0⟩

/-- Ten shares of `QQQ` are the target, and the first stage is open. -/
def store : OnboardingStore ℕ where
  repo := { QuotedAtOpen.repo with
    core := fun _ =>
      { targetQty := 10, targetWeight := 1, trendActive := true, signalTradeDate := some 1 }
    system := { QuotedAtOpen.repo.system with onboardingStatus := some .active } }
  stage := some 1

def context : TargetContext where
  version := "3.2.2"
  configVersion := "3.2.2"
  entryMaxChasePct := 2 / 100
  price _ := .ok 100
  validUntil := QuotedAtOpen.signal.validUntil

def announced : CoreSignal :=
  { context.buySignal .strategyYaml .qqq 1 5 100 with signalId := 1 }

theorem applied : applyTarget policy .strategyYaml context store [] .qqq true
    = .ok ([announced], .announced 1) := by
  decide +kernel

/-- A later account that holds three of the five announced shares. -/
def later : Repository ℕ :=
  { store.repo with core := fun symbol => { store.repo.core symbol with qty := 3 } }

def issued : (Repository ℕ × CoreSignal) × Except QuoteError ReviewQuote :=
  buildQuote QuotedAtOpen.service .strategyYaml later announced QuotedAtOpen.now true

theorem announced_alone : DistinctIds ([] : List CoreSignal) :=
  ⟨List.nodup_nil, fun _ hmem => absurd hmem List.not_mem_nil⟩

end HalfOpen

open HalfOpen in
/-- Five shares are announced, and the quote that follows is within the half of ten. -/
theorem quotes_stay_within_stage_half_open :
    ∃ quote fraction, issued.2 = .ok quote ∧ effectiveFraction policy store = .ok fraction ∧
      (((0 + 0 + quote.quantity : ℕ) : ℕ) : Decimal) ≤ (10 : ℕ) * fraction := by
  have hquoted : (match issued.2 with
      | .ok _ => true
      | .error _ => false) = true := by
    decide +kernel
  cases hissued : issued with
  | mk left result =>
      rw [hissued] at hquoted
      cases result with
      | error error => cases hquoted
      | ok quote =>
          obtain ⟨fraction, hfraction, hcap⟩ := quotes_stay_within_stage announced_alone applied
            (List.mem_singleton.mpr rfl) rfl hissued
          exact ⟨quote, fraction, rfl, hfraction, hcap⟩

-- Three of the five shares are held, and five more are quoted: the half of ten is exceeded.
example : (match HalfOpen.issued.2 with
    | .ok quote => (HalfOpen.later.core .qqq).qty + quote.quantity
    | .error _ => 0) = 8 := by
  decide +kernel

end JdHoldings

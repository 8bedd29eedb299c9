import JdHoldings.Application.ManagedAccount
import JdHoldings.Application.Signals
import JdHoldings.Core.Execution
import JdHoldings.Infrastructure.MarketClock

/-!
# The quote of a core BUY

`AllocationTradingService._build_quote` prices an active core BUY signal: a limit below
the ceiling of the signal, and the largest quantity that its planned budget, the share
count planned with it, and the open part of the target leave room for.  A quote whose
total exceeds the available cash is refused.

The target of the quote and the target of the reservation guard are computed apart.
They agree where the target is frozen (`requireCoreTarget_of_quote`).
-/

namespace JdHoldings

/-- A row of `signals` with what a quote reads of it. -/
structure CoreSignal extends SignalRow where
  signalClose : Decimal
  maxChasePrice : Decimal
  plannedBudget : Decimal
  validUntil : Utc
  strategyVersion : String
  configVersion : String

/-- `ReviewQuote`. -/
structure ReviewQuote where
  signalId : SignalId
  symbol : AllocationSymbol
  session : MarketSession
  currentPrice : Decimal
  executionCeiling : Decimal
  limitPrice : Decimal
  quantity : ℕ
  plannedBudget : Decimal
  estimatedFee : Decimal

/-- What `_build_quote` raises. -/
inductive QuoteError where
  /-- `ApprovalError`. -/
  | approval (message : String)
  | raised (error : PyError)

/-- What the order of a quote costs. -/
def ReviewQuote.total (config : StrategyConfig) (quote : ReviewQuote) : Decimal :=
  quote.quantity * quote.limitPrice * (1 + config.buyFee)

/-- `is_toss_order_maintenance_window`: 08:50 to 08:59 in Seoul, nine hours ahead of UTC. -/
def isTossOrderMaintenanceWindow (now : Utc) : Bool :=
  let minute := (now.micros / 60000000 + 9 * 60) % (24 * 60)
  decide (8 * 60 + 50 ≤ minute) && decide (minute ≤ 8 * 60 + 59)

variable {ι : Type}

/-- `available_managed_cash`, for an answer of the broker to `get_buying_power`. -/
def Repository.availableManagedCash (config : StrategyConfig) (repo : Repository ι)
    (buyingPower : Py Decimal) (additionalReservation : Decimal) : Py Decimal := do
  let rawCash ← repo.rawManagedCash config
  let invested := repo.managedCostBasis config
  let riskBudget ← repo.system.riskBudgetOrInitial
  let reserved := repo.reservedOpenBuy config
  let cashAvailable := rawCash - reserved - additionalReservation
  let riskAvailable := riskBudget - invested - reserved - additionalReservation
  let brokerAvailable ← buyingPower
  return max 0 (min (min cashAvailable riskAvailable) (brokerAvailable - additionalReservation))

/-- What `_build_quote` finds around it: the versions and sessions of the config, the calendar,
the broker, and the cash promised to other signals.  The idle-cash manager may be missing,
and `ensure_buying_power` may do anything to the repository. -/
structure QuoteService (ι : Type) where
  version : String
  configVersion : String
  sessionAllowed : MarketSession → Bool
  calendar : ExchangeCalendar
  nextSessionDate : Date → Py Date
  price : AllocationSymbol → Py Decimal
  buyingPower : Py Decimal
  ensureBuyingPower : Option (Repository ι → Decimal → Repository ι × Except QuoteError Unit)
  reservedCashReleaseAmount : SignalId → Decimal
  /-- `TradingService._build_quote`, for the signals of the direct strategy. -/
  directQuote : CoreSignal → Repository ι → Repository ι × Except QuoteError ReviewQuote

namespace AllocationTradingService

/-- `_signal_gate_failure`. -/
def signalGateFailure (service : QuoteService ι) (repo : Repository ι) (signal : CoreSignal) :
    Option String :=
  if signal.action ≠ .coreRebalanceBuy then some "V322_DIRECT_SIGNAL_DISABLED"
  else if signal.strategyVersion ≠ service.version ∨ signal.configVersion ≠ service.configVersion then
    some "SIGNAL_VERSION_MISMATCH"
  else if repo.system.portfolioSafeMode = some true then some "V322_PORTFOLIO_SAFE_MODE"
  else if ∃ enabled ∈ (Symbol.allocation signal.symbol).enabled?,
      (repo.positions enabled).state = .safeMode then some "SIGNAL_SAFE_MODE"
  else if (repo.core signal.symbol).trendActive = false then some "V322_TARGET_OFF"
  else none

/-- `_active_signal`: the row it leaves, and whether it is active. -/
def activeSignal (service : QuoteService ι) (repo : Repository ι) (signal : CoreSignal)
    (current : Utc) : CoreSignal × Except QuoteError Unit :=
  if signal.isActive = false then (signal, .error (.approval "활성 상태가 아닌 신호입니다"))
  else if signal.validUntil < current then
    ({ signal with
        status := .other "EXPIRED", processed := true, expiredReason := some "SIGNAL_EXPIRED" },
      .error (.approval "신호 유효시간이 만료되었습니다"))
  else
    match signalGateFailure service repo signal with
    | some reason =>
        ({ signal with toSignalRow := signal.toSignalRow.invalidate reason },
          .error (.approval s!"현재 전략 조건에 맞지 않는 신호입니다: {reason}"))
    | none => (signal, .ok ())

/-- The checks of the clock. -/
def checkClock (service : QuoteService ι) (signal : CoreSignal) (current : Utc) :
    Except QuoteError MarketSession := do
  let nextSession ← (service.nextSessionDate signal.tradeDate).mapError QuoteError.raised
  raiseIf (NewYork.date current < nextSession)
    (.approval s!"완결봉 다음 거래일부터 매수할 수 있습니다 ({nextSession})")
  raiseIf (isTossOrderMaintenanceWindow current = true)
    (.approval "토스 주문 점검시간(08:50~08:59 KST)에는 매수할 수 없습니다")
  let session := service.calendar.classifySession current
  raiseIf (service.sessionAllowed session = false) (.approval "현재 주문 허용 세션이 아닙니다")
  return session

/-- `planned_quantity`: the share count the budget was planned for. -/
def plannedQuantity (config : StrategyConfig) (signal : CoreSignal) : ℤ :=
  let plannedPerShare := signal.signalClose * (1 + config.buyLimitBuffer) * (1 + config.buyFee)
  if 0 < plannedPerShare then Quantize.roundDown (signal.plannedBudget / plannedPerShare) else 0

/-- `current_target`: the frozen target, or the planned share count where none is frozen. -/
def currentTarget (config : StrategyConfig) (repo : Repository ι) (signal : CoreSignal) : ℤ :=
  if 0 < (repo.core signal.symbol).targetQty then (repo.core signal.symbol).targetQty
  else plannedQuantity config signal

/-- `maximum_quantity`. -/
def maximumQuantity (config : StrategyConfig) (repo : Repository ι) (signal : CoreSignal) : ℤ :=
  let committedQuantity := repo.committedCoreBuyQuantity (.allocation signal.symbol)
  let remainingTarget :=
    max 0 (currentTarget config repo signal - (repo.core signal.symbol).qty - committedQuantity)
  min (plannedQuantity config signal) remainingTarget

/-- The quote at a price, before the cash is looked at. -/
def priceQuote (config : StrategyConfig) (repo : Repository ι) (signal : CoreSignal)
    (session : MarketSession) (currentPrice : Decimal) : Except QuoteError ReviewQuote := do
  let limit ← (calculateLimitPrice currentPrice signal.maxChasePrice config).mapError
    QuoteError.raised
  let quantity := calculateOrderQuantity signal.plannedBudget limit config.buyFee
    (some (maximumQuantity config repo signal).toNat)
  raiseIf (quantity < 1) (.approval "V3.2.2 목표수량이 이미 충족되었거나 매수수량이 0주입니다")
  return {
    signalId := signal.signalId
    symbol := signal.symbol
    session := session
    currentPrice := currentPrice
    executionCeiling := signal.maxChasePrice
    limitPrice := limit
    quantity := quantity
    plannedBudget := signal.plannedBudget
    estimatedFee := quantity * limit * config.buyFee }

/-- `ensure_buying_power`, where there is a manager and cash may be released. -/
def releaseCash (service : QuoteService ι) (allowCashRelease : Bool) (repo : Repository ι)
    (total : Decimal) : Repository ι × Except QuoteError Unit :=
  match service.ensureBuyingPower with
  | some ensureBuyingPower =>
      if allowCashRelease then ensureBuyingPower repo total else (repo, .ok ())
  | none => (repo, .ok ())

/-- The last check of `_build_quote`: the total against the available cash. -/
def checkCash (service : QuoteService ι) (config : StrategyConfig) (repo : Repository ι)
    (quote : ReviewQuote) : Except QuoteError ReviewQuote := do
  let buyingPower ← (repo.availableManagedCash config service.buyingPower
    (service.reservedCashReleaseAmount quote.signalId)).mapError QuoteError.raised
  raiseIf (buyingPower < quote.total config)
    (.approval "JDSS HWM75 위험예산 내 매수가능금액이 부족합니다")
  return quote

/-- `_build_quote`: the repository and the signal it leaves, and the quote. -/
def buildQuote (service : QuoteService ι) (config : StrategyConfig) (repo : Repository ι)
    (signal : CoreSignal) (current : Utc) (allowCashRelease : Bool) :
    (Repository ι × CoreSignal) × Except QuoteError ReviewQuote :=
  if signal.action ≠ .coreRebalanceBuy then
    let (repo', quote) := service.directQuote signal repo
    ((repo', signal), quote)
  else
    match activeSignal service repo signal current with
    | (signal', .error error) => ((repo, signal'), .error error)
    | (signal', .ok _) =>
        let priced := do
          let session ← checkClock service signal' current
          let currentPrice ← (service.price signal'.symbol).mapError QuoteError.raised
          priceQuote config repo signal' session currentPrice
        match priced with
        | .error error => ((repo, signal'), .error error)
        | .ok quote =>
            match releaseCash service allowCashRelease repo (quote.total config) with
            | (repo', .error error) => ((repo', signal'), .error error)
            | (repo', .ok _) => ((repo', signal'), checkCash service config repo' quote)

/-! ## What a quote has been checked against -/

variable {service : QuoteService ι} {config : StrategyConfig} {repo repo' : Repository ι}
  {signal signal' : CoreSignal} {current : Utc} {allowCashRelease : Bool} {quote : ReviewQuote}

/-- An active signal is left as it is. -/
theorem activeSignal_ok {u : Unit}
    (hok : activeSignal service repo signal current = (signal', .ok u)) : signal' = signal := by
  unfold activeSignal at hok
  split at hok
  · cases hok
  · split at hok
    · cases hok
    · split at hok
      · cases hok
      · cases hok
        rfl

/-- The price part of a quote. -/
structure Priced (config : StrategyConfig) (repo : Repository ι) (signal : CoreSignal)
    (quote : ReviewQuote) : Prop where
  limit_le : quote.limitPrice ≤ signal.maxChasePrice
  quantity_pos : 0 < quote.quantity
  quantity_eq : quote.quantity = calculateOrderQuantity signal.plannedBudget quote.limitPrice
    config.buyFee (some (maximumQuantity config repo signal).toNat)

theorem mapError_eq_ok {α : Type} {result : Py α} {value : α}
    (hok : result.mapError QuoteError.raised = .ok value) : result = .ok value := by
  cases result with
  | error error => cases hok
  | ok found => exact congrArg Except.ok (Except.ok.inj hok)

theorem priceQuote_ok {session : MarketSession} {currentPrice : Decimal}
    (hok : priceQuote config repo signal session currentPrice = .ok quote) :
    Priced config repo signal quote := by
  simp only [priceQuote, Except.bind_eq_ok, raiseIf_eq_ok, not_lt] at hok
  obtain ⟨limit, hlimit, -, hsome, hquote⟩ := hok
  cases hquote
  exact ⟨calculateLimitPrice_le (mapError_eq_ok hlimit), hsome, rfl⟩

theorem checkCash_ok {checked : ReviewQuote}
    (hok : checkCash service config repo quote = .ok checked) :
    checked = quote ∧ ∃ cash, repo.availableManagedCash config service.buyingPower
        (service.reservedCashReleaseAmount quote.signalId) = .ok cash ∧
      quote.total config ≤ cash := by
  simp only [checkCash, Except.bind_eq_ok, raiseIf_eq_ok, not_lt] at hok
  obtain ⟨cash, hcash, -, hroom, hchecked⟩ := hok
  exact ⟨(Except.ok.inj hchecked).symm, cash, mapError_eq_ok hcash, hroom⟩

/-- Everything a quote has been checked against: the prices with the repository `_build_quote`
begins with, the cash with the one `ensure_buying_power` leaves. -/
theorem buildQuote_ok (hcore : signal.action = .coreRebalanceBuy)
    (hok : buildQuote service config repo signal current allowCashRelease =
      ((repo', signal'), .ok quote)) :
    Priced config repo signal quote ∧
      ∃ cash, repo'.availableManagedCash config service.buyingPower
          (service.reservedCashReleaseAmount quote.signalId) = .ok cash ∧
        quote.total config ≤ cash := by
  unfold buildQuote at hok
  rw [if_neg (not_not.mpr hcore)] at hok
  split at hok
  · cases hok
  next active u hactive =>
    rw [activeSignal_ok hactive] at hok
    dsimp only at hok
    split at hok
    · cases hok
    next priced hpriced =>
      split at hok
      · cases hok
      next released v hreleased =>
        obtain ⟨hrepo, hchecked⟩ := Prod.mk.inj hok
        obtain ⟨rfl, -⟩ := Prod.mk.inj hrepo
        obtain ⟨rfl, hcash⟩ := checkCash_ok hchecked
        refine ⟨?_, hcash⟩
        simp only [Except.bind_eq_ok] at hpriced
        obtain ⟨session, -, currentPrice, -, hquote⟩ := hpriced
        exact priceQuote_ok hquote

/-- The quantities a quote could have: within the planned budget at its limit, within the planned
share count, and within what the target leaves open. -/
def Quotable (config : StrategyConfig) (repo : Repository ι) (signal : CoreSignal)
    (limit : Decimal) : Set ℕ :=
  {quantity | quantity * limit * (1 + config.buyFee) ≤ signal.plannedBudget ∧
    (quantity : ℤ) ≤ plannedQuantity config signal ∧
    (quantity : ℤ) ≤ currentTarget config repo signal - (repo.core signal.symbol).qty -
      repo.committedCoreBuyQuantity (.allocation signal.symbol)}

/-- The quantity of a quote is the largest it could have. -/
theorem Priced.isGreatest (hpriced : Priced config repo signal quote) :
    IsGreatest (Quotable config repo signal quote.limitPrice) quote.quantity := by
  have hsome := hpriced.quantity_pos
  rw [hpriced.quantity_eq] at hsome ⊢
  obtain ⟨⟨hbudget, hmaximum⟩, hgreatest⟩ :=
    calculateOrderQuantity_isGreatest config.one_add_buyFee_pos hsome
  generalize calculateOrderQuantity signal.plannedBudget quote.limitPrice config.buyFee
    (some (maximumQuantity config repo signal).toNat) = quantity at hsome hbudget hmaximum hgreatest ⊢
  constructor
  · refine ⟨hbudget, ?_, ?_⟩ <;>
    · simp only [maximumQuantity] at hmaximum
      omega
  · rintro other ⟨hother, hplanned, hopen⟩
    refine hgreatest ⟨hother, ?_⟩
    simp only [maximumQuantity]
    omega

/-- The guard of the reservation lets the quote pass where the target is frozen and the row and
the committed quantity are still what the quote has seen. -/
theorem Priced.requireCoreTarget (hpriced : Priced config repo signal quote)
    (hfrozen : 0 < (repo.core signal.symbol).targetQty)
    (hrow : repo'.core signal.symbol = repo.core signal.symbol)
    (hcommitted : repo'.committedCoreBuyQuantity (.allocation signal.symbol) =
      repo.committedCoreBuyQuantity (.allocation signal.symbol))
    {request : BuyRequest ι} (hsymbol : request.symbol = .allocation signal.symbol)
    (hquantity : request.quantity = quote.quantity) (riskBudget : Decimal) :
    repo'.requireCoreTarget config riskBudget request = .ok () := by
  obtain ⟨-, -, hopen⟩ := hpriced.isGreatest.1
  rw [currentTarget, if_pos hfrozen] at hopen
  have htarget : repo'.coreBuyTarget config riskBudget signal.symbol request.limit =
      (repo.core signal.symbol).targetQty := by
    rw [Repository.coreBuyTarget, hrow, if_neg]
    rintro ⟨hzero, -⟩
    omega
  unfold Repository.requireCoreTarget
  simp only [hsymbol, Symbol.allocation?, htarget, hrow, hcommitted, raiseIf_eq_ok, not_lt, hquantity]
  omega

end AllocationTradingService

open AllocationTradingService

/-- A quote issued for a core BUY signal stays below the ceiling of the signal, within its planned
budget and the available cash, and has the largest quantity the budget, the planned share count
and the open target allow; with a frozen target the reservation accepts it as it is. -/
theorem core_quote_fits {service : QuoteService ι} {config : StrategyConfig}
    {repo repo' : Repository ι} {signal signal' : CoreSignal} {current : Utc}
    {allowCashRelease : Bool} {quote : ReviewQuote} (hcore : signal.action = .coreRebalanceBuy)
    (hissued : buildQuote service config repo signal current allowCashRelease =
      ((repo', signal'), .ok quote)) :
    quote.limitPrice ≤ signal.maxChasePrice ∧
      quote.total config ≤ signal.plannedBudget ∧
      (∃ cash, repo'.availableManagedCash config service.buyingPower
          (service.reservedCashReleaseAmount quote.signalId) = .ok cash ∧
        quote.total config ≤ cash) ∧
      IsGreatest (Quotable config repo signal quote.limitPrice) quote.quantity ∧
      (0 < (repo.core signal.symbol).targetQty →
        ∀ (later : Repository ι) (request : BuyRequest ι) (riskBudget : Decimal),
          later.core signal.symbol = repo.core signal.symbol →
          later.committedCoreBuyQuantity (.allocation signal.symbol) =
            repo.committedCoreBuyQuantity (.allocation signal.symbol) →
          request.symbol = .allocation signal.symbol → request.quantity = quote.quantity →
          later.requireCoreTarget config riskBudget request = .ok ()) := by
  obtain ⟨hpriced, hcash⟩ := buildQuote_ok hcore hissued
  have hgreatest := hpriced.isGreatest
  refine ⟨hpriced.limit_le, hgreatest.1.1, hcash, hgreatest, ?_⟩
  intro hfrozen later request riskBudget hrow hcommitted hsymbol hquantity
  exact hpriced.requireCoreTarget hfrozen hrow hcommitted hsymbol hquantity riskBudget

namespace QuotedAtOpen

/-- A launched account that may buy ten shares of `QQQ`. -/
def repo : Repository ℕ :=
  { Repository.initial ℕ with
    core := fun _ => { targetQty := 10, targetWeight := 1, trendActive := true }
    system := { effectivePrincipal := some 10000, autoEnabled := some true } }

def signal : CoreSignal where
  signalId := 1
  symbol := .qqq
  tradeDate := 1
  action := .coreRebalanceBuy
  signalClose := 100
  maxChasePrice := 102
  plannedBudget := 1006
  validUntil := ⟨10 ^ 17, by decide, by decide⟩
  strategyVersion := "3.2.2"
  configVersion := "3.2.2"

/-- At 100 dollars, with enough cash at the broker and every session allowed. -/
def service : QuoteService ℕ where
  version := "3.2.2"
  configVersion := "3.2.2"
  sessionAllowed _ := true
  calendar := ⟨fun _ => none, fun hnone => by cases hnone⟩
  nextSessionDate _ := .ok 0
  price _ := .ok 100
  buyingPower := .ok 5000
  ensureBuyingPower := none
  reservedCashReleaseAmount _ := 0
  directQuote _ repo := (repo, .error (.approval ""))

def now : Utc := ⟨10 ^ 16, by decide, by decide⟩

def issued : (Repository ℕ × CoreSignal) × Except QuoteError ReviewQuote :=
  buildQuote service .strategyYaml repo signal now true

end QuotedAtOpen

open QuotedAtOpen in
/-- Nine shares are quoted: ten would cost more than the planned budget. -/
theorem core_quote_fits_at_open :
    ∃ quote, issued.2 = .ok quote ∧ quote.quantity = 9 ∧ quote.limitPrice ≤ 102 ∧
      quote.total .strategyYaml ≤ 1006 := by
  have hnine : (match issued.2 with
      | .ok quote => decide (quote.quantity = 9)
      | .error _ => false) = true := by
    decide +kernel
  cases hissued : issued with
  | mk left result =>
      rw [hissued] at hnine
      cases result with
      | error error => cases hnine
      | ok quote =>
          obtain ⟨hlimit, hbudget, -⟩ := core_quote_fits rfl hissued
          exact ⟨quote, rfl, of_decide_eq_true hnine, hlimit, hbudget⟩

end JdHoldings

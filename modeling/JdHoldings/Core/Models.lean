import Mathlib.Data.Rat.Defs
import Mathlib.Algebra.Order.Ring.Rat
import Mathlib.Tactic.Linarith

/-!
# Data model

The vocabulary every layer shares: symbols, order sides and statuses, the order
request handed to the order manager and the receipt that comes back, the
strategy configuration, and the exceptions the code raises.

Amounts are `Decimal` in the source.  They are exact rationals here: the digits
a 28-digit decimal context drops are not modelled, and every place where the
source rounds on purpose rounds explicitly.  Quantities are whole shares,
time stamps are compared only, and both are natural numbers.
-/

namespace JdHoldings

/-- `Decimal`, with exact arithmetic. -/
abbrev Decimal := ℚ

/-- A UTC time stamp; the code only compares them. -/
abbrev Timestamp := ℕ

/-! ## Symbols -/

/-- `ALLOCATION_SYMBOLS`, the rows of `core_positions`. -/
inductive AllocationSymbol where
  | qqq
  | tqqq
  | soxl
deriving DecidableEq, Repr

/-- `config.enabled_symbols`, the rows of `positions`. -/
inductive EnabledSymbol where
  | tqqq
  | soxl
deriving DecidableEq, Repr

/-- An upper-cased ticker. -/
inductive Symbol where
  | allocation (symbol : AllocationSymbol)
  | other (code : ℕ)
deriving DecidableEq, Repr

def AllocationSymbol.text : AllocationSymbol → String
  | .qqq => "QQQ"
  | .tqqq => "TQQQ"
  | .soxl => "SOXL"

def Symbol.text : Symbol → String
  | .allocation symbol => symbol.text
  | .other code => toString code

/-- The row of `core_positions` under a ticker, if there is one. -/
def Symbol.allocation? : Symbol → Option AllocationSymbol
  | .allocation symbol => some symbol
  | .other _ => none

/-- The row of `positions` under a ticker, if there is one. -/
def Symbol.enabled? : Symbol → Option EnabledSymbol
  | .allocation .tqqq => some .tqqq
  | .allocation .soxl => some .soxl
  | _ => none

theorem Symbol.allocation?_eq_some {symbol : Symbol} {core : AllocationSymbol}
    (h : symbol.allocation? = some core) : symbol = .allocation core := by
  cases symbol with
  | allocation other => simpa [allocation?] using h
  | other code => simp [allocation?] at h

/-! ## Orders -/

inductive Side where
  | buy
  | sell
deriving DecidableEq, Repr

inductive OrderType where
  | limit
  | market
deriving DecidableEq, Repr

/-- The purposes the services write into `orders.purpose`. -/
inductive Purpose where
  | entry (stage : Fin 4)
  | rebuy
  | tp1
  | tp2
  | remainderExit
  | coreRebalanceBuy
  | coreRebalanceSell
  | sgovSweepBuy
  | sgovEntryRelease
deriving DecidableEq, Repr

/-- Every service pairs a purpose with one side. -/
def Purpose.side : Purpose → Side
  | .entry _ | .rebuy | .coreRebalanceBuy | .sgovSweepBuy => .buy
  | .tp1 | .tp2 | .remainderExit | .coreRebalanceSell | .sgovEntryRelease => .sell

/-- `purpose in CORE_ORDER_PURPOSES`. -/
def Purpose.isCore : Purpose → Bool
  | .coreRebalanceBuy | .coreRebalanceSell => true
  | _ => false

/-- `ALL_ORDER_STATUSES`. -/
inductive OrderStatus where
  | created
  | submitted
  | pending
  | partialFilled
  | pendingCancel
  | pendingReplace
  | unknown
  | filled
  | canceled
  | rejected
  | replaced
deriving DecidableEq, Repr

/-- `status in TERMINAL_ORDER_STATUSES`. -/
def OrderStatus.isTerminal : OrderStatus → Bool
  | .filled | .canceled | .rejected | .replaced => true
  | _ => false

/-- `status in OPEN_ORDER_STATUSES`. -/
def OrderStatus.isOpen : OrderStatus → Bool
  | .created | .submitted | .pending | .partialFilled | .pendingCancel | .pendingReplace
  | .unknown => true
  | _ => false

@[simp] theorem OrderStatus.isOpen_eq_not_isTerminal (status : OrderStatus) :
    status.isOpen = !status.isTerminal := by
  cases status <;> rfl

/-- The text stored in the database. -/
def OrderStatus.text : OrderStatus → String
  | .created => "CREATED"
  | .submitted => "SUBMITTED"
  | .pending => "PENDING"
  | .partialFilled => "PARTIAL_FILLED"
  | .pendingCancel => "PENDING_CANCEL"
  | .pendingReplace => "PENDING_REPLACE"
  | .unknown => "UNKNOWN"
  | .filled => "FILLED"
  | .canceled => "CANCELED"
  | .rejected => "REJECTED"
  | .replaced => "REPLACED"

/-- A status text as the broker sends it.  The code upper-cases it and looks the
result up, so a known status in other letter case is the same status. -/
inductive StatusText where
  | exact (status : OrderStatus)
  | otherCase (status : OrderStatus)
  | unsupported (text : String)
deriving DecidableEq, Repr

/-- `status.upper()`, when it is in `ALL_ORDER_STATUSES`. -/
def StatusText.upper? : StatusText → Option OrderStatus
  | .exact status | .otherCase status => some status
  | .unsupported _ => none

/-- The text as an error message shows it. -/
def StatusText.shown : StatusText → String
  | .exact status | .otherCase status => status.text
  | .unsupported text => text

/-- `OrderRequest`.  Its constructor refuses a quantity below one, and the
services build it with the side of its purpose. -/
structure OrderRequest (ι : Type*) where
  clientOrderId : ι
  symbol : Symbol
  side : Side
  orderType : OrderType
  quantity : ℕ
  price : Option Decimal
  purpose : Purpose
  quantity_pos : 0 < quantity
  side_eq : side = purpose.side

/-- An `OrderRequest` that buys at a limit price. -/
structure BuyRequest (ι : Type*) extends OrderRequest ι where
  limit : Decimal
  side_buy : side = .buy
  price_eq : price = some limit

/-- A limit BUY of the core sleeve. -/
def BuyRequest.core {ι : Type*} (clientOrderId : ι) (symbol : AllocationSymbol) (quantity : ℕ)
    (limit : Decimal) (quantity_pos : 0 < quantity) : BuyRequest ι where
  clientOrderId := clientOrderId
  symbol := .allocation symbol
  side := .buy
  orderType := .limit
  quantity := quantity
  price := some limit
  purpose := .coreRebalanceBuy
  quantity_pos := quantity_pos
  side_eq := rfl
  limit := limit
  side_buy := rfl
  price_eq := rfl

/-! ## Errors -/

/-- `TossApiError`. -/
structure TossApiError where
  message : String
  statusCode : Option ℕ
  code : Option String
  requestId : Option String
  retryable : Bool
deriving DecidableEq, Repr

/-- The exceptions the modelled functions raise. -/
inductive PyError where
  | value (message : String)
  | key
  | stateConflict (message : String)
  | runtime (message : String)
  /-- `sqlite3.IntegrityError`. -/
  | integrity
  | brokerReceiptValidation (message : String)
  | tossApi (error : TossApiError)
  /-- Any other exception class. -/
  | other (name : String)
deriving DecidableEq, Repr

/-- A Python function that may raise. -/
abbrev Py := Except PyError

/-! ## Configuration -/

/-- The part of `StrategyConfig` the ledger reads.  Loading a configuration
refuses negative fees. -/
structure StrategyConfig where
  buyFee : Decimal
  sellFee : Decimal
  buyLimitBuffer : Decimal
  idleCashEnabled : Bool
  buyFee_nonneg : 0 ≤ buyFee
  sellFee_nonneg : 0 ≤ sellFee

namespace StrategyConfig

theorem one_add_buyFee_pos (config : StrategyConfig) : 0 < 1 + config.buyFee := by
  linarith [config.buyFee_nonneg]

/-- The values of the repository's own `strategy.yaml`. -/
def strategyYaml : StrategyConfig where
  buyFee := 1 / 1000
  sellFee := 1 / 1000
  buyLimitBuffer := 5 / 1000
  idleCashEnabled := false
  buyFee_nonneg := by norm_num
  sellFee_nonneg := by norm_num

end StrategyConfig

/-- `V322Policy.initial_capital`, pinned by `V322Policy.validate`. -/
def V322Policy.initialCapital : Decimal := 50000

/-- `V322Policy.hwm_reinvestment_fraction`, pinned by `V322Policy.validate`. -/
def V322Policy.hwmReinvestmentFraction : Decimal := 3 / 4

end JdHoldings

import JdHoldings.Application.JhAutoGuard
import JdHoldings.Library.Proc

/-!
# The live process

What the threads of the live process share, and what they ask the outside world.

The shared state is the database and the `signals` table.  Two ghosts ride along
that no code reads: the log of everything that happened at the broker boundary,
newest first, and the thread that inserted each order row.  Both survive a crash,
because what they record has happened.

Questions go to the broker, to its token endpoint and to the clock.  The HTTP
answer of `session.request` is left entirely open: any status code, any body, any
transport failure.
-/

namespace JdHoldings

/-! ## HTTP -/

inductive HttpMethod where
  | get
  | head
  | options
  | post
deriving DecidableEq, Repr

/-- `SAFE_AUTH_REPLAY_METHODS`. -/
def HttpMethod.isSafe : HttpMethod → Bool
  | .get | .head | .options => true
  | .post => false

/-- The requests with a side effect, and all others by their path. -/
inductive ApiRequest (ι : Type) where
  | createOrder (order : OrderRequest ι)
  | cancelOrder (orderId : BrokerOrderId)
  | other (path : String)

/-- A field of a JSON object.  `other` is a text that is empty or means nothing here. -/
inductive JsonField (α : Type) where
  | missing
  | null
  | other
  | value (value : α)

/-- An order as the broker's JSON shows it. -/
structure OrderJson (ι : Type) where
  clientOrderId : JsonField ι := .missing
  orderId : JsonField BrokerOrderId := .missing
  /-- `symbol` or `stockCode`. -/
  symbol : Option Symbol := none
  side : JsonField Side := .missing
  quantity : JsonField Decimal := .missing

/-- The `result` field of an answer. -/
inductive JsonResult (ι : Type) where
  | missing
  | notObject
  | object (order : OrderJson ι)

/-- What `response.json()` makes of a body. -/
inductive JsonBody (ι : Type) where
  | notJson
  | notObject
  | object (result : JsonResult ι)

/-- A response, with what `_api_error` finds in its body and headers. -/
structure HttpResponse (ι : Type) where
  statusCode : ℕ
  body : JsonBody ι
  errorMessage : Option String := none
  errorCode : Option String := none
  requestId : Option String := none

/-- `response.ok`. -/
def HttpResponse.ok {ι : Type} (response : HttpResponse ι) : Bool :=
  !(decide (400 ≤ response.statusCode) && decide (response.statusCode < 600))

/-- How `session.request` ends. -/
inductive HttpOutcome (ι : Type) where
  | timeout
  | requestException
  | response (response : HttpResponse ι)

/-- The order `get_order` reads. -/
structure BrokerOrder (ι : Type) where
  json : OrderJson ι
  status : StatusText
  filledQuantity : ℤ
  averageFilledPrice : Option Decimal

/-! ## Questions -/

inductive Query (ι : Type) where
  | authenticate (force : Bool)
  | send (method : HttpMethod) (request : ApiRequest ι)
  | getOrder (orderId : BrokerOrderId)
  | buyingPower
  | price (symbol : AllocationSymbol)
  | now
  | regularSession
  /-- Whether `active_tp_plan` finds a row; the table is not part of the model. -/
  | activeTpPlan (symbol : EnabledSymbol)

def Answer {ι : Type} : Query ι → Type
  | .authenticate _ => Py Unit
  | .send _ _ => HttpOutcome ι
  | .getOrder _ => Py (BrokerOrder ι)
  | .buyingPower => Py Decimal
  | .price _ => Py Decimal
  | .now => Timestamp
  | .regularSession => Bool
  | .activeTpPlan _ => Bool

/-! ## The shared state -/

/-- What `_buy_is_safe_mode_blocked` reads. -/
structure SafeModeView where
  portfolioSafeMode : Option Bool
  /-- The state of the symbol's row of `positions`, when it is read. -/
  position : Option PositionState
deriving DecidableEq, Repr

/-- `_buy_is_safe_mode_blocked` on what it read. -/
def SafeModeView.blocked (view : SafeModeView) : Bool :=
  decide (view.portfolioSafeMode = some true) || decide (view.position = some .safeMode)

theorem SafeModeView.blocked_eq_false {view : SafeModeView} :
    view.blocked = false ↔ view.portfolioSafeMode ≠ some true ∧ view.position ≠ some .safeMode := by
  simp [SafeModeView.blocked]

/-- What the checks of a BUY section read besides the boundary keys. -/
structure BoundaryChecks where
  autoState : Option AutoState
  safeMode : SafeModeView
deriving DecidableEq, Repr

/-- What happens at the broker boundary. -/
inductive Event (τ ι : Type) where
  /-- `session.request` starts. -/
  | sent (thread : τ) (method : HttpMethod) (request : ApiRequest ι)
  /-- `session.request` ends. -/
  | answered (thread : τ) (request : ApiRequest ι) (outcome : HttpOutcome ι)
  /-- `place_order` starts, with the persisted keys of that instant.  A BUY comes
  with what its section checked. -/
  | placing (thread : τ) (request : OrderRequest ι) (system : SystemState)
      (checks : Option BoundaryChecks)
  /-- `halt()` or `quarantine()` shuts BUY inside its locked section. -/
  | closed (thread : τ)
  /-- `halt()` or `quarantine()` returns. -/
  | returned (thread : τ)
  /-- A resume or a release opens BUY inside its locked section. -/
  | reopened (thread : τ)

/-- The id of a row of `signals`. -/
abbrev SignalId := ℕ

/-- The texts written into `signals.status` here. -/
inductive SignalStatus where
  | active
  | processed
  | unknown
  | other (text : String)
deriving DecidableEq, Repr

/-- A row of `signals`. -/
structure Signal where
  status : SignalStatus := .active
  processed : Bool := false
deriving DecidableEq, Repr

structure World (τ ι : Type) where
  repo : Repository ι
  signals : SignalId → Signal := fun _ => {}
  log : List (Event τ ι) := []
  reservedBy : ι → Option τ := fun _ => none

namespace World

variable {τ ι : Type}

def record (world : World τ ι) (event : Event τ ι) : World τ ι :=
  { world with log := event :: world.log }

/-- The thread that inserted the row owns it. -/
def reserve [DecidableEq ι] (world : World τ ι) (self : τ) (clientOrderId : ι)
    (result : Repository ι × Bool) : World τ ι :=
  { world with
    repo := result.1
    reservedBy := if result.2 then Function.update world.reservedBy clientOrderId (some self)
      else world.reservedBy }

def setRepo (world : World τ ι) (repo : Repository ι) : World τ ι := { world with repo := repo }

def setSignal (world : World τ ι) (signalId : SignalId) (signal : Signal) : World τ ι :=
  { world with signals := Function.update world.signals signalId signal }

section Fields

variable (world : World τ ι) (event : Event τ ι) (repo : Repository ι) (signalId : SignalId)
  (signal : Signal)

@[simp] theorem record_repo : (world.record event).repo = world.repo := rfl
@[simp] theorem record_signals : (world.record event).signals = world.signals := rfl
@[simp] theorem record_log : (world.record event).log = event :: world.log := rfl
@[simp] theorem record_reservedBy : (world.record event).reservedBy = world.reservedBy := rfl
@[simp] theorem setRepo_repo : (world.setRepo repo).repo = repo := rfl
@[simp] theorem setRepo_signals : (world.setRepo repo).signals = world.signals := rfl
@[simp] theorem setRepo_log : (world.setRepo repo).log = world.log := rfl
@[simp] theorem setRepo_reservedBy : (world.setRepo repo).reservedBy = world.reservedBy := rfl
@[simp] theorem setSignal_repo : (world.setSignal signalId signal).repo = world.repo := rfl
@[simp] theorem setSignal_log : (world.setSignal signalId signal).log = world.log := rfl
@[simp] theorem setSignal_self : (world.setSignal signalId signal).signals signalId = signal := by
  simp [setSignal]
@[simp] theorem setSignal_reservedBy :
    (world.setSignal signalId signal).reservedBy = world.reservedBy := rfl

end Fields

end World

/-! ## Actions -/

/-- What the code of a thread does. -/
abbrev Action (τ ι : Type) : Type → Type := Proc (World τ ι) (Query ι) Answer PyError

variable {τ ι α : Type}

/-- A read of the database. -/
def readRepo (f : Repository ι → α) : Action τ ι α := Proc.read fun world => f world.repo

/-- `get_system_value`. -/
def getSystemValue (key : SystemState → α) : Action τ ι α := readRepo fun repo => key repo.system

/-- `set_system_value`. -/
def setSystemValue (set : SystemState → SystemState) : Action τ ι Unit :=
  Proc.modify fun world => world.setRepo (world.repo.setSystem (set world.repo.system))

/-- A transaction of the repository that returns a value. -/
def transact (f : Repository ι → Py (Repository ι × α)) : Action τ ι α :=
  Proc.transaction fun world => (f world.repo).map fun result =>
    (world.setRepo result.1, result.2)

/-- A transaction of the repository. -/
def onRepo (f : Repository ι → Py (Repository ι)) : Action τ ι Unit :=
  transact fun repo => (f repo).map fun repo' => (repo', ())

/-- A note in the ghost log. -/
def record (event : Event τ ι) : Action τ ι Unit := Proc.modify fun world => world.record event

/-- `mark_signal`. -/
def markSignal (signalId : SignalId) (status : SignalStatus) (processed : Bool) : Action τ ι Unit :=
  Proc.modify fun world => world.setSignal signalId { status := status, processed := processed }

section

variable [DecidableEq ι]

/-- `repository.update_order`. -/
def updateOrder (clientOrderId : ι) (update : OrderUpdate) : Action τ ι Unit :=
  onRepo fun repo => repo.updateOrder clientOrderId update

end

end JdHoldings
